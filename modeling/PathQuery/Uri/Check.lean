import PathQuery.Scalar.Basic
import PathQuery.Uri.Host

/-!
Which texts are absolute URIs, as far as their scheme, host and port decide it. Control characters and
spaces around the text do not count, nor do tabs and line ends anywhere in it.
-/
namespace PathQuery

inductive UriError where
  | relative
  | emptyHost
  | invalidPort
  | invalidIpv4
  | invalidIpv6
deriving DecidableEq, Repr

def UriError.message : UriError → String
  | relative => "relative URL without a base"
  | emptyHost => "empty host"
  | invalidPort => "invalid port number"
  | invalidIpv4 => "invalid IPv4 address"
  | invalidIpv6 => "invalid IPv6 address"

namespace Uri

def isOuterBlank (c : Char) : Bool := c.toNat ≤ 32

def isIgnored (c : Char) : Bool := c = '\t' || c = '\n' || c = '\r'

def essential (cs : List Char) : List Char :=
  (((cs.dropWhile isOuterBlank).reverse.dropWhile isOuterBlank).reverse).filter (!isIgnored ·)

def isSchemeChar (c : Char) : Bool := c.isAlphanum || c = '+' || c = '-' || c = '.'

/-- The scheme in lower case and what follows its colon. -/
def scheme? (cs : List Char) : Option (String × List Char) :=
  if cs.head?.any Char.isAlpha then
    match cs.dropWhile isSchemeChar with
    | ':' :: rest => some (String.ofList ((cs.takeWhile isSchemeChar).map Char.toLower), rest)
    | _ => none
  else none

/-- The schemes that require a host and take backslashes for slashes. -/
def isHostScheme (scheme : String) : Bool := ["http", "https", "ws", "wss", "ftp"].contains scheme

def isSlash (c : Char) : Bool := c = '/' || c = '\\'

/-- A character that full-width forms and other full stops stand for. -/
def narrow (c : Char) : Char :=
  if 0xFF01 ≤ c.toNat ∧ c.toNat ≤ 0xFF5E then Char.ofNat (c.toNat - 0xFEE0)
  else if c = '\u3002' ∨ c = '\uff61' then '.'
  else c

/-- A host with its escapes of two hexadecimal digits resolved. -/
def decoded : List Char → List Char
  | '%' :: a :: b :: rest =>
    match hexDigit? a, hexDigit? b with
    | some x, some y => Char.ofNat (16 * x + y) :: decoded rest
    | _, _ => '%' :: decoded (a :: b :: rest)
  | c :: rest => narrow c :: decoded rest
  | [] => []

/-- A host in brackets must be an IPv6 address, and of a scheme that requires a host, one that ends in
a number must be an IPv4 address. -/
def checkHost (hostScheme : Bool) (host : List Char) : Except UriError Unit :=
  match host with
  | '[' :: inner =>
    if inner.getLast? = some ']' ∧ isIpv6 inner.dropLast then .ok () else .error .invalidIpv6
  | _ =>
    if hostScheme ∧ endsInNumber (decoded host) ∧ !isIpv4 (decoded host) then .error .invalidIpv4
    else .ok ()

/-- The host at the front of a text up to a colon outside brackets, and the rest. -/
def splitHost (bracketed : Bool) : List Char → List Char × List Char
  | [] => ([], [])
  | c :: cs =>
    if c = ':' ∧ !bracketed then ([], c :: cs)
    else
      let inner := if c = '[' then true else if c = ']' then false else bracketed
      let (host, rest) := splitHost inner cs
      (c :: host, rest)

/-- The port behind a colon: digits of a number below 2^16, up to the path. -/
def checkPort (cs : List Char) : Except UriError Unit :=
  let after := cs.dropWhile Numeral.isDigit
  if power 2 16 ≤ Numeral.ofDigits (cs.takeWhile Numeral.isDigit) then .error .invalidPort
  else if after.isEmpty || after.head?.any isSlash then .ok ()
  else .error .invalidPort

/-- What stands behind the last `@`, if there is one, and before it. -/
def splitUser? (cs : List Char) : Option (List Char × List Char) :=
  match cs.reverse.dropWhile (· ≠ '@') with
  | [] => none
  | _ :: user => some (user.reverse, (cs.reverse.takeWhile (· ≠ '@')).reverse)

/-- The part behind two slashes up to the path. -/
def checkAuthority (hostScheme : Bool) (cs : List Char) : Except UriError Unit :=
  let isEnd (c : Char) : Bool := c = '/' || c = '?' || c = '#' || (hostScheme && c = '\\')
  let authority := cs.takeWhile (!isEnd ·)
  let continues := authority.length < cs.length
  let (user, hostAndPort) := (splitUser? authority).getD ([], authority)
  let bareAt := (splitUser? authority).isSome && user.isEmpty
  let (host, port) := splitHost false hostAndPort
  if bareAt ∧ hostAndPort.isEmpty ∧ continues then .error .emptyHost
  else if host.isEmpty ∧ (hostScheme ∨ !port.isEmpty) then .error .emptyHost
  else do
    checkHost hostScheme host
    if port.isEmpty then pure () else checkPort (port.drop 1)
    if host.isEmpty ∧ user ≠ [] ∧ user ≠ [':'] then .error .emptyHost

/-- The host of a file, which may be missing or a drive letter. -/
def checkFile (cs : List Char) : Except UriError Unit :=
  match cs with
  | a :: b :: rest =>
    if isSlash a ∧ isSlash b then
      let host := rest.takeWhile fun c => !(isSlash c || c = '?' || c = '#')
      let isDrive := host.length = 2 && host.head?.any Char.isAlpha && (host.drop 1).all fun c => c = ':' || c = '|'
      if host.isEmpty ∨ isDrive then .ok () else checkHost true host
    else .ok ()
  | _ => .ok ()

def check (cs : List Char) : Except UriError Unit :=
  match scheme? (essential cs) with
  | none => .error .relative
  | some (scheme, rest) =>
    if scheme = "file" then checkFile rest
    else if isHostScheme scheme then checkAuthority true (rest.dropWhile isSlash)
    else
      match rest with
      | '/' :: '/' :: authority => checkAuthority false authority
      | _ => .ok ()

end Uri

/-- The value of a URI, which keeps the text as it is. -/
def Scalar.ofUri (text : String) : Except UriError Scalar :=
  (Uri.check text.toList).map fun _ => .uri text

end PathQuery
