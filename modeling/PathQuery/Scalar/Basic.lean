import PathQuery.Decimal.Layout
import PathQuery.Scalar.Guid
import PathQuery.Scalar.TimeSpan
import PathQuery.Scalar.Timestamp
import PathQuery.Text.Base64

/-!
The primitive values that leaves of a document hold: the JSON scalars and five richer types. The text
of a value is its plain display; the five richer types also have it as their string form in
comparisons with strings.
-/
namespace PathQuery

inductive Scalar where
  | null
  | boolean (b : Bool)
  | integer (i : Int64)
  | double (x : Double)
  | string (s : String)
  | date (t : Timestamp)
  | bytes (bs : List UInt8)
  | guid (g : Guid)
  | uri (s : String)
  | timeSpan (t : TimeSpan)
deriving DecidableEq, Repr

namespace Scalar

def typeName : Scalar → String
  | null => "null"
  | boolean _ => "boolean"
  | integer _ => "integer"
  | double _ => "float"
  | string _ => "string"
  | date _ => "date"
  | bytes _ => "bytes"
  | guid _ => "guid"
  | uri _ => "uri"
  | timeSpan _ => "timespan"

def isNull : Scalar → Bool
  | null => true
  | _ => false

def asBool? : Scalar → Option Bool
  | boolean b => some b
  | _ => none

def asInteger? : Scalar → Option Int64
  | integer i => some i
  | _ => none

/-- Both kinds of number, integers rounded to the nearest double. -/
def asDouble? : Scalar → Option Double
  | integer i => some (.ofInt i.toInt)
  | double x => some x
  | _ => none

def asString? : Scalar → Option String
  | string s => some s
  | _ => none

/-- Doubles are displayed with the fewest digits that identify them, positionally from 10^-4 up to
10^16; of two equally near candidates the larger is taken. -/
def displayLayout : Layout := ⟨-4, 16, false, .up⟩

def doubleText : Double → String
  | .nan => "NaN"
  | .number negative rank =>
    let magnitude := if rank.val = infinityRank then ['i', 'n', 'f'] else displayLayout.ofMagnitude rank
    String.ofList (Layout.signed negative magnitude)

/-- The string form of the types that JSON does not have. -/
def stringForm? : Scalar → Option String
  | date t => some t.text
  | bytes bs => some (String.ofList (Base64.encode bs))
  | guid g => some g.text
  | uri s => some s
  | timeSpan t => some t.text
  | _ => none

def text : Scalar → String
  | null => "null"
  | boolean b => if b then "true" else "false"
  | integer i => Numeral.intText i.toInt
  | double x => doubleText x
  | string s => s
  | v => v.stringForm?.getD ""

end Scalar
end PathQuery
