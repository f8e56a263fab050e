import PathQuery.Unicode.Alphabetic

/-!
Regular expressions as trees over two kinds of leaves: one character out of a set, and a test of the
place between two characters. A leaf type of its own for each lets the same tree hold what was written
or what that means in one text.
-/
namespace PathQuery

inductive Regex (σ τ : Type) where
  | empty
  | one (set : σ)
  | test (place : τ)
  | sequence (first second : Regex σ τ)
  | alternative (first second : Regex σ τ)
  /-- At least `least` times the body, and at most `most` times more. -/
  | repeated (body : Regex σ τ) (least : Nat) (most : Option Nat)
  | group (captures : Bool) (body : Regex σ τ)

namespace Regex

variable {σ τ σ' τ' : Type}

/-- The same tree with other leaves. -/
def map (f : σ → σ') (g : τ → τ') : Regex σ τ → Regex σ' τ'
  | empty => empty
  | one set => one (f set)
  | test place => test (g place)
  | sequence a b => sequence (a.map f g) (b.map f g)
  | alternative a b => alternative (a.map f g) (b.map f g)
  | repeated a least most => repeated (a.map f g) least most
  | group captures a => group captures (a.map f g)

def ofSequence : List (Regex σ τ) → Regex σ τ
  | [] => empty
  | [a] => a
  | a :: b :: rest => sequence a (ofSequence (b :: rest))

def ofAlternatives : List (Regex σ τ) → Regex σ τ
  | [] => empty
  | [a] => a
  | a :: b :: rest => alternative a (ofAlternatives (b :: rest))

end Regex

abbrev CharSet := Char → Bool

/-- A test of the place between two characters. `unicode` says which characters make words. -/
inductive Boundary where
  | textStart
  | textEnd
  | lineStart
  | lineEnd
  /-- As `lineStart`, where a carriage return ends a line too. -/
  | anyLineStart
  | anyLineEnd
  | wordEdge (unicode : Bool)
  | noWordEdge (unicode : Bool)
  | wordStart (unicode : Bool)
  | wordEnd (unicode : Bool)
  | noWordBefore (unicode : Bool)
  | noWordAfter (unicode : Bool)
deriving DecidableEq, Repr

/-- A set of characters as it is written, with the depth to which its brackets are nested. -/
structure CharClass where
  set : CharSet
  nesting : Nat

namespace CharClass

/-- A set that is written without brackets. -/
def plain (set : CharSet) : CharClass := ⟨set, 0⟩

end CharClass

/-- A regular expression as it is written. -/
abbrev Expression := Regex CharClass Boundary

namespace CharSet

def single (c : Char) : CharSet := fun d => d = c

def range (first last : Char) : CharSet := fun c => first ≤ c && c ≤ last

def ofRanges (pairs : List (Char × Char)) : CharSet := fun c =>
  pairs.any fun pair => pair.1 ≤ c && c ≤ pair.2

def asciiWord : CharSet := ofRanges [('0', '9'), ('A', 'Z'), ('_', '_'), ('a', 'z')]

/-- Letters, marks, decimal digits, connectors and the two joiners. -/
def unicodeWord : CharSet := fun c =>
  Unicode.isAlphabetic c || Unicode.inCategories Unicode.Category.marks c ||
    Unicode.inCategories [.decimalNumber, .connectorPunctuation] c || c = '\u200c' || c = '\u200d'

def word (unicode : Bool) : CharSet := if unicode then unicodeWord else asciiWord

end CharSet

namespace Boundary

/-- Whether the place between two characters passes the test; at the ends of the text one is missing. -/
def holds (before after : Option Char) : Boundary → Bool
  | textStart => before.isNone
  | textEnd => after.isNone
  | lineStart => before.isNone || before = some '\n'
  | lineEnd => after.isNone || after = some '\n'
  | anyLineStart =>
    before.isNone || before = some '\n' || (before = some '\r' && after ≠ some '\n')
  | anyLineEnd => after.isNone || after = some '\r' || (after = some '\n' && before ≠ some '\r')
  | wordEdge unicode => before.any (CharSet.word unicode) != after.any (CharSet.word unicode)
  | noWordEdge unicode => before.any (CharSet.word unicode) == after.any (CharSet.word unicode)
  | wordStart unicode => !before.any (CharSet.word unicode) && after.any (CharSet.word unicode)
  | wordEnd unicode => before.any (CharSet.word unicode) && !after.any (CharSet.word unicode)
  | noWordBefore unicode => !before.any (CharSet.word unicode)
  | noWordAfter unicode => !after.any (CharSet.word unicode)

end Boundary
end PathQuery
