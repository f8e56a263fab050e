/-!
What a reader takes from the front of a text. The rest is carried with a proof that it is shorter, or
not longer, so that readers can call each other and still be seen to end.
-/
namespace PathQuery

structure Taken (text : List Char) (α : Type) where
  value : α
  rest : List Char
  shorter : rest.length < text.length

namespace Taken

/-- The same reading, seen as one of a longer text. -/
def widen {text longer : List Char} {α : Type} (t : Taken text α) (h : text.length ≤ longer.length) :
    Taken longer α :=
  ⟨t.value, t.rest, Nat.lt_of_lt_of_le t.shorter h⟩

theorem shorter_cons {text : List Char} {α : Type} (t : Taken text α) (c : Char) :
    t.rest.length < (c :: text).length :=
  Nat.lt_succ_of_lt t.shorter

end Taken

theorem length_lt_cons (c : Char) (text : List Char) : text.length < (c :: text).length :=
  Nat.lt_succ_self _

/-- What follows the first character of a text that is not longer than `s` is shorter than `s`. -/
theorem lt_of_eq_cons {s t rest : List Char} {c : Char} (le : t.length ≤ s.length)
    (h : t = c :: rest) : rest.length < s.length := by
  subst h
  exact le

/-- A reading that may have taken nothing. -/
structure Reading (text : List Char) (α : Type) where
  value : α
  rest : List Char
  le : rest.length ≤ text.length

/-- A reading that took nothing. -/
def Reading.nothing {text : List Char} {α : Type} (value : α) : Reading text α :=
  ⟨value, text, Nat.le_refl _⟩

def utf8Length (cs : List Char) : Nat := cs.foldl (fun n c => n + c.utf8Size) 0

end PathQuery
