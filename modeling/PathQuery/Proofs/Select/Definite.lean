import PathQuery.Proofs.Document.Tree
import PathQuery.Proofs.Select.Row

/-! Definite paths: every step picks the property of one name or the item at one position. Such a path has at
most one way to go, so it selects the node at the end of the way, or else misses at one step, which is what
the error says if a miss is an error. -/
namespace PathQuery

/-- What a definite step picks from a node. -/
inductive Pick where
  | name (name : String)
  | position (index : Int32)

def Pick.step : Pick → Step
  | name s => .member (some s)
  | position i => .item (some i)

namespace Document

/-- Where a pick leads. Nothing is at a negative position. -/
def pick? (doc : Document) (n : Nat) : Pick → Option Nat
  | .name s => doc.get? n s
  | .position i => if i.toInt < 0 then none else doc.item? n i.toInt.toNat

/-- Where picks lead one after the other. -/
def follow? (doc : Document) (picks : List Pick) (n : Nat) : Option Nat := picks.foldlM doc.pick? n

/-- The error for a pick that leads nowhere from a node: another one where the pick could have led somewhere
than where no such pick can. -/
def missed (doc : Document) (n : Nat) (pick : Pick) : SelectError :=
  let location : Location := ⟨doc.placeText n, doc.line? n⟩
  match pick with
  | .name s =>
    if doc.isObject n then .noProperty s location
    else .propertyNotValid (some s) (doc.nodeType n) location
  | .position i =>
    if doc.isIndexable n then .indexOutOfBounds i (doc.nodeType n) location
    else .indexNotValid (some i) (doc.nodeType n) location

end Document

open Select

section Picks

variable (doc : Document) (root : Nat) (strict : Bool)

theorem Pick.select_step (pick : Pick) (n : Nat) :
    pick.step.select doc root strict [.ok n] =
      match doc.pick? n pick with
      | some m => [.ok m]
      | none => noMatch strict (doc.missed n pick) := by
  cases pick with
  | name s =>
    rw [step, Step.select, each_ok, each_nil, List.append_nil, member, Document.pick?, Document.missed]
    cases found : doc.get? n s with
    | some v => simp [Document.isObject_of_get found]
    | none => by_cases object : doc.isObject n <;> simp [object, Document.location]
  | position i =>
    have same : position? doc n i = doc.pick? n (.position i) := rfl
    rw [step, Step.select, each_ok, each_nil, List.append_nil, item, same, Document.missed]
    cases found : doc.pick? n (.position i) with
    | some c =>
      have indexable : doc.isIndexable n = true := by
        rw [Document.pick?] at found
        split at found
        · cases found
        · exact Document.isIndexable_of_item found
      simp [indexable]
    | none => by_cases indexable : doc.isIndexable n <;> simp [indexable, Document.location]

/-- Behind a miss there is no node to pick from, and its error is passed on. -/
theorem selectSteps_noMatch (picks : List Pick) (e : SelectError) :
    selectSteps doc root strict (picks.map Pick.step) (noMatch strict e) = noMatch strict e := by
  induction picks with
  | nil => rfl
  | cons pick picks ih =>
    have passed : pick.step.select doc root strict (noMatch strict e) = noMatch strict e := by
      cases pick <;> cases strict <;> rfl
    rw [List.map_cons, selectSteps, passed, ih]

/-- One pick after the other, until one leads nowhere. -/
theorem selectSteps_picks (picks : List Pick) (n : Nat) :
    (∃ m, doc.follow? picks n = some m ∧
      ∀ strict, selectSteps doc root strict (picks.map Pick.step) [.ok n] = [.ok m]) ∨
    (∃ before pick after m, picks = before ++ pick :: after ∧ doc.follow? before n = some m ∧
      doc.pick? m pick = none ∧
      ∀ strict, selectSteps doc root strict (picks.map Pick.step) [.ok n] =
        noMatch strict (doc.missed m pick)) := by
  induction picks generalizing n with
  | nil => exact .inl ⟨n, rfl, fun _ => rfl⟩
  | cons pick picks ih =>
    cases found : doc.pick? n pick with
    | none =>
      refine .inr ⟨[], pick, picks, n, rfl, rfl, found, fun strict => ?_⟩
      rw [List.map_cons, selectSteps, Pick.select_step, found]
      exact selectSteps_noMatch doc root strict picks _
    | some v =>
      have follow (picks : List Pick) : doc.follow? (pick :: picks) n = doc.follow? picks v := by
        simp [Document.follow?, found]
      have select (strict : Bool) :
          selectSteps doc root strict ((pick :: picks).map Pick.step) [.ok n] =
            selectSteps doc root strict (picks.map Pick.step) [.ok v] := by
        rw [List.map_cons, selectSteps, Pick.select_step, found]
      simp only [select]
      rcases ih v with ⟨m, reached, selected⟩ | ⟨before, miss, after, m, rfl, reached, none, selected⟩
      · exact .inl ⟨m, (follow picks).trans reached, selected⟩
      · exact .inr ⟨pick :: before, miss, after, m, rfl, (follow before).trans reached, none, selected⟩

end Picks

/-- A definite path selects the one node to which its picks lead. Otherwise there is a first pick that leads
nowhere, and the path selects nothing, or if a miss is an error, the error for this pick and nothing else. -/
theorem Path.evaluate_definite (doc : Document) (picks : List Pick) (root start : Nat) :
    let selected := evaluate doc ⟨picks.map Pick.step⟩ root start
    (∃ m, doc.follow? picks start = some m ∧ selected true = [.ok m] ∧ selected false = [.ok m]) ∨
    (∃ before pick after m, picks = before ++ pick :: after ∧ doc.follow? before start = some m ∧
      doc.pick? m pick = none ∧ selected true = [.error (doc.missed m pick)] ∧
      selected false = []) := by
  rcases selectSteps_picks doc root picks start with
    ⟨m, reached, selected⟩ | ⟨before, pick, after, m, split, reached, none, selected⟩
  · exact .inl ⟨m, reached, selected true, selected false⟩
  · exact .inr ⟨before, pick, after, m, split, reached, none, selected true, selected false⟩

end PathQuery
