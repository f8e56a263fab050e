import Mathlib
import PathQuery.Proofs.Select.Pair
import PathQuery.Proofs.Select.Row

/-! What conditions mean. They are evaluated from left to right and only as far as needed; their truth says
nothing of order: all members, some member, some operand, some pair of operands. The two agree wherever the
paths in a condition have no errors and the patterns that are tried can be compiled. -/
namespace PathQuery

/-- The operands that a side of a comparison stands for, in their order: itself, or the nodes that its path
leads to without an error. -/
inductive Term.Yields (doc : Document) (root n : Nat) : Term → List Operand → Prop where
  | literal (v : Scalar) : Yields doc root n (.literal v) [.literal v]
  | pattern (p : Pattern) : Yields doc root n (.pattern p) [.pattern p]
  | path {steps : List Step} {nodes : List Nat}
      (found : Path.evaluate doc ⟨steps⟩ root n false = nodes.map .ok) :
      Yields doc root n (.path steps) (nodes.map .node)

namespace Condition

variable (doc : Document) (root n : Nat)

/-- A condition is true of the node `n`. -/
inductive Means : Condition → Prop where
  | present {relation : Relation} {left : Term} {l : Operand} {ls : List Operand}
      (lefts : left.Yields doc root n ls) (here : l ∈ ls) : Means (compare relation left none)
  | pair {relation : Relation} {left right : Term} {l r : Operand} {ls rs : List Operand}
      (lefts : left.Yields doc root n ls) (rights : right.Yields doc root n rs) (onLeft : l ∈ ls)
      (onRight : r ∈ rs) (links : relation.Links doc l r) : Means (compare relation left (some right))
  | all {members : List Condition} (every : ∀ m ∈ members, Means m) : Means (compound .all members)
  | any {members : List Condition} {m : Condition} (mem : m ∈ members) (holds : Means m) :
      Means (compound .any members)

/-- The pattern is looked for at some point. Pairs of operands are gone through until one matches, and
members up to the first that decides. -/
inductive Tries : Condition → Pattern → Prop where
  | pair {left right : Term} {l r : Operand} {p : Pattern} {s : String}
      {before after before' after' : List Operand}
      (lefts : left.Yields doc root n (before ++ l :: after))
      (rights : right.Yields doc root n (before' ++ r :: after'))
      (passed : ∀ k ∈ before, ∀ q ∈ before' ++ r :: after', ¬Relation.Links doc k q .matching)
      (passed' : ∀ q ∈ before', ¬Relation.Links doc l q .matching)
      (text : l.Denotes doc (.string s)) (pattern : r.Spells doc p) :
      Tries (compare .matching left (some right)) p
  | allHere {m : Condition} {members : List Condition} {p : Pattern} (tries : Tries m p) :
      Tries (compound .all (m :: members)) p
  | allBehind {m : Condition} {members : List Condition} {p : Pattern} (passed : m.Means doc root n)
      (tries : Tries (compound .all members) p) : Tries (compound .all (m :: members)) p
  | anyHere {m : Condition} {members : List Condition} {p : Pattern} (tries : Tries m p) :
      Tries (compound .any (m :: members)) p
  | anyBehind {m : Condition} {members : List Condition} {p : Pattern} (passed : ¬m.Means doc root n)
      (tries : Tries (compound .any members) p) : Tries (compound .any (m :: members)) p

end Condition

mutual

/-- The sides of all comparisons in a condition. -/
def Condition.terms : Condition → List Term
  | .compare _ left right => left :: right.toList
  | .compound _ members => membersTerms members

def membersTerms : List Condition → List Term
  | [] => []
  | member :: members => member.terms ++ membersTerms members

end

namespace Select

/-- The evaluation succeeds, and its outcome is the truth of the proposition. -/
def Decides (r : Except SelectError Bool) (truth : Prop) : Prop := ∃ b, r = .ok b ∧ (b = true ↔ truth)

section Decides

theorem decides_ok {b : Bool} {truth : Prop} (same : b = true ↔ truth) : Decides (.ok b) truth :=
  ⟨b, rfl, same⟩

theorem Decides.congr {r : Except SelectError Bool} {p q : Prop} (decides : Decides r p) (same : p ↔ q) :
    Decides r q := by
  obtain ⟨b, outcome, truth⟩ := decides
  exact ⟨b, outcome, truth.trans same⟩

/-- Evaluations of equal truth have one outcome. -/
theorem Decides.unique {r r' : Except SelectError Bool} {p q : Prop} (decides : Decides r p)
    (decides' : Decides r' q) (same : p ↔ q) : r = r' := by
  obtain ⟨b, rfl, truth⟩ := decides
  obtain ⟨c, rfl, truth'⟩ := decides'
  rw [Bool.eq_iff_iff.mpr (truth.trans (same.trans truth'.symm))]

variable {α : Type} {test : α → Except SelectError Bool} {P : α → Prop}

/-- A search that stops at the first hit. Only what is reached has to be decided. -/
theorem anyM_decides {as : List α} (reached : ∀ before a after, as = before ++ a :: after →
    (∀ b ∈ before, ¬P b) → Decides (test a) (P a)) : Decides (as.anyM test) (∃ a ∈ as, P a) := by
  induction as with
  | nil => exact decides_ok (by simp)
  | cons a as ih =>
    obtain ⟨b, outcome, truth⟩ := reached [] a as rfl (by simp)
    rw [List.anyM_cons, outcome]
    cases b with
    | true => exact decides_ok (by simp [truth.mp rfl])
    | false =>
      have missed : ¬P a := fun hit => Bool.false_ne_true (truth.mpr hit)
      have rest := ih fun before c after split passed =>
        reached (a :: before) c after (by rw [split]; rfl) (List.forall_mem_cons.mpr ⟨missed, passed⟩)
      exact rest.congr (by simp [missed])

end Decides

/-- A row without errors is a row of values. -/
theorem exists_values {α : Type} {items : List (Except SelectError α)} (sound : ∀ e, .error e ∉ items) :
    ∃ values : List α, items = values.map .ok := by
  induction items with
  | nil => exact ⟨[], rfl⟩
  | cons item items ih =>
    obtain ⟨values, rfl⟩ := ih fun e mem => sound e (List.mem_cons_of_mem item mem)
    cases item with
    | ok a => exact ⟨a :: values, rfl⟩
    | error e => exact absurd List.mem_cons_self (sound e)

section Pairs

variable {doc : Document} {left right : Operand}

/-- Only a pattern that has to be compiled can fail. -/
theorem matchesPattern_decides {p : Pattern} (pattern : right.pattern? doc = some p)
    (compiles : ∀ s, left.value? doc = some (.string s) → p.compile?.isSome = true) :
    Decides (matchesPattern (left.value? doc) p) (Relation.Links doc left right .matching) := by
  unfold matchesPattern
  split
  · rename_i s text
    obtain ⟨regex, compiled⟩ := Option.isSome_iff_exists.mp (compiles s text)
    rw [compiled]
    exact decides_ok (by simp [Relation.links_matching_iff, text, pattern, compiled])
  · rename_i other
    refine decides_ok (iff_of_false Bool.false_ne_true ?_)
    rw [Relation.links_matching_iff]
    rintro ⟨s, _, _, text, _⟩
    exact other s text

theorem holds_decides {relation : Relation}
    (compiles : relation = .matching → ∀ s, left.Denotes doc (.string s) →
      ∀ p, right.Spells doc p → p.compile?.isSome = true) :
    Decides (relation.holds doc left right) (relation.Links doc left right) := by
  unfold Relation.holds
  by_cases matching : relation = .matching
  · subst matching
    rw [if_pos rfl]
    split
    · rename_i p pattern
      refine matchesPattern_decides pattern fun s text => ?_
      exact compiles rfl s (Operand.denotes_iff.mpr text) p (Operand.spells_iff.mpr pattern)
    · rename_i none
      exact decides_ok (by simp [Relation.links_matching_iff, none])
  · rw [if_neg matching]
    split
    · rename_i l r leftValue rightValue
      exact decides_ok (Relation.holdsFor_iff.trans
        (Relation.links_values_iff matching leftValue rightValue).symm)
    · rename_i container
      refine decides_ok (relation.holdsForContainer_iff.trans
        (Relation.links_container_iff matching ?_).symm)
      cases leftValue : left.value? doc with
      | none => exact .inl rfl
      | some l =>
        cases rightValue : right.value? doc with
        | none => exact .inr rfl
        | some r => exact absurd rightValue (container l r leftValue)

end Pairs

section Rows

variable {doc : Document} {relation : Relation}

theorem anyM_map_ok {α : Type} (test : α → Except SelectError Bool) (as : List α) :
    (as.map Except.ok).anyM (fun item => item >>= test) = as.anyM test := by
  induction as with
  | nil => rfl
  | cons a as ih =>
    rw [List.map_cons, List.anyM_cons, List.anyM_cons, ih]
    rfl

/-- Without errors two rows are searched for a pair and nothing else. -/
theorem anyPair_values (ls rs : List Operand) :
    anyPair doc relation (ls.map .ok) (rs.map .ok) =
      ls.anyM fun l => rs.anyM fun r => relation.holds doc l r := by
  rw [anyPair, collect_map_ok]
  cases ls with
  | nil => rfl
  | cons l ls => exact anyM_map_ok (fun l => rs.anyM fun r => relation.holds doc l r) (l :: ls)

/-- All operands on the left are held against all on the right, up to the first pair that the relation
links. -/
theorem anyPair_decides {ls rs : List Operand}
    (compiles : relation = .matching → ∀ before l after before' r after',
      ls = before ++ l :: after → rs = before' ++ r :: after' →
      (∀ k ∈ before, ∀ q ∈ rs, ¬relation.Links doc k q) → (∀ q ∈ before', ¬relation.Links doc l q) →
      ∀ s, l.Denotes doc (.string s) → ∀ p, r.Spells doc p → p.compile?.isSome = true) :
    Decides (anyPair doc relation (ls.map .ok) (rs.map .ok))
      (∃ l ∈ ls, ∃ r ∈ rs, relation.Links doc l r) := by
  rw [anyPair_values]
  apply anyM_decides
  intro before l after split passed
  apply anyM_decides
  intro before' r after' split' passed'
  apply holds_decides
  intro matching
  refine compiles matching before l after before' r after' split split' ?_ passed'
  intro k mem q here links
  exact passed k mem ⟨q, here, links⟩

end Rows
end Select

open Select

variable {doc : Document} {root n : Nat}

namespace Term

theorem ok_injective : Function.Injective (List.map (Except.ok : Operand → Except SelectError Operand)) :=
  List.map_injective_iff.mpr fun _ _ => Except.ok.inj

theorem yields_iff {term : Term} {row : List Operand} :
    term.Yields doc root n row ↔ term.operands doc root n = row.map .ok := by
  constructor
  · intro yields
    cases yields with
    | literal | pattern =>
      rw [operands]
      rfl
    | path found =>
      rw [Path.evaluate] at found
      rw [operands, found, List.map_map, List.map_map]
      rfl
  · intro same
    cases term with
    | literal v =>
      rw [operands] at same
      obtain rfl : [.literal v] = row := ok_injective same
      exact .literal v
    | pattern p =>
      rw [operands] at same
      obtain rfl : [.pattern p] = row := ok_injective same
      exact .pattern p
    | path steps =>
      rw [operands] at same
      have sound : ∀ e, .error e ∉ selectSteps doc root false steps [.ok n] := by
        intro e wrong
        have mapped : .error e ∈ row.map Except.ok := same ▸ List.mem_map.mpr ⟨_, wrong, rfl⟩
        simp at mapped
      obtain ⟨nodes, found⟩ := exists_values sound
      rw [found, List.map_map] at same
      obtain rfl : nodes.map .node = row := ok_injective (by rw [← same, List.map_map]; rfl)
      exact .path found

/-- A side stands for one row of operands. -/
theorem Yields.unique {term : Term} {row row' : List Operand} (yields : term.Yields doc root n row)
    (yields' : term.Yields doc root n row') : row' = row :=
  ok_injective ((yields_iff.mp yields').symm.trans (yields_iff.mp yields))

theorem exists_yields {term : Term} (sound : ∀ e, .error e ∉ term.operands doc root n) :
    ∃ row, term.Yields doc root n row := by
  obtain ⟨row, same⟩ := exists_values sound
  exact ⟨row, yields_iff.mpr same⟩

end Term

namespace Condition

theorem means_present_iff {relation : Relation} {left : Term} {ls : List Operand}
    (lefts : left.Yields doc root n ls) : (compare relation left none).Means doc root n ↔ ∃ l, l ∈ ls := by
  constructor
  · intro means
    cases means with
    | present lefts' here => exact ⟨_, lefts.unique lefts' ▸ here⟩
  · rintro ⟨l, here⟩
    exact .present lefts here

theorem means_pair_iff {relation : Relation} {left right : Term} {ls rs : List Operand}
    (lefts : left.Yields doc root n ls) (rights : right.Yields doc root n rs) :
    (compare relation left (some right)).Means doc root n ↔
      ∃ l ∈ ls, ∃ r ∈ rs, relation.Links doc l r := by
  constructor
  · intro means
    cases means with
    | pair lefts' rights' onLeft onRight links =>
      exact ⟨_, lefts.unique lefts' ▸ onLeft, _, rights.unique rights' ▸ onRight, links⟩
  · rintro ⟨l, onLeft, r, onRight, links⟩
    exact .pair lefts rights onLeft onRight links

theorem means_all_iff {members : List Condition} :
    (compound .all members).Means doc root n ↔ ∀ m ∈ members, m.Means doc root n := by
  constructor
  · rintro ⟨⟩
    assumption
  · exact .all

theorem means_any_iff {members : List Condition} :
    (compound .any members).Means doc root n ↔ ∃ m ∈ members, m.Means doc root n := by
  constructor
  · intro means
    cases means with
    | any mem holds => exact ⟨_, mem, holds⟩
  · rintro ⟨m, mem, holds⟩
    exact .any mem holds

/-- A pattern that is tried stands on the right of a match. -/
theorem exists_operand_of_tries {relation : Relation} {left right : Term} {p : Pattern}
    (tries : (compare relation left (some right)).Tries doc root n p) :
    relation = .matching ∧ ∃ rs, right.Yields doc root n rs ∧ ∃ r ∈ rs, r.Spells doc p := by
  cases tries with
  | pair _ rights _ _ _ pattern =>
    exact ⟨rfl, _, rights, _, List.mem_append_right _ List.mem_cons_self, pattern⟩

theorem present_decides {relation : Relation} {left : Term} {ls : List Operand}
    (lefts : left.Yields doc root n ls) :
    Decides ((compare relation left none).holds doc root n)
      ((compare relation left none).Means doc root n) := by
  rw [holds, means_present_iff lefts, Term.yields_iff.mp lefts]
  cases ls with
  | nil => exact decides_ok (by simp)
  | cons l ls => exact decides_ok (by simp)

theorem pair_decides {relation : Relation} {left right : Term} {ls rs : List Operand}
    (lefts : left.Yields doc root n ls) (rights : right.Yields doc root n rs)
    (compiles : ∀ p, (compare relation left (some right)).Tries doc root n p → p.compile?.isSome = true) :
    Decides ((compare relation left (some right)).holds doc root n)
      ((compare relation left (some right)).Means doc root n) := by
  rw [holds, means_pair_iff lefts rights, Term.yields_iff.mp lefts, Term.yields_iff.mp rights]
  apply anyPair_decides
  rintro rfl before l after before' r after' rfl rfl passed passed' s text p pattern
  exact compiles p (.pair lefts rights passed passed' text pattern)

end Condition

mutual

/-- By recursion on the members: the first of them that decides is reached, and those behind it are not. -/
theorem Condition.truth_decides (condition : Condition)
    (paths : ∀ term ∈ condition.terms, ∃ row, term.Yields doc root n row)
    (patterns : ∀ p, condition.Tries doc root n p → p.compile?.isSome = true) :
    Decides (condition.holds doc root n) (condition.Means doc root n) := by
  match condition with
  | .compare relation left none =>
    obtain ⟨ls, lefts⟩ := paths left List.mem_cons_self
    exact Condition.present_decides lefts
  | .compare relation left (some right) =>
    obtain ⟨ls, lefts⟩ := paths left List.mem_cons_self
    obtain ⟨rs, rights⟩ := paths right (List.mem_cons_of_mem left List.mem_cons_self)
    exact Condition.pair_decides lefts rights patterns
  | .compound .all members =>
    rw [Condition.holds, Condition.means_all_iff]
    exact allHold_decides members paths patterns
  | .compound .any members =>
    rw [Condition.holds, Condition.means_any_iff]
    exact anyHolds_decides members paths patterns

theorem allHold_decides (members : List Condition)
    (paths : ∀ term ∈ membersTerms members, ∃ row, term.Yields doc root n row)
    (patterns : ∀ p, (Condition.compound .all members).Tries doc root n p → p.compile?.isSome = true) :
    Decides (allHold doc root members n) (∀ m ∈ members, m.Means doc root n) := by
  cases members with
  | nil => exact decides_ok (by simp)
  | cons member members =>
    rw [membersTerms] at paths
    obtain ⟨b, outcome, truth⟩ := Condition.truth_decides member
      (fun term inside => paths term (List.mem_append_left _ inside))
      fun p tries => patterns p (.allHere tries)
    rw [allHold, outcome]
    cases b with
    | false => exact decides_ok (by simp [← truth])
    | true =>
      have first := truth.mp rfl
      have rest := allHold_decides members (fun term inside => paths term (List.mem_append_right _ inside))
        fun p tries => patterns p (.allBehind first tries)
      exact rest.congr (by simp [first])

theorem anyHolds_decides (members : List Condition)
    (paths : ∀ term ∈ membersTerms members, ∃ row, term.Yields doc root n row)
    (patterns : ∀ p, (Condition.compound .any members).Tries doc root n p → p.compile?.isSome = true) :
    Decides (anyHolds doc root members n) (∃ m ∈ members, m.Means doc root n) := by
  cases members with
  | nil => exact decides_ok (by simp)
  | cons member members =>
    rw [membersTerms] at paths
    obtain ⟨b, outcome, truth⟩ := Condition.truth_decides member
      (fun term inside => paths term (List.mem_append_left _ inside))
      fun p tries => patterns p (.anyHere tries)
    rw [anyHolds, outcome]
    cases b with
    | true => exact decides_ok (by simp [truth.mp rfl])
    | false =>
      have first : ¬member.Means doc root n := fun hit => Bool.false_ne_true (truth.mpr hit)
      have rest := anyHolds_decides members (fun term inside => paths term (List.mem_append_right _ inside))
        fun p tries => patterns p (.anyBehind first tries)
      exact rest.congr (by simp [first])

end

namespace Condition

/-- A pattern that cannot be compiled. -/
def faulty : Condition := compare .matching (.path [.member (some "text")]) (some (.pattern ⟨"(", ""⟩))

/-- A container differs from a null. -/
def filled : Condition := compare .looseNe (.path [.member (some "items")]) (some (.literal .null))

/-- The integer 2 is less than the double 3. -/
def counted : Condition :=
  compare .less (.path [.member (some "count")]) (some (.literal (.double (.ofInt 3))))

/-- An address equals the string that is its string form, but not strictly. -/
def linked (relation : Relation) : Condition :=
  compare relation (.path [.member (some "link")]) (some (.literal (.string "a:b")))

/-- A path that leads nowhere, which is no error. -/
def absent : Condition := compare .present (.path [.member (some "missing")]) none

end Condition
end PathQuery
