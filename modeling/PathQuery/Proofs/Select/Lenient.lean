import Mathlib
import PathQuery.Proofs.Select.Row

/-! What strictness adds to a row: errors which say that nothing matched, each where a lenient run selects
nothing. The nodes, their order and all other errors are the same in both settings, and the errors that
are left have one of two causes, a stride of zero or a faulty pattern. -/
namespace PathQuery

namespace SelectError

/-- The errors that only strictness raises. -/
def isNoMatch : SelectError → Bool
  | noProperty .. | propertyNotValid .. | propertiesNotValid .. | indexOutOfBounds ..
  | indexNotValid .. | emptySlice .. | sliceNotValid .. => true
  | zeroStep | invalidPattern _ | multipleNodes => false

/-- The errors that are raised in every case. -/
def isFault : SelectError → Bool
  | zeroStep | invalidPattern _ => true
  | _ => false

theorem isNoMatch_of_isFault {e : SelectError} (fault : e.isFault = true) : e.isNoMatch = false := by
  cases e with
  | zeroStep | invalidPattern | multipleNodes => rfl
  | _ => cases fault

theorem isFault_iff {e : SelectError} :
    e.isFault = true ↔ e = .zeroStep ∨ ∃ source, e = .invalidPattern source := by
  cases e <;> simp [isFault]

end SelectError

namespace Select

/-- A row without the errors that nothing matched. -/
def matched (items : List Item) : List Item :=
  items.filter fun
    | .ok _ => true
    | .error e => !e.isNoMatch

/-- Every error is a fault. -/
def Faulty {α : Type} (items : List (Except SelectError α)) : Prop :=
  ∀ e, .error e ∈ items → e.isFault = true

/-- The strict row is the lenient one with errors put in that nothing matched. -/
inductive Relaxes : (lenient strict : List Item) → Prop where
  | nil : Relaxes [] []
  | node {l s : List Item} (n : Nat) (rest : Relaxes l s) : Relaxes (.ok n :: l) (.ok n :: s)
  | fault {l s : List Item} {e : SelectError} (fault : e.isFault = true) (rest : Relaxes l s) :
      Relaxes (.error e :: l) (.error e :: s)
  | noMatch {l s : List Item} {e : SelectError} (added : e.isNoMatch = true) (rest : Relaxes l s) :
      Relaxes l (.error e :: s)

namespace Relaxes

theorem eq_matched {l s : List Item} (relaxes : Relaxes l s) : l = matched s := by
  induction relaxes with
  | nil => rfl
  | node n _ ih => rw [ih]; rfl
  | @fault l s e fault _ ih =>
    rw [ih, matched, matched, List.filter_cons_of_pos]
    simp [SelectError.isNoMatch_of_isFault fault]
  | @noMatch l s e added _ ih =>
    rw [ih, matched, matched, List.filter_cons_of_neg]
    simp [added]

theorem faulty {l s : List Item} (relaxes : Relaxes l s) : Faulty l := by
  induction relaxes with
  | nil =>
    intro e mem
    cases mem
  | node n _ ih =>
    intro e mem
    rcases List.mem_cons.mp mem with same | mem
    · cases same
    · exact ih e mem
  | fault fault _ ih =>
    intro e mem
    rcases List.mem_cons.mp mem with same | mem
    · cases same
      exact fault
    · exact ih e mem
  | noMatch _ _ ih => exact ih

theorem of_faulty {items : List Item} (faulty : Faulty items) : Relaxes items items := by
  induction items with
  | nil => exact .nil
  | cons item items ih =>
    have rest := ih fun e mem => faulty e (List.mem_cons_of_mem item mem)
    cases item with
    | ok n => exact .node n rest
    | error e => exact .fault (faulty e List.mem_cons_self) rest

theorem nodes (nodes : List Nat) : Relaxes (nodes.map .ok) (nodes.map .ok) := by
  apply of_faulty
  intro e mem
  obtain ⟨n, _, same⟩ := List.mem_map.mp mem
  cases same

theorem nothing {e : SelectError} (added : e.isNoMatch = true) :
    Relaxes (Select.noMatch false e) (Select.noMatch true e) := .noMatch added .nil

theorem append {l s l' s' : List Item} (front : Relaxes l s) (back : Relaxes l' s') :
    Relaxes (l ++ l') (s ++ s') := by
  induction front with
  | nil => exact back
  | node n _ ih => exact .node n ih
  | fault fault _ ih => exact .fault fault ih
  | noMatch added _ ih => exact .noMatch added ih

theorem each {f g : Nat → List Item} (choice : ∀ n, Relaxes (f n) (g n)) {l s : List Item}
    (relaxes : Relaxes l s) : Relaxes (each f l) (each g s) := by
  induction relaxes with
  | nil => exact .nil
  | node n _ ih => exact (choice n).append ih
  | fault fault _ ih => exact .fault fault ih
  | noMatch added _ ih => exact .noMatch added ih

theorem flatMap {α : Type} {f g : α → List Item} (choice : ∀ a, Relaxes (f a) (g a)) (as : List α) :
    Relaxes (as.flatMap f) (as.flatMap g) := by
  induction as with
  | nil => exact .nil
  | cons a as ih => exact (choice a).append ih

/-- Only nodes count as seen, so errors that are put in change nothing. -/
theorem distinct {l s : List Item} (relaxes : Relaxes l s) (seen : List Nat) :
    Relaxes (distinct seen l) (distinct seen s) := by
  induction relaxes generalizing seen with
  | nil => exact .nil
  | node n _ ih =>
    rw [Select.distinct, Select.distinct]
    split
    · exact ih seen
    · exact .node n (ih (n :: seen))
  | fault fault _ ih => exact .fault fault (ih seen)
  | noMatch added _ ih => exact .noMatch added (ih seen)

end Relaxes

section Choices

variable (doc : Document)

theorem member_relaxes (name : Option String) (n : Nat) :
    Relaxes (member doc false name n) (member doc true name n) := by
  unfold member
  split
  · cases name with
    | none => exact .nodes _
    | some s =>
      dsimp only
      cases doc.get? n s with
      | some v => exact .nodes [v]
      | none => exact .nothing rfl
  · exact .nothing rfl

theorem members_relaxes (names : List String) (n : Nat) :
    Relaxes (members doc false names n) (members doc true names n) := by
  unfold members
  split
  · exact .nodes _
  · exact .nothing rfl

theorem item_relaxes (index : Int32) (n : Nat) :
    Relaxes (item doc false index n) (item doc true index n) := by
  unfold item
  split
  · cases position? doc n index with
    | some c => exact .nodes [c]
    | none => exact .nothing rfl
  · exact .nothing rfl

theorem allItems_relaxes (n : Nat) : Relaxes (allItems doc false n) (allItems doc true n) := by
  unfold allItems
  split
  · exact .nodes _
  · exact .nothing rfl

theorem slice_relaxes (start stop : Option Int32) (stride : Int) (n : Nat) :
    Relaxes (slice doc false start stop stride n) (slice doc true start stop stride n) := by
  unfold slice
  split
  · split
    · exact .nothing rfl
    · exact .nodes _
  · exact .nothing rfl

theorem scan_relaxes (name : Option String) (n : Nat) :
    Relaxes (scan doc name n) (scan doc name n) := by
  unfold scan
  cases name <;> exact .nodes _

theorem scanNames_relaxes (names : List String) (n : Nat) :
    Relaxes (scanNames doc names n) (scanNames doc names n) := .nodes _

end Choices

theorem passing_faulty {test : Nat → Except SelectError Bool}
    (faults : ∀ n e, test n = .error e → e.isFault = true) (nodes : List Nat) :
    Faulty (passing test nodes) := by
  intro e mem
  obtain ⟨n, _, outcome⟩ := List.mem_filterMap.mp mem
  cases result : test n with
  | ok b => cases b <;> simp [result] at outcome
  | error f =>
    simp only [result, Option.some.injEq, Except.error.injEq] at outcome
    exact outcome ▸ faults n f result

theorem matchesPattern_error {text : Option Scalar} {pattern : Pattern} {e : SelectError}
    (failed : matchesPattern text pattern = .error e) : e.isFault = true := by
  unfold matchesPattern at failed
  split at failed
  · split at failed
    · cases failed
    · cases failed
      rfl
  · cases failed

theorem holds_error {doc : Document} {relation : Relation} {left right : Operand} {e : SelectError}
    (failed : relation.holds doc left right = .error e) : e.isFault = true := by
  rw [Relation.holds] at failed
  by_cases matching : relation = .matching
  · rw [if_pos matching] at failed
    cases pattern : right.pattern? doc with
    | some p =>
      rw [pattern] at failed
      exact matchesPattern_error failed
    | none =>
      rw [pattern] at failed
      cases failed
  · rw [if_neg matching] at failed
    split at failed <;> cases failed

theorem anyPair_error {doc : Document} {relation : Relation}
    {lefts rights : List (Except SelectError Operand)} {e : SelectError} (leftFaulty : Faulty lefts)
    (rightFaulty : Faulty rights) (failed : anyPair doc relation lefts rights = .error e) :
    e.isFault = true := by
  rw [anyPair] at failed
  split at failed
  · cases failed
  cases collected : collect rights with
  | error f =>
    rw [collected] at failed
    cases failed
    exact rightFaulty e (collect_error collected)
  | ok operands =>
    rw [collected] at failed
    obtain ⟨left, mem, compared⟩ := anyM_error failed
    cases left with
    | error f =>
      cases compared
      exact leftFaulty e mem
    | ok operand =>
      obtain ⟨right, _, compared⟩ := anyM_error compared
      exact holds_error compared

end Select

open Select

section Runs

variable (doc : Document) (root : Nat)

mutual

/-- One step: what is selected from related rows is related. Conditions are never strict. -/
theorem Step.select_relaxes (step : Step) {l s : List Item} (relaxes : Relaxes l s) :
    Relaxes (step.select doc root false l) (step.select doc root true s) := by
  cases step with
  | root =>
    rw [Step.select, Step.select]
    exact .nodes [root]
  | member name =>
    rw [Step.select, Step.select]
    exact relaxes.each (member_relaxes doc name)
  | members names =>
    rw [Step.select, Step.select]
    exact relaxes.each (members_relaxes doc names)
  | item index =>
    cases index with
    | some index =>
      rw [Step.select, Step.select]
      exact relaxes.each (item_relaxes doc index)
    | none =>
      rw [Step.select, Step.select]
      exact relaxes.each (allItems_relaxes doc)
  | items indexes =>
    rw [Step.select, Step.select]
    exact relaxes.each fun n => .flatMap (item_relaxes doc · n) indexes
  | slice start stop stride =>
    rw [Step.select, Step.select]
    split
    · exact .fault rfl .nil
    · exact relaxes.each (slice_relaxes doc start stop _)
  | scan name =>
    rw [Step.select, Step.select]
    exact relaxes.each (scan_relaxes doc name)
  | scanNames names =>
    rw [Step.select, Step.select]
    exact relaxes.each (scanNames_relaxes doc names)
  | query condition | scanQuery condition =>
    rw [Step.select, Step.select]
    exact relaxes.each fun n =>
      .of_faulty (passing_faulty (fun _ _ => Condition.holds_fault condition) _)
  | pipe steps =>
    rw [Step.select, Step.select]
    exact selectSteps_relaxes steps relaxes
  | union steps =>
    rw [Step.select, Step.select]
    exact (selectEach_relaxes steps relaxes).distinct []

theorem selectSteps_relaxes (steps : List Step) {l s : List Item} (relaxes : Relaxes l s) :
    Relaxes (selectSteps doc root false steps l) (selectSteps doc root true steps s) := by
  cases steps with
  | nil =>
    rw [selectSteps, selectSteps]
    exact relaxes
  | cons step steps =>
    rw [selectSteps, selectSteps]
    exact selectSteps_relaxes steps (Step.select_relaxes step relaxes)

theorem selectEach_relaxes (steps : List Step) {l s : List Item} (relaxes : Relaxes l s) :
    Relaxes (selectEach doc root false steps l) (selectEach doc root true steps s) := by
  cases steps with
  | nil =>
    rw [selectEach, selectEach]
    exact .nil
  | cons step steps =>
    rw [selectEach, selectEach]
    exact (Step.select_relaxes step relaxes).append (selectEach_relaxes steps relaxes)

theorem Condition.holds_fault (condition : Condition) {n : Nat} {e : SelectError}
    (failed : condition.holds doc root n = .error e) : e.isFault = true := by
  match condition with
  | .compare relation left none =>
    rw [Condition.holds] at failed
    have faulty := Term.operands_faulty left n
    cases operands : left.operands doc root n with
    | nil =>
      rw [operands] at failed
      cases failed
    | cons operand rest =>
      rw [operands] at failed faulty
      cases operand with
      | ok => cases failed
      | error f =>
        cases failed
        exact faulty e List.mem_cons_self
  | .compare relation left (some right) =>
    rw [Condition.holds] at failed
    exact anyPair_error (Term.operands_faulty left n) (Term.operands_faulty right n) failed
  | .compound .all members =>
    rw [Condition.holds] at failed
    exact allHold_fault members failed
  | .compound .any members =>
    rw [Condition.holds] at failed
    exact anyHolds_fault members failed

theorem allHold_fault (members : List Condition) {n : Nat} {e : SelectError}
    (failed : allHold doc root members n = .error e) : e.isFault = true := by
  cases members with
  | nil =>
    rw [allHold] at failed
    cases failed
  | cons member members =>
    rw [allHold] at failed
    split at failed
    · exact allHold_fault members failed
    · exact Condition.holds_fault member failed

theorem anyHolds_fault (members : List Condition) {n : Nat} {e : SelectError}
    (failed : anyHolds doc root members n = .error e) : e.isFault = true := by
  cases members with
  | nil =>
    rw [anyHolds] at failed
    cases failed
  | cons member members =>
    rw [anyHolds] at failed
    split at failed
    · exact anyHolds_fault members failed
    · exact Condition.holds_fault member failed

theorem Term.operands_faulty (term : Term) (n : Nat) : Faulty (term.operands doc root n) := by
  intro e mem
  cases term with
  | literal | pattern =>
    rw [Term.operands, List.mem_singleton] at mem
    cases mem
  | path steps =>
    rw [Term.operands] at mem
    obtain ⟨item, among, same⟩ := List.mem_map.mp mem
    cases item with
    | ok m => cases same
    | error f =>
      cases same
      exact (selectSteps_relaxes steps (.node n .nil)).faulty e among

end

end Runs

namespace Path

theorem evaluate_relaxes (doc : Document) (path : Path) (root start : Nat) :
    Relaxes (path.evaluate doc root start false) (path.evaluate doc root start true) :=
  selectSteps_relaxes doc root path.steps (.node start .nil)

/-- A lenient run selects what a strict one does, without the errors that nothing matched; the errors
of a lenient run are faults; and where a strict run has no error, a lenient one selects the same nodes. -/
theorem evaluate_lenient (doc : Document) (path : Path) (root start : Nat) :
    path.evaluate doc root start false = matched (path.evaluate doc root start true) ∧
    (∀ e, .error e ∈ path.evaluate doc root start false →
      e = .zeroStep ∨ ∃ source, e = .invalidPattern source) ∧
    ∀ nodes, path.select doc start true = .ok nodes → path.select doc start false = .ok nodes := by
  have relaxes := evaluate_relaxes doc path
  refine ⟨(relaxes root start).eq_matched, ?_, ?_⟩
  · intro e mem
    exact SelectError.isFault_iff.mp ((relaxes root start).faulty e mem)
  · intro nodes selected
    have strict := eq_of_collect selected
    have kept : matched (nodes.map .ok) = nodes.map .ok := by
      rw [← (Relaxes.nodes nodes).eq_matched]
    rw [select, (relaxes start start).eq_matched, strict, kept]
    exact collect_map_ok nodes

/-- An array of a null and an object. -/
def uneven : Document := .ofJson (.array [.null, .object [("a", .boolean true)]])

theorem evaluate_lenient_uneven :
    evaluate uneven ⟨[.item none, .member (some "a")]⟩ 0 0 true =
      [.error (.propertyNotValid (some "a") .value ⟨"[0]", none⟩), .ok 4] ∧
    evaluate uneven ⟨[.item none, .member (some "a")]⟩ 0 0 false = [.ok 4] ∧
    select uneven ⟨[.member (some "a")]⟩ 2 false = .ok [4] := by
  have strict : evaluate uneven ⟨[.item none, .member (some "a")]⟩ 0 0 true =
      [.error (.propertyNotValid (some "a") .value ⟨"[0]", none⟩), .ok 4] := by cbv
  have lenient := (evaluate_lenient uneven ⟨[.item none, .member (some "a")]⟩ 0 0).1
  rw [strict] at lenient
  have whole : select uneven ⟨[.member (some "a")]⟩ 2 true = .ok [4] := by cbv
  exact ⟨strict, lenient, (evaluate_lenient uneven ⟨[.member (some "a")]⟩ 2 2).2.2 [4] whole⟩

end Path
end PathQuery
