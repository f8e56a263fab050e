import PathQuery.Proofs.Document.Descend
import PathQuery.Proofs.Select.Row

/-! Where a path can lead. A step goes from a node to nodes below it that are no properties, or back to the
root; so a set of nodes that is closed under going down is never left, unless the path starts again
from a root outside of it. -/
namespace PathQuery

namespace Select

/-- The set has with a node all that is below it, but for properties. -/
def Closed (doc : Document) (P : Nat → Prop) : Prop :=
  ∀ n m, P n → doc.Below n m → doc.isProperty m = false → P m

/-- All nodes of the row are in the set. -/
def Within (P : Nat → Prop) (items : List Item) : Prop := ∀ n, .ok n ∈ items → P n

namespace Within

variable {P : Nat → Prop} {items : List Item}

theorem nodes {nodes : List Nat} (all : ∀ n ∈ nodes, P n) : Within P (nodes.map .ok) := by
  intro n mem
  exact all n (by simpa using mem)

theorem one {n : Nat} (inside : P n) : Within P [.ok n] := by
  intro m mem
  cases List.mem_singleton.mp mem
  exact inside

theorem nothing (strict : Bool) (e : SelectError) : Within P (noMatch strict e) := by
  intro n mem
  cases strict <;> simp [noMatch] at mem

theorem append {more : List Item} (front : Within P items) (back : Within P more) :
    Within P (items ++ more) := by
  intro n mem
  rcases List.mem_append.mp mem with mem | mem
  · exact front n mem
  · exact back n mem

theorem flatMap {α : Type} {f : α → List Item} (choice : ∀ a, Within P (f a)) (as : List α) :
    Within P (as.flatMap f) := by
  intro n mem
  obtain ⟨a, _, mem⟩ := List.mem_flatMap.mp mem
  exact choice a n mem

theorem each {f : Nat → List Item} (choice : ∀ n, P n → Within P (f n)) (within : Within P items) :
    Within P (each f items) := by
  intro m mem
  obtain ⟨item, among, mem⟩ := List.mem_flatMap.mp mem
  cases item with
  | ok n => exact choice n (within n among) m mem
  | error e => simp at mem

theorem passing {test : Nat → Except SelectError Bool} {nodes : List Nat} (all : ∀ n ∈ nodes, P n) :
    Within P (passing test nodes) := by
  intro m mem
  obtain ⟨n, among, outcome⟩ := List.mem_filterMap.mp mem
  split at outcome
  · cases outcome
    exact all m among
  · cases outcome
  · cases outcome

theorem distinct (within : Within P items) (seen : List Nat) : Within P (distinct seen items) := by
  induction items generalizing seen with
  | nil => exact within
  | cons item items ih =>
    have rest : Within P items := fun n mem => within n (List.mem_cons_of_mem item mem)
    cases item with
    | ok n =>
      rw [Select.distinct]
      split
      · exact ih rest seen
      · intro m mem
        rcases List.mem_cons.mp mem with here | later
        · exact within m (here ▸ List.mem_cons_self)
        · exact ih rest (n :: seen) m later
    | error e =>
      intro m mem
      rcases List.mem_cons.mp mem with here | later
      · cases here
      · exact ih rest seen m later

end Within

section Choices

variable {doc : Document} (arena : Document.Arena doc) {P : Nat → Prop} (closed : Closed doc P) {n : Nat}
  (inside : P n)
include arena

theorem get_mem_values {v : Nat} {name : String} (found : doc.get? n name = some v) :
    v ∈ doc.values n := by
  obtain ⟨p, parent, named, first⟩ := arena.get_iff_parent.mp found
  refine List.mem_filterMap.mpr ⟨p, arena.toLinked.child_of_parent parent, ?_⟩
  rw [Document.childValue?, if_pos (Document.isProperty_of_name named), first]

theorem mem_selfAndBelow {m : Nat} :
    m ∈ selfAndBelow doc n ↔ m = n ∨ doc.Below n m ∧ doc.isProperty m = false := by
  rw [selfAndBelow, arena.toLinked.descendants_eq, List.mem_cons, List.mem_filter,
    arena.toLinked.mem_preorder_iff, Bool.not_eq_true']

/-- The object of a property below the node is the node or below it. -/
theorem mem_propertiesBelow {wanted : String → Bool} {v : Nat} :
    v ∈ propertiesBelow doc wanted n ↔
      ∃ m ∈ selfAndBelow doc n, ∃ name, wanted name = true ∧ doc.get? m name = some v := by
  rw [propertiesBelow, arena.toLinked.descendants_eq, List.mem_filterMap]
  constructor
  · rintro ⟨p, among, value⟩
    obtain ⟨walked, passes⟩ := List.mem_filter.mp among
    obtain ⟨name, named, wanted⟩ := (Option.any_eq_true _ _).mp passes
    obtain ⟨m, parent, _⟩ := arena.property_parent (Document.isProperty_of_name named)
    refine ⟨m, ?_, name, wanted, arena.get_iff_parent.mpr ⟨p, parent, named, value⟩⟩
    have below := arena.toLinked.mem_preorder_iff.mp walked
    exact (mem_selfAndBelow arena).mpr (((Document.below_iff_of_parent parent).mp below).imp_right
      fun inner => ⟨inner, arena.plain_of_property named parent⟩)
  · rintro ⟨m, among, name, wanted, found⟩
    obtain ⟨p, parent, named, value⟩ := arena.get_iff_parent.mp found
    have below : doc.Below n p := (Document.below_iff_of_parent parent).mpr
      (((mem_selfAndBelow arena).mp among).imp_right And.left)
    refine ⟨p, List.mem_filter.mpr ⟨arena.toLinked.mem_preorder_iff.mpr below, ?_⟩, value⟩
    rw [named]
    exact wanted

theorem item_mem_values {i c : Nat} (found : doc.item? n i = some c) : c ∈ doc.values n := by
  rw [arena.item_eq] at found
  split at found
  · exact List.mem_of_getElem? found
  · cases found

theorem position_mem_values {index : Int32} {c : Nat} (found : position? doc n index = some c) :
    c ∈ doc.values n := by
  rw [position?] at found
  split at found
  · cases found
  · exact item_mem_values arena found

include closed inside

theorem values_within : ∀ v ∈ doc.values n, P v := by
  intro v mem
  obtain ⟨plain, below⟩ := arena.values_below mem
  exact closed n v inside below plain

theorem selfAndBelow_within : ∀ m ∈ selfAndBelow doc n, P m := by
  intro m mem
  rcases (mem_selfAndBelow arena).mp mem with rfl | ⟨below, plain⟩
  · exact inside
  · exact closed n m inside below plain

theorem propertiesBelow_within (wanted : String → Bool) :
    ∀ v ∈ propertiesBelow doc wanted n, P v := by
  intro v mem
  obtain ⟨m, among, name, _, found⟩ := (mem_propertiesBelow arena).mp mem
  have owner := selfAndBelow_within arena closed inside m among
  exact values_within arena closed owner v (get_mem_values arena found)

theorem member_within (strict : Bool) (name : Option String) :
    Within P (member doc strict name n) := by
  unfold member
  split
  · cases name with
    | none => exact .nodes (values_within arena closed inside)
    | some s =>
      dsimp only
      cases found : doc.get? n s with
      | some v => exact .one (values_within arena closed inside v (get_mem_values arena found))
      | none => exact .nothing _ _
  · exact .nothing _ _

theorem members_within (strict : Bool) (names : List String) :
    Within P (members doc strict names n) := by
  unfold members
  split
  · apply Within.nodes
    intro v mem
    obtain ⟨s, _, found⟩ := List.mem_filterMap.mp mem
    exact values_within arena closed inside v (get_mem_values arena found)
  · exact .nothing _ _

theorem item_within (strict : Bool) (index : Int32) : Within P (item doc strict index n) := by
  unfold item
  split
  · cases found : position? doc n index with
    | some c => exact .one (values_within arena closed inside c (position_mem_values arena found))
    | none => exact .nothing _ _
  · exact .nothing _ _

theorem allItems_within (strict : Bool) : Within P (allItems doc strict n) := by
  unfold allItems
  split
  · exact .nodes (values_within arena closed inside)
  · exact .nothing _ _

theorem slice_within (strict : Bool) (start stop : Option Int32) (stride : Int) :
    Within P (slice doc strict start stop stride n) := by
  unfold slice
  split
  · split
    · exact .nothing _ _
    · apply Within.nodes
      intro c mem
      obtain ⟨i, _, found⟩ := List.mem_filterMap.mp mem
      exact values_within arena closed inside c (item_mem_values arena found)
  · exact .nothing _ _

theorem scan_within (name : Option String) : Within P (scan doc name n) := by
  unfold scan
  cases name with
  | none => exact .nodes (selfAndBelow_within arena closed inside)
  | some s => exact .nodes (propertiesBelow_within arena closed inside _)

theorem scanNames_within (names : List String) : Within P (scanNames doc names n) :=
  .nodes (propertiesBelow_within arena closed inside _)

end Choices

end Select

mutual

/-- The step does not start again from the root, apart from paths inside conditions. -/
def Step.isRootless : Step → Bool
  | .root => false
  | .pipe steps | .union steps => stepsRootless steps
  | _ => true

def stepsRootless : List Step → Bool
  | [] => true
  | step :: steps => step.isRootless && stepsRootless steps

end

open Select

section Runs

variable {doc : Document} {P : Nat → Prop} {root : Nat} {strict : Bool}

mutual

/-- One step: a closed set that holds the candidates, and the root where it is needed, holds what is
selected. Conditions only leave nodes out. -/
theorem Step.select_within (arena : Document.Arena doc) (closed : Closed doc P) (step : Step)
    (restart : step.isRootless = false → P root) {items : List Item} (within : Within P items) :
    Within P (step.select doc root strict items) := by
  cases step with
  | root =>
    rw [Step.select]
    exact .one (restart rfl)
  | member name =>
    rw [Step.select]
    exact within.each fun _ inside => member_within arena closed inside strict name
  | members names =>
    rw [Step.select]
    exact within.each fun _ inside => members_within arena closed inside strict names
  | item index =>
    cases index with
    | some index =>
      rw [Step.select]
      exact within.each fun _ inside => item_within arena closed inside strict index
    | none =>
      rw [Step.select]
      exact within.each fun _ inside => allItems_within arena closed inside strict
  | items indexes =>
    rw [Step.select]
    exact within.each fun _ inside => .flatMap (item_within arena closed inside strict) indexes
  | slice start stop stride =>
    rw [Step.select]
    split
    · intro n mem
      simp at mem
    · exact within.each fun _ inside => slice_within arena closed inside strict start stop _
  | scan name =>
    rw [Step.select]
    exact within.each fun _ inside => scan_within arena closed inside name
  | scanNames names =>
    rw [Step.select]
    exact within.each fun _ inside => scanNames_within arena closed inside names
  | query condition =>
    rw [Step.select]
    exact within.each fun _ inside => .passing (values_within arena closed inside)
  | scanQuery condition =>
    rw [Step.select]
    exact within.each fun _ inside => .passing (selfAndBelow_within arena closed inside)
  | pipe steps =>
    rw [Step.select]
    exact selectSteps_within arena closed steps restart within
  | union steps =>
    rw [Step.select]
    exact (selectEach_within arena closed steps restart within).distinct []

theorem selectSteps_within (arena : Document.Arena doc) (closed : Closed doc P) (steps : List Step)
    (restart : stepsRootless steps = false → P root) {items : List Item} (within : Within P items) :
    Within P (selectSteps doc root strict steps items) := by
  cases steps with
  | nil =>
    rw [selectSteps]
    exact within
  | cons step steps =>
    rw [selectSteps]
    have first := Step.select_within arena closed step
      (fun again => restart (by simp [stepsRootless, again])) within
    exact selectSteps_within arena closed steps
      (fun again => restart (by simp [stepsRootless, again])) first

theorem selectEach_within (arena : Document.Arena doc) (closed : Closed doc P) (steps : List Step)
    (restart : stepsRootless steps = false → P root) {items : List Item} (within : Within P items) :
    Within P (selectEach doc root strict steps items) := by
  cases steps with
  | nil =>
    rw [selectEach]
    intro n mem
    cases mem
  | cons step steps =>
    rw [selectEach]
    have first := Step.select_within arena closed step
      (fun again => restart (by simp [stepsRootless, again])) within
    have others := selectEach_within arena closed steps
      (fun again => restart (by simp [stepsRootless, again])) within
    exact first.append others

end

end Runs

namespace Document

/-- A node of the document that is no property, and is `start` or below it. -/
def Reaches (doc : Document) (start n : Nat) : Prop :=
  n < doc.size ∧ doc.isProperty n = false ∧ (n = start ∨ doc.Below start n)

variable {doc : Document}

theorem closed_reaches (arena : Arena doc) (start : Nat) : Closed doc (doc.Reaches start) := by
  rintro n m ⟨_, _, above⟩ below plain
  refine ⟨(arena.toLinked.below_range below).2, plain, ?_⟩
  rcases above with rfl | above
  · exact .inr below
  · exact .inr (above.trans below)

theorem closed_or {P Q : Nat → Prop} (first : Closed doc P) (second : Closed doc Q) :
    Closed doc fun n => P n ∨ Q n := by
  rintro n m (inside | inside) below plain
  · exact .inl (first n m inside below plain)
  · exact .inr (second n m inside below plain)

/-- A path that does not start again from the root selects nodes at or below its start, and any other path
nodes at or below its start or the root. No property is ever selected. -/
theorem evaluate_below (reachable : Reachable doc) (path : Path) {start : Nat} (inside : start < doc.size)
    (plain : doc.isProperty start = false) (root : Nat) (strict : Bool) :
    (stepsRootless path.steps = true →
      Within (doc.Reaches start) (path.evaluate doc root start strict)) ∧
    (root < doc.size → doc.isProperty root = false →
      Within (fun n => doc.Reaches start n ∨ doc.Reaches root n)
        (path.evaluate doc root start strict)) := by
  have arena := Arena.of_reachable reachable
  have fromStart := closed_reaches arena start
  have begins : doc.Reaches start start := ⟨inside, plain, .inl rfl⟩
  constructor
  · intro rootless
    apply selectSteps_within arena fromStart path.steps
    · intro again
      rw [rootless] at again
      cases again
    · exact .one begins
  · intro within plainRoot
    apply selectSteps_within arena (closed_or fromStart (closed_reaches arena root)) path.steps
    · intro _
      exact .inr ⟨within, plainRoot, .inl rfl⟩
    · exact .one (.inl begins)

/-- All at and below the start, and then the values of the root. -/
def restarting : Path := ⟨[.union [.scan none, .pipe [.root, .member none]]]⟩

/-- From the constructor in `stumbling` the restart leads to nodes that are not below it, but below the
root; without it the path stays there. -/
theorem evaluate_below_stumbling :
    Reachable stumbling ∧ 3 < stumbling.size ∧ stumbling.isProperty 3 = false ∧
    restarting.evaluate stumbling root 3 true = [.ok 3, .ok 4, .ok 2, .ok 6] ∧
    Within (fun n => stumbling.Reaches 3 n ∨ stumbling.Reaches root n)
      (restarting.evaluate stumbling root 3 true) ∧
    Within (stumbling.Reaches 3) (Path.evaluate stumbling ⟨[.scan none, .item none]⟩ root 3 false) := by
  have reachable : Reachable stumbling := (Reachable.root .object).run _
  have inside : 3 < stumbling.size := by cbv
  have plain : stumbling.isProperty 3 = false := by cbv
  refine ⟨reachable, inside, plain, by cbv, ?_, ?_⟩
  · exact (evaluate_below reachable restarting inside plain root true).2 (by cbv) (by cbv)
  · exact (evaluate_below reachable ⟨[.scan none, .item none]⟩ inside plain root false).1 (by cbv)

end Document
end PathQuery
