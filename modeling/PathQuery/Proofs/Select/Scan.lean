import Mathlib
import PathQuery.Proofs.Select.Enlarged

/-! Two ways to the values of some names below a node: along the links, on which every property is met, or
by a look into every object. Each property below the node belongs to one object at or below it, and that
object has no other property of the name, so the two ways meet the same values, each once. -/
namespace PathQuery

namespace Select

open Document

variable {doc : Document} (arena : Arena doc)
include arena

theorem selfAndBelow_nodup (n : Nat) : (selfAndBelow doc n).Nodup := by
  rw [selfAndBelow, arena.toLinked.descendants_eq, List.nodup_cons]
  refine ⟨?_, (arena.toLinked.preorder_nodup n).filter _⟩
  intro mem
  exact Nat.lt_irrefl n (arena.toLinked.preorder_lt (List.mem_of_mem_filter mem)).1

theorem propertiesBelow_nodup (wanted : String → Bool) (n : Nat) :
    (propertiesBelow doc wanted n).Nodup := by
  rw [propertiesBelow, arena.toLinked.descendants_eq]
  refine ((arena.toLinked.preorder_nodup n).filter _).filterMap ?_
  intro p q v value value'
  exact Linked.parent_unique doc (arena.toLinked.parent_of_first value)
    (arena.toLinked.parent_of_first value')

/-- A look into every object finds no value twice. -/
theorem lookups_nodup {names : List String} (distinct : names.Nodup) (n : Nat) :
    ((selfAndBelow doc n).flatMap fun m => names.filterMap (doc.get? m)).Nodup := by
  rw [List.nodup_flatMap]
  constructor
  · intro m _
    refine distinct.filterMap ?_
    intro name other v found also
    exact (arena.get_unique found also).2
  · refine (selfAndBelow_nodup arena n).imp ?_
    intro m k different v here there
    obtain ⟨name, _, found⟩ := List.mem_filterMap.mp here
    obtain ⟨other, _, also⟩ := List.mem_filterMap.mp there
    exact different (arena.get_unique found also).1

/-- What the links lead to is what the objects have, though in another order. -/
theorem propertiesBelow_perm {names : List String} (distinct : names.Nodup) (n : Nat) :
    (propertiesBelow doc names.contains n).Perm
      ((selfAndBelow doc n).flatMap fun m => names.filterMap (doc.get? m)) := by
  refine (List.perm_ext_iff_of_nodup (propertiesBelow_nodup arena _ n)
    (lookups_nodup arena distinct n)).mpr ?_
  intro v
  simp only [mem_propertiesBelow arena, List.contains_iff_mem, List.mem_flatMap, List.mem_filterMap]

omit arena

theorem each_nodes {f : Nat → List Item} {g : Nat → List Nat} (choice : ∀ m, f m = (g m).map .ok)
    (nodes : List Nat) : each f (nodes.map .ok) = (nodes.flatMap g).map .ok := by
  induction nodes with
  | nil => rfl
  | cons m nodes ih => rw [List.map_cons, each_ok, ih, choice, List.flatMap_cons, List.map_append]

/-- Without an error of the test only the nodes that pass it are left. -/
theorem passing_of_ok {test : Nat → Except SelectError Bool} {nodes : List Nat}
    (sound : ∀ m ∈ nodes, ∃ b, test m = .ok b) :
    passing test nodes = (nodes.filter fun m => test m matches .ok true).map .ok := by
  rw [passing, ← List.filterMap_eq_map, List.filterMap_filter]
  apply List.filterMap_congr
  intro m mem
  obtain ⟨b, outcome⟩ := sound m mem
  cases b <;> simp [outcome]

end Select

open Select

/-- What the scans select from one candidate, told by the scan for all nodes: the scans for names select
what a look into all these nodes selects, and no node twice; how often and in which order the names are
written makes no difference; and the scan for a condition keeps the nodes for which it is true. -/
theorem Step.scan_agrees {doc : Document} (reachable : Document.Reachable doc) (root n : Nat) :
    (∀ name,
      ((scan (some name)).select doc root false [.ok n]).Perm
        (selectSteps doc root false [.scan none, .member (some name)] [.ok n]) ∧
      ((scan (some name)).select doc root false [.ok n]).Nodup) ∧
    (∀ names, names.Nodup →
      ((scanNames names).select doc root false [.ok n]).Perm
        (selectSteps doc root false [.scan none, .members names] [.ok n])) ∧
    (∀ names names', (∀ name, name ∈ names ↔ name ∈ names') →
      (scanNames names).select doc root false [.ok n] =
        (scanNames names').select doc root false [.ok n]) ∧
    ∃ nodes : List Nat, (scan none).select doc root false [.ok n] = nodes.map .ok ∧
      ∀ condition : Condition, (∀ m ∈ nodes, ∃ b, condition.holds doc root m = .ok b) →
        (scanQuery condition).select doc root false [.ok n] =
          (nodes.filter fun m => condition.holds doc root m matches .ok true).map .ok := by
  have arena := Document.Arena.of_reachable reachable
  have injective : Function.Injective (Except.ok : Nat → Item) := fun _ _ => Except.ok.inj
  have alone (name : String) : (fun s => s == name) = [name].contains := by
    funext s
    rw [Bool.eq_iff_iff, beq_iff_eq, List.contains_iff_mem, List.mem_singleton]
  simp only [selectSteps, Step.select, each_ok, each_nil, List.append_nil, Select.scan,
    Select.scanNames]
  refine ⟨?_, ?_, ?_, selfAndBelow doc n, rfl, ?_⟩
  · intro name
    -- One name is a list of distinct names.
    have choice (m : Nat) :
        Select.member doc false (some name) m = ([name].filterMap (doc.get? m)).map .ok := by
      rw [member_some_lenient]
      cases found : doc.get? m name <;> simp [found]
    rw [each_nodes choice, alone]
    refine ⟨(propertiesBelow_perm arena (List.nodup_singleton name) n).map _, ?_⟩
    exact (propertiesBelow_nodup arena _ n).map injective
  · intro names distinct
    rw [each_nodes (members_lenient doc · names)]
    exact (propertiesBelow_perm arena distinct n).map _
  · intro names names' same
    have tests : names.contains = names'.contains := by
      funext name
      rw [Bool.eq_iff_iff, List.contains_iff_mem, List.contains_iff_mem, same]
    rw [tests]
  · intro condition sound
    exact passing_of_ok sound

/-- Two objects, one of them in the other, and a value of the same name in both. -/
def recurring : Document := .ofJson (.object [("x", .object [("a", .integer 1)]), ("a", .integer 2)])

/-- There is a value of that name. -/
def recurs : Condition := .compare .present (.path [.member (some "a")]) none

/-- A look into the root finds its own value before the one that comes first in the document. -/
theorem Step.scan_agrees_recurring :
    Document.Reachable recurring ∧
    selectSteps recurring 0 false [.scan none, .members ["x", "a"]] [.ok 0] = [.ok 2, .ok 6, .ok 4] ∧
    (scanNames ["x", "a"]).select recurring 0 false [.ok 0] = [.ok 2, .ok 4, .ok 6] ∧
    ([.ok 2, .ok 4, .ok 6] : List Item).Perm [.ok 2, .ok 6, .ok 4] ∧
    ((scan (some "a")).select recurring 0 false [.ok 0]).Perm
      (selectSteps recurring 0 false [.scan none, .member (some "a")] [.ok 0]) ∧
    (scanNames ["a", "x", "a"]).select recurring 0 false [.ok 0] = [.ok 2, .ok 4, .ok 6] ∧
    (scanQuery recurs).select recurring 0 false [.ok 0] = [.ok 0, .ok 2] := by
  have reachable : Document.Reachable recurring := .json (by decide +kernel)
  obtain ⟨single, several, spelling, nodes, visited, query⟩ := scan_agrees reachable 0 0
  have looked : selectSteps recurring 0 false [.scan none, .members ["x", "a"]] [.ok 0] =
      [.ok 2, .ok 6, .ok 4] := by cbv
  have scanned : (scanNames ["x", "a"]).select recurring 0 false [.ok 0] = [.ok 2, .ok 4, .ok 6] := by cbv
  have all : (scan none).select recurring 0 false [.ok 0] = [0, 2, 4, 6].map .ok := by cbv
  have known : nodes = [0, 2, 4, 6] :=
    List.map_injective_iff.mpr (fun _ _ => Except.ok.inj) (visited.symm.trans all)
  subst known
  have outcomes : [0, 2, 4, 6].map (recurs.holds recurring 0) = [true, true, false, false].map .ok := by cbv
  refine ⟨reachable, looked, scanned, ?_, (single "a").1, ?_, ?_⟩
  · rw [← scanned, ← looked]
    exact several ["x", "a"] (by decide)
  · rw [← scanned]
    exact spelling _ _ (by simp [or_comm])
  · simp only [List.map_cons, List.map_nil, List.cons.injEq, and_true] at outcomes
    obtain ⟨root, inner, one, two⟩ := outcomes
    rw [query recurs (by simp [root, inner, one, two])]
    simp [root, inner, one, two]

end PathQuery
