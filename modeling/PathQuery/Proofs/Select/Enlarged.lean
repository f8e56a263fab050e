import PathQuery.Proofs.Document.Extension
import PathQuery.Proofs.Select.Below

/-! Selections from a document that has grown. Without slices and queries, a path selects from the larger
document what it selected before, in the same order and as often, with new nodes in between. For this a
step must lead from new nodes to new nodes only, and from an older node to the older ones that it led to
before. -/
namespace PathQuery

namespace Select

/-- The second row is the first one with nodes from `k` on put in; both are without errors. -/
inductive Enlarges (k : Nat) : (row row' : List Item) → Prop where
  | nil : Enlarges k [] []
  | known {n : Nat} {l l' : List Item} (old : n < k) (rest : Enlarges k l l') :
      Enlarges k (.ok n :: l) (.ok n :: l')
  | added {n : Nat} {l l' : List Item} (fresh : k ≤ n) (rest : Enlarges k l l') :
      Enlarges k l (.ok n :: l')

namespace Enlarges

variable {k : Nat} {l l' : List Item}

theorem exists_nodes (row : Enlarges k l l') :
    ∃ nodes nodes' : List Nat, l = nodes.map .ok ∧ l' = nodes'.map .ok ∧
      nodes'.filter (· < k) = nodes := by
  induction row with
  | nil => exact ⟨[], [], rfl, rfl, rfl⟩
  | @known n _ _ old _ ih =>
    obtain ⟨nodes, nodes', rfl, rfl, filtered⟩ := ih
    exact ⟨n :: nodes, n :: nodes', rfl, rfl, by simp [old, filtered]⟩
  | @added n _ _ fresh _ ih =>
    obtain ⟨nodes, nodes', rfl, rfl, filtered⟩ := ih
    exact ⟨nodes, n :: nodes', rfl, rfl, by simp [Nat.not_lt_of_le fresh, filtered]⟩

theorem of_filter (nodes : List Nat) :
    Enlarges k ((nodes.filter (· < k)).map .ok) (nodes.map .ok) := by
  induction nodes with
  | nil => exact .nil
  | cons n nodes ih =>
    rcases Nat.lt_or_ge n k with old | fresh
    · simpa [old] using ih.known old
    · simpa [Nat.not_lt_of_le fresh] using ih.added fresh

theorem append {m m' : List Item} (front : Enlarges k l l') (back : Enlarges k m m') :
    Enlarges k (l ++ m) (l' ++ m') := by
  induction front with
  | nil => exact back
  | known old _ ih => exact .known old ih
  | added fresh _ ih => exact .added fresh ih

theorem flatMap {α : Type} {f f' : α → List Item} (choice : ∀ a, Enlarges k (f a) (f' a))
    (as : List α) : Enlarges k (as.flatMap f) (as.flatMap f') := by
  induction as with
  | nil => exact .nil
  | cons a as ih => exact (choice a).append ih

/-- New nodes that were seen do not matter for the older ones. -/
theorem distinct (row : Enlarges k l l') {seen seen' : List Nat}
    (agree : ∀ n < k, n ∈ seen ↔ n ∈ seen') :
    Enlarges k (distinct seen l) (distinct seen' l') := by
  induction row generalizing seen seen' with
  | nil => exact .nil
  | @known n _ _ old _ ih =>
    simp only [Select.distinct, List.contains_iff_mem, agree n old]
    split
    · exact ih agree
    · apply Enlarges.known old
      apply ih
      intro m older
      simp [agree m older]
  | @added n _ _ fresh _ ih =>
    rw [Select.distinct.eq_2]
    split
    · exact ih agree
    · apply Enlarges.added fresh
      apply ih
      intro m older
      have other : m ≠ n := Nat.ne_of_lt (Nat.lt_of_lt_of_le older fresh)
      simp [agree m older, other]

end Enlarges

/-- A choice of nodes in the larger document beside the same choice in the smaller one: it gives new nodes for
new nodes, and for an older node what it gave there. -/
structure Widens (k : Nat) (f f' : Nat → List Item) : Prop where
  known : ∀ n < k, Enlarges k (f n) (f' n)
  added : ∀ n, k ≤ n → Enlarges k [] (f' n)

namespace Widens

variable {k : Nat}

theorem of_nodes {f f' : Nat → List Item} {g g' : Nat → List Nat} (small : ∀ n, f n = (g n).map .ok)
    (large : ∀ n, f' n = (g' n).map .ok) (kept : ∀ n < k, (g' n).filter (· < k) = g n)
    (above : ∀ n, ∀ m ∈ g' n, n ≤ m) : Widens k f f' := by
  constructor
  case known =>
    intro n old
    rw [small, large, ← kept n old]
    exact .of_filter (g' n)
  case added =>
    intro n fresh
    have none : (g' n).filter (· < k) = [] := by
      rw [List.filter_eq_nil_iff]
      intro m mem
      simpa using Nat.le_trans fresh (above n m mem)
    have row := Enlarges.of_filter (k := k) (g' n)
    rwa [none, ← large] at row

theorem flatMap {α : Type} {f f' : α → Nat → List Item} (choice : ∀ a, Widens k (f a) (f' a))
    (as : List α) : Widens k (fun n => as.flatMap (f · n)) (fun n => as.flatMap (f' · n)) := by
  constructor
  case known =>
    intro n old
    exact .flatMap (fun a => (choice a).known n old) as
  case added =>
    intro n fresh
    have none : as.flatMap (fun _ => ([] : List Item)) = [] := List.flatMap_eq_nil_iff.mpr fun _ _ => rfl
    have row := Enlarges.flatMap (fun a => (choice a).added n fresh) as
    rwa [none] at row

theorem each {f f' : Nat → List Item} (choice : Widens k f f') {l l' : List Item}
    (row : Enlarges k l l') : Enlarges k (each f l) (each f' l') := by
  induction row with
  | nil => exact .nil
  | known old _ ih => exact (choice.known _ old).append ih
  | added fresh _ ih => exact (choice.added _ fresh).append ih

end Widens

section Lenient

variable (doc : Document) (n : Nat)

theorem get_eq_none {doc : Document} {n : Nat} (other : doc.isObject n = false) (name : String) :
    doc.get? n name = none := by
  apply Option.eq_none_iff_forall_ne_some.mpr
  intro v found
  simp [Document.isObject_of_get found] at other

theorem item_eq_none {doc : Document} {n : Nat} (other : doc.isIndexable n = false) (i : Nat) :
    doc.item? n i = none := by
  apply Option.eq_none_iff_forall_ne_some.mpr
  intro c found
  simp [Document.isIndexable_of_item found] at other

theorem member_none_lenient :
    member doc false none n = (if doc.isObject n then doc.values n else []).map .ok := by
  rw [member]
  split <;> rfl

theorem member_some_lenient (name : String) :
    member doc false (some name) n = (doc.get? n name).toList.map .ok := by
  cases object : doc.isObject n with
  | true =>
    simp only [member, object, if_pos]
    cases doc.get? n name <;> rfl
  | false => simp [member, object, get_eq_none object, noMatch]

theorem members_lenient (names : List String) :
    members doc false names n = (names.filterMap (doc.get? n)).map .ok := by
  cases object : doc.isObject n with
  | true => simp [members, object]
  | false =>
    have none : names.filterMap (doc.get? n) = [] := by
      simpa using fun name _ => get_eq_none object name
    simp [members, object, none, noMatch]

theorem item_lenient (index : Int32) :
    item doc false index n = (position? doc n index).toList.map .ok := by
  cases indexable : doc.isIndexable n with
  | true =>
    simp only [item, indexable, if_pos]
    cases position? doc n index <;> rfl
  | false =>
    simp [item, indexable, position?, item_eq_none indexable, noMatch]

theorem allItems_lenient :
    allItems doc false n = (if doc.isIndexable n then doc.values n else []).map .ok := by
  rw [allItems]
  split <;> rfl

end Lenient

/-- Steps lead to younger nodes. -/
theorem closed_from {doc : Document} (arena : Document.Arena doc) (n : Nat) : Closed doc (n ≤ ·) :=
  fun _ _ above below _ => Nat.le_trans above (Nat.le_of_lt (arena.toLinked.below_lt below))

theorem le_value {doc : Document} (arena : Document.Arena doc) {n v : Nat} (mem : v ∈ doc.values n) :
    n ≤ v :=
  values_within arena (closed_from arena n) (Nat.le_refl n) v mem

section Choices

variable {doc doc' : Document} (ext : Document.Extends doc doc') (arena : Document.Arena doc)
  (arena' : Document.Arena doc')
include ext arena arena'

theorem values_kept (n : Nat) : (doc'.values n).filter (· < doc.size) = doc.values n := by
  apply (ext.values arena arena' n).filter
  intro v mem
  exact (arena.toLinked.below_range (arena.values_below mem).2).2

theorem position_kept (n : Nat) (index : Int32) :
    (position? doc' n index).filter (· < doc.size) = position? doc n index := by
  rw [position?, position?]
  split
  · rfl
  · exact ext.item arena arena' n _

theorem selfAndBelow_kept {n : Nat} (old : n < doc.size) :
    (selfAndBelow doc' n).filter (· < doc.size) = selfAndBelow doc n := by
  have below : doc.descendants n = (doc'.descendants n).filter (· < doc.size) := by
    rw [arena.toLinked.descendants_eq, arena'.toLinked.descendants_eq, ext.preorder arena arena']
  -- A new node is left out on both sides, whatever it is.
  have same : ∀ d ∈ doc'.descendants n,
      (decide (d < doc.size) && !doc'.isProperty d) = (!doc.isProperty d && decide (d < doc.size)) := by
    intro d _
    rcases Nat.lt_or_ge d doc.size with older | fresh
    · simp [older, ext.isProperty older]
    · simp [Nat.not_lt_of_le fresh]
  rw [selfAndBelow, selfAndBelow, below, List.filter_filter, ← List.filter_congr same,
    List.filter_cons_of_pos (by simpa using old), List.filter_filter]

theorem propertiesBelow_kept (wanted : String → Bool) (n : Nat) :
    (propertiesBelow doc' wanted n).filter (· < doc.size) = propertiesBelow doc wanted n := by
  have below : doc.descendants n = (doc'.descendants n).filter (· < doc.size) := by
    rw [arena.toLinked.descendants_eq, arena'.toLinked.descendants_eq, ext.preorder arena arena']
  rw [propertiesBelow, propertiesBelow, below, List.filter_filterMap, List.filterMap_filter,
    List.filter_filter, List.filterMap_filter]
  apply List.filterMap_congr
  intro d _
  rcases Nat.lt_or_ge d doc.size with older | fresh
  · simp only [ext.first arena arena', ext.propertyName older, older, decide_true, Bool.and_true]
  · have none : doc.first? d = none := by rw [Document.first?, Document.node_of_size_le fresh]
    simp [ext.first arena arena', none]

/-- The values of the nodes of a type, which growth does not change. -/
theorem values_widens {typed typed' : Nat → Bool} (same : ∀ n < doc.size, typed' n = typed n) :
    Widens doc.size (fun n => (if typed n then doc.values n else []).map .ok)
      (fun n => (if typed' n then doc'.values n else []).map .ok) := by
  apply Widens.of_nodes (fun _ => rfl) (fun _ => rfl)
  · intro n old
    rw [same n old]
    split
    · exact values_kept ext arena arena' n
    · rfl
  · intro n m mem
    split at mem
    · exact le_value arena' mem
    · cases mem

theorem member_widens (name : Option String) :
    Widens doc.size (member doc false name) (member doc' false name) := by
  cases name with
  | none =>
    rw [funext (member_none_lenient doc), funext (member_none_lenient doc')]
    exact values_widens ext arena arena' fun _ => ext.isObject
  | some s =>
    apply Widens.of_nodes (member_some_lenient doc · s) (member_some_lenient doc' · s)
    · intro n _
      rw [← Option.toList_filter, ext.get arena arena']
    · intro n m mem
      exact le_value arena' (get_mem_values arena' (by simpa using mem))

theorem members_widens (names : List String) :
    Widens doc.size (members doc false names) (members doc' false names) := by
  apply Widens.of_nodes (members_lenient doc · names) (members_lenient doc' · names)
  · intro n _
    simp only [List.filter_filterMap, ext.get arena arena']
  · intro n m mem
    obtain ⟨s, _, found⟩ := List.mem_filterMap.mp mem
    exact le_value arena' (get_mem_values arena' found)

theorem item_widens (index : Int32) :
    Widens doc.size (item doc false index) (item doc' false index) := by
  apply Widens.of_nodes (item_lenient doc · index) (item_lenient doc' · index)
  · intro n _
    rw [← Option.toList_filter, position_kept ext arena arena']
  · intro n m mem
    exact le_value arena' (position_mem_values arena' (by simpa using mem))

theorem allItems_widens : Widens doc.size (allItems doc false) (allItems doc' false) := by
  rw [funext (allItems_lenient doc), funext (allItems_lenient doc')]
  exact values_widens ext arena arena' fun _ => ext.isIndexable

theorem propertiesBelow_widens (wanted : String → Bool) :
    Widens doc.size (fun n => (propertiesBelow doc wanted n).map .ok)
      (fun n => (propertiesBelow doc' wanted n).map .ok) := by
  apply Widens.of_nodes (fun _ => rfl) (fun _ => rfl)
  · intro n _
    exact propertiesBelow_kept ext arena arena' wanted n
  · intro n m mem
    exact propertiesBelow_within arena' (closed_from arena' n) (Nat.le_refl n) wanted m mem

theorem scan_widens (name : Option String) : Widens doc.size (scan doc name) (scan doc' name) := by
  cases name with
  | none =>
    apply Widens.of_nodes (fun _ => rfl) (fun _ => rfl)
    · intro n old
      exact selfAndBelow_kept ext arena arena' old
    · intro n m mem
      exact selfAndBelow_within arena' (closed_from arena' n) (Nat.le_refl n) m mem
  | some s => exact propertiesBelow_widens ext arena arena' (· == s)

end Choices

end Select

mutual

/-- The step has no slice and no query, at any depth. -/
def Step.isSteady : Step → Bool
  | .slice .. | .query _ | .scanQuery _ => false
  | .pipe steps | .union steps => stepsSteady steps
  | _ => true

def stepsSteady : List Step → Bool
  | [] => true
  | step :: steps => step.isSteady && stepsSteady steps

end

open Select

section Runs

variable {doc doc' : Document} {top : Nat}

-- Slices count from the end of a row that may have got longer, and a condition may change its answer
-- when there is more below the candidate. All other steps look at one candidate at a time.
mutual

/-- One step: what is selected from an enlarged row is an enlarged row. -/
theorem Step.select_enlarges (ext : Document.Extends doc doc') (arena : Document.Arena doc)
    (arena' : Document.Arena doc') (inside : top < doc.size) (step : Step)
    (steady : step.isSteady = true) {l l' : List Item} (row : Enlarges doc.size l l') :
    Enlarges doc.size (step.select doc top false l) (step.select doc' top false l') := by
  cases step with
  | slice | query | scanQuery => cases steady
  | root =>
    rw [Step.select, Step.select]
    exact .known inside .nil
  | member name =>
    rw [Step.select, Step.select]
    exact (member_widens ext arena arena' name).each row
  | members names =>
    rw [Step.select, Step.select]
    exact (members_widens ext arena arena' names).each row
  | item index =>
    cases index with
    | some index =>
      rw [Step.select, Step.select]
      exact (item_widens ext arena arena' index).each row
    | none =>
      rw [Step.select, Step.select]
      exact (allItems_widens ext arena arena').each row
  | items indexes =>
    rw [Step.select, Step.select]
    exact (Widens.flatMap (item_widens ext arena arena') indexes).each row
  | scan name =>
    rw [Step.select, Step.select]
    exact (scan_widens ext arena arena' name).each row
  | scanNames names =>
    rw [Step.select, Step.select]
    exact (propertiesBelow_widens ext arena arena' names.contains).each row
  | pipe steps =>
    rw [Step.select, Step.select]
    exact selectSteps_enlarges ext arena arena' inside steps steady row
  | union steps =>
    rw [Step.select, Step.select]
    exact (selectEach_enlarges ext arena arena' inside steps steady row).distinct fun _ _ => Iff.rfl

theorem selectSteps_enlarges (ext : Document.Extends doc doc') (arena : Document.Arena doc)
    (arena' : Document.Arena doc') (inside : top < doc.size) (steps : List Step)
    (steady : stepsSteady steps = true) {l l' : List Item} (row : Enlarges doc.size l l') :
    Enlarges doc.size (selectSteps doc top false steps l) (selectSteps doc' top false steps l') := by
  cases steps with
  | nil =>
    rw [selectSteps, selectSteps]
    exact row
  | cons step steps =>
    simp only [stepsSteady, Bool.and_eq_true] at steady
    rw [selectSteps, selectSteps]
    have first := Step.select_enlarges ext arena arena' inside step steady.1 row
    exact selectSteps_enlarges ext arena arena' inside steps steady.2 first

theorem selectEach_enlarges (ext : Document.Extends doc doc') (arena : Document.Arena doc)
    (arena' : Document.Arena doc') (inside : top < doc.size) (steps : List Step)
    (steady : stepsSteady steps = true) {l l' : List Item} (row : Enlarges doc.size l l') :
    Enlarges doc.size (selectEach doc top false steps l) (selectEach doc' top false steps l') := by
  cases steps with
  | nil =>
    rw [selectEach, selectEach]
    exact .nil
  | cons step steps =>
    simp only [stepsSteady, Bool.and_eq_true] at steady
    rw [selectEach, selectEach]
    have first := Step.select_enlarges ext arena arena' inside step steady.1 row
    exact first.append (selectEach_enlarges ext arena arena' inside steps steady.2 row)

end

end Runs

namespace Document

/-- What a path without slices and queries selected before a document grew is what it selects afterwards,
without the nodes that are new: the same nodes in the same order and each as often. -/
theorem evaluate_enlarged {doc : Document} (reachable : Reachable doc) (edits : List Edit) (path : Path)
    (steady : stepsSteady path.steps = true) {top start : Nat} (inside : top < doc.size)
    (begins : start < doc.size) :
    ∃ nodes nodes' : List Nat,
      path.evaluate doc top start false = nodes.map .ok ∧
      path.evaluate (edits.foldl after doc) top start false = nodes'.map .ok ∧
      nodes'.filter (· < doc.size) = nodes := by
  have ext := reachable.extends_run edits
  have arena := Arena.of_reachable reachable
  have arena' := Arena.of_reachable (reachable.run edits)
  exact (selectSteps_enlarges ext arena arena' inside path.steps steady (.known begins .nil)).exists_nodes

/-- All at and below the start, and once more what is named with the empty name. -/
def sweeping : Path := ⟨[.union [.scan none, .scanNames [""]]]⟩

/-- `stumbling` with an object in its constructor, which gets a member, and a further member of the root. -/
def furtherEdits : List Edit :=
  [.push 3 .object, .insert 7 "" .array, .insert root "a" .object, .insert root "b" (.value .null)]

/-- New nodes turn up in between, and the older ones stay in their order. -/
theorem evaluate_enlarged_stumbling :
    Reachable stumbling ∧ stepsSteady sweeping.steps = true ∧ root < stumbling.size ∧
    sweeping.evaluate stumbling root root false = [.ok 0, .ok 2, .ok 3, .ok 4, .ok 6] ∧
    sweeping.evaluate (furtherEdits.foldl after stumbling) root root false =
      [.ok 0, .ok 2, .ok 3, .ok 4, .ok 7, .ok 9, .ok 6, .ok 11] ∧
    ∃ nodes nodes' : List Nat,
      sweeping.evaluate stumbling root root false = nodes.map .ok ∧
      sweeping.evaluate (furtherEdits.foldl after stumbling) root root false = nodes'.map .ok ∧
      nodes'.filter (· < stumbling.size) = nodes := by
  have reachable : Reachable stumbling := (Reachable.root .object).run _
  have steady : stepsSteady sweeping.steps = true := by cbv
  have inside : root < stumbling.size := by cbv
  refine ⟨reachable, steady, inside, by cbv, by cbv, ?_⟩
  exact evaluate_enlarged reachable furtherEdits sweeping steady inside inside

end Document
end PathQuery
