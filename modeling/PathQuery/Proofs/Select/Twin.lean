import Mathlib
import PathQuery.Proofs.Document.Descend
import PathQuery.Proofs.Document.Twin
import PathQuery.Proofs.Select.Row

/-! Selection from two nodes with one JSON value. Rows of corresponding nodes lead every step to rows of
corresponding nodes, and a condition says the same of both sides; so no path leaves what lies below the
node it starts at, and none can tell a node from a copy of it. -/
namespace PathQuery

namespace Select

/-- Two runs end in related results, or in the same error. -/
inductive Agree {α β : Type} (R : α → β → Prop) :
    Except SelectError α → Except SelectError β → Prop where
  | ok {a : α} {b : β} (related : R a b) : Agree R (.ok a) (.ok b)
  | error (e : SelectError) : Agree R (.error e) (.error e)

/-- Rows whose entries agree one by one. -/
abbrev Rows {α β : Type} (R : α → β → Prop) (l : List (Except SelectError α))
    (l' : List (Except SelectError β)) : Prop := List.Forall₂ (Agree R) l l'

/-- Operands that stand for related nodes, or are the same value. -/
inductive SameOperand (R : Nat → Nat → Prop) : Operand → Operand → Prop where
  | node {m m' : Nat} (related : R m m') : SameOperand R (.node m) (.node m')
  | literal (v : Scalar) : SameOperand R (.literal v) (.literal v)
  | pattern (p : Pattern) : SameOperand R (.pattern p) (.pattern p)

section Rows

variable {α β : Type} {S : α → β → Prop} {R : Nat → Nat → Prop}

theorem rows_ok {as : List α} {bs : List β} (related : List.Forall₂ S as bs) :
    Rows S (as.map .ok) (bs.map .ok) := by
  refine List.rel_map (P := Agree S) ?_ related
  intro a b related
  exact .ok related

theorem rows_each {f g : Nat → List Item} (choice : ∀ m m', R m m' → Rows R (f m) (g m'))
    {l l' : List Item} (rows : Rows R l l') : Rows R (each f l) (each g l') := by
  induction rows with
  | nil => exact .nil
  | cons head _ ih =>
    cases head with
    | ok related => exact List.rel_append (choice _ _ related) ih
    | error e => exact .cons (.error e) ih

theorem rows_passing {f g : Nat → Except SelectError Bool} (test : ∀ m m', R m m' → f m = g m')
    {l l' : List Nat} (related : List.Forall₂ R l l') : Rows R (passing f l) (passing g l') := by
  refine List.rel_filterMap (P := Agree R) ?_ related
  intro m m' related
  dsimp only
  rw [test m m' related]
  rcases g m' with e | _ | _
  · exact .some (.error e)
  · exact .none
  · exact .some (.ok related)

/-- Where the relation joins each node to one other only, both rows drop nodes at the same places. -/
theorem rows_distinct (unique : ∀ m m' k k', R m m' → R k k' → (m = k ↔ m' = k'))
    {l l' : List Item} (rows : Rows R l l') {seen seen' : List Nat}
    (before : List.Forall₂ R seen seen') : Rows R (distinct seen l) (distinct seen' l') := by
  induction rows generalizing seen seen' with
  | nil => exact .nil
  | cons head _ ih =>
    cases head with
    | error e => exact .cons (.error e) (ih before)
    | @ok m m' related =>
      have known : m ∈ seen ↔ m' ∈ seen' := by
        clear ih
        induction before with
        | nil => exact iff_of_false List.not_mem_nil List.not_mem_nil
        | cons first _ ih =>
          rw [List.mem_cons, List.mem_cons, unique _ _ _ _ related first, ih]
      rw [distinct, distinct]
      by_cases mem : m ∈ seen
      · rw [if_pos (List.contains_iff_mem.mpr mem), if_pos (List.contains_iff_mem.mpr (known.mp mem))]
        exact ih before
      · rw [if_neg (mt List.contains_iff_mem.mp mem),
          if_neg (mt List.contains_iff_mem.mp (mt known.mpr mem))]
        exact .cons (.ok related) (ih (.cons related before))

theorem agree_collect {l : List (Except SelectError α)} {l' : List (Except SelectError β)}
    (rows : Rows S l l') : Agree (List.Forall₂ S) (collect l) (collect l') := by
  induction rows with
  | nil => exact .ok .nil
  | @cons _ _ l l' head _ ih =>
    cases head with
    | error e => exact .error e
    | ok related =>
      rw [collect, collect]
      generalize collect l = rest, collect l' = rest' at ih
      cases ih with
      | ok rest => exact .ok (.cons related rest)
      | error e => exact .error e

theorem anyM_eq {f : α → Except SelectError Bool} {g : β → Except SelectError Bool}
    (test : ∀ a b, S a b → f a = g b) {as : List α} {bs : List β} (related : List.Forall₂ S as bs) :
    as.anyM f = bs.anyM g := by
  induction related with
  | nil => rfl
  | cons head _ ih => rw [List.anyM_cons, List.anyM_cons, test _ _ head, ih]

end Rows

end Select

open Select

namespace Document.SameJson

variable {doc doc' : Document} {n n' : Nat}

section Operands

variable {a a' b b' : Operand} (same : SameJson doc doc' n n')
include same

theorem operand_value (operand : SameOperand (Twin doc doc' n n') a a') :
    a.value? doc = a'.value? doc' := by
  cases operand with
  | node twin => exact (same.alike twin).value
  | literal | pattern => rfl

theorem operand_pattern (operand : SameOperand (Twin doc doc' n n') a a') :
    a.pattern? doc = a'.pattern? doc' := by
  have value := same.operand_value operand
  cases operand with
  | pattern => rfl
  | node | literal => rw [Operand.pattern?, Operand.pattern?, value] <;> rintro p ⟨⟩

theorem holds_eq (relation : Relation) (left : SameOperand (Twin doc doc' n n') a a')
    (right : SameOperand (Twin doc doc' n n') b b') :
    relation.holds doc a b = relation.holds doc' a' b' := by
  rw [Relation.holds, Relation.holds, same.operand_value left, same.operand_value right,
    same.operand_pattern right]

theorem anyPair_eq (relation : Relation) {lefts rights lefts' rights' : List (Except SelectError Operand)}
    (left : Rows (SameOperand (Twin doc doc' n n')) lefts lefts')
    (right : Rows (SameOperand (Twin doc doc' n n')) rights rights') :
    anyPair doc relation lefts rights = anyPair doc' relation lefts' rights' := by
  have empty : lefts.isEmpty = lefts'.isEmpty := by cases left <;> rfl
  have collected := agree_collect right
  rw [anyPair, anyPair, empty]
  split
  · rfl
  generalize collect rights = all, collect rights' = all' at collected
  cases collected with
  | error e => rfl
  | @ok all all' right =>
    refine anyM_eq (S := Agree (SameOperand (Twin doc doc' n n'))) ?_ left
    intro a a' agree
    cases agree with
    | error e => rfl
    | ok left => exact anyM_eq (fun b b' right => same.holds_eq relation left right) right

end Operands

section Choices

variable {m m' : Nat} (same : SameJson doc doc' n n') (twin : Twin doc doc' n n' m m')
include same twin

theorem member_rows (name : Option String) :
    Rows (Twin doc doc' n n') (member doc false name m) (member doc' false name m') := by
  unfold member
  rw [← (same.alike twin).isObject]
  split
  · cases name with
    | none => exact rows_ok (same.values twin)
    | some s =>
      have value := same.get twin s
      dsimp only
      generalize doc.get? m s = v, doc'.get? m' s = v' at value
      cases value with
      | none => exact .nil
      | some inner => exact .cons (.ok inner) .nil
  · exact .nil

theorem members_rows (names : List String) :
    Rows (Twin doc doc' n n') (members doc false names m) (members doc' false names m') := by
  rw [members, members, ← (same.alike twin).isObject]
  split
  · refine rows_ok (List.rel_filterMap (R := Eq) ?_ (List.forall₂_refl names))
    rintro s _ rfl
    exact same.get twin s
  · exact .nil

theorem position (index : Int32) :
    Option.Rel (Twin doc doc' n n') (position? doc m index) (position? doc' m' index) := by
  rw [position?, position?]
  split
  · exact .none
  · exact same.item twin index.toInt.toNat

theorem item_rows (index : Int32) :
    Rows (Twin doc doc' n n') (Select.item doc false index m) (Select.item doc' false index m') := by
  rw [Select.item, Select.item, ← (same.alike twin).isIndexable]
  split
  · have there := same.position twin index
    generalize position? doc m index = c, position? doc' m' index = c' at there
    cases there with
    | none => exact .nil
    | some inner => exact .cons (.ok inner) .nil
  · exact .nil

theorem allItems_rows :
    Rows (Twin doc doc' n n') (allItems doc false m) (allItems doc' false m') := by
  rw [allItems, allItems, ← (same.alike twin).isIndexable]
  split
  · exact rows_ok (same.values twin)
  · exact .nil

theorem slice_rows (start stop : Option Int32) (stride : Int) :
    Rows (Twin doc doc' n n') (slice doc false start stop stride m)
      (slice doc' false start stop stride m') := by
  rw [slice, slice, ← (same.alike twin).isArray, ← same.len twin]
  split
  · cases Slice.positions (doc.len m) start stop stride with
    | nil => exact .nil
    | cons i positions =>
      refine rows_ok (List.rel_filterMap (R := Eq) ?_ (List.forall₂_refl (i :: positions)))
      rintro i _ rfl
      exact same.item twin i
  · exact .nil

theorem descendants :
    List.Forall₂ (Twin doc doc' n n') (doc.descendants m) (doc'.descendants m') := by
  rw [same.arena.toLinked.descendants_eq, same.arena'.toLinked.descendants_eq]
  exact same.preorder twin

theorem selfAndBelow :
    List.Forall₂ (Twin doc doc' n n') (Select.selfAndBelow doc m) (Select.selfAndBelow doc' m') := by
  refine .cons twin (List.rel_filter ?_ (same.descendants twin))
  intro d d' twin
  dsimp only
  rw [(same.alike twin).isProperty]

theorem propertiesBelow (wanted : String → Bool) :
    List.Forall₂ (Twin doc doc' n n') (Select.propertiesBelow doc wanted m)
      (Select.propertiesBelow doc' wanted m') := by
  refine List.rel_filterMap (R := Twin doc doc' n n') (fun p p' twin => same.first twin) ?_
  refine List.rel_filter ?_ (same.descendants twin)
  intro d d' twin
  dsimp only
  rw [(same.alike twin).name]

theorem scan_rows (name : Option String) :
    Rows (Twin doc doc' n n') (scan doc name m) (scan doc' name m') := by
  cases name with
  | none => exact rows_ok (same.selfAndBelow twin)
  | some s => exact rows_ok (same.propertiesBelow twin (· == s))

end Choices

/-- A node of one side has one counterpart, and two nodes do not share one. -/
theorem injective (same : SameJson doc doc' n n') (m m' k k' : Nat) (first : Twin doc doc' n n' m m')
    (second : Twin doc doc' n n' k k') : m = k ↔ m' = k' := by
  constructor
  · rintro rfl
    exact same.unique first second
  · rintro rfl
    exact same.symm.unique first.symm second.symm

-- A path inside a condition starts at the candidate, so every statement is about all pairs of
-- corresponding nodes; only what `$` means is fixed to the pair that all began with.
mutual

theorem select_rows (same : SameJson doc doc' n n') (step : Step)
    {l l' : List Item} (rows : Rows (Twin doc doc' n n') l l') :
    Rows (Twin doc doc' n n') (step.select doc n false l) (step.select doc' n' false l') := by
  cases step with
  | root =>
    rw [Step.select, Step.select]
    exact .cons (.ok .start) .nil
  | member name =>
    rw [Step.select, Step.select]
    exact rows_each (fun _ _ twin => same.member_rows twin name) rows
  | members names =>
    rw [Step.select, Step.select]
    exact rows_each (fun _ _ twin => same.members_rows twin names) rows
  | item index =>
    cases index with
    | some index =>
      rw [Step.select, Step.select]
      exact rows_each (fun _ _ twin => same.item_rows twin index) rows
    | none =>
      rw [Step.select, Step.select]
      exact rows_each (fun _ _ twin => same.allItems_rows twin) rows
  | items indexes =>
    rw [Step.select, Step.select]
    refine rows_each (fun m m' twin => ?_) rows
    refine List.rel_flatMap (R := Eq) (List.forall₂_refl indexes) ?_
    rintro index _ rfl
    exact same.item_rows twin index
  | slice start stop stride =>
    rw [Step.select, Step.select]
    split
    · exact .cons (.error .zeroStep) .nil
    · exact rows_each (fun _ _ twin => same.slice_rows twin start stop _) rows
  | scan name =>
    rw [Step.select, Step.select]
    exact rows_each (fun _ _ twin => same.scan_rows twin name) rows
  | scanNames names =>
    rw [Step.select, Step.select]
    exact rows_each (fun _ _ twin => rows_ok (same.propertiesBelow twin names.contains)) rows
  | query condition =>
    rw [Step.select, Step.select]
    refine rows_each (fun _ _ twin => ?_) rows
    exact rows_passing (R := Twin doc doc' n n') (fun _ _ => same.condition_holds condition)
      (same.values twin)
  | scanQuery condition =>
    rw [Step.select, Step.select]
    refine rows_each (fun _ _ twin => ?_) rows
    exact rows_passing (R := Twin doc doc' n n') (fun _ _ => same.condition_holds condition)
      (same.selfAndBelow twin)
  | pipe steps =>
    rw [Step.select, Step.select]
    exact same.selectSteps_rows steps rows
  | union steps =>
    rw [Step.select, Step.select]
    exact rows_distinct same.injective (same.selectEach_rows steps rows) .nil

theorem selectSteps_rows (same : SameJson doc doc' n n') (steps : List Step)
    {l l' : List Item} (rows : Rows (Twin doc doc' n n') l l') :
    Rows (Twin doc doc' n n') (selectSteps doc n false steps l) (selectSteps doc' n' false steps l') := by
  cases steps with
  | nil =>
    rw [selectSteps, selectSteps]
    exact rows
  | cons step steps =>
    rw [selectSteps, selectSteps]
    exact same.selectSteps_rows steps (same.select_rows step rows)

theorem selectEach_rows (same : SameJson doc doc' n n') (steps : List Step)
    {l l' : List Item} (rows : Rows (Twin doc doc' n n') l l') :
    Rows (Twin doc doc' n n') (selectEach doc n false steps l) (selectEach doc' n' false steps l') := by
  cases steps with
  | nil =>
    rw [selectEach, selectEach]
    exact .nil
  | cons step steps =>
    rw [selectEach, selectEach]
    exact List.rel_append (same.select_rows step rows) (same.selectEach_rows steps rows)

theorem condition_holds (same : SameJson doc doc' n n') (condition : Condition)
    {m m' : Nat} (twin : Twin doc doc' n n' m m') :
    condition.holds doc n m = condition.holds doc' n' m' := by
  match condition with
  | .compare relation left none =>
    have operands := same.term_operands left twin
    rw [Condition.holds, Condition.holds]
    generalize left.operands doc n m = l, left.operands doc' n' m' = l' at operands
    cases operands with
    | nil => rfl
    | cons head _ => cases head <;> rfl
  | .compare relation left (some right) =>
    rw [Condition.holds, Condition.holds]
    exact same.anyPair_eq relation (same.term_operands left twin) (same.term_operands right twin)
  | .compound .all members =>
    rw [Condition.holds, Condition.holds]
    exact same.allHold_eq members twin
  | .compound .any members =>
    rw [Condition.holds, Condition.holds]
    exact same.anyHolds_eq members twin

theorem allHold_eq (same : SameJson doc doc' n n') (members : List Condition)
    {m m' : Nat} (twin : Twin doc doc' n n' m m') :
    allHold doc n members m = allHold doc' n' members m' := by
  cases members with
  | nil => rw [allHold, allHold]
  | cons member members =>
    rw [allHold, allHold, same.condition_holds member twin, same.allHold_eq members twin]

theorem anyHolds_eq (same : SameJson doc doc' n n') (members : List Condition)
    {m m' : Nat} (twin : Twin doc doc' n n' m m') :
    anyHolds doc n members m = anyHolds doc' n' members m' := by
  cases members with
  | nil => rw [anyHolds, anyHolds]
  | cons member members =>
    rw [anyHolds, anyHolds, same.condition_holds member twin, same.anyHolds_eq members twin]

theorem term_operands (same : SameJson doc doc' n n') (term : Term)
    {m m' : Nat} (twin : Twin doc doc' n n' m m') :
    Rows (SameOperand (Twin doc doc' n n')) (term.operands doc n m) (term.operands doc' n' m') := by
  cases term with
  | literal v =>
    rw [Term.operands, Term.operands]
    exact .cons (.ok (.literal v)) .nil
  | pattern p =>
    rw [Term.operands, Term.operands]
    exact .cons (.ok (.pattern p)) .nil
  | path steps =>
    rw [Term.operands, Term.operands]
    refine List.rel_map (R := Agree (Twin doc doc' n n')) ?_
      (same.selectSteps_rows steps (.cons (.ok twin) .nil))
    intro item item' agree
    cases agree with
    | ok twin => exact .ok (.node twin)
    | error e => exact .error e

end

/-- The values that a text selects, or the error it leads to, are the same on both sides. -/
theorem selectText (same : SameJson doc doc' n n') (text : String) :
    (doc.selectText text n false).map (·.map doc.toJson) =
      (doc'.selectText text n' false).map (·.map doc'.toJson) := by
  rw [Document.selectText, Document.selectText]
  cases Path.parse text with
  | error e => rfl
  | ok path =>
    have rows := agree_collect (same.selectSteps_rows path.steps (.cons (.ok .start) .nil))
    simp only [Except.mapError, bind, Except.bind]
    rw [Path.select, Path.select, Path.evaluate, Path.evaluate]
    generalize collect (selectSteps doc n false path.steps [.ok n]) = a,
      collect (selectSteps doc' n' false path.steps [.ok n']) = b at rows
    cases rows with
    | error e => rfl
    | @ok nodes nodes' twins =>
      have values : nodes.map doc.toJson = nodes'.map doc'.toJson := by
        rw [← List.forall₂_eq_eq_eq, List.forall₂_map_left_iff, List.forall₂_map_right_iff]
        exact twins.imp fun _ _ twin => (same.alike twin).json
      exact congrArg Except.ok values

end Document.SameJson

namespace Document

/-- What a path selects from a node depends on the value of the node alone: a document made of that value
gives the same values in the same order, or the same error. -/
theorem selectText_copy {doc : Document} (reachable : Reachable doc) (isJson : IsJson doc) {n : Nat}
    (plain : doc.isProperty n = false) (text : String) :
    (doc.selectText text n false).map (·.map doc.toJson) =
      ((ofJson (doc.toJson n)).selectText text root false).map
        (·.map (ofJson (doc.toJson n)).toJson) :=
  (sameJson_copy reachable isJson plain).selectText text

/-- An inner object that has a property named as one of the outer object is, and a younger neighbour. -/
def nested : Document :=
  ofJson (.object [("limit", .integer 1),
    ("inner", .object [("limit", .integer 2),
      ("list", .array [.integer 1, .integer 2, .object [("limit", .integer 3)]])]),
    ("more", .integer 9)])

/-- What `$` names in the query is the inner limit, and the scan ends before the neighbour. -/
theorem selectText_copy_nested :
    Reachable nested ∧ IsJson nested ∧ nested.isProperty 4 = false ∧
    (nested.selectText "$..[?(@ >= $.limit)]" 4 false).map (·.map nested.toJson) =
      .ok [.integer 2, .integer 2, .integer 3] ∧
    ((ofJson (nested.toJson 4)).selectText "$..[?(@ >= $.limit)]" root false).map
        (·.map (ofJson (nested.toJson 4)).toJson) =
      .ok [.integer 2, .integer 2, .integer 3] := by
  have reachable : Reachable nested := .json (by decide +kernel)
  have isJson : IsJson nested := Arena.isJson_ofJson (by decide +kernel) (by decide +kernel)
  have plain : nested.isProperty 4 = false := by cbv
  have selected : (nested.selectText "$..[?(@ >= $.limit)]" 4 false).map (·.map nested.toJson) =
      .ok [.integer 2, .integer 2, .integer 3] := by cbv
  have copy := selectText_copy reachable isJson plain "$..[?(@ >= $.limit)]"
  exact ⟨reachable, isJson, plain, selected, copy ▸ selected⟩

end Document
end PathQuery
