import Mathlib
import PathQuery.Proofs.Document.Walk
import PathQuery.Proofs.Path.Place
import PathQuery.Proofs.Path.RoundTrip
import PathQuery.Select.Path

/-! Selecting by places. Steps that take turns select what the walk of the turns finds, so the text of a
place selects its node, unless the place begins with the name `$`. -/
namespace PathQuery

section Steps

variable (doc : Document) (root : Nat) (strict : Bool)

def Turn.choice (turn : Turn) (n : Nat) : List Item :=
  match turn with
  | name s => Select.member doc strict (some s) n
  | index i => Select.item doc strict (Int32.ofNat i) n

theorem select_step (turn : Turn) (current : List Item) :
    turn.step.select doc root strict current = Select.each (turn.choice doc strict) current := by
  cases turn <;> rfl

/-- A row of errors only. -/
def Fruitless (items : List Item) : Prop := ∀ n, Except.ok n ∉ items

theorem fruitless_noMatch (e : SelectError) : Fruitless (Select.noMatch strict e) := by
  intro n mem
  cases strict
  · cases mem
  · cases List.mem_singleton.mp mem

theorem fruitless_each {f : Nat → List Item} {current : List Item} (none : Fruitless current) :
    Fruitless (Select.each f current) := by
  intro n mem
  obtain ⟨item, among, here⟩ := List.mem_flatMap.mp mem
  cases item with
  | ok m => exact none m among
  | error e => cases List.mem_singleton.mp here

theorem fruitless_turns (turns : List Turn) {current : List Item} (none : Fruitless current) :
    Fruitless (selectSteps doc root strict (turns.map Turn.step) current) := by
  induction turns generalizing current with
  | nil => exact none
  | cons turn turns ih =>
    rw [List.map_cons, selectSteps, select_step]
    exact ih (fruitless_each none)

variable {doc strict}

theorem position_ofNat {i : Nat} (small : i < 2 ^ 31) (n : Nat) :
    Select.position? doc n (Int32.ofNat i) = doc.item? n i := by
  rw [Select.position?, Turn.index_toInt small, if_neg (by omega), Int.toNat_natCast]

theorem choice_found {turn : Turn} (small : turn.inRange = true) {n m : Nat}
    (found : turn.target? doc n = some m) : turn.choice doc strict n = [.ok m] := by
  cases turn with
  | name s =>
    rw [Turn.target?] at found
    simp only [Turn.choice, Select.member, Document.isObject_of_get found, if_true, found]
  | index i =>
    rw [Turn.target?] at found
    simp only [Turn.choice, Select.item, Document.isIndexable_of_item found, if_true,
      position_ofNat (of_decide_eq_true small), found]

theorem choice_missed {turn : Turn} (small : turn.inRange = true) {n : Nat}
    (missed : turn.target? doc n = none) : Fruitless (turn.choice doc strict n) := by
  cases turn with
  | name s =>
    rw [Turn.target?] at missed
    simp only [Turn.choice, Select.member, missed]
    split <;> exact fruitless_noMatch strict _
  | index i =>
    rw [Turn.target?] at missed
    simp only [Turn.choice, Select.item, position_ofNat (of_decide_eq_true small), missed]
    split <;> exact fruitless_noMatch strict _

/-- The steps of turns select what the turns lead to, if they lead anywhere. -/
theorem select_turns {turns : List Turn} (small : turns.all Turn.inRange = true) {n m : Nat} :
    selectSteps doc root strict (turns.map Turn.step) [.ok n] = [.ok m] ↔
      doc.walk? turns n = some m := by
  induction turns generalizing n with
  | nil => simp [selectSteps, Document.walk?]
  | cons turn turns ih =>
    simp only [List.all_cons, Bool.and_eq_true] at small
    rw [List.map_cons, selectSteps, select_step, Document.walk?]
    have single : Select.each (turn.choice doc strict) [.ok n] = turn.choice doc strict n := by
      simp [Select.each]
    rw [single]
    cases target : turn.target? doc n with
    | some v =>
      rw [choice_found small.1 target]
      exact ih small.2
    | none =>
      have missed : Fruitless (turn.choice doc strict n) := choice_missed small.1 target
      have fruitless := fruitless_turns doc root strict turns missed
      constructor
      · intro selected
        rw [selected] at fruitless
        exact absurd (List.mem_singleton_self _) (fruitless m)
      · intro found
        cases found

end Steps

namespace Document

theorem collect_single (items : List Item) (m : Nat) :
    Select.collect items = .ok [m] ↔ items = [.ok m] := by
  constructor
  · intro collected
    match items with
    | [] => cases collected
    | .error e :: _ => cases collected
    | [.ok n] =>
      cases collected
      rfl
    | .ok n :: .ok k :: rest =>
      rw [Select.collect, Select.collect] at collected
      cases more : Select.collect rest <;> rw [more] at collected <;> cases collected
    | .ok n :: .error e :: rest => cases collected
  · rintro rfl
    rfl

theorem selectText_of_readPath {text : String} {steps : List Step} (doc : Document)
    (read : Reader.readPath text.toList = .ok steps) (start : Nat) (strict : Bool) (m : Nat) :
    doc.selectText text start strict = .ok [m] ↔
      selectSteps doc start strict steps [.ok start] = [.ok m] := by
  have parsed : Path.parse text = .ok ⟨steps⟩ := Path.parse_ok.mpr read
  rw [← collect_single, selectText, parsed]
  change (Select.collect (selectSteps doc start strict steps [.ok start])).mapError _ = _ ↔ _
  cases Select.collect (selectSteps doc start strict steps [.ok start]) with
  | error e => constructor <;> (intro h; cases h)
  | ok nodes => constructor <;> (intro h; cases h; rfl)

/-- The text of a place selects what its turns lead to once a front name `$` is lost. -/
theorem selectText_placeText {doc : Document} {n : Nat}
    (small : ∀ i, .index i ∈ doc.turns n → i < 2 ^ 31) (start : Nat) (strict : Bool) (m : Nat) :
    doc.selectText (doc.placeText n) start strict = .ok [m] ↔
      doc.walk? (Turn.read (doc.turns n)) start = some m := by
  have inRange : (doc.turns n).all Turn.inRange = true := by
    rw [List.all_eq_true]
    intro turn mem
    cases turn with
    | name s => rfl
    | index i => exact decide_eq_true (small i mem)
  have kept : (Turn.read (doc.turns n)).all Turn.inRange = true := by
    rw [List.all_eq_true] at inRange ⊢
    intro turn mem
    rw [Turn.read] at mem
    split at mem
    · exact inRange turn (List.mem_of_mem_tail mem)
    · exact inRange turn mem
  have read : Reader.readPath (doc.placeText n).toList =
      .ok ((Turn.read (doc.turns n)).map Turn.step) := by
    rw [placeText, String.toList_ofList]
    exact Reader.readPath_placeChars inRange
  rw [selectText_of_readPath doc read, select_turns start kept]

/-- The place of a node selects the node, or a property's value, exactly if it does not begin with the
name `$`. -/
theorem selectText_placeText_iff {doc : Document} (reachable : Reachable doc) {n : Nat}
    (inside : n < doc.size) (small : ∀ i, .index i ∈ doc.turns n → i < 2 ^ 31) (strict : Bool) :
    (∃ m, doc.childValue? n = some m ∧
      doc.selectText (doc.placeText n) root strict = .ok [m]) ↔
        (doc.turns n).head? ≠ some (.name "$") := by
  have arena := Arena.of_reachable reachable
  have walk := arena.walk_turns inside
  simp only [selectText_placeText small]
  constructor
  · rintro ⟨m, value, found⟩ front
    rw [value] at walk
    rw [Turn.read, if_pos front] at found
    have whole := arena.turns_walk walk
    have part := arena.turns_walk found
    rw [whole, List.append_cancel_left_eq] at part
    cases turns : doc.turns n with
    | nil =>
      rw [turns] at front
      cases front
    | cons turn rest =>
      rw [turns, List.tail_cons] at part
      exact List.cons_ne_self turn rest part
  · intro front
    obtain ⟨m, value⟩ := arena.exists_childValue n
    rw [Turn.read, if_neg front, walk]
    exact ⟨m, value, value⟩

/-- A document in which the way to a property passes a constructor, a name in quotes and an inner
name `$`. -/
def winding : Document :=
  [Edit.push 0 .object, .push 0 (.constructor "Date"), .push 2 .object, .insert 3 "it's" .array,
    .push 5 .object, .insert 6 "$" (.value .null)].foldl after (ofRoot .array)

theorem selectText_winding : winding.placeText 7 = "[1][0]['it\\'s'][0].$" ∧
    winding.selectText (winding.placeText 7) root true = .ok [8] := by
  refine ⟨by cbv, ?_⟩
  have turns : winding.turns 7 = [.index 1, .index 0, .name "it's", .index 0, .name "$"] := by cbv
  have reachable : Reachable winding := (Reachable.root .array).run _
  have inside : 7 < winding.size := by decide +kernel
  obtain ⟨m, value, selected⟩ := (selectText_placeText_iff reachable inside (by simp [turns]) true).mpr
    (by simp [turns])
  have eight : winding.childValue? 7 = some 8 := by cbv
  rw [eight, Option.some.injEq] at value
  rw [selected, value]

/-- An object whose one property is named `$`. -/
def dollar : Document := (ofRoot .object).after (.insert 0 "$" (.value .null))

/-- The place of its value is written `$`, which is read as the root. -/
theorem selectText_dollar : Reachable dollar ∧ dollar.childValue? 2 = some 2 ∧
    dollar.selectText (dollar.placeText 2) root true = .ok [0] := by
  refine ⟨(Reachable.root .object).edit _, by cbv, by cbv⟩

end Document
end PathQuery
