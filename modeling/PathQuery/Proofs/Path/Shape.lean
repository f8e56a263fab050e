import Mathlib.Logic.Relation
import PathQuery.Proofs.Path.RoundTrip

/-! The pieces of a path at every depth, and the shape of each piece by itself. A path is well formed
exactly if its pieces have their shapes and no step of its own is the root. Main statement: such are the
paths that are read, and apart from infinite numbers all of them are. -/
namespace PathQuery

/-- A piece of a path. -/
inductive Piece where
  | step (step : Step)
  | condition (condition : Condition)
  | term (term : Term)

namespace Pattern

/-- A backslash and another character than a slash, or one character that is no backslash. -/
def IsAtom (cs : List Char) : Prop :=
  (∃ c, c ≠ '/' ∧ cs = ['\\', c]) ∨ ∃ c, c ≠ '\\' ∧ cs = [c]

theorem isSource_of_atom {cs : List Char} (atom : IsAtom cs) : isSource cs = true := by
  rcases atom with ⟨c, other, rfl⟩ | ⟨c, other, rfl⟩
  · simp [isSource, other]
  · simp [isSource, other]

theorem isSource_iff_atoms {cs : List Char} :
    isSource cs = true ↔ ∃ atoms : List (List Char), cs = atoms.flatten ∧ ∀ a ∈ atoms, IsAtom a := by
  constructor
  · intro source
    fun_induction isSource cs with
    | case1 => exact ⟨[], rfl, by simp⟩
    | case2 c =>
      have single : c ≠ '\\' := by simpa using source
      exact ⟨[[c]], rfl, by simpa using .inr ⟨c, single, rfl⟩⟩
    | case3 e cs ih =>
      simp only [Bool.and_eq_true, decide_eq_true_eq] at source
      obtain ⟨atoms, rfl, all⟩ := ih source.2
      exact ⟨['\\', e] :: atoms, rfl, List.forall_mem_cons.mpr ⟨.inl ⟨e, source.1, rfl⟩, all⟩⟩
    | case4 c e cs single ih =>
      obtain ⟨atoms, same, all⟩ := ih source
      exact ⟨[c] :: atoms, by simp [same], List.forall_mem_cons.mpr ⟨.inr ⟨c, single, rfl⟩, all⟩⟩
  · rintro ⟨atoms, rfl, all⟩
    induction atoms with
    | nil => rfl
    | cons a atoms ih =>
      obtain ⟨first, rest⟩ := List.forall_mem_cons.mp all
      exact isSource_append (isSource_of_atom first) (ih rest)

end Pattern

namespace Piece

/-- The pieces directly inside a piece. -/
def inside : Piece → List Piece
  | .step (.query c) | .step (.scanQuery c) => [.condition c]
  | .step (.pipe steps) | .step (.union steps) => steps.map .step
  | .step _ => []
  | .condition (.compare _ left right) => .term left :: (right.map .term).toList
  | .condition (.compound _ members) => members.map .condition
  | .term (.path steps) => steps.map .step
  | .term _ => []

/-- The first piece is the second or inside it at some depth. -/
def Within : Piece → Piece → Prop := Relation.ReflTransGen fun inner outer => inner ∈ outer.inside

/-- The shape of a piece, whatever is inside. -/
def Shaped : Piece → Prop
  | .step (.members names) | .step (.scanNames names) => 2 ≤ names.length
  | .step (.items indexes) => 2 ≤ indexes.length
  | .step (.pipe _) | .step (.union _) => False
  | .step _ => True
  | .condition (.compare relation _ right) => relation = .present ↔ right = none
  | .condition (.compound connective members) =>
    2 ≤ members.length ∧ (∀ m ∈ members.dropLast, m.isComparison = true) ∧
      ∀ last ∈ members.getLast?, last.connective? ≠ some connective
  | .term (.literal value) => value.isWellFormed = true
  | .term (.pattern pattern) =>
    (∀ c ∈ pattern.flags.toList, c ∈ Pattern.knownFlags) ∧
      ∃ atoms : List (List Char), pattern.source.toList = atoms.flatten ∧ ∀ a ∈ atoms, Pattern.IsAtom a
  | .term (.path steps) => .root ∉ steps.tail

/-- What is well formed with all inside. A step may be the root here: whether it may is up to what it is
a step of. -/
def Fit : Piece → Prop
  | .step s => s = .root ∨ s.isWellFormed = true
  | .condition c => c.isWellFormed = true
  | .term t => t.isWellFormed = true

end Piece

theorem stepsWellFormed_iff {steps : List Step} :
    stepsWellFormed steps = true ↔ ∀ s ∈ steps, s.isWellFormed = true := by
  induction steps with
  | nil => simp [stepsWellFormed]
  | cons s steps ih => simp [stepsWellFormed, ih]

theorem membersWellFormed_iff {connective : Connective} {members : List Condition} :
    membersWellFormed connective members = true ↔
      members ≠ [] ∧ (∀ m ∈ members, m.isWellFormed = true) ∧
        (∀ m ∈ members.dropLast, m.isComparison = true) ∧
        ∀ last ∈ members.getLast?, last.connective? ≠ some connective := by
  induction members with
  | nil => simp [membersWellFormed]
  | cons m members ih =>
    cases members with
    | nil => simp [membersWellFormed]
    | cons m' members =>
      rw [membersWellFormed, Bool.and_eq_true, Bool.and_eq_true, ih]
      · simp only [List.dropLast_cons_cons, List.getLast?_cons_cons, List.forall_mem_cons]
        tauto
      · simp

/-- Steps without the root among them are well formed exactly if each of them is fit. -/
theorem stepsWellFormed_iff_fit {steps : List Step} :
    stepsWellFormed steps = true ↔ .root ∉ steps ∧ ∀ s ∈ steps, (Piece.step s).Fit := by
  rw [stepsWellFormed_iff]
  constructor
  · intro all
    refine ⟨fun mem => ?_, fun s mem => .inr (all s mem)⟩
    exact absurd (all _ mem) (by decide)
  · rintro ⟨absent, all⟩ s mem
    rcases all s mem with rfl | wellFormed
    · exact absurd mem absent
    · exact wellFormed

theorem Term.path_wellFormed_iff {steps : List Step} :
    (Term.path steps).isWellFormed = true ↔ .root ∉ steps.tail ∧ ∀ s ∈ steps, (Piece.step s).Fit := by
  by_cases front : ∃ rest, steps = .root :: rest
  · obtain ⟨rest, rfl⟩ := front
    rw [isWellFormed, stepsWellFormed_iff_fit, List.tail_cons, List.forall_mem_cons]
    simp [Piece.Fit]
  · have same : (Term.path steps).isWellFormed = stepsWellFormed steps := by
      rw [isWellFormed]
      exact fun rest whole => front ⟨rest, whole⟩
    rw [same, stepsWellFormed_iff_fit]
    cases steps with
    | nil => simp
    | cons s rest =>
      have other : .root ≠ s := fun root => front ⟨rest, root ▸ rfl⟩
      simp [other]

namespace Piece

theorem fit_condition_iff (c : Condition) : (Piece.condition c).Fit ↔ (Piece.condition c).Shaped ∧
    ∀ inner ∈ (Piece.condition c).inside, inner.Fit := by
  cases c with
  | compare relation left right =>
    cases right with
    | none => simp [Fit, Shaped, inside, Condition.isWellFormed]
    | some right => simp [Fit, Shaped, inside, Condition.isWellFormed, and_assoc]
  | compound connective members =>
    simp only [Fit, Shaped, inside, Condition.isWellFormed, membersWellFormed_iff, Bool.and_eq_true,
      decide_eq_true_eq, List.forall_mem_map]
    constructor
    · rintro ⟨two, _, all, comparisons, last⟩
      exact ⟨⟨two, comparisons, last⟩, all⟩
    · rintro ⟨⟨two, comparisons, last⟩, all⟩
      have nonempty : members ≠ [] := by
        rintro rfl
        cases two
      exact ⟨two, nonempty, all, comparisons, last⟩

/-- A piece is fit exactly if it has its shape and what is directly inside is fit. -/
theorem fit_iff (piece : Piece) : piece.Fit ↔ piece.Shaped ∧ ∀ inner ∈ piece.inside, inner.Fit := by
  cases piece with
  | step s => cases s <;> simp [Fit, Shaped, inside, Step.isWellFormed]
  | condition c => exact fit_condition_iff c
  | term t =>
    cases t with
    | literal value => simp [Fit, Shaped, inside, Term.isWellFormed]
    | pattern p =>
      simp [Fit, Shaped, inside, Term.isWellFormed, Pattern.isWellFormed, Pattern.isSource_iff_atoms,
        Pattern.isFlag, and_comm]
    | path steps => simp [Fit, Shaped, inside, Term.path_wellFormed_iff]

theorem sizeOf_lt_of_mem_inside {inner outer : Piece} (mem : inner ∈ outer.inside) :
    sizeOf inner < sizeOf outer := by
  have listed {α : Type} [SizeOf α] {a : α} {as : List α} (among : a ∈ as) : sizeOf a < sizeOf as :=
    List.sizeOf_lt_of_mem among
  cases outer with
  | step s =>
    cases s with
    | query c | scanQuery c =>
      cases List.mem_singleton.mp mem
      simp
    | pipe steps | union steps =>
      obtain ⟨s, among, rfl⟩ := List.mem_map.mp mem
      have := listed among
      simp
      omega
    | root | member | members | item | items | slice | scan | scanNames => cases mem
  | condition c =>
    cases c with
    | compare relation left right =>
      cases right with
      | none =>
        cases List.mem_singleton.mp mem
        simp
      | some right =>
        rcases List.mem_pair.mp mem with rfl | rfl <;> (simp; omega)
    | compound connective members =>
      obtain ⟨m, among, rfl⟩ := List.mem_map.mp mem
      have := listed among
      simp
      omega
  | term t =>
    cases t with
    | path steps =>
      obtain ⟨s, among, rfl⟩ := List.mem_map.mp mem
      have := listed among
      simp
      omega
    | literal | pattern => cases mem

theorem Within.fit {inner piece : Piece} (within : Within inner piece) (fit : piece.Fit) : inner.Fit := by
  induction within using Relation.ReflTransGen.head_induction_on with
  | refl => exact fit
  | head mem _ ih => exact ((fit_iff _).mp ih).2 _ mem

/-- A piece is fit exactly if it has its shape together with all pieces in it. -/
theorem fit_iff_shaped (piece : Piece) : piece.Fit ↔ ∀ inner, Within inner piece → inner.Shaped := by
  constructor
  · intro fit inner within
    exact ((fit_iff inner).mp (within.fit fit)).1
  · intro shaped
    -- what is inside is smaller
    induction size : sizeOf piece using Nat.strongRecOn generalizing piece with
    | ind n ih =>
      refine (fit_iff piece).mpr ⟨shaped piece .refl, fun inner mem => ?_⟩
      have smaller : sizeOf inner < n := size ▸ sizeOf_lt_of_mem_inside mem
      exact ih _ smaller inner (fun deeper within => shaped deeper (within.tail mem)) rfl

end Piece

namespace Path

/-- A piece is in a path, at any depth. -/
def Occurs (path : Path) (piece : Piece) : Prop := ∃ s ∈ path.steps, piece.Within (.step s)

theorem isWellFormed_iff_shaped {path : Path} : path.isWellFormed = true ↔
    .root ∉ path.steps ∧ ∀ piece, path.Occurs piece → piece.Shaped := by
  rw [isWellFormed, stepsWellFormed_iff_fit]
  refine and_congr_right fun _ => ?_
  simp only [Piece.fit_iff_shaped]
  constructor
  · rintro all piece ⟨s, mem, within⟩
    exact all s mem piece within
  · intro all s mem piece within
    exact all piece ⟨s, mem, within⟩

/-- In a path that is read every piece has its shape, and the path itself never goes back to the root.
Conversely every such path is read from some text if its numbers are finite. -/
theorem parse_shaped :
    (∀ text path, parse text = .ok path →
      .root ∉ path.steps ∧ ∀ piece, path.Occurs piece → piece.Shaped) ∧
    ∀ path : Path, .root ∉ path.steps → (∀ piece, path.Occurs piece → piece.Shaped) →
      path.isFinite = true → ∃ text, parse text = .ok path := by
  constructor
  · intro text path accepted
    exact isWellFormed_iff_shaped.mp (wellFormed_of_parse accepted)
  · intro path rootless shaped finite
    exact ⟨path.text, parse_text_of_finite (isWellFormed_iff_shaped.mpr ⟨rootless, shaped⟩) finite⟩

/-- A comparison with a pattern, and a condition that asks for it in a path of its own. -/
def slashed : Condition := .compare .matching (.path []) (some (.pattern ⟨"x/\\\\y", "i"⟩))

def asked : Condition := .compare .present (.path [.root, .scanQuery slashed]) none

def asking : Condition :=
  .compound .all [asked,
    .compound .any [.compare .strictNe (.literal .null) (some (.path [.items [0, -1]])),
      .compare .present (.literal (.string "]")) none]]

theorem parse_shaped_asking :
    (parse "$.a[?($..[?(@=~/x\\/\\\\y/gi)] && null !== @[0, -1] || ']')]" =
      .ok ⟨[.member (some "a"), .query asking]⟩ ∧
      (Piece.term (.pattern ⟨"x/\\\\y", "i"⟩)).Shaped) ∧
    ∃ text, parse text = .ok intricate := by
  have accepted : parse "$.a[?($..[?(@=~/x\\/\\\\y/gi)] && null !== @[0, -1] || ']')]" =
      .ok ⟨[.member (some "a"), .query asking]⟩ := by cbv
  have pattern : Piece.term (.pattern ⟨"x/\\\\y", "i"⟩) ∈ (Piece.condition slashed).inside := by
    simp [slashed, Piece.inside]
  have condition : Piece.condition slashed ∈ (Piece.step (.scanQuery slashed)).inside :=
    List.mem_singleton_self _
  have step : Piece.step (.scanQuery slashed) ∈ (Piece.term (.path [.root, .scanQuery slashed])).inside :=
    List.mem_cons_of_mem _ (List.mem_singleton_self _)
  have term : Piece.term (.path [.root, .scanQuery slashed]) ∈ (Piece.condition asked).inside :=
    List.mem_singleton_self _
  have member : Piece.condition asked ∈ (Piece.condition asking).inside := List.mem_cons_self
  have query : Piece.condition asking ∈ (Piece.step (.query asking)).inside :=
    List.mem_singleton_self _
  have within : Piece.Within (.term (.pattern ⟨"x/\\\\y", "i"⟩)) (.step (.query asking)) :=
    .head pattern (.head condition (.head step (.head term (.head member (.single query)))))
  refine ⟨⟨accepted, (parse_shaped.1 _ _ accepted).2 _ ⟨.query asking, by simp, within⟩⟩, ?_⟩
  have shaped := isWellFormed_iff_shaped.mp (show intricate.isWellFormed = true by decide +kernel)
  exact parse_shaped.2 intricate shaped.1 shaped.2 (by decide +kernel)

end Path
end PathQuery
