import PathQuery.Proofs.Path.Turns
import PathQuery.Proofs.Select.Place

/-! The way down to a node, as its place shows it and as a path takes it. Main statement: exactly one way
leads from the root to a node; the path that takes it is written as the place behind a `$`, and selects the
node alone; and different nodes have different places, while a property shares that of its value. -/
namespace PathQuery.Document

section Ways

variable {doc : Document} (arena : Arena doc)
include arena

/-- The turns of a node lead to it from the root, and no others do. -/
theorem walk_root_iff {n : Nat} (inside : n < doc.size) (plain : doc.isProperty n = false)
    (turns : List Turn) : doc.walk? turns root = some n ↔ turns = doc.turns n := by
  constructor
  · intro found
    rw [arena.turns_walk found, arena.turns_root, List.nil_append]
  · rintro rfl
    rw [arena.walk_turns inside, childValue_plain plain]

theorem eq_of_placeText {n m : Nat} (hn : n < doc.size) (hm : m < doc.size)
    (plainN : doc.isProperty n = false) (plainM : doc.isProperty m = false)
    (same : doc.placeText n = doc.placeText m) : n = m := by
  have turns : doc.turns n = doc.turns m := Turn.placeChars_injective (String.ofList_injective same)
  have found := (walk_root_iff arena hm plainM _).mpr turns
  rw [(walk_root_iff arena hn plainN _).mpr rfl, Option.some.injEq] at found
  exact found

theorem placeText_value {p v : Nat} (property : doc.isProperty p = true)
    (value : doc.first? p = some v) : doc.placeText p = doc.placeText v := by
  obtain ⟨w, children, first, plain⟩ := arena.property_children property
  obtain rfl : w = v := Option.some.inj (first.symm.trans value)
  have mem : w ∈ doc.children p := children ▸ List.mem_singleton_self w
  rw [placeText, placeText, arena.turns_child mem, turn_eq_none property plain, Option.toList_none,
    List.append_nil]

end Ways

/-- Exactly one row of turns leads from the root to a node that is no property. As a path it is written as
the place of the node is, behind a `$` and where needed a dot, and it selects the node and nothing else.
Different nodes have different places, and a property has the place of its value. -/
theorem place_agrees {doc : Document} (reachable : Reachable doc) :
    (∀ n < doc.size, doc.isProperty n = false →
      ∃ turns, (∀ others, doc.walk? others root = some n ↔ others = turns) ∧
        (turns.all Turn.inRange = true →
          Path.text ⟨turns.map Turn.step⟩ = Turn.lead (doc.placeText n) ++ doc.placeText n ∧
          Path.evaluate doc ⟨turns.map Turn.step⟩ root root true = [.ok n])) ∧
    (∀ n < doc.size, ∀ m < doc.size, doc.isProperty n = false → doc.isProperty m = false →
      doc.placeText n = doc.placeText m → n = m) ∧
    ∀ p v, doc.isProperty p = true → doc.first? p = some v → doc.placeText p = doc.placeText v := by
  have arena := Arena.of_reachable reachable
  refine ⟨fun n inside plain => ?_, ?_, ?_⟩
  · have leads := walk_root_iff arena inside plain
    refine ⟨doc.turns n, leads, fun small => ⟨Turn.text_lead small, ?_⟩⟩
    exact (select_turns root small).mpr ((leads _).mpr rfl)
  · intro n hn m hm plainN plainM same
    exact eq_of_placeText arena hn hm plainN plainM same
  · intro p v property value
    exact placeText_value arena property value

/-- The value of the property that is named `$`, below a name in quotes and a constructor. -/
theorem place_agrees_winding :
    (winding.isProperty 8 = false ∧
      Path.text ⟨[Turn.index 1, .index 0, .name "it's", .index 0, .name "$"].map Turn.step⟩ =
        "$" ++ winding.placeText 8 ∧
      Path.evaluate winding ⟨[Turn.index 1, .index 0, .name "it's", .index 0, .name "$"].map Turn.step⟩
        root root true = [.ok 8]) ∧
    (winding.placeText 7 = winding.placeText 8 ∧ winding.placeText 8 ≠ winding.placeText 6) := by
  have reachable : Reachable winding := (Reachable.root .array).run _
  have inside : 8 < winding.size := by decide +kernel
  have plain : winding.isProperty 8 = false := by cbv
  obtain ⟨ways, apart, shared⟩ := place_agrees reachable
  obtain ⟨turns, only, agrees⟩ := ways 8 inside plain
  obtain rfl := (only [.index 1, .index 0, .name "it's", .index 0, .name "$"]).mp (by cbv)
  obtain ⟨text, selected⟩ := agrees (by decide)
  have place : winding.placeText 8 = "[1][0]['it\\'s'][0].$" := by cbv
  have lead : Turn.lead (winding.placeText 8) = "$" := by rw [place]; rfl
  refine ⟨⟨plain, lead ▸ text, selected⟩, shared 7 8 (by cbv) (by cbv), fun same => ?_⟩
  exact absurd (apart 8 inside 6 (by decide +kernel) plain (by cbv) same) (by decide)

end PathQuery.Document
