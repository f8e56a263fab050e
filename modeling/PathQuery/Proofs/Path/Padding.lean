import PathQuery.Proofs.Path.Local
import PathQuery.Proofs.Path.Steady

/-! Spaces around a path. What the steps read from a text leaves the reader in one of a few states, whatever
comes behind that closes no bracket; from the state follows what spaces behind the text change. Main
statement: spaces in front only move the place of a fault, and spaces behind change nothing, unless the text
ends in a dot and would be a path if a name followed; then the spaces make it one. -/
namespace PathQuery

/-- Where a character splits a text whose tail lacks it, it stands in front of the tail. -/
theorem exists_of_append_eq {c : Char} {s tail x rest : List Char} (absent : c ∉ tail)
    (same : s ++ tail = x ++ c :: rest) : ∃ left, s = x ++ c :: left ∧ rest = left ++ tail := by
  rcases List.append_eq_append_iff.mp same with ⟨y, _, behind⟩ | ⟨y, front, behind⟩
  · exact absurd (behind ▸ List.mem_append_right y List.mem_cons_self) absent
  · cases y with
    | nil =>
      cases behind
      exact absurd List.mem_cons_self absent
    | cons d y =>
      cases behind
      exact ⟨y, front, rfl⟩

namespace Reader

open Lexeme Indexer

/-- A bracket ends in the text, or it is not ended by anything that lacks its closing character. -/
theorem readIndexer_append (close : Char) (deep : Bool) (s : List Char) :
    (∃ step x left, s = x ++ close :: left ∧
      ∀ t, found (readIndexer close deep (s ++ t)) = .ok (step, left ++ t)) ∨
    ∀ t, close ∉ t → ∀ r, found (readIndexer close deep (s ++ t)) ≠ .ok r := by
  by_cases closes : ∃ t, close ∉ t ∧ ∃ r, found (readIndexer close deep (s ++ t)) = .ok r
  · obtain ⟨t, absent, ⟨step, rest⟩, read⟩ := closes
    obtain ⟨x, text, keeps⟩ := readIndexer_enclosed read
    obtain ⟨left, rfl, rfl⟩ := exists_of_append_eq absent text
    refine .inl ⟨step, x, left, rfl, fun t' => ?_⟩
    rw [List.append_assoc, List.cons_append]
    exact keeps (left ++ t')
  · exact .inr fun t absent r read => closes ⟨t, absent, r, read⟩

/-- The text ends behind a dot. -/
def Dangling (before : Before) (s : List Char) : Prop :=
  s = [] ∧ before = .dot ∨ s.getLast? = some '.'

theorem dangling_append (before : Before) (x : List Char) (c : Char) (s : List Char) :
    Dangling before (x ++ c :: s) ↔ Dangling (if c = '.' then .dot else .indexer) s := by
  cases s with
  | nil => by_cases dot : c = '.' <;> simp [Dangling, dot]
  | cons d s => simp [Dangling, List.getLast?_cons]

theorem dangling_afterDot (s : List Char) : Dangling .dot (afterDot s).2 ↔ Dangling .dot s := by
  cases s with
  | nil => rfl
  | cons c s =>
    by_cases dot : c = '.'
    · subst dot
      exact (dangling_append .dot [] '.' s).symm
    · rw [afterDot, if_neg dot]

/-- What may come behind a text: it closes no bracket, and it does not go on with a dot. -/
structure Behind (s : List Char) : Prop where
  bracket : ']' ∉ s
  parenthesis : ')' ∉ s
  dot : s.head? ≠ some '.'

theorem afterDot_append {t : List Char} (behind : Behind t) (s : List Char) :
    afterDot (s ++ t) = ((afterDot s).1, (afterDot s).2 ++ t) := by
  cases s with
  | nil =>
    cases t with
    | nil => rfl
    | cons c t =>
      have other : c ≠ '.' := by
        rintro rfl
        exact behind.dot rfl
      simp [afterDot, other]
  | cons c s => by_cases dot : c = '.' <;> simp [afterDot, dot]

/-- Where the reading of steps stands at the end of a text. -/
inductive Standing (before : Before) (deep : Bool) (s : List Char) : Prop where
  /-- The steps have ended in front of a character that belongs to none. -/
  | ended (steps : List Step) (c : Char) (left : List Char) (suffix : c :: left <:+ s)
      (reads : ∀ t, Behind t →
        reached (readSteps false before deep (s ++ t)) = .ok (steps, c :: (left ++ t)))
  /-- The text is at fault, or a bracket is open. -/
  | refused (never : ∀ t, Behind t → ∀ r, reached (readSteps false before deep (s ++ t)) ≠ .ok r)
  /-- The steps go on behind some that are complete and behind the characters of a name. -/
  | within (steps : List Step) (before' : Before) (deep' : Bool) (name : List Char)
      (plain : ∀ c ∈ name, (!endsName false c) = true)
      (dangling : Dangling before s ↔ before' = .dot ∧ name = [])
      (reads : ∀ t, Behind t → reached (readSteps false before deep (s ++ t)) =
        (reached (readSteps false before' deep' (name ++ t))).map fun r => (steps ++ r.1, r.2))

/-- Steps in front of a text. -/
theorem Standing.prepend {before before' : Before} {deep deep' : Bool} {s left : List Char}
    (standing : Standing before' deep' left) (steps : List Step) (suffix : left <:+ s)
    (dangling : Dangling before s ↔ Dangling before' left)
    (reads : ∀ t, Behind t → reached (readSteps false before deep (s ++ t)) =
      (reached (readSteps false before' deep' (left ++ t))).map fun r => (steps ++ r.1, r.2)) :
    Standing before deep s := by
  cases standing with
  | ended more c rest inner onward =>
    refine .ended (steps ++ more) c rest (inner.trans suffix) fun t behind => ?_
    rw [reads t behind, onward t behind]
    rfl
  | refused never =>
    refine .refused fun t behind r read => ?_
    rw [reads t behind] at read
    obtain ⟨r', onward, _⟩ := map_eq_ok read
    exact never t behind r' onward
  | within more before'' deep'' name plain inner onward =>
    refine .within (steps ++ more) before'' deep'' name plain (dangling.trans inner) fun t behind => ?_
    rw [reads t behind, onward t behind]
    cases reached (readSteps false before'' deep'' (name ++ t)) with
    | error fault => rfl
    | ok r => simp [Except.map]

theorem not_dangling_name {name : List Char} (plain : ∀ c ∈ name, (!endsName false c) = true) :
    name.getLast? ≠ some '.' := by
  intro last
  exact absurd (plain '.' (List.mem_of_getLast? last)) (by decide)

/-- A name, which may have no characters, and what stands behind the character that ends it. -/
theorem reached_readSteps_span (before : Before) (deep : Bool) {name : List Char} {c : Char}
    (plain : ∀ c ∈ name, (!endsName false c) = true) (ends : (!endsName false c) = false)
    (rest : List Char) :
    reached (readSteps false before deep (name ++ c :: rest)) =
      if before = .indexer ∧ !name.isEmpty then
        .error ⟨.unexpectedAfterIndexer (name.headD ' '), name ++ c :: rest⟩
      else if c = '[' ∨ c = '(' then
        (found (readIndexer (if c = '[' then ']' else ')') (deep && name.isEmpty) rest)).bind
          fun (step, left) => (reached (readSteps false .indexer false left)).map
            fun r => (nameSteps deep name ++ step :: r.1, r.2)
      else if c = '.' then
        (reached (readSteps false .dot ((deep && name.isEmpty) || (afterDot rest).1)
          (afterDot rest).2)).map fun r => (nameSteps deep name ++ r.1, r.2)
      else .ok (nameSteps deep name, c :: rest) := by
  have stop : StopsAt (!endsName false ·) (c :: rest) := stopsAt_cons.mpr ends
  rw [reached_readSteps]
  simp only [takeWhile_span plain stop, dropWhile_span plain stop, Bool.false_eq_true, and_false,
    if_false]

/-- Every text leaves the reader in one of the states. -/
theorem standing (before : Before) (deep : Bool) (s : List Char) : Standing before deep s := by
  -- on the length: what is left behind a bracket or a dot is shorter
  induction length : s.length using Nat.strongRecOn generalizing before deep s with
  | ind n ih =>
    obtain ⟨name, tail, rfl, plain, stop⟩ := exists_span (!endsName false ·) s
    cases tail with
    | nil =>
      -- the whole text may be the beginning of a longer name, so nothing of it is read yet
      have dangling : Dangling before (name ++ []) ↔ before = .dot ∧ name = [] := by
        simp [Dangling, not_dangling_name plain, and_comm]
      refine .within [] before deep name plain dangling fun t behind => ?_
      rw [List.append_nil]
      cases reached (readSteps false before deep (name ++ t)) <;> rfl
    | cons c rest =>
      have span (t : List Char) :=
        reached_readSteps_span before deep plain (stopsAt_cons.mp stop) (rest ++ t)
      have whole (t : List Char) : name ++ c :: rest ++ t = name ++ c :: (rest ++ t) := by simp
      have shorter : rest.length < n := by
        rw [← length, List.length_append, List.length_cons]
        omega
      by_cases front : before = .indexer ∧ !name.isEmpty
      · refine .refused fun t _ r read => ?_
        rw [whole, span, if_pos front] at read
        cases read
      by_cases bracket : c = '[' ∨ c = '('
      · have closing : ∀ t, Behind t → (if c = '[' then ']' else ')') ∉ t := by
          intro t behind
          split
          · exact behind.bracket
          · exact behind.parenthesis
        rcases readIndexer_append (if c = '[' then ']' else ')') (deep && name.isEmpty) rest with
          ⟨step, x, left, text, indexer⟩ | never
        · have other : (if c = '[' then ']' else ')') ≠ '.' := by split <;> decide
          have split : name ++ c :: rest = (name ++ c :: x) ++ (if c = '[' then ']' else ')') :: left := by
            simp [text]
          have le : left.length < n := by
            rw [text, List.length_append, List.length_cons] at shorter
            omega
          refine (ih _ le .indexer false left rfl).prepend (nameSteps deep name ++ [step]) ?_ ?_
            fun t behind => ?_
          · rw [split]
            exact (List.suffix_cons _ _).trans (List.suffix_append _ _)
          · rw [split, dangling_append, if_neg other]
          · rw [whole, span, if_neg front, if_pos bracket, indexer t]
            simp only [Except.bind, List.append_assoc, List.singleton_append]
        · refine .refused fun t behind r read => ?_
          rw [whole, span, if_neg front, if_pos bracket] at read
          obtain ⟨r', indexer, _⟩ := bind_eq_ok read
          exact never t (closing t behind) r' indexer
      by_cases dot : c = '.'
      · subst dot
        have le := afterDot_le rest
        have onward := ih _ (Nat.lt_of_le_of_lt le shorter) .dot
          ((deep && name.isEmpty) || (afterDot rest).1) (afterDot rest).2 rfl
        refine onward.prepend (nameSteps deep name) ?_ ?_ fun t behind => ?_
        · exact (afterDot_suffix rest).trans ((List.suffix_cons _ _).trans (List.suffix_append _ _))
        · rw [dangling_append, if_pos rfl, dangling_afterDot]
        · rw [whole, span, if_neg front, if_neg bracket, if_pos rfl, afterDot_append behind]
      · refine .ended (nameSteps deep name) c rest (List.suffix_append _ _) fun t _ => ?_
        rw [whole, span, if_neg front, if_neg bracket, if_neg dot]

/-- The text is steps, spaces at its end apart. -/
def Accepts (before : Before) (deep : Bool) (s : List Char) (steps : List Step) : Prop :=
  ∃ left, reached (readSteps false before deep s) = .ok (steps, left) ∧ Blank left

theorem behind_blank {pad : List Char} (blank : Blank pad) : Behind pad where
  bracket mem := absurd (blank _ mem) (by decide)
  parenthesis mem := absurd (blank _ mem) (by decide)
  dot head := absurd (blank _ (List.mem_of_head? head)) (by decide)

theorem behind_nil : Behind [] := behind_blank blank_nil

/-- The last name of a text, which may have no characters, and spaces behind it. -/
theorem reached_readSteps_last (before : Before) (deep : Bool) {name pad : List Char}
    (plain : ∀ c ∈ name, (!endsName false c) = true) (blank : Blank pad) :
    reached (readSteps false before deep (name ++ pad)) =
      if before = .indexer ∧ !name.isEmpty then
        .error ⟨.unexpectedAfterIndexer (name.headD ' '), name ++ pad⟩
      else if before = .dot ∧ name = [] ∧ pad = [] then .error ⟨.unexpectedEnd, []⟩
      else .ok (nameSteps deep name, pad) := by
  rw [reached_readSteps]
  cases pad with
  | nil =>
    simp only [takeWhile_span plain (stopsAt_nil _), dropWhile_span plain (stopsAt_nil _),
      List.isEmpty_iff, and_true]
  | cons c pad =>
    obtain rfl : c = ' ' := blank c List.mem_cons_self
    have stop : StopsAt (!endsName false ·) (' ' :: pad) := stopsAt_cons.mpr rfl
    simp only [takeWhile_span plain stop, dropWhile_span plain stop]
    simp

theorem accepts_last {before : Before} {deep : Bool} {name pad : List Char} {steps : List Step}
    (plain : ∀ c ∈ name, (!endsName false c) = true) (blank : Blank pad) :
    Accepts before deep (name ++ pad) steps ↔ steps = nameSteps deep name ∧
      ¬(before = .indexer ∧ !name.isEmpty) ∧ ¬(before = .dot ∧ name = [] ∧ pad = []) := by
  rw [Accepts, reached_readSteps_last before deep plain blank]
  split
  · rename_i front
    simp [front]
  · rename_i front
    split
    · rename_i dot
      simp [dot]
    · rename_i dot
      simp only [Except.ok.injEq, Prod.mk.injEq, front, dot, not_false_eq_true, and_self, and_true]
      constructor
      · rintro ⟨_, ⟨same, _⟩, _⟩
        exact same.symm
      · exact fun same => ⟨pad, ⟨same.symm, rfl⟩, blank⟩

theorem accepts_ended {before : Before} {deep : Bool} {s t : List Char} {steps more : List Step}
    {left : List Char} (read : reached (readSteps false before deep (s ++ t)) = .ok (more, left)) :
    Accepts before deep (s ++ t) steps ↔ more = steps ∧ Blank left := by
  rw [Accepts, read]
  constructor
  · rintro ⟨_, ⟨⟩, blank⟩
    exact ⟨rfl, blank⟩
  · rintro ⟨rfl, blank⟩
    exact ⟨left, rfl, blank⟩

theorem accepts_within {before before' : Before} {deep deep' : Bool} {s name t : List Char}
    {steps more : List Step} (reads : reached (readSteps false before deep (s ++ t)) =
      (reached (readSteps false before' deep' (name ++ t))).map fun r => (steps ++ r.1, r.2)) :
    Accepts before deep (s ++ t) more ↔
      ∃ others, more = steps ++ others ∧ Accepts before' deep' (name ++ t) others := by
  rw [Accepts, reads]
  constructor
  · rintro ⟨left, read, blank⟩
    obtain ⟨⟨others, _⟩, onward, same⟩ := map_eq_ok read
    cases same
    exact ⟨others, rfl, _, onward, blank⟩
  · rintro ⟨others, rfl, left, onward, blank⟩
    rw [onward]
    exact ⟨left, rfl, blank⟩

/-- A text that ends behind a dot is not read to its end. -/
theorem not_accepts_dangling {before : Before} {deep : Bool} {s : List Char} {steps : List Step}
    (dangling : Dangling before s) : ¬ Accepts before deep s steps := by
  rw [← List.append_nil s]
  cases standing before deep s with
  | ended more c left suffix reads =>
    rw [accepts_ended (reads [] behind_nil), List.append_nil]
    rintro ⟨_, blank⟩
    obtain ⟨x, rfl⟩ := suffix
    have last : (c :: left).getLast? = some '.' := by
      simpa [Dangling, List.getLast?_append] using dangling
    exact absurd (blank '.' (List.mem_of_getLast? last)) (by decide)
  | refused never =>
    rintro ⟨left, read, _⟩
    exact never [] behind_nil _ read
  | within more before' deep' name plain inner reads =>
    obtain ⟨rfl, rfl⟩ := inner.mp dangling
    rw [accepts_within (reads [] behind_nil)]
    rintro ⟨others, _, onward⟩
    exact ((accepts_last plain blank_nil).mp onward).2.2 ⟨rfl, rfl, rfl⟩

/-- Behind a dot, spaces are enough. -/
theorem accepts_dot_blank {deep : Bool} {pad : List Char} {steps : List Step} (blank : Blank pad) :
    Accepts .dot deep pad steps ↔ steps = [] ∧ pad ≠ [] := by
  have last : Accepts .dot deep ([] ++ pad) steps ↔ _ := accepts_last (by simp) blank
  simpa [nameSteps] using last

theorem accepts_dot_name {deep : Bool} {steps : List Step} :
    Accepts .dot deep ['a'] steps ↔ steps = [nameStep deep ['a']] := by
  have last : Accepts .dot deep (['a'] ++ []) steps ↔ _ := accepts_last (by simp [endsName]) blank_nil
  simpa [nameSteps] using last

/-- Spaces behind a text change nothing if it does not end in a dot; if it does, they take the place of a
name. -/
theorem accepts_append {before : Before} {deep : Bool} {s pad : List Char} {steps : List Step}
    (blank : Blank pad) :
    Accepts before deep (s ++ pad) steps ↔ Accepts before deep s steps ∨
      pad ≠ [] ∧ Dangling before s ∧ ∃ step, Accepts before deep (s ++ ['a']) (steps ++ [step]) := by
  have spaces := behind_blank blank
  have letter : Behind ['a'] := ⟨by decide, by decide, by decide⟩
  have visible (t : List Char) : ¬ Blank (t ++ ['a']) := fun blank =>
    absurd (blank 'a' (by simp)) (by decide)
  cases standing before deep s with
  | ended more c left suffix reads =>
    have whole : Accepts before deep (s ++ []) steps ↔ more = steps ∧ Blank (c :: (left ++ [])) :=
      accepts_ended (reads [] behind_nil)
    rw [List.append_nil, List.append_nil] at whole
    rw [accepts_ended (reads pad spaces), whole, ← List.cons_append, blank_append]
    simp only [blank, and_true, accepts_ended (reads ['a'] letter), ← List.cons_append, visible,
      and_false, exists_false, or_false]
  | refused never =>
    have none {t : List Char} (behind : Behind t) (others : List Step) :
        ¬ Accepts before deep (s ++ t) others := by
      rintro ⟨left, read, _⟩
      exact never t behind _ read
    have whole : ¬ Accepts before deep s steps := by simpa using none behind_nil steps
    simp only [none spaces, none letter, whole, exists_false, and_false, or_false]
  | within first before' deep' name plain inner reads =>
    rw [accepts_within (reads pad spaces)]
    by_cases dangling : Dangling before s
    · obtain ⟨rfl, rfl⟩ := inner.mp dangling
      simp only [List.nil_append, accepts_dot_blank blank, not_accepts_dangling dangling, false_or,
        dangling, true_and, accepts_within (reads ['a'] letter), accepts_dot_name]
      constructor
      · rintro ⟨_, rfl, rfl, more⟩
        exact ⟨more, nameStep deep' ['a'], [nameStep deep' ['a']], by simp, rfl⟩
      · rintro ⟨more, step, _, same, rfl⟩
        exact ⟨[], by simpa using List.append_inj_left' same rfl, rfl, more⟩
    · -- the last name, or what stands in its place, ends in front of a space as it does at the end
      have same (others : List Step) : Accepts before' deep' (name ++ pad) others ↔
          Accepts before' deep' (name ++ []) others := by
        have front : ¬(before' = .dot ∧ name = []) := inner.not.mp dangling
        rw [accepts_last plain blank, accepts_last plain blank_nil]
        simp only [← and_assoc, front, false_and, not_false_eq_true]
      have whole : Accepts before deep (s ++ []) steps ↔ _ := accepts_within (reads [] behind_nil)
      simp only [same]
      rw [← whole, List.append_nil]
      simp only [dangling, false_and, and_false, or_false]

theorem trimmed_append {pad : List Char} (blank : Blank pad) (text : List Char) :
    trimmed (text ++ pad) = trimmed text := by
  by_cases nothing : Blank text
  · have both : Blank (text ++ pad) := blank_append.mpr ⟨nothing, blank⟩
    rw [trimmed, trimmed, skipSpaces_eq_nil.mpr both, skipSpaces_eq_nil.mpr nothing]
  · have blank' : Blank pad.reverse := fun c mem => blank c (List.mem_reverse.mp mem)
    rw [trimmed, skipSpaces_append nothing, List.reverse_append, skipSpaces_blank blank', trimmed]

theorem readPath_ok_iff {text : List Char} {steps : List Step} :
    readPath text = .ok steps ↔ Bare text ∧ steps = [] ∨
      ¬ Bare text ∧ Accepts .start false (dropRoot (skipSpaces text)) steps := by
  unfold Bare trimmed
  rw [readPath_eq]
  split
  · rename_i bare
    simp only [bare, true_and, not_true_eq_false, false_and, or_false, Except.ok.injEq]
    exact eq_comm
  · rename_i longer
    simp only [longer, false_and, not_false_eq_true, true_and, false_or]
    constructor
    · intro read
      obtain ⟨⟨value, left⟩, steps', rest⟩ := bind_eq_ok read
      dsimp only at rest
      split at rest
      · rename_i blank
        cases rest
        exact ⟨left, steps', skipSpaces_eq_nil.mp blank⟩
      · cases rest
    · rintro ⟨left, read, blank⟩
      rw [read]
      simp only [Except.bind, skipSpaces_eq_nil.mpr blank]

theorem dropRoot_append {s : List Char} (nonempty : s ≠ []) (further : s ≠ ['$']) (t : List Char) :
    dropRoot (s ++ t) = dropRoot s ++ t := by
  match s with
  | [] => exact absurd rfl nonempty
  | [c] =>
    have other : c ≠ '$' := by
      rintro rfl
      exact further rfl
    simp [dropRoot, other]
  | c :: d :: s =>
    unfold dropRoot
    split
    · rename_i front
      cases front
      rfl
    · rename_i front
      cases front
      rfl
    · rename_i noDot noBracket
      split
      · rename_i front
        cases front
        exact absurd rfl (noDot _)
      · rename_i front
        cases front
        exact absurd rfl (noBracket _)
      · rfl

theorem getLast_suffix {s t : List Char} (suffix : s <:+ t) (nonempty : s ≠ []) :
    t.getLast? = s.getLast? := by
  obtain ⟨x, rfl⟩ := suffix
  rw [List.getLast?_append, List.getLast?_eq_some_getLast nonempty, Option.some_or]

theorem dropRoot_nonempty {s : List Char} (nonempty : s ≠ []) : dropRoot s ≠ [] := by
  unfold dropRoot
  split
  · simp
  · simp
  · exact nonempty

theorem dangling_dropRoot {text : List Char} (visible : ¬ Blank text) :
    Dangling .start (dropRoot (skipSpaces text)) ↔ text.getLast? = some '.' := by
  have nonempty : dropRoot (skipSpaces text) ≠ [] :=
    dropRoot_nonempty (skipSpaces_eq_nil.not.mpr visible)
  have suffix := (dropRoot_suffix (skipSpaces text)).trans (skipSpaces_suffix text)
  simp [Dangling, nonempty, getLast_suffix suffix nonempty]

theorem not_blank_of_not_bare {text : List Char} (longer : ¬ Bare text) : ¬ Blank text := by
  intro blank
  apply longer
  rw [Bare, trimmed, skipSpaces_eq_nil.mpr blank]
  exact .inl rfl

theorem dropRoot_skipSpaces_append {text : List Char} (longer : ¬ Bare text) (t : List Char) :
    dropRoot (skipSpaces (text ++ t)) = dropRoot (skipSpaces text) ++ t := by
  have visible := not_blank_of_not_bare longer
  have further : skipSpaces text ≠ ['$'] := by
    intro root
    apply longer
    rw [Bare, trimmed, root]
    exact .inr rfl
  rw [skipSpaces_append visible, dropRoot_append (skipSpaces_eq_nil.not.mpr visible) further]

theorem not_bare_dangling {text : List Char} (last : text.getLast? = some '.') : ¬ Bare text :=
  not_bare_of_mem (by decide) (by decide) (List.mem_of_getLast? last)

/-- Spaces behind a text change nothing, unless it ends in a dot behind which a name would make it a path;
then they make it the path without that name. -/
theorem readPath_append {text pad : List Char} (blank : Blank pad) {steps : List Step} :
    readPath (text ++ pad) = .ok steps ↔ readPath text = .ok steps ∨
      pad ≠ [] ∧ text.getLast? = some '.' ∧ ∃ step, readPath (text ++ ['a']) = .ok (steps ++ [step]) := by
  have same : Bare (text ++ pad) ↔ Bare text := by rw [Bare, Bare, trimmed_append blank]
  by_cases bare : Bare text
  · have last : text.getLast? ≠ some '.' := fun last => not_bare_dangling last bare
    simp [readPath_ok_iff, same, bare, last]
  · have named : ¬ Bare (text ++ ['a']) :=
      not_bare_of_mem (c := 'a') (by decide) (by decide) (by simp)
    simp only [readPath_ok_iff, same, bare, named, false_and, not_false_eq_true, true_and, false_or,
      dropRoot_skipSpaces_append bare, accepts_append blank,
      dangling_dropRoot (not_blank_of_not_bare bare)]

/-- A text that ends in a dot is no path. -/
theorem not_readPath_dangling {text : List Char} (last : text.getLast? = some '.') (steps : List Step) :
    readPath text ≠ .ok steps := by
  have longer := not_bare_dangling last
  have dangling := (dangling_dropRoot (not_blank_of_not_bare longer)).mpr last
  simp [readPath_ok_iff, longer, not_accepts_dangling dangling]

theorem readPath_spaces {pad : List Char} (blank : Blank pad) (text : List Char) :
    readPath (pad ++ text) = readPath text := by
  rw [readPath_eq, readPath_eq, skipSpaces_blank blank]

end Reader

theorem SyntaxError.ofFault_append (front : List Char) {text : List Char} {fault : SyntaxFault}
    (inside : fault.rest <:+ text) :
    ofFault (front ++ text) fault =
      ⟨(ofFault text fault).cause, (ofFault text fault).position + utf8Length front⟩ := by
  obtain ⟨x, text⟩ := inside
  simp only [ofFault, SyntaxError.mk.injEq, true_and, ← text, utf8Length_append]
  omega

/-- A text of spaces only. -/
def spaces (n : Nat) : String := String.ofList (List.replicate n ' ')

theorem toList_spaces (n : Nat) : (spaces n).toList = List.replicate n ' ' := by
  rw [spaces, String.toList_ofList]

theorem blank_spaces (n : Nat) : Indexer.Blank (spaces n).toList := by
  intro c mem
  rw [toList_spaces] at mem
  exact List.eq_of_mem_replicate mem

theorem utf8Length_spaces (n : Nat) : utf8Length (spaces n).toList = n := by
  rw [toList_spaces]
  induction n with
  | zero => rfl
  | succ n ih =>
    rw [List.replicate_succ, utf8Length_cons, ih, Nat.add_comm]
    rfl

namespace Path

/-- Spaces in front of a text move the place of a fault and nothing else. -/
theorem parse_spaces (s : String) (i : Nat) :
    parse (spaces i ++ s) = (parse s).mapError fun e => ⟨e.cause, e.position + i⟩ := by
  rw [parse, parse, String.toList_append, Reader.readPath_spaces (blank_spaces i)]
  cases read : Reader.readPath s.toList with
  | ok steps => rfl
  | error fault =>
    have inside := Reader.readPath_forward s.toList fault read
    change Except.error _ = Except.error _
    rw [SyntaxError.ofFault_append _ inside, utf8Length_spaces]

/-- A text that ends in a dot and would be a path if a name followed, and the path in front of that name. -/
def Unfinished (s : String) (path : Path) : Prop :=
  s.toList.getLast? = some '.' ∧ ∃ step, parse (s ++ "a") = .ok ⟨path.steps ++ [step]⟩

theorem parse_append_spaces (s : String) (j : Nat) (path : Path) :
    parse (s ++ spaces j) = .ok path ↔ parse s = .ok path ∨ 0 < j ∧ Unfinished s path := by
  have some_ : (spaces j).toList ≠ [] ↔ 0 < j := by
    rw [toList_spaces, ne_eq, List.replicate_eq_nil_iff, Nat.pos_iff_ne_zero]
  have named : (s ++ "a").toList = s.toList ++ ['a'] := String.toList_append
  simp only [parse_ok, Unfinished, named, String.toList_append, some_,
    Reader.readPath_append (blank_spaces j)]

theorem parse_unfinished {s : String} {path : Path} (unfinished : Unfinished s path) (other : Path) :
    parse s ≠ .ok other := by
  rw [ne_eq, parse_ok]
  exact Reader.not_readPath_dangling unfinished.1 other.steps

/-- Spaces around a text. Those in front move the place of a fault by their number and change nothing else.
With some behind it, the text is a path if and only if it is one without them, and the same one, or is
unfinished. So those behind do not matter if and only if the text is finished. -/
theorem parse_padded (s : String) (i j : Nat) :
    parse (spaces i ++ s) = ((parse s).mapError fun e => ⟨e.cause, e.position + i⟩) ∧
    (∀ path, parse (spaces i ++ s ++ spaces j) = .ok path ↔
      parse s = .ok path ∨ 0 < j ∧ Unfinished s path) ∧
    ((∀ path, parse (spaces i ++ s ++ spaces j) = .ok path ↔ parse s = .ok path) ↔
      ¬(0 < j ∧ ∃ path, Unfinished s path)) := by
  have padded (path : Path) : parse (spaces i ++ s ++ spaces j) = .ok path ↔
      parse s = .ok path ∨ 0 < j ∧ Unfinished s path := by
    rw [String.append_assoc, parse_spaces, ← parse_append_spaces]
    cases parse (s ++ spaces j) <;> simp [Except.mapError]
  refine ⟨parse_spaces s i, padded, ?_⟩
  constructor
  · rintro same ⟨some_, path, unfinished⟩
    have read := (same path).mp ((padded path).mpr (.inr ⟨some_, unfinished⟩))
    exact parse_unfinished unfinished path read
  · intro finished path
    rw [padded]
    exact or_iff_left fun ⟨some_, unfinished⟩ => finished ⟨some_, path, unfinished⟩

/-- A dot at the end is refused, but not with a space behind it. -/
theorem parse_trailing_dot :
    parse "$." = .error ⟨.unexpectedEnd, 2⟩ ∧ parse (spaces 0 ++ "$." ++ spaces 1) = .ok ⟨[]⟩ ∧
    ¬(parse (spaces 0 ++ "$." ++ spaces 1) = .ok ⟨[]⟩ ↔ parse "$." = .ok ⟨[]⟩) := by
  have refused : parse "$." = .error ⟨.unexpectedEnd, 2⟩ := by cbv
  have padded : parse (spaces 0 ++ "$." ++ spaces 1) = .ok ⟨[]⟩ := by cbv
  refine ⟨refused, padded, fun same => ?_⟩
  have read := same.mp padded
  rw [refused] at read
  cases read

end Path
end PathQuery
