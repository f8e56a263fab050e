import Mathlib
import PathQuery.Proofs.Path.Steady

/-! The guarded run never ends in a mishap and reads what the readers read: for steps and all that nests in
them, by induction on how much is left of the text. From this, for every text: reading ends with a path or
with an error, and the place of an error is in the text and between two characters. -/
namespace PathQuery

open Run Lexeme Indexer Reader

namespace Guarded

variable {text s : List Char} {inQuery : Bool} {p : Progress}

section Names

theorem trimmed_name {name : List Char} (plain : ∀ c ∈ name, c ≠ ' ') :
    (skipSpaces name.reverse).reverse = name := by
  have visible : ∀ t, name.reverse ≠ ' ' :: t := by
    intro t same
    have mem : ' ' ∈ name.reverse := same ▸ List.mem_cons_self
    exact plain ' ' (List.mem_reverse.mp mem) rfl
  rw [skipSpaces_fixed visible, List.reverse_reverse]

theorem run_named {name : List Char} (start : p.start = place text (name ++ s))
    (within : name ++ s <:+ text) :
    p.named.run text s = .ok (.ok
      ({ p with steps := p.steps ++ nameSteps p.deep name, deep := p.deep && name.isEmpty }, s)) := by
  obtain ⟨steps, _, deep, _, _⟩ := p
  subst start
  simp only [Progress.named, run_bind, run_position, place_lt_iff within]
  cases name with
  | nil => simp [nameSteps]
  | cons c name =>
    rw [if_pos (List.cons_ne_nil _ _)]
    simp only [run_bind, since, run_position, run_slice within, run_pure, nameSteps, List.isEmpty_cons,
      Bool.false_eq_true, if_false, Bool.and_false]

theorem run_finish {name : List Char} (start : p.start = place text (name ++ s))
    (within : name ++ s <:+ text) (plain : ∀ c ∈ name, c ≠ ' ') :
    (p.finish inQuery).run text s = .ok
      (if p.behindDot = true ∧ name.isEmpty = true ∧ (s = [] ∨ inQuery = true) then
        .error ⟨.unexpectedEnd, s⟩
      else .ok ((p.steps ++ nameSteps p.deep name, s.isEmpty), s)) := by
  have atEnd : decide (s.length = 0) = s.isEmpty := by cases s <;> rfl
  simp only [Progress.finish, run_bind, run_left, run_position, start, place_lt_iff within, atEnd]
  cases name with
  | nil =>
    simp only [ne_eq, not_true_eq_false, if_false, List.isEmpty_nil, true_and, List.length_eq_zero_iff]
    split
    · rfl
    · simp [nameSteps]
  | cons c name =>
    simp only [ne_eq, reduceCtorEq, not_false_eq_true, if_true, run_bind, since, run_position,
      run_slice within, trimmed_name plain, run_pure, nameSteps, List.isEmpty_cons, Bool.false_eq_true,
      if_false, false_and, and_false]

theorem endsName_false {c : Char} (inside : (!endsName inQuery c) = true) :
    (c ≠ '[' ∧ c ≠ '(' ∧ c ≠ ']' ∧ c ≠ ')' ∧ c ≠ ' ' ∧ c ≠ '.') ∧
      ¬(inQuery = true ∧ c ∈ ['=', '<', '!', '>', '|', '&']) := by
  simp only [endsName, Bool.not_eq_true', Bool.or_eq_false_iff, List.contains_eq_mem,
    decide_eq_false_iff_not, List.mem_cons, List.not_mem_nil, or_false, not_or] at inside
  refine ⟨inside.1, fun ends => ?_⟩
  rw [ends.1, Bool.true_and, decide_eq_false_iff_not] at inside
  exact inside.2 (by simpa using ends.2)

/-- A character of a name is moved over, unless an indexer stands in front of it. -/
theorem run_nameChar (limit n : Nat) {c : Char} (inside : (!endsName inQuery c) = true)
    (rest : List Char) :
    (stepsFrom limit n inQuery p).run text (c :: rest) =
      if p.behindIndexer then .ok (.error ⟨.unexpectedAfterIndexer c, c :: rest⟩)
      else (again n fun k _ => stepsFrom limit k inQuery p).run text rest := by
  obtain ⟨⟨bracket, paren, closed, closed', space, dot⟩, operator⟩ := endsName_false inside
  rw [stepsFrom]
  simp only [run_bind, run_peek, List.head?_cons, bracket, paren, closed, closed', space, dot, or_self,
    if_false, if_neg operator]
  cases p.behindIndexer <;> simp [run_bind]

theorem run_nameChars (limit : Nat) (free : p.behindIndexer = false) {a : List Char}
    (all : ∀ c ∈ a, (!endsName inQuery c) = true) (s : List Char) :
    (stepsFrom limit (a ++ s).length inQuery p).run text (a ++ s) =
      (stepsFrom limit s.length inQuery p).run text s := by
  induction a with
  | nil => rfl
  | cons c a ih =>
    rw [List.cons_append, run_nameChar _ _ (all c List.mem_cons_self), free, if_neg Bool.false_ne_true,
      run_again (by simp)]
    exact ih fun d mem => all d (List.mem_cons_of_mem c mem)

end Names

section Levels

namespace Levels

/-- A condition read behind the open levels joins them from the innermost on. -/
def join (levels : Levels) (condition : Condition) : Condition :=
  levels.foldl (fun inner level => level.2.foldr (Condition.join level.1) inner) condition

/-- Every level has members, and no level is inside one of the same connective. -/
def Apart : Levels → Prop
  | [] => True
  | [level] => level.2 ≠ []
  | level :: outer :: levels => level.2 ≠ [] ∧ level.1 ≠ outer.1 ∧ Apart (outer :: levels)

theorem join_push (connective : Connective) (first last : Condition) (levels : Levels) :
    (levels.push connective first).join last = levels.join (.join connective first last) := by
  cases levels with
  | nil => rfl
  | cons level levels =>
    rw [push]
    split
    · rename_i same
      subst same
      simp [join]
    · simp [join]

theorem apart_push (connective : Connective) (first : Condition) {levels : Levels}
    (apart : levels.Apart) : (levels.push connective first).Apart := by
  match levels with
  | [] => simp [push, Apart]
  | [level] =>
    rw [push]
    split
    · simp [Apart]
    · rename_i other
      exact ⟨by simp, Ne.symm other, apart⟩
  | level :: outer :: levels =>
    rw [push]
    split
    · exact ⟨by simp, apart.2⟩
    · rename_i other
      exact ⟨by simp, Ne.symm other, apart⟩

end Levels

/-- The members of a level take in a condition that is not of the same connective. -/
theorem foldr_join (c : Connective) {last : Condition} (other : ∀ inner, last ≠ .compound c inner)
    {members : List Condition} (nonempty : members ≠ []) :
    members.foldr (Condition.join c) last = .compound c (members ++ [last]) := by
  induction members with
  | nil => exact absurd rfl nonempty
  | cons m members ih =>
    cases members with
    | nil =>
      cases last with
      | compare => rfl
      | compound d inner =>
        have different : d ≠ c := fun same => other inner (same ▸ rfl)
        simp [Condition.join, different]
    | cons m' members =>
      rw [List.foldr_cons, ih (List.cons_ne_nil _ _)]
      simp [Condition.join]

theorem close_eq_join {levels : Levels} (apart : levels.Apart) (last : Condition)
    (other : ∀ level ∈ levels.head?, ∀ inner, last ≠ .compound level.1 inner) :
    levels.close last = levels.join last := by
  induction levels generalizing last with
  | nil => rfl
  | cons level levels ih =>
    have top (nonempty : level.2 ≠ []) := foldr_join level.1 (other level rfl) nonempty
    rw [Levels.close, Levels.join, List.foldl_cons]
    cases levels with
    | nil =>
      rw [top apart]
      rfl
    | cons outer levels =>
      rw [top apart.1]
      refine ih apart.2.2 _ fun below mem inner same => ?_
      cases mem
      exact apart.2.1 (Condition.compound.inj same).1

end Levels

section Nested

theorem run_connective (c : Char) (rest : List Char) :
    (connective c).run text (c :: rest) = .ok (.ok
      (match rest with
      | [] => (none, [c])
      | d :: next =>
        match connective? c d with
        | none => (none, c :: d :: next)
        | some found => (some found, next))) := by
  unfold connective connective?
  by_cases both : c = '&'
  · subst both
    cases rest with
    | nil => rfl
    | cons d next => by_cases same : d = '&' <;> simp [run_bind, run_eat, afterWord?, same, eq_comm]
  by_cases either : c = '|'
  · subst either
    cases rest with
    | nil => rfl
    | cons d next => by_cases same : d = '|' <;> simp [run_bind, run_eat, afterWord?, same, eq_comm]
  · cases rest <;> simp [both, either]

/-- How far the reading of steps has come where a name may start. -/
def progressAt (text s : List Char) (before : Before) (deep : Bool) (steps : List Step) : Progress :=
  { steps, start := place text s, deep, behindIndexer := before = .indexer, behindDot := before = .dot }

@[simp] theorem progressAt_steps (s : List Char) (before : Before) (deep : Bool) (steps : List Step) :
    (progressAt text s before deep steps).steps = steps := rfl

@[simp] theorem progressAt_deep (s : List Char) (before : Before) (deep : Bool) (steps : List Step) :
    (progressAt text s before deep steps).deep = deep := rfl

theorem run_named_at {name : List Char} (within : name ++ s <:+ text) (before : Before) (deep : Bool)
    (steps : List Step) :
    (progressAt text (name ++ s) before deep steps).named.run text s = .ok (.ok
      (progressAt text (name ++ s) before (deep && name.isEmpty) (steps ++ nameSteps deep name), s)) :=
  run_named rfl within

/-- Reading steps with less than `k` characters left is what the guarded loop does. -/
def StepsAgree (text : List Char) (k : Nat) : Prop :=
  ∀ s, s.length < k → s <:+ text → ∀ limit, s.length ≤ limit → ∀ inQuery before deep steps,
    (stepsFrom limit s.length inQuery (progressAt text s before deep steps)).run text s =
      .ok ((reached (readSteps inQuery before deep s)).map fun r => ((steps ++ r.1, r.2.isEmpty), r.2))

variable {k limit : Nat} (agree : StepsAgree text k)

/-- A term needs something behind it and behind the spaces there. -/
def trailing (r : Term × List Char) : Except SyntaxFault (Term × List Char) :=
  match skipSpaces r.2 with
  | [] => .error ⟨.openQuery, []⟩
  | d :: after => .ok (r.1, d :: after)

theorem run_term_of_operand {c : Char} {rest : List Char} (ends : skipSpaces s = c :: rest)
    {x : Except SyntaxFault (Term × List Char)} (found : (operand limit c).run text (c :: rest) = .ok x) :
    (term limit).run text s = .ok (x.bind trailing) := by
  rw [term]
  simp only [run_bind, run_eatSpaces, ends, run_expectMore, found]
  cases x with
  | error fault => rfl
  | ok r =>
    simp only [trailing, Except.bind]
    cases skipSpaces r.2 <;> rfl

theorem found_readTerm_at {c : Char} {rest : List Char} (ends : skipSpaces s = c :: rest) :
    found (readTerm s) = (termAt c rest).bind trailing := by
  rw [found_readTerm, ends]
  rfl

theorem skipSpaces_twice (s : List Char) : skipSpaces (skipSpaces s) = skipSpaces s :=
  skipSpaces_fixed fun _ same => skipSpaces_front same rfl

theorem found_readTerm_skip (s : List Char) : found (readTerm (skipSpaces s)) = found (readTerm s) := by
  rw [found_readTerm, found_readTerm, skipSpaces_twice]

/-- Literals are read as they are. -/
theorem run_literal {c : Char} (rest : List Char) (literal : ¬(c = '$' ∨ c = '@')) :
    (operand limit c).run text (c :: rest) = .ok (termAt c rest) := by
  rw [operand, if_neg literal, termAt, if_neg literal]
  split
  · exact map_of_eq (run_quoted c c rest)
  split
  · exact map_of_eq (run_pattern c rest)
  split
  · exact map_of_eq (run_number (c :: rest))
  · simp only [run_bind, run_apply fun _ _ => word_suffix, word?]
    cases readWord? (c :: rest) constants <;> rfl

theorem exists_compare {side : Term} {first : Condition} {rest : List Char}
    (read : reached (readComparison side s) = .ok (first, rest)) :
    ∃ relation other, first = .compare relation side other := by
  rw [reached_readComparison] at read
  split at read
  · cases read
  split at read
  · cases read
    exact ⟨_, _, rfl⟩
  · obtain ⟨⟨relation, _⟩, _, read⟩ := bind_eq_ok read
    obtain ⟨⟨right, _⟩, _, same⟩ := map_eq_ok read
    cases same
    exact ⟨_, _, rfl⟩

/-- What a query is read as behind its question mark. -/
def queryAt (close : Char) (deep : Bool) : List Char → Except SyntaxFault (Step × List Char)
  | [] => .error ⟨.openIndexer, []⟩
  | d :: inner =>
    if d = '(' then
      (found (readCondition inner)).bind fun (condition, left) =>
        (found (readClose close left)).map fun r =>
          (if deep then .scanQuery condition else .query condition, r.2)
    else .error ⟨.unexpectedInIndexer d, d :: inner⟩

include agree

/-- Steps in a query start with less left than the steps around them. -/
theorem run_nested {c : Char} {rest : List Char} (nested : c = '$' ∨ c = '@') (fewer : rest.length < k)
    (within : rest <:+ text) (bound : rest.length < limit) :
    (operand limit c).run text (c :: rest) =
      .ok ((termAt c rest).bind fun r => if r.2.isEmpty then .error ⟨.openQuery, []⟩ else .ok r) := by
  have steps : (stepsFrom rest.length rest.length true
      { steps := if c = '$' then [.root] else [], start := place text rest }).run text rest = _ :=
    agree rest fewer within rest.length le_rfl true .start false _
  rw [operand, if_pos nested, termAt, if_pos nested]
  simp only [run_bind, run_bump, run_position, run_descend bound, steps]
  cases reached (readSteps true .start false rest) with
  | error fault => rfl
  | ok r =>
    obtain ⟨steps, left⟩ := r
    cases left with
    | nil => rfl
    | cons d left => by_cases root : c = '$' <;> simp [root, Except.map, Except.bind]

theorem run_term (fewer : s.length ≤ k) (within : s <:+ text) (bound : s.length ≤ limit) :
    (term limit).run text s = .ok (found (readTerm s)) := by
  cases ends : skipSpaces s with
  | nil =>
    rw [term, found_readTerm, ends]
    simp only [run_bind, run_eatSpaces, ends]
    rfl
  | cons c rest =>
  have shorter := lt_of_eq_cons (length_skipSpaces_le s) ends
  have inner : rest <:+ text := suffix_of_cons (suffix_of_skipSpaces within ends)
  rw [found_readTerm_at ends]
  by_cases nested : c = '$' ∨ c = '@'
  · rw [run_term_of_operand ends (run_nested agree nested (by omega) inner (by omega))]
    cases termAt c rest with
    | error fault => rfl
    | ok r =>
      obtain ⟨value, left⟩ := r
      cases left <;> rfl
  · rw [run_term_of_operand ends (run_literal rest nested)]

theorem run_comparison (side : Term) (fewer : s.length ≤ k) (within : s <:+ text)
    (bound : s.length ≤ limit) :
    (comparison limit side).run text s = .ok (reached (readComparison side s)) := by
  rw [reached_readComparison, comparison]
  cases s with
  | nil => rfl
  | cons c rest =>
  simp only [run_bind, run_peek, List.head?_cons, List.mem_cons, Option.some.injEq, List.not_mem_nil, or_false]
  split
  · rfl
  · refine bind_of_eq (run_relation (c :: rest)) fun relation behind read => ?_
    have shorter := found_shorter read
    have suffix := (readRelation_forward (c :: rest)).suffix read
    exact map_of_eq (run_term agree (by omega) (suffix.trans within) (by omega))

/-- A condition and what the open levels make of it. -/
theorem run_condition {levels : Levels} (apart : levels.Apart) (fewer : s.length ≤ k)
    (within : s <:+ text) (bound : s.length ≤ limit) :
    (conditionFrom limit s.length levels).run text s =
      .ok ((found (readCondition s)).map fun r => (levels.join r.1, ')' :: r.2)) := by
  induction n : s.length using Nat.strong_induction_on generalizing s levels with
  | _ n ih =>
  subst n
  rw [found_readCondition, conditionFrom]
  cases empty : s with
  | nil =>
    rw [comparisonAt, found_readTerm]
    rfl
  | cons front tail =>
  rw [← empty]
  have filled : s.length ≠ 0 := by simp [empty]
  have le := length_skipSpaces_le s
  have term := run_term agree (le.trans fewer) ((skipSpaces_suffix s).trans within) (le.trans bound)
  simp only [run_bind, run_left, if_neg filled, run_eatSpaces, term, found_readTerm_skip, comparisonAt]
  cases read : found (readTerm s) with
  | error fault => rfl
  | ok r =>
  obtain ⟨side, behind⟩ := r
  have shorter := found_shorter read
  have suffix := (readTerm_forward s).suffix read
  have comparison : (comparison limit side).run text behind = _ :=
    run_comparison agree side (by omega) (suffix.trans within) (by omega)
  simp only [comparison, Except.bind]
  cases compared : reached (readComparison side behind) with
  | error fault => rfl
  | ok r =>
  obtain ⟨first, after⟩ := r
  have le' := reached_le compared
  have suffix' := (readComparison_forward side behind).suffix compared
  simp only [run_peek]
  cases after with
  | nil => rfl
  | cons c rest =>
  simp only [List.head?_cons]
  by_cases closed : c = ')'
  · obtain ⟨relation, other, rfl⟩ := exists_compare compared
    have closes : levels.close (.compare relation side other) = _ :=
      close_eq_join apart _ fun _ _ _ same => by cases same
    subst closed
    simp only [if_true, run_pure, Except.map, closes]
  simp only [if_neg closed, run_bind, run_connective]
  cases rest with
  | nil => rfl
  | cons d next =>
  dsimp only
  cases connective? c d with
  | none => rfl
  | some connective =>
    simp only [List.length_cons] at le'
    have inner : next <:+ text := suffix_of_cons (suffix_of_cons (suffix'.trans (suffix.trans within)))
    dsimp only
    rw [run_again (by omega), ih _ (by omega) (Levels.apart_push connective first apart) (by omega) inner
      (by omega) rfl]
    simp only [map_map, Levels.join_push]

theorem run_query (close : Char) (deep : Bool) (c : Char) {rest : List Char} (fewer : rest.length < k)
    (within : rest <:+ text) (bound : rest.length < limit) :
    (query limit close deep).run text (c :: rest) =
      .ok ((queryAt close deep rest).map fun r => (r.1, close :: r.2)) := by
  rw [query]
  cases rest with
  | nil => rfl
  | cons d inner =>
  simp only [List.length_cons] at fewer bound
  simp only [run_bind, run_bump, run_expectMore]
  by_cases opened : d = '('
  · have condition : (conditionFrom limit inner.length []).run text inner = _ :=
      run_condition agree trivial (by omega) (suffix_of_cons within) (by omega)
    simp only [opened, ne_eq, not_true_eq_false, if_false, run_bind, run_bump, run_left, condition, queryAt,
      if_true]
    cases found (readCondition inner) with
    | error fault => rfl
    | ok r =>
      simp only [Except.map, Except.bind, run_skip, run_closed, Levels.join, List.foldl_nil]
      cases found (readClose close r.2) <;> rfl
  · simp [opened, queryAt, Except.map]

theorem run_indexer (opening : Char) (deep : Bool) {rest : List Char} (fewer : rest.length < k)
    (within : rest <:+ text) (bound : rest.length < limit) :
    (indexer limit opening deep).run text (opening :: rest) =
      .ok ((found (readIndexer (closing opening) deep rest)).map fun r => (r.1, closing opening :: r.2)) := by
  rw [indexer, found_readIndexer]
  cases empty : rest with
  | nil => rfl
  | cons front tail =>
  simp only [run_bind, run_bump, run_expectMore, run_eatSpaces]
  rw [← empty]
  cases ends : skipSpaces rest with
  | nil => rfl
  | cons c behind =>
  have shorter := lt_of_eq_cons (length_skipSpaces_le rest) ends
  have inner := suffix_of_skipSpaces within ends
  simp only [run_expectMore]
  by_cases names : c = '\''
  · simp only [if_pos names, run_bind, run_left, run_namesFrom, namesAt, List.nil_append]
    cases found (readNames (closing opening) behind) <;> rfl
  by_cases question : c = '?'
  · simp only [if_neg names, if_pos question]
    rw [run_query agree _ _ _ (by omega) (suffix_of_cons inner) (by omega)]
    cases behind <;> rfl
  · have positions := run_positions (isIndexChar_closing opening) inner (ends ▸ skipSpaces_twice rest)
    simp only [if_neg names, if_neg question, run_bind, run_left, run_position, positions]

end Nested

section Steps

variable {k limit : Nat} {before : Before} {deep : Bool} {steps : List Step}

/-- Where steps end the loop ends. -/
theorem run_end {p : Progress} {c : Char} {rest : List Char} (ends : endsName inQuery c = true)
    (bracket : ¬(c = '[' ∨ c = '(')) (dot : c ≠ '.') (n : Nat) :
    (stepsFrom limit n inQuery p).run text (c :: rest) = (p.finish inQuery).run text (c :: rest) := by
  rw [stepsFrom]
  simp only [run_bind, run_peek, List.head?_cons, if_neg bracket, if_neg dot]
  split
  · rfl
  rename_i closes
  have operator : inQuery = true ∧ c ∈ ['=', '<', '!', '>', '|', '&'] := by
    rw [not_or] at bracket
    rw [not_or, not_or] at closes
    simpa [endsName, bracket, closes, dot] using ends
  rw [if_pos operator]

theorem run_secondDot (s : List Char) : secondDot.run text s = .ok (.ok (afterDot s)) := by
  unfold afterDot
  cases s with
  | nil => rfl
  | cons c s => by_cases dot : c = '.' <;> simp [secondDot, run_bind, dot]

/-- The steps from a name on, found behind those before it. -/
def behind (steps : List Step) (r : Except SyntaxFault (List Step × List Char)) :
    Except SyntaxFault ((List Step × Bool) × List Char) :=
  r.map fun r => ((steps ++ r.1, r.2.isEmpty), r.2)

variable {name rest : List Char} {c : Char}

theorem run_bracket (agree : StepsAgree text k) (bracket : c = '[' ∨ c = '(') (fewer : rest.length < k)
    (within : name ++ c :: rest <:+ text) (bound : rest.length < limit) :
    (stepsFrom limit (c :: rest).length inQuery
      (progressAt text (name ++ c :: rest) before deep steps)).run text (c :: rest) =
      .ok (behind steps ((found (readIndexer (closing c) (deep && name.isEmpty) rest)).bind
        fun (step, left) => (reached (readSteps inQuery .indexer false left)).map fun r =>
          (nameSteps deep name ++ step :: r.1, r.2))) := by
  have suffix : rest <:+ text := suffix_of_cons ((List.suffix_append name _).trans within)
  rw [stepsFrom]
  simp only [run_bind, run_peek, List.head?_cons, if_pos bracket, run_named_at within, progressAt_deep,
    progressAt_steps, run_indexer agree c (deep && name.isEmpty) fewer suffix bound]
  cases read : found (readIndexer (closing c) (deep && name.isEmpty) rest) with
  | error fault => rfl
  | ok r =>
  obtain ⟨step, left⟩ := r
  have shorter := found_shorter read
  have inside := (readIndexer_forward (closing c) (deep && name.isEmpty) rest).suffix read
  have fewer' : left.length < (c :: rest).length := Nat.lt_succ_of_lt shorter
  have next : (stepsFrom limit left.length inQuery
      { steps := steps ++ nameSteps deep name ++ [step], start := place text left,
        behindIndexer := true }).run text left = _ :=
    agree left (by omega) (inside.trans suffix) limit (by omega) inQuery .indexer false _
  simp only [Except.map, run_skip, run_position]
  rw [run_again fewer', next]
  simp only [behind, Except.bind]
  cases reached (readSteps inQuery .indexer false left) <;> simp [Except.map]

theorem run_dot (agree : StepsAgree text k) (fewer : rest.length < k)
    (within : name ++ '.' :: rest <:+ text) (bound : rest.length < limit) :
    (stepsFrom limit ('.' :: rest).length inQuery
      (progressAt text (name ++ '.' :: rest) before deep steps)).run text ('.' :: rest) =
      .ok (behind steps
        ((reached (readSteps inQuery .dot ((deep && name.isEmpty) || (afterDot rest).1)
          (afterDot rest).2)).map fun r => (nameSteps deep name ++ r.1, r.2))) := by
  have suffix : rest <:+ text := suffix_of_cons ((List.suffix_append name _).trans within)
  have le := afterDot_le rest
  have next : (stepsFrom limit (afterDot rest).2.length inQuery
      { steps := steps ++ nameSteps deep name, start := place text (afterDot rest).2,
        deep := (deep && name.isEmpty) || (afterDot rest).1, behindDot := true }).run text
          (afterDot rest).2 = _ :=
    agree _ (by omega) ((afterDot_suffix rest).trans suffix) limit (by omega) inQuery .dot _ _
  have fewer' : (afterDot rest).2.length < ('.' :: rest).length := Nat.lt_succ_of_le le
  rw [stepsFrom]
  simp only [run_bind, run_peek, List.head?_cons, Char.reduceEq, or_self, if_false, if_true,
    run_named_at within, progressAt_deep, progressAt_steps, run_bump, run_secondDot, run_position]
  rw [run_again fewer', next]
  simp only [behind, map_map, List.append_assoc]

theorem run_steps (agree : StepsAgree text k) (exact : s.length = k) (within : s <:+ text)
    (bound : s.length ≤ limit) :
    (stepsFrom limit s.length inQuery (progressAt text s before deep steps)).run text s =
      .ok (behind steps (reached (readSteps inQuery before deep s))) := by
  obtain ⟨name, t, rfl, all, ends⟩ := exists_span (!endsName inQuery ·) s
  rw [reached_readSteps, takeWhile_span all ends, dropWhile_span all ends]
  dsimp only
  by_cases stray : before = .indexer ∧ (!name.isEmpty) = true
  · rw [if_pos stray]
    obtain ⟨rfl, filled⟩ := stray
    cases name with
    | nil => cases filled
    | cons c name => exact run_nameChar limit _ (all c List.mem_cons_self) _
  rw [if_neg stray]
  have moved : (stepsFrom limit (name ++ t).length inQuery (progressAt text (name ++ t) before deep
      steps)).run text (name ++ t) =
      (stepsFrom limit t.length inQuery (progressAt text (name ++ t) before deep steps)).run text t := by
    cases name with
    | nil => rfl
    | cons c name =>
      have free : before ≠ .indexer := fun same => stray ⟨same, rfl⟩
      exact run_nameChars limit (by simp [progressAt, free]) all t
  rw [moved]
  have plain : ∀ c ∈ name, c ≠ ' ' := fun c mem => (endsName_false (all c mem)).1.2.2.2.2.1
  have finish : ((progressAt text (name ++ t) before deep steps).finish inQuery).run text t = _ :=
    run_finish rfl within plain
  cases t with
  | nil =>
    rw [stepsFrom]
    simp only [run_bind, run_peek, List.head?_nil, finish]
    by_cases dead : before = .dot ∧ name = [] <;> simp [progressAt, behind, Except.map, dead]
  | cons c rest =>
  rw [List.length_append, List.length_cons] at exact bound
  dsimp only
  by_cases bracket : c = '[' ∨ c = '('
  · rw [if_pos bracket]
    exact run_bracket agree bracket (by omega) within (by omega)
  rw [if_neg bracket]
  by_cases dot : c = '.'
  · subst dot
    exact run_dot agree (by omega) within (by omega)
  rw [if_neg dot, run_end (by simpa using ends) bracket dot, finish]
  by_cases dead : before = .dot ∧ name = [] ∧ inQuery = true <;>
    simp [progressAt, behind, Except.map, dead]

theorem stepsAgree (text : List Char) (k : Nat) : StepsAgree text k := by
  induction k with
  | zero => exact fun s fewer => absurd fewer (Nat.not_lt_zero _)
  | succ k ih =>
    intro s fewer within limit bound inQuery before deep steps
    rcases Nat.lt_succ_iff_lt_or_eq.mp fewer with less | exact
    · exact ih s less within limit bound inQuery before deep steps
    · exact run_steps ih exact within bound

end Steps

theorem run_root (s : List Char) : root.run text s = .ok (.ok ((), dropRoot s)) := by
  unfold dropRoot
  split
  · simp [root, run_bind]
  · simp [root, run_bind]
  · rename_i dot bracket
    have other : ¬(s.head? = some '$' ∧ s[1]? ∈ [some '.', some '[']) := by
      rintro ⟨dollar, second⟩
      match s with
      | c :: d :: s => simp_all
    simp only [root, run_bind, run_peek, run_rest, if_neg other, run_pure]

/-- The guarded run reads a text as the readers do. -/
theorem run_path (text : List Char) :
    (path.run text text).map (fun outcome => outcome.map Prod.fst) = .ok (readPath text) := by
  rw [readPath_eq, path]
  simp only [run_bind, run_eatSpaces, run_rest]
  split
  · rfl
  have within := (dropRoot_suffix (skipSpaces text)).trans (skipSpaces_suffix text)
  have steps : (stepsFrom (dropRoot (skipSpaces text)).length (dropRoot (skipSpaces text)).length false
      { steps := [], start := place text (dropRoot (skipSpaces text)) }).run text
        (dropRoot (skipSpaces text)) = _ :=
    stepsAgree text _ _ (Nat.lt_succ_self _) within _ le_rfl false .start false []
  simp only [run_bind, run_root, run_position, run_left, steps]
  cases reached (readSteps false .start false (dropRoot (skipSpaces text))) with
  | error fault => rfl
  | ok r =>
  obtain ⟨steps, left⟩ := r
  cases left with
  | nil => rfl
  | cons c left =>
    simp only [Except.map, List.isEmpty_cons, Bool.false_eq_true, if_false, run_bind, run_eatSpaces,
      run_peek, Except.bind]
    cases skipSpaces (c :: left) <;> rfl

end Guarded

theorem SyntaxError.position_isValid {text : String} {fault : SyntaxFault}
    (suffix : fault.rest <:+ text.toList) :
    String.Pos.Raw.IsValid text ⟨(SyntaxError.ofFault text.toList fault).position⟩ := by
  obtain ⟨front, split⟩ := suffix
  refine String.Pos.Raw.isValid_iff_exists_append.mpr
    ⟨String.ofList front, String.ofList fault.rest, ?_, ?_⟩
  · rw [← String.ofList_append, split, String.ofList_toList]
  · ext
    simp only [SyntaxError.ofFault, ← split, utf8Length_append, Nat.add_sub_cancel]
    rw [utf8Length_eq]
    simp

/-- Reading a path is total and its places are sound. The guarded run comes to the same as the readers for
every text: so every slice is in order and cuts no character, only the three bounds are set, the cursor
never moves backwards, every iteration that goes on to another consumes something, nested steps begin with
less left than the steps around them, and closing characters are stepped over only where they stand. And
the place of an error is in the text and between two characters. -/
theorem Path.parse_total (text : String) :
    Path.parseGuarded text = .ok (Path.parse text) ∧
    ∀ e, Path.parse text = .error e →
      e.position ≤ text.utf8ByteSize ∧ String.Pos.Raw.IsValid text ⟨e.position⟩ := by
  constructor
  · have agree := Guarded.run_path text.toList
    rw [parseGuarded, parse]
    cases guarded : Guarded.path.run text.toList text.toList with
    | error mishap =>
      rw [guarded] at agree
      cases agree
    | ok outcome =>
      rw [guarded] at agree
      rw [← Except.ok.inj agree]
      cases outcome <;> rfl
  · intro e failed
    rw [parse] at failed
    cases read : readPath text.toList with
    | ok steps =>
      rw [read] at failed
      cases failed
    | error fault =>
      rw [read] at failed
      cases failed
      have valid := SyntaxError.position_isValid (readPath_forward text.toList fault read)
      exact ⟨valid.le_utf8ByteSize, valid⟩

/-- The place behind a character of two bytes. -/
theorem Path.parse_total_accented :
    Path.parseGuarded "é[x" = .ok (.error ⟨.unexpectedInIndexer 'x', 3⟩) ∧
    3 ≤ "é[x".utf8ByteSize ∧ String.Pos.Raw.IsValid "é[x" ⟨3⟩ := by
  have failed : Path.parse "é[x" = .error ⟨.unexpectedInIndexer 'x', 3⟩ := by cbv
  obtain ⟨guarded, sound⟩ := Path.parse_total "é[x"
  exact ⟨failed ▸ guarded, sound _ failed⟩

end PathQuery
