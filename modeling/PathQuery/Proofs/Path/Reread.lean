import PathQuery.Proofs.Path.Bracket

/-! Reading a written path gives the path back. The readers are followed along the path, together for
its steps, conditions and terms. A double that is not finite is followed too: its text is where the
reading stops, so a well-formed path reads back exactly if its numbers are finite. -/
namespace PathQuery

/-- The reading gives the value if the condition holds, and a fault otherwise. -/
def Gives {α : Type} (r : Except SyntaxFault α) (readable : Bool) (v : α) : Prop :=
  if readable then r = .ok v else ∃ fault, r = .error fault

namespace Gives

variable {α β : Type} {r : Except SyntaxFault α} {readable : Bool} {v : α}

theorem ok (v : α) : Gives (.ok v) true v := rfl

theorem of_eq (h : r = .ok v) : Gives r true v := h

theorem of_error {fault : SyntaxFault} (h : r = .error fault) : Gives r false v := ⟨fault, h⟩

theorem bind (h : Gives r readable v) {f : α → Except SyntaxFault β} {next : Bool} {w : β}
    (following : Gives (f v) next w) : Gives (r.bind f) (readable && next) w := by
  cases readable with
  | true =>
    have value : r = .ok v := h
    rw [value]
    exact following
  | false =>
    obtain ⟨fault, value⟩ := h
    rw [value]
    exact ⟨fault, rfl⟩

theorem map (h : Gives r readable v) (f : α → β) : Gives (r.map f) readable (f v) := by
  cases readable with
  | true =>
    have value : r = .ok v := h
    rw [value]
    rfl
  | false =>
    obtain ⟨fault, value⟩ := h
    rw [value]
    exact ⟨fault, rfl⟩

end Gives

namespace Reader

open Lexeme Indexer Numeral

section Steps

variable (inQuery : Bool) (before : Before) (deep : Bool)

/-- The text begins with a character that no name holds, or is empty. -/
def EndsName (s : List Char) : Prop := StopsAt (!endsName inQuery ·) s

variable {inQuery} in
theorem endsName_of_endsTerm {f : List Char} (ends : f = [] ∨ EndsTerm f) : EndsName inQuery f := by
  rcases ends with rfl | ends
  · exact stopsAt_nil _
  · exact ends.stopsAt (by simp [endsName]) (by simp [endsName])

/-- The characters that force a name into quotes are at least those that end one. -/
theorem special_of_endsName {c : Char} (ends : endsName inQuery c = true) :
    isSpecialInName c = true := by
  have always : ['[', '(', ']', ')', ' ', '.'].all isSpecialInName = true := rfl
  have inside : ['=', '<', '!', '>', '|', '&'].all isSpecialInName = true := rfl
  rcases Bool.or_eq_true_iff.mp ends with h | h
  · exact List.all_eq_true.mp always c (List.contains_iff_mem.mp h)
  · exact List.all_eq_true.mp inside c (List.contains_iff_mem.mp (Bool.and_eq_true_iff.mp h).2)

theorem endsName_of_plain {name : List Char} (plain : isPlainName name = true) :
    ∀ c ∈ name, (!endsName inQuery c) = true := by
  intro c hc
  simp only [isPlainName, Bool.and_eq_true, Bool.not_eq_true'] at plain
  have visible := List.any_eq_false.mp plain.2 c hc
  rw [Bool.not_eq_true', Bool.eq_false_iff]
  exact fun ends => visible (special_of_endsName inQuery ends)

/-- A name is one step, and what follows is read as from the start. -/
theorem reached_readSteps_name {name s : List Char} (all : ∀ c ∈ name, (!endsName inQuery c) = true)
    (nonempty : name ≠ []) (stop : EndsName inQuery s) (front : before ≠ .indexer) :
    reached (readSteps inQuery before deep (name ++ s)) =
      (reached (readSteps inQuery .start false s)).map fun r => (nameStep deep name :: r.1, r.2) := by
  rw [reached_readSteps, reached_readSteps inQuery .start false s]
  simp only [takeWhile_span all stop, dropWhile_span all stop, takeWhile_stop stop,
    dropWhile_stop stop, isEmpty_eq_false nonempty, nameSteps]
  cases s with
  | nil => simp [front, Except.map]
  | cons c s =>
    simp only [front, false_and, if_false, Bool.and_false, Bool.false_and, Bool.false_eq_true,
      and_false, reduceCtorEq, List.isEmpty_nil, if_true, Bool.false_or]
    split
    · cases found (readIndexer (if c = '[' then ']' else ')') false s) with
      | error fault => rfl
      | ok r =>
        cases following : reached (readSteps inQuery .indexer false r.2) <;>
          simp [Except.bind, Except.map, following]
    · split
      · cases reached (readSteps inQuery .dot (afterDot s).1 (afterDot s).2) <;> rfl
      · rfl

/-- Behind an indexer the reading goes on as from the start, unless a name follows. -/
theorem reached_readSteps_indexer {s : List Char} (stop : EndsName inQuery s) :
    reached (readSteps inQuery .indexer deep s) = reached (readSteps inQuery .start deep s) := by
  rw [reached_readSteps, reached_readSteps inQuery .start deep s]
  simp [takeWhile_stop stop, dropWhile_stop stop]

theorem reached_readSteps_end {f : List Char} (ends : f = [] ∨ EndsTerm f) (front : before ≠ .dot) :
    reached (readSteps inQuery before deep f) = .ok ([], f) := by
  have stop : EndsName inQuery f := endsName_of_endsTerm ends
  rw [reached_readSteps]
  simp only [takeWhile_stop stop, dropWhile_stop stop, nameSteps]
  rcases ends with rfl | ⟨c, t, rfl, rfl | rfl⟩ <;> simp [front]

theorem reached_readSteps_dot (s : List Char) :
    reached (readSteps inQuery before deep ('.' :: s)) =
      reached (readSteps inQuery .dot (deep || (afterDot s).1) (afterDot s).2) := by
  have stop : EndsName inQuery ('.' :: s) := stopsAt_cons.mpr rfl
  conv => lhs; rw [reached_readSteps]
  simp only [takeWhile_stop stop, dropWhile_stop stop, nameSteps, List.isEmpty_nil, Bool.not_true,
    Bool.false_eq_true, and_false, if_false, Char.reduceEq, or_self, if_true, Bool.and_true]
  cases reached (readSteps inQuery .dot (deep || (afterDot s).1) (afterDot s).2) <;> rfl

theorem reached_readSteps_bracket (s : List Char) :
    reached (readSteps inQuery before deep ('[' :: s)) =
      (found (readIndexer ']' deep s)).bind fun (step, left) =>
        (reached (readSteps inQuery .indexer false left)).map fun r => (step :: r.1, r.2) := by
  have stop : EndsName inQuery ('[' :: s) := stopsAt_cons.mpr rfl
  conv => lhs; rw [reached_readSteps]
  simp [takeWhile_stop stop, dropWhile_stop stop, nameSteps]

/-- What a step in brackets adds to the steps behind it. -/
theorem gives_bracket {before : Before} {deep : Bool} {inner s : List Char} {readable good : Bool}
    {step : Step} {steps : List Step} {f : List Char} (stop : EndsName inQuery s)
    (bracket : Gives (found (readIndexer ']' deep inner)) readable (step, s))
    (following : Gives (reached (readSteps inQuery .start false s)) good (steps, f)) :
    Gives (reached (readSteps inQuery before deep ('[' :: inner))) (readable && good)
      (step :: steps, f) := by
  rw [reached_readSteps_bracket]
  apply bracket.bind
  simp only [reached_readSteps_indexer inQuery false stop]
  exact following.map fun r => (step :: r.1, r.2)

theorem gives_name {before : Before} {deep : Bool} {name s : List Char} {good : Bool}
    {steps : List Step} {f : List Char} (all : ∀ c ∈ name, (!endsName inQuery c) = true)
    (nonempty : name ≠ []) (stop : EndsName inQuery s) (front : before ≠ .indexer)
    (following : Gives (reached (readSteps inQuery .start false s)) good (steps, f)) :
    Gives (reached (readSteps inQuery before deep (name ++ s))) good
      (nameStep deep name :: steps, f) := by
  rw [reached_readSteps_name inQuery before deep all nonempty stop front]
  exact following.map fun r => (nameStep deep name :: r.1, r.2)

end Steps

section Brackets

theorem found_readIndexer_names (deep : Bool) (s : List Char) :
    found (readIndexer ']' deep ('\'' :: s)) =
      (found (readNames ']' s)).map fun r => (namesStep deep r.1, r.2) := by
  rw [found_readIndexer, skipSpaces_cons s (by decide)]
  rfl

theorem found_readIndexer_query (deep : Bool) (s : List Char) :
    found (readIndexer ']' deep ('?' :: '(' :: s)) =
      (found (readCondition s)).bind fun (condition, left) =>
        (found (readClose ']' left)).map fun r =>
          (if deep then .scanQuery condition else .query condition, r.2) := by
  rw [found_readIndexer, skipSpaces_cons _ (by decide)]
  rfl

theorem found_readIndexer_positions (deep : Bool) {cs : List Char}
    (index : ∀ c ∈ cs, isIndexChar c = true) {c : Char} (visible : c ≠ ' ') (quote : c ≠ '\'')
    (query : c ≠ '?') (s : List Char) :
    found (readIndexer ']' deep (cs ++ c :: s)) = found (readPositions ']' (cs ++ c :: s)) := by
  rw [found_readIndexer, skipSpaces_chars index visible]
  cases cs with
  | nil => simp [quote, query]
  | cons d ds =>
    have front := index d List.mem_cons_self
    have quote' : d ≠ '\'' := by rintro rfl; exact absurd front (by decide)
    have query' : d ≠ '?' := by rintro rfl; exact absurd front (by decide)
    simp [quote', query']

theorem namesStep_pair (deep : Bool) {names : List String} (several : 2 ≤ names.length) :
    namesStep deep names = if deep then .scanNames names else .members names := by
  match names with
  | [] => simp at several
  | [_] => simp at several
  | _ :: _ :: _ => rfl

theorem nameStep_plain (deep : Bool) {name : String} (plain : isPlainName name.toList = true) :
    nameStep deep name.toList = if deep then .scan (some name) else .member (some name) := by
  simp only [isPlainName, Bool.and_eq_true, decide_eq_true_eq] at plain
  simp [nameStep, plain.1.2]

theorem memberChars_plain (dot : Bool) {name : String} (plain : isPlainName name.toList = true) :
    memberChars dot name = (if dot then ['.'] else []) ++ name.toList :=
  if_pos plain

theorem memberChars_quoted (dot : Bool) {name : String} (plain : isPlainName name.toList ≠ true) :
    memberChars dot name = namesChars [name] :=
  if_neg plain

theorem found_readIndexer_namesChars (deep : Bool) (name : String) (more : List String)
    (s : List Char) : ∃ inner, namesChars (name :: more) ++ s = '[' :: inner ∧
      found (readIndexer ']' deep inner) = .ok (namesStep deep (name :: more), s) := by
  refine ⟨_, namesChars_append name more s, ?_⟩
  rw [found_readIndexer_names, found_readNames_chars]
  rfl

end Brackets

section Step

variable {inQuery : Bool} {before : Before} {s f : List Char} {steps : List Step} {good : Bool}

/-- The two dots in front of a step that looks at any depth. -/
def depthChars (deep : Bool) : List Char := if deep then ['.', '.'] else []

theorem gives_deep {deep : Bool} {inner : List Char} {readable : Bool} {step : Step}
    (stop : EndsName inQuery s) (bracket : Gives (found (readIndexer ']' deep inner)) readable (step, s))
    (following : Gives (reached (readSteps inQuery .start false s)) good (steps, f)) :
    Gives (reached (readSteps inQuery before false (depthChars deep ++ '[' :: inner)))
      (readable && good) (step :: steps, f) := by
  cases deep with
  | false => exact gives_bracket inQuery stop bracket following
  | true =>
    change Gives (reached (readSteps inQuery before false ('.' :: '.' :: '[' :: inner))) _ _
    rw [reached_readSteps_dot]
    exact gives_bracket inQuery stop bracket following

theorem names_reread (deep : Bool) (name : String) (more : List String) (stop : EndsName inQuery s)
    (following : Gives (reached (readSteps inQuery .start false s)) good (steps, f)) :
    Gives (reached (readSteps inQuery before false
      (depthChars deep ++ (namesChars (name :: more) ++ s)))) good
      (namesStep deep (name :: more) :: steps, f) := by
  obtain ⟨inner, text, bracket⟩ := found_readIndexer_namesChars deep name more s
  rw [text]
  exact gives_deep stop (.of_eq bracket) following

/-- A name behind its dots; a star is written like a name. -/
theorem dotted_reread (deep : Bool) {name : List Char} (nonempty : name ≠ [])
    (all : ∀ c ∈ name, (!endsName inQuery c) = true) (stop : EndsName inQuery s)
    (following : Gives (reached (readSteps inQuery .start false s)) good (steps, f)) :
    Gives (reached (readSteps inQuery before false ('.' :: ((if deep then ['.'] else []) ++ (name ++ s)))))
      good (nameStep deep name :: steps, f) := by
  rw [reached_readSteps_dot]
  obtain ⟨c, cs, rfl⟩ := List.exists_cons_of_ne_nil nonempty
  have named : c ≠ '.' := by
    rintro rfl
    exact absurd (all '.' List.mem_cons_self) (by simp [endsName])
  cases deep with
  | false =>
    have single : afterDot (c :: cs ++ s) = (false, c :: cs ++ s) := by simp [afterDot, named]
    rw [if_neg Bool.false_ne_true, List.nil_append, single]
    exact gives_name inQuery all nonempty stop (by decide) following
  | true => exact gives_name inQuery all nonempty stop (by decide) following

theorem member_reread (deep : Bool) (name : String) (stop : EndsName inQuery s)
    (following : Gives (reached (readSteps inQuery .start false s)) good (steps, f)) :
    Gives (reached (readSteps inQuery before false
      (depthChars deep ++ (memberChars (!deep) name ++ s)))) good
      ((if deep then .scan (some name) else .member (some name)) :: steps, f) := by
  by_cases plain : isPlainName name.toList = true
  · have nonempty : name.toList ≠ [] := by
      intro empty
      simp [isPlainName, empty] at plain
    rw [memberChars_plain _ plain, ← nameStep_plain deep plain]
    cases deep with
    | false => exact dotted_reread false nonempty (endsName_of_plain inQuery plain) stop following
    | true => exact dotted_reread true nonempty (endsName_of_plain inQuery plain) stop following
  · rw [memberChars_quoted _ plain]
    exact names_reread deep name [] stop following

theorem positions_reread {cs : List Char} (index : ∀ c ∈ cs, isIndexChar c = true) {c : Char}
    (visible : c ≠ ' ') (quote : c ≠ '\'') (query : c ≠ '?') {inner : List Char} {step : Step}
    (text : ∃ t, inner = cs ++ c :: t)
    (positions : found (readPositions ']' inner) = .ok (step, s)) (stop : EndsName inQuery s)
    (following : Gives (reached (readSteps inQuery .start false s)) good (steps, f)) :
    Gives (reached (readSteps inQuery before false ('[' :: inner))) good (step :: steps, f) := by
  obtain ⟨t, rfl⟩ := text
  have bracket := found_readIndexer_positions false index visible quote query t
  exact gives_bracket inQuery stop (.of_eq (bracket.trans positions)) following

theorem query_text (condition : Condition) (s : List Char) :
    (Step.query condition).chars ++ s =
      depthChars false ++ '[' :: '?' :: '(' :: (condition.chars ++ ')' :: ']' :: s) := by
  have chars : (Step.query condition).chars = "[?(".toList ++ condition.chars ++ ")]".toList := rfl
  simp [chars, depthChars]

theorem scanQuery_text (condition : Condition) (s : List Char) :
    (Step.scanQuery condition).chars ++ s =
      depthChars true ++ '[' :: '?' :: '(' :: (condition.chars ++ ')' :: ']' :: s) := by
  have chars : (Step.scanQuery condition).chars =
      "..[?(".toList ++ condition.chars ++ ")]".toList := rfl
  simp [chars, depthChars]

theorem query_reread (deep : Bool) {condition : Condition}
    (read : ∀ t, Gives (found (readCondition (condition.chars ++ ')' :: t))) condition.isFinite
      (condition, t)) (stop : EndsName inQuery s)
    (following : Gives (reached (readSteps inQuery .start false s)) good (steps, f)) :
    Gives (reached (readSteps inQuery before false
      (depthChars deep ++ '[' :: '?' :: '(' :: (condition.chars ++ ')' :: ']' :: s))))
      (condition.isFinite && good)
      ((if deep then .scanQuery condition else .query condition) :: steps, f) := by
  apply gives_deep stop _ following
  rw [found_readIndexer_query]
  rw [← Bool.and_true condition.isFinite]
  apply (read (']' :: s)).bind
  simp only [found_readClose_close ']' (by decide)]
  exact .ok _

end Step

section Term

variable {f : List Char}

theorem found_readTerm_space (s : List Char) : found (readTerm (' ' :: s)) = found (readTerm s) := by
  rw [found_readTerm, found_readTerm, skipSpaces_space]

theorem gives_term {c : Char} {rest : List Char} {readable : Bool} {term : Term} (visible : c ≠ ' ')
    (read : Gives (termAt c rest) readable (term, f)) {d : Char} {after : List Char}
    (next : skipSpaces f = d :: after) :
    Gives (found (readTerm (c :: rest))) readable (term, d :: after) := by
  rw [found_readTerm, skipSpaces_cons rest visible, ← Bool.and_true readable]
  apply read.bind
  simp only [next]
  exact .ok _

/-- The first character of a number decides that a number is read. -/
theorem termAt_number {c : Char} (rest : List Char) (number : isDigit c = true ∨ c = '-') :
    termAt c rest = (found (readNumber (c :: rest))).map fun r => (.literal r.1, r.2) := by
  have other : ∀ d : Char, isDigit d = false → d ≠ '-' → c ≠ d := by
    rintro d digit minus rfl
    rcases number with h | h
    · rw [digit] at h
      cases h
    · exact minus h
  rw [termAt, if_neg (not_or.mpr ⟨other '$' rfl (by decide), other '@' rfl (by decide)⟩),
    if_neg (not_or.mpr ⟨other '\'' rfl (by decide), other '"' rfl (by decide)⟩),
    if_neg (other '/' rfl (by decide)), if_pos number]

theorem number_reread {text : List Char} {value : Scalar}
    (front : ∃ c t, text = c :: t ∧ (isDigit c = true ∨ c = '-'))
    (read : ∃ w, takeNumber? (text ++ f) = some (w, f) ∧ numberValue w = value) :
    ∃ c t, text = c :: t ∧ c ≠ ' ' ∧ termAt c (t ++ f) = .ok (.literal value, f) := by
  obtain ⟨c, t, rfl, number⟩ := front
  obtain ⟨w, taken, rfl⟩ := read
  refine ⟨c, t, rfl, ?_, ?_⟩
  · rintro rfl
    exact absurd number (by decide)
  · rw [termAt_number _ number, found_readNumber, ← List.cons_append, taken]
    rfl

theorem signed_front (negative : Bool) {text : List Char} (first : StartsWithDigit text) :
    ∃ c t, Layout.signed negative text = c :: t ∧ (isDigit c = true ∨ c = '-') := by
  obtain ⟨c, t, rfl, digit⟩ := first
  cases negative with
  | false => exact ⟨c, t, rfl, .inl digit⟩
  | true => exact ⟨'-', c :: t, rfl, .inr rfl⟩

/-- An infinity is written in letters that are read neither as a number nor as a constant. -/
theorem double_reread {x : Double} (number : x ≠ .nan) (ends : EndsTerm f) :
    ∃ c t, (Scalar.double x).text.toList = c :: t ∧ c ≠ ' ' ∧
      Gives (termAt c (t ++ f)) x.isFinite (.literal (.double x), f) := by
  cases x with
  | nan => exact absurd rfl number
  | number negative rank =>
    by_cases infinite : rank.val = infinityRank
    · have text := infinity_text negative infinite
      have unreadable : (Double.number negative rank).isFinite = false := by
        simpa [isFinite_number] using infinite
      rw [unreadable, text]
      cases negative with
      | false => exact ⟨'i', ['n', 'f'], rfl, by decide, .of_error rfl⟩
      | true =>
        have fails : termAt '-' (['i', 'n', 'f'] ++ f) =
            .error ⟨.unexpectedInQuery '-', '-' :: 'i' :: 'n' :: 'f' :: f⟩ := by
          rw [termAt_number _ (.inr rfl), found_readNumber]
          rfl
        exact ⟨'-', ['i', 'n', 'f'], rfl, by decide, .of_error fails⟩
    · have finite : (Double.number negative rank).isFinite = true := by
        simpa [isFinite_number] using infinite
      obtain ⟨_, denotes, _⟩ := denotes_ofMagnitude Scalar.displayLayout rank
      have front := signed_front negative denotes.first
      rw [← double_text negative infinite] at front
      obtain ⟨c, t, text, visible, read⟩ :=
        number_reread front (takeNumber_double finite ends.endsNumber)
      rw [finite]
      exact ⟨c, t, text, visible, .of_eq read⟩

theorem literal_reread {value : Scalar} (wellFormed : value.isWellFormed = true) (ends : EndsTerm f) :
    ∃ c t, value.chars = c :: t ∧ c ≠ ' ' ∧
      Gives (termAt c (t ++ f)) value.isFinite (.literal value, f) := by
  cases value with
  | null => exact ⟨'n', "ull".toList, rfl, by decide, .ok _⟩
  | boolean b => cases b with
    | false => exact ⟨'f', "alse".toList, rfl, by decide, .ok _⟩
    | true => exact ⟨'t', "rue".toList, rfl, by decide, .ok _⟩
  | integer i =>
    have front := signed_front (decide (i.toInt < 0))
      (startsWithDigit_append (isDigits_digits i.toInt.natAbs) (digits_ne_nil _) [])
    rw [List.append_nil, ← integer_text] at front
    obtain ⟨c, t, text, visible, read⟩ := number_reread front (takeNumber_integer i ends.endsNumber)
    exact ⟨c, t, text, visible, .of_eq read⟩
  | double x => exact double_reread (by simpa [Scalar.isWellFormed] using wellFormed) ends
  | string s =>
    refine ⟨'\'', s.toList.flatMap Quoted.escaped ++ ['\''], rfl, by decide, .of_eq ?_⟩
    change (found (readQuoted '\'' _)).map _ = _
    rw [List.append_assoc, List.singleton_append, found_readQuoted_encode]
    rfl
  | date | bytes | guid | uri | timeSpan => cases wellFormed

theorem pattern_reread {p : Pattern} (wellFormed : p.isWellFormed = true) (ends : EndsTerm f) :
    ∃ t, p.chars = '/' :: t ∧ Gives (termAt '/' (t ++ f)) true (.pattern p, f) := by
  refine ⟨_, rfl, .of_eq ?_⟩
  change (found (readPattern _)).map _ = _
  rw [List.append_assoc, List.cons_append, found_readPattern_chars wellFormed ends]
  rfl

theorem path_reread {steps : List Step}
    (read : ∀ {s : List Char}, EndsTerm s →
      Gives (reached (readSteps true .start false (stepsChars steps ++ s))) (stepsFinite steps)
        (steps, s)) (rooted : Bool) (ends : EndsTerm f) :
    Gives (termAt (if rooted then '$' else '@') (stepsChars steps ++ f)) (stepsFinite steps)
      (.path (if rooted then .root :: steps else steps), f) := by
  cases rooted with
  | false => exact (read ends).map fun r => (Term.path r.1, r.2)
  | true => exact (read ends).map fun r => (Term.path (.root :: r.1), r.2)

end Term

section Condition

variable {f : List Char}

theorem comparisonAt_space (s : List Char) : comparisonAt (' ' :: s) = comparisonAt s := by
  rw [comparisonAt, comparisonAt, found_readTerm_space]

theorem found_readCondition_space (s : List Char) :
    found (readCondition (' ' :: s)) = found (readCondition s) := by
  rw [found_readCondition, found_readCondition, comparisonAt_space]

/-- A relation is told from every other by what stands behind a space. -/
theorem found_readRelation_chars {relation : Relation} (two : relation ≠ .present) (s : List Char) :
    found (readRelation (relation.chars ++ ' ' :: s)) = .ok (relation, ' ' :: s) := by
  cases relation with
  | present => exact absurd rfl two
  | looseEq | looseNe | strictEq | strictNe | less | lessEq | greater | greaterEq | matching => rfl

theorem relation_front {relation : Relation} (two : relation ≠ .present) :
    ∃ c t, relation.chars = c :: t ∧ c ≠ ' ' ∧ ¬(c = ')' ∨ c = '|' ∨ c = '&') := by
  cases relation with
  | present => exact absurd rfl two
  | looseEq | looseNe | strictEq | strictNe | less | lessEq | greater | greaterEq | matching =>
    exact ⟨_, _, rfl, by decide, by decide⟩

/-- What a term reads back as in front of any text that ends it. -/
def Rereads (term : Term) : Prop :=
  ∀ {s : List Char}, EndsTerm s → ∀ {d : Char} {after : List Char}, skipSpaces s = d :: after →
    Gives (found (readTerm (term.chars ++ s))) term.isFinite (term, d :: after)

theorem present_reread {left : Term} (read : Rereads left) (ends : EndsTerm f) {d : Char}
    {after : List Char} (next : skipSpaces f = d :: after) (closes : d = ')' ∨ d = '|' ∨ d = '&') :
    Gives (comparisonAt (left.chars ++ f)) left.isFinite (.compare .present left none, d :: after) := by
  rw [comparisonAt, ← Bool.and_true left.isFinite]
  apply (read ends next).bind
  simp only [reached_readComparison, if_pos closes]
  exact .ok _

theorem relation_reread {relation : Relation} (two : relation ≠ .present) {left right : Term}
    (readLeft : Rereads left) (readRight : Rereads right) (ends : EndsTerm f) {d : Char}
    {after : List Char} (next : skipSpaces f = d :: after) :
    Gives (comparisonAt (left.chars ++ ' ' :: (relation.chars ++ ' ' :: (right.chars ++ f))))
      (left.isFinite && right.isFinite) (.compare relation left (some right), d :: after) := by
  obtain ⟨c, t, text, visible, opens⟩ := relation_front two
  have behind : skipSpaces (' ' :: (relation.chars ++ ' ' :: (right.chars ++ f))) =
      c :: (t ++ ' ' :: (right.chars ++ f)) := by
    rw [skipSpaces_space, text, List.cons_append, skipSpaces_cons _ visible]
  rw [comparisonAt]
  apply (readLeft (endsTerm_space _) behind).bind
  simp only [reached_readComparison, if_neg opens]
  have read := found_readRelation_chars two (right.chars ++ f)
  rw [text, List.cons_append] at read
  rw [read]
  simp only [Except.bind, found_readTerm_space]
  exact (readRight ends next).map fun r => (Condition.compare relation left (some r.1), r.2)

theorem relation_text (relation : Relation) (left right : Term) (s : List Char) :
    (Condition.compare relation left (some right)).chars ++ s =
      left.chars ++ ' ' :: (relation.chars ++ ' ' :: (right.chars ++ s)) := by
  simp [Condition.chars]

theorem conditionsChars_append (connective : Connective) (member next : Condition)
    (members : List Condition) (s : List Char) :
    conditionsChars connective (member :: next :: members) ++ s = member.chars ++
      ' ' :: (connective.chars ++ ' ' :: (conditionsChars connective (next :: members) ++ s)) := by
  simp [conditionsChars]

theorem connective_front (connective : Connective) :
    ∃ c t, connective.chars = [c, t] ∧ c ≠ ' ' ∧ c ≠ ')' ∧ (c = ')' ∨ c = '|' ∨ c = '&') ∧
      connective? c t = some connective := by
  cases connective <;> exact ⟨_, _, rfl, by decide, by decide, by decide, rfl⟩

/-- The members of a chain as one condition; a single member is no chain. -/
def gather (connective : Connective) : List Condition → Condition
  | [last] => last
  | members => .compound connective members

theorem gather_pair {connective : Connective} {members : List Condition}
    (several : 2 ≤ members.length) : gather connective members = .compound connective members := by
  match members with
  | [] => rfl
  | [_] => simp at several
  | _ :: _ :: _ => rfl

theorem join_gather {connective : Connective} (member : Condition) {members : List Condition}
    (wellFormed : membersWellFormed connective members = true) :
    Condition.join connective member (gather connective members) =
      .compound connective (member :: members) := by
  match members with
  | [] => cases wellFormed
  | [.compare ..] => rfl
  | [.compound other _] =>
    simp only [membersWellFormed, Condition.connective?, Bool.and_eq_true, decide_eq_true_eq, ne_eq,
      Option.some.injEq] at wellFormed
    simp [gather, Condition.join, wellFormed.2]
  | _ :: _ :: _ => simp [gather, Condition.join]

theorem condition_close {text s : List Char} {readable : Bool} {condition : Condition}
    (read : Gives (comparisonAt text) readable (condition, ')' :: s)) :
    Gives (found (readCondition text)) readable (condition, s) := by
  rw [found_readCondition, ← Bool.and_true readable]
  apply read.bind
  simp only [if_true]
  exact .ok _

theorem condition_join {text next s : List Char} {readable good : Bool} {first rest : Condition}
    {c d : Char} {connective : Connective}
    (read : Gives (comparisonAt text) readable (first, c :: d :: next)) (opens : c ≠ ')')
    (joins : connective? c d = some connective)
    (following : Gives (found (readCondition next)) good (rest, s)) :
    Gives (found (readCondition text)) (readable && good) (.join connective first rest, s) := by
  rw [found_readCondition]
  apply read.bind
  simp only [if_neg opens, joins]
  exact following.map fun r => (Condition.join connective first r.1, r.2)

end Condition

/-- Every well-formed step begins with a dot or a bracket. -/
theorem step_front {step : Step} (wellFormed : step.isWellFormed = true) :
    ∃ c t, step.chars = c :: t ∧ (c = '.' ∨ c = '[') := by
  cases step with
  | root | pipe | union => cases wellFormed
  | member name =>
    cases name with
    | none => exact ⟨'.', ['*'], rfl, .inl rfl⟩
    | some name =>
      by_cases plain : isPlainName name.toList = true
      · exact ⟨'.', name.toList, memberChars_plain true plain, .inl rfl⟩
      · exact ⟨'[', _, memberChars_quoted true plain, .inr rfl⟩
  | item index =>
    cases index with
    | none => exact ⟨'[', ['*', ']'], rfl, .inr rfl⟩
    | some index => exact ⟨'[', _, rfl, .inr rfl⟩
  | scan name =>
    cases name with
    | none => exact ⟨'.', ['.', '*'], rfl, .inl rfl⟩
    | some name => exact ⟨'.', _, rfl, .inl rfl⟩
  | scanNames | scanQuery => exact ⟨'.', _, rfl, .inl rfl⟩
  | members | items | slice | query => exact ⟨'[', _, rfl, .inr rfl⟩

theorem endsName_stepsChars {inQuery : Bool} {steps : List Step}
    (wellFormed : stepsWellFormed steps = true) {f : List Char} (ends : f = [] ∨ EndsTerm f) :
    EndsName inQuery (stepsChars steps ++ f) := by
  cases steps with
  | nil => exact endsName_of_endsTerm ends
  | cons step steps =>
    simp only [stepsWellFormed, Bool.and_eq_true] at wellFormed
    obtain ⟨c, t, text, stop⟩ := step_front wellFormed.1
    rw [stepsChars, text]
    apply stopsAt_cons.mpr
    rcases stop with rfl | rfl <;> rfl

section Positions

variable {inQuery : Bool} {before : Before} {s f : List Char} {steps : List Step} {good : Bool}

theorem item_reread (index : Option Int32) (stop : EndsName inQuery s)
    (following : Gives (reached (readSteps inQuery .start false s)) good (steps, f)) :
    Gives (reached (readSteps inQuery before false ((Step.item index).chars ++ s))) good
      (.item index :: steps, f) := by
  cases index with
  | none =>
    have none : ∀ c ∈ ([] : List Char), isIndexChar c = true := by simp
    exact positions_reread none (c := '*') (by decide) (by decide) (by decide) ⟨_, rfl⟩
      (found_readPositions_all s) stop following
  | some i =>
    have read := found_readPositions_item i s
    have text : (Step.item (some i)).chars ++ s = '[' :: (indexChars i ++ ']' :: s) := by
      rw [show (Step.item (some i)).chars = '[' :: (indexChars i ++ [']']) from rfl]
      simp
    rw [text]
    exact positions_reread (fun _ => isIndexChar_of_mem_indexChars) (by decide) (by decide)
      (by decide) ⟨s, rfl⟩ read stop following

theorem items_reread {indexes : List Int32} (several : 2 ≤ indexes.length)
    (stop : EndsName inQuery s)
    (following : Gives (reached (readSteps inQuery .start false s)) good (steps, f)) :
    Gives (reached (readSteps inQuery before false ((Step.items indexes).chars ++ s))) good
      (.items indexes :: steps, f) := by
  match indexes with
  | [] => simp at several
  | [_] => simp at several
  | i :: j :: more =>
    have read := found_readPositions_items i j more s
    have text : (Step.items (i :: j :: more)).chars ++ s =
        '[' :: (joinChars [','] ((i :: j :: more).map indexChars) ++ ']' :: s) := by
      rw [show (Step.items (i :: j :: more)).chars =
        '[' :: (joinChars [','] ((i :: j :: more).map indexChars) ++ [']']) from rfl]
      simp
    have front : ∃ t, joinChars [','] ((i :: j :: more).map indexChars) ++ ']' :: s =
        indexChars i ++ ',' :: t := by
      rw [List.map_cons, joinChars_cons_append, if_neg (by simp)]
      exact ⟨_, rfl⟩
    rw [text]
    exact positions_reread (fun _ => isIndexChar_of_mem_indexChars) (by decide) (by decide)
      (by decide) front read stop following

theorem slice_reread (first last stride : Option Int32) (stop : EndsName inQuery s)
    (following : Gives (reached (readSteps inQuery .start false s)) good (steps, f)) :
    Gives (reached (readSteps inQuery before false ((Step.slice first last stride).chars ++ s))) good
      (.slice first last stride :: steps, f) := by
  have read := found_readPositions_slice first last stride s
  have text : (Step.slice first last stride).chars ++ s = '[' :: (boundChars first ++ ':' ::
      (boundChars last ++ (if stride.isSome then ':' :: boundChars stride else []) ++ ']' :: s)) := by
    rw [show (Step.slice first last stride).chars = '[' :: (boundChars first ++ ':' ::
      (boundChars last ++ (if stride.isSome then ':' :: boundChars stride else []) ++ [']'])) from rfl]
    simp
  rw [text]
  exact positions_reread (fun _ => isIndexChar_of_mem_boundChars) (by decide) (by decide)
    (by decide) ⟨_, rfl⟩ read stop following

theorem several_reread (deep : Bool) {names : List String} (several : 2 ≤ names.length)
    (stop : EndsName inQuery s)
    (following : Gives (reached (readSteps inQuery .start false s)) good (steps, f)) :
    Gives (reached (readSteps inQuery before false (depthChars deep ++ (namesChars names ++ s)))) good
      ((if deep then .scanNames names else .members names) :: steps, f) := by
  rw [← namesStep_pair deep several]
  cases names with
  | nil => simp at several
  | cons name more => exact names_reread deep name more stop following

theorem star_reread (deep : Bool) (stop : EndsName inQuery s)
    (following : Gives (reached (readSteps inQuery .start false s)) good (steps, f)) :
    Gives (reached (readSteps inQuery before false ('.' :: ((if deep then ['.'] else []) ++ '*' :: s))))
      good ((if deep then .scan none else .member none) :: steps, f) :=
  dotted_reread deep (List.cons_ne_nil '*' []) (by simp [endsName]) stop following

end Positions

mutual

/-- A step is read where it is written, in a query or not and whatever stands in front of it. -/
theorem step_reread (step : Step) (wellFormed : step.isWellFormed = true) {inQuery : Bool}
    {before : Before} {s f : List Char} {steps : List Step} {good : Bool}
    (stop : EndsName inQuery s)
    (following : Gives (reached (readSteps inQuery .start false s)) good (steps, f)) :
    Gives (reached (readSteps inQuery before false (step.chars ++ s))) (step.isFinite && good)
      (step :: steps, f) := by
  cases step with
  | root | pipe | union => cases wellFormed
  | member name =>
    cases name with
    | none => exact star_reread false stop following
    | some name => exact member_reread false name stop following
  | scan name =>
    cases name with
    | none => exact star_reread true stop following
    | some name => exact member_reread true name stop following
  | members names => exact several_reread false (of_decide_eq_true wellFormed) stop following
  | scanNames names => exact several_reread true (of_decide_eq_true wellFormed) stop following
  | item index => exact item_reread index stop following
  | items indexes => exact items_reread (of_decide_eq_true wellFormed) stop following
  | slice first last stride => exact slice_reread first last stride stop following
  | query condition =>
    rw [query_text]
    exact query_reread false (condition_reread condition wellFormed) stop following
  | scanQuery condition =>
    rw [scanQuery_text]
    exact query_reread true (condition_reread condition wellFormed) stop following
termination_by (sizeOf step, 0)

theorem steps_reread (steps : List Step) (wellFormed : stepsWellFormed steps = true)
    {inQuery : Bool} {before : Before} (front : before ≠ .dot) {f : List Char}
    (ends : f = [] ∨ EndsTerm f) :
    Gives (reached (readSteps inQuery before false (stepsChars steps ++ f))) (stepsFinite steps)
      (steps, f) := by
  cases steps with
  | nil => exact .of_eq (reached_readSteps_end inQuery before false ends front)
  | cons step steps =>
    simp only [stepsWellFormed, Bool.and_eq_true] at wellFormed
    rw [stepsChars, List.append_assoc]
    exact step_reread step wellFormed.1 (endsName_stepsChars wellFormed.2 ends)
      (steps_reread steps wellFormed.2 (by decide) ends)
termination_by (sizeOf steps, 0)

theorem comparison_reread (condition : Condition) (wellFormed : condition.isWellFormed = true)
    (comparison : condition.isComparison = true) {f : List Char} (ends : EndsTerm f) {d : Char}
    {after : List Char} (next : skipSpaces f = d :: after) (closes : d = ')' ∨ d = '|' ∨ d = '&') :
    Gives (comparisonAt (condition.chars ++ f)) condition.isFinite (condition, d :: after) := by
  cases condition with
  | compound => cases comparison
  | compare relation left right =>
    cases right with
    | none =>
      simp only [Condition.isWellFormed, Bool.and_eq_true, decide_eq_true_eq] at wellFormed
      rw [wellFormed.1]
      exact present_reread (term_reread left wellFormed.2) ends next closes
    | some right =>
      simp only [Condition.isWellFormed, Bool.and_eq_true, decide_eq_true_eq] at wellFormed
      have read := relation_reread wellFormed.1.1 (term_reread left wellFormed.1.2)
        (term_reread right wellFormed.2) ends next
      rw [relation_text]
      exact read
termination_by (sizeOf condition, 0)

theorem condition_reread (condition : Condition) (wellFormed : condition.isWellFormed = true)
    (s : List Char) :
    Gives (found (readCondition (condition.chars ++ ')' :: s))) condition.isFinite (condition, s) := by
  by_cases comparison : condition.isComparison = true
  · exact condition_close (comparison_reread condition wellFormed comparison (endsTerm_close s) rfl
      (.inl rfl))
  cases condition with
  | compare => exact absurd rfl comparison
  | compound connective members =>
    simp only [Condition.isWellFormed, Bool.and_eq_true, decide_eq_true_eq] at wellFormed
    have read := members_reread connective members wellFormed.2 s
    rw [gather_pair wellFormed.1] at read
    exact read
termination_by (sizeOf condition, 1)

theorem members_reread (connective : Connective) (members : List Condition)
    (wellFormed : membersWellFormed connective members = true) (s : List Char) :
    Gives (found (readCondition (conditionsChars connective members ++ ')' :: s)))
      (conditionsFinite members) (gather connective members, s) := by
  match members with
  | [] => cases wellFormed
  | [last] =>
    simp only [membersWellFormed, Bool.and_eq_true] at wellFormed
    rw [conditionsFinite, conditionsFinite, Bool.and_true]
    exact condition_reread last wellFormed.1 s
  | member :: next :: members =>
    simp only [membersWellFormed, Bool.and_eq_true] at wellFormed
    obtain ⟨c, d, text, visible, opens, closes, joins⟩ := connective_front connective
    rw [conditionsChars_append, text]
    have following := members_reread connective (next :: members) wellFormed.2 s
    rw [← found_readCondition_space] at following
    change Gives _ _ (Condition.compound connective (member :: next :: members), s)
    rw [← join_gather member wellFormed.2]
    refine condition_join ?_ opens joins following
    exact comparison_reread member wellFormed.1.2 wellFormed.1.1 (endsTerm_space _)
      ((skipSpaces_space _).trans (skipSpaces_cons _ visible)) closes
termination_by (sizeOf members, 0)

theorem term_reread (term : Term) (wellFormed : term.isWellFormed = true) : Rereads term := by
  intro s ends d after next
  cases term with
  | literal value =>
    obtain ⟨c, t, text, visible, read⟩ := literal_reread wellFormed ends
    rw [Term.chars, text]
    exact gives_term visible read next
  | pattern pattern =>
    obtain ⟨t, text, read⟩ := pattern_reread wellFormed ends
    rw [Term.chars, text]
    exact gives_term (by decide) read next
  | path steps =>
    by_cases rooted : ∃ inner, steps = .root :: inner
    · obtain ⟨inner, rfl⟩ := rooted
      exact gives_term (by decide) (path_reread (fun ends => steps_reread inner wellFormed (by decide)
        (.inr ends)) true ends) next
    · have bare : ∀ inner, steps = .root :: inner → False := fun inner h => rooted ⟨inner, h⟩
      rw [Term.isWellFormed] at wellFormed
      · rw [Term.chars]
        · exact gives_term (by decide) (path_reread (fun ends => steps_reread steps wellFormed
            (by decide) (.inr ends)) false ends) next
        · exact bare
      · exact bare
termination_by (sizeOf term, 0)

end

theorem mem_skipSpaces {c : Char} (visible : c ≠ ' ') {s : List Char} (mem : c ∈ s) :
    c ∈ skipSpaces s := by
  induction s with
  | nil => cases mem
  | cons d s ih =>
    by_cases space : d = ' '
    · subst space
      rcases List.mem_cons.mp mem with rfl | mem
      · exact absurd rfl visible
      · exact ih mem
    · rw [skipSpaces_cons s space]
      exact mem

/-- Dropping spaces at both ends keeps every other character. -/
theorem mem_trimmed {c : Char} (visible : c ≠ ' ') {s : List Char} (mem : c ∈ s) :
    c ∈ (skipSpaces (skipSpaces s).reverse).reverse :=
  List.mem_reverse.mpr (mem_skipSpaces visible (List.mem_reverse.mpr (mem_skipSpaces visible mem)))

/-- A text without the spaces at its ends. -/
def trimmed (text : List Char) : List Char := (skipSpaces (skipSpaces text).reverse).reverse

/-- Spaces apart, the text is empty or a `$`. -/
def Bare (text : List Char) : Prop := trimmed text = [] ∨ trimmed text = ['$']

theorem not_bare_of_mem {c : Char} (visible : c ≠ ' ') (further : c ≠ '$') {text : List Char}
    (mem : c ∈ text) : ¬ Bare text := by
  have inside : c ∈ trimmed text := mem_trimmed visible mem
  rintro (empty | root)
  · rw [empty] at inside
    cases inside
  · rw [root] at inside
    exact further (List.mem_singleton.mp inside)

/-- Only a bare text is not read step by step. -/
theorem readPath_of_mem {c : Char} (visible : c ≠ ' ') (further : c ≠ '$') {text : List Char}
    (mem : c ∈ text) :
    readPath text =
      (reached (readSteps false .start false (dropRoot (skipSpaces text)))).bind
        fun (steps, left) =>
          match skipSpaces left with
          | [] => .ok steps
          | c :: rest => .error ⟨.unexpectedInPath c, c :: rest⟩ :=
  (readPath_eq text).trans (if_neg (not_bare_of_mem visible further mem))

/-- The text of a well-formed path reads back exactly if its numbers are finite. -/
theorem readPath_chars {path : Path} (wellFormed : path.isWellFormed = true) :
    Gives (readPath path.chars) path.isFinite path.steps := by
  obtain ⟨steps⟩ := path
  cases steps with
  | nil => exact .ok _
  | cons step steps =>
    have read : Gives (reached (readSteps false .start false (stepsChars (step :: steps) ++ [])))
        (stepsFinite (step :: steps)) (step :: steps, []) :=
      steps_reread (step :: steps) wellFormed (by decide) (.inl rfl)
    simp only [Path.isWellFormed, stepsWellFormed, Bool.and_eq_true] at wellFormed
    obtain ⟨c, t, text, front⟩ := step_front wellFormed.1
    have chars : stepsChars (step :: steps) = c :: (t ++ stepsChars steps) := by
      rw [stepsChars, text, List.cons_append]
    have visible : c ≠ ' ' := by rcases front with rfl | rfl <;> decide
    have further : c ≠ '$' := by rcases front with rfl | rfl <;> decide
    have inside : c ∈ '$' :: stepsChars (step :: steps) := by simp [chars]
    have rest : dropRoot ('$' :: stepsChars (step :: steps)) = stepsChars (step :: steps) := by
      rw [chars]
      rcases front with rfl | rfl <;> rfl
    rw [List.append_nil] at read
    rw [Path.chars, readPath_of_mem visible further inside, skipSpaces_cons _ (by decide), rest,
      Path.isFinite, ← Bool.and_true (stepsFinite _)]
    apply read.bind
    exact .ok _

end Reader
end PathQuery
