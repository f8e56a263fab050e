import Mathlib
import PathQuery.Proofs.Text.Span
import PathQuery.Select.Comparison

/-! The text of a time span. A grammar says which texts have the form `[-][d.]hh:mm:ss[.fffffff]` and with
which fields, and a text has its fields in one way only. Main statement: the text of a span has this form,
its fields add up to the span cut to units of 100 ns, and so spans that equal one string agree up to that. -/
namespace PathQuery.TimeSpan

open Numeral

structure Fields where
  negative : Bool
  days : Nat
  hours : Nat
  minutes : Nat
  seconds : Nat
  ticks : Nat

namespace Fields

/-- In nanoseconds; a tick is 100 of them. -/
def length (f : Fields) : Nat :=
  f.days * 86400000000000 + f.hours * 3600000000000 + f.minutes * 60000000000 +
    f.seconds * 1000000000 + f.ticks * 100

def total (f : Fields) : Int := if f.negative then -f.length else f.length

/-- No days are left out; any others are written without zeros in front. -/
inductive DayPart : Nat → List Char → Prop where
  | none : DayPart 0 []
  | some {ds : List Char} (digits : ∀ c ∈ ds, isDigit c = true) (front : ds.head? ≠ some '0')
      (positive : 0 < ofDigits ds) : DayPart (ofDigits ds) (ds ++ ['.'])

/-- No ticks are left out; any others are written with seven digits. -/
inductive TickPart : Nat → List Char → Prop where
  | none : TickPart 0 []
  | some {ticks : Nat} {ds : List Char} (row : Spells 7 ticks ds) (positive : 0 < ticks) :
      TickPart ticks ('.' :: ds)

/-- A text of the form, and its fields. -/
inductive Written : Fields → List Char → Prop where
  | intro (negative : Bool) {days hours minutes seconds ticks : Nat} {day hh mm ss tick : List Char}
      (dayPart : DayPart days day) (hour : Spells 2 hours hh) (hours_lt : hours < 24)
      (minute : Spells 2 minutes mm) (minutes_lt : minutes < 60)
      (second : Spells 2 seconds ss) (seconds_lt : seconds < 60) (tickPart : TickPart ticks tick) :
      Written ⟨negative, days, hours, minutes, seconds, ticks⟩
        ((if negative then ['-'] else []) ++ (day ++ hh ++ ':' :: (mm ++ ':' :: (ss ++ tick))))

theorem DayPart.unique {cs : List Char} {m n : Nat} (first : DayPart m cs) (second : DayPart n cs) :
    m = n := by
  cases first with
  | none =>
    generalize text : ([] : List Char) = cs at second
    cases second with
    | none => rfl
    | some => simp at text
  | @some ds digits front positive =>
    generalize text : ds ++ ['.'] = cs at second
    cases second with
    | none => simp at text
    | some => rw [List.append_cancel_right text]

theorem TickPart.unique {cs : List Char} {m n : Nat} (first : TickPart m cs) (second : TickPart n cs) :
    m = n := by
  cases first with
  | none => cases second; rfl
  | some row =>
    cases second with
    | some row' => exact row.value.symm.trans row'.value

/-- Everything in front of the first colon. -/
theorem colon_not_mem {days hours : Nat} {day hh : List Char} (dayPart : DayPart days day)
    (hour : Spells 2 hours hh) : ':' ∉ day ++ hh := by
  have noDigit : ∀ cs : List Char, (∀ c ∈ cs, isDigit c = true) → ':' ∉ cs :=
    fun cs digits mem => absurd (digits ':' mem) (by decide)
  rw [List.mem_append]
  rintro (mem | mem)
  · cases dayPart with
    | none => cases mem
    | some digits =>
      rcases List.mem_append.mp mem with mem | mem
      · exact noDigit _ digits mem
      · exact absurd mem (by decide)
  · exact noDigit hh hour.digits mem

/-- The part behind the sign begins with a digit. -/
theorem digit_front {days hours : Nat} {day hh : List Char} (dayPart : DayPart days day)
    (hour : Spells 2 hours hh) (rest : List Char) :
    ∃ c t, day ++ hh ++ rest = c :: t ∧ isDigit c = true := by
  have row : ∀ cs t : List Char, (∀ c ∈ cs, isDigit c = true) → cs ≠ [] →
      ∃ c u, cs ++ t = c :: u ∧ isDigit c = true := by
    intro cs t digits nonempty
    obtain ⟨c, cs, rfl⟩ := List.exists_cons_of_ne_nil nonempty
    exact ⟨c, cs ++ t, rfl, digits c List.mem_cons_self⟩
  cases dayPart with
  | none =>
    refine row hh rest hour.digits ?_
    rintro rfl
    cases hour.length
  | @some ds digits front positive =>
    rw [List.append_assoc, List.append_assoc]
    refine row ds _ digits ?_
    rintro rfl
    cases positive

/-- A sign is not a digit, so it is seen whether there is one. -/
theorem sign_unique {m n : Bool} {a b : List Char} (ha : ∃ c t, a = c :: t ∧ isDigit c = true)
    (hb : ∃ c t, b = c :: t ∧ isDigit c = true)
    (same : (if m then ['-'] else []) ++ a = (if n then ['-'] else []) ++ b) : m = n ∧ a = b := by
  obtain ⟨c, t, rfl, digit⟩ := ha
  obtain ⟨d, u, rfl, digit'⟩ := hb
  cases m <;> cases n
  · exact ⟨rfl, same⟩
  · cases same
    exact absurd digit (by decide)
  · cases same
    exact absurd digit' (by decide)
  · exact ⟨rfl, (List.cons.inj same).2⟩

/-- The parts are found from the sign on: the days and hours end at the first colon, and all rows of digits
but that of the days have a fixed length. -/
theorem Written.unique {cs : List Char} {f g : Fields} (first : f.Written cs) (other : g.Written cs) :
    f = g := by
  cases first with
  | intro m dayPart hour _ minute _ second _ tickPart =>
    generalize same : (if m then ['-'] else []) ++ _ = cs at other
    cases other with
    | intro n dayPart' hour' _ minute' _ second' _ tickPart' =>
      obtain ⟨rfl, body⟩ := sign_unique (digit_front dayPart hour _) (digit_front dayPart' hour' _) same
      obtain ⟨front, behind⟩ :=
        append_cons_unique (colon_not_mem dayPart hour) (colon_not_mem dayPart' hour') body
      obtain ⟨rfl, rfl⟩ := List.append_inj' front (hour.length.trans hour'.length.symm)
      obtain ⟨rfl, colon⟩ := List.append_inj behind (minute.length.trans minute'.length.symm)
      obtain ⟨rfl, rfl⟩ :=
        List.append_inj (List.cons.inj colon).2 (second.length.trans second'.length.symm)
      simp only [mk.injEq, true_and]
      exact ⟨dayPart.unique dayPart', hour.value.symm.trans hour'.value,
        minute.value.symm.trans minute'.value, second.value.symm.trans second'.value,
        tickPart.unique tickPart'⟩

end Fields

/-- The fields as the text takes them from the span. -/
def fields (t : TimeSpan) : Fields :=
  ⟨t.isNegative, t.wholeSeconds / 86400, t.wholeSeconds / 3600 % 24, t.wholeSeconds / 60 % 60,
    t.wholeSeconds % 60, t.ticks⟩

theorem dayPart_text (days : Nat) :
    Fields.DayPart days (if 0 < days then Numeral.text days ++ "." else "").toList := by
  by_cases positive : 0 < days
  · have read : ofDigits (digits days) = days := ofDigits_digits days
    have part : Fields.DayPart (ofDigits (digits days)) (digits days ++ ['.']) :=
      .some (fun c mem => isDigit_of_mem_digits mem) (digits_head_ne_zero positive) (by omega)
    rw [read] at part
    simpa [positive, Numeral.text] using part
  · obtain rfl : days = 0 := by omega
    exact .none

theorem tickPart_text {ticks : Nat} (small : ticks < 10 ^ 7) :
    Fields.TickPart ticks (if 0 < ticks then "." ++ padded 7 ticks else "").toList := by
  by_cases positive : 0 < ticks
  · have part : Fields.TickPart ticks ('.' :: (padded 7 ticks).toList) :=
      .some (spells_padded (by decide) small) positive
    simpa [positive] using part
  · obtain rfl : ticks = 0 := by omega
    exact .none

theorem fields_written (t : TimeSpan) : t.fields.Written t.text.toList := by
  have written : t.fields.Written _ := .intro t.isNegative (dayPart_text (t.wholeSeconds / 86400))
    (spells_padded Nat.two_pos (show t.wholeSeconds / 3600 % 24 < 10 ^ 2 by omega)) (by omega)
    (spells_padded Nat.two_pos (show t.wholeSeconds / 60 % 60 < 10 ^ 2 by omega)) (by omega)
    (spells_padded Nat.two_pos (show t.wholeSeconds % 60 < 10 ^ 2 by omega)) (by omega)
    (tickPart_text (show t.ticks < 10 ^ 7 by rw [ticks]; omega))
  convert written using 1
  rw [text]
  cases t.isNegative <;> simp

theorem isNegative_iff (t : TimeSpan) : t.isNegative = true ↔ t.total < 0 := by
  have small := t.nanos_lt
  rw [isNegative, total, decide_eq_true_iff]
  omega

theorem fields_length (t : TimeSpan) : t.fields.length = t.total.natAbs / 100 * 100 := by
  simp only [Fields.length, fields, wholeSeconds, ticks]
  omega

/-- Cutting the size is rounding toward zero. -/
theorem fields_total (t : TimeSpan) : t.fields.total = t.total.tdiv 100 * 100 := by
  rw [Fields.total, fields_length]
  by_cases negative : t.total < 0
  · have sign : t.fields.negative = true := t.isNegative_iff.mpr negative
    have size : t.total.tdiv 100 = -(-t.total / 100) := by
      rw [← Int.tdiv_eq_ediv_of_nonneg (by omega), Int.neg_tdiv, neg_neg]
    rw [if_pos sign, size]
    omega
  · have sign : ¬t.fields.negative = true := mt t.isNegative_iff.mp negative
    have size : t.total.tdiv 100 = t.total / 100 := Int.tdiv_eq_ediv_of_nonneg (by omega)
    rw [if_neg sign, size]
    omega

/-- A string equals a span exactly if it is the span's text. -/
theorem looseEq_string (t : TimeSpan) (s : String) :
    (Scalar.timeSpan t).looseEq (.string s) = decide (s = t.text) := by
  simp [Scalar.looseEq, Scalar.strictEq, Scalar.compare?, Scalar.stringForm?, beq_eq_decide]

theorem holds_looseEq {t : TimeSpan} {doc : Document} {a : Operand}
    (value : a.value? doc = some (.timeSpan t)) (s : String) :
    Relation.looseEq.holds doc a (.literal (.string s)) = .ok (decide (s = t.text)) := by
  rw [Relation.holds, if_neg (by decide), value, ← looseEq_string]
  rfl

/-- Spans of one text have one sign and lie in one unit. -/
theorem near_of_text_eq {t u : TimeSpan} (same : t.text = u.text) :
    (t.total - u.total).natAbs < 100 := by
  have written : t.fields.Written u.text.toList := same ▸ t.fields_written
  have fields := written.unique u.fields_written
  have signs : t.total < 0 ↔ u.total < 0 := by
    rw [← isNegative_iff, ← isNegative_iff]
    exact iff_of_eq (congrArg (· = true) (congrArg Fields.negative fields))
  have lengths := congrArg Fields.length fields
  rw [fields_length, fields_length] at lengths
  omega

/-- The text of a span has the form of a written span, with one choice of fields: its sign, its whole days,
and hours, minutes, seconds and ticks that with them add up to the span rounded toward zero to a multiple of
100 ns. So two spans that both equal one string differ by less than that. -/
theorem text_decodes (t : TimeSpan) :
    (∃ f : Fields, (∀ g : Fields, g.Written t.text.toList ↔ g = f) ∧
      (f.negative = true ↔ t.total < 0) ∧ f.days = t.total.natAbs / 86400000000000 ∧
      f.ticks = t.total.natAbs % 1000000000 / 100 ∧ f.total = t.total.tdiv 100 * 100) ∧
    ∀ (u : TimeSpan) (doc : Document) (a b : Operand) (s : String),
      a.value? doc = some (.timeSpan t) → b.value? doc = some (.timeSpan u) →
      Relation.looseEq.holds doc a (.literal (.string s)) = .ok true →
      Relation.looseEq.holds doc b (.literal (.string s)) = .ok true →
      (t.total - u.total).natAbs < 100 := by
  refine ⟨⟨t.fields, fun g => ⟨fun other => other.unique t.fields_written, ?_⟩, t.isNegative_iff, ?_, rfl,
    t.fields_total⟩, ?_⟩
  · rintro rfl
    exact t.fields_written
  · exact Nat.div_div_eq_div_mul _ _ _
  · intro u doc a b s valueT valueU equalT equalU
    rw [holds_looseEq valueT] at equalT
    rw [holds_looseEq valueU] at equalU
    have textT : s = t.text := of_decide_eq_true (Except.ok.inj equalT)
    have textU : s = u.text := of_decide_eq_true (Except.ok.inj equalU)
    exact near_of_text_eq (textT.symm.trans textU)

/-- A little more than a day before zero, by 150 ns and by 199 ns beyond the last whole second. -/
def earlier : TimeSpan := ⟨-93785, 999999850, by decide⟩

def earliest : TimeSpan := ⟨-93785, 999999801, by decide⟩

theorem text_decodes_earlier :
    let doc := Document.ofRoot .array
    let text : Operand := .literal (.string "-1.02:03:04.0000001")
    Relation.looseEq.holds doc (.literal (.timeSpan earlier)) text = .ok true ∧
      Relation.looseEq.holds doc (.literal (.timeSpan earliest)) text = .ok true ∧
      (earlier.total - earliest.total).natAbs < 100 := by
  intro doc text
  have texts : "-1.02:03:04.0000001" = earlier.text ∧ "-1.02:03:04.0000001" = earliest.text := by
    constructor <;> cbv
  have one : Relation.looseEq.holds doc (.literal (.timeSpan earlier)) text = .ok true :=
    (holds_looseEq rfl _).trans (congrArg Except.ok (decide_eq_true texts.1))
  have other : Relation.looseEq.holds doc (.literal (.timeSpan earliest)) text = .ok true :=
    (holds_looseEq rfl _).trans (congrArg Except.ok (decide_eq_true texts.2))
  exact ⟨one, other, (text_decodes earlier).2 earliest doc _ _ _ rfl rfl one other⟩

end PathQuery.TimeSpan
