import Mathlib.Data.String.Basic
import PathQuery.Proofs.Path.Outcome

/-! Readers only move forward: what one leaves is a suffix of what it was given, and so is the text from
the place of a fault on. So every place that is reported lies in the text and between two characters. -/
namespace PathQuery

/-- What is left, or the text from the fault on, is a suffix of the text. -/
def Forward (s : List Char) {α : Type} : Except SyntaxFault (α × List Char) → Prop
  | .error fault => fault.rest <:+ s
  | .ok (_, rest) => rest <:+ s

namespace Forward

variable {s t : List Char} {α β : Type} {r : Except SyntaxFault (α × List Char)}

theorem mono (forward : Forward t r) (suffix : t <:+ s) : Forward s r := by
  cases r with
  | error fault => exact List.IsSuffix.trans forward suffix
  | ok found => exact List.IsSuffix.trans forward suffix

theorem map (forward : Forward t r) (suffix : t <:+ s) {f : α × List Char → β × List Char}
    (same : ∀ x, (f x).2 = x.2) : Forward s (r.map f) := by
  cases r with
  | error fault => exact List.IsSuffix.trans forward suffix
  | ok found =>
    have behind : found.2 <:+ t := forward
    rw [← same found] at behind
    exact behind.trans suffix

theorem bind (forward : Forward s r) {f : α × List Char → Except SyntaxFault (β × List Char)}
    (next : ∀ v rest, r = .ok (v, rest) → rest <:+ s → Forward s (f (v, rest))) :
    Forward s (r.bind f) := by
  cases r with
  | error fault => exact forward
  | ok found => exact next found.1 found.2 rfl forward

/-- What is left behind a value that was read. -/
theorem suffix (forward : Forward s r) {v : α} {rest : List Char} (read : r = .ok (v, rest)) :
    rest <:+ s := by
  subst read
  exact forward

end Forward

/-- The same for a result that leaves nothing: only the fault has a place. -/
def FaultForward (s : List Char) {α : Type} (r : Except SyntaxFault α) : Prop :=
  ∀ fault, r = .error fault → fault.rest <:+ s

namespace FaultForward

variable {s : List Char} {α β : Type} {r : Except SyntaxFault α}

theorem bind (forward : FaultForward s r) {f : α → Except SyntaxFault (β × List Char)}
    (next : ∀ v, Forward s (f v)) : Forward s (r.bind f) := by
  cases r with
  | error fault => exact forward fault rfl
  | ok v => exact next v

theorem map (forward : FaultForward s r) {f : α → β × List Char} (suffix : ∀ v, (f v).2 <:+ s) :
    Forward s (r.map f) := by
  cases r with
  | error fault => exact forward fault rfl
  | ok v => exact suffix v

end FaultForward

theorem Forward.of_suffix {s rest : List Char} {α : Type} (v : α) (suffix : rest <:+ s) :
    Forward s (.ok (v, rest)) := suffix

theorem suffix_of_cons {s rest : List Char} {c : Char} (suffix : c :: rest <:+ s) : rest <:+ s :=
  (List.suffix_cons c rest).trans suffix

namespace Lexeme

theorem skipSpaces_suffix (s : List Char) : skipSpaces s <:+ s := List.dropWhile_suffix _

/-- What follows a character behind spaces. -/
theorem suffix_of_skipSpaces {s t rest : List Char} {c : Char} (suffix : t <:+ s)
    (h : skipSpaces t = c :: rest) : c :: rest <:+ s :=
  h ▸ (skipSpaces_suffix t).trans suffix

theorem quotedChars_forward (quote : Char) (seen s : List Char) :
    Forward s (quotedChars quote seen s) := by
  fun_induction quotedChars quote seen s with
  | case1 => exact List.suffix_rfl
  | case2 => exact List.nil_suffix
  | case3 => exact List.nil_suffix
  | case4 => exact List.suffix_cons _ _
  | case5 _ _ _ _ _ _ ih => exact ih.mono ((List.suffix_cons _ _).trans (List.suffix_cons _ _))
  | case6 => exact List.suffix_cons _ _
  | case7 _ _ _ _ _ _ ih => exact ih.mono (List.suffix_cons _ _)

theorem readQuoted_forward (quote : Char) (s : List Char) : Forward s (found (readQuoted quote s)) := by
  rw [found_readQuoted]
  exact (quotedChars_forward quote [] s).map List.suffix_rfl fun _ => rfl

theorem patternChars_suffix {seen s : List Char} {r : List Char × List Char}
    (h : patternChars seen s = some r) : r.2 <:+ s := by
  fun_induction patternChars seen s with
  | case1 => cases h
  | case2 => cases h; exact List.nil_suffix
  | case3 => cases h
  | case4 => cases h; exact List.suffix_cons _ _
  | case5 _ _ _ ih => exact (ih h).trans ((List.suffix_cons _ _).trans (List.suffix_cons _ _))
  | case6 _ _ _ _ _ ih => exact (ih h).trans ((List.suffix_cons _ _).trans (List.suffix_cons _ _))
  | case7 _ _ _ _ _ _ ih => exact (ih h).trans (List.suffix_cons _ _)

theorem readPattern_forward (s : List Char) : Forward s (found (readPattern s)) := by
  rw [found_readPattern]
  split
  · exact List.nil_suffix
  · rename_i source rest read
    exact Forward.of_suffix _ ((List.dropWhile_suffix _).trans (patternChars_suffix read))

theorem takeDigits_suffix (s : List Char) : (takeDigits s).2 <:+ s := List.dropWhile_suffix _

theorem takeSign_suffix (s : List Char) : (takeSign s).2 <:+ s := by
  unfold takeSign
  split
  · exact List.suffix_rfl
  · split
    · exact List.suffix_cons _ _
    · split
      · exact List.suffix_cons _ _
      · exact List.suffix_rfl

theorem takeMantissa_suffix {s rest whole : List Char} {fraction : Option (List Char)}
    (h : takeMantissa? s = some (whole, fraction, rest)) : rest <:+ s := by
  have behind := takeDigits_suffix s
  unfold takeMantissa? at h
  simp only at h
  split at h
  · rename_i inner point
    rw [point] at behind
    split at h
    · cases h
    · cases h
      exact (takeDigits_suffix inner).trans (suffix_of_cons behind)
  · split at h
    · cases h
    · cases h
      exact behind

theorem takeExponent_suffix {s rest : List Char} {exponent : Option Int}
    (h : takeExponent? s = some (exponent, rest)) : rest <:+ s := by
  unfold takeExponent? at h
  split at h
  · cases h
    exact List.suffix_rfl
  · rename_i c inner
    have behind := (takeDigits_suffix (takeSign inner).2).trans (takeSign_suffix inner)
    split at h
    · simp only at h
      split at h
      · cases h
      · cases h
        exact behind.trans (List.suffix_cons _ _)
    · cases h
      exact List.suffix_rfl

theorem takeNumber_suffix {s rest : List Char} {w : WrittenNumber}
    (h : takeNumber? s = some (w, rest)) : rest <:+ s := by
  unfold takeNumber? at h
  simp only at h
  split at h
  · cases h
  · rename_i mantissa
    split at h
    · cases h
    · rename_i exponent
      cases h
      exact (takeExponent_suffix exponent).trans ((takeMantissa_suffix mantissa).trans (takeSign_suffix s))

theorem readNumber_forward (s : List Char) : Forward s (found (readNumber s)) := by
  rw [found_readNumber]
  split
  · exact List.suffix_rfl
  · rename_i w rest read
    exact Forward.of_suffix _ (takeNumber_suffix read)

theorem afterWord_suffix {word s rest : List Char} (h : afterWord? word s = some rest) : rest <:+ s := by
  fun_induction afterWord? word s with
  | case1 => cases h; exact List.suffix_rfl
  | case2 => cases h
  | case3 w word s ih => exact (ih h).trans (List.suffix_cons _ _)
  | case4 => cases h

theorem readWord_suffix {α : Type} {s : List Char} {words : List (List Char × α)} {t : Taken s α}
    (h : readWord? s words = some t) : t.rest <:+ s := by
  induction words with
  | nil => cases h
  | cons entry words ih =>
    rw [readWord?] at h
    split at h
    · rename_i rest read
      split at h
      · cases h
        exact afterWord_suffix read
      · cases h
    · exact ih h

theorem readRelation_forward (s : List Char) : Forward s (found (readRelation s)) := by
  rw [found_readRelation]
  split
  · exact List.suffix_rfl
  · exact List.suffix_rfl
  · split
    · rename_i t read
      exact Forward.of_suffix _ (readWord_suffix read)
    · exact List.suffix_rfl

end Lexeme

namespace Indexer

open Lexeme

theorem segmentIndex_forward (segment rest : List Char) : FaultForward rest (segmentIndex segment rest) := by
  intro fault h
  unfold segmentIndex at h
  split at h
  · cases h
    exact List.suffix_rfl
  · split at h <;> cases h
    exact List.suffix_rfl

theorem segmentBound_forward (segment rest : List Char) : FaultForward rest (segmentBound segment rest) := by
  intro fault h
  unfold segmentBound at h
  split at h
  · cases h
  · cases e : segmentIndex segment rest with
    | error other =>
      rw [e] at h
      cases h
      exact segmentIndex_forward segment rest _ e
    | ok i =>
      rw [e] at h
      cases h

/-- The character behind a segment is still in what the segment is a part of. -/
theorem readSegment_suffix {s rest : List Char} {segment : Segment}
    (h : found (readSegment s) = .ok (segment, rest)) : segment.next :: rest <:+ s := by
  rw [found_readSegment] at h
  split at h
  · cases h
  · rename_i c left ends
    cases h
    exact suffix_of_skipSpaces (List.dropWhile_suffix _) ends

theorem readSegment_forward (s : List Char) : Forward s (found (readSegment s)) := by
  cases h : found (readSegment s) with
  | ok r => exact suffix_of_cons (readSegment_suffix h)
  | error fault =>
    rw [found_readSegment] at h
    split at h <;> cases h
    exact List.nil_suffix

theorem readIndexes_forward (close : Char) (s : List Char) : Forward s (found (readIndexes close s)) := by
  rw [found_readIndexes]
  refine (readSegment_forward s).bind fun segment rest read _ => ?_
  have behind := readSegment_suffix read
  have shorter := found_shorter read
  have le := length_skipSpaces_le rest
  have after := (skipSpaces_suffix rest).trans (List.suffix_cons segment.next rest)
  refine Forward.mono (t := segment.next :: rest) ?_ behind
  dsimp only
  split
  · exact (segmentIndex_forward _ _).map fun _ => List.suffix_cons _ _
  split
  · exact (segmentIndex_forward _ _).bind fun i => (readIndexes_forward close _).map after fun _ => rfl
  · exact List.suffix_rfl
termination_by s.length
decreasing_by omega

theorem readStride_forward (close : Char) (s : List Char) : Forward s (found (readStride close s)) := by
  rw [found_readStride]
  refine (readSegment_forward s).bind fun segment rest read _ => ?_
  have behind := readSegment_suffix read
  refine Forward.mono (t := segment.next :: rest) ?_ behind
  dsimp only
  split
  · exact (segmentBound_forward _ _).map fun _ => List.suffix_cons _ _
  · exact List.suffix_rfl

theorem readStop_forward (close : Char) (s : List Char) : Forward s (found (readStop close s)) := by
  rw [found_readStop]
  refine (readSegment_forward s).bind fun segment rest read _ => ?_
  have behind := readSegment_suffix read
  have after := (skipSpaces_suffix rest).trans (List.suffix_cons segment.next rest)
  refine Forward.mono (t := segment.next :: rest) ?_ behind
  dsimp only
  split
  · exact (segmentBound_forward _ _).map fun _ => List.suffix_cons _ _
  split
  · exact (segmentBound_forward _ _).bind fun stop => (readStride_forward close _).map after fun _ => rfl
  · exact List.suffix_rfl

theorem readClose_forward (close : Char) (s : List Char) : Forward s (found (readClose close s)) := by
  rw [found_readClose]
  split
  · exact List.nil_suffix
  · rename_i c rest ends
    have behind := suffix_of_skipSpaces List.suffix_rfl ends
    split
    · exact suffix_of_cons behind
    · exact behind

theorem readPositions_forward (close : Char) (s : List Char) :
    Forward s (found (readPositions close s)) := by
  rw [found_readPositions]
  refine (readSegment_forward s).bind fun segment rest read _ => ?_
  have behind := readSegment_suffix read
  have after := (skipSpaces_suffix rest).trans (List.suffix_cons segment.next rest)
  refine Forward.mono (t := segment.next :: rest) ?_ behind
  dsimp only
  split
  · exact (segmentIndex_forward _ _).map fun _ => List.suffix_cons _ _
  split
  · exact (segmentIndex_forward _ _).bind fun i =>
      (readIndexes_forward close _).map after fun _ => rfl
  split
  · exact (segmentBound_forward _ _).bind fun start =>
      (readStop_forward close _).map after fun _ => rfl
  split
  · exact (readClose_forward close rest).map (List.suffix_cons _ _) fun _ => rfl
  · exact List.suffix_rfl

theorem readNames_forward (close : Char) (s : List Char) : Forward s (found (readNames close s)) := by
  rw [found_readNames]
  refine (readQuoted_forward '\'' s).bind fun name left read suffix => ?_
  have shorter := found_shorter read
  dsimp only
  split
  · exact List.nil_suffix
  rename_i c rest ends
  have behind := suffix_of_skipSpaces suffix ends
  have le := lt_of_eq_cons (length_skipSpaces_le left) ends
  split
  · exact suffix_of_cons behind
  split
  · split
    · exact List.nil_suffix
    rename_i d next ends'
    have behind' := suffix_of_skipSpaces (suffix_of_cons behind) ends'
    have le' := lt_of_eq_cons (length_skipSpaces_le rest) ends'
    split
    · exact (readNames_forward close next).map (suffix_of_cons behind') fun _ => rfl
    · exact behind'
  · exact behind
termination_by s.length
decreasing_by omega

end Indexer

namespace Reader

open Lexeme Indexer

theorem afterDot_suffix (s : List Char) : (afterDot s).2 <:+ s := by
  unfold afterDot
  split
  · exact List.suffix_rfl
  · split
    · exact List.suffix_cons _ _
    · exact List.suffix_rfl

mutual

theorem readSteps_forward (inQuery : Bool) (before : Before) (deep : Bool) (s : List Char) :
    Forward s (reached (readSteps inQuery before deep s)) := by
  have suffix := List.dropWhile_suffix (l := s) (!endsName inQuery ·)
  rw [reached_readSteps]
  dsimp only
  split
  · exact List.suffix_rfl
  split
  · split <;> exact List.nil_suffix
  rename_i c rest ends
  rw [ends] at suffix
  have inside := suffix.length_le
  refine Forward.mono (t := c :: rest) ?_ suffix
  split
  · refine Forward.mono (t := rest) ?_ (List.suffix_cons _ _)
    refine (readIndexer_forward _ _ rest).bind fun step left read behind => ?_
    have shorter := found_shorter read
    exact (readSteps_forward inQuery .indexer false left).map behind fun _ => rfl
  split
  · have le := afterDot_le rest
    have after := (afterDot_suffix rest).trans (List.suffix_cons c rest)
    exact (readSteps_forward inQuery .dot _ (afterDot rest).2).map after fun _ => rfl
  split <;> exact List.suffix_rfl
termination_by 2 * s.length
decreasing_by all_goals (simp only [List.length_cons] at *; omega)

theorem readIndexer_forward (close : Char) (deep : Bool) (s : List Char) :
    Forward s (found (readIndexer close deep s)) := by
  have le := length_skipSpaces_le s
  rw [found_readIndexer]
  split
  · exact List.nil_suffix
  rename_i c rest ends
  have inside := lt_of_eq_cons le ends
  refine Forward.mono (t := c :: rest) ?_ (suffix_of_skipSpaces List.suffix_rfl ends)
  split
  · exact (readNames_forward close rest).map (List.suffix_cons _ _) fun _ => rfl
  split
  · split
    · exact List.nil_suffix
    rename_i d inner
    split
    · refine Forward.mono (t := inner) ?_ ((List.suffix_cons _ _).trans (List.suffix_cons _ _))
      refine (readCondition_forward inner).bind fun condition left _ behind => ?_
      exact (readClose_forward close left).map behind fun _ => rfl
    · exact List.suffix_cons _ _
  · exact readPositions_forward close (c :: rest)
termination_by 2 * s.length
decreasing_by (simp only [List.length_cons] at *; omega)

theorem readCondition_forward (s : List Char) : Forward s (found (readCondition s)) := by
  rw [found_readCondition, comparisonAt]
  have first : Forward s ((found (readTerm s)).bind fun (left, afterLeft) =>
      reached (readComparison left afterLeft)) := by
    refine (readTerm_forward s).bind fun left afterLeft read behind => ?_
    have shorter := found_shorter read
    exact (readComparison_forward left afterLeft).mono behind
  refine first.bind fun condition afterFirst read suffix => ?_
  obtain ⟨⟨left, afterLeft⟩, readLeft, readFirst⟩ := bind_eq_ok read
  have shorter := found_shorter readLeft
  have le := reached_le readFirst
  dsimp only
  split
  · exact List.nil_suffix
  rename_i c rest
  split
  · exact suffix_of_cons suffix
  split
  · exact suffix
  rename_i d next
  split
  · exact suffix
  · exact (readCondition_forward next).map (suffix_of_cons (suffix_of_cons suffix)) fun _ => rfl
termination_by 2 * s.length + 1
decreasing_by all_goals (simp only [List.length_cons] at *; omega)

theorem readComparison_forward (left : Term) (s : List Char) :
    Forward s (reached (readComparison left s)) := by
  cases s with
  | nil =>
    rw [reached_readComparison]
    exact List.nil_suffix
  | cons c rest =>
  rw [reached_readComparison]
  dsimp only
  split
  · exact List.suffix_rfl
  · refine (readRelation_forward (c :: rest)).bind fun relation afterRelation read behind => ?_
    have shorter := found_shorter read
    exact (readTerm_forward afterRelation).map behind fun _ => rfl
termination_by 2 * s.length
decreasing_by omega

theorem readTerm_forward (s : List Char) : Forward s (found (readTerm s)) := by
  have le := length_skipSpaces_le s
  rw [found_readTerm]
  split
  · exact List.nil_suffix
  rename_i c rest ends
  have inside := lt_of_eq_cons le ends
  have term : Forward (c :: rest) (termAt c rest) := by
    unfold termAt
    split
    · exact (readSteps_forward true .start false rest).map (List.suffix_cons _ _) fun _ => rfl
    split
    · exact (readQuoted_forward c rest).map (List.suffix_cons _ _) fun _ => rfl
    split
    · exact (readPattern_forward rest).map (List.suffix_cons _ _) fun _ => rfl
    split
    · exact (readNumber_forward (c :: rest)).map List.suffix_rfl fun _ => rfl
    split
    · rename_i t constant
      exact Forward.of_suffix _ (readWord_suffix constant)
    · exact List.suffix_rfl
  refine Forward.mono ?_ (suffix_of_skipSpaces List.suffix_rfl ends)
  refine term.bind fun value left _ behind => ?_
  dsimp only
  split
  · exact List.nil_suffix
  · rename_i d after ends'
    exact Forward.of_suffix value (suffix_of_skipSpaces behind ends')
termination_by 2 * s.length
decreasing_by omega

end

theorem dropRoot_suffix (s : List Char) : dropRoot s <:+ s := by
  unfold dropRoot
  split
  · exact List.suffix_cons _ _
  · exact List.suffix_cons _ _
  · exact List.suffix_rfl

theorem readPath_forward (text : List Char) : FaultForward text (readPath text) := by
  intro fault h
  have front := (dropRoot_suffix (skipSpaces text)).trans (skipSpaces_suffix text)
  have steps := (readSteps_forward false .start false (dropRoot (skipSpaces text))).mono front
  rw [readPath_eq] at h
  split at h
  · cases h
  cases read : reached (readSteps false .start false (dropRoot (skipSpaces text))) with
  | error other =>
    rw [read] at h steps
    cases h
    exact steps
  | ok r =>
    rw [read] at h steps
    dsimp only [Except.bind] at h
    split at h
    · cases h
    · rename_i c rest ends
      cases h
      exact suffix_of_skipSpaces steps ends

end Reader
end PathQuery
