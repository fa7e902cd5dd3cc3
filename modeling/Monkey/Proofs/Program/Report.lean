/-
The report of the errors, line by line (`ofSource_report_lines`). It is the
lines of its errors, one error after another (`Diagnosis.linesOf_text`). All
that a message says of the program stays on one line: labels, numbers and
faults do, and what was read is quoted, which leaves nothing unprintable in it
(`any_isUnprintable_quoted`). What is not quoted is the text of a failure
(`ParseError.oneLine_iff`). So the report has a line for each error, unless
the source failed with a message that has a line feed in it; then it has more
lines than errors (`report_of_failure_of_two_lines`).
-/
import Mathlib.Algebra.Order.BigOperators.Group.List
import Monkey.Proofs.Numeral
import Monkey.Proofs.Program.Breaking
import Monkey.Proofs.Token.Failing

namespace Monkey

namespace Text

-- ========================================================== quoted text

/-- The digits of a code point are printable. -/
theorem any_isUnprintable_toDigits (n : Nat) :
    (Nat.toDigits 16 n).any isUnprintable = false := by
  have hascii : ∀ m < 16,
      0x20 ≤ m.digitChar.toNat ∧ m.digitChar.toNat < 0x7F := by decide
  have hdigit (m : Nat) (h : m < 16) : isUnprintable m.digitChar = false :=
    isUnprintable_of_ascii (hascii m h).1 (hascii m h).2
  induction n using Nat.strong_induction_on with
  | _ n ih =>
      rw [Nat.toDigits_eq_if (by decide)]
      split
      · next h => simp [hdigit n h]
      · have hlt : n / 16 < n := by omega
        have hlast : n % 16 < 16 := by omega
        simp [ih _ hlt, hdigit _ hlast]

/-- Nothing unprintable is left of a character that is escaped. -/
theorem any_isUnprintable_escape (c : Char) :
    (escape c).any isUnprintable = false := by
  have hbefore : ['\\', 'u', '\x7b'].any isUnprintable = false := by decide
  have hbehind : ['\x7d'].any isUnprintable = false := by decide
  unfold escape
  split_ifs with _ _ _ _ _ _ h
  -- the escapes of two characters; a code point and the character itself
  -- are left
  any_goals decide
  · rw [List.any_append, List.any_append, hbefore, any_isUnprintable_toDigits,
      hbehind]
    rfl
  · simp [h]

/-- So nothing unprintable is left in quoted text. -/
theorem any_isUnprintable_quoted (s : String) :
    (quoted s).toList.any isUnprintable = false := by
  have hquote : ['\x22'].any isUnprintable = false := by decide
  rw [quoted, String.toList_ofList, List.any_append, List.any_append, hquote,
    List.any_flatMap]
  simp [any_isUnprintable_escape]

end Text

open Text

-- ================================================================ lines

/-- The lines of a text. -/
def linesOf (s : String) : List (List Char) := s.toList.splitOn '\n'

/-- There is one more of them than line feeds. -/
theorem length_linesOf (s : String) :
    (linesOf s).length = s.toList.count '\n' + 1 := by
  unfold linesOf
  induction s.toList with
  | nil => rfl
  | cons c cs ih =>
      rw [List.splitOn_cons_eq_if_modifyHead, List.count_cons]
      split
      · rw [List.length_cons, ih]
      · rw [List.length_modifyHead, ih, Nat.add_zero]

/-- A text that has no line feed in it. -/
def OneLine (s : String) : Prop := '\n' ∉ s.toList

instance (s : String) : Decidable (OneLine s) :=
  inferInstanceAs (Decidable ('\n' ∉ s.toList))

namespace OneLine

/-- Texts stay on one line together if each does. -/
@[simp] theorem append_iff {s t : String} :
    OneLine (s ++ t) ↔ OneLine s ∧ OneLine t := by
  simp [OneLine, not_or]

/-- Lines put together make one line. -/
theorem append {s t : String} (hs : OneLine s) (ht : OneLine t) :
    OneLine (s ++ t) := append_iff.2 ⟨hs, ht⟩

/-- The digits that a number is written with stay on one line. -/
theorem toString_nat (n : Nat) : OneLine (toString n) := by
  rw [OneLine, Nat.toString_eq_ofList_toDigits, String.toList_ofList]
  intro h
  exact absurd (Numeral.isDigit_of_mem_toDigits h) (by decide)

/-- Quoted text stays on one line, whatever it is: a line feed is
unprintable. -/
theorem quoted (s : String) : OneLine (quoted s) := by
  intro h
  exact List.any_eq_false.1 (any_isUnprintable_quoted s) _ h (by decide)

/-- Kinds have names of one line. -/
theorem label (k : TokenKind) : OneLine k.label := by
  cases k <;> decide

/-- So have the faults of a numeral. -/
theorem fault (f : NumeralFault) : OneLine f.text := by
  cases f <;> decide

/-- The place and the text of a token stay on its line. -/
theorem token (t : Token) : OneLine t.text := by
  have hspan : OneLine t.span.text :=
    ((toString_nat _).append (by decide)).append (toString_nat _)
  have hplace : OneLine " at " := by decide
  have hblank : OneLine " " := by decide
  exact ((((label t.kind).append hblank).append (quoted _)).append
    hplace).append hspan

end OneLine

-- =============================================================== errors

/-- Whatever a cause says of the program stays on one line. -/
theorem Cause.oneLine_text {c : Cause} (h : c.isReadFailure = false) :
    OneLine c.text := by
  unfold text
  cases c with
  | unexpectedToken expected found =>
      have hexpected : OneLine "expected token type " := by simp [OneLine]
      have hfound : OneLine " but got " := by simp [OneLine]
      exact ((hexpected.append (.label _)).append hfound).append (.label _)
  | noOperand kind =>
      have hrule : OneLine "no prefix parse rule for token " := by
        simp [OneLine]
      exact hrule.append (.label _)
  | notAnOperator kind =>
      have htoken : OneLine "token " := by simp [OneLine]
      have hnone : OneLine " is not an infix operator" := by simp [OneLine]
      exact (htoken.append (.label _)).append hnone
  | invalidInteger literal fault =>
      have hinteger : OneLine "invalid integer literal " := by simp [OneLine]
      have hcolon : OneLine ": " := by decide
      exact ((hinteger.append (.quoted _)).append hcolon).append (.fault _)
  | readFailed => cases h

/-- A failure of the source is told in its own words. -/
theorem Cause.oneLine_readFailed (kind : FailureKind) (words : String) :
    OneLine (Cause.readFailed kind words).text ↔ OneLine words := by
  have hintro : OneLine "failed to read source: " := by simp [OneLine]
  unfold text
  rw [OneLine.append_iff, and_iff_right hintro]

/-- A message stays on one line, unless it is that of a failure whose own text
does not. -/
theorem ParseError.oneLine_iff (e : ParseError) :
    OneLine e.text
      ↔ ∀ kind words, e.cause = .readFailed kind words → OneLine words := by
  obtain ⟨cause, t⟩ := e
  have hinvalid : OneLine "invalid program at " := by simp [OneLine]
  have hplace : OneLine ("invalid program at " ++ t.text ++ ": ") :=
    (hinvalid.append (.token t)).append (by decide)
  unfold text
  rw [OneLine.append_iff, and_iff_right hplace]
  cases hfailure : cause.isReadFailure with
  | true =>
      cases cause with
      | readFailed kind words => simp [Cause.oneLine_readFailed]
      | _ => cases hfailure
  | false =>
      refine iff_of_true (Cause.oneLine_text hfailure) ?_
      rintro kind words rfl
      cases hfailure

namespace Diagnosis

variable {errors : Diagnosis}

/-- The lines of a report are those of its errors, one error after another. -/
theorem linesOf_text (h : errors ≠ []) :
    linesOf errors.text = errors.flatMap fun e => linesOf e.text := by
  induction errors with
  | nil => exact absurd rfl h
  | cons e errors ih =>
      cases errors with
      | nil => simp [text, linesOf]
      | cons e' errors =>
          have hsplit : (text (e :: e' :: errors)).toList
              = e.text.toList ++ '\n' :: (text (e' :: errors)).toList := by
            simp [text, String.intercalate_cons_cons]
          rw [List.flatMap_cons, ← ih (List.cons_ne_nil _ _), linesOf, hsplit,
            List.splitOn_append_cons_self]
          rfl

/-- So a report has a line for each error if each message stays on one, and
not otherwise. -/
theorem linesOf_text_eq_map_iff :
    linesOf errors.text = errors.map (·.text.toList)
      ↔ errors ≠ [] ∧ ∀ e ∈ errors, OneLine e.text := by
  constructor
  · intro h
    have hne : errors ≠ [] := by
      rintro rfl
      cases h
    refine ⟨hne, ?_⟩
    -- the errors have as many lines together as there are errors
    have hlength := congrArg List.length h
    rw [linesOf_text hne, List.length_flatMap, List.length_map] at hlength
    simp only [length_linesOf, List.sum_map_add, List.map_const',
      List.sum_replicate, nsmul_one, Nat.cast_id] at hlength
    have hnone := List.sum_eq_zero_iff.1 (Nat.add_eq_right.1 hlength)
    intro e he
    exact List.count_eq_zero.1 (hnone _ (List.mem_map_of_mem he))
  · rintro ⟨hne, hall⟩
    calc linesOf errors.text
        = errors.flatMap fun e => linesOf e.text := linesOf_text hne
      _ = errors.flatMap fun e => [e.text.toList] :=
          List.flatMap_congr fun e he => List.splitOn_eq_singleton (hall e he)
      _ = errors.map (·.text.toList) := List.map_eq_flatMap.symm

end Diagnosis

-- ============================================================== sources

/-- At most one failure of a source is reported, and that is an event of its
script. -/
theorem reported_failure (source : ByteSource) :
    let reported :=
      (Program.ofSource source).errors.filter ParseError.isReadFailure
    reported = [] ∨ ∃ f t, .failed f ∈ source.script
      ∧ reported = [⟨.readFailed f.kind f.text, t⟩] := by
  obtain ⟨ts, last, hhands⟩ :=
    TokenSupply.exists_hands (Scanner.ofSource source)
  obtain ⟨-, hfailures, -⟩ := Program.read_of_hands hhands
  rw [Program.ofSource, hfailures]
  cases last with
  | ok z => exact Or.inl rfl
  | error e => exact Or.inr ⟨e.failure, _, hhands.failed_mem_script, rfl⟩

/-- So every failure that is reported is such an event. -/
theorem failed_of_reported {source : ByteSource} {e : ParseError}
    (he : e ∈ (Program.ofSource source).errors) {kind : FailureKind}
    {words : String} (hcause : e.cause = .readFailed kind words) :
    ∃ f, .failed f ∈ source.script ∧ f.text = words := by
  have hfailure : e.isReadFailure = true := by
    rw [ParseError.isReadFailure, hcause]
    rfl
  have hmem := List.mem_filter.2 ⟨he, hfailure⟩
  rcases reported_failure source with hnone | ⟨f, t, hf, hone⟩
  · rw [hnone] at hmem
    cases hmem
  · rw [hone] at hmem
    rw [List.mem_singleton.1 hmem] at hcause
    cases hcause
    exact ⟨f, hf, rfl⟩

/-- The report of a source has a line for each of its errors, which is the
message of that error, if and only if no failure is reported that has a line
feed in its text. In any case it is the lines of its errors, one error after
another. No more than one failure is reported, and that is an event of the
script. So if no failure in the script has a line feed in its text, there are
as many lines as errors. -/
theorem ofSource_report_lines (source : ByteSource) :
    let errors := (Program.ofSource source).errors
    let reported := errors.filter ParseError.isReadFailure
    (linesOf errors.text = errors.map (·.text.toList)
        ↔ errors ≠ [] ∧ ∀ e ∈ errors, ∀ kind words,
          e.cause = .readFailed kind words → OneLine words)
      ∧ (errors ≠ [] →
        linesOf errors.text = errors.flatMap fun e => linesOf e.text)
      ∧ (reported = [] ∨ ∃ f t, .failed f ∈ source.script
        ∧ reported = [⟨.readFailed f.kind f.text, t⟩])
      ∧ ((∀ f, .failed f ∈ source.script → OneLine f.text) →
        errors ≠ [] → linesOf errors.text = errors.map (·.text.toList)) := by
  intro errors reported
  have hiff : linesOf errors.text = errors.map (·.text.toList)
      ↔ errors ≠ [] ∧ ∀ e ∈ errors, ∀ kind words,
        e.cause = .readFailed kind words → OneLine words := by
    simp only [Diagnosis.linesOf_text_eq_map_iff, ParseError.oneLine_iff]
  refine ⟨hiff, Diagnosis.linesOf_text, reported_failure source, ?_⟩
  intro hscript hne
  refine hiff.2 ⟨hne, fun e he kind words hcause => ?_⟩
  obtain ⟨f, hf, rfl⟩ := failed_of_reported he hcause
  exact hscript f hf

/-- A source that fails with a message of two lines. It has one error, of which
the report has two lines. -/
theorem report_of_failure_of_two_lines :
    let source : ByteSource :=
      .ofEvents [.failed ⟨.other, some "disk\ngone"⟩]
    let errors := (Program.ofSource source).errors
    errors.length = 1 ∧ (linesOf errors.text).length = 2
      ∧ linesOf errors.text ≠ errors.map (·.text.toList) := by
  decide +kernel

end Monkey
