/-
Where everything stands that a scanner says, however its source behaves and
however often it is asked (`spans_of_scans`). A place is a count of what was
passed before it (`Position.tally`), and a run of calls is a sequence of
laps, so the count goes on from one lap to the next whatever they gave, be
it a token, a failure in the middle of one, or the end of the input.

One thing is not as one would have it. Between two looks a source that is at
its end may go on, and if it goes on with a blank then that is a token. It
may be a line feed, and that token stops in another line than it starts in
(`scan_blank_behind_end`). No other token has a blank in it.
-/
import Mathlib.Algebra.GroupWithZero.Nat
import Mathlib.Data.List.Induction
import Monkey.Proofs.Token.Lossless
import Monkey.Proofs.Token.Passing

namespace Monkey

open Lookahead (Call)

-- ============================================================ positions

namespace Position

/-- The place behind these characters of a text: their bytes, one more than
their line feeds, and one more than the characters behind the last line
feed. -/
def tally (cs : List Char) : Position where
  offset := (cs.map Char.utf8Size).sum
  line := 1 + cs.count '\n'
  column := 1 + (cs.reverse.takeWhile (· ≠ '\n')).length

/-- One more character is counted as it is passed. -/
theorem tally_concat (cs : List Char) (c : Char) :
    tally (cs ++ [c]) = (tally cs).after c := by
  unfold tally after
  rw [List.map_append, List.sum_append, List.count_append, List.reverse_append,
    ← Nat.add_assoc]
  by_cases hc : c = '\n'
  · subst hc
    rfl
  · have hcount : [c].count '\n' = 0 := by simp [hc]
    have hrun : ([c].reverse ++ cs.reverse).takeWhile (· ≠ '\n')
        = c :: cs.reverse.takeWhile (· ≠ '\n') := by simp [hc]
    rw [if_neg hc, hcount, hrun]
    rfl

/-- Passing characters one by one counts them. -/
theorem afterAll_origin (cs : List Char) : origin.afterAll cs = tally cs := by
  induction cs using List.reverseRecOn with
  | nil => rfl
  | append_singleton cs c ih =>
      rw [afterAll_append, ih, tally_concat]
      rfl

/-- Within a line only the column moves. -/
theorem afterAll_of_line (p : Position) {cs : List Char} (h : '\n' ∉ cs) :
    (p.afterAll cs).line = p.line
      ∧ (p.afterAll cs).column = p.column + cs.length := by
  induction cs generalizing p with
  | nil => exact ⟨rfl, rfl⟩
  | cons c cs ih =>
      rw [List.mem_cons, not_or] at h
      obtain ⟨hc, hcs⟩ := h
      obtain ⟨hline, hcolumn⟩ := ih (p.after c) hcs
      rw [afterAll_cons, hline, hcolumn, after, if_neg (Ne.symm hc)]
      exact ⟨rfl, by simp only [List.length_cons]; omega⟩

end Position

-- ================================================================ items

/-- What an item says of where it stands is true of the characters that were
passed: `before` it was asked for, and then some blanks, and then those of
the token or of what was read of it. -/
structure Item.Exact (item : Item) (before blanks word : List Char) :
    Prop where
  skipped : ∀ c ∈ blanks, isBlank c = true
  start : item.span.start = .tally (before ++ blanks)
  stop : item.span.stop = .tally (before ++ (blanks ++ word))
  line : '\n' ∉ word → item.span.stop.line = item.span.start.line
    ∧ item.span.stop.column = item.span.start.column + word.length
  literal : ∀ t, item = .ok t → t.literal = String.ofList word
    ∧ (t.kind = .endOfInput ↔ word = [])

namespace Scanner

variable {s : Scanner}

/-- The item of a lap is exact. -/
theorem Lap.exact {calls : List Call} {before blanks word : List Char}
    (h : Lap s calls blanks word)
    (hhere : s.here = Position.origin.afterAll before) :
    s.scan.1.Exact before blanks word := by
  refine ⟨h.skipped, ?_, ?_, ?_, h.literal⟩
  · rw [h.span, hhere, ← Position.afterAll_origin,
      Position.afterAll_append .origin before]
  · rw [h.span, hhere, ← Position.afterAll_origin,
      Position.afterAll_append .origin before]
  · intro hword
    rw [h.span, Position.afterAll_append]
    exact Position.afterAll_of_line _ hword

-- ================================================================= runs

/-- One more call for a token comes last. -/
theorem scans_succ (s : Scanner) (n : Nat) :
    s.scans (n + 1) = (s.scans n).scan.2 := by
  induction n generalizing s with
  | zero => rfl
  | succ n ih => exact ih s.scan.2

/-- The calls of the first `n` laps, one lap after another. -/
def callsOf (laps : Nat → List Call) : Nat → List Call
  | 0 => []
  | n + 1 => callsOf laps n ++ laps n

variable {laps : Nat → List Call} {blanks word : Nat → List Char}

/-- What was passed in so many laps is what the calls of these laps took. -/
theorem goes_scans (h : ∀ n, Lap (s.scans n) (laps n) (blanks n) (word n))
    (n : Nat) :
    Goes s (callsOf laps n) (s.source.passed (callsOf laps n))
      (s.scans n) := by
  induction n with
  | zero => exact .refl s
  | succ n ih =>
      have hnext := ih.trans (h n).goes
      rw [← s.scans_succ] at hnext
      exact ⟨hnext.source, rfl, by rw [hnext.here, ← hnext.passed]; rfl⟩

/-- One more lap passes its blanks and its word. -/
theorem passed_callsOf_succ
    (h : ∀ n, Lap (s.scans n) (laps n) (blanks n) (word n)) (n : Nat) :
    s.source.passed (callsOf laps (n + 1))
      = s.source.passed (callsOf laps n) ++ (blanks n ++ word n) :=
  ((goes_scans h n).trans (h n).goes).passed

/-- What was passed stays passed. -/
theorem passed_callsOf_prefix (s : Scanner) (laps : Nat → List Call)
    {m n : Nat} (hle : n ≤ m) :
    s.source.passed (callsOf laps n) <+: s.source.passed (callsOf laps m) := by
  induction m, hle using Nat.le_induction with
  | base => exact List.prefix_rfl
  | succ m _ ih =>
      refine ih.trans ?_
      rw [callsOf, Lookahead.passed_append]
      exact List.prefix_append _ _

/-- So an item starts where the one before it stops, or behind that. -/
theorem offset_stop_le_start
    (h : ∀ n, Lap (s.scans n) (laps n) (blanks n) (word n)) {m n : Nat}
    (hlt : n < m) :
    (s.scans n).scan.1.span.stop.offset
      ≤ (s.scans m).scan.1.span.start.offset := by
  have hhere := (h n).goes.here
  rw [← s.scans_succ] at hhere
  obtain ⟨more, hmore⟩ := passed_callsOf_prefix s laps hlt
  rw [(h n).span, (h m).span]
  show ((s.scans n).here.afterAll _).offset
    ≤ ((s.scans m).here.afterAll _).offset
  rw [← hhere, (goes_scans h (n + 1)).here, (goes_scans h m).here, ← hmore,
    Position.afterAll_append _ _ more]
  exact Nat.le_trans (offset_le_afterAll _ more) (offset_le_afterAll _ _)

end Scanner

open Scanner

/-- Whatever a source does, and however often a scanner is asked for a token,
all that it gives stands where it says. Each time some calls are made to
the lookahead, and what they take for good are blanks and then the
characters of the token, or of what was read of it when the source failed.
The span of a token or a failure covers the latter, counted from the
beginning of all that was taken, and the next one starts at its end or
behind it. A token is spelled by its characters, and no blank is among them
unless it is a single blank that was given behind an end of the input. -/
theorem spans_of_scans (script : List Event) :
    let s := Scanner.ofSource (.ofEvents script)
    ∃ (laps : Nat → List Call) (blanks word : Nat → List Char), ∀ n,
      (s.scans n).source = s.source.after (callsOf laps n)
        ∧ s.source.passed (callsOf laps (n + 1))
          = s.source.passed (callsOf laps n) ++ (blanks n ++ word n)
        ∧ (s.scans n).scan.1.Exact (s.source.passed (callsOf laps n))
            (blanks n) (word n)
        ∧ (∀ m, n < m → (s.scans n).scan.1.span.stop.offset
            ≤ (s.scans m).scan.1.span.start.offset)
        ∧ ((∀ c ∈ word n, isBlank c = false)
          ∨ ∃ looks b, laps n = looks ++ [.peek, .take] ∧ word n = [b]
            ∧ LateBlank (s.scans n) looks b)
        ∧ (.ended ∉ script → ∀ c ∈ word n, isBlank c = false) := by
  intro s
  choose laps blanks word hlap using fun n => exists_lap (s.scans n)
  refine ⟨laps, blanks, word, fun n => ?_⟩
  have hgoes := goes_scans hlap n
  refine ⟨hgoes.source, passed_callsOf_succ hlap n,
    (hlap n).exact hgoes.here, fun m => offset_stop_le_start hlap,
    (hlap n).spelled, ?_⟩
  intro hends
  refine (hlap n).isBlank_eq_false fun hmem => hends ?_
  rw [hgoes.source] at hmem
  have hsignals := (s.source.signals_after_suffix _).mem hmem
  exact (Event.ended_mem_signals script).1 hsignals

/-- A line feed that is given behind an end of the input is a token, which
stops in the line behind the one it starts in. -/
theorem scan_blank_behind_end :
    ∃ t, (Scanner.ofSource (.ofEvents [.ended, .data [0x0A]])).scan.1 = .ok t
      ∧ t.literal = "\n" ∧ isBlank '\n' = true
      ∧ t.span.start.line = 1 ∧ t.span.stop.line = 2 := by
  refine ⟨⟨.illegal, "\n", ⟨⟨0, 1, 1⟩, ⟨1, 2, 1⟩⟩⟩, ?_, rfl, rfl, rfl, rfl⟩
  rw [scan, takeRun_step]
  rfl

end Monkey
