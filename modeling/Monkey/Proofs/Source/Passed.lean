/-
What the calls on a lookahead take for good (`Lookahead.passed`): the
characters that the takes among them give. A look that shows a character is
answered for the take behind it (`Lookahead.take_of_peek`). One that finds
the end is not: it uses the end up (`Lookahead.end_of_call`), and a source
may go on behind it. One that has no end before more input does not
(`Lookahead.take_of_peek_end`). Calls leave nothing to be read that was not
there before (`Lookahead.signals_after_suffix`).
-/
import Monkey.Proofs.Source.Peeking
import Monkey.Proofs.Source.Signals

namespace Monkey

-- ==================================================== signals behind a call

/-- A script comes to an end before its last event if it says so. -/
theorem Event.ended_mem_signals (script : List Event) :
    .ended ∈ signals script ↔ .ended ∈ script := by
  induction script with
  | nil => simp [signals]
  | cons e rest ih =>
      cases e with
      | data bytes => simpa [signals] using ih
      | ended => simp [signals]
      | failed f =>
          by_cases hf : f.kind = .interrupted
          · simpa [signals, hf] using ih
          · simpa [signals, hf] using ih

namespace ByteSource

/-- The source as a look leaves it. -/
def Look.rest : Look → ByteSource
  | .byte _ rest => rest
  | .ended rest => rest
  | .failed _ rest => rest

/-- Behind a look there are only signals that were there before. -/
theorem signals_rest_suffix (s : ByteSource) :
    s.look.rest.signals <:+ s.signals := by
  have h := s.look_shows
  generalize s.look = l at h ⊢
  generalize s.signals = signals at h ⊢
  cases h with
  | exhausted => exact List.suffix_rfl
  | byte hrest => exact hrest ▸ List.suffix_cons _ _
  | ended hrest => exact hrest ▸ List.suffix_cons _ _
  | failed hrest => exact hrest ▸ List.suffix_cons _ _

/-- So it is behind the rest of a sequence. -/
theorem signals_follow_suffix (s : ByteSource) (bytes : List UInt8)
    (missing : Nat) : (s.follow bytes missing).2.signals <:+ s.signals := by
  fun_induction follow s bytes missing with
  | case1 => exact List.suffix_rfl
  | case2 s bytes missing b rest h hb ih =>
      have hrest := s.signals_rest_suffix
      rw [h] at hrest
      exact ih.trans hrest
  | case3 => exact List.suffix_rfl
  | case4 s bytes missing rest h =>
      have hrest := s.signals_rest_suffix
      rwa [h] at hrest
  | case5 s bytes missing f rest h =>
      have hrest := s.signals_rest_suffix
      rwa [h] at hrest

/-- And behind a character. -/
theorem signals_nextChar_suffix (s : ByteSource) :
    s.nextChar.2.signals <:+ s.signals := by
  have hrest := s.signals_rest_suffix
  unfold nextChar
  split
  · next rest h => rwa [h] at hrest
  · next f rest h => rwa [h] at hrest
  · next lead rest h =>
    rw [h] at hrest
    split
    · exact hrest
    · exact (signals_follow_suffix _ _ _).trans hrest

/-- A sequence that has begun is never the end of the input. -/
theorem follow_ne_end (s : ByteSource) (bytes : List UInt8) (missing : Nat) :
    (s.follow bytes missing).1 ≠ .error .endOfInput := by
  fun_induction follow s bytes missing with
  | case1 => simp
  | case2 s bytes missing b rest h hb ih => exact ih
  | case3 => simp
  | case4 => simp
  | case5 => simp

/-- A read that finds the end uses one up, or there was nothing left. -/
theorem signals_of_nextChar_end {s rest : ByteSource}
    (h : s.nextChar = (.error .endOfInput, rest)) :
    s.signals.headD .ended = .ended ∧ rest.signals = s.signals.tail := by
  have hshows := s.look_shows
  unfold nextChar at h
  split at h
  · next rest' hlook =>
    cases h
    rw [hlook] at hshows
    generalize s.signals = signals at hshows ⊢
    cases hshows with
    | exhausted => exact ⟨rfl, rfl⟩
    | ended hrest => exact ⟨rfl, hrest⟩
  · cases h
  · split at h
    · cases h
    · exact absurd (congrArg Prod.fst h) (follow_ne_end _ _ _)

/-- Where an end comes next, or nothing is left, a read finds the end. -/
theorem nextChar_of_end {s : ByteSource}
    (h : s.signals.headD .ended = .ended) :
    s.nextChar.1 = .error .endOfInput := by
  have hshows := s.look_shows
  unfold nextChar
  generalize s.signals = signals at hshows h
  generalize s.look = l at hshows ⊢
  cases hshows with
  | exhausted => rfl
  | byte => cases h
  | ended => rfl
  | failed => cases h

end ByteSource

-- ======================================================= what calls take

namespace Lookahead

/-- What a call takes for good, if this is its answer: the character that a
take gives. -/
def Call.takes : Call → Except ReadError Char → List Char
  | .take, .ok c => [c]
  | .take, .error _ => []
  | .peek, _ => []

/-- The characters that these calls take, one after another. -/
def passed (a : Lookahead) : List Call → List Char
  | [] => []
  | call :: calls => call.takes (a.call call).1 ++ (a.call call).2.passed calls

/-- What some calls take, and then what others do. -/
theorem passed_append (a : Lookahead) (calls later : List Call) :
    a.passed (calls ++ later)
      = a.passed calls ++ (a.after calls).passed later := by
  induction calls generalizing a with
  | nil => rfl
  | cons call calls ih =>
      rw [List.cons_append, passed, passed, ih, List.append_assoc]
      rfl

/-- A take behind a look that showed a character gives that one. -/
theorem take_of_peek {a a' : Lookahead} {c : Char}
    (h : a.call .peek = (.ok c, a')) :
    a'.call .take = (.ok c, a'.release) := by
  have hheld := held_of_peek h
  obtain ⟨source, held⟩ := a'
  cases hheld
  rfl

/-- Calls leave only signals that were there before. -/
theorem signals_after_suffix (a : Lookahead) (calls : List Call) :
    (a.after calls).source.signals <:+ a.source.signals := by
  induction calls generalizing a with
  | nil => exact List.suffix_rfl
  | cons call calls ih =>
      refine (ih (a.call call).2).trans ?_
      obtain ⟨source, held⟩ := a
      cases held with
      | some c => simp only [call_of_held, List.suffix_rfl]
      | none =>
          have hrest := source.signals_nextChar_suffix
          cases hread : source.nextChar with
          | mk r rest =>
          rw [hread] at hrest
          cases r with
          | ok c =>
              have hcall := call_of_ok hread call
              rw [ofSource] at hcall
              rw [hcall]
              exact hrest
          | error e =>
              have hcall := call_of_error hread call
              rw [ofSource] at hcall
              rw [hcall]
              exact hrest

/-- A call that finds the end uses one up, or there was nothing left, and
nothing is held then. -/
theorem end_of_call {a a' : Lookahead} {call : Call}
    (h : a.call call = (.error .endOfInput, a')) :
    a'.held = none ∧ a.source.signals.headD .ended = .ended
      ∧ a'.source.signals = a.source.signals.tail := by
  obtain ⟨source, held⟩ := a
  cases held with
  | some c =>
      rw [call_of_held] at h
      cases h
  | none =>
      cases hread : source.nextChar with
      | mk r rest =>
      cases r with
      | ok c => cases (call_of_ok hread call).symm.trans h
      | error e =>
          cases (call_of_error hread call).symm.trans h
          exact ⟨rfl, ByteSource.signals_of_nextChar_end hread⟩

/-- With nothing in its hand a lookahead finds the end where one comes next,
or nothing is left. -/
theorem call_of_end {a : Lookahead} (hheld : a.held = none)
    (h : a.source.signals.headD .ended = .ended) (call : Call) :
    (a.call call).1 = .error .endOfInput := by
  obtain ⟨source, held⟩ := a
  cases hheld
  have hread : source.nextChar = (.error .endOfInput, source.nextChar.2) :=
    Prod.ext (ByteSource.nextChar_of_end h) rfl
  exact congrArg Prod.fst (call_of_error hread call)

/-- A take behind a look that found the end finds it too, if the source does
not go on behind an end. -/
theorem take_of_peek_end {a : Lookahead} (h : .ended ∉ a.source.signals)
    (hpeek : (a.call .peek).1 = .error .endOfInput) :
    ((a.call .peek).2.call .take).1 = .error .endOfInput := by
  obtain ⟨hheld, hhead, hrest⟩ := end_of_call (Prod.ext hpeek rfl)
  have hnil : a.source.signals = [] := by
    cases hsignals : a.source.signals with
    | nil => rfl
    | cons x later =>
        rw [hsignals] at h hhead
        exact absurd (List.mem_cons.2 (Or.inl hhead.symm)) h
  refine call_of_end hheld ?_ .take
  rw [hrest, hnil]
  rfl

end Lookahead

end Monkey
