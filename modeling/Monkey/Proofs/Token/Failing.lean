/-
Where a failure comes from. A source is seen by looks alone, and a look that
fails shows a failure that the source had for it. All that is behind a look
was there before it, so no reader, lookahead or scanner has another failure to
report than those of the script (`Scanner.failed_of_scan`,
`Hands.failed_mem_script`).
-/
import Monkey.Proofs.Token.Hands
import Monkey.Proofs.Token.Passing

namespace Monkey

open Lookahead (Call)

/-- A failure among the signals of a script is an event of it. -/
theorem Event.failed_mem_of_signals {f : ReadFailure} {script : List Event}
    (h : .failed f ∈ signals script) : .failed f ∈ script := by
  fun_induction signals script with
  | case1 => cases h
  | case2 bytes rest ih =>
      rcases List.mem_append.1 h with h | h
      · obtain ⟨b, -, hb⟩ := List.mem_map.1 h
        cases hb
      · exact List.mem_cons_of_mem _ (ih h)
  | case3 rest ih =>
      rcases List.mem_cons.1 h with h | h
      · cases h
      · exact List.mem_cons_of_mem _ (ih h)
  | case4 g rest hg ih => exact List.mem_cons_of_mem _ (ih h)
  | case5 g rest hg ih =>
      rcases List.mem_cons.1 h with h | h
      · cases h
        exact List.mem_cons_self
      · exact List.mem_cons_of_mem _ (ih h)

-- ============================================================== reading

namespace ByteSource

variable {s rest : ByteSource} {f : ReadFailure}

/-- A look that fails shows a failure of the source. -/
theorem failed_of_look (h : s.look = .failed f rest) :
    .failed f ∈ s.signals := by
  have hshows := s.look_shows
  rw [h] at hshows
  generalize s.signals = signals at hshows ⊢
  cases hshows with
  | failed => exact List.mem_cons_self

/-- So does a sequence that fails. -/
theorem failed_of_follow {bytes : List UInt8} {missing : Nat}
    (h : s.follow bytes missing = (.error (.failed f), rest)) :
    .failed f ∈ s.signals := by
  fun_induction follow s bytes missing with
  | case1 => cases h
  | case2 s bytes missing b behind hlook hb ih =>
      have hbehind := s.signals_rest_suffix
      rw [hlook] at hbehind
      exact hbehind.mem (ih h)
  | case3 => cases h
  | case4 => cases h
  | case5 s bytes missing f' behind hlook =>
      cases h
      exact failed_of_look hlook

/-- And a character that cannot be read. -/
theorem failed_of_nextChar (h : s.nextChar = (.error (.failed f), rest)) :
    .failed f ∈ s.signals := by
  unfold nextChar at h
  split at h
  · cases h
  · next hlook =>
    cases h
    exact failed_of_look hlook
  · next lead behind hlook =>
    have hbehind := s.signals_rest_suffix
    rw [hlook] at hbehind
    split at h
    · cases h
    · exact hbehind.mem (failed_of_follow h)

end ByteSource

/-- A call on a lookahead fails only if its source does. -/
theorem Lookahead.failed_of_call {a a' : Lookahead} {call : Call}
    {f : ReadFailure} (h : a.call call = (.error (.failed f), a')) :
    .failed f ∈ a.source.signals := by
  obtain ⟨source, held⟩ := a
  cases held with
  | some c =>
      rw [call_of_held] at h
      cases h
  | none =>
      cases hread : source.nextChar with
      | mk r rest =>
      cases r with
      | ok c =>
          have hcall := (call_of_ok hread call).symm.trans h
          cases hcall
      | error e =>
          have hcall := (call_of_error hread call).symm.trans h
          cases hcall
          exact ByteSource.failed_of_nextChar hread

-- ============================================================= scanners

namespace Scanner

variable {s s' : Scanner} {f : ReadFailure}

/-- What a scanner still has before it was there before. -/
theorem Goes.signals_suffix {calls : List Call} {cs : List Char}
    (h : Goes s calls cs s') :
    s'.source.source.signals <:+ s.source.source.signals :=
  h.source ▸ s.source.signals_after_suffix calls

/-- A look of a scanner fails only if its source does. -/
theorem failed_of_peek (h : s.peek = (.error (.failed f), s')) :
    .failed f ∈ s.source.source.signals :=
  Lookahead.failed_of_call (call_of_peek h)

/-- So does a take. -/
theorem failed_of_take (h : s.take = (.error (.failed f), s')) :
    .failed f ∈ s.source.source.signals := by
  have hcall : s.source.call .take = (.error (.failed f), s.source.take.2) :=
    Prod.ext (goes_take h).2 rfl
  exact Lookahead.failed_of_call hcall

/-- A run of characters is a number of looks, and fails with one of them. -/
theorem failed_of_takeRun {p : Char → Bool}
    (h : s.takeRun p = (.error f, s')) :
    .failed f ∈ s.source.source.signals := by
  fun_induction takeRun p s with
  | case1 => cases h
  | case2 s c s₁ hpeek hp f' s₂ hrun ih =>
      cases h
      exact (goes_pass hpeek).signals_suffix.mem (ih hrun)
  | case3 => cases h
  | case4 => cases h
  | case5 s f' s₁ hpeek =>
      cases h
      exact failed_of_peek hpeek

/-- So does a token that an equals sign may join. -/
theorem failed_of_joinable {c : Char} {alone joined : TokenKind}
    (h : s.joinable c alone joined = (.error f, s')) :
    .failed f ∈ s.source.source.signals := by
  unfold joinable passIf at h
  split at h
  · cases h
  · cases h
  · next hpass =>
    cases h
    split at hpass
    · split at hpass <;> cases hpass
    · cases hpass
    · next hpeek =>
      cases hpass
      exact failed_of_peek hpeek

/-- Or one that a run goes on with. -/
theorem failed_of_runOf {p : Char → Bool} {kindOf : List Char → TokenKind}
    {c : Char} (h : s.runOf p kindOf c = (.error f, s')) :
    .failed f ∈ s.source.source.signals := by
  unfold runOf at h
  split at h
  · cases h
  · next hrun =>
    cases h
    exact failed_of_takeRun hrun

/-- And there are no other tokens that fail behind their first character. -/
theorem failed_of_lexeme {c : Char} :
    s.lexeme c = (.error f, s') → .failed f ∈ s.source.source.signals := by
  refine lexeme_cases (motive := fun r => r = (.error f, s') → _) s c ?_ ?_ ?_
    ?_ ?_
  · intro kind h
    cases h
  · exact failed_of_joinable
  · exact failed_of_joinable
  · exact failed_of_runOf
  · exact failed_of_runOf

/-- A call for a token fails only if the source does. -/
theorem failed_of_scan {e : ScanError} (h : s.scan = (.error e, s')) :
    .failed e.failure ∈ s.source.source.signals := by
  unfold scan at h
  split at h
  · next hblanks =>
    cases h
    exact failed_of_takeRun hblanks
  · next blanks s₁ hblanks =>
    obtain ⟨looks, cs, hgoes, -⟩ := goes_takeRun isBlank s
    rw [hblanks] at hgoes
    split at h
    · cases h
    · next htake =>
      cases h
      exact hgoes.signals_suffix.mem (failed_of_take htake)
    · next htake =>
      have hbehind := hgoes.trans (goes_take htake).1
      split at h
      · cases h
      · next hlexeme =>
        cases h
        exact hbehind.signals_suffix.mem (failed_of_lexeme hlexeme)

end Scanner

/-- A failure that ends what a scanner hands out is one of its source. -/
theorem Hands.failed_mem_signals {s : Scanner} {ts : List Token}
    {e : ScanError} (h : Hands s ts (.error e)) :
    .failed e.failure ∈ s.source.source.signals := by
  generalize hlast : Except.error e = last at h
  induction h with
  | ended => cases hlast
  | failed h =>
      cases hlast
      exact Scanner.failed_of_scan h
  | @token s s' t ts last h _ _ ih =>
      obtain ⟨calls, blanks, word, hlap⟩ := Scanner.exists_lap s
      have hgoes := hlap.goes
      rw [show s.scan = _ from h] at hgoes
      exact hgoes.signals_suffix.mem (ih hlast)

/-- And one of the script, if the source followed one. -/
theorem Hands.failed_mem_script {source : ByteSource} {ts : List Token}
    {e : ScanError} (h : Hands (Scanner.ofSource source) ts (.error e)) :
    .failed e.failure ∈ source.script :=
  Event.failed_mem_of_signals h.failed_mem_signals

end Monkey
