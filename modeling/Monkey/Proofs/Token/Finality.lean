/-
Whether the end of the input is the last thing a scanner says. The scanner
does not keep that it met an end. Whoever asks it behind the end asks the
source again, and a source that was at its end may go on.

A call gives the end of the input if a look behind the blanks meets an end and
the take behind that meets another (`Scanner.calls_of_scan_end`). Then nothing
is held. While two ends come next, or nothing is left, a call uses them up and
gives the same end again (`Scanner.scan_of_ends`), and only then
(`Scanner.ends_of_scan`). So it is given for good if and only if ends are all
that is left (`Scanner.scans_of_ends`, `Scanner.ends_of_scans`).
-/
import Monkey.Proofs.Token.Failing
import Monkey.Proofs.Token.Places

namespace Monkey

open Lookahead (Call)

namespace Scanner

variable {s s' : Scanner} {z : Token}

/-- What the source of a scanner still has to show. -/
def signals (s : Scanner) : List Signal := s.source.source.signals

-- ======================================================= meeting the end

/-- A run that takes nothing has looked once, and met the end or a
character. -/
theorem peek_of_takeRun_nil {p : Char → Bool}
    (h : s.takeRun p = (.ok [], s')) :
    s.peek = (.error .endOfInput, s') ∨ ∃ c, s.peek = (.ok c, s') := by
  rw [takeRun_step] at h
  split at h
  · next c s₁ hpeek =>
    split at h
    · split at h <;> cases h
    · cases h
      exact Or.inr ⟨c, hpeek⟩
  · next s₁ hpeek =>
    cases h
    exact Or.inl hpeek
  · cases h

/-- What a take finds is what a call for it answers. -/
theorem call_of_take {r : Except ReadError Char} (h : s.take = (r, s')) :
    s.source.call .take = (r, s'.source) :=
  Prod.ext (goes_take h).2 (goes_take h).1.source.symm

/-- A call that gives the end of the input has met an end twice: a look met it
behind the blanks, and so did the take behind the look. -/
theorem calls_of_scan_end (h : s.scan = (.ok z, s'))
    (hz : z.kind = .endOfInput) :
    ∃ looks blanks s₁, s.takeRun isBlank = (.ok blanks, s₁)
      ∧ s₁.here = s.here.afterAll blanks
      ∧ (s.source.after looks).call .peek = (.error .endOfInput, s₁.source)
      ∧ s₁.source.call .take = (.error .endOfInput, s'.source)
      ∧ s'.here = s₁.here ∧ z = .endOfInput ⟨s₁.here, s₁.here⟩ := by
  obtain ⟨looks, cs, hgoes, -, hok⟩ := goes_takeRun isBlank s
  unfold scan at h
  split at h
  · cases h
  · next blanks s₁ hrun =>
    rw [hrun] at hgoes hok
    obtain ⟨rfl, hlook⟩ := hok blanks rfl
    have hsource : ((s.source.after looks).call .peek).2 = s₁.source := by
      rw [hgoes.source, Lookahead.after_append]
      rfl
    split at h
    · next htake =>
      cases h
      have hcall := call_of_take htake
      have hhere : s'.here = s₁.here := (goes_take htake).1.here
      rcases hlook with hend | ⟨c, hc, -⟩
      · exact ⟨looks, blanks, s₁, hrun, hgoes.here, Prod.ext hend hsource,
          hcall, hhere, by rw [hhere]⟩
      · -- a character that the look showed would have been taken
        have hshown := Lookahead.take_of_peek (Prod.ext hc hsource)
        cases hcall.symm.trans hshown
    · cases h
    · split at h
      · next hlexeme =>
        cases h
        exact absurd hz (kind_lexeme hlexeme)
      · cases h

/-- Behind the end of the input nothing is held, and the token stands where
the scanner does. The source had two ends for it, one right behind the other,
or it has nothing left. -/
theorem scan_end (h : s.scan = (.ok z, s')) (hz : z.kind = .endOfInput) :
    z = .endOfInput ⟨s'.here, s'.here⟩ ∧ s'.source.held = none
      ∧ (s'.signals = [] ∨ .ended :: .ended :: s'.signals <:+ s.signals) := by
  obtain ⟨looks, blanks, s₁, -, -, hlook, htake, hhere, rfl⟩ :=
    calls_of_scan_end h hz
  obtain ⟨-, hfirst, hrest⟩ := Lookahead.end_of_call hlook
  obtain ⟨hheld, hsecond, hlater⟩ := Lookahead.end_of_call htake
  rw [hrest] at hsecond hlater
  refine ⟨by rw [hhere], hheld, ?_⟩
  have hsuffix := s.source.signals_after_suffix looks
  unfold signals
  rw [hlater]
  generalize (s.source.after looks).source.signals = left at *
  match left with
  | [] | [_] | [_, _] => exact Or.inl rfl
  | x :: y :: _ :: _ =>
      cases hfirst
      cases hsecond
      exact Or.inr hsuffix

-- ==================================================== behind the end

/-- Where two ends come next, or nothing is left, and nothing is held, a
scanner gives the end of the input where it stands. It uses the ends up, and
nothing else changes. -/
theorem scan_of_ends (hheld : s.source.held = none)
    (hfirst : s.signals.headD .ended = .ended)
    (hsecond : s.signals.tail.headD .ended = .ended) :
    ∃ s', s.scan = (.ok (.endOfInput ⟨s.here, s.here⟩), s')
      ∧ s'.source.held = none ∧ s'.here = s.here
      ∧ s'.signals = s.signals.tail.tail := by
  have hlook := Lookahead.call_of_end hheld hfirst .peek
  cases hpeek : s.peek with
  | mk r s₁ =>
  have hcall := call_of_peek hpeek
  rw [hcall] at hlook
  cases hlook
  obtain ⟨hheld₁, -, hrest⟩ := Lookahead.end_of_call hcall
  have hhere₁ : s₁.here = s.here := by
    have := s.goes_peek.here
    rwa [hpeek] at this
  have hvain : (s₁.source.call .take).1 = .error .endOfInput :=
    Lookahead.call_of_end hheld₁ (hrest ▸ hsecond) .take
  cases htake : s₁.take with
  | mk r s₂ =>
  have hcall₂ := call_of_take htake
  rw [hcall₂] at hvain
  cases hvain
  obtain ⟨hheld₂, -, hlater⟩ := Lookahead.end_of_call hcall₂
  have hhere₂ : s₂.here = s.here := (goes_take htake).1.here.trans hhere₁
  refine ⟨s₂, ?_, hheld₂, hhere₂, ?_⟩
  · rw [scan, takeRun_step, hpeek]
    simp only [htake, hhere₁, hhere₂]
  · rw [signals, hlater, hrest]
    rfl

/-- Only there does it give the end of the input where it stands. -/
theorem ends_of_scan
    (h : s.scan.1 = .ok (.endOfInput ⟨s.here, s.here⟩)) :
    s.signals.headD .ended = .ended
      ∧ s.signals.tail.headD .ended = .ended := by
  obtain ⟨looks, blanks, s₁, hrun, hblanks, hlook, htake, -, hz⟩ :=
    calls_of_scan_end (Prod.ext h rfl) rfl
  -- had it skipped blanks, it would stand behind them
  have hnil : blanks = [] := by
    have hhere : s.here = s₁.here :=
      congrArg (fun t : Token => t.span.start) hz
    have hoffset := congrArg Position.offset (hhere.trans hblanks)
    rw [offset_afterAll] at hoffset
    have hsize : (String.ofList blanks).utf8ByteSize = 0 := by omega
    simpa using hsize
  subst hnil
  rcases peek_of_takeRun_nil hrun with hpeek | ⟨c, hpeek⟩
  · obtain ⟨-, hfirst, hrest⟩ := Lookahead.end_of_call (call_of_peek hpeek)
    obtain ⟨-, hsecond, -⟩ := Lookahead.end_of_call htake
    rw [hrest] at hsecond
    exact ⟨hfirst, hsecond⟩
  · have hheld := Lookahead.held_of_peek (call_of_peek hpeek)
    rw [(Lookahead.end_of_call hlook).1] at hheld
    cases hheld

-- ================================================================= runs

/-- Calls behind calls. -/
theorem scans_add (s : Scanner) (m n : Nat) :
    s.scans (m + n) = (s.scans m).scans n := by
  induction n with
  | zero => rfl
  | succ n ih => rw [← Nat.add_assoc, scans_succ, ih, scans_succ]

/-- Behind calls there is only left what there was before. -/
theorem signals_scans_suffix (s : Scanner) (n : Nat) :
    (s.scans n).signals <:+ s.signals := by
  induction n generalizing s with
  | zero => exact List.suffix_rfl
  | succ n ih =>
      obtain ⟨calls, blanks, word, hlap⟩ := exists_lap s
      exact (ih s.scan.2).trans hlap.goes.signals_suffix

/-- With nothing but ends left, every call gives the end of the input where
the scanner stands. -/
theorem scans_of_ends {s : Scanner} (hheld : s.source.held = none)
    (hends : ∀ x ∈ s.signals, x = .ended) (n : Nat) :
    (s.scans n).scan.1 = .ok (.endOfInput ⟨s.here, s.here⟩) := by
  have hnext {left : List Signal} (h : ∀ x ∈ left, x = .ended) :
      left.headD .ended = .ended := by
    cases left with
    | nil => rfl
    | cons x left => exact h x List.mem_cons_self
  have htail : ∀ x ∈ s.signals.tail, x = .ended :=
    fun x hx => hends x (List.mem_of_mem_tail hx)
  obtain ⟨s', hscan, hheld', hhere, hrest⟩ :=
    scan_of_ends hheld (hnext hends) (hnext htail)
  cases n with
  | zero => exact congrArg Prod.fst hscan
  | succ n =>
      rw [scans, hscan, ← hhere]
      refine scans_of_ends hheld' ?_ n
      rw [hrest]
      exact fun x hx => htail x (List.mem_of_mem_tail hx)

/-- Only then. Each call that gives it has used up what came next, and those
were ends. -/
theorem ends_of_scans {s : Scanner} (hheld : s.source.held = none)
    (h : ∀ n, (s.scans n).scan.1 = .ok (.endOfInput ⟨s.here, s.here⟩)) :
    ∀ x ∈ s.signals, x = .ended := by
  have hnow : s.scan.1 = .ok (.endOfInput ⟨s.here, s.here⟩) := h 0
  obtain ⟨hfirst, hsecond⟩ := ends_of_scan hnow
  obtain ⟨s', hscan, hheld', hhere, hrest⟩ :=
    scan_of_ends hheld hfirst hsecond
  have hlater (n : Nat) :
      (s'.scans n).scan.1 = .ok (.endOfInput ⟨s'.here, s'.here⟩) := by
    have := h (n + 1)
    rwa [scans, hscan, ← hhere] at this
  match hleft : s.signals with
  | [] => simp
  | [x] =>
      rw [hleft] at hfirst
      exact List.forall_mem_singleton.2 hfirst
  | x :: y :: left =>
      rw [hleft] at hfirst hsecond hrest
      have hends := ends_of_scans hheld' hlater
      rw [hrest] at hends
      exact List.forall_mem_cons.2
        ⟨hfirst, List.forall_mem_cons.2 ⟨hsecond, hends⟩⟩
termination_by s.signals.length
decreasing_by
  rw [hrest, hleft]
  simp only [List.tail_cons, List.length_cons]
  omega

end Scanner

open Scanner

/-- Where nothing but ends comes behind two ends in a row, nothing but ends
comes behind these two. -/
theorem Signal.eq_ended_of_suffix {left all : List Signal}
    (h : .ended :: .ended :: left <:+ all)
    (hall : ∀ x, [.ended, .ended, x] <:+: all → x = .ended) :
    ∀ x ∈ left, x = .ended := by
  induction left with
  | nil => simp
  | cons y left ih =>
      have hfirst : [.ended, .ended, y] <+: .ended :: .ended :: y :: left :=
        ⟨left, rfl⟩
      obtain rfl := hall y (hfirst.isInfix.trans h.isInfix)
      exact List.forall_mem_cons.2 ⟨rfl, ih ((List.suffix_cons _ _).trans h)⟩

/-- A call that gives the end of the input gives it where the scanner stands.
All later calls give the same token, and neither another one nor a failure,
if and only if the source has nothing but ends left. So they do in any case if
the source never goes on behind two ends in a row; and a text, which says no
end before its own, never does. -/
theorem scans_repeat_end_iff (script : List Event) (n : Nat) {z : Token}
    (h : ((Scanner.ofSource (.ofEvents script)).scans n).scan.1 = .ok z)
    (hz : z.kind = .endOfInput) :
    let s := Scanner.ofSource (.ofEvents script)
    let behind := s.scans (n + 1)
    z = .endOfInput ⟨behind.here, behind.here⟩
      ∧ ((∀ m, n ≤ m → (s.scans m).scan.1 = .ok z)
        ↔ ∀ x ∈ behind.signals, x = .ended)
      ∧ ((∀ x, [.ended, .ended, x] <:+: Event.signals script → x = .ended) →
        ∀ m, n ≤ m → (s.scans m).scan.1 = .ok z) := by
  intro s behind
  have hscan : (s.scans n).scan = (.ok z, behind) :=
    Prod.ext h (s.scans_succ n).symm
  obtain ⟨hplace, hheld, hends⟩ := scan_end hscan hz
  have hiff : (∀ m, n ≤ m → (s.scans m).scan.1 = .ok z)
      ↔ ∀ x ∈ behind.signals, x = .ended := by
    constructor
    · intro hall
      refine ends_of_scans hheld fun k => ?_
      rw [← hplace, ← s.scans_add]
      exact hall _ (by omega)
    · intro hleft m hm
      rcases Nat.eq_or_lt_of_le hm with rfl | hlt
      · exact h
      · obtain ⟨k, rfl⟩ := Nat.exists_eq_add_of_le hlt
        rw [hplace, s.scans_add]
        exact scans_of_ends hheld hleft k
  refine ⟨hplace, hiff, fun hall => hiff.2 ?_⟩
  rcases hends with hnil | hsuffix
  · simp [hnil]
  · exact Signal.eq_ended_of_suffix
      (hsuffix.trans (s.signals_scans_suffix n)) hall

/-- An end between a name and a blank is no end of the input, and three ends
behind the blank are. -/
theorem scans_repeat_end_iff_blank :
    let s := Scanner.ofSource (.ofEvents [.data [0x61], .ended, .data [0x20],
      .ended, .ended, .ended])
    let z : Token := .endOfInput ⟨⟨2, 1, 3⟩, ⟨2, 1, 3⟩⟩
    ((s.scans 1).scan.1 = .ok z ∧ z.kind = .endOfInput)
      ∧ (s.scans 2).signals = [.ended]
      ∧ ∀ m, 1 ≤ m → (s.scans m).scan.1 = .ok z := by
  intro s z
  have h : (s.scans 1).scan.1 = .ok z := by decide +kernel
  have hleft : (s.scans 2).signals = [.ended] := by decide +kernel
  obtain ⟨-, hiff, -⟩ := scans_repeat_end_iff [.data [0x61], .ended,
    .data [0x20], .ended, .ended, .ended] 1 h rfl
  exact ⟨⟨h, rfl⟩, hleft, hiff.2 (by rw [hleft]; simp)⟩

/-- A source that goes on behind two ends. The scanner gives the end of the
input, and then a name. -/
theorem scan_name_behind_end :
    let s := Scanner.ofSource (.ofEvents [.ended, .ended, .data [0x61]])
    ∃ z t : Token, s.scan.1 = .ok z ∧ z.kind = .endOfInput
      ∧ (s.scans 1).scan.1 = .ok t ∧ t.kind = .identifier := by
  refine ⟨.endOfInput .origin, ⟨.identifier, "a", ⟨.origin, ⟨1, 1, 2⟩⟩⟩, ?_⟩
  decide +kernel

end Monkey
