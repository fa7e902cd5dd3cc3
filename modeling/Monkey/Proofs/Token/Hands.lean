/-
What a supply hands out when it is asked again and again: tokens, and
then one last item, the end of the input or a failure (`Hands`). Every
supply hands out something, and only one thing.

For a scanner this is what its iterator yields (`items_of_hands`).
-/
import Monkey.Token.Iterator
import Monkey.Token.Supply

namespace Monkey

-- ============================================================== supplies

section Supplies

variable {σ : Type} [TokenSupply σ]

/-- Asked again and again, the supply hands out these tokens and then
this item, which is the end of the input or a failure. -/
inductive Hands : σ → List Token → Item → Prop
  | ended {s s' : σ} {e : Token} (h : TokenSupply.next s = (.ok e, s'))
      (he : e.kind = .endOfInput) : Hands s [] (.ok e)
  | failed {s s' : σ} {e : ScanError}
      (h : TokenSupply.next s = (.error e, s')) : Hands s [] (.error e)
  | token {s s' : σ} {t : Token} {ts : List Token} {last : Item}
      (h : TokenSupply.next s = (.ok t, s')) (ht : t.kind ≠ .endOfInput)
      (later : Hands s' ts last) : Hands s (t :: ts) last

variable {s : σ} {ts : List Token} {last : Item}

/-- The end of the input is not among the tokens. -/
theorem Hands.ne_endOfInput (h : Hands s ts last) :
    ∀ t ∈ ts, t.kind ≠ .endOfInput := by
  induction h with
  | ended => simp
  | failed => simp
  | token _ ht _ ih => exact List.forall_mem_cons.2 ⟨ht, ih⟩

end Supplies

-- ============================================================== scanners

namespace Scanner

-- Reading a token never touches the flag of the iterator.

private theorem ended_peek (s : Scanner) : s.peek.2.ended = s.ended := rfl

private theorem ended_takeRun (p : Char → Bool) (s : Scanner) :
    (s.takeRun p).2.ended = s.ended := by
  fun_induction takeRun p s with
  | case1 s c s' h hp cs s'' hrun ih =>
      have := ended_peek s
      rw [h] at this
      rw [hrun] at ih
      exact ih.trans this
  | case2 s c s' h hp f s'' hrun ih =>
      have := ended_peek s
      rw [h] at this
      rw [hrun] at ih
      exact ih.trans this
  | case3 s c s' h hp => simpa [h] using ended_peek s
  | case4 s s' h => simpa [h] using ended_peek s
  | case5 s f s' h => simpa [h] using ended_peek s

private theorem ended_passIf (s : Scanner) (expected : Char) :
    (s.passIf expected).2.ended = s.ended := by
  have := ended_peek s
  unfold passIf
  split
  · next c s' h =>
    rw [h] at this
    split <;> exact this
  · next s' h => simpa [h] using this
  · next f s' h => simpa [h] using this

private theorem ended_lexeme (s : Scanner) (c : Char) :
    (s.lexeme c).2.ended = s.ended := by
  have hjoin (alone joined : TokenKind) :
      (s.joinable c alone joined).2.ended = s.ended := by
    have := ended_passIf s '='
    unfold joinable
    split <;> next h => simpa [h] using this
  have hrun (p : Char → Bool) (kind : List Char → TokenKind) :
      (s.runOf p kind c).2.ended = s.ended := by
    have := ended_takeRun p s
    unfold runOf
    split <;> next h => simpa [h] using this
  unfold lexeme
  split
  · rfl
  · split
    · exact hjoin _ _
    · split
      · exact hjoin _ _
      · split
        · exact hrun _ _
        · split
          · exact hrun _ _
          · rfl

private theorem ended_take (s : Scanner) : s.take.2.ended = s.ended := by
  unfold take
  split <;> rfl

/-- Reading a token does not end the iterator. -/
theorem ended_scan (s : Scanner) : s.scan.2.ended = s.ended := by
  have hblank := ended_takeRun isBlank s
  unfold scan
  split
  · next f s₁ h => simpa [h] using hblank
  · next cs s₁ h =>
    rw [h] at hblank
    have htake := (ended_take s₁).trans hblank
    split
    · next s₂ h => simpa [h] using htake
    · next f s₂ h => simpa [h] using htake
    · next c s₂ h =>
      rw [h] at htake
      have hlexeme := (ended_lexeme s₂ c).trans htake
      split <;> next h => simpa [h] using hlexeme

/-- The scanner after so many calls. Calls go on behind an end of the input
and behind a failure. -/
def scans (s : Scanner) : Nat → Scanner
  | 0 => s
  | n + 1 => s.scan.2.scans n

/-- No number of calls ends the iterator. -/
theorem ended_scans (s : Scanner) (n : Nat) :
    (s.scans n).ended = s.ended := by
  induction n generalizing s with
  | zero => rfl
  | succ n ih => exact (ih s.scan.2).trans (ended_scan s)

/-- One step of the iterator's list. -/
theorem items_step (s : Scanner) :
    s.items =
      match s.next? with
      | (none, s') => ([], s')
      | (some item, s') => (item :: s'.items.1, s'.items.2) := by
  rw [items]
  cases s.next? with
  | mk item s' => cases item <;> rfl

/-- An iterator that has ended yields nothing. -/
theorem items_of_ended {s : Scanner} (h : s.ended = true) :
    s.items = ([], s) := by
  rw [items_step, next?, if_pos h]

/-- The iterator yields the tokens that the scanner hands out, and the
last item, and then ends. -/
theorem items_of_hands {s : Scanner} {ts : List Token} {last : Item}
    (hs : s.ended = false) (h : Hands s ts last) :
    s.items.1 = ts.map .ok ++ [last] := by
  induction h with
  | @ended s s' e h he =>
      have h : s.scan = (.ok e, s') := h
      rw [items_step, next?, h]
      simp [hs, items_of_ended, Token.is, he]
  | @failed s s' e h =>
      have h : s.scan = (.error e, s') := h
      rw [items_step, next?, h]
      simp [hs, items_of_ended]
  | @token s s' t ts last h ht _ ih =>
      have h : s.scan = (.ok t, s') := h
      have hended : s'.ended = false := by
        have := ended_scan s
        rwa [h, hs] at this
      have hsame : { s' with ended := t.is .endOfInput } = s' := by
        rw [show t.is .endOfInput = s'.ended by simp [Token.is, ht, hended]]
      rw [items_step, next?, h]
      simp [hs, hsame, ih hended]

end Scanner

-- ====================================================== tokens of a text

/-- Items without a failure among them are collected as their tokens. -/
theorem collect_map_ok (ts : List Token) :
    collect (ts.map .ok) = .ok ts := by
  induction ts with
  | nil => rfl
  | cons t ts ih => rw [List.map_cons, collect, ih]

/-- The tokens of a text whose scanner comes to the end of the input. -/
theorem tokenize_of_hands {text : String} {ts : List Token} {e : Token}
    (h : Hands (Scanner.ofText text) ts (.ok e)) :
    tokenize text = .ok (ts ++ [e]) := by
  rw [tokenize, Scanner.items_of_hands rfl h, ← collect_map_ok,
    List.map_append]
  rfl

end Monkey
