/-
What is recorded as a window moves on. It is the failure of the supply,
once, at the token that was ahead when the window came to it
(`Window.errors_slides`); before the end of the input it is nothing. What is
recorded so far, together with what still will be (`Item.pending`), is the
same however far the window has moved (`Window.Sees.pending_slides`).
-/
import Monkey.Proofs.Program.Sight

namespace Monkey

-- ============================================================= diagnoses

namespace Item

/-- What is recorded at a token if a supply ends behind it with this item:
the failure, or nothing at the end of the input. -/
def diagnosis (t : Token) : Item → Diagnosis
  | .ok _ => []
  | .error e => [⟨.ofScanError e, t⟩]

/-- What is still to be recorded if these tokens and then this item are
before a window. A window with one token before it has come to the item
already. -/
def pending (last : Item) : List Token → Diagnosis
  | _ :: t :: ts => last.diagnosis (ts.getLastD t)
  | _ => []

/-- At the end of the input there is nothing. -/
theorem pending_ok (e : Token) (ts : List Token) :
    pending (.ok e) ts = [] := by
  match ts with
  | [] | [_] | _ :: _ :: _ => rfl

end Item

namespace Window

variable {σ : Type} [TokenSupply σ] {w : Window σ} {ts : List Token}
  {last : Item}

-- ============================================================= moving on

/-- With the end ahead nothing more is recorded by moving on. -/
theorem errors_slides_of_end (h : w.ahead.kind = .endOfInput) (n : Nat) :
    (w.slides n).errors = w.errors := by
  induction n generalizing w with
  | zero => rfl
  | succ n ih =>
      rw [slides_succ, slide_of_end h]
      exact ih h

/-- Nothing is recorded by moving on but one failure of the supply, behind
which there is the end. -/
theorem errors_slides (w : Window σ) (n : Nat) :
    (w.slides n).errors = w.errors
      ∨ ∃ f t, (w.slides n).errors = w.errors ++ [⟨.ofScanError f, t⟩] := by
  induction n generalizing w with
  | zero => exact Or.inl rfl
  | succ n ih =>
      by_cases hend : w.ahead.kind = .endOfInput
      · exact Or.inl (errors_slides_of_end hend _)
      · have hlater := ih w.slide
        rw [slides_succ]
        rw [slide_of_token hend] at hlater ⊢
        cases hnext : TokenSupply.next w.supply with
        | mk item supply =>
        cases item with
        | ok t =>
            have herrors : w.pull.errors = w.errors := by simp [pull, hnext]
            rwa [herrors] at hlater
        | error f =>
            have herrors : w.pull.errors
                = w.errors ++ [⟨.ofScanError f, w.ahead⟩] := by
              simp [pull, hnext, addError, Pinned.pin]
            have hahead : w.pull.ahead.kind = .endOfInput := by
              simp [pull, hnext, addError, Token.endOfInput]
            rw [errors_slides_of_end hahead, herrors]
            exact Or.inr ⟨f, w.ahead, rfl⟩

/-- A last item that is pulled is recorded at the token that was ahead. -/
theorem errors_pull_last (h : Hands w.supply [] last) :
    w.pull.errors = w.errors ++ last.diagnosis w.ahead := by
  cases h with
  | ended h => simp [pull, h, Item.diagnosis]
  | failed h => simp [pull, h, Item.diagnosis, addError, Pinned.pin]

/-- Of a token nothing is recorded. -/
theorem errors_pull_token {t : Token} (h : Hands w.supply (t :: ts) last) :
    w.pull.errors = w.errors := by
  cases h with
  | token h => simp [pull, h]

namespace Sees

/-- What is recorded and what still will be do not change as the window
moves on. -/
theorem pending_slide (h : w.Sees ts last) :
    w.slide.errors ++ last.pending ts.tail = w.errors ++ last.pending ts := by
  match ts, h with
  | [], h | [t], h =>
      rw [slide_of_end (h.ahead ▸ h.closing)]
      rfl
  | [t, u], h =>
      have hsupply : Hands w.supply [] last := h.supply (by simp)
      rw [slide_of_token (h.ahead ▸ h.tokens u (by simp)),
        errors_pull_last hsupply, h.ahead]
      simp [Item.pending]
  | t :: u :: x :: ts, h =>
      have hsupply : Hands w.supply (x :: ts) last := h.supply (by simp)
      rw [slide_of_token (h.ahead ▸ h.tokens u (by simp)),
        errors_pull_token hsupply, List.tail_cons, Item.pending, Item.pending,
        List.getLastD_cons]

/-- However far it moves. -/
theorem pending_slides (h : w.Sees ts last) (n : Nat) :
    (w.slides n).errors ++ last.pending (ts.drop n)
      = w.errors ++ last.pending ts := by
  induction n generalizing w ts with
  | zero => rfl
  | succ n ih => rw [slides_succ, ← List.drop_tail, ih h.slide, h.pending_slide]

variable {e : Token}

/-- Before the end of the input nothing is recorded by moving on. -/
theorem errors_slides (h : w.Sees ts (.ok e)) (n : Nat) :
    (w.slides n).errors = w.errors := by
  have := h.pending_slides n
  rwa [Item.pending_ok, Item.pending_ok, List.append_nil,
    List.append_nil] at this

/-- Nor by moving on once. -/
theorem errors_slide (h : w.Sees ts (.ok e)) : w.slide.errors = w.errors :=
  h.errors_slides 1

end Sees

-- ========================================================= the beginning

/-- At the beginning of a supply that fails, the failure is recorded or
still to be, at the last token or, without one, at an end of the input
before everything. -/
theorem pending_start {s : σ} (h : Hands s ts last) :
    (start s).errors ++ last.pending ts
      = last.diagnosis (ts.getLastD (.endOfInput .origin)) := by
  have h : Hands (blank s).supply ts last := h
  obtain ⟨-, hahead, hsupply⟩ := pull_of_hands h
  rw [start_eq]
  match ts, h, hahead, hsupply with
  | [], h, hahead, _ =>
      rw [slide_of_end (hahead ▸ h.kind_closing)]
      exact (List.append_nil _).trans (errors_pull_last h)
  | [t], h, hahead, hsupply =>
      have hnext : Hands (blank s).pull.supply [] last := hsupply (by simp)
      rw [slide_of_token (hahead ▸ h.ne_endOfInput t (by simp)),
        errors_pull_last hnext, errors_pull_token h, hahead]
      exact List.append_nil _
  | t :: u :: ts, h, hahead, hsupply =>
      have hnext : Hands (blank s).pull.supply (u :: ts) last :=
        hsupply (by simp)
      rw [slide_of_token (hahead ▸ h.ne_endOfInput t (by simp)),
        errors_pull_token hnext, errors_pull_token h, List.getLastD_cons,
        List.getLastD_cons]
      rfl

/-- Nothing is recorded at the beginning of a supply that comes to the end of
the input. -/
theorem errors_start {s : σ} {e : Token} (h : Hands s ts (.ok e)) :
    (start s).errors = [] := by
  have := pending_start h
  rwa [Item.pending_ok, List.append_nil] at this

end Window

end Monkey
