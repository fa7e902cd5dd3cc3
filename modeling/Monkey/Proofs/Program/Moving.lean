/-
Reading only moves the window on. Whatever a function of the reader is
asked for, and whether it gives it or an error, the window it leaves is
the one it was given some tokens further (`Window.Moves`). So none of
them records anything, and what it leaves unread is the end of what it
was given. Only a program records errors, one a round.
-/
import Monkey.Proofs.Program.Parts
import Monkey.Proofs.Program.Recording

namespace Monkey

namespace Window

variable {σ : Type} [TokenSupply σ]

/-- The second window is the first some tokens further on. -/
def Moves (w w' : Window σ) : Prop := ∃ n, w' = w.slides n

namespace Moves

/-- A window that stays has moved by no token. -/
theorem stay (w : Window σ) : w.Moves w := ⟨0, rfl⟩

/-- One token further, and then some more. -/
theorem slide {w w' : Window σ} (h : w.slide.Moves w') : w.Moves w' := by
  obtain ⟨n, hn⟩ := h
  exact ⟨n + 1, hn⟩

/-- Moving on and then moving on again. -/
theorem trans {w₁ w₂ w₃ : Window σ} (h : w₁.Moves w₂) (h' : w₂.Moves w₃) :
    w₁.Moves w₃ := by
  obtain ⟨m, rfl⟩ := h
  obtain ⟨n, rfl⟩ := h'
  exact ⟨m + n, (slides_add w₁ m n).symm⟩

/-- What is left unread is the end of what there was. -/
theorem sees {w w' : Window σ} {ts : List Token} {last : Item}
    (h : w.Moves w') (hw : w.Sees ts last) : ∃ left, w'.Sees left last := by
  obtain ⟨n, rfl⟩ := h
  exact ⟨_, hw.slides n⟩

/-- What is recorded and what still will be, where the window has moved
to. -/
theorem sees_pending {w w' : Window σ} {ts : List Token} {last : Item}
    (h : w.Moves w') (hw : w.Sees ts last) :
    ∃ left, w'.Sees left last
      ∧ w'.errors ++ last.pending left = w.errors ++ last.pending ts := by
  obtain ⟨n, rfl⟩ := h
  exact ⟨_, hw.slides n, hw.pending_slides n⟩

/-- Before the end of the input, moving on records nothing. -/
theorem errors {w w' : Window σ} {ts : List Token} {z : Token}
    (h : w.Moves w') (hw : w.Sees ts (.ok z)) : w'.errors = w.errors := by
  obtain ⟨n, rfl⟩ := h
  exact hw.errors_slides n

end Moves

-- ======================================================= what moves it

/-- Reading an expression moves on. -/
theorem climb_moves (least : Precedence) (frames : List Frame)
    (w : Window σ) : w.Moves (w.climb least frames).2 := by
  fun_induction climb least frames w with
  | case1 frames w op hc ih => exact ih.slide
  | case2 => exact .stay _
  | case3 => exact .stay _
  | case4 frames w hc operand hop op ha waiting left hs hlt ih =>
      exact ih.slide.slide
  | case5 => exact .stay _

/-- So does reading the end of a statement. -/
theorem closing_moves (w : Window σ) : w.Moves w.closing.2 := by
  have hclimb := climb_moves .lowest [] w
  unfold closing expression
  split
  · next e w' h =>
    rw [h] at hclimb
    simp only
    split
    · exact hclimb.trans (Moves.stay _).slide
    · exact hclimb
  · next e w' h => simpa [h] using hclimb

/-- Reading a statement moves on. -/
theorem statement_moves (w : Window σ) : w.Moves w.statement.2 := by
  have hbinding : w.Moves w.binding.2 := by
    by_cases hname : w.ahead.kind = .identifier
    · by_cases hequals : w.slide.ahead.kind = .assign
      · rw [binding_of_eq hname hequals]
        exact (closing_moves _).slide.slide.slide
      · rw [binding_of_no_equals hname hequals]
        exact (Moves.stay _).slide
    · rw [binding_of_no_name hname]
      exact .stay w
  by_cases hlet : w.current.kind = .letKeyword
  · rw [statement_of_let hlet]
    exact hbinding
  · by_cases hreturn : w.current.kind = .returnKeyword
    · rw [statement_of_return hreturn, result_eq]
      exact (closing_moves _).slide
    · rw [statement_of_ne hlet hreturn, bare_eq]
      exact closing_moves w

/-- What a statement leaves unread is the end of what there was. -/
theorem sees_statement {w w' : Window σ} {ts : List Token} {last : Item}
    {outcome : Except ParseError Statement} (hw : w.Sees ts last)
    (h : w.statement = (outcome, w')) : ∃ left, w'.Sees left last := by
  have hmoves := statement_moves w
  rw [h] at hmoves
  exact hmoves.sees hw

/-- Nothing is recorded while a statement is read and left behind,
whether it can be read or not. -/
theorem errors_statement {w w' : Window σ} {ts : List Token} {z : Token}
    {outcome : Except ParseError Statement} (hw : w.Sees ts (.ok z))
    (h : w.statement = (outcome, w')) :
    w'.errors = w.errors ∧ w'.slide.errors = w.errors := by
  have hmoves := statement_moves w
  rw [h] at hmoves
  exact ⟨hmoves.errors hw, (hmoves.trans (Moves.stay _).slide).errors hw⟩

end Window

end Monkey
