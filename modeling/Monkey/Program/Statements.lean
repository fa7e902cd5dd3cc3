/-
Reading a program, statement by statement.

A binding and a result are told by their keyword; anything else is an
expression. Each ends with a semicolon or without one. A statement that
cannot be read gives one error, wherever the window stands then; the
next statement is tried from the token after it. So every round moves
on, and what is sound around an error is still read.
-/
import Monkey.Program.Climb

namespace Monkey

namespace Window

variable {σ : Type} [TokenSupply σ]

-- ============================================================ statements

/-- Moves on to the token ahead if it is of the kind that must come
next. If not, that token is the error. -/
def expectAhead (w : Window σ) (kind : TokenKind) :
    Except ParseError Unit × Window σ :=
  if w.ahead.is kind then (.ok (), w.slide)
  else (.error ⟨.unexpectedToken kind w.ahead.kind, w.ahead⟩, w)

/-- Reads an expression that ends a statement, and the semicolon behind
it if there is one. -/
def closing (w : Window σ) : Except ParseError Expr × Window σ :=
  match w.expression .lowest with
  | (.ok e, w') =>
      (.ok e, if w'.ahead.is .semicolon then w'.slide else w')
  | (.error e, w') => (.error e, w')

/-- Reads a binding from its keyword on. -/
def binding (w : Window σ) : Except ParseError Statement × Window σ :=
  match w.expectAhead .identifier with
  | (.error e, w₁) => (.error e, w₁)
  | (.ok _, w₁) =>
      match w₁.expectAhead .assign with
      | (.error e, w₂) => (.error e, w₂)
      | (.ok _, w₂) =>
          match w₂.slide.closing with
          | (.error e, w₃) => (.error e, w₃)
          | (.ok value, w₃) =>
              (.ok (.binding w.current (.ofToken w₁.current) value), w₃)

/-- Reads a result from its keyword on. -/
def result (w : Window σ) : Except ParseError Statement × Window σ :=
  match w.slide.closing with
  | (.error e, w') => (.error e, w')
  | (.ok value, w') => (.ok (.result w.current value), w')

/-- Reads an expression by itself. -/
def bare (w : Window σ) : Except ParseError Statement × Window σ :=
  match w.closing with
  | (.error e, w') => (.error e, w')
  | (.ok value, w') => (.ok (.expression w.current value), w')

/-- Reads the statement that starts at the current token. -/
def statement (w : Window σ) : Except ParseError Statement × Window σ :=
  match w.current.kind with
  | .letKeyword => w.binding
  | .returnKeyword => w.result
  | _ => w.bare

-- ========================================================= what is left

/-- Meeting an expected token only moves on. -/
theorem size_expectAhead_le (w : Window σ) (kind : TokenKind) :
    (w.expectAhead kind).2.size ≤ w.size := by
  rw [expectAhead]
  split
  · exact size_slide_le w
  · exact Nat.le_refl _

/-- So does reading the end of a statement. -/
theorem size_closing_le (w : Window σ) : w.closing.2.size ≤ w.size := by
  have hle := size_climb_le .lowest [] w
  rw [closing, expression]
  split
  · next e w' h =>
    rw [h] at hle
    simp only
    split
    · exact Nat.le_trans (size_slide_le w') hle
    · exact hle
  · next e w' h =>
    rw [h] at hle
    exact hle

/-- Reading a statement only moves on. -/
theorem size_statement_le (w : Window σ) : w.statement.2.size ≤ w.size := by
  have hbare (w : Window σ) : w.bare.2.size ≤ w.size := by
    have := size_closing_le w
    rw [bare]
    split <;> next h => simpa [h] using this
  have hresult : w.result.2.size ≤ w.size := by
    have := size_closing_le w.slide
    have hle := Nat.le_trans this (size_slide_le w)
    rw [result]
    split <;> next h => simpa [h] using hle
  have hbinding : w.binding.2.size ≤ w.size := by
    have h₁ := size_expectAhead_le w .identifier
    rw [binding]
    split
    · next h => simpa [h] using h₁
    · next w₁ h =>
      have h₁ : w₁.size ≤ w.size := by simpa [h] using h₁
      have h₂ := size_expectAhead_le w₁ .assign
      split
      · next h => exact Nat.le_trans (by simpa [h] using h₂) h₁
      · next w₂ h =>
        have h₂ : w₂.size ≤ w₁.size := by simpa [h] using h₂
        have h₃ := Nat.le_trans (size_closing_le w₂.slide)
          (size_slide_le w₂)
        split <;> next h =>
          exact Nat.le_trans (by simpa [h] using h₃) (Nat.le_trans h₂ h₁)
  rw [statement]
  split
  · exact hbinding
  · exact hresult
  · exact hbare w

/-- A round of reading makes what is left smaller. -/
theorem size_round_lt {w : Window σ}
    (h : w.current.kind ≠ .endOfInput) :
    w.statement.2.slide.size < w.size := by
  have hpos := size_pos_of_current h
  have hle := size_statement_le w
  rcases Nat.eq_zero_or_pos w.statement.2.size with h₀ | h₀
  · have := size_slide_le w.statement.2
    omega
  · have := size_slide_lt h₀
    omega

-- ============================================================== programs

/-- Reads statements until the end of the input is the current token.
Errors are recorded, and the statements around them kept. -/
def statements (w : Window σ) : List Statement × Window σ :=
  if _h : w.current.kind = .endOfInput then ([], w)
  else
    match _hs : w.statement with
    | (.ok s, w') =>
        let later := w'.slide.statements
        (s :: later.1, later.2)
    | (.error e, w') => (w'.addError e).slide.statements
termination_by w.size
decreasing_by
  · have := size_round_lt _h
    rwa [_hs] at this
  · have := size_round_lt _h
    rw [_hs] at this
    rwa [size_slide_addError]

end Window

end Monkey
