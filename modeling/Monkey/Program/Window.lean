/-
The window through which a program is read: the current token and the
one ahead of it. Nothing else of the input is ever looked at, and the
window only moves forward.

The window stands at the end of the input once the token ahead is the
end. From then on the supply is not asked any more, and moving on
repeats the end. A failure of the supply is recorded at the token that
was ahead when it struck, and counts as the end of the input.
-/
import Monkey.Diagnosis
import Monkey.Token.Supply

namespace Monkey

/-- What is in sight, what is still to come, and the errors found so
far. -/
structure Window (σ : Type) where
  current : Token
  ahead : Token
  supply : σ
  errors : Diagnosis

namespace Window

variable {σ : Type}

/-- Adds an error to those found so far. -/
def addError (w : Window σ) (e : ParseError) : Window σ :=
  { w with errors := w.errors ++ [e] }

section Moving

variable [TokenSupply σ]

/-- Moves on by one token, which the supply is asked for. -/
def pull (w : Window σ) : Window σ :=
  match TokenSupply.next w.supply with
  | (.ok t, supply) => { w with current := w.ahead, ahead := t, supply }
  | (.error e, supply) =>
      let cause := Cause.ofScanError e
      { w with current := w.ahead, ahead := .endOfInput e.span, supply }.addError
        (Pinned.pin cause w.ahead)

/-- Moves on by one token; the end of the input is repeated. -/
def slide (w : Window σ) : Window σ :=
  if w.ahead.is .endOfInput then { w with current := w.ahead } else w.pull

/-- The window at the beginning of a supply: its first two tokens. -/
def start (supply : σ) : Window σ :=
  let blank := Token.endOfInput .origin
  (Window.pull ⟨blank, blank, supply, []⟩).slide

-- ============================================================ what is left

/-- A bound for how often the window can still move before it shows
nothing but the end of the input. -/
def size (w : Window σ) : Nat :=
  (if w.current.kind = .endOfInput then 0 else 1)
    + (if w.ahead.kind = .endOfInput then 0
       else 2 + 2 * TokenSupply.size w.supply)

/-- Moving on makes what is left smaller, unless nothing is. -/
theorem size_slide_lt {w : Window σ} (h : 0 < w.size) :
    w.slide.size < w.size := by
  rw [slide]
  split
  · next hahead =>
    have hahead : w.ahead.kind = .endOfInput := by simpa [Token.is] using hahead
    simp only [size, hahead, if_true] at h ⊢
    omega
  · next hahead =>
    have hahead : w.ahead.kind ≠ .endOfInput := by simpa [Token.is] using hahead
    rw [pull]
    split
    · next t supply hnext =>
      simp only [size, hahead, if_false]
      by_cases ht : t.kind = .endOfInput
      · simp only [ht, if_true]
        omega
      · have := TokenSupply.size_next_lt hnext ht
        simp only [ht, if_false]
        omega
    · simp only [size, addError, Token.endOfInput, hahead, if_true, if_false]
      omega

/-- Moving on never makes more of what is left. -/
theorem size_slide_le (w : Window σ) : w.slide.size ≤ w.size := by
  rcases Nat.eq_zero_or_pos w.size with h | h
  · have hw := h
    simp only [size, Nat.add_eq_zero_iff] at hw
    obtain ⟨-, hahead⟩ := hw
    have hahead : w.ahead.kind = .endOfInput := by
      by_cases hk : w.ahead.kind = .endOfInput
      · exact hk
      · simp [hk] at hahead
    simp [slide, Token.is, hahead, size]
  · exact Nat.le_of_lt (size_slide_lt h)

/-- While there is a current token, something is left. -/
theorem size_pos_of_current {w : Window σ}
    (h : w.current.kind ≠ .endOfInput) : 0 < w.size := by
  simp only [size, h, if_false]
  omega

/-- While there is a token ahead, something is left. -/
theorem size_pos_of_ahead {w : Window σ}
    (h : w.ahead.kind ≠ .endOfInput) : 0 < w.size := by
  simp only [size, h, if_false]
  omega

/-- Recording an error moves nothing. -/
@[simp] theorem size_addError (w : Window σ) (e : ParseError) :
    (w.addError e).size = w.size := rfl

/-- Nor does it make a difference to how far the window moves. -/
theorem size_slide_addError (w : Window σ) (e : ParseError) :
    (w.addError e).slide.size = w.slide.size := by
  by_cases h : w.ahead.is .endOfInput
  · simp [slide, addError, h, size]
  · simp only [slide, pull, addError, h, Bool.false_eq_true, if_false]
    split <;> rfl

end Moving

end Window

end Monkey
