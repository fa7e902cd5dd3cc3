/-
Reading an expression by climbing precedences.

An operator whose right operand is not complete yet waits in a frame,
and the frames of an expression form a stack, innermost first. After
each operand the next token decides. The frames that do not bind less
tightly than it are closed, the operand going into them. Then, if the
next token is an operator that binds tighter than what now surrounds
the operand, it opens a frame of its own; if not, the expression ends
there.

An operator closes a waiting one of its own level, so operators of one
level group to the left.
-/
import Monkey.Program.Window
import Monkey.Tree.Basic

namespace Monkey

-- ================================================================ frames

/-- An operator that waits for its right operand. -/
inductive Frame where
  | unary (token : Token) (operator : UnaryOperator)
  | binary (left : Expr) (token : Token) (operator : BinaryOperator)
deriving DecidableEq

namespace Frame

/-- How tightly the waiting operator binds its operand. -/
def precedence : Frame → Precedence
  | unary _ _ => .unary
  | binary _ _ op => op.precedence

/-- The operation, once its operand is complete. -/
def close : Frame → Expr → Expr
  | unary t op, e => .unary t op e
  | binary left t op, e => .binary t op left e

/-- What binds the operand in the innermost frame: its operator, or
without a frame the least precedence asked for. -/
def threshold (least : Precedence) : List Frame → Precedence
  | [] => least
  | f :: _ => f.precedence

/-- Closes the frames that bind an operand at least as tightly as a
token of precedence `next` behind it does. -/
def settle (next : Precedence) : List Frame → Expr → List Frame × Expr
  | [], e => ([], e)
  | f :: rest, e =>
      if f.precedence < next then (f :: rest, e)
      else settle next rest (f.close e)

/-- Closes every frame. -/
def closeAll (frames : List Frame) (e : Expr) : Expr :=
  frames.foldl (fun operand f => f.close operand) e

end Frame

-- ============================================================== operands

/-- The expression that one token is by itself: a name or an integer.
Any other token is not an operand. -/
def Token.operand (t : Token) : Except ParseError Expr :=
  match t.kind with
  | .identifier => .ok (.identifier (.ofToken t))
  | .integer =>
      match Numeral.read t.literal.toList with
      | .ok value => .ok (.integer t value)
      | .error fault => .error ⟨.invalidInteger t.literal fault, t⟩
  | kind => .error ⟨.noOperand kind, t⟩

-- ============================================================== climbing

namespace Window

variable {σ : Type} [TokenSupply σ]

/-- Reads on from the current token, where an operand is due, with these
operators waiting for it. Ends at the last token of the expression, or
at the token that should have been an operand. -/
def climb (least : Precedence) (frames : List Frame) (w : Window σ) :
    Except ParseError Expr × Window σ :=
  match _hc : UnaryOperator.ofKind? w.current.kind with
  | some op => climb least (.unary w.current op :: frames) w.slide
  | none =>
      match w.current.operand with
      | .error e => (.error e, w)
      | .ok operand =>
          match _ha : BinaryOperator.ofKind? w.ahead.kind with
          | none => (.ok (Frame.closeAll frames operand), w)
          | some op =>
              let (waiting, left) := Frame.settle op.precedence frames operand
              if Frame.threshold least waiting < op.precedence then
                climb least (.binary left w.ahead op :: waiting)
                  w.slide.slide
              else (.ok left, w)
termination_by w.size
decreasing_by
  · exact size_slide_lt (size_pos_of_current (by
      intro h
      rw [h] at _hc
      cases _hc))
  · exact Nat.lt_of_le_of_lt (size_slide_le _)
      (size_slide_lt (size_pos_of_ahead (by
        intro h
        rw [h] at _ha
        cases _ha)))

/-- Reads the expression that starts at the current token, taking in
operators that bind tighter than `least`. -/
def expression (least : Precedence) (w : Window σ) :
    Except ParseError Expr × Window σ :=
  w.climb least []

/-- Reading an expression only moves on. -/
theorem size_climb_le (least : Precedence) (frames : List Frame)
    (w : Window σ) : (w.climb least frames).2.size ≤ w.size := by
  fun_induction climb least frames w with
  | case1 frames w op hc ih => exact Nat.le_trans ih (size_slide_le w)
  | case2 => exact Nat.le_refl _
  | case3 => exact Nat.le_refl _
  | case4 frames w hc operand hop op ha waiting left hs hlt ih =>
      exact Nat.le_trans ih
        (Nat.le_trans (size_slide_le _) (size_slide_le w))
  | case5 => exact Nat.le_refl _

end Window

end Monkey
