/-
Why a statement is an error. Its error is found at a token, and its cause
is read off that token (`ParseError.Founded`): the token is of another kind
than the one expected, starts no operand, or is an integer that has no
value. A failure of the source is never the error of a statement.
-/
import Monkey.Proofs.Program.Climbing
import Monkey.Proofs.Program.Parts

namespace Monkey

/-- Whether a cause is a failure of the source. -/
def Cause.isReadFailure : Cause → Bool
  | .readFailed _ _ => true
  | _ => false

namespace ParseError

/-- The token of an error bears its cause out. -/
inductive Founded : ParseError → Prop
  | unexpected {expected : TokenKind} {t : Token}
      (hexpected : expected = .identifier ∨ expected = .assign)
      (hne : t.kind ≠ expected) :
      Founded ⟨.unexpectedToken expected t.kind, t⟩
  | noOperand {t : Token} (hidentifier : t.kind ≠ .identifier)
      (hinteger : t.kind ≠ .integer)
      (hunary : UnaryOperator.ofKind? t.kind = none) :
      Founded ⟨.noOperand t.kind, t⟩
  | invalidInteger {t : Token} {fault : NumeralFault}
      (hkind : t.kind = .integer)
      (hread : Numeral.read t.literal.toList = .error fault) :
      Founded ⟨.invalidInteger t.literal fault, t⟩

/-- No such error is a failure of the source. -/
theorem Founded.isReadFailure_eq_false {e : ParseError} (h : e.Founded) :
    e.cause.isReadFailure = false := by
  cases h <;> rfl

end ParseError

open ParseError

/-- Whatever is no operand, and no operator in front of one, is the error
where an operand is due. -/
theorem Token.founded_operand {t : Token} {e : ParseError}
    (hunary : UnaryOperator.ofKind? t.kind = none)
    (h : t.operand = .error e) : e.Founded := by
  cases noOperand_iff.2 ⟨hunary, h⟩ with
  | kind hidentifier hinteger hunary =>
      exact .noOperand hidentifier hinteger hunary
  | numeral hkind hread => exact .invalidInteger hkind hread

namespace Window

variable {σ : Type} [TokenSupply σ]

/-- The error of an expression. -/
theorem climb_founded {least : Precedence} {frames : List Frame}
    {w : Window σ} {e : ParseError}
    (h : (w.climb least frames).1 = .error e) : e.Founded := by
  fun_induction climb least frames w with
  | case1 frames w op hc ih => exact ih h
  | case2 frames w hc e' hop =>
      cases h
      exact Token.founded_operand hc hop
  | case3 => cases h
  | case4 frames w hc operand hop op ha waiting left hs hlt ih => exact ih h
  | case5 => cases h

/-- The error of an expression that ends a statement. -/
theorem closing_founded {w : Window σ} {e : ParseError}
    (h : w.closing.1 = .error e) : e.Founded :=
  climb_founded (w.closing_fst ▸ h)

/-- What is around an expression has no other error than it. -/
theorem founded_of_map {α : Type} {f : Expr → α} {w : Window σ}
    {e : ParseError} (h : Except.map f w.closing.1 = .error e) :
    e.Founded := by
  cases hclosing : w.closing.1 with
  | ok value =>
      rw [hclosing] at h
      cases h
  | error e' =>
      rw [hclosing] at h
      cases h
      exact closing_founded hclosing

/-- The error of a binding. -/
theorem binding_founded {w : Window σ} {e : ParseError}
    (h : w.binding.1 = .error e) : e.Founded := by
  by_cases hname : w.ahead.kind = .identifier
  · by_cases hequals : w.slide.ahead.kind = .assign
    · rw [binding_of_eq hname hequals] at h
      exact founded_of_map h
    · rw [binding_of_no_equals hname hequals] at h
      cases h
      exact .unexpected (Or.inr rfl) hequals
  · rw [binding_of_no_name hname] at h
    cases h
    exact .unexpected (Or.inl rfl) hname

/-- The error of a statement. -/
theorem statement_founded {w : Window σ} {e : ParseError}
    (h : w.statement.1 = .error e) : e.Founded := by
  by_cases hlet : w.current.kind = .letKeyword
  · rw [statement_of_let hlet] at h
    exact binding_founded h
  · by_cases hreturn : w.current.kind = .returnKeyword
    · rw [statement_of_return hreturn, result_eq] at h
      exact founded_of_map h
    · rw [statement_of_ne hlet hreturn, bare_eq] at h
      exact founded_of_map h

end Window

end Monkey
