/-
How far a statement is looked for. The tokens before a window come one
after another as it moves on (`Window.token`). A semicolon or the end of
the input is a stop: reading a statement never goes past it, and nothing
behind it is looked at.

So what is read depends on the tokens up to the next stop alone. If
another window has the same tokens before it as far as that, be it over
another supply, or with the tokens standing elsewhere (`Window.Mirrors`),
the same is read from both, and both move on equally far
(`Window.statement_parallel`).
-/
import Monkey.Proofs.Program.Climbing
import Monkey.Proofs.Program.Parts
import Monkey.Proofs.Program.Reach
import Monkey.Proofs.Tree.Respan

namespace Monkey

-- ================================================================ stops

/-- Reading a statement goes no further than a token of this kind. -/
def TokenKind.IsStop (k : TokenKind) : Prop :=
  k = .semicolon ∨ k = .endOfInput

instance (k : TokenKind) : Decidable k.IsStop :=
  inferInstanceAs (Decidable (k = .semicolon ∨ k = .endOfInput))

/-- No operator in front of an operand is a stop. -/
theorem UnaryOperator.not_isStop {k : TokenKind} {op : UnaryOperator}
    (h : ofKind? k = some op) : ¬k.IsStop := by
  rintro (rfl | rfl) <;> cases h

/-- No operator between two operands is one. -/
theorem BinaryOperator.not_isStop {k : TokenKind} {op : BinaryOperator}
    (h : ofKind? k = some op) : ¬k.IsStop := by
  rintro (rfl | rfl) <;> cases h

/-- Nor is an operand. -/
theorem Token.operand_not_isStop {t : Token} {e : Expr}
    (h : t.operand = .ok e) : ¬t.kind.IsStop := by
  cases isOperand_iff.2 h with
  | name hkind => rw [hkind]; decide
  | numeral hkind => rw [hkind]; decide

namespace Window

variable {σ σ' : Type} [TokenSupply σ] [TokenSupply σ']

-- =============================================================== tokens

/-- The token that is current after moving on so many times. -/
def token (w : Window σ) (n : Nat) : Token := (w.slides n).current

theorem token_zero (w : Window σ) : w.token 0 = w.current := rfl

theorem token_one (w : Window σ) : w.token 1 = w.ahead := current_slide w

theorem token_slide (w : Window σ) (n : Nat) :
    w.slide.token n = w.token (n + 1) := rfl

theorem token_slides (w : Window σ) (m n : Nat) :
    (w.slides m).token n = w.token (m + n) := by
  rw [token, token, slides_add]

-- ============================================================== mirrors

/-- Up to the token of number `n` the second window has the tokens of the
first before it, standing where `g` says. -/
def Mirrors (g : Token → Span) (w : Window σ) (v : Window σ') (n : Nat) :
    Prop :=
  ∀ i ≤ n, v.token i = (w.token i).respan g

namespace Mirrors

variable {g : Token → Span} {w : Window σ} {v : Window σ'} {n : Nat}

theorem current (h : Mirrors g w v n) : v.current = w.current.respan g :=
  h 0 (Nat.zero_le n)

theorem ahead (h : Mirrors g w v (n + 1)) : v.ahead = w.ahead.respan g := by
  rw [← token_one, ← token_one]
  exact h 1 (by omega)

theorem slide (h : Mirrors g w v (n + 1)) : Mirrors g w.slide v.slide n :=
  fun i hi => h (i + 1) (by omega)

theorem slides {m : Nat} (h : Mirrors g w v (m + n)) :
    Mirrors g (w.slides m) (v.slides m) n := by
  intro i hi
  rw [token_slides, token_slides]
  exact h (m + i) (by omega)

end Mirrors

/-- Reading goes alike in two windows of which the second mirrors the
first up to the token of number `n`: both move on by the same `m` tokens,
the results are the same but for where tokens stand, and an error is at
one of the tokens that are mirrored. -/
structure Parallel {α : Type} (g : Token → Span) (f : α → α) (w : Window σ)
    (v : Window σ') (n m : Nat) (r : Except ParseError α × Window σ)
    (r' : Except ParseError α × Window σ') : Prop where
  le : m ≤ n
  left : r.2 = w.slides m
  right : r'.2 = v.slides m
  result : r'.1 = respanned g f r.1
  error : ∀ e, r.1 = .error e → ∃ i ≤ n, e.token = w.token i

namespace Parallel

variable {α : Type} {g : Token → Span} {f : α → α} {w : Window σ}
  {v : Window σ'} {n m : Nat} {r : Except ParseError α × Window σ}
  {r' : Except ParseError α × Window σ'}

/-- Moving on before reading. -/
theorem slide (h : Parallel g f w.slide v.slide n m r r') :
    Parallel g f w v (n + 1) (m + 1) r r' := by
  refine ⟨Nat.succ_le_succ h.le, h.left, h.right, h.result, ?_⟩
  intro e he
  obtain ⟨i, hi, htoken⟩ := h.error e he
  exact ⟨i + 1, by omega, htoken⟩

/-- Something around what was read. -/
theorem map {β : Type} {f' : β → β} {s s' : α → β}
    (h : Parallel g f w v n m r r') (hs : ∀ a, s' (f a) = f' (s a)) :
    Parallel g f' w v n m (Except.map s r.1, r.2)
      (Except.map s' r'.1, r'.2) := by
  refine ⟨h.le, h.left, h.right, ?_, ?_⟩
  · show Except.map s' r'.1 = respanned g f' (Except.map s r.1)
    rw [h.result]
    cases r.1 with
    | error e => rfl
    | ok a => exact congrArg Except.ok (hs a)
  · intro e he
    apply h.error
    cases hr : r.1 with
    | error e₁ =>
        rw [hr] at he
        cases he
        rfl
    | ok a =>
        rw [hr] at he
        cases he

end Parallel

-- ============================================================= climbing

variable {g : Token → Span} {w : Window σ} {v : Window σ'} {n : Nat}

/-- A window that is not at a stop has another token before the next. -/
private theorem exists_succ (hstop : (w.token n).kind.IsStop)
    (hcurrent : ¬w.current.kind.IsStop) : ∃ k, n = k + 1 := by
  cases n with
  | zero => exact absurd hstop hcurrent
  | succ k => exact ⟨k, rfl⟩

/-- A mirrored operand is one. -/
private theorem operand_current (h : Mirrors g w v n) {operand : Expr}
    (hop : w.current.operand = .ok operand) :
    v.current.IsOperand (operand.respan g) := by
  rw [Token.isOperand_iff, h.current, Token.operand_respan, hop]
  rfl

/-- An expression is read alike up to the next stop; if it can be read,
it ends before the stop. -/
theorem climb_parallel {least : Precedence} {frames : List Frame}
    (h : Mirrors g w v n) (hstop : (w.token n).kind.IsStop) :
    ∃ m, Parallel g (Expr.respan g) w v n m (w.climb least frames)
        (v.climb least (frames.map (Frame.respan g)))
      ∧ ∀ e, (w.climb least frames).1 = .ok e → m < n := by
  fun_induction climb least frames w generalizing v n with
  | case1 frames w op hc ih =>
      obtain ⟨n, rfl⟩ := exists_succ hstop (UnaryOperator.not_isStop hc)
      have hv : UnaryOperator.ofKind? v.current.kind = some op := by
        rw [h.current]
        exact hc
      obtain ⟨m, hparallel, hok⟩ := ih h.slide hstop
      rw [climb_of_unary hv, h.current]
      exact ⟨m + 1, hparallel.slide, fun e he => Nat.succ_lt_succ (hok e he)⟩
  | case2 frames w hc e hop =>
      have hv : UnaryOperator.ofKind? v.current.kind = none := by
        rw [h.current]
        exact hc
      have hoperand : v.current.operand = .error (e.respan g) := by
        rw [h.current, Token.operand_respan, hop]
        rfl
      rw [climb_of_error (Token.noOperand_iff.2 ⟨hv, hoperand⟩)]
      refine ⟨0, ⟨Nat.zero_le n, rfl, rfl, rfl, ?_⟩, by simp⟩
      intro e₁ he
      cases he
      exact ⟨0, Nat.zero_le n, (Token.operand_error hc hop).1⟩
  | case3 frames w hc operand hop ha =>
      obtain ⟨n, rfl⟩ := exists_succ hstop (Token.operand_not_isStop hop)
      have hoperand := operand_current h hop
      have hahead : BinaryOperator.ofKind? v.ahead.kind = none := by
        rw [h.ahead]
        exact ha
      rw [climb_of_operand hoperand, resume_of_none hahead,
        Frame.closeAll_respan]
      exact ⟨0, ⟨Nat.zero_le _, rfl, rfl, rfl, by simp⟩, fun _ _ => by omega⟩
  | case4 frames w hc operand hop op ha waiting left hs hlt ih =>
      obtain ⟨n, rfl⟩ := exists_succ hstop (Token.operand_not_isStop hop)
      obtain ⟨n, rfl⟩ : ∃ k, n = k + 1 := by
        apply exists_succ (w := w.slide) hstop
        rw [current_slide]
        exact BinaryOperator.not_isStop ha
      have hoperand := operand_current h hop
      have hahead : BinaryOperator.ofKind? v.ahead.kind = some op := by
        rw [h.ahead]
        exact ha
      obtain ⟨m, hparallel, hok⟩ := ih h.slide.slide hstop
      rw [climb_of_operand hoperand, resume_of_some hahead,
        Frame.settle_respan, hs, Frame.threshold_respan, if_pos hlt, h.ahead]
      refine ⟨m + 2, hparallel.slide.slide, fun e he => ?_⟩
      have := hok e he
      omega
  | case5 frames w hc operand hop op ha waiting left hs hlt =>
      obtain ⟨n, rfl⟩ := exists_succ hstop (Token.operand_not_isStop hop)
      have hoperand := operand_current h hop
      have hahead : BinaryOperator.ofKind? v.ahead.kind = some op := by
        rw [h.ahead]
        exact ha
      rw [climb_of_operand hoperand, resume_of_some hahead,
        Frame.settle_respan, hs, Frame.threshold_respan, if_neg hlt]
      exact ⟨0, ⟨Nat.zero_le _, rfl, rfl, rfl, by simp⟩, fun _ _ => by omega⟩

-- ========================================================== statements

/-- The end of a statement is read alike up to the next stop. -/
theorem closing_parallel (h : Mirrors g w v n)
    (hstop : (w.token n).kind.IsStop) :
    ∃ m, Parallel g (Expr.respan g) w v n m w.closing v.closing := by
  obtain ⟨m, ⟨hle, hleft, hright, hresult, herror⟩, hok⟩ :
      ∃ m, Parallel g (Expr.respan g) w v n m (w.climb .lowest [])
          (v.climb .lowest [])
        ∧ ∀ e, (w.climb .lowest []).1 = .ok e → m < n :=
    climb_parallel h hstop
  unfold closing expression
  cases hw : w.climb .lowest [] with
  | mk r w' =>
  cases hv : v.climb .lowest [] with
  | mk r' v' =>
  simp only [hw, hv] at hleft hright hresult herror hok
  subst hleft hright hresult
  cases r with
  | error e => exact ⟨m, hle, rfl, rfl, rfl, herror⟩
  | ok e =>
      -- the expression ends before the stop, so what is ahead is mirrored
      obtain ⟨k, rfl⟩ : ∃ k, n = m + (k + 1) :=
        ⟨n - m - 1, by have := hok e rfl; omega⟩
      have hahead := h.slides.ahead
      have hsame : (v.slides m).ahead.is .semicolon
          = (w.slides m).ahead.is .semicolon := by
        rw [hahead]
        rfl
      simp only [respanned, hsame]
      split
      · exact ⟨m + 1, by omega, slide_slides w m, slide_slides v m, rfl,
          by simp⟩
      · exact ⟨m, hle, rfl, rfl, rfl, by simp⟩

/-- So is a binding. -/
theorem binding_parallel (h : Mirrors g w v n)
    (hstop : (w.token n).kind.IsStop) (hlet : w.current.kind = .letKeyword) :
    ∃ m, Parallel g (Statement.respan g) w v n m w.binding v.binding := by
  obtain ⟨n, rfl⟩ := exists_succ hstop (by rw [hlet]; decide)
  have hahead := h.ahead
  by_cases hname : w.ahead.kind = .identifier
  · obtain ⟨n, rfl⟩ : ∃ k, n = k + 1 := by
      apply exists_succ (w := w.slide) hstop
      rw [current_slide, hname]
      decide
    have hahead' := h.slide.ahead
    have hname' : v.ahead.kind = .identifier := by
      rw [hahead]
      exact hname
    by_cases hequals : w.slide.ahead.kind = .assign
    · obtain ⟨n, rfl⟩ : ∃ k, n = k + 1 := by
        apply exists_succ (w := w.slide.slide) hstop
        rw [current_slide, hequals]
        decide
      obtain ⟨m, hparallel⟩ := closing_parallel h.slide.slide.slide hstop
      rw [binding_of_eq hname hequals,
        binding_of_eq hname' (by rw [hahead']; exact hequals), h.current,
        hahead]
      refine ⟨m + 3, .slide (.slide (.slide ?_))⟩
      exact hparallel.map fun _ => rfl
    · rw [binding_of_no_equals hname hequals,
        binding_of_no_equals hname' (by rw [hahead']; exact hequals),
        hahead']
      refine ⟨1, by omega, rfl, rfl, rfl, ?_⟩
      intro e he
      cases he
      exact ⟨2, by omega, (token_one w.slide).symm⟩
  · rw [binding_of_no_name hname,
      binding_of_no_name (by rw [hahead]; exact hname), hahead]
    refine ⟨0, Nat.zero_le _, rfl, rfl, rfl, ?_⟩
    intro e he
    cases he
    exact ⟨1, by omega, (token_one w).symm⟩

/-- A statement is read alike up to the next stop. -/
theorem statement_parallel (h : Mirrors g w v n)
    (hstop : (w.token n).kind.IsStop) :
    ∃ m, Parallel g (Statement.respan g) w v n m w.statement v.statement := by
  have hkind : v.current.kind = w.current.kind := by
    rw [h.current]
    rfl
  by_cases hlet : w.current.kind = .letKeyword
  · rw [statement_of_let hlet, statement_of_let (hkind.trans hlet)]
    exact binding_parallel h hstop hlet
  · by_cases hreturn : w.current.kind = .returnKeyword
    · obtain ⟨n, rfl⟩ := exists_succ hstop (by rw [hreturn]; decide)
      obtain ⟨m, hparallel⟩ := closing_parallel h.slide hstop
      rw [statement_of_return hreturn,
        statement_of_return (hkind.trans hreturn), result_eq, result_eq,
        h.current]
      refine ⟨m + 1, .slide ?_⟩
      exact hparallel.map fun _ => rfl
    · obtain ⟨m, hparallel⟩ := closing_parallel h hstop
      rw [statement_of_ne hlet hreturn,
        statement_of_ne (hkind ▸ hlet) (hkind ▸ hreturn), bare_eq, bare_eq,
        h.current]
      exact ⟨m, hparallel.map fun _ => rfl⟩

end Window

end Monkey
