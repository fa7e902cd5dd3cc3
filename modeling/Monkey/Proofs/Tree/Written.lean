/-
How trees are written down as tokens: an expression in the order in which
its tokens stand (`Expr.tokens`), a statement with its keyword, name and
equals sign around it (`Statement.Written`), and statements one after
another, each with or without a semicolon (`Statement.WrittenAll`).

Two things make such a writing readable again. The tree groups its
operators by precedence and to the left (`Expr.Grouped`), since there are
no parentheses; and every token says what its node means
(`Expr.Fits`).
-/
import Monkey.Proofs.Numeral
import Monkey.Tree.Basic

namespace Monkey

-- ========================================================== expressions

namespace Expr

/-- The tokens of an expression in the order in which they stand. -/
def tokens : Expr → List Token
  | identifier id => [id.token]
  | integer t _ => [t]
  | unary t _ operand => t :: operand.tokens
  | binary t _ left right => left.tokens ++ t :: right.tokens

/-- The outermost operator, where it stands between two operands. -/
def operator? : Expr → Option BinaryOperator
  | binary _ op _ _ => some op
  | _ => none

/-- The operators group by precedence and to the left: on the left of an
operator stands none that binds less tightly, on its right only such as
bind more tightly, and none between two operands stands right behind one
in front of its operand. -/
def Grouped : Expr → Prop
  | identifier _ => True
  | integer _ _ => True
  | unary _ _ operand => operand.operator? = none ∧ operand.Grouped
  | binary _ op left right =>
      (∀ o ∈ left.operator?, op.precedence ≤ o.precedence)
        ∧ (∀ o ∈ right.operator?, op.precedence < o.precedence)
        ∧ left.Grouped ∧ right.Grouped

/-- Every token says what its node means: a name its own text, an integer
the 64-bit value that its digits denote, and an operation its
operator. -/
def Fits : Expr → Prop
  | identifier id =>
      id.token.kind = .identifier ∧ id.token.literal = id.name
  | integer t v =>
      t.kind = .integer ∧ t.literal ≠ ""
        ∧ (∀ c ∈ t.literal.toList, Numeral.isDigit c = true)
        ∧ v = Numeral.value t.literal.toList ∧ v ≤ Numeral.greatest
  | unary t op operand =>
      UnaryOperator.ofKind? t.kind = some op ∧ operand.Fits
  | binary t op left right =>
      BinaryOperator.ofKind? t.kind = some op ∧ left.Fits ∧ right.Fits

instance decidableGrouped : DecidablePred Grouped
  | identifier _ => isTrue trivial
  | integer _ _ => isTrue trivial
  | unary _ _ operand =>
      have := decidableGrouped operand
      inferInstanceAs (Decidable (_ ∧ _))
  | binary _ _ left right =>
      have := decidableGrouped left
      have := decidableGrouped right
      inferInstanceAs (Decidable (_ ∧ _))

instance decidableFits : DecidablePred Fits
  | identifier _ => inferInstanceAs (Decidable (_ ∧ _))
  | integer t _ =>
      -- digit by digit of the literal, not over all characters
      have := List.decidableBAll (Numeral.isDigit · = true) t.literal.toList
      inferInstanceAs (Decidable (_ ∧ _))
  | unary _ _ operand =>
      have := decidableFits operand
      inferInstanceAs (Decidable (_ ∧ _))
  | binary _ _ left right =>
      have := decidableFits left
      have := decidableFits right
      inferInstanceAs (Decidable (_ ∧ _))

/-- An expression has a first token. -/
theorem exists_tokens_eq_cons (e : Expr) : ∃ t ts, e.tokens = t :: ts := by
  induction e with
  | identifier id => exact ⟨_, _, rfl⟩
  | integer t v => exact ⟨_, _, rfl⟩
  | unary t op operand ih => exact ⟨_, _, rfl⟩
  | binary t op left right ihl ihr =>
      obtain ⟨u, us, hu⟩ := ihl
      exact ⟨u, us ++ t :: right.tokens, by rw [tokens, hu, List.cons_append]⟩

/-- The first token of an expression is a name, an integer or an operator
in front of an operand. -/
theorem Fits.kind_head {e : Expr} (h : e.Fits) {t : Token}
    (ht : e.tokens.head? = some t) :
    t.kind = .identifier ∨ t.kind = .integer ∨ t.kind = .bang
      ∨ t.kind = .minus := by
  induction e with
  | identifier id => cases ht; exact Or.inl h.1
  | integer u v => cases ht; exact Or.inr (Or.inl h.1)
  | unary u op operand ih =>
      cases ht
      have hop := h.1
      unfold UnaryOperator.ofKind? at hop
      split at hop <;> simp_all
  | binary u op left right ihl ihr =>
      obtain ⟨v, vs, hv⟩ := left.exists_tokens_eq_cons
      apply ihl h.2.1
      rw [tokens, hv] at ht
      rw [hv]
      exact ht

end Expr

-- =========================================================== statements

namespace Statement

/-- A statement written down without a semicolon. -/
inductive Written : Statement → List Token → Prop
  | binding {t equals : Token} {name : Identifier} {e : Expr}
      (ht : t.kind = .letKeyword) (hname : name.token.kind = .identifier)
      (htext : name.token.literal = name.name)
      (hequals : equals.kind = .assign) :
      Written (.binding t name e) (t :: name.token :: equals :: e.tokens)
  | result {t : Token} {e : Expr} (ht : t.kind = .returnKeyword) :
      Written (.result t e) (t :: e.tokens)
  | expression {t : Token} {e : Expr} (ht : e.tokens.head? = some t) :
      Written (.expression t e) e.tokens

/-- Statements written down one after another. Any of them may have a
semicolon behind it, and one must if the next is an expression that
starts with a minus sign, which would go on with this one. -/
inductive WrittenAll : List Statement → List Token → Prop
  | nil : WrittenAll [] []
  | closed {s : Statement} {ss : List Statement} {ts us : List Token}
      {semicolon : Token} (hs : s.Written ts)
      (hsemicolon : semicolon.kind = .semicolon) (later : WrittenAll ss us) :
      WrittenAll (s :: ss) (ts ++ semicolon :: us)
  | bare {s : Statement} {ss : List Statement} {ts us : List Token}
      (hs : s.Written ts)
      (hnext : ∀ t e, ss.head? = some (.expression t e) → t.kind ≠ .minus)
      (later : WrittenAll ss us) : WrittenAll (s :: ss) (ts ++ us)

/-- What is left behind a statement once a semicolon that ends it is
passed. -/
inductive Closes : List Token → List Token → Prop
  | semicolon {t : Token} {rest : List Token} (h : t.kind = .semicolon) :
      Closes (t :: rest) rest
  | bare {rest : List Token}
      (h : ∀ t, rest.head? = some t → t.kind ≠ .semicolon) :
      Closes rest rest

/-- A written statement has a first token. -/
theorem Written.exists_eq_cons {s : Statement} {ts : List Token}
    (h : s.Written ts) : ∃ t us, ts = t :: us := by
  cases h with
  | binding => exact ⟨_, _, rfl⟩
  | result => exact ⟨_, _, rfl⟩
  | @expression t e _ => exact e.exists_tokens_eq_cons

/-- It is also the first of all tokens from there on. -/
theorem Written.head?_append {s : Statement} {ts : List Token}
    (h : s.Written ts) (us : List Token) : (ts ++ us).head? = ts.head? := by
  obtain ⟨t, vs, rfl⟩ := h.exists_eq_cons
  rfl

end Statement

end Monkey
