/-
Trees with other tokens. What a tree is made of is its constructors, its
operators, its names and its values; the tokens are kept beside them. Put
other tokens in their places (`Expr.retoken`), and the tree still groups its
operators as it did (`Expr.grouped_retoken`) and has the text that it had
(`Expr.text_retoken`). To move tokens elsewhere is a case of it
(`Expr.respan_eq_retoken`).
-/
import Monkey.Proofs.Tree.Respan
import Monkey.Tree.Display

namespace Monkey

/-- The name with another token. -/
def Identifier.retoken (f : Token → Token) (id : Identifier) : Identifier :=
  ⟨f id.token, id.name⟩

/-- The expression with each of its tokens replaced. -/
def Expr.retoken (f : Token → Token) : Expr → Expr
  | identifier id => identifier (id.retoken f)
  | integer t v => integer (f t) v
  | unary t op operand => unary (f t) op (operand.retoken f)
  | binary t op left right =>
      binary (f t) op (left.retoken f) (right.retoken f)

/-- The statement with each of its tokens replaced. -/
def Statement.retoken (f : Token → Token) : Statement → Statement
  | binding t name e => binding (f t) (name.retoken f) (e.retoken f)
  | result t e => result (f t) (e.retoken f)
  | expression t e => expression (f t) (e.retoken f)

/-- The expression in it has its tokens replaced. -/
theorem Statement.value_retoken (f : Token → Token) (s : Statement) :
    (s.retoken f).value = s.value.retoken f := by
  cases s <;> rfl

namespace Expr

variable (f : Token → Token) (e : Expr)

/-- Its tokens are those of the expression, each replaced. -/
theorem tokens_retoken : (e.retoken f).tokens = e.tokens.map f := by
  induction e with
  | identifier id => rfl
  | integer t v => rfl
  | unary t op operand ih => rw [retoken, tokens, tokens, ih, List.map_cons]
  | binary t op left right ihl ihr =>
      rw [retoken, tokens, tokens, ihl, ihr, List.map_append, List.map_cons]

@[simp] theorem operator?_retoken :
    (e.retoken f).operator? = e.operator? := by
  cases e <;> rfl

/-- Which operators stand in which does not depend on the tokens. -/
theorem grouped_retoken : (e.retoken f).Grouped ↔ e.Grouped := by
  induction e with
  | identifier id => rfl
  | integer t v => rfl
  | unary t op operand ih =>
      rw [retoken, Grouped, Grouped, ih, operator?_retoken]
  | binary t op left right ihl ihr =>
      rw [retoken, Grouped, Grouped, ihl, ihr, operator?_retoken,
        operator?_retoken]

/-- Nor does the text show them. -/
theorem text_retoken : (e.retoken f).text = e.text := by
  induction e with
  | identifier id => rfl
  | integer t v => rfl
  | unary t op operand ih => rw [retoken, text, text, ih]
  | binary t op left right ihl ihr => rw [retoken, text, text, ihl, ihr]

/-- The tokens elsewhere are other tokens. -/
theorem respan_eq_retoken (g : Token → Span) :
    e.respan g = e.retoken (.respan g) := by
  induction e with
  | identifier id => rfl
  | integer t v => rfl
  | unary t op operand ih => rw [respan, retoken, ih]
  | binary t op left right ihl ihr => rw [respan, retoken, ihl, ihr]

end Expr

end Monkey
