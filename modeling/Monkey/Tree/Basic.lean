/-
The trees that source text means. A program is a list of statements; a
statement binds a name, gives a result, or is an expression by itself.

Every node keeps the token it was read from, besides what it means: a
name, a value, an operator. The token tells where the node stands and
how it was spelled; nothing that a node means is read off it again.
-/
import Monkey.Operator
import Monkey.Token.Basic

namespace Monkey

/-- A name in a program. -/
structure Identifier where
  token : Token
  name : String
deriving DecidableEq

/-- A token as a name: its text is the name. -/
def Identifier.ofToken (t : Token) : Identifier := ⟨t, t.literal⟩

/-- Expressions. The token of an operation is its operator. -/
inductive Expr where
  | identifier (id : Identifier)
  | integer (token : Token) (value : Int)
  | unary (token : Token) (operator : UnaryOperator) (operand : Expr)
  | binary (token : Token) (operator : BinaryOperator) (left right : Expr)
deriving DecidableEq

/-- The token an expression keeps for itself. -/
def Expr.token : Expr → Token
  | identifier id => id.token
  | integer t _ => t
  | unary t _ _ => t
  | binary t _ _ _ => t

/-- Statements. The token of a binding or a result is its keyword, that
of an expression by itself is the first one it was read from. -/
inductive Statement where
  | binding (token : Token) (name : Identifier) (value : Expr)
  | result (token : Token) (value : Expr)
  | expression (token : Token) (value : Expr)
deriving DecidableEq

namespace Statement

/-- The token that opens a statement. -/
def token : Statement → Token
  | binding t _ _ => t
  | result t _ => t
  | expression t _ => t

/-- The expression in a statement. -/
def value : Statement → Expr
  | binding _ _ e => e
  | result _ e => e
  | expression _ e => e

end Statement

/-- A program: its statements in the order in which they stand. -/
structure Program where
  statements : List Statement
deriving DecidableEq

namespace Program

/-- Whether a program has no statement at all. -/
def isEmpty (p : Program) : Bool := p.statements.isEmpty

/-- The texts of the tokens that open the statements, one space
between. -/
def openings (p : Program) : String :=
  String.intercalate " " (p.statements.map (·.token.literal))

end Program

end Monkey
