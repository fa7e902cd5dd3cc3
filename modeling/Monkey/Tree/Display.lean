/-
Trees as text. Every operation stands in parentheses, so that the text
shows how operators group and no reader has to know their precedences.
Bindings and results end with a semicolon; an expression by itself does
not; and statements follow one another without a separator.
-/
import Monkey.Tree.Basic

namespace Monkey

/-- An expression with all its parentheses. -/
def Expr.text : Expr → String
  | identifier id => id.name
  | integer _ value => toString value
  | unary _ op operand => "(" ++ op.text ++ operand.text ++ ")"
  | binary _ op left right =>
      "(" ++ left.text ++ " " ++ op.text ++ " " ++ right.text ++ ")"

/-- A statement. Its keyword is written as the source had it. -/
def Statement.text : Statement → String
  | binding t id e => t.literal ++ " " ++ id.name ++ " = " ++ e.text ++ ";"
  | result t e => t.literal ++ " " ++ e.text ++ ";"
  | expression _ e => e.text

/-- A program: its statements one after another. -/
def Program.text (p : Program) : String :=
  String.join (p.statements.map Statement.text)

end Monkey
