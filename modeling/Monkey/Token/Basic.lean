/-
Tokens: a kind, the text it was cut from, and where that text stands.
-/
import Monkey.Position
import Monkey.Text.Quoted
import Monkey.Token.Kind

namespace Monkey

/-- One token of a source. -/
structure Token where
  kind : TokenKind
  literal : String
  span : Span
deriving DecidableEq

namespace Token

/-- The token at the end of a source; it has no text. -/
def endOfInput (span : Span) : Token := ⟨.endOfInput, "", span⟩

/-- Whether a token is of this kind. -/
def is (t : Token) (kind : TokenKind) : Bool := t.kind = kind

/-- How messages show a token: its kind, its text in quotes, and the
line and column where it starts. -/
def text (t : Token) : String :=
  t.kind.label ++ " " ++ Text.quoted t.literal ++ " at " ++ t.span.text

end Token

end Monkey
