/-
What asking for a token gives: the token, or the reason why it could not
be read. A source may fail before a token starts or in the middle of it;
what was read of the token is lost, and the error keeps where that
stood.
-/
import Monkey.Source.Failure
import Monkey.Token.Basic

namespace Monkey

/-- A token that could not be read because its source failed. The span
covers what was read of it. -/
structure ScanError where
  span : Span
  failure : ReadFailure
deriving DecidableEq

namespace ScanError

/-- What a message says about the failure. -/
def text (e : ScanError) : String :=
  "failed to read source at " ++ e.span.text ++ ": " ++ e.failure.text

/-- The texts of the error and of its cause. -/
def chain (e : ScanError) : List String := [e.text, e.failure.text]

end ScanError

/-- One answer to the question for the next token. -/
abbrev Item := Except ScanError Token

end Monkey
