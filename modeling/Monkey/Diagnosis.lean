/-
What is wrong with a program, and how it is reported. An error is a
cause at a token. A parse goes on after an error, so it ends with a list
of them, in the order in which they were found; the report of the list
begins a new line for each error.
-/
import Monkey.Numeral
import Monkey.Token.Item

namespace Monkey

-- =============================================================== causes

/-- Why a stretch of tokens is not a statement. A failure of the source
is kept as its kind and its text. -/
inductive Cause where
  | unexpectedToken (expected found : TokenKind)
  | noOperand (kind : TokenKind)
  | notAnOperator (kind : TokenKind)
  | invalidInteger (literal : String) (fault : NumeralFault)
  | readFailed (kind : FailureKind) (text : String)
deriving DecidableEq

namespace Cause

/-- A failed read as a cause. -/
def ofScanError (e : ScanError) : Cause :=
  .readFailed e.failure.kind e.failure.text

/-- What a message says about a cause. -/
def text : Cause → String
  | unexpectedToken expected found =>
      "expected token type " ++ expected.label ++ " but got " ++ found.label
  | noOperand kind => "no prefix parse rule for token " ++ kind.label
  | notAnOperator kind =>
      "token " ++ kind.label ++ " is not an infix operator"
  | invalidInteger literal fault =>
      "invalid integer literal " ++ Text.quoted literal ++ ": " ++ fault.text
  | readFailed _ text => "failed to read source: " ++ text

/-- The text of a cause, and of what lies behind it. -/
def chain : Cause → List String
  | c@(invalidInteger _ fault) => [c.text, fault.text]
  | c => [c.text]

end Cause

-- =============================================================== errors

/-- A cause, and the token at which it was found. -/
structure ParseError where
  cause : Cause
  token : Token
deriving DecidableEq

namespace ParseError

/-- The message of an error. -/
def text (e : ParseError) : String :=
  "invalid program at " ++ e.token.text ++ ": " ++ e.cause.text

/-- The texts of the error and of its causes, outermost first. -/
def chain (e : ParseError) : List String := e.text :: e.cause.chain

end ParseError

/-- What can be pinned to a token. -/
class Pinned (α : Type) where
  /-- Pins to a token what is not pinned yet. -/
  pin : α → Token → ParseError

/-- A cause is pinned to the token at which it is found. -/
instance : Pinned Cause := ⟨fun c t => ⟨c, t⟩⟩

/-- An error stays pinned to its own token. -/
instance : Pinned ParseError := ⟨fun e _ => e⟩

-- =============================================================== reports

/-- The errors of one parse, in the order in which they were found. -/
abbrev Diagnosis := List ParseError

namespace Diagnosis

/-- The messages of all errors, each on a new line. -/
def text (errors : Diagnosis) : String :=
  String.intercalate "\n" (errors.map ParseError.text)

/-- A diagnosis without errors is a success; with errors it is what went
wrong. -/
def toResult (errors : Diagnosis) : Except Diagnosis Unit :=
  if errors.isEmpty then .ok () else .error errors

end Diagnosis

end Monkey
