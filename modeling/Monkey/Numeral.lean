/-
Decimal numerals for signed 64-bit values. A numeral is an optional sign
and at least one ASCII digit, with any number of leading zeros. Reading
goes from left to right and stops at the first thing wrong: a character
that is no digit, or a digit that takes the value out of range.
-/
namespace Monkey

/-- Why a text is not the numeral of a 64-bit value. -/
inductive NumeralFault where
  | empty
  | invalidDigit
  | tooLarge
  | tooSmall
deriving DecidableEq

/-- What a message says about the fault. -/
def NumeralFault.text : NumeralFault → String
  | .empty => "cannot parse integer from empty string"
  | .invalidDigit => "invalid digit found in string"
  | .tooLarge => "number too large to fit in target type"
  | .tooSmall => "number too small to fit in target type"

namespace Numeral

/-- The greatest signed 64-bit value. -/
def greatest : Int := 9223372036854775807

/-- The least signed 64-bit value. -/
def least : Int := -9223372036854775808

/-- Whether a character is an ASCII digit; the digits of other scripts
are not. -/
def isDigit (c : Char) : Bool :=
  '0' ≤ c && c ≤ '9'

/-- The value of an ASCII digit. -/
def digit? (c : Char) : Option Nat :=
  if isDigit c then some (c.toNat - '0'.toNat) else none

/-- Takes up digits one by one, each added to ten times the value so
far, or taken away from it after a minus sign. -/
def readDigits (negative : Bool) : Int → List Char → Except NumeralFault Int
  | value, [] => .ok value
  | value, c :: rest =>
      match digit? c with
      | none => .error .invalidDigit
      | some d =>
          let value' := if negative then value * 10 - d else value * 10 + d
          if greatest < value' then .error .tooLarge
          else if value' < least then .error .tooSmall
          else readDigits negative value' rest

/-- The value of a numeral. A sign without digits is an invalid digit,
not an empty text. -/
def read : List Char → Except NumeralFault Int
  | [] => .error .empty
  | ['+'] => .error .invalidDigit
  | ['-'] => .error .invalidDigit
  | '+' :: rest => readDigits false 0 rest
  | '-' :: rest => readDigits true 0 rest
  | digits => readDigits false 0 digits

end Numeral

end Monkey
