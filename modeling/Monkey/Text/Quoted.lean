/-
Quoted text: how a message shows a string so that it stays on one line
and every character of it can be told apart. The string stands between
double quotes. Five characters and the backslash have two-character
escapes, any other unprintable character is given by its code point, and
all else stands as it is; a single quote needs no escape.
-/
import Monkey.Text.Unprintable

namespace Monkey.Text

/-- One character as it stands between the quotes. A code point is in
lower-case hexadecimal, without leading zeros, in braces. -/
def escape (c : Char) : List Char :=
  if c = '\x00' then ['\\', '0']
  else if c = '\t' then ['\\', 't']
  else if c = '\n' then ['\\', 'n']
  else if c = '\r' then ['\\', 'r']
  else if c = '\x22' then ['\\', '\x22']
  else if c = '\\' then ['\\', '\\']
  else if isUnprintable c then
    ['\\', 'u', '\x7b'] ++ Nat.toDigits 16 c.toNat ++ ['\x7d']
  else [c]

/-- A string in double quotes, each character escaped as it needs. -/
def quoted (s : String) : String :=
  String.ofList (['\x22'] ++ s.toList.flatMap escape ++ ['\x22'])

end Monkey.Text
