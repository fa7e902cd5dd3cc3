/-
UTF-8 as a reader of single bytes meets it. A lead byte announces how
many continuation bytes follow it; the bytes together spell a number;
and the number is a character only if it is a scalar value that needs
that many bytes. So three questions are asked one after another, and
each has a function here: what a byte announces (`followers?`), whether
a byte continues a sequence (`isContinuation`), and which character a
complete sequence is (`decode?`).
-/
namespace Monkey.Text.Utf8

/-- The character that stands for every malformed sequence. -/
def replacement : Char := '\uFFFD'

/-- How many continuation bytes a lead byte announces; nothing if no
character starts with this byte. Bytes C0 and C1 would only start
overlong sequences, bytes from F5 on only numbers past the last
character. -/
def followers? (lead : UInt8) : Option Nat :=
  if lead < 0x80 then some 0
  else if lead < 0xC2 then none
  else if lead < 0xE0 then some 1
  else if lead < 0xF0 then some 2
  else if lead < 0xF5 then some 3
  else none

/-- Whether a byte is one of 80 to BF. -/
def isContinuation (b : UInt8) : Bool :=
  0x80 ≤ b && b < 0xC0

/-- The number that a lead byte and its continuation bytes spell: the
low bits of the lead byte, then six bits from each of the others. -/
def payload : List UInt8 → Nat
  | [a] => a.toNat
  | [a, b] => a.toNat % 32 * 64 + b.toNat % 64
  | [a, b, c] => (a.toNat % 16 * 64 + b.toNat % 64) * 64 + c.toNat % 64
  | [a, b, c, d] =>
      ((a.toNat % 8 * 64 + b.toNat % 64) * 64 + c.toNat % 64) * 64
        + d.toNat % 64
  | _ => 0

/-- The least number that needs a sequence of this length. -/
def leastPayload : Nat → Nat
  | 2 => 0x80
  | 3 => 0x800
  | 4 => 0x10000
  | _ => 0

/-- The character that a lead byte with all its continuation bytes
spells; nothing if a shorter sequence spells the same number, or the
number is a surrogate or past the last character. -/
def decode? (bytes : List UInt8) : Option Char :=
  let n := payload bytes
  if leastPayload bytes.length ≤ n ∧ n.isValidChar then
    some (Char.ofNat n)
  else none

/-- The bytes of a text. -/
def encode (text : List Char) : List UInt8 :=
  text.flatMap String.utf8EncodeChar

end Monkey.Text.Utf8
