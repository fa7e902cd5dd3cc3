/-
All tokens of a source, one after another.

The iterator (`Scanner.next?`) yields tokens up to the first end of
input or failure, which it still yields, and nothing from then on, even
if the source would go on. It does end: each yield uses up a character
or is the last. `Scanner.items` lists what it yields, and `tokenize`
gives the tokens of a text.
-/
import Monkey.Token.Scanner

namespace Monkey

namespace Scanner

-- ======================================================== the iterator

/-- The iterator: one token or failure at a time, up to the first end of
input or failure, which it still yields. -/
def next? (s : Scanner) : Option Item × Scanner :=
  if s.ended then (none, s)
  else
    match s.scan with
    | (.ok t, s') => (some (.ok t), { s' with ended := t.is .endOfInput })
    | (.error e, s') => (some (.error e), { s' with ended := true })

/-- How often the iterator can still yield. -/
def yieldsLeft (s : Scanner) : Nat := if s.ended then 0 else s.size + 1

/-- Every yield brings the iterator nearer to its end. -/
theorem yieldsLeft_next?_lt {s s' : Scanner} {item : Item}
    (h : s.next? = (some item, s')) : s'.yieldsLeft < s.yieldsLeft := by
  rw [next?] at h
  split at h
  · cases h
  · next hended =>
    split at h
    · next t s₁ htok =>
      cases h
      by_cases ht : t.kind = .endOfInput
      · simp [yieldsLeft, hended, Token.is, ht]
      · have := size_scan_lt htok ht
        simpa [yieldsLeft, hended, Token.is, ht, size] using this
    · cases h
      simp [yieldsLeft, hended]

/-- Everything the iterator still yields, and the scanner at its end. -/
def items (s : Scanner) : List Item × Scanner :=
  match _h : s.next? with
  | (none, s') => ([], s')
  | (some item, s') =>
      let later := s'.items
      (item :: later.1, later.2)
termination_by s.yieldsLeft
decreasing_by exact yieldsLeft_next?_lt _h

end Scanner

-- ====================================================== tokens of a text

/-- The tokens of a list of items, or the first failure among them. -/
def collect : List Item → Except ScanError (List Token)
  | [] => .ok []
  | .error e :: _ => .error e
  | .ok t :: rest =>
      match collect rest with
      | .ok ts => .ok (t :: ts)
      | .error e => .error e

/-- The tokens of a text, the end of the input included. -/
def tokenize (text : String) : Except ScanError (List Token) :=
  collect (Scanner.ofText text).items.1

end Monkey
