/-
Where a parser gets its tokens from. A supply hands out one token at a
time, or fails. All that is asked of it is that tokens other than the
end of the input run out: each makes the supply smaller.

A scanner is a supply, and so is a list of tokens and failures, which
behind its last item is at the end of the input.
-/
import Monkey.Token.Scanner

namespace Monkey

/-- A supply of tokens. -/
class TokenSupply (σ : Type) where
  /-- The next token or failure, and the supply behind it. -/
  next : σ → Item × σ
  /-- An upper bound for the tokens still to come before the end. -/
  size : σ → Nat
  /-- Every token but the end of the input makes the supply smaller. -/
  size_next_lt : ∀ {s s' : σ} {t : Token},
    next s = (.ok t, s') → t.kind ≠ .endOfInput → size s' < size s

/-- A scanner hands out the tokens of its source. -/
instance : TokenSupply Scanner where
  next := Scanner.scan
  size := Scanner.size
  size_next_lt := Scanner.size_scan_lt

/-- The first item of a list and the rest; an empty list is at the end
of the input. -/
def nextItem : List Item → Item × List Item
  | [] => (.ok (.endOfInput .origin), [])
  | item :: rest => (item, rest)

/-- A list hands out its items. -/
instance : TokenSupply (List Item) where
  next := nextItem
  size := List.length
  size_next_lt := by
    intro s s' t h ht
    cases s with
    | nil => cases h; exact absurd rfl ht
    | cons item rest => cases h; simp

end Monkey
