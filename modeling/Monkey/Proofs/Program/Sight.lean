/-
What a window has before it: the tokens that are still to be read, the
current one first, and the item that ends them (`Window.Sees`). Moving on
drops the first of them, and nothing else is ever done to a window while
a statement is read; so where reading has come to is told by how often it
moved on (`Window.slides`).
-/
import Monkey.Program.Window
import Monkey.Proofs.Token.Hands

namespace Monkey

/-- The token behind all others: the end of the input, or the one that
stands in for it where the supply failed. -/
def Item.closing : Item → Token
  | .ok e => e
  | .error e => .endOfInput e.span

/-- What ends a supply stands for the end of the input. -/
theorem Hands.kind_closing {σ : Type} [TokenSupply σ] {s : σ}
    {ts : List Token} {last : Item} (h : Hands s ts last) :
    last.closing.kind = .endOfInput := by
  induction h with
  | ended _ he => exact he
  | failed => rfl
  | token _ _ _ ih => exact ih

namespace Window

variable {σ : Type} [TokenSupply σ]

/-- The window stands before these tokens, the current one first, and
this last item. -/
structure Sees (w : Window σ) (ts : List Token) (last : Item) : Prop where
  current : w.current = ts.headD last.closing
  ahead : w.ahead = ts.tail.headD last.closing
  tokens : ∀ t ∈ ts, t.kind ≠ .endOfInput
  closing : last.closing.kind = .endOfInput
  supply : 2 ≤ ts.length → Hands w.supply (ts.drop 2) last

/-- The window after moving on so many times. -/
def slides (w : Window σ) : Nat → Window σ
  | 0 => w
  | n + 1 => w.slide.slides n

@[simp] theorem slides_zero (w : Window σ) : w.slides 0 = w := rfl

@[simp] theorem slides_succ (w : Window σ) (n : Nat) :
    w.slides (n + 1) = w.slide.slides n := rfl

/-- Moving on twice in a row. -/
theorem slides_add (w : Window σ) (m n : Nat) :
    w.slides (m + n) = (w.slides m).slides n := by
  induction m generalizing w with
  | zero => rw [Nat.zero_add, slides_zero]
  | succ m ih => rw [Nat.succ_add, slides_succ, slides_succ, ih]

/-- Moving on once more. -/
theorem slide_slides (w : Window σ) (n : Nat) :
    (w.slides n).slide = w.slides (n + 1) :=
  (slides_add w n 1).symm

-- ============================================================= moving on

/-- The token that was ahead is the current one next. -/
theorem current_slide (w : Window σ) : w.slide.current = w.ahead := by
  unfold slide
  split
  · rfl
  · unfold pull
    split <;> rfl

/-- What is pulled from a supply is the first of what it hands out. -/
theorem pull_of_hands {w : Window σ} {ts : List Token} {last : Item}
    (h : Hands w.supply ts last) :
    w.pull.current = w.ahead ∧ w.pull.ahead = ts.headD last.closing
      ∧ (ts ≠ [] → Hands w.pull.supply ts.tail last) := by
  cases h with
  | ended h => simp [pull, h, Item.closing]
  | failed h => simp [pull, h, addError, Item.closing]
  | token h ht later => simpa [pull, h] using later

/-- With the end ahead, moving on repeats it. -/
theorem slide_of_end {w : Window σ} (h : w.ahead.kind = .endOfInput) :
    w.slide = { w with current := w.ahead } := by
  rw [slide, if_pos (by simpa [Token.is] using h)]

/-- With a token ahead, moving on pulls the next one. -/
theorem slide_of_token {w : Window σ} (h : w.ahead.kind ≠ .endOfInput) :
    w.slide = w.pull := by
  rw [slide, if_neg (by simpa [Token.is] using h)]

namespace Sees

variable {w : Window σ} {ts : List Token} {last : Item}

/-- Moving on drops the first token. -/
theorem slide (h : w.Sees ts last) : w.slide.Sees ts.tail last := by
  match ts, h with
  | [], h | [t], h =>
      rw [slide_of_end (h.ahead ▸ h.closing)]
      exact ⟨h.ahead, h.ahead, by simp, h.closing, by simp⟩
  | t :: u :: ts, h =>
      rw [slide_of_token (h.ahead ▸ h.tokens u (by simp))]
      obtain ⟨hcurrent, hahead, hsupply⟩ :=
        pull_of_hands (h.supply (by simp))
      refine ⟨hcurrent.trans h.ahead, hahead,
        (List.forall_mem_cons.1 h.tokens).2, h.closing, ?_⟩
      intro hlen
      have hne := List.ne_nil_of_length_pos (Nat.lt_of_succ_lt_succ hlen)
      simpa using hsupply hne

/-- Moving on any number of times drops as many. -/
theorem slides (h : w.Sees ts last) (n : Nat) :
    (w.slides n).Sees (ts.drop n) last := by
  induction n generalizing w ts with
  | zero => exact h
  | succ n ih =>
      rw [← List.drop_tail]
      exact ih h.slide

/-- A recorded error changes nothing of what is before the window. -/
theorem addError (h : w.Sees ts last) (e : ParseError) :
    (w.addError e).Sees ts last :=
  ⟨h.current, h.ahead, h.tokens, h.closing, h.supply⟩

/-- A current token is the first of the tokens. -/
theorem eq_cons (h : w.Sees ts last) (hc : w.current.kind ≠ .endOfInput) :
    ts = w.current :: ts.tail := by
  cases ts with
  | nil => exact absurd (h.current ▸ h.closing) hc
  | cons t ts => rw [h.current, List.headD_cons, List.tail_cons]

/-- A token ahead is the second of them. -/
theorem tail_eq_cons (h : w.Sees ts last) (ha : w.ahead.kind ≠ .endOfInput) :
    ts.tail = w.ahead :: ts.tail.tail := by
  have htail := h.slide.eq_cons (by rwa [current_slide])
  rwa [current_slide] at htail

/-- There is a current token as long as there are tokens. -/
theorem current_eq_endOfInput_iff (h : w.Sees ts last) :
    w.current.kind = .endOfInput ↔ ts = [] := by
  rw [h.current]
  cases ts with
  | nil => simpa using h.closing
  | cons t ts => simpa using h.tokens t (by simp)

end Sees

-- ========================================================= the beginning

/-- Before anything is pulled from a supply, ends of the input fill the
window. -/
def blank (s : σ) : Window σ :=
  ⟨.endOfInput .origin, .endOfInput .origin, s, []⟩

/-- A program begins two tokens further. -/
theorem start_eq (s : σ) : start s = (blank s).pull.slide := rfl

/-- At the beginning of a supply all that it hands out is before the
window. -/
theorem sees_start {s : σ} {ts : List Token} {last : Item}
    (h : Hands s ts last) : (start s).Sees ts last := by
  have hblank : Hands (blank s).supply ts last := h
  obtain ⟨-, hahead, hsupply⟩ := pull_of_hands hblank
  have htokens := h.ne_endOfInput
  have hclosing := h.kind_closing
  rw [start_eq]
  cases ts with
  | nil =>
      rw [slide_of_end (hahead ▸ hclosing)]
      exact ⟨hahead, hahead, by simp, hclosing, by simp⟩
  | cons t ts =>
      rw [slide_of_token (hahead ▸ htokens t (by simp))]
      obtain ⟨hcurrent, hahead', hsupply'⟩ := pull_of_hands (hsupply (by simp))
      refine ⟨hcurrent.trans hahead, hahead', htokens, hclosing, ?_⟩
      intro hlen
      have hne := List.ne_nil_of_length_pos (Nat.lt_of_succ_lt_succ hlen)
      simpa using hsupply' hne

end Window

end Monkey
