/-
A text behind another one. Where it follows on a first text, everything
in a text stands elsewhere: bytes and lines are counted on from where the
first text ends, and so are the columns, but only in the line in which it
ends (`Position.relocate`). Nothing else changes: a text is cut in the
same way wherever it starts (`Cuts.relocate`).
-/
import Monkey.Proofs.Token.Lossless
import Monkey.Proofs.Tree.Respan

namespace Monkey

-- ============================================================ positions

namespace Position

/-- Where a position of a text is if the text starts at `base`. The bytes
and the lines before it are added; the columns only of the first line. -/
def relocate (base p : Position) : Position where
  offset := base.offset + p.offset
  line := base.line + (p.line - 1)
  column := if p.line = 1 then base.column + (p.column - 1) else p.column

/-- Lines and columns are counted from one. -/
def Counted (p : Position) : Prop := 1 ≤ p.line ∧ 1 ≤ p.column

theorem counted_origin : origin.Counted := ⟨Nat.le_refl _, Nat.le_refl _⟩

/-- So they are behind another character. -/
theorem Counted.after {p : Position} (h : p.Counted) (c : Char) :
    (p.after c).Counted := by
  obtain ⟨hline, hcolumn⟩ := h
  unfold Position.after
  split
  · exact ⟨Nat.le_add_left _ _, Nat.le_refl _⟩
  · exact ⟨hline, Nat.le_add_left _ _⟩

/-- And behind any number of characters. -/
theorem Counted.afterAll {p : Position} (h : p.Counted) (cs : List Char) :
    (p.afterAll cs).Counted := by
  induction cs generalizing p with
  | nil => exact h
  | cons c cs ih => exact ih (h.after c)

/-- The text itself starts at the base. -/
theorem relocate_origin (base : Position) : base.relocate origin = base :=
  rfl

/-- Passing a character goes alike in both places. -/
theorem relocate_after (base : Position) {p : Position} (h : p.Counted)
    (c : Char) : base.relocate (p.after c) = (base.relocate p).after c := by
  obtain ⟨hline, hcolumn⟩ := h
  unfold after
  split
  · simp only [relocate, Position.mk.injEq]
    refine ⟨Nat.add_assoc _ _ _ |>.symm, by omega, if_neg (by omega)⟩
  · simp only [relocate, Position.mk.injEq, true_and]
    refine ⟨Nat.add_assoc _ _ _ |>.symm, ?_⟩
    split <;> omega

/-- So does passing any number of characters. -/
theorem relocate_afterAll (base : Position) {p : Position} (h : p.Counted)
    (cs : List Char) :
    base.relocate (p.afterAll cs) = (base.relocate p).afterAll cs := by
  induction cs generalizing p with
  | nil => rfl
  | cons c cs ih =>
      rw [afterAll_cons, ih (h.after c), relocate_after base h, afterAll_cons]

/-- Where the text behind this one starts. -/
def behind (text : String) : Position := origin.afterAll text.toList

/-- The span of a token, with both its ends relocated. -/
def relocation (base : Position) (t : Token) : Span :=
  ⟨base.relocate t.span.start, base.relocate t.span.stop⟩

end Position

-- ================================================================= cuts

open Position

/-- Wherever a text starts, it is cut into the same tokens. -/
theorem Cuts.relocate {p : Position} {text : List Char} {ts : List Token}
    {e : Token} (base : Position) (hp : p.Counted) (h : Cuts p text ts e) :
    Cuts (base.relocate p) text (ts.map (.respan base.relocation))
      (e.respan base.relocation) := by
  induction h with
  | @ended p text hblanks =>
      have hcut : Cuts (base.relocate p) text [] _ := .ended hblanks
      rw [← relocate_afterAll base hp] at hcut
      exact hcut
  | @token p kind blanks word rest ts e hblanks hlexeme _ ih =>
      have hlater := ih (hp.afterAll _)
      rw [relocate_afterAll base hp] at hlater
      have hcut := Cuts.token hblanks hlexeme hlater
      rw [← relocate_afterAll base hp, ← relocate_afterAll base hp] at hcut
      exact hcut

end Monkey
