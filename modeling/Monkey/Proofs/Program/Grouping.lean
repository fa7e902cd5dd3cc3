/-
Every tree that is read groups its operators by precedence and to the
left (`ofSource_grouped`), whatever the source, and whether or not there
were errors around the tree.

Climbing keeps it so by what it lets wait (`Frame.Stacked`): a frame
binds tighter than what surrounds it, so once its operand is complete the
operation may stand there in turn. The operand itself must suit the
innermost frame (`Frame.Suits`), and closing a frame for an operator that
binds no tighter than it leaves an operand that suits the next.
-/
import Monkey.Program.Reading
import Monkey.Proofs.Program.Parts
import Monkey.Proofs.Program.Reach

namespace Monkey

-- =============================================================== levels

namespace BinaryOperator

/-- The operators between two operands, those that bind least tightly
first. Operators in one list bind equally tightly. -/
def levels : List (List BinaryOperator) :=
  [[equal, notEqual], [lessThan, greaterThan], [add, subtract],
    [multiply, divide]]

/-- How tightly an operator binds, as a place among the levels. -/
def level (op : BinaryOperator) : Nat := levels.findIdx (·.contains op)

/-- The precedences of operators are ordered as their levels are. -/
theorem precedence_le_iff (a b : BinaryOperator) :
    a.precedence ≤ b.precedence ↔ a.level ≤ b.level := by
  cases a <;> cases b <;> decide

end BinaryOperator

-- ====================================================== parts of a tree

namespace Expr

/-- Every expression inside this one, at any depth, and this one too. -/
def parts : Expr → List Expr
  | identifier id => [identifier id]
  | integer t v => [integer t v]
  | unary t op operand => unary t op operand :: operand.parts
  | binary t op left right =>
      binary t op left right :: (left.parts ++ right.parts)

/-- What is inside a grouped expression is grouped. -/
theorem Grouped.of_mem_parts {e p : Expr} (h : e.Grouped)
    (hp : p ∈ e.parts) : p.Grouped := by
  induction e with
  | identifier id => rwa [List.mem_singleton.1 hp]
  | integer t v => rwa [List.mem_singleton.1 hp]
  | unary t op operand ih =>
      rcases List.mem_cons.1 hp with rfl | hp
      · exact h
      · exact ih h.2 hp
  | binary t op left right ihl ihr =>
      rcases List.mem_cons.1 hp with rfl | hp
      · exact h
      · obtain ⟨-, -, hl, hr⟩ := h
        rcases List.mem_append.1 hp with hp | hp
        · exact ihl hl hp
        · exact ihr hr hp

end Expr

-- =============================================================== frames

namespace Frame

/-- An operand that may stand in the innermost of these frames: it groups
its operators, and its own binds tighter than the frame. -/
structure Suits (least : Precedence) (frames : List Frame) (e : Expr) :
    Prop where
  grouped : e.Grouped
  tighter : ∀ o ∈ e.operator?, threshold least frames < o.precedence

/-- Frames that wait inside one another: an operator between two operands
has a left one that it may have there, and binds tighter than what
surrounds it. -/
inductive Stacked (least : Precedence) : List Frame → Prop
  | nil : Stacked least []
  | unary {t : Token} {op : UnaryOperator} {rest : List Frame}
      (h : Stacked least rest) : Stacked least (unary t op :: rest)
  | binary {left : Expr} {t : Token} {op : BinaryOperator}
      {rest : List Frame} (hleft : left.Grouped)
      (hle : ∀ o ∈ left.operator?, op.precedence ≤ o.precedence)
      (hlt : threshold least rest < op.precedence)
      (h : Stacked least rest) : Stacked least (binary left t op :: rest)

variable {least : Precedence} {f : Frame} {frames rest : List Frame}
  {e : Expr}

/-- The frames behind the innermost. -/
theorem Stacked.tail (h : Stacked least (f :: rest)) :
    Stacked least rest := by
  cases h with
  | unary h => exact h
  | binary _ _ _ h => exact h

/-- What binds tighter than the innermost frame binds tighter than asked
for. -/
theorem Stacked.least_lt (h : Stacked least frames) {op : BinaryOperator}
    (hlt : threshold least frames < op.precedence) : least < op.precedence := by
  induction h generalizing op with
  | nil => exact hlt
  | unary => exact absurd hlt (Nat.lt_asymm op.precedence_lt_unary)
  | binary _ _ hrest _ ih => exact Nat.lt_trans (ih hrest) hlt

/-- A single token suits every frame. -/
theorem suits_of_operand {t : Token} (h : t.operand = .ok e) :
    e.operator? = none ∧ Suits least frames e := by
  cases Token.isOperand_iff.2 h with
  | name => exact ⟨rfl, trivial, by simp [Expr.operator?]⟩
  | numeral => exact ⟨rfl, trivial, by simp [Expr.operator?]⟩

/-- An operand that suits its frame makes an operation that suits the
next; its operator is that of the frame. -/
theorem Suits.close (hstacked : Stacked least (f :: rest))
    (h : Suits least (f :: rest) e) :
    Suits least rest (f.close e)
      ∧ ∀ o ∈ (f.close e).operator?, o.precedence = f.precedence := by
  cases hstacked with
  | unary =>
      have hnone : e.operator? = none := by
        cases ho : e.operator? with
        | none => rfl
        | some o =>
            have hlt : Precedence.unary < o.precedence := h.tighter o ho
            exact absurd hlt (Nat.lt_asymm o.precedence_lt_unary)
      exact ⟨⟨⟨hnone, h.grouped⟩, by simp [Frame.close, Expr.operator?]⟩,
        by simp [Frame.close, Expr.operator?]⟩
  | binary hleft hle hlt =>
      refine ⟨⟨⟨hle, h.tighter, hleft, h.grouped⟩, ?_⟩, ?_⟩
      · intro o ho
        cases ho
        exact hlt
      · intro o ho
        cases ho
        rfl

/-- All frames are closed into a grouped expression. -/
theorem Suits.closeAll (hstacked : Stacked least frames)
    (h : Suits least frames e) : Suits least [] (closeAll frames e) := by
  induction frames generalizing e with
  | nil => exact h
  | cons f rest ih => exact ih hstacked.tail (h.close hstacked).1

/-- Frames are closed for a token into an operand that suits what still
waits, and that the token may take as its left one. -/
theorem Suits.settle (next : Precedence) (hstacked : Stacked least frames)
    (h : Suits least frames e) (hle : ∀ o ∈ e.operator?, next ≤ o.precedence) :
    Stacked least (settle next frames e).1
      ∧ Suits least (settle next frames e).1 (settle next frames e).2
      ∧ ∀ o ∈ (settle next frames e).2.operator?, next ≤ o.precedence := by
  fun_induction Frame.settle next frames e with
  | case1 => exact ⟨hstacked, h, hle⟩
  | case2 => exact ⟨hstacked, h, hle⟩
  | case3 f rest e hnext ih =>
      obtain ⟨hsuits, hprecedence⟩ := h.close hstacked
      apply ih hstacked.tail hsuits
      intro o ho
      rw [hprecedence o ho]
      exact Nat.not_lt.1 hnext

/-- So it is where the operand is a single token, and an operator ahead. -/
theorem Stacked.settle_operand (h : Stacked least frames) {t : Token}
    {op : BinaryOperator} {waiting : List Frame} {left : Expr}
    (hoperand : t.operand = .ok e)
    (hsettle : settle op.precedence frames e = (waiting, left)) :
    Stacked least waiting ∧ Suits least waiting left
      ∧ ∀ o ∈ left.operator?, op.precedence ≤ o.precedence := by
  obtain ⟨hnone, hsuits⟩ := suits_of_operand hoperand
  have := Suits.settle op.precedence h hsuits (by simp [hnone])
  rwa [hsettle] at this

end Frame

-- ============================================================= climbing

namespace Window

open Monkey.Frame

variable {σ : Type} [TokenSupply σ] {least : Precedence}
  {frames : List Frame} {w w' : Window σ} {e : Expr}

/-- Whatever expression is read groups its operators, and its own binds
tighter than asked for. -/
theorem climb_suits (hstacked : Stacked least frames)
    (h : w.climb least frames = (.ok e, w')) : Suits least [] e := by
  fun_induction climb least frames w with
  | case1 frames w op hc ih => exact ih hstacked.unary h
  | case2 => cases h
  | case3 frames w hc operand hop ha =>
      cases h
      exact (suits_of_operand hop).2.closeAll hstacked
  | case4 frames w hc operand hop op ha waiting left hs hlt ih =>
      obtain ⟨hwaiting, hleft, hle⟩ := hstacked.settle_operand hop hs
      exact ih (.binary hleft.grouped hle hlt hwaiting) h
  | case5 frames w hc operand hop op ha waiting left hs hlt =>
      cases h
      -- a frame that waits would have let the operator in
      obtain rfl := waiting_eq_nil hs hlt
      exact (hstacked.settle_operand hop hs).2.1

/-- So does the expression that ends a statement. -/
theorem closing_grouped (h : w.closing.1 = .ok e) : e.Grouped := by
  rw [closing_fst] at h
  exact (climb_suits .nil (Prod.ext h rfl)).grouped

/-- And that of every statement of a program. -/
theorem statements_grouped (w : Window σ) :
    ∀ s ∈ w.statements.1, s.value.Grouped :=
  forall_statements (fun _ _ => closing_grouped) w

end Window

-- ============================================================== sources

/-- Precedence and associativity hold in every tree that is read, from any
source, with errors or without. An operation on the left of an operator
binds at least as tightly as it, one on the right more tightly, and none
between two operands stands right behind an operator in front of its
operand. -/
theorem ofSource_grouped {source : ByteSource} {s : Statement} {e : Expr}
    (hs : s ∈ (Program.ofSource source).program.statements)
    (he : e ∈ s.value.parts) :
    (∀ t op left right, e = .binary t op left right →
        (∀ o ∈ left.operator?, op.level ≤ o.level)
          ∧ (∀ o ∈ right.operator?, op.level < o.level))
      ∧ ∀ t op operand, e = .unary t op operand → operand.operator? = none := by
  have hgrouped := (Window.statements_grouped _ s hs).of_mem_parts he
  refine ⟨?_, ?_⟩
  · intro t op left right heq
    subst heq
    obtain ⟨hleft, hright, -, -⟩ := hgrouped
    refine ⟨?_, ?_⟩
    · intro o ho
      exact (op.precedence_le_iff o).1 (hleft o ho)
    · intro o ho
      rw [← Nat.not_le, ← o.precedence_le_iff op]
      exact Nat.not_le.2 (hright o ho)
  · intro t op operand heq
    subst heq
    exact hgrouped.1

/-- Two operators of one level in a source that fails behind them: the
first is on the left of the second. -/
theorem ofSource_grouped_subtract_subtract :
    let source := ByteSource.ofEvents [.data [0x61, 0x2D, 0x31],
      .data [0x2D, 0x62, 0x3B], .failed ⟨.other, none⟩]
    let place (n : Nat) : Position := ⟨n, 1, n + 1⟩
    let a : Token := ⟨.identifier, "a", ⟨place 0, place 1⟩⟩
    let b : Token := ⟨.identifier, "b", ⟨place 4, place 5⟩⟩
    let one : Token := ⟨.integer, "1", ⟨place 2, place 3⟩⟩
    let minus (n : Nat) : Token := ⟨.minus, "-", ⟨place n, place (n + 1)⟩⟩
    let left : Expr := .binary (minus 1) .subtract (.identifier ⟨a, "a"⟩)
      (.integer one 1)
    let e : Expr := .binary (minus 3) .subtract left (.identifier ⟨b, "b"⟩)
    (.expression a e ∈ (Program.ofSource source).program.statements
        ∧ e ∈ e.parts)
      ∧ ∀ o ∈ left.operator?, BinaryOperator.subtract.level ≤ o.level := by
  intro source place a b one minus left e
  have hs : .expression a e ∈ (Program.ofSource source).program.statements := by
    decide +kernel
  have he : e ∈ e.parts := List.mem_cons_self
  exact ⟨⟨hs, he⟩, ((ofSource_grouped hs he).1 _ _ _ _ rfl).1⟩

end Monkey
