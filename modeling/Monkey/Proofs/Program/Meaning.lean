/-
What stands in a tree is what its tokens say (`Expr.Meant`): a tree that is
read is made of operands and operators, each read off its own token, and
nothing else makes a tree or changes one. Climbing keeps it so of the frames
that wait (`Frame.Meant`), and closing a frame puts what is in it and its
operand together.

So the tree and its tokens have the same integers: one inside the tree is a
token of it (`Expr.Meant.of_mem_parts`), and one among the tokens is inside
the tree (`Expr.Meant.exists_mem_parts`).
-/
import Monkey.Proofs.Program.Grouping

namespace Monkey

-- =============================================================== trees

namespace Expr

/-- Every node is what its own token says: a name or an integer is its token
as an operand, and an operation has the operator of its token. -/
def Meant : Expr → Prop
  | identifier id => id.token.operand = .ok (identifier id)
  | integer t v => t.operand = .ok (integer t v)
  | unary t op operand =>
      UnaryOperator.ofKind? t.kind = some op ∧ operand.Meant
  | binary t op left right =>
      BinaryOperator.ofKind? t.kind = some op ∧ left.Meant ∧ right.Meant

/-- Whatever is an operand means what its token says. -/
theorem meant_of_operand {t : Token} {e : Expr} (h : t.operand = .ok e) :
    e.Meant := by
  cases Token.isOperand_iff.2 h with
  | name => exact h
  | numeral => exact h

/-- An integer inside an expression is one of its tokens as an operand. -/
theorem Meant.of_mem_parts {e : Expr} (h : e.Meant) {t : Token} {v : Int}
    (hp : integer t v ∈ e.parts) :
    t ∈ e.tokens ∧ t.operand = .ok (integer t v) := by
  induction e with
  | identifier id => cases List.mem_singleton.1 hp
  | integer u w =>
      cases List.mem_singleton.1 hp
      exact ⟨List.mem_cons_self, h⟩
  | unary u op operand ih =>
      rcases List.mem_cons.1 hp with hp | hp
      · cases hp
      · obtain ⟨hmem, hoperand⟩ := ih h.2 hp
        exact ⟨List.mem_cons_of_mem _ hmem, hoperand⟩
  | binary u op left right ihl ihr =>
      obtain ⟨-, hl, hr⟩ := h
      rcases List.mem_cons.1 hp with hp | hp
      · cases hp
      · rcases List.mem_append.1 hp with hp | hp
        · obtain ⟨hmem, hoperand⟩ := ihl hl hp
          exact ⟨List.mem_append_left _ hmem, hoperand⟩
        · obtain ⟨hmem, hoperand⟩ := ihr hr hp
          exact ⟨List.mem_append_right _ (List.mem_cons_of_mem _ hmem),
            hoperand⟩

/-- An integer among the tokens of an expression is an integer inside it. -/
theorem Meant.exists_mem_parts {e : Expr} (h : e.Meant) {t : Token}
    (ht : t ∈ e.tokens) (hkind : t.kind = .integer) :
    ∃ v, integer t v ∈ e.parts := by
  induction e with
  | identifier id =>
      obtain rfl := List.mem_singleton.1 ht
      obtain ⟨hname, -⟩ := Token.operand_eq_identifier h
      cases hname.symm.trans hkind
  | integer u w =>
      obtain rfl := List.mem_singleton.1 ht
      exact ⟨w, List.mem_cons_self⟩
  | unary u op operand ih =>
      obtain ⟨hop, hoperand⟩ := h
      rcases List.mem_cons.1 ht with rfl | ht
      · rw [hkind] at hop
        cases hop
      · obtain ⟨v, hv⟩ := ih hoperand ht
        exact ⟨v, List.mem_cons_of_mem _ hv⟩
  | binary u op left right ihl ihr =>
      obtain ⟨hop, hl, hr⟩ := h
      rcases List.mem_append.1 ht with ht | ht
      · obtain ⟨v, hv⟩ := ihl hl ht
        exact ⟨v, List.mem_cons_of_mem _ (List.mem_append_left _ hv)⟩
      · rcases List.mem_cons.1 ht with rfl | ht
        · rw [hkind] at hop
          cases hop
        · obtain ⟨v, hv⟩ := ihr hr ht
          exact ⟨v, List.mem_cons_of_mem _ (List.mem_append_right _ hv)⟩

end Expr

namespace Frame

/-- A waiting operation means what its token says, as far as it is there. -/
def Meant : Frame → Prop
  | unary t op => UnaryOperator.ofKind? t.kind = some op
  | binary left t op => left.Meant ∧ BinaryOperator.ofKind? t.kind = some op

/-- With its operand it does altogether. -/
theorem meant_close {f : Frame} {e : Expr} (hf : f.Meant) (he : e.Meant) :
    (f.close e).Meant := by
  cases f with
  | unary t op => exact ⟨hf, he⟩
  | binary left t op => exact ⟨hf.2, hf.1, he⟩

/-- So do all frames that are closed. -/
theorem meant_closeAll {frames : List Frame} {e : Expr}
    (hframes : ∀ f ∈ frames, f.Meant) (he : e.Meant) :
    (closeAll frames e).Meant := by
  induction frames generalizing e with
  | nil => exact he
  | cons f rest ih =>
      obtain ⟨hf, hrest⟩ := List.forall_mem_cons.1 hframes
      exact ih hrest (meant_close hf he)

/-- And those that are closed before a token, and those that are not. -/
theorem meant_settle (next : Precedence) {frames : List Frame} {e : Expr}
    (hframes : ∀ f ∈ frames, f.Meant) (he : e.Meant) :
    (∀ f ∈ (settle next frames e).1, f.Meant)
      ∧ (settle next frames e).2.Meant := by
  fun_induction settle next frames e with
  | case1 => exact ⟨hframes, he⟩
  | case2 => exact ⟨hframes, he⟩
  | case3 f rest e hlt ih =>
      obtain ⟨hf, hrest⟩ := List.forall_mem_cons.1 hframes
      exact ih hrest (meant_close hf he)

end Frame

namespace Window

open Monkey.Frame

variable {σ : Type} [TokenSupply σ] {w : Window σ} {e : Expr}

/-- An expression that was read means what its tokens say. -/
theorem climb_meant {least : Precedence} {frames : List Frame}
    (hframes : ∀ f ∈ frames, f.Meant)
    (h : (w.climb least frames).1 = .ok e) : e.Meant := by
  fun_induction climb least frames w with
  | case1 frames w op hc ih =>
      exact ih (List.forall_mem_cons.2 ⟨hc, hframes⟩) h
  | case2 => cases h
  | case3 frames w hc operand hop ha =>
      cases h
      exact meant_closeAll hframes (Expr.meant_of_operand hop)
  | case4 frames w hc operand hop op ha waiting left hs hlt ih =>
      obtain ⟨hwaiting, hleft⟩ :=
        meant_settle op.precedence hframes (Expr.meant_of_operand hop)
      rw [hs] at hwaiting hleft
      exact ih (List.forall_mem_cons.2 ⟨⟨hleft, ha⟩, hwaiting⟩) h
  | case5 frames w hc operand hop op ha waiting left hs hlt =>
      cases h
      have hleft :=
        (meant_settle op.precedence hframes (Expr.meant_of_operand hop)).2
      rwa [hs] at hleft

/-- So does the expression of a statement. -/
theorem closing_meant (h : w.closing.1 = .ok e) : e.Meant :=
  climb_meant (by simp) (w.closing_fst ▸ h)

/-- And that of every statement of a program. -/
theorem statements_meant (w : Window σ) :
    ∀ s ∈ w.statements.1, s.value.Meant :=
  forall_statements (fun _ _ => closing_meant) w

end Window

end Monkey
