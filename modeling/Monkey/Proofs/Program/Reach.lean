/-
How far the reading of an expression reaches. When it gives a tree, the
tokens of the tree are exactly those that were passed, the frames it
started from included (`Window.climb_ok`); when it gives an error, every
token passed was one that is due, and the error is pinned to the first
that is not (`Window.climb_error`).

Tokens are due by their kind, and an integer only if its value can be
read.
-/
import Monkey.Proofs.Program.Climbing
import Monkey.Proofs.Program.Grammar
import Monkey.Proofs.Program.Sight
import Monkey.Proofs.Tree.Written

namespace Monkey

-- ======================================================= due tokens

/-- A token that, if it is an integer, has a value that can be read. -/
def Token.Legible (t : Token) : Prop :=
  t.kind = .integer → ∃ v, Numeral.read t.literal.toList = .ok v

/-- Only integers may be illegible. -/
theorem Token.legible_of_kind {t : Token} (h : t.kind ≠ .integer) :
    t.Legible := by
  intro hinteger
  exact absurd hinteger h

namespace Due

/-- Legible tokens that are due one after another lead from one thing due
to another. -/
def Follows (q : Due) (ts : List Token) (q' : Due) : Prop :=
  q.run (ts.map (·.kind)) = some q' ∧ ∀ t ∈ ts, t.Legible

/-- A token that is not due here, or is not legible. -/
def Stuck (q : Due) (t : Token) : Prop :=
  q.step t.kind = none ∨ ¬t.Legible

variable {q q₁ q₂ : Due} {t : Token} {ts us : List Token}

theorem Follows.nil (q : Due) : q.Follows [] q := ⟨rfl, by simp⟩

theorem Follows.cons (hstep : q.step t.kind = some q₁) (ht : t.Legible)
    (h : q₁.Follows ts q₂) : q.Follows (t :: ts) q₂ := by
  refine ⟨?_, List.forall_mem_cons.2 ⟨ht, h.2⟩⟩
  rw [List.map_cons, run_cons, hstep]
  exact h.1

theorem Follows.append (h : q.Follows ts q₁) (h' : q₁.Follows us q₂) :
    q.Follows (ts ++ us) q₂ := by
  refine ⟨?_, List.forall_mem_append.2 ⟨h.2, h'.2⟩⟩
  rw [List.map_append, run_append, h.1]
  exact h'.1

/-- One token of a kind that is due. -/
theorem Follows.one {k : TokenKind} (h : t.kind = k) (hk : k ≠ .integer)
    (hstep : q.step k = some q₁) : q.Follows [t] q₁ := by
  subst h
  exact .cons hstep (Token.legible_of_kind hk) (.nil q₁)

/-- Only the first token tells where it is due. -/
theorem Follows.of_step (hstep : q.step t.kind = q₁.step t.kind)
    (h : q₁.Follows (t :: ts) q₂) : q.Follows (t :: ts) q₂ := by
  refine ⟨?_, h.2⟩
  rw [List.map_cons, run_cons, hstep]
  exact h.1

/-- The end of the input is never due. -/
theorem step_endOfInput (q : Due) : q.step .endOfInput = none := by
  cases q <;> rfl

/-- So a token that is due is not the end of the input. -/
theorem kind_ne_of_step {k : TokenKind} (h : q.step k = some q₁) :
    k ≠ .endOfInput := by
  intro hend
  rw [hend, step_endOfInput] at h
  cases h

/-- And reading is stuck there. -/
theorem stuck_of_endOfInput (q : Due) (h : t.kind = .endOfInput) :
    q.Stuck t := by
  apply Or.inl
  rw [h]
  exact step_endOfInput q

end Due

-- ============================================================ operands

/-- A token that is an operand is one that is due. -/
theorem Token.operand_ok {t : Token} {e : Expr} (h : t.operand = .ok e) :
    e.tokens = [t] ∧ Due.ofOperand t.kind = some .more ∧ t.Legible := by
  cases isOperand_iff.2 h with
  | name hk => exact ⟨rfl, by rw [hk]; rfl, legible_of_kind (by simp [hk])⟩
  | numeral hk hv => exact ⟨rfl, by rw [hk]; rfl, fun _ => ⟨_, hv⟩⟩

/-- A token that is no operand, and no operator in front of one either, is not
due where an operand is. -/
theorem Token.operand_error {t : Token} {e : ParseError}
    (hnone : UnaryOperator.ofKind? t.kind = none)
    (h : t.operand = .error e) : e.token = t ∧ Due.operand.Stuck t := by
  cases noOperand_iff.2 ⟨hnone, h⟩ with
  | kind hidentifier hinteger =>
      refine ⟨rfl, Or.inl ?_⟩
      show Due.ofOperand t.kind = none
      unfold Due.ofOperand
      split <;> simp_all [UnaryOperator.ofKind?]
  | numeral hk hfault =>
      refine ⟨rfl, Or.inr ?_⟩
      intro hlegible
      obtain ⟨v, hv⟩ := hlegible hk
      rw [hfault] at hv
      cases hv

/-- An operator in front of an operand is due where one is. -/
theorem Due.ofOperand_unary {k : TokenKind} {op : UnaryOperator}
    (h : UnaryOperator.ofKind? k = some op) :
    k ≠ .integer ∧ Due.ofOperand k = some .operand := by
  unfold UnaryOperator.ofKind? at h
  split at h
  · exact ⟨by decide, rfl⟩
  · exact ⟨by decide, rfl⟩
  · cases h

/-- An operator between two operands is due behind the first. -/
theorem Due.step_binary {k : TokenKind} {op : BinaryOperator}
    (h : BinaryOperator.ofKind? k = some op) :
    k ≠ .integer ∧ Due.more.step k = some .operand := by
  unfold BinaryOperator.ofKind? at h
  split at h <;> first | exact ⟨by decide, rfl⟩ | cases h

-- ============================================================== frames

namespace Frame

/-- The tokens that stand before the operand of a frame. -/
def tokens : Frame → List Token
  | unary t _ => [t]
  | binary left t _ => left.tokens ++ [t]

/-- The tokens that stand before the operand in the innermost frame. -/
def allTokens : List Frame → List Token
  | [] => []
  | f :: rest => allTokens rest ++ f.tokens

/-- A closed frame keeps its tokens and those of its operand. -/
theorem tokens_close (f : Frame) (e : Expr) :
    (f.close e).tokens = f.tokens ++ e.tokens := by
  cases f with
  | unary t op => rfl
  | binary left t op =>
      rw [close, Expr.tokens, tokens, List.append_assoc, List.singleton_append]

/-- So do all frames. -/
theorem tokens_closeAll (frames : List Frame) (e : Expr) :
    (closeAll frames e).tokens = allTokens frames ++ e.tokens := by
  induction frames generalizing e with
  | nil => rfl
  | cons f rest ih =>
      show (closeAll rest (f.close e)).tokens = _
      rw [ih, tokens_close, allTokens, List.append_assoc]

/-- And those that bind an operand before a token. -/
theorem tokens_settle (next : Precedence) (frames : List Frame) (e : Expr) :
    allTokens (settle next frames e).1 ++ (settle next frames e).2.tokens
      = allTokens frames ++ e.tokens := by
  fun_induction settle next frames e with
  | case1 => rfl
  | case2 => rfl
  | case3 f rest e hlt ih =>
      rw [ih, tokens_close, allTokens, List.append_assoc]

/-- A frame that still waits binds less tightly than the token. -/
theorem settle_waiting (next : Precedence) (frames : List Frame)
    (e : Expr) (least : Precedence) :
    (settle next frames e).1 = []
      ∨ threshold least (settle next frames e).1 < next := by
  fun_induction settle next frames e with
  | case1 => exact Or.inl rfl
  | case2 f rest e hlt => exact Or.inr hlt
  | case3 f rest e hlt ih => exact ih

variable {least next : Precedence} {frames waiting : List Frame}
  {e left : Expr}

/-- So none waits before a token that binds no tighter than what waits. -/
theorem waiting_eq_nil (hs : settle next frames e = (waiting, left))
    (h : ¬threshold least waiting < next) : waiting = [] := by
  have hwaiting := settle_waiting next frames e least
  rw [hs] at hwaiting
  exact hwaiting.resolve_right h

/-- A single token as the operand comes behind those of the frames. -/
theorem tokens_settle_operand {t : Token} (hop : t.operand = .ok e)
    (hs : settle next frames e = (waiting, left)) :
    allTokens waiting ++ left.tokens = allTokens frames ++ [t] := by
  have hsettle := tokens_settle next frames e
  rwa [hs, (Token.operand_ok hop).1] at hsettle

end Frame

-- ============================================================ climbing

namespace Window

open Monkey.Frame

variable {σ : Type} [TokenSupply σ] {least : Precedence}
  {frames : List Frame} {w w' : Window σ} {ts : List Token} {last : Item}

/-- A tree that was read has the tokens that were passed, and behind it
stands nothing that binds tighter than asked for. -/
theorem climb_ok {e : Expr} (hw : w.Sees ts last)
    (h : w.climb least frames = (.ok e, w')) :
    ∃ before t behind, ts = before ++ t :: behind
      ∧ w'.Sees (t :: behind) last
      ∧ e.tokens = allTokens frames ++ (before ++ [t])
      ∧ Due.operand.Follows (before ++ [t]) .more
      ∧ (behind.headD last.closing).kind.precedence ≤ least := by
  fun_induction climb least frames w generalizing ts with
  | case1 frames w op hc ih =>
      obtain ⟨hkind, hdue⟩ := Due.ofOperand_unary hc
      have hts := hw.eq_cons (Due.kind_ne_of_step (q := .operand) hdue)
      obtain ⟨before, t, behind, htail, hw', htokens, hfollows, hnext⟩ :=
        ih hw.slide h
      refine ⟨w.current :: before, t, behind, ?_, hw', ?_, ?_, hnext⟩
      · rw [List.cons_append, ← htail]
        exact hts
      · rw [htokens, allTokens, tokens, List.append_assoc]
        rfl
      · exact .cons hdue (Token.legible_of_kind hkind) hfollows
  | case2 => cases h
  | case3 frames w hc operand hop ha =>
      cases h
      obtain ⟨htokens, hdue, hlegible⟩ := Token.operand_ok hop
      have hts := hw.eq_cons (Due.kind_ne_of_step (q := .operand) hdue)
      refine ⟨[], w'.current, ts.tail, hts, hts ▸ hw, ?_,
        .cons hdue hlegible (.nil _), ?_⟩
      · rw [tokens_closeAll, htokens]
        rfl
      · rw [← hw.ahead, TokenKind.precedence, ha]
        exact Nat.zero_le _
  | case4 frames w hc operand hop op ha waiting left hs hlt ih =>
      obtain ⟨-, hdue, hlegible⟩ := Token.operand_ok hop
      obtain ⟨hkind, hstep⟩ := Due.step_binary ha
      have hts := hw.eq_cons (Due.kind_ne_of_step (q := .operand) hdue)
      have htail := hw.tail_eq_cons (Due.kind_ne_of_step hstep)
      obtain ⟨before, t, behind, hrest, hw', hown, hfollows, hnext⟩ :=
        ih hw.slide.slide h
      refine ⟨w.current :: w.ahead :: before, t, behind, ?_, hw', ?_, ?_,
        hnext⟩
      · rw [List.cons_append, List.cons_append, ← hrest, ← htail]
        exact hts
      · calc e.tokens
            = (allTokens waiting ++ left.tokens)
                ++ w.ahead :: (before ++ [t]) := by
              rw [hown, allTokens, tokens]
              simp only [List.append_assoc, List.cons_append, List.nil_append]
          _ = allTokens frames
                ++ (w.current :: w.ahead :: before ++ [t]) := by
              rw [tokens_settle_operand hop hs]
              simp only [List.append_assoc, List.cons_append, List.nil_append]
      · exact .cons hdue hlegible
          (.cons hstep (Token.legible_of_kind hkind) hfollows)
  | case5 frames w hc operand hop op ha waiting left hs hlt =>
      cases h
      obtain ⟨-, hdue, hlegible⟩ := Token.operand_ok hop
      have hts := hw.eq_cons (Due.kind_ne_of_step (q := .operand) hdue)
      -- a frame that waits would have let the operator in
      obtain rfl := waiting_eq_nil hs hlt
      refine ⟨[], w'.current, ts.tail, hts, hts ▸ hw,
        tokens_settle_operand hop hs, .cons hdue hlegible (.nil _), ?_⟩
      rw [← hw.ahead, TokenKind.precedence, ha]
      exact Nat.not_lt.1 hlt

/-- An error is pinned to the first token that is not due. -/
theorem climb_error {e : ParseError} (hw : w.Sees ts last)
    (h : w.climb least frames = (.error e, w')) :
    ∃ before behind, ts = before ++ behind ∧ w'.Sees behind last
      ∧ Due.operand.Follows before .operand
      ∧ e.token = behind.headD last.closing
      ∧ Due.operand.Stuck (behind.headD last.closing) := by
  fun_induction climb least frames w generalizing ts with
  | case1 frames w op hc ih =>
      obtain ⟨hkind, hdue⟩ := Due.ofOperand_unary hc
      have hts := hw.eq_cons (Due.kind_ne_of_step (q := .operand) hdue)
      obtain ⟨before, behind, htail, hw', hfollows, herror⟩ := ih hw.slide h
      refine ⟨w.current :: before, behind, ?_, hw',
        .cons hdue (Token.legible_of_kind hkind) hfollows, herror⟩
      rw [List.cons_append, ← htail]
      exact hts
  | case2 frames w hc e hop =>
      cases h
      obtain ⟨htoken, hstuck⟩ := Token.operand_error hc hop
      rw [hw.current] at htoken hstuck
      exact ⟨[], ts, rfl, hw, .nil _, htoken, hstuck⟩
  | case3 => cases h
  | case4 frames w hc operand hop op ha waiting left hs hlt ih =>
      obtain ⟨-, hdue, hlegible⟩ := Token.operand_ok hop
      obtain ⟨hkind, hstep⟩ := Due.step_binary ha
      have hts := hw.eq_cons (Due.kind_ne_of_step (q := .operand) hdue)
      have htail := hw.tail_eq_cons (Due.kind_ne_of_step hstep)
      obtain ⟨before, behind, hrest, hw', hfollows, herror⟩ :=
        ih hw.slide.slide h
      refine ⟨w.current :: w.ahead :: before, behind, ?_, hw',
        .cons hdue hlegible
          (.cons hstep (Token.legible_of_kind hkind) hfollows), herror⟩
      rw [List.cons_append, List.cons_append, ← hrest, ← htail]
      exact hts
  | case5 => cases h

/-- It is the error of that token as an operand. -/
theorem climb_operand {e : ParseError}
    (h : (w.climb least frames).1 = .error e) :
    e.token.operand = .error e := by
  fun_induction climb least frames w with
  | case1 frames w op hc ih => exact ih h
  | case2 frames w hc e' hop =>
      cases h
      rw [(Token.operand_error hc hop).1]
      exact hop
  | case3 => cases h
  | case4 frames w hc operand hop op ha waiting left hs hlt ih => exact ih h
  | case5 => cases h

end Window

end Monkey
