/-
What the reading of an expression comes to, whatever is before the window
and however tightly its operators have to bind (`expression_contract`). It
gives a tree of all the tokens up to where it ends, and ends only before a
token that binds no tighter than asked for; or it ends at a token where an
operand is due and none is, and then the tokens before lead there
(`Window.Misses`).

The induction is on climbing, with the frames that wait in hand
(`Window.climb_passes`). A frame binds tighter than what surrounds it, so
each operator that is passed binds tighter than asked for
(`Frame.Stacked.least_lt`). The other way round the tokens that lead to a
token decide the climb, and the frames do not matter, because the innermost
that is left when an operator is ahead always lets it in
(`Window.climb_misses`).
-/
import Monkey.Proofs.Program.Descent
import Monkey.Proofs.Program.Grouping
import Monkey.Proofs.Program.Outcomes
import Monkey.Proofs.Program.Recording
import Monkey.Proofs.Token.Drawing
import Monkey.Proofs.Token.Passing

namespace Monkey

-- ================================================== where an operand is due

/-- Behind these tokens an operand is due, if one is before them and only
operators that bind tighter than `least` are taken in. Each is an operator
in front of an operand, or an operand with an operator behind it. -/
inductive Awaits (least : Precedence) : List Token → Prop
  | nil : Awaits least []
  | unary {t : Token} {op : UnaryOperator} {ts : List Token}
      (hop : UnaryOperator.ofKind? t.kind = some op)
      (later : Awaits least ts) : Awaits least (t :: ts)
  | binary {t u : Token} {operand : Expr} {op : BinaryOperator}
      {ts : List Token} (hoperand : t.IsOperand operand)
      (hop : BinaryOperator.ofKind? u.kind = some op)
      (hlt : least < op.precedence) (later : Awaits least ts) :
      Awaits least (t :: u :: ts)

-- ============================================================ the left side

namespace Expr

/-- The operators down the left side of an expression: its own, if it is one
between two operands, that of the left one, and so on. -/
def spine : Expr → List BinaryOperator
  | binary _ op left _ => op :: left.spine
  | _ => []

/-- In a grouped expression none of them binds less tightly than the
first. -/
theorem Grouped.spine_tighter {e : Expr} {least : Precedence} (h : e.Grouped)
    (hroot : ∀ o ∈ e.operator?, least < o.precedence) :
    ∀ o ∈ e.spine, least < o.precedence := by
  induction e with
  | identifier id => simp [spine]
  | integer t v => simp [spine]
  | unary t op operand ih => simp [spine]
  | binary t op left right ihl ihr =>
      obtain ⟨hle, -, hleft, -⟩ := h
      have hop : least < op.precedence := hroot op rfl
      refine List.forall_mem_cons.2 ⟨hop, ihl hleft ?_⟩
      intro o ho
      exact Nat.lt_of_lt_of_le hop (hle o ho)

end Expr

namespace Window

open Monkey.Frame Token

variable {σ : Type} [TokenSupply σ] {least : Precedence}
  {frames : List Frame} {w w' : Window σ}

-- ========================================================== tokens passed

/-- The tokens that are passed by moving on so many times. -/
def passed (w : Window σ) (n : Nat) : List Token := (List.range n).map w.token

/-- The current token is the first of them. -/
theorem passed_succ (w : Window σ) (n : Nat) :
    w.passed (n + 1) = w.current :: w.slide.passed n := by
  simp [passed, List.range_succ_eq_map, token_zero, token_slide,
    Function.comp_def]

/-- The token ahead is the second. -/
theorem passed_succ_succ (w : Window σ) (n : Nat) :
    w.passed (n + 2) = w.current :: w.ahead :: w.slide.slide.passed n := by
  rw [passed_succ, passed_succ, current_slide]

-- ================================================================ climbing

/-- How far climbing goes: to a place where an operand is due. Either there
is one, and the tree is made of the tokens up to there, those of the frames
included; or there is none, and that is the error. -/
theorem climb_passes (w : Window σ) (hstacked : Stacked least frames) :
    ∃ n, (w.climb least frames).2 = w.slides n ∧ Awaits least (w.passed n)
      ∧ (∀ e, (w.climb least frames).1 = .ok e →
        e.tokens = allTokens frames ++ w.passed (n + 1))
      ∧ ∀ e, (w.climb least frames).1 = .error e →
        (w.token n).NoOperand e := by
  fun_induction climb least frames w with
  | case1 frames w op hc ih =>
      obtain ⟨n, hslides, hawaits, hok, herror⟩ := ih hstacked.unary
      refine ⟨n + 1, hslides, ?_, ?_, herror⟩
      · rw [passed_succ]
        exact .unary hc hawaits
      · intro e he
        rw [hok e he, allTokens, tokens, passed_succ w, List.append_assoc]
        rfl
  | case2 frames w hc e hop =>
      refine ⟨0, rfl, .nil, ?_, ?_⟩
      · intro e' he
        cases he
      · intro e' he
        cases he
        exact noOperand_iff.2 ⟨hc, hop⟩
  | case3 frames w hc operand hop ha =>
      refine ⟨0, rfl, .nil, ?_, ?_⟩
      · intro e he
        cases he
        rw [tokens_closeAll, (operand_ok hop).1]
        rfl
      · intro e he
        cases he
  | case4 frames w hc operand hop op ha waiting left hs hlt ih =>
      obtain ⟨hwaiting, hleft, hle⟩ := hstacked.settle_operand hop hs
      obtain ⟨n, hslides, hawaits, hok, herror⟩ :=
        ih (.binary hleft.grouped hle hlt hwaiting)
      refine ⟨n + 2, hslides, ?_, ?_, herror⟩
      · rw [passed_succ_succ]
        exact .binary (isOperand_iff.2 hop) ha (hwaiting.least_lt hlt)
          hawaits
      · intro e he
        calc e.tokens
            = (allTokens waiting ++ left.tokens)
                ++ w.ahead :: w.slide.slide.passed (n + 1) := by
              rw [hok e he, allTokens, tokens]
              simp
          _ = (allTokens frames ++ [w.current])
                ++ w.ahead :: w.slide.slide.passed (n + 1) := by
              rw [tokens_settle_operand hop hs]
          _ = allTokens frames ++ w.passed (n + 2 + 1) := by
              rw [Nat.add_right_comm, passed_succ_succ, List.append_assoc]
              rfl
  | case5 frames w hc operand hop op ha waiting left hs hlt =>
      refine ⟨0, rfl, .nil, ?_, ?_⟩
      · intro e he
        cases he
        -- a frame that waits would have let the operator in
        obtain rfl := waiting_eq_nil hs hlt
        exact tokens_settle_operand hop hs
      · intro e he
        cases he

/-- Where tokens lead to one that is no operand, climbing fails there. -/
theorem climb_misses {n : Nat} {e : ParseError}
    (hawaits : Awaits least (w.passed n)) (he : (w.token n).NoOperand e) :
    w.climb least frames = (.error e, w.slides n) := by
  generalize hts : w.passed n = ts at hawaits
  induction hawaits generalizing w n frames with
  | nil =>
      cases n with
      | zero =>
          exact climb_of_error he
      | succ n => rw [passed_succ] at hts; cases hts
  | @unary t op ts hop _ ih =>
      cases n with
      | zero => cases hts
      | succ n =>
          rw [passed_succ] at hts
          cases hts
          exact (climb_of_unary hop).trans (ih he rfl)
  | @binary t u operand op ts hoperand hop hlt _ ih =>
      match n with
      | 0 => cases hts
      | 1 => cases hts
      | n + 2 =>
          rw [passed_succ_succ] at hts
          cases hts
          have hlets : threshold least
              (settle op.precedence frames operand).1 < op.precedence := by
            rcases settle_waiting op.precedence frames operand least
              with hnil | hwaits
            · rw [hnil]
              exact hlt
            · exact hwaits
          rw [climb_of_operand hoperand, resume_of_some hop, if_pos hlets]
          exact ih he rfl

-- ============================================================ expressions

/-- This expression is read with this threshold by moving on so many times.
It is made of the tokens passed and the current one then; the operators down
its left side bind tighter than the threshold; and ahead of it is a semicolon
or what binds no tighter. -/
structure Delivers (least : Precedence) (w : Window σ) (n : Nat) (e : Expr) :
    Prop where
  tokens : e.tokens = w.passed (n + 1)
  spine : ∀ op ∈ e.spine, least < op.precedence
  ahead : (w.slides n).ahead.kind = .semicolon
    ∨ (w.slides n).ahead.kind.precedence ≤ least

/-- No expression is read with this threshold, for this reason, where so many
tokens were passed: they lead to where an operand is due, and there is none
at the next. -/
structure Misses (least : Precedence) (w : Window σ) (n : Nat)
    (e : ParseError) : Prop where
  awaits : Awaits least (w.passed n)
  noOperand : (w.token n).NoOperand e

/-- A tree that is read delivers what was asked for. -/
theorem delivers_of_ok {e : Expr} (h : w.expression least = (.ok e, w')) :
    ∃ n, w' = w.slides n ∧ w.Delivers least n e := by
  obtain ⟨n, hslides, -, htokens, -⟩ :=
    w.climb_passes (Stacked.nil : Stacked least [])
  have hsuits := climb_suits .nil h
  have hahead := (descends_iff.2 h).climb.1 e rfl
  unfold expression at h
  rw [h] at hslides htokens
  obtain rfl := hslides
  exact ⟨n, rfl, htokens e rfl, hsuits.grouped.spine_tighter hsuits.tighter,
    Or.inr hahead⟩

/-- The tokens decide that there is none, and where. -/
theorem error_iff_misses {e : ParseError} :
    w.expression least = (.error e, w')
      ↔ ∃ n, w' = w.slides n ∧ w.Misses least n e := by
  constructor
  · intro h
    obtain ⟨n, hslides, hawaits, -, herror⟩ :=
      w.climb_passes (Stacked.nil : Stacked least [])
    unfold expression at h
    rw [h] at hslides herror
    exact ⟨n, hslides, hawaits, herror e rfl⟩
  · rintro ⟨n, rfl, hmisses⟩
    exact climb_misses hmisses.awaits hmisses.noOperand

end Window

-- =============================================================== sources

/-- What reading an expression comes to, whatever is before the window, and
however tightly its operators have to bind. Read by rules it is read in one
way, and that comes to an end. A tree that is read is made of the tokens that
were passed, up to the current one then, takes in on its left side only
operators that bind tighter than asked for, and ends before a token that does
not. It cannot be read if and only if there is a token where an operand is
due and none is, and the window ends there. Nothing is recorded in the
meantime but one failure of the supply.

In a window over a source, an integer that is no operand denotes too much. -/
theorem expression_contract (least : Precedence) :
    (∀ {σ : Type} [TokenSupply σ] (w : Window σ),
      (∀ r, Window.Descends least none w r ↔ w.expression least = r)
        ∧ (∀ e w', w.expression least = (.ok e, w') →
          ∃ n, w' = w.slides n ∧ w.Delivers least n e)
        ∧ (∀ e w', w.expression least = (.error e, w')
          ↔ ∃ n, w' = w.slides n ∧ w.Misses least n e)
        ∧ ((w.expression least).2.errors = w.errors
          ∨ ∃ f t, (w.expression least).2.errors
              = w.errors ++ [⟨.ofScanError f, t⟩]))
      ∧ ∀ (s : Scanner) (k : Nat) (errors : Diagnosis),
        let w : Window Scanner := { (Window.start s).slides k with errors }
        ∀ n e, w.Misses least n e → (w.token n).kind = .integer →
          e = ⟨.invalidInteger (w.token n).literal .tooLarge, w.token n⟩
            ∧ Numeral.greatest < (w.token n).number := by
  refine ⟨fun w => ⟨fun r => Window.descends_iff,
    fun e w' => Window.delivers_of_ok, fun e w' => Window.error_iff_misses,
    ?_⟩, ?_⟩
  · obtain ⟨n, hslides, -⟩ :=
      w.climb_passes (Frame.Stacked.nil : Frame.Stacked least [])
    rw [Window.expression, hslides]
    exact w.errors_slides n
  · intro s k errors w n e hmisses hkind
    obtain ⟨ts, last, hhands⟩ := TokenSupply.exists_hands s
    have hseen := (Window.sees_start hhands).slides k
    have hw : w.Sees (ts.drop k) last :=
      ⟨hseen.current, hseen.ahead, hseen.tokens, hseen.closing, hseen.supply⟩
    have hmem : w.token n ∈ ts :=
      List.mem_of_mem_drop (hw.token_mem (by simp [hkind]))
    exact hmisses.noOperand.tooLarge hkind
      (hhands.digits (w.token n) hmem hkind)

/-- With the threshold of sums a product is read, and the sum is left. -/
example :
    let r := (Window.start (Scanner.ofText "a*-b+c")).expression .sum
    r.1.toOption.map Expr.spine = some [.multiply]
      ∧ r.2.current.literal = "b" ∧ r.2.ahead.kind = .plus := by
  decide +kernel

end Monkey
