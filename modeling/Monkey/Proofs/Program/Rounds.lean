/-
Reading a program goes in rounds. A round takes a stretch of tokens off
what is before the window and gives one outcome (`Round`): a statement,
whose own tokens they are, or an error, up to which every token was due
and at which one is not. What the window sees tells the whole round
(`Window.statement_round`), so a program is read in rounds until nothing
is left (`Window.outcomes_rounds`).
-/
import Monkey.Proofs.Program.Outcomes
import Monkey.Proofs.Program.Reach
import Monkey.Proofs.Token.Lossless

namespace Monkey

open Statement

-- ============================================================== rounds

/-- Of a statement, the tokens before this place were due, and the one
behind it, which the error is pinned to, is not. At the end of the input
one is still missing. -/
structure Halts (z : Token) (before behind : List Token)
    (e : ParseError) : Prop where
  token : e.token = behind.headD z
  due : ∃ q, Due.statement.Follows before q ∧ q.Stuck (behind.headD z)
    ∧ (q.Complete → behind ≠ [])

/-- One round of reading, from the tokens before it to those behind it.
The token at which an expression has an error is dropped, but not one
that stands where a name or an equals sign should. -/
inductive Round (z : Token) : List Token → List Token → Outcome → Prop
  | statement {s : Statement} {own behind rest : List Token}
      (hs : s.Written own) (hrest : Closes behind rest)
      (hown : Due.statement.Follows own .more)
      (hnext : BinaryOperator.ofKind? (behind.headD z).kind = none) :
      Round z (own ++ behind) rest (.ok s)
  | unexpected {e : ParseError} {before behind : List Token}
      (h : Halts z before behind e) (hne : before ≠ []) :
      Round z (before ++ behind) behind (.error e)
  | noOperand {e : ParseError} {before behind : List Token}
      (h : Halts z before behind e)
      (hoperand : (behind.headD z).operand = .error e) :
      Round z (before ++ behind) behind.tail (.error e)

/-- Rounds of reading until no token is left. -/
inductive Rounds (z : Token) : List Token → List Outcome → Prop
  | ended : Rounds z [] []
  | round {ts rest : List Token} {outcome : Outcome}
      {outcomes : List Outcome} (h : Round z ts rest outcome)
      (later : Rounds z rest outcomes) : Rounds z ts (outcome :: outcomes)

-- ====================================================== ends of statements

/-- Only operators between two operands bind. -/
theorem TokenKind.ofKind?_of_precedence {k : TokenKind}
    (h : k.precedence ≤ .lowest) : BinaryOperator.ofKind? k = none := by
  cases hk : BinaryOperator.ofKind? k with
  | none => rfl
  | some op =>
      rw [TokenKind.precedence, hk] at h
      exact absurd h (Nat.not_le.2 op.lowest_lt_precedence)

namespace Window

variable {σ : Type} [TokenSupply σ] {w w' : Window σ} {ts : List Token}
  {last : Item}

/-- An expression that ends a statement was read with its semicolon. -/
theorem closing_ok {e : Expr} (hw : w.Sees ts last)
    (h : w.closing = (.ok e, w')) :
    ∃ behind left, ts = e.tokens ++ behind ∧ w'.Sees left last
      ∧ Closes behind left.tail ∧ Due.operand.Follows e.tokens .more
      ∧ BinaryOperator.ofKind? (behind.headD last.closing).kind = none := by
  unfold closing expression at h
  split at h
  · next e₁ w₁ hclimb =>
    obtain ⟨before, t, behind, rfl, hw₁, htokens, hfollows, hnext⟩ :=
      climb_ok hw hclimb
    have hahead : w₁.ahead = behind.headD last.closing := hw₁.ahead
    have hsplit : before ++ t :: behind = e₁.tokens ++ behind := by
      rw [htokens, Frame.allTokens, List.nil_append, List.append_assoc,
        List.singleton_append]
    have hown : Due.operand.Follows e₁.tokens .more := by
      rw [htokens]
      exact hfollows
    have hnone := TokenKind.ofKind?_of_precedence hnext
    split at h
    · next hs =>
      cases h
      have hkind : w₁.ahead.kind = .semicolon := by
        simpa [Token.is] using hs
      have hbehind := hw₁.tail_eq_cons (by rw [hkind]; decide)
      rw [List.tail_cons] at hbehind
      refine ⟨behind, behind, hsplit, hw₁.slide, ?_, hown, hnone⟩
      rw [hbehind]
      exact .semicolon hkind
    · next hs =>
      cases h
      have hother : ∀ u, behind.head? = some u → u.kind ≠ .semicolon := by
        intro u hu
        rw [List.headD_eq_head?_getD, hu] at hahead
        simpa [Token.is, hahead] using hs
      exact ⟨behind, t :: behind, hsplit, hw₁, .bare hother, hown, hnone⟩
  · cases h

/-- An expression that is due, but not there, is the error. -/
theorem closing_error {e : ParseError} (hw : w.Sees ts last)
    (h : w.closing = (.error e, w')) :
    ∃ before behind, ts = before ++ behind ∧ w'.Sees behind last
      ∧ Due.operand.Follows before .operand
      ∧ e.token = behind.headD last.closing
      ∧ Due.operand.Stuck (behind.headD last.closing) := by
  unfold closing expression at h
  split at h
  · cases h
  · next e₁ w₁ hclimb =>
    cases h
    exact climb_error hw hclimb

/-- And it is the error of its token as an operand. -/
theorem closing_operand {e : ParseError} (h : w.closing.1 = .error e) :
    e.token.operand = .error e :=
  climb_operand (w.closing_fst ▸ h)

-- ==================================================== rounds, one by one

/-- An expression behind an opening makes a round of what closes it: the
statement around it, or its own error. -/
theorem round_of_closing {opening : List Token} {q : Due}
    {s : Expr → Statement} (hw : w.Sees ts last)
    (hopening : Due.statement.Follows opening q)
    (hq : ∀ t, ts.head? = some t → q.step t.kind = Due.ofOperand t.kind)
    (hend : q.Complete → ts ≠ [])
    (hs : ∀ e behind, ts = e.tokens ++ behind →
      (s e).Written (opening ++ e.tokens)) :
    ∃ left, w.closing.2.Sees left last
      ∧ Round last.closing (opening ++ ts) left.tail
          (Except.map s w.closing.1) := by
  have hstep {t : Token} {us : List Token} (hts : ts = t :: us) :
      q.step t.kind = Due.operand.step t.kind :=
    hq t (by rw [hts, List.head?_cons])
  rcases h : w.closing with ⟨e | e, w'⟩
  · obtain ⟨before, behind, hts, hw', hfollows, htoken, hstuck⟩ :=
      closing_error hw h
    refine ⟨behind, hw', ?_⟩
    rw [hts, ← List.append_assoc]
    have hoperand := closing_operand (congrArg Prod.fst h)
    refine .noOperand ⟨htoken, ?_⟩ (htoken ▸ hoperand)
    cases before with
    | nil =>
        obtain rfl : ts = behind := hts
        refine ⟨q, by rwa [List.append_nil], ?_, hend⟩
        cases ts with
        | nil => exact Due.stuck_of_endOfInput q hw.closing
        | cons t us =>
            rw [Due.Stuck, List.headD_cons, hstep rfl]
            exact hstuck
    | cons t us =>
        exact ⟨.operand, hopening.append (hfollows.of_step (hstep hts)), hstuck,
          by simp [Due.Complete]⟩
  · obtain ⟨behind, left, hts, hw', hrest, hfollows, hnext⟩ :=
      closing_ok hw h
    refine ⟨left, hw', ?_⟩
    rw [hts, ← List.append_assoc]
    refine .statement (hs e behind hts) hrest (hopening.append ?_) hnext
    obtain ⟨t, us, htokens⟩ := e.exists_tokens_eq_cons
    rw [htokens] at hfollows hts ⊢
    exact hfollows.of_step (hstep hts)

/-- A binding is read in one round. -/
theorem binding_round (hw : w.Sees ts last)
    (hlet : w.current.kind = .letKeyword) :
    ∃ left, w.binding.2.Sees left last
      ∧ Round last.closing ts left.tail w.binding.1 := by
  obtain ⟨us, rfl⟩ : ∃ us, ts = w.current :: us :=
    ⟨_, hw.eq_cons (by rw [hlet]; decide)⟩
  have hw₁ : w.slide.Sees us last := hw.slide
  have hkeyword : Due.statement.Follows [w.current] .name :=
    .one hlet (by decide) rfl
  by_cases hname : w.ahead.kind = .identifier
  · obtain ⟨vs, rfl⟩ : ∃ vs, us = w.ahead :: vs :=
      ⟨_, hw.tail_eq_cons (by rw [hname]; decide)⟩
    have hw₂ : w.slide.slide.Sees vs last := hw₁.slide
    have hfollows : Due.statement.Follows [w.current, w.ahead] .equals :=
      hkeyword.append (.one hname (by decide) rfl)
    by_cases hequals : w.slide.ahead.kind = .assign
    · obtain ⟨xs, rfl⟩ : ∃ xs, vs = w.slide.ahead :: xs :=
        ⟨_, hw₁.tail_eq_cons (by rw [hequals]; decide)⟩
      rw [binding_of_eq hname hequals]
      have hopening : Due.statement.Follows
          [w.current, w.ahead, w.slide.ahead] .operand :=
        hfollows.append (.one hequals (by decide) rfl)
      exact round_of_closing hw₂.slide hopening (fun _ _ => rfl)
        (by simp [Due.Complete]) (fun e _ _ => .binding hlet hname rfl hequals)
    · rw [binding_of_no_equals hname hequals]
      have hahead : w.slide.ahead = vs.headD last.closing := hw₁.ahead
      have hhalts : Halts last.closing [w.current, w.ahead] vs
          ⟨.unexpectedToken .assign w.slide.ahead.kind, w.slide.ahead⟩ :=
        ⟨hahead, .equals, hfollows, Or.inl (hahead ▸ if_neg hequals),
          by simp [Due.Complete]⟩
      exact ⟨w.ahead :: vs, hw₁, .unexpected hhalts (by simp)⟩
  · rw [binding_of_no_name hname]
    have hahead : w.ahead = us.headD last.closing := hw.ahead
    have hhalts : Halts last.closing [w.current] us
        ⟨.unexpectedToken .identifier w.ahead.kind, w.ahead⟩ :=
      ⟨hahead, .name, hkeyword, Or.inl (hahead ▸ if_neg hname),
        by simp [Due.Complete]⟩
    exact ⟨w.current :: us, hw, .unexpected hhalts (by simp)⟩

/-- A statement is read in one round, or its error found. -/
theorem statement_round (hw : w.Sees ts last) (hne : ts ≠ []) :
    ∃ left, w.statement.2.Sees left last
      ∧ Round last.closing ts left.tail w.statement.1 := by
  have hend : w.current.kind ≠ .endOfInput := by
    intro h
    exact hne (hw.current_eq_endOfInput_iff.1 h)
  by_cases hlet : w.current.kind = .letKeyword
  · rw [statement_of_let hlet]
    exact binding_round hw hlet
  · obtain ⟨us, rfl⟩ : ∃ us, ts = w.current :: us := ⟨_, hw.eq_cons hend⟩
    by_cases hreturn : w.current.kind = .returnKeyword
    · rw [statement_of_return hreturn, result_eq]
      have hopening : Due.statement.Follows [w.current] .operand :=
        .one hreturn (by decide) rfl
      exact round_of_closing hw.slide hopening (fun _ _ => rfl)
        (by simp [Due.Complete]) (fun e _ _ => .result hreturn)
    · rw [statement_of_ne hlet hreturn, bare_eq]
      refine round_of_closing hw (Due.Follows.nil .statement) ?_
        (fun _ => hne) ?_
      · intro t ht
        cases ht
        show Due.ofStatement w.current.kind = _
        unfold Due.ofStatement
        split
        · next h => exact absurd h hlet
        · next h => exact absurd h hreturn
        · rfl
      · intro e behind hsplit
        obtain ⟨t, vs, htokens⟩ := e.exists_tokens_eq_cons
        rw [htokens, List.cons_append] at hsplit
        apply Written.expression
        rw [htokens, List.head?_cons, List.head_eq_of_cons_eq hsplit]

-- ============================================================ programs

/-- A program is read in rounds, until nothing is left. -/
theorem outcomes_rounds (hw : w.Sees ts last) :
    Rounds last.closing ts w.outcomes := by
  fun_induction outcomes w generalizing ts with
  | case1 w h =>
      obtain rfl := hw.current_eq_endOfInput_iff.1 h
      exact .ended
  | case2 w h ih =>
      have hne := mt hw.current_eq_endOfInput_iff.2 h
      obtain ⟨left, hw', hround⟩ := statement_round hw hne
      exact .round hround (ih hw'.slide)

end Window

/-- The program of a text is read in rounds over the tokens of the
text. -/
theorem Program.rounds_ofText (src : String) :
    ∃ ts e outcomes, Hands (Scanner.ofText src) ts (.ok e)
      ∧ Cuts .origin src.toList ts e ∧ Rounds e ts outcomes
      ∧ (ofSource (.ofText src)).program.statements
          = outcomes.filterMap Outcome.statement?
      ∧ (ofSource (.ofText src)).errors
          = outcomes.filterMap Outcome.error? := by
  obtain ⟨ts, e, hhands, hcuts⟩ := hands_ofText src
  have hrounds := Window.outcomes_rounds (Window.sees_start hhands)
  exact ⟨ts, e, _, hhands, hcuts, hrounds, read_outcomes hhands⟩

end Monkey
