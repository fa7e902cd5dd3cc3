/-
Every token of a text is accounted for (`ofSource_accounts`). The tokens
fall into segments, one for each statement and each error of a reading,
in their order (`Segment`): the segment of a statement is its own tokens
and the semicolon behind them, if there is one; the segment of an error is
what was given up with it. No segment is empty, so there are no more
statements and errors than tokens.
-/
import Monkey.Proofs.Program.Rounds

namespace Monkey

-- ============================================================ segments

/-- A stretch of tokens, and what it was read as. -/
structure Segment where
  tokens : List Token
  outcome : Outcome

namespace Segment

/-- The segment is what its outcome accounts for, if `next` is the token
behind it. A statement accounts for its own tokens, and for the semicolon
behind them exactly if there is one. An error is pinned to the last token
of the segment, or to the one behind. -/
def Accounts (g : Segment) (next : Token) : Prop :=
  g.tokens ≠ [] ∧
    match g.outcome with
    | .ok s => ∃ own, s.Written own
        ∧ ((g.tokens = own ∧ next.kind ≠ .semicolon)
          ∨ ∃ t, t.kind = .semicolon ∧ g.tokens = own ++ [t])
    | .error e => g.tokens.getLast? = some e.token ∨ next = e.token

/-- Each of these segments is what its outcome accounts for, and `z`
stands behind them all. -/
def AllAccount (z : Token) : List Segment → Prop
  | [] => True
  | g :: gs =>
      g.Accounts ((gs.flatMap tokens).headD z) ∧ AllAccount z gs

/-- There are no more segments than tokens in them. -/
theorem length_le_of_allAccount {z : Token} {gs : List Segment}
    (h : AllAccount z gs) : gs.length ≤ (gs.flatMap tokens).length := by
  induction gs with
  | nil => exact Nat.zero_le _
  | cons g gs ih =>
      obtain ⟨⟨hne, -⟩, hlater⟩ := h
      have hpos := List.length_pos_iff.2 hne
      have hle := ih hlater
      rw [List.flatMap_cons, List.length_append, List.length_cons]
      omega

end Segment

-- ============================================================== rounds

variable {z : Token} {ts rest : List Token} {outcome : Outcome}

/-- Where something was still missing at the end of the input, something
was read. -/
theorem Halts.ne_nil {before : List Token} {e : ParseError}
    (h : Halts z before [] e) : before ≠ [] := by
  intro hnil
  subst hnil
  obtain ⟨q, ⟨hrun, -⟩, -, hend⟩ := h.due
  cases hrun
  exact hend (Or.inl rfl) rfl

/-- A round takes one segment. -/
theorem Round.exists_segment (hz : z.kind = .endOfInput)
    (h : Round z ts rest outcome) :
    ∃ own, ts = own ++ rest
      ∧ (Segment.mk own outcome).Accounts (rest.headD z) := by
  cases h with
  | @statement s own behind rest hs hrest _ _ =>
      obtain ⟨t, us, hown⟩ := hs.exists_eq_cons
      cases hrest with
      | @semicolon semicolon _ hkind =>
          refine ⟨own ++ [semicolon], by simp, by simp, own, hs,
            Or.inr ⟨semicolon, hkind, rfl⟩⟩
      | bare hne =>
          refine ⟨own, rfl, by simp [hown], own, hs, Or.inl ⟨rfl, ?_⟩⟩
          cases rest with
          | nil => rw [List.headD_nil, hz]; decide
          | cons u us => exact hne u rfl
  | @unexpected e before behind h hne =>
      exact ⟨before, rfl, hne, Or.inr h.token.symm⟩
  | @noOperand e before behind h =>
      cases behind with
      | nil => exact ⟨before, rfl, h.ne_nil, Or.inr h.token.symm⟩
      | cons t us =>
          refine ⟨before ++ [t], by simp, by simp, Or.inl ?_⟩
          rw [List.getLast?_concat, h.token, List.headD_cons]

/-- Rounds take one segment each. -/
theorem Rounds.exists_segments {outcomes : List Outcome}
    (hz : z.kind = .endOfInput) (h : Rounds z ts outcomes) :
    ∃ gs : List Segment, gs.map Segment.outcome = outcomes
      ∧ gs.flatMap Segment.tokens = ts ∧ Segment.AllAccount z gs := by
  induction h with
  | ended => exact ⟨[], rfl, rfl, trivial⟩
  | @round ts rest outcome outcomes h _ ih =>
      obtain ⟨own, hts, haccounts⟩ := h.exists_segment hz
      obtain ⟨gs, houtcomes, hrest, hlater⟩ := ih
      refine ⟨⟨own, outcome⟩ :: gs, ?_, ?_, ?_, hlater⟩
      · rw [List.map_cons, houtcomes]
      · rw [List.flatMap_cons, hrest, hts]
      · rwa [hrest]

/-- A statement is written in a stretch of the tokens before its rounds. -/
theorem Rounds.exists_written {z : Token} {ts : List Token}
    {outcomes : List Outcome} (hz : z.kind = .endOfInput)
    (h : Rounds z ts outcomes) {s : Statement} (hs : .ok s ∈ outcomes) :
    ∃ own, s.Written own ∧ own <:+: ts := by
  induction h with
  | ended => cases hs
  | round h _ ih =>
      obtain ⟨own, rfl, -, haccounts⟩ := h.exists_segment hz
      rcases List.mem_cons.1 hs with rfl | hs
      · obtain ⟨own', hwritten, ⟨rfl, -⟩ | ⟨t, -, rfl⟩⟩ := haccounts
        · exact ⟨own, hwritten, (List.prefix_append _ _).isInfix⟩
        · refine ⟨own', hwritten, List.IsPrefix.isInfix ?_⟩
          exact (List.prefix_append _ _).trans (List.prefix_append _ _)
      · obtain ⟨own', hwritten, hwithin⟩ := ih hs
        exact ⟨own', hwritten,
          hwithin.trans (List.suffix_append _ _).isInfix⟩

/-- Every outcome is a statement or an error. -/
theorem Outcome.length_add_length (outcomes : List Outcome) :
    (outcomes.filterMap statement?).length
      + (outcomes.filterMap error?).length = outcomes.length := by
  induction outcomes with
  | nil => rfl
  | cons outcome outcomes ih =>
      cases outcome with
      | ok s =>
          simp only [List.filterMap_cons, statement?, error?,
            List.length_cons]
          omega
      | error e =>
          simp only [List.filterMap_cons, statement?, error?,
            List.length_cons]
          omega

-- ======================================================= source texts

/-- Every token of a text is accounted for. The tokens before the end of
the input are consecutive segments, none of them empty, and these are the
statements and the errors of its reading, each in their order. -/
theorem ofSource_accounts (src : String) :
    ∃ ts e gs, tokenize src = .ok (ts ++ [e]) ∧ e.kind = .endOfInput
      ∧ gs.flatMap Segment.tokens = ts ∧ Segment.AllAccount e gs
      ∧ (Program.ofSource (.ofText src)).program.statements
          = gs.filterMap (·.outcome.statement?)
      ∧ (Program.ofSource (.ofText src)).errors
          = gs.filterMap (·.outcome.error?)
      ∧ (Program.ofSource (.ofText src)).program.statements.length
          + (Program.ofSource (.ofText src)).errors.length ≤ ts.length := by
  obtain ⟨ts, e, outcomes, hhands, hcuts, hrounds, hstatements, herrors⟩ :=
    Program.rounds_ofText src
  have hend := hcuts.endOfInput.1
  obtain ⟨gs, rfl, rfl, haccount⟩ := hrounds.exists_segments hend
  refine ⟨_, e, gs, tokenize_of_hands hhands, hend, rfl, haccount, ?_, ?_, ?_⟩
  · rw [hstatements, List.filterMap_map]
    rfl
  · rw [herrors, List.filterMap_map]
    rfl
  · rw [hstatements, herrors, Outcome.length_add_length, List.length_map]
    exact Segment.length_le_of_allAccount haccount

end Monkey
