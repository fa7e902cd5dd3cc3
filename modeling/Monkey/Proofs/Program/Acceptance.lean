/-
A text is a program exactly when the grammar says so
(`ofText_ok_iff_grammar`). Rounds and grammar meet in what is due: a round
that gives a statement stops where the next one may start, so the tokens
before it make up a program if and only if those behind it do; a round
that gives an error has found a token that no program has there.
-/
import Monkey.Proofs.Program.Rounds

namespace Monkey

-- ========================================================== accepting

namespace Due

/-- When this is due, these tokens make up the rest of a program. -/
def Accepts (q : Due) (ts : List Token) : Prop :=
  ∃ q', q.Follows ts q' ∧ q'.Complete

variable {q q₁ : Due} {t z : Token} {ts us : List Token}

/-- Behind tokens that were due, what is due there decides. -/
theorem accepts_append (h : q.Follows ts q₁) :
    q.Accepts (ts ++ us) ↔ q₁.Accepts us := by
  constructor
  · intro haccepts
    obtain ⟨q₂, ⟨hrun, hlegible⟩, hq₂⟩ := haccepts
    rw [List.map_append, run_append, h.1] at hrun
    exact ⟨q₂, ⟨hrun, (List.forall_mem_append.1 hlegible).2⟩, hq₂⟩
  · intro haccepts
    obtain ⟨q₂, hfollows, hq₂⟩ := haccepts
    exact ⟨q₂, h.append hfollows, hq₂⟩

/-- One token that is due. -/
theorem accepts_cons (hstep : q.step t.kind = some q₁) (ht : t.Legible) :
    q.Accepts (t :: ts) ↔ q₁.Accepts ts := by
  have h : q.Follows [t] q₁ := .cons hstep ht (.nil q₁)
  exact accepts_append h

/-- Things due that take the same tokens accept the same. -/
theorem accepts_congr (hstep : q.step t.kind = q₁.step t.kind) :
    q.Accepts (t :: ts) ↔ q₁.Accepts (t :: ts) := by
  constructor
  · intro haccepts
    obtain ⟨q₂, h, hq₂⟩ := haccepts
    exact ⟨q₂, h.of_step hstep.symm, hq₂⟩
  · intro haccepts
    obtain ⟨q₂, h, hq₂⟩ := haccepts
    exact ⟨q₂, h.of_step hstep, hq₂⟩

/-- With a token that is not due, nothing is accepted, nor is the end
where something is still missing. -/
theorem not_accepts_of_stuck (h : q.Stuck (ts.headD z))
    (hend : q.Complete → ts ≠ []) : ¬q.Accepts ts := by
  intro haccepts
  obtain ⟨q₁, ⟨hrun, hlegible⟩, hq₁⟩ := haccepts
  cases ts with
  | nil =>
      cases hrun
      exact hend hq₁ rfl
  | cons t us =>
      rcases h with hnone | hillegible
      · rw [List.headD_cons] at hnone
        rw [List.map_cons, run_cons, hnone] at hrun
        cases hrun
      · exact hillegible (hlegible t List.mem_cons_self)

/-- What neither ends a statement nor goes on with it may start the
next. -/
theorem step_more {k : TokenKind} (hsemicolon : k ≠ .semicolon)
    (hnext : BinaryOperator.ofKind? k = none) :
    more.step k = statement.step k := by
  have hoperator : k ∉ Grammar.operators := by
    intro hmem
    simp only [Grammar.operators, List.mem_cons, List.not_mem_nil,
      or_false] at hmem
    rcases hmem with h | h | h | h | h | h | h | h <;>
      rw [h] at hnext <;> cases hnext
  show (if k = .semicolon then some statement
    else if k ∈ Grammar.operators then some operand
    else ofStatement k) = ofStatement k
  rw [if_neg hsemicolon, if_neg hoperator]

/-- What stands behind a statement is accepted if what is left behind its
semicolon is. -/
theorem accepts_closes {behind rest : List Token}
    (h : Statement.Closes behind rest)
    (hnext : BinaryOperator.ofKind? (behind.headD z).kind = none) :
    more.Accepts behind ↔ statement.Accepts rest := by
  cases h with
  | @semicolon t _ hkind =>
      exact accepts_cons (by rw [hkind]; rfl)
        (Token.legible_of_kind (by rw [hkind]; decide))
  | bare hne =>
      cases behind with
      | nil =>
          have hmore : more.Accepts [] := ⟨_, .nil _, Or.inr rfl⟩
          have hstatement : statement.Accepts [] := ⟨_, .nil _, Or.inl rfl⟩
          exact iff_of_true hmore hstatement
      | cons t us =>
          apply accepts_congr
          exact step_more (hne t rfl) hnext

end Due

-- ============================================================== rounds

variable {z : Token} {ts rest : List Token}

/-- A round that gives a statement leaves it to the rest. -/
theorem Round.accepts_iff {s : Statement} (h : Round z ts rest (.ok s)) :
    Due.statement.Accepts ts ↔ Due.statement.Accepts rest := by
  cases h with
  | statement _ hrest hown hnext =>
      rw [Due.accepts_append hown, Due.accepts_closes hrest hnext]

/-- Where reading a statement halts, no program goes on. -/
theorem Halts.not_accepts {before behind : List Token} {e : ParseError}
    (h : Halts z before behind e) :
    ¬Due.statement.Accepts (before ++ behind) := by
  obtain ⟨q, hbefore, hstuck, hend⟩ := h.due
  rw [Due.accepts_append hbefore]
  exact Due.not_accepts_of_stuck hstuck hend

/-- Rounds without an error are those over a program. -/
theorem Rounds.errors_eq_nil_iff {outcomes : List Outcome}
    (h : Rounds z ts outcomes) :
    outcomes.filterMap Outcome.error? = [] ↔ Due.statement.Accepts ts := by
  induction h with
  | ended =>
      exact iff_of_true rfl ⟨_, .nil _, Or.inl rfl⟩
  | @round ts rest outcome outcomes h _ ih =>
      cases outcome with
      | ok s =>
          rw [h.accepts_iff, ← ih]
          rfl
      | error e =>
          have hnot : ¬Due.statement.Accepts ts := by
            cases h with
            | unexpected h _ => exact h.not_accepts
            | noOperand h => exact h.not_accepts
          exact iff_of_false (List.cons_ne_nil _ _) hnot

/-- A supply is read without an error exactly if its tokens make up a
program. -/
theorem Program.errors_read_eq_nil_iff {σ : Type} [TokenSupply σ] {s : σ}
    (h : Hands s ts (.ok z)) :
    (read s).errors = [] ↔ Due.statement.Accepts ts := by
  have hrounds := Window.outcomes_rounds (Window.sees_start h)
  rw [(read_outcomes h).2]
  exact hrounds.errors_eq_nil_iff

-- ======================================================= source texts

/-- An integer of a text is legible if its value is a signed 64-bit
one. -/
theorem Cuts.legible_iff {p : Position} {text : List Char} {e t : Token}
    (h : Cuts p text ts e) (ht : t ∈ ts) :
    t.Legible ↔ (t.kind = .integer →
      (Numeral.value t.literal.toList : Int) ≤ Numeral.greatest) := by
  apply forall_congr'
  intro hkind
  have hne : t.literal.toList ≠ [] := by
    intro hnil
    exact (h.forall_token t ht).2 (String.toList_eq_nil_iff.1 hnil)
  rw [Numeral.read_of_digits hne (h.forall_integer t ht hkind)]
  split
  · next hvalue => exact iff_of_true ⟨_, rfl⟩ hvalue
  · next hvalue =>
    refine iff_of_false ?_ hvalue
    intro hread
    obtain ⟨v, hv⟩ := hread
    cases hv

/-- A reading gives a program if it found no error. -/
theorem Program.ofText_ok_iff (src : String) :
    (∃ p, ofText src = .ok p) ↔ (ofSource (.ofText src)).errors = [] := by
  unfold ofText Diagnosis.toResult
  cases h : (ofSource (.ofText src)).errors with
  | nil => simp [h]
  | cons e es => simp [h]

/-- A text is read as a program, without an error, exactly when the kinds
of its tokens are a word of the grammar and its integers denote signed
64-bit values. -/
theorem ofText_ok_iff_grammar (src : String) :
    ∃ ts e, tokenize src = .ok (ts ++ [e]) ∧ e.kind = .endOfInput
      ∧ ((∃ p, Program.ofText src = .ok p) ↔
          (Program.ofSource (.ofText src)).errors = [])
      ∧ ((∃ p, Program.ofText src = .ok p) ↔
          Grammar.Program (ts.map (·.kind))
            ∧ ∀ t ∈ ts, t.kind = .integer →
                (Numeral.value t.literal.toList : Int)
                  ≤ Numeral.greatest) := by
  obtain ⟨ts, e, outcomes, hhands, hcuts, hrounds, -, herrors⟩ :=
    Program.rounds_ofText src
  have hlegible : (∀ t ∈ ts, t.Legible) ↔ ∀ t ∈ ts, t.kind = .integer →
      (Numeral.value t.literal.toList : Int) ≤ Numeral.greatest :=
    forall₂_congr fun t ht => hcuts.legible_iff ht
  have haccepts : Due.statement.Accepts ts ↔
      Grammar.Program (ts.map (·.kind)) ∧ ∀ t ∈ ts, t.Legible := by
    rw [Grammar.program_iff_run]
    constructor
    · intro haccepts
      obtain ⟨q, ⟨hrun, hts⟩, hq⟩ := haccepts
      exact ⟨⟨q, hrun, hq⟩, hts⟩
    · intro hprogram
      obtain ⟨⟨q, hrun, hq⟩, hts⟩ := hprogram
      exact ⟨q, ⟨hrun, hts⟩, hq⟩
  refine ⟨ts, e, tokenize_of_hands hhands, hcuts.endOfInput.1,
    Program.ofText_ok_iff src, ?_⟩
  rw [Program.ofText_ok_iff, herrors, hrounds.errors_eq_nil_iff, haccepts,
    hlegible]

end Monkey
