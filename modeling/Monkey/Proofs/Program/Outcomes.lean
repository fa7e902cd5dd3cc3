/-
What a program is read as, round by round. A round reads one statement
and moves past where that has come to; what it gives is a statement or an
error (`Outcome`). The statements and the errors of a reading are those of
its rounds, each in their order (`Window.statements_outcomes`).

Nothing but the tokens before the window decides on the outcomes: if they
stand elsewhere, so do those of the outcomes, and nothing else changes
(`Window.outcomes_mirror`).
-/
import Monkey.Program.Reading
import Monkey.Proofs.Program.Mirror
import Monkey.Proofs.Program.Moving

namespace Monkey

-- ============================================================ outcomes

/-- What a round gives. -/
abbrev Outcome := Except ParseError Statement

namespace Outcome

/-- The statement of a round that gave one. -/
def statement? : Outcome → Option Statement
  | .ok s => some s
  | .error _ => none

/-- The error of a round that gave one. -/
def error? : Outcome → Option ParseError
  | .ok _ => none
  | .error e => some e

/-- The statements are those of the rounds that gave one. -/
theorem mem_filterMap_statement? {s : Statement} {outcomes : List Outcome} :
    s ∈ outcomes.filterMap statement? ↔ .ok s ∈ outcomes := by
  rw [List.mem_filterMap]
  constructor
  · intro h
    obtain ⟨outcome, hmem, houtcome⟩ := h
    cases outcome with
    | ok s₁ =>
        cases houtcome
        exact hmem
    | error e => cases houtcome
  · intro h
    exact ⟨.ok s, h, rfl⟩

/-- The errors are those of the rounds that gave one. -/
theorem mem_filterMap_error? {e : ParseError} {outcomes : List Outcome} :
    e ∈ outcomes.filterMap error? ↔ .error e ∈ outcomes := by
  rw [List.mem_filterMap]
  constructor
  · intro h
    obtain ⟨outcome, hmem, houtcome⟩ := h
    cases outcome with
    | ok s => cases houtcome
    | error e₁ =>
        cases houtcome
        exact hmem
  · intro h
    exact ⟨.error e, h, rfl⟩

/-- The outcome with its tokens elsewhere. -/
def respan (g : Token → Span) : Outcome → Outcome :=
  respanned g (Statement.respan g)

variable (g : Token → Span) (outcomes : List Outcome)

/-- With its own spans an outcome is itself. -/
@[simp] theorem respan_span (outcome : Outcome) :
    outcome.respan Token.span = outcome := by
  cases outcome with
  | ok s => exact congrArg Except.ok s.respan_span
  | error e => rfl

/-- The statements of outcomes elsewhere are statements elsewhere. -/
theorem filterMap_statement?_respan :
    (outcomes.map (respan g)).filterMap statement?
      = (outcomes.filterMap statement?).map (Statement.respan g) := by
  rw [List.filterMap_map, List.map_filterMap]
  congr 1
  funext outcome
  cases outcome <;> rfl

/-- So are the errors. -/
theorem filterMap_error?_respan :
    (outcomes.map (respan g)).filterMap error?
      = (outcomes.filterMap error?).map (ParseError.respan g) := by
  rw [List.filterMap_map, List.map_filterMap]
  congr 1
  funext outcome
  cases outcome <;> rfl

end Outcome

namespace Window

variable {σ σ' : Type} [TokenSupply σ] [TokenSupply σ']

-- ============================================================== rounds

/-- What the rounds of reading give, up to the end of the input. -/
def outcomes (w : Window σ) : List Outcome :=
  if _h : w.current.kind = .endOfInput then []
  else w.statement.1 :: w.statement.2.slide.outcomes
termination_by w.size
decreasing_by exact size_round_lt _h

/-- At the end of the input there is no round any more. -/
theorem outcomes_of_end {w : Window σ} (h : w.current.kind = .endOfInput) :
    w.outcomes = [] := by
  rw [outcomes, dif_pos h]

/-- Before that, one round goes before the others. -/
theorem outcomes_of_token {w : Window σ}
    (h : w.current.kind ≠ .endOfInput) :
    w.outcomes = w.statement.1 :: w.statement.2.slide.outcomes := by
  rw [outcomes, dif_neg h]

/-- Moving on leads to the end of the input. -/
theorem exists_token_end (w : Window σ) :
    ∃ n, (w.token n).kind = .endOfInput := by
  by_cases h : w.current.kind = .endOfInput
  · exact ⟨0, h⟩
  · have := size_slide_lt (size_pos_of_current h)
    obtain ⟨n, hn⟩ := exists_token_end w.slide
    exact ⟨n + 1, hn⟩
termination_by w.size

-- ============================================================= mirrors

/-- Windows with the same tokens before them, standing elsewhere in the
second, give the same outcomes, standing elsewhere. -/
theorem outcomes_mirror {g : Token → Span} {w : Window σ} {v : Window σ'}
    (h : ∀ n, v.token n = (w.token n).respan g) :
    v.outcomes = w.outcomes.map (.respan g) := by
  have hkind : v.current.kind = w.current.kind := by
    rw [← token_zero, h 0]
    rfl
  by_cases hend : w.current.kind = .endOfInput
  · rw [outcomes_of_end hend, outcomes_of_end (hkind.trans hend), List.map_nil]
  · obtain ⟨n, hn⟩ := exists_token_end w
    obtain ⟨m, hparallel⟩ :=
      statement_parallel (fun i _ => h i) (n := n) (Or.inr hn)
    have hlater : ∀ n, v.statement.2.slide.token n
        = (w.statement.2.slide.token n).respan g := by
      intro n
      rw [hparallel.left, hparallel.right, token_slide, token_slide,
        token_slides, token_slides]
      exact h _
    have := size_round_lt hend
    rw [outcomes_of_token hend, outcomes_of_token (hkind ▸ hend),
      hparallel.result, outcomes_mirror hlater, List.map_cons]
    rfl
termination_by w.size

/-- What a window sees are the tokens before it. -/
theorem Sees.token {w : Window σ} {ts : List Token} {last : Item}
    (h : w.Sees ts last) (n : Nat) :
    w.token n = ts[n]?.getD last.closing := by
  rw [← List.head?_drop, ← List.headD_eq_head?_getD]
  exact (h.slides n).current

/-- A token before a window, other than the end, is one of those that it
sees. -/
theorem Sees.token_mem {w : Window σ} {ts : List Token} {last : Item}
    (hw : w.Sees ts last) {n : Nat} (h : (w.token n).kind ≠ .endOfInput) :
    w.token n ∈ ts := by
  rw [hw.token] at h ⊢
  cases ht : ts[n]? with
  | none =>
      rw [ht] at h
      exact absurd hw.closing h
  | some t => exact List.mem_of_getElem? ht

/-- Windows that see the same give the same outcomes. -/
theorem outcomes_congr {w : Window σ} {v : Window σ'} {ts : List Token}
    {last : Item} (hw : w.Sees ts last) (hv : v.Sees ts last) :
    v.outcomes = w.outcomes := by
  have h (n : Nat) : v.token n = (w.token n).respan Token.span := by
    rw [hw.token, hv.token, Token.respan_span]
  rw [outcomes_mirror h, List.map_id'' Outcome.respan_span]

-- ============================================================ programs

/-- What the rounds give is all that a program is read as: their
statements, and, before the end of the input, their errors. -/
theorem statements_outcomes {w : Window σ} {ts : List Token} {last : Item}
    (hw : w.Sees ts last) :
    w.statements.1 = w.outcomes.filterMap Outcome.statement?
      ∧ ∀ z, last = .ok z → w.statements.2.errors
          = w.errors ++ w.outcomes.filterMap Outcome.error? := by
  fun_induction statements w generalizing ts with
  | case1 w h =>
      rw [outcomes_of_end h]
      exact ⟨rfl, fun z _ => (List.append_nil _).symm⟩
  | case2 w h s w' hs later =>
      rename_i ih
      obtain ⟨left, hw'⟩ := sees_statement hw hs
      obtain ⟨hstatements, herrors⟩ := ih hw'.slide
      simp only [outcomes_of_token h, hs]
      refine ⟨congrArg (s :: ·) hstatements, ?_⟩
      intro z hz
      subst hz
      rw [herrors z rfl, (errors_statement hw hs).2]
      rfl
  | case3 w h e w' hs ih =>
      obtain ⟨left, hw'⟩ := sees_statement hw hs
      have hlater := (hw'.addError e).slide
      obtain ⟨hstatements, herrors⟩ := ih hlater
      simp only [outcomes_of_token h, hs, outcomes_congr hlater hw'.slide]
      refine ⟨hstatements, ?_⟩
      intro z hz
      subst hz
      rw [herrors z rfl, (hw'.addError e).errors_slide, addError,
        (errors_statement hw hs).1, List.append_assoc]
      rfl

end Window

/-- A supply that comes to the end of the input is read as the rounds from
its beginning. -/
theorem Program.read_outcomes {σ : Type} [TokenSupply σ] {s : σ}
    {ts : List Token} {e : Token} (h : Hands s ts (.ok e)) :
    (read s).program.statements
        = (Window.start s).outcomes.filterMap Outcome.statement?
      ∧ (read s).errors
        = (Window.start s).outcomes.filterMap Outcome.error? := by
  obtain ⟨hstatements, herrors⟩ :=
    Window.statements_outcomes (Window.sees_start h)
  refine ⟨hstatements, ?_⟩
  have := herrors e rfl
  rwa [Window.errors_start h, List.nil_append] at this

end Monkey
