/-
What reading a statement comes to once the tokens that decide are known.
A statement of each sort is the expression that ends it with something
around; short of that there is one error for each token that had to be
ahead.
-/
import Monkey.Program.Statements
import Monkey.Proofs.Program.Sight

namespace Monkey

namespace Window

variable {σ : Type} [TokenSupply σ] {w : Window σ}

/-- An expected token that is ahead is met. -/
theorem expectAhead_of_eq {kind : TokenKind} (h : w.ahead.kind = kind) :
    w.expectAhead kind = (.ok (), w.slide) := by
  rw [expectAhead, if_pos (by simpa [Token.is] using h)]

/-- Any other token ahead is the error. -/
theorem expectAhead_of_ne {kind : TokenKind} (h : w.ahead.kind ≠ kind) :
    w.expectAhead kind
      = (.error ⟨.unexpectedToken kind w.ahead.kind, w.ahead⟩, w) := by
  rw [expectAhead, if_neg (by simpa [Token.is] using h)]

-- ======================================================== what decides

/-- A keyword opens a binding. -/
theorem statement_of_let (h : w.current.kind = .letKeyword) :
    w.statement = w.binding := by
  rw [statement, h]

/-- Another opens a result. -/
theorem statement_of_return (h : w.current.kind = .returnKeyword) :
    w.statement = w.result := by
  rw [statement, h]

/-- Without a keyword there is an expression by itself. -/
theorem statement_of_ne (hlet : w.current.kind ≠ .letKeyword)
    (hreturn : w.current.kind ≠ .returnKeyword) :
    w.statement = w.bare := by
  unfold statement
  split
  · next h => exact absurd h hlet
  · next h => exact absurd h hreturn
  · rfl

-- ====================================================== what is around

/-- A binding is its expression behind a name and an equals sign. -/
theorem binding_of_eq (hname : w.ahead.kind = .identifier)
    (hequals : w.slide.ahead.kind = .assign) :
    w.binding
      = (Except.map (.binding w.current (.ofToken w.ahead))
          w.slide.slide.slide.closing.1, w.slide.slide.slide.closing.2) := by
  rw [binding, expectAhead_of_eq hname]
  simp only [expectAhead_of_eq hequals, current_slide]
  split <;> next h => simp [h, Except.map]

/-- Without a name there is none. -/
theorem binding_of_no_name (h : w.ahead.kind ≠ .identifier) :
    w.binding
      = (.error ⟨.unexpectedToken .identifier w.ahead.kind, w.ahead⟩, w) := by
  rw [binding, expectAhead_of_ne h]

/-- Nor is there without an equals sign. -/
theorem binding_of_no_equals (hname : w.ahead.kind = .identifier)
    (h : w.slide.ahead.kind ≠ .assign) :
    w.binding
      = (.error ⟨.unexpectedToken .assign w.slide.ahead.kind,
          w.slide.ahead⟩, w.slide) := by
  rw [binding, expectAhead_of_eq hname]
  simp only [expectAhead_of_ne h]

/-- A result is its expression behind a keyword. -/
theorem result_eq (w : Window σ) :
    w.result = (Except.map (.result w.current) w.slide.closing.1,
      w.slide.closing.2) := by
  unfold result
  split <;> next h => simp [h, Except.map]

/-- An expression by itself has nothing around. -/
theorem bare_eq (w : Window σ) :
    w.bare = (Except.map (.expression w.current) w.closing.1,
      w.closing.2) := by
  unfold bare
  split <;> next h => simp [h, Except.map]

/-- An expression that ends a statement is climbed from no precedence at
all. -/
theorem closing_fst (w : Window σ) : w.closing.1 = (w.climb .lowest []).1 := by
  unfold closing expression
  split <;> next h => rw [h]

/-- The expression in a statement is the one that ends it. -/
theorem closing_of_statement {s : Statement} (h : w.statement.1 = .ok s) :
    ∃ v : Window σ, v.closing.1 = .ok s.value := by
  have hmap {f : Expr → Statement} (hf : ∀ e, (f e).value = e) (v : Window σ)
      (h : Except.map f v.closing.1 = .ok s) : v.closing.1 = .ok s.value := by
    cases hv : v.closing.1 with
    | error e => rw [hv] at h; cases h
    | ok e =>
        rw [hv] at h
        cases h
        rw [hf]
  by_cases hlet : w.current.kind = .letKeyword
  · rw [statement_of_let hlet] at h
    by_cases hname : w.ahead.kind = .identifier
    · by_cases hequals : w.slide.ahead.kind = .assign
      · rw [binding_of_eq hname hequals] at h
        exact ⟨_, hmap (fun _ => rfl) _ h⟩
      · rw [binding_of_no_equals hname hequals] at h
        cases h
    · rw [binding_of_no_name hname] at h
      cases h
  · by_cases hreturn : w.current.kind = .returnKeyword
    · rw [statement_of_return hreturn, result_eq] at h
      exact ⟨_, hmap (fun _ => rfl) _ h⟩
    · rw [statement_of_ne hlet hreturn, bare_eq] at h
      exact ⟨_, hmap (fun _ => rfl) _ h⟩

-- ============================================================ programs

/-- At the end of the input there are no more statements. -/
theorem statements_of_end (h : w.current.kind = .endOfInput) :
    w.statements = ([], w) := by
  rw [statements, dif_pos h]

/-- Before it, one statement decides how reading goes on. -/
private theorem statements_step (h : w.current.kind ≠ .endOfInput) :
    w.statements =
      match w.statement with
      | (.ok s, w') => (s :: w'.slide.statements.1, w'.slide.statements.2)
      | (.error e, w') => (w'.addError e).slide.statements := by
  rw [statements, dif_neg h]
  cases w.statement with
  | mk outcome w' => cases outcome <;> rfl

/-- A statement that is read comes before those read behind it. -/
theorem statements_of_ok {w' : Window σ} {s : Statement}
    (h : w.current.kind ≠ .endOfInput) (hs : w.statement = (.ok s, w')) :
    w.statements
      = (s :: w'.slide.statements.1, w'.slide.statements.2) := by
  rw [statements_step h, hs]

/-- An error is recorded, and reading goes on behind it. -/
theorem statements_of_error {w' : Window σ} {e : ParseError}
    (h : w.current.kind ≠ .endOfInput) (hs : w.statement = (.error e, w')) :
    w.statements = (w'.addError e).slide.statements := by
  rw [statements_step h, hs]

/-- What holds of every expression that ends a statement holds of those in a
program. -/
theorem forall_statements {P : Expr → Prop}
    (h : ∀ (v : Window σ) e, v.closing.1 = .ok e → P e) (w : Window σ) :
    ∀ s ∈ w.statements.1, P s.value := by
  fun_induction statements w with
  | case1 => simp
  | case2 w hend s w' hs later ih =>
      obtain ⟨v, hv⟩ := closing_of_statement (congrArg Prod.fst hs)
      exact List.forall_mem_cons.2 ⟨h v s.value hv, ih⟩
  | case3 w hend e w' hs ih => exact ih

end Window

end Monkey
