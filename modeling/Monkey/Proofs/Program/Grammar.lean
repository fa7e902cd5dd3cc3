/-
The grammar of the language, over the kinds of tokens alone. A program is
any number of statements, each with a semicolon behind it or without one;
where one statement ends and the next begins is not always decided by the
grammar, since a minus sign behind an operand may go on with an
expression or start the next.

A reader never has to choose. What may stand next depends on one of five
things that are due (`Due`), and stepping through a list of kinds this
way comes to an end exactly for the programs of the grammar
(`Grammar.program_iff_run`): to take every minus sign behind an operand
for an operator between two rejects nothing.
-/
import Monkey.Token.Kind

namespace Monkey

-- ============================================================== grammar

namespace Grammar

/-- The kinds that are an operator between two operands. -/
def operators : List TokenKind :=
  [.plus, .minus, .asterisk, .slash, .lessThan, .greaterThan, .equal,
    .notEqual]

/-- A name or an integer, with any number of operators in front of it. -/
inductive Operand : List TokenKind → Prop
  | identifier : Operand [.identifier]
  | integer : Operand [.integer]
  | not {ks : List TokenKind} (h : Operand ks) : Operand (.bang :: ks)
  | negate {ks : List TokenKind} (h : Operand ks) : Operand (.minus :: ks)

/-- Operands with an operator between each two. -/
inductive Expression : List TokenKind → Prop
  | operand {ks : List TokenKind} (h : Operand ks) : Expression ks
  | operation {left right : List TokenKind} {op : TokenKind}
      (hl : Expression left) (hop : op ∈ operators) (hr : Operand right) :
      Expression (left ++ op :: right)

/-- What stands in a statement before its expression. -/
inductive Opening : List TokenKind → Prop
  | binding : Opening [.letKeyword, .identifier, .assign]
  | result : Opening [.returnKeyword]
  | bare : Opening []

/-- A statement: its opening, if it has one, and its expression. -/
inductive Statement : List TokenKind → Prop
  | mk {opening value : List TokenKind} (ho : Opening opening)
      (he : Expression value) : Statement (opening ++ value)

/-- A program: statements, each with a semicolon behind it or without
one. -/
inductive Program : List TokenKind → Prop
  | empty : Program []
  | bare {ks s : List TokenKind} (h : Program ks) (hs : Statement s) :
      Program (ks ++ s)
  | closed {ks s : List TokenKind} (h : Program ks) (hs : Statement s) :
      Program (ks ++ s ++ [.semicolon])

end Grammar

-- ============================================================= stepping

/-- What is due next: a statement, the name or the equals sign of a
binding, an operand, or anything that may stand behind an operand. -/
inductive Due where
  | statement
  | name
  | equals
  | operand
  | more
deriving DecidableEq

namespace Due

/-- What is due behind the first token of an operand. -/
def ofOperand : TokenKind → Option Due
  | .identifier | .integer => some more
  | .bang | .minus => some operand
  | _ => none

/-- What is due behind the first token of a statement. -/
def ofStatement : TokenKind → Option Due
  | .letKeyword => some name
  | .returnKeyword => some operand
  | k => ofOperand k

/-- What is due behind a token of this kind, if it may stand here at
all. -/
def step : Due → TokenKind → Option Due
  | statement, k => ofStatement k
  | name, k => if k = .identifier then some equals else none
  | equals, k => if k = .assign then some operand else none
  | operand, k => ofOperand k
  | more, k =>
      if k = .semicolon then some statement
      else if k ∈ Grammar.operators then some operand
      else ofStatement k

/-- What is due behind tokens of these kinds. -/
def run (q : Due) : List TokenKind → Option Due
  | [] => some q
  | k :: ks => (q.step k).bind (·.run ks)

/-- A program may end here. -/
def Complete (q : Due) : Prop := q = statement ∨ q = more

theorem run_cons (q : Due) (k : TokenKind) (ks : List TokenKind) :
    q.run (k :: ks) = (q.step k).bind (·.run ks) := rfl

/-- Steps behind steps. -/
theorem run_append (q : Due) (ks ls : List TokenKind) :
    q.run (ks ++ ls) = (q.run ks).bind (·.run ls) := by
  induction ks generalizing q with
  | nil => rfl
  | cons k ks ih =>
      rw [List.cons_append, run_cons, run_cons, Option.bind_assoc]
      exact Option.bind_congr fun q' _ => ih q'

/-- What starts an operand may stand wherever one is due, and wherever a
statement may start. -/
theorem step_of_ofOperand {q q' : Due} {k : TokenKind}
    (hq : q = operand ∨ q.Complete) (h : ofOperand k = some q') :
    q.step k = some q' := by
  rcases hq with rfl | rfl | rfl
  · exact h
  · cases k <;> first | exact h | cases h
  · cases k <;> first | exact h | cases h

/-- What starts a statement may stand wherever one may start. -/
theorem step_of_ofStatement {q q' : Due} {k : TokenKind}
    (hq : q.Complete) (h : ofStatement k = some q') :
    q.step k = some q' := by
  rcases hq with rfl | rfl
  · exact h
  · cases k <;> first | exact h | cases h

end Due

-- ================================================ words are stepped through

namespace Grammar

open Due

variable {q : Due} {ks : List TokenKind}

/-- Behind an operand there may be more. -/
theorem Operand.run (h : Operand ks) (hq : q = .operand ∨ q.Complete) :
    q.run ks = some .more := by
  induction h generalizing q with
  | identifier => rw [run_cons, step_of_ofOperand hq rfl]; rfl
  | integer => rw [run_cons, step_of_ofOperand hq rfl]; rfl
  | not _ ih =>
      rw [run_cons, step_of_ofOperand hq rfl]
      exact ih (Or.inl rfl)
  | negate _ ih =>
      rw [run_cons, step_of_ofOperand hq rfl]
      exact ih (Or.inl rfl)

/-- So there may behind an expression. -/
theorem Expression.run (h : Expression ks)
    (hq : q = .operand ∨ q.Complete) : q.run ks = some .more := by
  induction h with
  | operand h => exact h.run hq
  | @operation left right op _ hop hr ih =>
      have hstep : Due.more.step op = some .operand := by
        simp only [operators, List.mem_cons, List.not_mem_nil, or_false] at hop
        rcases hop with rfl | rfl | rfl | rfl | rfl | rfl | rfl | rfl <;> rfl
      rw [run_append, ih, Option.bind_some, run_cons, hstep]
      exact hr.run (Or.inl rfl)

/-- And behind a statement. -/
theorem Statement.run (h : Statement ks) (hq : q.Complete) :
    q.run ks = some .more := by
  obtain ⟨ho, he⟩ := h
  cases ho with
  | binding =>
      rw [List.cons_append, run_cons, step_of_ofStatement hq rfl]
      exact he.run (Or.inl rfl)
  | result =>
      rw [List.cons_append, run_cons, step_of_ofStatement hq rfl]
      exact he.run (Or.inl rfl)
  | bare => exact he.run (Or.inr hq)

/-- A program is stepped through, and may end where it does. -/
theorem Program.run (h : Program ks) :
    ∃ q, Due.statement.run ks = some q ∧ q.Complete := by
  induction h with
  | empty => exact ⟨_, rfl, Or.inl rfl⟩
  | bare _ hs ih =>
      obtain ⟨q, hrun, hq⟩ := ih
      refine ⟨.more, ?_, Or.inr rfl⟩
      rw [run_append, hrun, Option.bind_some, hs.run hq]
  | closed _ hs ih =>
      obtain ⟨q, hrun, hq⟩ := ih
      refine ⟨.statement, ?_, Or.inl rfl⟩
      rw [run_append, run_append, hrun, Option.bind_some, hs.run hq]
      rfl

-- ================================================ steps go through words

/-- What was passed when this is due. -/
def Passed : Due → List TokenKind → Prop
  | .statement, ks => Program ks
  | .name, ks => ∃ p, Program p ∧ ks = p ++ [.letKeyword]
  | .equals, ks => ∃ p, Program p ∧ ks = p ++ [.letKeyword, .identifier]
  | .operand, ks =>
      ∃ p opening e, Program p ∧ Opening opening
        ∧ (∀ o, Operand o → Expression (e ++ o)) ∧ ks = p ++ (opening ++ e)
  | .more, ks =>
      ∃ p opening e, Program p ∧ Opening opening ∧ Expression e
        ∧ ks = p ++ (opening ++ e)

/-- Where a program may end, one was passed. -/
theorem Passed.program (h : Passed q ks) (hq : q.Complete) : Program ks := by
  rcases hq with rfl | rfl
  · exact h
  · obtain ⟨p, opening, e, hp, ho, he, rfl⟩ := h
    exact .bare hp (.mk ho he)

/-- Behind the first token of an operand, where one is due. -/
theorem passed_ofOperand {q' : Due} {k : TokenKind}
    {p opening e : List TokenKind} (hp : Program p) (ho : Opening opening)
    (he : ∀ o, Operand o → Expression (e ++ o))
    (h : ofOperand k = some q') :
    Passed q' (p ++ (opening ++ e) ++ [k]) := by
  have hmore {k : TokenKind} (hk : Operand [k]) :
      Passed .more (p ++ (opening ++ e) ++ [k]) :=
    ⟨p, opening, e ++ [k], hp, ho, he _ hk, by simp only [List.append_assoc]⟩
  have hoperand {k : TokenKind} (hk : ∀ o, Operand o → Operand (k :: o)) :
      Passed .operand (p ++ (opening ++ e) ++ [k]) := by
    refine ⟨p, opening, e ++ [k], hp, ho, ?_,
      by simp only [List.append_assoc]⟩
    intro o h
    rw [List.append_assoc]
    apply he
    exact hk o h
  cases k <;> cases h
  · exact hmore .identifier
  · exact hmore .integer
  · exact hoperand fun _ h => .negate h
  · exact hoperand fun _ h => .not h

/-- Behind the first token of a statement, where one may start. -/
theorem passed_ofStatement {q' : Due} {k : TokenKind}
    {p : List TokenKind} (hp : Program p) (h : ofStatement k = some q') :
    Passed q' (p ++ [k]) := by
  have hbare (h : ofOperand k = some q') : Passed q' (p ++ [k]) := by
    have := passed_ofOperand (e := []) hp .bare (fun o h => .operand h) h
    simpa using this
  unfold ofStatement at h
  split at h
  · cases h
    exact ⟨p, hp, rfl⟩
  · cases h
    exact ⟨p, [.returnKeyword], [], hp, .result, fun o h => .operand h, rfl⟩
  · exact hbare h

/-- What is due behind a token was passed with it. -/
theorem passed_step {q' : Due} {k : TokenKind} (h : Passed q ks)
    (hstep : q.step k = some q') : Passed q' (ks ++ [k]) := by
  cases q with
  | statement => exact passed_ofStatement h hstep
  | name =>
      obtain ⟨p, hp, rfl⟩ := h
      obtain ⟨rfl, hq⟩ := Option.ite_none_right_eq_some.1 hstep
      cases hq
      exact ⟨p, hp, by simp⟩
  | equals =>
      obtain ⟨p, hp, rfl⟩ := h
      obtain ⟨rfl, hq⟩ := Option.ite_none_right_eq_some.1 hstep
      cases hq
      exact ⟨p, _, [], hp, .binding, fun o h => .operand h, by simp⟩
  | operand =>
      obtain ⟨p, opening, e, hp, ho, he, rfl⟩ := h
      exact passed_ofOperand hp ho he hstep
  | more =>
      have hprogram := h.program (Or.inr rfl)
      obtain ⟨p, opening, e, hp, ho, he, rfl⟩ := h
      rw [step] at hstep
      split at hstep
      · next hk =>
        cases hstep
        rw [hk]
        exact .closed hp (.mk ho he)
      · split at hstep
        · next hk =>
          cases hstep
          refine ⟨p, opening, e ++ [k], hp, ho, ?_, by simp⟩
          intro o h
          rw [List.append_assoc]
          exact .operation he hk h
        · exact passed_ofStatement hprogram hstep

/-- Steps pass what they step through. -/
theorem passed_run {q' : Due} {ls : List TokenKind} (h : Passed q ks)
    (hrun : q.run ls = some q') : Passed q' (ks ++ ls) := by
  induction ls generalizing q ks with
  | nil =>
      cases hrun
      simpa using h
  | cons l ls ih =>
      obtain ⟨q₁, hstep, hrun⟩ := Option.bind_eq_some_iff.1 hrun
      have := ih (passed_step h hstep) hrun
      rwa [List.append_assoc] at this

/-- The programs of the grammar are what can be stepped through to where
a program may end. -/
theorem program_iff_run :
    Program ks ↔ ∃ q, Due.statement.run ks = some q ∧ q.Complete := by
  constructor
  · intro h
    exact h.run
  · intro h
    obtain ⟨q, hrun, hq⟩ := h
    have hpassed : Passed q ([] ++ ks) := by
      apply passed_run (q := .statement)
      · exact Program.empty
      · exact hrun
    exact hpassed.program hq

end Grammar

end Monkey
