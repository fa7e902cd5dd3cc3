/-
Every error is borne out by the token it is pinned to
(`ofSource_justified`). The error of a statement is read off its token
(`ParseError.Founded`), and that token is one that the scanner handed out,
or the end of the input (`Rounds.token_mem`). So an integer that has no value
is digits, and denotes too much. All other errors are failures of the
source, of which there is one at most (`Program.read_of_hands`).

That no token is ever reported as an operator that it is not is no accident
of how expressions are climbed. Read by rules, with a branch for it, they
give the same.
-/
import Monkey.Proofs.Program.Breaking
import Monkey.Proofs.Program.Descent
import Monkey.Proofs.Token.Passing

namespace Monkey

namespace ParseError

/-- The token of an error shows that it is one. It is of another kind than
the one that must come next; or starts no operand; or is an integer whose
digits denote more than the greatest value. Of a failure of the source the
token shows nothing. -/
inductive Justified : ParseError → Prop
  | unexpected {expected : TokenKind} {t : Token}
      (hexpected : expected = .identifier ∨ expected = .assign)
      (hne : t.kind ≠ expected) :
      Justified ⟨.unexpectedToken expected t.kind, t⟩
  | noOperand {t : Token}
      (h : t.kind ∉ [TokenKind.identifier, .integer, .bang, .minus]) :
      Justified ⟨.noOperand t.kind, t⟩
  | invalidInteger {t : Token} (hkind : t.kind = .integer)
      (hne : t.literal ≠ "")
      (hdigits : ∀ c ∈ t.literal.toList, Numeral.isDigit c = true)
      (hlarge : Numeral.greatest < Numeral.value t.literal.toList) :
      Justified ⟨.invalidInteger t.literal .tooLarge, t⟩
  | readFailed {kind : FailureKind} {text : String} {t : Token} :
      Justified ⟨.readFailed kind text, t⟩

/-- An error that is read off a token is justified, if integers are
digits. -/
theorem Founded.justified {e : ParseError} (h : e.Founded)
    (hdigits : e.token.kind = .integer → e.token.literal ≠ ""
      ∧ ∀ c ∈ e.token.literal.toList, Numeral.isDigit c = true) :
    e.Justified := by
  cases h with
  | unexpected hexpected hne => exact .unexpected hexpected hne
  | @noOperand t hidentifier hinteger hunary =>
      apply Justified.noOperand
      simp only [List.mem_cons, List.not_mem_nil, or_false, not_or]
      refine ⟨hidentifier, hinteger, ?_, ?_⟩
      · intro hbang
        rw [hbang] at hunary
        cases hunary
      · intro hminus
        rw [hminus] at hunary
        cases hunary
  | @invalidInteger t fault hkind hread =>
      obtain ⟨hne, hall⟩ := hdigits hkind
      have hlist : t.literal.toList ≠ [] := mt String.toList_eq_nil_iff.1 hne
      rw [Numeral.read_of_digits hlist hall] at hread
      split at hread
      · cases hread
      · next hlarge =>
        cases hread
        exact .invalidInteger hkind hne hall (Int.not_le.1 hlarge)

/-- No justified error says that a token is not an operator. -/
theorem Justified.cause_ne {e : ParseError} (h : e.Justified)
    (k : TokenKind) : e.cause ≠ .notAnOperator k := by
  cases h <;> nofun

/-- An integer that is reported denotes more than the greatest value. -/
theorem Justified.greatest_lt {e : ParseError} (h : e.Justified)
    {literal : String} {fault : NumeralFault}
    (he : e.cause = .invalidInteger literal fault) :
    Numeral.greatest < Numeral.value e.token.literal.toList := by
  cases h with
  | invalidInteger _ _ _ hlarge => exact hlarge
  | _ => cases he

end ParseError

-- ============================================================== rounds

/-- An error is pinned to a token that was before its round, or to the end
of the input. -/
theorem Rounds.token_mem {z : Token} {ts : List Token}
    {outcomes : List Outcome} (hz : z.kind = .endOfInput)
    (h : Rounds z ts outcomes) {e : ParseError} (he : .error e ∈ outcomes) :
    e.token = z ∨ e.token ∈ ts := by
  induction h with
  | ended => cases he
  | @round ts rest outcome outcomes h _ ih =>
      obtain ⟨own, rfl, -, haccounts⟩ := h.exists_segment hz
      rcases List.mem_cons.1 he with rfl | he
      · rcases haccounts with hlast | hnext
        · exact Or.inr (List.mem_append_left _ (List.mem_of_getLast? hlast))
        · rw [← hnext]
          cases rest with
          | nil => exact Or.inl rfl
          | cons t us =>
              exact Or.inr (List.mem_append_right _ List.mem_cons_self)
      · exact (ih he).imp_right (List.mem_append_right _)

/-- The errors of all rounds are read off their tokens. -/
theorem Window.outcomes_founded {σ : Type} [TokenSupply σ] (w : Window σ) :
    ∀ e, .error e ∈ w.outcomes → e.Founded := by
  fun_induction outcomes w with
  | case1 => simp
  | case2 w h ih =>
      intro e he
      rcases List.mem_cons.1 he with hstatement | hlater
      · exact statement_founded hstatement.symm
      · exact ih e hlater

-- ============================================================== sources

/-- The errors of the rounds of a source are justified. -/
theorem justified_of_outcome {s : Scanner} {ts : List Token} {last : Item}
    (h : Hands s ts last) {e : ParseError}
    (he : .error e ∈ (Window.start s).outcomes) : e.Justified := by
  have hw := Window.sees_start h
  apply ((Window.start s).outcomes_founded e he).justified
  intro hkind
  rcases (Window.outcomes_rounds hw).token_mem hw.closing he with hend | hmem
  · have hclosing := hw.closing
    rw [← hend, hkind] at hclosing
    cases hclosing
  · exact h.digits e.token hmem hkind

/-- Every error of every source is justified by the token it is pinned to,
and one of them at most is a failure of the source. No token is ever
reported as an operator that it is not, though an expression that is read by
rules has a branch that would: what the rules give is what is read. -/
theorem ofSource_justified (source : ByteSource) :
    (∀ e ∈ (Program.ofSource source).errors,
        e.Justified ∧ ∀ k, e.cause ≠ .notAnOperator k)
      ∧ ((Program.ofSource source).errors.filter
          ParseError.isReadFailure).length ≤ 1
      ∧ ∀ (least : Precedence) (w : Window Scanner) r,
        Window.Descends least none w r ↔ w.expression least = r := by
  obtain ⟨ts, last, hhands⟩ :=
    TokenSupply.exists_hands (Scanner.ofSource source)
  obtain ⟨-, hfailures, -⟩ := Program.read_of_hands hhands
  have hjustified : ∀ e ∈ (Program.ofSource source).errors, e.Justified := by
    intro e he
    cases hfailure : e.isReadFailure with
    | true =>
        obtain ⟨cause, t⟩ := e
        cases cause with
        | readFailed => exact .readFailed
        | _ => cases hfailure
    | false =>
        exact justified_of_outcome hhands
          ((Program.mem_errors_read hhands hfailure).1 he)
  refine ⟨fun e he => ⟨hjustified e he, (hjustified e he).cause_ne⟩, ?_,
    fun least w r => Window.descends_iff⟩
  rw [Program.ofSource, hfailures]
  cases last with
  | ok z => exact Nat.zero_le 1
  | error e => exact Nat.le_refl 1

end Monkey
