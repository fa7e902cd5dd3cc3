/-
Integers are read exactly. An integer is digits, and as an operand it is the
number that they denote, or, if that is greater than the greatest value, an
error (`Token.operand_of_digits`). Wherever an integer stands it is an
operand sooner or later: a round that passes over it has read it, and a
round that does not leaves it to the next. So the integers that denote too
much are all reported (`Rounds.error_mem`), and of the others none is.

The integers in a statement are those among its tokens
(`Program.integer_mem_parts`), since a tree means what its tokens say.
-/
import Monkey.Proofs.Program.Acceptance
import Monkey.Proofs.Program.Justified
import Monkey.Proofs.Program.Meaning
import Monkey.Tree.Display

namespace Monkey

-- ============================================================= operands

/-- An integer that is an error as an operand is not legible. -/
theorem Token.not_legible {t : Token} {e : ParseError}
    (hkind : t.kind = .integer) (h : t.operand = .error e) : ¬t.Legible := by
  intro hlegible
  obtain ⟨v, hv⟩ := hlegible hkind
  rw [isOperand_iff.1 (.numeral hkind hv)] at h
  cases h

-- ========================================================== statements

/-- An integer that a statement is written in is in its expression. -/
theorem Statement.Written.mem_tokens_value {s : Statement} {own : List Token}
    (h : s.Written own) {t : Token} (ht : t ∈ own)
    (hkind : t.kind = .integer) : t ∈ s.value.tokens := by
  cases h with
  | binding hlet hname _ hequals =>
      rcases List.mem_cons.1 ht with rfl | ht
      · rw [hkind] at hlet
        cases hlet
      · rcases List.mem_cons.1 ht with rfl | ht
        · rw [hkind] at hname
          cases hname
        · rcases List.mem_cons.1 ht with rfl | ht
          · rw [hkind] at hequals
            cases hequals
          · exact ht
  | result hreturn =>
      rcases List.mem_cons.1 ht with rfl | ht
      · rw [hkind] at hreturn
        cases hreturn
      · exact ht
  | expression => exact ht

/-- And what its expression is written in, it is. -/
theorem Statement.Written.tokens_value_subset {s : Statement}
    {own : List Token} (h : s.Written own) : s.value.tokens ⊆ own := by
  intro t ht
  cases h with
  | binding =>
      exact List.mem_cons_of_mem _ (List.mem_cons_of_mem _
        (List.mem_cons_of_mem _ ht))
  | result => exact List.mem_cons_of_mem _ ht
  | expression => exact ht

/-- Only a semicolon is left behind with a statement. -/
theorem Statement.Closes.mem {behind rest : List Token}
    (h : Closes behind rest) {t : Token} (ht : t ∈ behind)
    (hkind : t.kind ≠ .semicolon) : t ∈ rest := by
  cases h with
  | semicolon hsemicolon =>
      rcases List.mem_cons.1 ht with rfl | ht
      · exact absurd hsemicolon hkind
      · exact ht
  | bare => exact ht

-- ============================================================== rounds

namespace Rounds

variable {z t : Token} {ts : List Token} {outcomes : List Outcome}

/-- An integer that is an error as an operand is the error of a round. -/
theorem error_mem (h : Rounds z ts outcomes) (ht : t ∈ ts)
    (hkind : t.kind = .integer) {e : ParseError}
    (he : t.operand = .error e) : .error e ∈ outcomes := by
  have hillegible := Token.not_legible hkind he
  induction h with
  | ended => cases ht
  | @round ts rest outcome outcomes h _ ih =>
      cases h with
      | @statement s own behind _ _ hrest hown _ =>
          rcases List.mem_append.1 ht with ht | ht
          · exact absurd (hown.2 t ht) hillegible
          · have hmem := hrest.mem ht (by rw [hkind]; decide)
            exact List.mem_cons_of_mem _ (ih hmem)
      | @unexpected e' before behind h _ =>
          obtain ⟨q, hfollows, -⟩ := h.due
          rcases List.mem_append.1 ht with ht | ht
          · exact absurd (hfollows.2 t ht) hillegible
          · exact List.mem_cons_of_mem _ (ih ht)
      | @noOperand e' before behind h hoperand =>
          obtain ⟨q, hfollows, -⟩ := h.due
          rcases List.mem_append.1 ht with ht | ht
          · exact absurd (hfollows.2 t ht) hillegible
          · obtain ⟨u, us, rfl⟩ := List.exists_cons_of_ne_nil
              (List.ne_nil_of_mem ht)
            rcases List.mem_cons.1 ht with rfl | ht
            · have hsame : Except.error e = Except.error e' :=
                he.symm.trans hoperand
              cases hsame
              exact List.mem_cons_self
            · exact List.mem_cons_of_mem _ (ih ht)

/-- Without an error, an integer is one of the tokens that a statement is
written in. -/
theorem exists_mem_written (h : Rounds z ts outcomes)
    (hok : ∀ e, .error e ∉ outcomes) (ht : t ∈ ts)
    (hkind : t.kind = .integer) :
    ∃ s own, .ok s ∈ outcomes ∧ s.Written own ∧ t ∈ own := by
  induction h with
  | ended => cases ht
  | @round ts rest outcome outcomes h _ ih =>
      have hlater : ∀ e, .error e ∉ outcomes :=
        fun e he => hok e (List.mem_cons_of_mem _ he)
      cases h with
      | @statement s own behind _ hs hrest _ _ =>
          rcases List.mem_append.1 ht with ht | ht
          · exact ⟨s, own, List.mem_cons_self, hs, ht⟩
          · have hmem := hrest.mem ht (by rw [hkind]; decide)
            obtain ⟨s', own', hs', hwritten, hmem'⟩ := ih hlater hmem
            exact ⟨s', own', List.mem_cons_of_mem _ hs', hwritten, hmem'⟩
      | unexpected => exact absurd List.mem_cons_self (hok _)
      | noOperand => exact absurd List.mem_cons_self (hok _)

end Rounds

/-- What the integers among these tokens become. One that denotes too much is
reported at its token, and no other is. The integers in the statements are
those among the tokens, each with the number that it denotes, which is a
signed 64-bit value. If there is no error they are all there. -/
structure Reading.ExactIntegers {σ : Type} (r : Reading σ)
    (ts : List Token) : Prop where
  reported : ∀ t ∈ ts, t.kind = .integer →
    (⟨.invalidInteger t.literal .tooLarge, t⟩ ∈ r.errors
      ↔ Numeral.greatest < t.number)
  node : ∀ s ∈ r.program.statements, ∀ t (v : Int),
    .integer t v ∈ s.value.parts → t ∈ ts ∧ t.kind = .integer
      ∧ v = t.number ∧ 0 ≤ v ∧ v ≤ Numeral.greatest
  token : ∀ s ∈ r.program.statements, ∀ t ∈ s.value.tokens,
    t.kind = .integer → .integer t t.number ∈ s.value.parts
  all : r.errors = [] → ∀ t ∈ ts, t.kind = .integer →
    ∃ s ∈ r.program.statements, .integer t t.number ∈ s.value.parts

namespace Program

variable {s : Scanner} {ts : List Token} {last : Item}

/-- An integer in a statement is a token of it, with its number. -/
theorem integer_of_mem_parts (h : Hands s ts last) {st : Statement}
    (hst : st ∈ (read s).program.statements) {t : Token} {v : Int}
    (hp : .integer t v ∈ st.value.parts) :
    t ∈ ts ∧ t.kind = .integer
      ∧ v = t.number ∧ 0 ≤ v ∧ v ≤ Numeral.greatest := by
  obtain ⟨own, hwritten, hwithin⟩ := exists_written h hst
  obtain ⟨hmem, hoperand⟩ :=
    (Window.statements_meant _ st hst).of_mem_parts hp
  have hts := hwithin.subset (hwritten.tokens_value_subset hmem)
  obtain ⟨-, hkind⟩ := Token.operand_eq_integer hoperand
  rw [Token.operand_of_digits hkind (h.digits t hts hkind)] at hoperand
  split at hoperand
  · next hle =>
    cases hoperand
    exact ⟨hts, hkind, rfl, Int.natCast_nonneg _, hle⟩
  · cases hoperand

/-- And every integer that is a token of a statement is in it. -/
theorem integer_mem_parts (h : Hands s ts last) {st : Statement}
    (hst : st ∈ (read s).program.statements) {t : Token}
    (ht : t ∈ st.value.tokens) (hkind : t.kind = .integer) :
    .integer t t.number ∈ st.value.parts := by
  obtain ⟨v, hv⟩ :=
    (Window.statements_meant _ st hst).exists_mem_parts ht hkind
  obtain ⟨-, -, hnumber, -⟩ := integer_of_mem_parts h hst hv
  rwa [hnumber] at hv

/-- The integers of a source are read exactly. -/
theorem exactIntegers (h : Hands s ts last) : (read s).ExactIntegers ts := by
  have hw := Window.sees_start h
  have hrounds := Window.outcomes_rounds hw
  refine ⟨?_, fun st hst t v => integer_of_mem_parts h hst,
    fun st hst t => integer_mem_parts h hst, ?_⟩
  · intro t ht hkind
    have hoperand := Token.operand_of_digits hkind (h.digits t ht hkind)
    rw [mem_errors_read h rfl]
    constructor
    · intro he
      exact (justified_of_outcome h he).greatest_lt rfl
    · intro hlarge
      rw [if_neg (Int.not_le.2 hlarge)] at hoperand
      exact hrounds.error_mem ht hkind hoperand
  · intro hnone t ht hkind
    have hok : ∀ e, .error e ∉ (Window.start s).outcomes := by
      intro e he
      have hfounded := Window.outcomes_founded _ e he
      have hmem := (mem_errors_read h hfounded.isReadFailure_eq_false).2 he
      rw [hnone] at hmem
      cases hmem
    obtain ⟨st, own, hst, hwritten, hown⟩ :=
      hrounds.exists_mem_written hok ht hkind
    have hmem : st ∈ (read s).program.statements := by
      rw [(read_of_hands h).1]
      exact Outcome.mem_filterMap_statement?.2 hst
    exact ⟨st, hmem, integer_mem_parts h hmem
      (hwritten.mem_tokens_value hown hkind) hkind⟩

end Program

-- ========================================================== one integer

namespace Window

variable {σ : Type} [TokenSupply σ] {w : Window σ} {t : Token} {last : Item}

/-- Before an integer alone, that is read as a statement, or is the error. -/
theorem outcomes_of_integer (hw : w.Sees [t] last)
    (hkind : t.kind = .integer) :
    w.outcomes = [Except.map (.expression t) t.operand] := by
  have hcurrent : w.current = t := hw.current
  have hahead : w.ahead.kind = .endOfInput := by
    rw [hw.ahead]
    exact hw.closing
  have hclosing : w.closing = (t.operand, w) := by
    have hunary : UnaryOperator.ofKind? w.current.kind = none := by
      rw [hcurrent, hkind]
      rfl
    have hnone : BinaryOperator.ofKind? w.ahead.kind = none := by
      rw [hahead]
      rfl
    unfold closing expression
    cases hoperand : t.operand with
    | error e =>
        have hno : w.current.NoOperand e :=
          Token.noOperand_iff.2 ⟨hunary, by rw [hcurrent, hoperand]⟩
        rw [climb_of_error hno]
    | ok e =>
        have his : w.current.IsOperand e :=
          Token.isOperand_iff.2 (by rw [hcurrent, hoperand])
        rw [climb_of_operand his, resume_of_none hnone]
        simp [Token.is, hahead, Frame.closeAll]
  have hstatement : w.statement = (Except.map (.expression t) t.operand, w) := by
    rw [statement_of_ne (by rw [hcurrent, hkind]; decide)
      (by rw [hcurrent, hkind]; decide), bare_eq, hclosing, hcurrent]
  have hend : w.slide.current.kind = .endOfInput := by
    rw [current_slide]
    exact hahead
  rw [outcomes_of_token (by rw [hcurrent, hkind]; decide), hstatement,
    outcomes_of_end hend]

end Window

/-- A run of digits is one token. -/
theorem hands_of_digits {digits : List Char} (hne : digits ≠ [])
    (h : ∀ c ∈ digits, Numeral.isDigit c = true) :
    ∃ e, Hands (Scanner.ofText (String.ofList digits))
      [⟨.integer, String.ofList digits,
        ⟨.origin, Position.origin.afterAll digits⟩⟩] (.ok e) := by
  have hlexeme : Lexeme .integer digits [] := .integer hne h (by simp)
  have hblanks : ∀ c ∈ ([] : List Char), isBlank c = true := by simp
  have hcut := Cuts.token (p := .origin) hblanks hlexeme (.ended hblanks)
  rw [List.append_nil] at hcut
  refine ⟨_, hands_of_cuts ?_ hcut⟩
  have hfaces := faces_ofText (String.ofList digits)
  rwa [String.toList_ofList] at hfaces

/-- What a run of digits is read as: the number that it denotes, or one
error if that is too large. -/
theorem Program.read_digits {digits : List Char} (hne : digits ≠ [])
    (hdigits : ∀ c ∈ digits, Numeral.isDigit c = true) :
    let src := String.ofList digits
    let t : Token :=
      ⟨.integer, src, ⟨.origin, Position.origin.afterAll digits⟩⟩
    let n := Numeral.value digits
    ((n : Int) ≤ Numeral.greatest →
        (ofSource (.ofText src)).program = ⟨[.expression t (.integer t n)]⟩
          ∧ (ofSource (.ofText src)).errors = [])
      ∧ (Numeral.greatest < n →
        (ofSource (.ofText src)).program = ⟨[]⟩
          ∧ (ofSource (.ofText src)).errors
            = [⟨.invalidInteger src .tooLarge, t⟩]) := by
  intro src t n
  obtain ⟨e, hhands⟩ := hands_of_digits hne hdigits
  have hnumber : t.number = n := by
    show Numeral.value src.toList = n
    rw [String.toList_ofList]
  have hliteral : t.literal ≠ ""
      ∧ ∀ c ∈ t.literal.toList, Numeral.isDigit c = true := by
    show src ≠ "" ∧ ∀ c ∈ src.toList, _
    rw [String.toList_ofList]
    exact ⟨mt String.ofList_eq_empty_iff.1 hne, hdigits⟩
  have hoperand := Token.operand_of_digits (t := t) rfl hliteral
  rw [hnumber] at hoperand
  have houtcomes : (Window.start (Scanner.ofText src)).outcomes
      = [Except.map (.expression t) t.operand] :=
    Window.outcomes_of_integer (Window.sees_start hhands) rfl
  obtain ⟨hstatements, herrors⟩ := read_outcomes hhands
  rw [houtcomes, hoperand] at hstatements herrors
  refine ⟨fun hle => ?_, fun hlarge => ?_⟩
  · rw [if_pos hle] at hstatements herrors
    exact ⟨congrArg Program.mk hstatements, herrors⟩
  · rw [if_neg (Int.not_le.2 hlarge)] at hstatements herrors
    exact ⟨congrArg Program.mk hstatements, herrors⟩

/-- A program without errors is what its text is read as. -/
theorem Program.ofText_eq_ok {text : String} {p : Program}
    (hprogram : (ofSource (.ofText text)).program = p)
    (herrors : (ofSource (.ofText text)).errors = []) :
    ofText text = .ok p := by
  unfold ofText Diagnosis.toResult
  simp only [herrors, List.isEmpty_nil, if_true, hprogram]

/-- Integers are read exactly. A run of digits by itself, however long and
with however many zeros in front, is a program if the number that it denotes
is at most the greatest value, and only then. The program is that number,
and is written without the zeros. If the number is greater, its token is the
one error, and there is no statement. In any source an integer, wherever it
stands, is accepted by the same rule and has the same value. -/
theorem ofText_digits {digits : List Char} (hne : digits ≠ [])
    (hdigits : ∀ c ∈ digits, Numeral.isDigit c = true) :
    let src := String.ofList digits
    let t : Token :=
      ⟨.integer, src, ⟨.origin, Position.origin.afterAll digits⟩⟩
    let n := Numeral.value digits
    let p : Program := ⟨[.expression t (.integer t n)]⟩
    ((∃ q, Program.ofText src = .ok q) ↔ (n : Int) ≤ Numeral.greatest)
      ∧ ((n : Int) ≤ Numeral.greatest → Program.ofText src = .ok p
        ∧ p.text = String.ofList (Numeral.plain digits))
      ∧ (Numeral.greatest < n →
        (Program.ofSource (.ofText src)).errors
            = [⟨.invalidInteger src .tooLarge, t⟩]
          ∧ (Program.ofSource (.ofText src)).program.statements = [])
      ∧ ∀ source : ByteSource, ∃ ts last,
        (Scanner.ofSource source).items.1 = ts.map .ok ++ [last]
          ∧ (Program.ofSource source).ExactIntegers ts := by
  intro src t n p
  obtain ⟨hsmall, hlarge⟩ := Program.read_digits hne hdigits
  refine ⟨?_, ?_, ?_, ?_⟩
  · rw [Program.ofText_ok_iff]
    constructor
    · intro hnone
      by_contra hle
      have herrors := (hlarge (Int.not_le.1 hle)).2
      rw [hnone] at herrors
      cases herrors
    · exact fun hle => (hsmall hle).2
  · intro hle
    obtain ⟨hprogram, herrors⟩ := hsmall hle
    refine ⟨Program.ofText_eq_ok hprogram herrors, ?_⟩
    rw [← Numeral.toString_value hdigits]
    exact String.empty_append
  · intro hgreater
    obtain ⟨hprogram, herrors⟩ := hlarge hgreater
    exact ⟨herrors, congrArg Program.statements hprogram⟩
  · intro source
    obtain ⟨ts, last, hhands⟩ :=
      TokenSupply.exists_hands (Scanner.ofSource source)
    exact ⟨ts, last, Scanner.items_of_hands rfl hhands,
      Program.exactIntegers hhands⟩

/-- The greatest value with zeros in front is a program and is written
without them; one more is an error and no statement. -/
theorem ofText_digits_greatest :
    (∃ p, Program.ofText "009223372036854775807" = .ok p
        ∧ p.text = "9223372036854775807")
      ∧ (Program.ofSource (.ofText "9223372036854775808")).errors.length = 1
      ∧ (Program.ofSource
          (.ofText "9223372036854775808")).program.statements = [] := by
  have hdigits : ∀ c ∈ "009223372036854775807".toList,
      Numeral.isDigit c = true := List.all_eq_true.1 (by decide)
  have hmore : ∀ c ∈ "9223372036854775808".toList,
      Numeral.isDigit c = true := List.all_eq_true.1 (by decide)
  obtain ⟨-, haccepted, -⟩ := ofText_digits (by decide) hdigits
  obtain ⟨-, -, hrejected, -⟩ := ofText_digits (by decide) hmore
  obtain ⟨hprogram, htext⟩ := haccepted (by decide)
  obtain ⟨herrors, hstatements⟩ := hrejected (by decide)
  rw [String.ofList_toList] at hprogram herrors hstatements
  refine ⟨⟨_, hprogram, htext.trans (by decide)⟩, ?_, hstatements⟩
  rw [herrors]
  rfl

end Monkey
