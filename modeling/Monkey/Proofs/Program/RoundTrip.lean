/-
Reading a program undoes writing it. The tokens of a grouped expression
are climbed as if the whole were one operand (`climb_tokens`): an inner
operation is complete exactly where its tokens end, because what stands
behind it binds no tighter. From there a statement, with or without a
semicolon, and a list of statements are read back as they were written.
-/
import Monkey.Program.Reading
import Monkey.Proofs.Program.Climbing
import Monkey.Proofs.Program.Moving
import Monkey.Proofs.Token.Lossless
import Monkey.Proofs.Tree.Written

namespace Monkey

namespace Expr

/-- An operand of one token that fits is read from it. -/
theorem Fits.operand_integer {t : Token} {v : Int}
    (h : (Expr.integer t v).Fits) : t.operand = .ok (.integer t v) := by
  obtain ⟨hkind, hne, hdigits, rfl, hle⟩ := h
  exact (Token.operand_of_digits hkind ⟨hne, hdigits⟩).trans (if_pos hle)

end Expr

namespace Window

open Monkey.Frame Statement

variable {σ : Type} [TokenSupply σ] {last : Item}

-- ========================================================= expressions

/-- A grouped expression is climbed as one operand. It may stand behind
whatever binds less tightly than its operator, and before whatever binds
no tighter. -/
theorem climb_tokens {e : Expr} (hgrouped : e.Grouped) (hfits : e.Fits)
    (least : Precedence) (frames : List Frame) {w : Window σ}
    {rest : List Token} (hw : w.Sees (e.tokens ++ rest) last)
    (hbehind : ∀ o ∈ e.operator?, threshold least frames < o.precedence)
    (hbefore : ∀ o ∈ e.operator?,
      (rest.headD last.closing).kind.precedence ≤ o.precedence) :
    ∃ t w', w.climb least frames = resume least frames e w'
      ∧ w'.Sees (t :: rest) last := by
  induction e generalizing least frames w rest with
  | identifier id =>
      obtain ⟨hkind, hname⟩ := hfits
      have hcurrent : w.current = id.token := hw.current
      have hid : id = .ofToken w.current := by
        rw [hcurrent, Identifier.ofToken, hname]
      refine ⟨id.token, w, climb_of_operand ?_, hw⟩
      rw [hid]
      exact .name (hcurrent ▸ hkind)
  | integer t v =>
      have hcurrent : w.current = t := hw.current
      refine ⟨t, w, climb_of_operand (Token.isOperand_iff.2 ?_), hw⟩
      rw [hcurrent, hfits.operand_integer]
  | unary t op operand ih =>
      obtain ⟨hnone, hgrouped⟩ := hgrouped
      obtain ⟨hop, hfits⟩ := hfits
      have hcurrent : w.current = t := hw.current
      obtain ⟨u, w', hclimb, hw'⟩ := ih hgrouped hfits least
        (.unary t op :: frames) hw.slide (by simp [hnone]) (by simp [hnone])
      refine ⟨u, w', ?_, hw'⟩
      rw [climb_of_unary (hcurrent ▸ hop), hcurrent, hclimb, resume_unary]
  | binary t op left right ihl ihr =>
      obtain ⟨hleft, hright, hgl, hgr⟩ := hgrouped
      obtain ⟨hop, hfl, hfr⟩ := hfits
      have hlt : threshold least frames < op.precedence := hbehind op rfl
      have hprec : t.kind.precedence = op.precedence := by
        rw [TokenKind.precedence, hop]
      rw [Expr.tokens, List.append_assoc, List.cons_append] at hw
      -- the left operand stands before the operator
      have hbehindl : ∀ o ∈ left.operator?,
          threshold least frames < o.precedence := by
        intro o ho
        exact Nat.lt_of_lt_of_le hlt (hleft o ho)
      have hbeforel : ∀ o ∈ left.operator?,
          t.kind.precedence ≤ o.precedence := by
        intro o ho
        rw [hprec]
        exact hleft o ho
      obtain ⟨u, w₁, hclimbl, hw₁⟩ :=
        ihl hgl hfl least frames hw hbehindl hbeforel
      have hahead : w₁.ahead = t := hw₁.ahead
      -- the right one stands behind it, in its frame
      have hbeforer : ∀ o ∈ right.operator?,
          (rest.headD last.closing).kind.precedence ≤ o.precedence := by
        intro o ho
        exact Nat.le_trans (hbefore op rfl) (Nat.le_of_lt (hright o ho))
      obtain ⟨v, w₂, hclimbr, hw₂⟩ := ihr hgr hfr least
        (.binary left t op :: frames) hw₁.slide.slide hright hbeforer
      refine ⟨v, w₂, ?_, hw₂⟩
      rw [hclimbl, resume_of_tighter (hahead ▸ hop) hlt, hahead, hclimbr,
        resume_binary]
      rw [hw₂.ahead]
      exact hbefore op rfl

-- ========================================================== statements

/-- A window behind an expression moves past a semicolon that ends it. -/
theorem closing_tokens {e : Expr} (hgrouped : e.Grouped) (hfits : e.Fits)
    {w : Window σ} {behind rest : List Token}
    (hw : w.Sees (e.tokens ++ behind) last) (hrest : Closes behind rest)
    (hnext : BinaryOperator.ofKind? (behind.headD last.closing).kind = none) :
    ∃ w', w.closing = (.ok e, w') ∧ w'.slide.Sees rest last := by
  have hlowest : (behind.headD last.closing).kind.precedence = .lowest := by
    rw [TokenKind.precedence, hnext]
  have hbefore : ∀ o ∈ e.operator?,
      (behind.headD last.closing).kind.precedence ≤ o.precedence := by
    intro o _
    rw [hlowest]
    exact Nat.le_of_lt o.lowest_lt_precedence
  obtain ⟨t, w', hclimb, hw'⟩ := climb_tokens hgrouped hfits .lowest [] hw
    (fun o _ => o.lowest_lt_precedence) hbefore
  have hexpression : w.expression .lowest = (.ok e, w') := by
    rw [expression, hclimb, resume_of_none (hw'.ahead ▸ hnext)]
    rfl
  rw [closing, hexpression]
  cases hrest with
  | @semicolon u us hu =>
      have hahead : w'.ahead.is .semicolon = true := by
        rw [hw'.ahead]
        simpa [Token.is] using hu
      exact ⟨w'.slide, by simp [hahead], hw'.slide.slide⟩
  | bare hnone =>
      have hahead : w'.ahead.is .semicolon = false := by
        rw [hw'.ahead]
        cases behind with
        | nil =>
            have hend : last.closing.kind = .endOfInput := hw'.closing
            simp [Token.is, hend]
        | cons u us => simpa [Token.is] using hnone u rfl
      exact ⟨w', by simp [hahead], hw'.slide⟩

/-- A written statement is read back. -/
theorem statement_written {s : Statement} {ts : List Token}
    (hs : s.Written ts) (hgrouped : s.value.Grouped) (hfits : s.value.Fits)
    {w : Window σ} {behind rest : List Token}
    (hw : w.Sees (ts ++ behind) last) (hrest : Closes behind rest)
    (hnext : BinaryOperator.ofKind? (behind.headD last.closing).kind = none) :
    ∃ w', w.statement = (.ok s, w') ∧ w'.slide.Sees rest last := by
  cases hs with
  | @binding t equals name e ht hname htext hequals =>
      have hcurrent : w.current = t := hw.current
      have hahead : w.ahead = name.token := hw.ahead
      have hahead₁ : w.slide.ahead = equals := hw.slide.ahead
      obtain ⟨w', hclosing, hw'⟩ :=
        closing_tokens hgrouped hfits hw.slide.slide.slide hrest hnext
      refine ⟨w', ?_, hw'⟩
      rw [statement_of_let (hcurrent ▸ ht),
        binding_of_eq (hahead ▸ hname) (hahead₁ ▸ hequals), hclosing, hcurrent,
        hahead, Identifier.ofToken, htext]
      rfl
  | @result t e ht =>
      have hcurrent : w.current = t := hw.current
      obtain ⟨w', hclosing, hw'⟩ :=
        closing_tokens hgrouped hfits hw.slide hrest hnext
      refine ⟨w', ?_, hw'⟩
      rw [statement_of_return (hcurrent ▸ ht), result_eq, hclosing, hcurrent]
      rfl
  | @expression t e ht =>
      have hcurrent : w.current = t := by
        obtain ⟨u, us, hu⟩ := e.exists_tokens_eq_cons
        rw [hw.current, hu]
        rw [hu] at ht
        exact Option.some.inj ht
      obtain ⟨w', hclosing, hw'⟩ :=
        closing_tokens hgrouped hfits hw hrest hnext
      refine ⟨w', ?_, hw'⟩
      have hkind := hfits.kind_head ht
      rw [statement_of_ne, bare_eq, hclosing, hcurrent]
      · rfl
      · rw [hcurrent]
        rcases hkind with h | h | h | h <;> rw [h] <;> decide
      · rw [hcurrent]
        rcases hkind with h | h | h | h <;> rw [h] <;> decide

-- ============================================================ programs

/-- The first token of a statement, short of a minus sign, is not one that
the statement before it could go on with. -/
private theorem head_of_written {s : Statement} {ts : List Token}
    (hs : s.Written ts) (hfits : s.value.Fits)
    (hminus : ∀ t e, s = .expression t e → t.kind ≠ .minus) {t : Token}
    (ht : ts.head? = some t) :
    t.kind ≠ .semicolon ∧ BinaryOperator.ofKind? t.kind = none := by
  cases hs with
  | binding hlet =>
      cases ht
      rw [hlet]
      exact ⟨by decide, rfl⟩
  | result hreturn =>
      cases ht
      rw [hreturn]
      exact ⟨by decide, rfl⟩
  | @expression u e hu =>
      obtain rfl : u = t := Option.some.inj (hu.symm.trans ht)
      have hne := hminus u e rfl
      rcases hfits.kind_head hu with h | h | h | h
      · rw [h]; exact ⟨by decide, rfl⟩
      · rw [h]; exact ⟨by decide, rfl⟩
      · rw [h]; exact ⟨by decide, rfl⟩
      · exact absurd h hne

/-- Nor is that of any statements. -/
private theorem head_of_writtenAll {ss : List Statement} {ts : List Token}
    (h : WrittenAll ss ts) (hfits : ∀ s ∈ ss, s.value.Fits)
    (hminus : ∀ t e, ss.head? = some (.expression t e) → t.kind ≠ .minus) :
    ∀ t, ts.head? = some t →
      t.kind ≠ .semicolon ∧ BinaryOperator.ofKind? t.kind = none := by
  intro t ht
  cases h with
  | nil => cases ht
  | closed hs _ _ =>
      rw [hs.head?_append] at ht
      refine head_of_written hs (hfits _ List.mem_cons_self) ?_ ht
      intro u e hu
      subst hu
      exact hminus u e rfl
  | bare hs _ _ =>
      rw [hs.head?_append] at ht
      refine head_of_written hs (hfits _ List.mem_cons_self) ?_ ht
      intro u e hu
      subst hu
      exact hminus u e rfl

/-- Before a written statement a window is not at the end. -/
private theorem Sees.current_ne_endOfInput {w : Window σ} {s : Statement}
    {ts us : List Token} (h : w.Sees (ts ++ us) last) (hs : s.Written ts) :
    w.current.kind ≠ .endOfInput := by
  obtain ⟨t, rest, rfl⟩ := hs.exists_eq_cons
  intro hend
  exact List.cons_ne_nil _ _ (h.current_eq_endOfInput_iff.1 hend)

/-- Written statements are read back one after another. -/
theorem statements_writtenAll {ss : List Statement} {ts : List Token}
    {z : Token} (h : WrittenAll ss ts)
    (hfits : ∀ s ∈ ss, s.value.Grouped ∧ s.value.Fits) {w : Window σ}
    (hw : w.Sees ts (.ok z)) :
    w.statements.1 = ss ∧ w.statements.2.errors = w.errors := by
  induction h generalizing w with
  | nil =>
      have hcurrent := hw.current_eq_endOfInput_iff.2 rfl
      rw [statements, dif_pos hcurrent]
      exact ⟨rfl, rfl⟩
  | @closed s ss ts us semicolon hs hsemicolon _ ih =>
      obtain ⟨⟨hg, hf⟩, hlater⟩ := List.forall_mem_cons.1 hfits
      obtain ⟨w', hstatement, hw'⟩ := statement_written hs hg hf hw
        (.semicolon hsemicolon) (by rw [List.headD_cons, hsemicolon]; rfl)
      obtain ⟨hss, hes⟩ := ih hlater hw'
      rw [statements_of_ok (hw.current_ne_endOfInput hs) hstatement]
      exact ⟨congrArg (s :: ·) hss,
        hes.trans (errors_statement hw hstatement).2⟩
  | @bare s ss ts us hs hnext later ih =>
      obtain ⟨⟨hg, hf⟩, hlater⟩ := List.forall_mem_cons.1 hfits
      have hhead := head_of_writtenAll later (fun s h => (hlater s h).2) hnext
      have hop : BinaryOperator.ofKind? (us.headD z).kind = none := by
        cases us with
        | nil => rw [List.headD_nil, show z.kind = _ from hw.closing]; rfl
        | cons u us => exact (hhead u rfl).2
      obtain ⟨w', hstatement, hw'⟩ := statement_written hs hg hf hw
        (.bare fun t ht => (hhead t ht).1) hop
      obtain ⟨hss, hes⟩ := ih hlater hw'
      rw [statements_of_ok (hw.current_ne_endOfInput hs) hstatement]
      exact ⟨congrArg (s :: ·) hss,
        hes.trans (errors_statement hw hstatement).2⟩

end Window

-- ======================================================= source texts

/-- Reading a program undoes writing it. Whatever statements over grouped
expressions are written down, with a semicolon or without one behind each
where the next does not start with a minus sign, a text of which these are
the tokens is read as exactly these statements, without an error. -/
theorem read_writtenAll {src : String} {ss : List Statement}
    {ts : List Token} {e : Token} (hsrc : tokenize src = .ok (ts ++ [e]))
    (hwritten : Statement.WrittenAll ss ts)
    (hss : ∀ s ∈ ss, s.value.Grouped ∧ s.value.Fits) :
    (Program.ofSource (.ofText src)).program = ⟨ss⟩
      ∧ (Program.ofSource (.ofText src)).errors = [] := by
  have hhands := hands_of_tokenize hsrc
  obtain ⟨hstatements, herrors⟩ := Window.statements_writtenAll hwritten hss
    (Window.sees_start hhands)
  rw [Window.errors_start hhands] at herrors
  exact ⟨congrArg Program.mk hstatements, herrors⟩

/-- A token on the first line of a text, from this byte on. -/
private def onLine (kind : TokenKind) (literal : String) (n : Nat) : Token :=
  ⟨kind, literal, ⟨⟨n, 1, n + 1⟩,
    ⟨n + literal.length, 1, n + literal.length + 1⟩⟩⟩

/-- A binding before an expression that starts with a minus sign: the
semicolon between them is needed, and none behind the last. The value that
is bound groups to the left, and the operand in the middle of it binds
tighter. -/
theorem read_writtenAll_let_minus :
    let name := onLine .identifier "x" 4
    let one := onLine .integer "1" 6
    let minus := onLine .minus "-" 7
    let y := onLine .identifier "y" 8
    let times := onLine .asterisk "*" 9
    let two := onLine .integer "2" 10
    let minus' := onLine .minus "-" 11
    let z := onLine .identifier "z" 12
    let sign := onLine .minus "-" 14
    let operand := onLine .identifier "x" 15
    let product : Expr :=
      .binary times .multiply (.identifier ⟨y, "y"⟩) (.integer two 2)
    let difference : Expr :=
      .binary minus .subtract (.integer one 1) product
    let statements : List Statement :=
      [.binding (onLine .letKeyword "let" 0) ⟨name, "x"⟩
          (.binary minus' .subtract difference (.identifier ⟨z, "z"⟩)),
        .expression sign (.unary sign .negate (.identifier ⟨operand, "x"⟩))]
    let src := "let x=1-y*2-z;-x"
    (Program.ofSource (.ofText src)).program = ⟨statements⟩
      ∧ (Program.ofSource (.ofText src)).errors = [] := by
  intro name one minus y times two minus' z sign operand product difference
    statements src
  have hsrc : tokenize src
      = .ok ([onLine .letKeyword "let" 0, name, onLine .assign "=" 5, one,
          minus, y, times, two, minus', z, onLine .semicolon ";" 13, sign,
          operand] ++ [onLine .endOfInput "" 16]) := by
    decide +kernel
  refine read_writtenAll hsrc ?_ ?_
  · exact .closed (.binding rfl rfl rfl rfl) rfl
      (.bare (.expression rfl) (by simp) .nil)
  · decide +kernel

end Monkey
