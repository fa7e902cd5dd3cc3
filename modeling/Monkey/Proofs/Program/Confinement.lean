/-
Semicolons confine errors. However wrong a text is, a semicolon in it ends
the statement or the error it is in, so what stands behind it is read as
if nothing stood before. A text that ends with a semicolon and any text
behind it are read as the one and then as the other, from where it stands
(`ofSource_append_of_semicolon`).

Reading a statement ends at a semicolon at the latest
(`Window.statement_parallel`). So two windows with the same tokens up to a
semicolon, of which the second has none behind it, give the same outcomes
until both have moved past it, at the same time (`Window.outcomes_append`).
-/
import Monkey.Proofs.Program.Outcomes
import Monkey.Proofs.Token.Relocation
import Monkey.Proofs.Token.Seam

namespace Monkey

open Position

namespace Window

variable {σ σ' : Type} [TokenSupply σ] [TokenSupply σ']

/-- The rounds of a window with a semicolon as the last of its tokens are
also the first rounds of a window that has more tokens behind it. The
others start behind the semicolon. -/
theorem outcomes_append {w : Window σ} {v : Window σ'} {n : Nat}
    (h : Mirrors Token.span w v n) (hstop : (w.token n).kind.IsStop)
    (hmore : ∀ i ≤ n, (w.token i).kind ≠ .endOfInput)
    (hend : (v.token (n + 1)).kind = .endOfInput) :
    w.outcomes = v.outcomes ++ (w.slides (n + 1)).outcomes
      ∧ ∀ e, .error e ∈ v.outcomes → e.token.kind ≠ .endOfInput := by
  have hw : w.current.kind ≠ .endOfInput := hmore 0 (Nat.zero_le n)
  have hv : v.current.kind ≠ .endOfInput := by
    rw [h.current]
    exact hw
  obtain ⟨m, hle, hleft, hright, hresult, herror⟩ :=
    statement_parallel h hstop
  replace hresult : v.statement.1 = w.statement.1 :=
    hresult.trans (Outcome.respan_span _)
  rw [outcomes_of_token hw, outcomes_of_token hv, hleft, hright, hresult,
    slide_slides, slide_slides]
  -- one round later both are past the semicolon, or before it still
  obtain ⟨hlater, herrors⟩ : (w.slides (m + 1)).outcomes
        = (v.slides (m + 1)).outcomes ++ (w.slides (n + 1)).outcomes
      ∧ ∀ e, .error e ∈ (v.slides (m + 1)).outcomes →
        e.token.kind ≠ .endOfInput := by
    rcases Nat.eq_or_lt_of_le hle with rfl | hlt
    · have hnone : (v.slides (m + 1)).outcomes = [] := outcomes_of_end hend
      rw [hnone]
      exact ⟨rfl, by simp⟩
    · obtain ⟨k, rfl⟩ : ∃ k, n = m + 1 + k := ⟨n - (m + 1), by omega⟩
      rw [Nat.add_assoc _ k, slides_add w (m + 1)]
      apply outcomes_append h.slides
      · rwa [token_slides]
      · intro i hi
        rw [token_slides]
        exact hmore _ (by omega)
      · rwa [token_slides]
  constructor
  · rw [hlater, List.cons_append]
  · intro e he
    rcases List.mem_cons.1 he with he | he
    · obtain ⟨i, hi, htoken⟩ := herror e he.symm
      rw [htoken]
      exact hmore i hi
    · exact herrors e he
termination_by n

/-- Tokens of which the last is a semicolon, and then others, are read as
the first and then as the others, wherever these stand. -/
theorem outcomes_of_append {w v u : Window σ} {g : Token → Span}
    {ts us : List Token} {t z z' : Token} (ht : t.kind = .semicolon)
    (hv : v.Sees (ts ++ [t]) (.ok z)) (hu : u.Sees us (.ok z'))
    (hw : w.Sees (ts ++ [t] ++ us.map (.respan g)) (.ok (z'.respan g))) :
    w.outcomes = v.outcomes ++ u.outcomes.map (.respan g)
      ∧ ∀ e, .error e ∈ v.outcomes → e.token.kind ≠ .endOfInput := by
  have htoken {i : Nat} (hi : i ≤ ts.length) :
      v.token i = w.token i ∧ v.token i ∈ ts ++ [t] := by
    have hi : i < (ts ++ [t]).length := by simpa using Nat.lt_succ_of_le hi
    rw [hv.token, hw.token, List.getElem?_append_left hi,
      List.getElem?_eq_getElem hi]
    exact ⟨rfl, List.getElem_mem hi⟩
  have hbehind (n : Nat) : (w.slides (ts.length + 1)).token n
      = (u.token n).respan g := by
    have hw := hw.slides (ts.length + 1)
    rw [List.drop_left' (by simp)] at hw
    rw [hw.token, hu.token, List.getElem?_map]
    cases us[n]? <;> rfl
  rw [← outcomes_mirror hbehind]
  apply outcomes_append
  · intro i hi
    exact (htoken hi).1
  · rw [← (htoken (Nat.le_refl _)).1, hv.token]
    simp [ht, TokenKind.IsStop]
  · intro i hi
    rw [← (htoken hi).1]
    exact hv.tokens _ (htoken hi).2
  · rw [hv.token]
    simpa using hv.closing

end Window

-- ======================================================= source texts

/-- What a text with a semicolon at its end ends with is that semicolon, so
it ends before everything. -/
theorem endsBefore_of_semicolon {text word rest : List Char}
    {kind : TokenKind} (hlast : text.getLast? = some ';')
    (hsuffix : word <:+ text) (h : Lexeme kind word []) :
    kind.EndsBefore rest := by
  obtain ⟨before, rfl⟩ := hsuffix
  obtain ⟨c, hc⟩ : ∃ c, word.getLast? = some c :=
    List.getLast?_isSome.2 h.ne_nil |> Option.isSome_iff_exists.1
  rw [List.getLast?_append, hc] at hlast
  cases hlast
  obtain rfl := h.eq_semicolon (List.mem_of_getLast? hc)
  exact .of_ofSymbol? (c := ';') rfl

/-- Reading a program goes on behind a semicolon as if nothing stood
before. If a text ends with a semicolon, whatever else it is, that text and
any other behind it are read as the statements and the errors of the first,
and then those of the other, from where it stands. No error of the first is
at the end of the input. -/
theorem ofSource_append_of_semicolon (a b : String)
    (ha : a.toList.getLast? = some ';') :
    (Program.ofSource (.ofText (a ++ b))).program.statements
        = (Program.ofSource (.ofText a)).program.statements
          ++ (Program.ofSource (.ofText b)).program.statements.map
            (.respan (behind a).relocation)
      ∧ (Program.ofSource (.ofText (a ++ b))).errors
        = (Program.ofSource (.ofText a)).errors
          ++ (Program.ofSource (.ofText b)).errors.map
            (.respan (behind a).relocation)
      ∧ ∀ e ∈ (Program.ofSource (.ofText a)).errors,
        e.token.kind ≠ .endOfInput := by
  obtain ⟨ts, z, hv, hcuts⟩ := hands_ofText a
  obtain ⟨us, z', hu, hcuts'⟩ := hands_ofText b
  obtain ⟨ts, t, rfl, ht⟩ := hcuts.exists_semicolon ha
  have hbehind := hcuts'.relocate (behind a) counted_origin
  rw [relocate_origin] at hbehind
  have hw : Hands (Scanner.ofText (a ++ b))
      (ts ++ [t] ++ us.map (.respan (behind a).relocation))
      (.ok (z'.respan (behind a).relocation)) := by
    apply hands_of_cuts (faces_ofText (a ++ b))
    rw [String.toList_append]
    exact hcuts.append hbehind (fun _ _ => endsBefore_of_semicolon ha)
  obtain ⟨houtcomes, hend⟩ := Window.outcomes_of_append ht
    (Window.sees_start hv) (Window.sees_start hu) (Window.sees_start hw)
  obtain ⟨hstatements, herrors⟩ := Program.read_outcomes hw
  obtain ⟨hstatements₁, herrors₁⟩ := Program.read_outcomes hv
  obtain ⟨hstatements₂, herrors₂⟩ := Program.read_outcomes hu
  rw [houtcomes, List.filterMap_append] at hstatements herrors
  rw [Outcome.filterMap_statement?_respan, ← hstatements₁,
    ← hstatements₂] at hstatements
  rw [Outcome.filterMap_error?_respan, ← herrors₁, ← herrors₂] at herrors
  refine ⟨hstatements, herrors, ?_⟩
  intro e he
  apply hend
  rw [← Outcome.mem_filterMap_error?, ← herrors₁]
  exact he

/-- Two errors up to a semicolon, and one at the end of the input: the name
behind the semicolon is read, and stands, as the end does, in the lines and
columns of the whole text. -/
theorem ofSource_append_of_semicolon_malformed :
    let reading := Program.ofSource (.ofText ("(\n1 + ;" ++ " x\nlet"))
    let token (kind : TokenKind) (literal : String) (start stop : Position) :=
      Token.mk kind literal ⟨start, stop⟩
    let paren := token .leftParen "(" ⟨0, 1, 1⟩ ⟨1, 1, 2⟩
    let semicolon := token .semicolon ";" ⟨6, 2, 5⟩ ⟨7, 2, 6⟩
    let x := token .identifier "x" ⟨8, 2, 7⟩ ⟨9, 2, 8⟩
    let last := token .endOfInput "" ⟨13, 3, 4⟩ ⟨13, 3, 4⟩
    "(\n1 + ;".toList.getLast? = some ';'
      ∧ reading.program.statements = [.expression x (.identifier ⟨x, "x"⟩)]
      ∧ reading.errors = [⟨.noOperand .leftParen, paren⟩,
          ⟨.noOperand .semicolon, semicolon⟩,
          ⟨.unexpectedToken .identifier .endOfInput, last⟩] := by
  intro reading token paren semicolon x last
  have ha : "(\n1 + ;".toList.getLast? = some ';' := by decide
  obtain ⟨hstatements, herrors, -⟩ :=
    ofSource_append_of_semicolon "(\n1 + ;" " x\nlet" ha
  refine ⟨ha, hstatements.trans ?_, herrors.trans ?_⟩
  · decide +kernel
  · decide +kernel

end Monkey
