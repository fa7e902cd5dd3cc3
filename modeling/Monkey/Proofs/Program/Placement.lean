/-
Where tokens stand does not matter. Reading goes the same way wherever the
tokens of a supply are put: the program and the errors are those of the
tokens where they were, put elsewhere with them (`Program.read_respan`). The
text of a program does not even show it (`Program.text_respan`).

So two texts with the same kinds and texts of tokens, laid out as they like,
mean the same. Put at one and the same place, their tokens are the same, and
so are their programs and their errors (`ofSource_of_forms`).
-/
import Monkey.Proofs.Program.Outcomes
import Monkey.Proofs.Token.Layout
import Monkey.Proofs.Tree.Retoken

namespace Monkey

-- ============================================================ elsewhere

/-- The program with its tokens elsewhere. -/
def Program.respan (g : Token → Span) (p : Program) : Program :=
  ⟨p.statements.map (.respan g)⟩

/-- Tokens that stand nowhere: all have the empty span at the origin. -/
def Token.nowhere (_ : Token) : Span := .origin

/-- An expression has the same text wherever its tokens stand. -/
theorem Expr.text_respan (g : Token → Span) (e : Expr) :
    (e.respan g).text = e.text := by
  rw [respan_eq_retoken, text_retoken]

/-- So has a statement. -/
theorem Statement.text_respan (g : Token → Span) (s : Statement) :
    (s.respan g).text = s.text := by
  cases s with
  | binding t name e => rw [respan, text, text, Expr.text_respan]; rfl
  | result t e => rw [respan, text, text, Expr.text_respan]; rfl
  | expression t e => rw [respan, text, text, Expr.text_respan]

/-- And so has a program. -/
theorem Program.text_respan (g : Token → Span) (p : Program) :
    (p.respan g).text = p.text := by
  have htexts : (p.statements.map (Statement.respan g)).map Statement.text
      = p.statements.map Statement.text := by
    rw [List.map_map]
    exact List.map_congr_left fun s _ => s.text_respan g
  rw [text, text, respan, htexts]

-- ============================================================= supplies

/-- These tokens and then this end of the input, as a list that hands them
out. -/
def Item.listed (ts : List Token) (e : Token) : List Item :=
  ts.map .ok ++ [.ok e]

/-- The list does hand them out. -/
theorem hands_listed {ts : List Token} {e : Token}
    (hts : ∀ t ∈ ts, t.kind ≠ .endOfInput) (he : e.kind = .endOfInput) :
    Hands (Item.listed ts e) ts (.ok e) := by
  induction ts with
  | nil => exact .ended rfl he
  | cons t ts ih =>
      obtain ⟨ht, hts⟩ := List.forall_mem_cons.1 hts
      exact .token rfl ht (ih hts)

/-- Tokens that stand elsewhere are read as the program and the errors that
the tokens are read as, elsewhere. -/
theorem Program.read_respan {σ : Type} [TokenSupply σ] {s : σ}
    {ts : List Token} {e : Token} (h : Hands s ts (.ok e))
    (g : Token → Span) :
    let elsewhere := read (Item.listed (ts.map (.respan g)) (e.respan g))
    elsewhere.program = (read s).program.respan g
      ∧ elsewhere.errors = (read s).errors.map (.respan g) := by
  have hts : ∀ t ∈ ts.map (Token.respan g), t.kind ≠ .endOfInput := by
    rw [List.forall_mem_map]
    exact h.ne_endOfInput
  have helsewhere := hands_listed (e := e.respan g) hts h.kind_closing
  have htoken (n : Nat) : (Window.start (Item.listed (ts.map (.respan g))
      (e.respan g))).token n = ((Window.start s).token n).respan g := by
    rw [(Window.sees_start helsewhere).token, (Window.sees_start h).token,
      List.getElem?_map]
    cases ts[n]? <;> rfl
  obtain ⟨hstatements, herrors⟩ := read_outcomes h
  obtain ⟨hstatements', herrors'⟩ := read_outcomes helsewhere
  rw [Window.outcomes_mirror htoken] at hstatements' herrors'
  rw [Outcome.filterMap_statement?_respan, ← hstatements] at hstatements'
  rw [Outcome.filterMap_error?_respan, ← herrors] at herrors'
  exact ⟨congrArg Program.mk hstatements', herrors'⟩

-- ========================================================= source texts

/-- Nowhere, tokens of the same forms are the same. -/
theorem map_respan_nowhere {ts us : List Token}
    (h : ts.map Token.form = us.map Token.form) :
    ts.map (Token.respan Token.nowhere)
      = us.map (Token.respan Token.nowhere) := by
  have hform : Token.respan Token.nowhere
      = (fun f => Token.mk f.1 f.2 .origin) ∘ Token.form := rfl
  rw [hform, ← List.map_map, h, List.map_map]

/-- Two texts whose tokens are of the same kinds and have the same texts, in
the same order, mean the same, however they are laid out. But for where
tokens stand, they are read as the same program and with the same errors, at
the same tokens; and the programs have the same text. -/
theorem ofSource_of_forms {a b : String}
    (h : (tokenize a).map (List.map Token.form)
      = (tokenize b).map (List.map Token.form)) :
    let reading := Program.ofSource (.ofText a)
    let reading' := Program.ofSource (.ofText b)
    reading.program.respan Token.nowhere
        = reading'.program.respan Token.nowhere
      ∧ reading.errors.map (ParseError.respan Token.nowhere)
        = reading'.errors.map (ParseError.respan Token.nowhere)
      ∧ reading.program.text = reading'.program.text := by
  intro reading reading'
  obtain ⟨ts, z, ha, -⟩ := hands_ofText a
  obtain ⟨us, z', hb, -⟩ := hands_ofText b
  rw [tokenize_of_hands ha, tokenize_of_hands hb] at h
  have hforms : (ts ++ [z]).map Token.form = (us ++ [z']).map Token.form :=
    Except.ok.inj h
  rw [List.map_append, List.map_append] at hforms
  obtain ⟨htokens, hend⟩ := List.append_inj' hforms rfl
  have hend : [z].map (Token.respan Token.nowhere)
      = [z'].map (Token.respan Token.nowhere) := map_respan_nowhere hend
  -- put nowhere, both texts have the same list of tokens
  obtain ⟨hprogram, herrors⟩ := Program.read_respan ha Token.nowhere
  obtain ⟨hprogram', herrors'⟩ := Program.read_respan hb Token.nowhere
  rw [map_respan_nowhere htokens, List.singleton_inj.1 hend]
    at hprogram herrors
  have hsame : reading.program.respan Token.nowhere
      = reading'.program.respan Token.nowhere :=
    hprogram.symm.trans hprogram'
  refine ⟨hsame, herrors.symm.trans herrors', ?_⟩
  calc reading.program.text
      = (reading.program.respan Token.nowhere).text :=
        (Program.text_respan _ _).symm
    _ = (reading'.program.respan Token.nowhere).text := by rw [hsame]
    _ = reading'.program.text := Program.text_respan _ _

/-- Two layouts of a binding, and of an expression that a parenthesis breaks
off: the programs differ, but only in where their tokens stand. -/
theorem ofSource_of_forms_spread :
    let tight := "let x=-5;foo(1"
    let spread := "\n let\tx =\r\n - 5 ; foo\n( 1 "
    let reading := Program.ofSource (.ofText tight)
    let reading' := Program.ofSource (.ofText spread)
    (tokenize tight).map (List.map Token.form)
        = (tokenize spread).map (List.map Token.form)
      ∧ reading.program ≠ reading'.program
      ∧ reading.program.respan Token.nowhere
        = reading'.program.respan Token.nowhere
      ∧ reading.errors.map (ParseError.respan Token.nowhere)
        = reading'.errors.map (ParseError.respan Token.nowhere)
      ∧ reading.program.text = reading'.program.text
      ∧ reading'.program.text = "let x = (-5);foo1" := by
  intro tight spread reading reading'
  have h : (tokenize tight).map (List.map Token.form)
      = (tokenize spread).map (List.map Token.form) := by
    decide +kernel
  obtain ⟨hprogram, herrors, htext⟩ := ofSource_of_forms h
  exact ⟨h, by decide +kernel, hprogram, herrors, htext, by decide +kernel⟩

end Monkey
