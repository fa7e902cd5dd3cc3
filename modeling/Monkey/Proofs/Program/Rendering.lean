/-
The text of a statement without its parentheses is read as the statement
(`ofText_unparenthesized`): the parentheses say what precedence says anyway.

A tree that was read agrees with its tokens (`Program.read_agrees`), so the
characters of its text are lexemes, with spaces where two would run together;
cut again, they are the tokens of a tree that differs from it in where they
stand and in the zeros before its integers (`Expr.exists_cuts`). The other
half is that reading undoes writing (`Window.statements_writtenAll`) where
operators are grouped, as they are in all that is read
(`Window.statements_grouped`).
-/
import Monkey.Proofs.Program.Keeping
import Monkey.Proofs.Program.RoundTrip
import Monkey.Proofs.Tree.Retoken

namespace Monkey

-- ========================================================= parentheses

namespace Text

/-- Whether a character is a parenthesis. -/
def isParen (c : Char) : Bool := c == '(' || c == ')'

/-- The characters of a text but for its parentheses. -/
def flat (text : String) : List Char := text.toList.filter (!isParen ·)

/-- The text without its parentheses. -/
def unparenthesized (text : String) : String := String.ofList (flat text)

theorem flat_append (a b : String) : flat (a ++ b) = flat a ++ flat b := by
  rw [flat, String.toList_append, List.filter_append, flat, flat]

/-- A text in which there is none stays as it is. -/
theorem flat_eq_toList {text : String} {p : Char → Bool}
    (h : ∀ c ∈ text.toList, p c = true)
    (hopen : p '(' = false) (hclose : p ')' = false) :
    flat text = text.toList := by
  apply List.filter_eq_self.2
  intro c hc
  have hp := h c hc
  simp only [isParen, Bool.not_eq_true', Bool.or_eq_false_iff,
    beq_eq_false_iff_ne]
  constructor
  · rintro rfl
    rw [hopen] at hp
    cases hp
  · rintro rfl
    rw [hclose] at hp
    cases hp

end Text

open Text

-- =============================================================== gists

/-- What a token is: its kind and its text, but neither where it stands nor
how a number is spelled. -/
def Token.gist (t : Token) : Token :=
  ⟨t.kind, if t.kind = .integer then "" else t.literal, .origin⟩

/-- Tokens of one kind and, unless they are integers, one text are the
same. -/
theorem Token.gist_congr {t u : Token} (hkind : t.kind = u.kind)
    (hliteral : t.kind ≠ .integer → t.literal = u.literal) :
    t.gist = u.gist := by
  unfold gist
  rw [← hkind]
  by_cases h : t.kind = .integer
  · rw [if_pos h, if_pos h]
  · rw [if_neg h, if_neg h, hliteral h]

-- =============================================================== tokens

/-- A space is nothing but a blank. -/
theorem isBlank_space : ∀ c ∈ [' '], isBlank c = true :=
  List.forall_mem_singleton.2 (by decide)

/-- A token behind blanks is cut from its spelling, before whatever it does
not take in. -/
theorem Cuts.cons {p : Position} {kind : TokenKind}
    {blanks word rest : List Char} {ts : List Token} {z : Token}
    (hblanks : ∀ c ∈ blanks, isBlank c = true)
    (hspelling : Spelling kind word) (hends : kind.EndsBefore rest)
    (later : Cuts (p.afterAll (blanks ++ word)) rest ts z) :
    ∃ t : Token, Cuts p (blanks ++ (word ++ rest)) (t :: ts) z
      ∧ t.kind = kind ∧ t.literal = String.ofList word :=
  ⟨_, .token hblanks (hspelling.lexeme hends) later, rfl, rfl⟩

/-- At the end of a text it needs no more than its spelling. -/
theorem Cuts.one {kind : TokenKind} {blanks word : List Char}
    (hblanks : ∀ c ∈ blanks, isBlank c = true)
    (hspelling : Spelling kind word) (p : Position) :
    ∃ t z, Cuts p (blanks ++ word) [t] z
      ∧ t.kind = kind ∧ t.literal = String.ofList word := by
  obtain ⟨t, hcuts, ht⟩ :=
    Cuts.cons (p := p) hblanks hspelling .nil (.ended (List.forall_mem_nil _))
  rw [List.append_nil] at hcuts
  exact ⟨t, _, hcuts, ht⟩

/-- A name that agrees with its token is spelled as an identifier. -/
theorem Identifier.Agrees.spelling {id : Identifier} (h : id.Agrees) :
    Spelling .identifier id.name.toList := by
  have hne : id.name.toList ≠ [] := mt String.toList_eq_nil_iff.1 h.ne_empty
  have hspelling := spelling_ofWord hne h.letters
  rwa [String.ofList_toList,
    (wordKind_ofWord id.name).identifier_iff.2 h.not_reserved] at hspelling

/-- Every token that is spelled so has the gist of its token. -/
theorem Identifier.Agrees.gist {id : Identifier} (h : id.Agrees) {t : Token}
    (hkind : t.kind = .identifier) (hliteral : t.literal = id.name) :
    t.gist = id.token.gist :=
  Token.gist_congr (hkind.trans h.kind.symm)
    (fun _ => hliteral.trans h.literal.symm)

/-- An operator in front of an operand ends before whatever is not an equals
sign. -/
theorem UnaryOperator.endsBefore {k : TokenKind} {op : UnaryOperator}
    (h : ofKind? k = some op) {rest : List Char}
    (hrest : rest.head? ≠ some '=') : k.EndsBefore rest := by
  have hk : ¬k.IsWord ∧ k ≠ .integer := by
    unfold ofKind? at h
    split at h <;> cases h <;> decide
  exact ⟨fun hword => absurd hword hk.1, fun hinteger => absurd hinteger hk.2,
    fun _ => hrest⟩

-- =============================================================== trees

namespace Expr

section characters

variable (t : Token) (op : UnaryOperator) (o : BinaryOperator)
  (operand left right : Expr)

/-- An operation in front of its operand without parentheses. -/
theorem flat_unary :
    flat (unary t op operand).text = op.text.toList ++ flat operand.text := by
  have hop : flat op.text = op.text.toList := by cases op <;> rfl
  rw [text, flat_append, flat_append, flat_append, hop]
  exact List.append_nil _

/-- An operation between two operands without parentheses. -/
theorem flat_binary :
    flat (binary t o left right).text
      = flat left.text
        ++ ([' '] ++ (o.text.toList ++ ([' '] ++ flat right.text))) := by
  have ho : flat o.text = o.text.toList := by cases o <;> rfl
  simp only [text, flat_append, ho, List.append_assoc]
  show flat left.text ++ ([' '] ++ (o.text.toList ++ ([' ']
    ++ (flat right.text ++ [])))) = _
  rw [List.append_nil]

/-- A value that is not negative is written in its digits. -/
theorem flat_integer (n : Nat) :
    flat (integer t n).text = Nat.toDigits 10 n := by
  have hdigits := Numeral.toList_toString_natCast n
  rw [text, flat_eq_toList (p := Numeral.isDigit) _ rfl rfl, hdigits]
  rw [hdigits]
  exact fun _ => Numeral.isDigit_of_mem_toDigits

end characters

/-- An expression that agrees with its tokens does not start with an equals
sign. -/
theorem head?_flat {e : Expr} (h : ∀ p ∈ e.parts, p.Agrees) :
    (flat e.text).head? ≠ some '=' := by
  induction e with
  | identifier id =>
      cases List.forall_mem_singleton.1 h with
      | identifier hid =>
          rw [text, flat_eq_toList hid.letters (by decide) (by decide)]
          intro hc
          exact absurd (hid.letters '=' (List.mem_of_head? hc)) (by decide)
  | integer t v =>
      cases List.forall_mem_singleton.1 h with
      | integer _ _ _ hvalue =>
          subst hvalue
          rw [flat_integer]
          intro hc
          have hdigit := Numeral.isDigit_of_mem_toDigits (List.mem_of_head? hc)
          exact absurd hdigit (by decide)
  | unary t op operand ih =>
      rw [flat_unary]
      cases op with
      | not => exact fun hc => by cases hc
      | negate => exact fun hc => by cases hc
  | binary t op left right ihl ihr =>
      obtain ⟨hleft, -⟩ :=
        List.forall_mem_append.1 (List.forall_mem_cons.1 h).2
      have hleft := ihl hleft
      rw [flat_binary, List.head?_append]
      cases hhead : (flat left.text).head? with
      | none => exact fun hc => by cases hc
      | some c => rwa [hhead] at hleft

/-- A name that agrees with its token could have been read from its
characters. -/
theorem exists_cuts_identifier {id : Identifier} (h : id.Agrees)
    {blanks : List Char} (hblanks : ∀ c ∈ blanks, isBlank c = true)
    (p : Position) :
    ∃ t, (∃ z, Cuts p (blanks ++ flat (identifier id).text) [t] z)
      ∧ (identifier ⟨t, id.name⟩).Fits ∧ t.gist = id.token.gist := by
  obtain ⟨t, z, hcuts, hkind, hliteral⟩ := Cuts.one hblanks h.spelling p
  rw [String.ofList_toList] at hliteral
  rw [text, flat_eq_toList h.letters (by decide) (by decide)]
  exact ⟨t, ⟨z, hcuts⟩, ⟨hkind, hliteral⟩, h.gist hkind hliteral⟩

/-- So could a number, though its token may have zeros in front. -/
theorem exists_cuts_integer {t : Token} {n : Nat} (hkind : t.kind = .integer)
    (hle : (n : Int) ≤ Numeral.greatest) {blanks : List Char}
    (hblanks : ∀ c ∈ blanks, isBlank c = true) (p : Position) :
    ∃ t', (∃ z, Cuts p (blanks ++ flat (integer t n).text) [t'] z)
      ∧ (integer t' n).Fits ∧ t'.gist = t.gist := by
  have hdigits : ∀ c ∈ Nat.toDigits 10 n, Numeral.isDigit c = true :=
    fun _ => Numeral.isDigit_of_mem_toDigits
  obtain ⟨t', z, hcuts, hkind', hliteral⟩ :=
    Cuts.one hblanks (.integer Nat.toDigits_ne_nil hdigits) p
  rw [flat_integer]
  refine ⟨t', ⟨z, hcuts⟩, ⟨hkind', ?_, ?_, ?_, hle⟩, ?_⟩
  · rw [hliteral]
    exact mt String.ofList_eq_empty_iff.1 Nat.toDigits_ne_nil
  · rw [hliteral, String.toList_ofList]
    exact hdigits
  · rw [hliteral, String.toList_ofList, Numeral.value_toDigits]
  · exact Token.gist_congr (hkind'.trans hkind.symm)
      (fun hne => absurd hkind' hne)

/-- The characters of an expression that agrees with its tokens are those of
tokens that it could have been read from. -/
theorem exists_cuts {e : Expr} (h : ∀ p ∈ e.parts, p.Agrees)
    {blanks : List Char} (hblanks : ∀ c ∈ blanks, isBlank c = true)
    (p : Position) :
    ∃ e' : Expr, (∃ z, Cuts p (blanks ++ flat e.text) e'.tokens z) ∧ e'.Fits
      ∧ e'.retoken Token.gist = e.retoken Token.gist := by
  induction e generalizing blanks p with
  | identifier id =>
      cases List.forall_mem_singleton.1 h with
      | identifier hid =>
          obtain ⟨t, hcuts, hfits, hgist⟩ :=
            exists_cuts_identifier hid hblanks p
          refine ⟨.identifier ⟨t, id.name⟩, hcuts, hfits, ?_⟩
          rw [retoken, retoken, Identifier.retoken, Identifier.retoken, hgist]
  | integer t v =>
      cases List.forall_mem_singleton.1 h with
      | integer hkind _ _ hvalue _ hle =>
          subst hvalue
          obtain ⟨t', hcuts, hfits, hgist⟩ :=
            exists_cuts_integer hkind hle hblanks p
          refine ⟨.integer t' _, hcuts, hfits, ?_⟩
          rw [retoken, retoken, hgist]
  | unary t op operand ih =>
      obtain ⟨hself, hoperand⟩ := List.forall_mem_cons.1 h
      cases hself with
      | unary hop htext =>
          obtain ⟨operand', ⟨z, hcuts⟩, hfits, hgist⟩ :=
            ih hoperand (List.forall_mem_nil _)
              (p.afterAll (blanks ++ op.text.toList))
          obtain ⟨t', hcuts, hkind, hliteral⟩ := hcuts.cons hblanks
            (.fixed (UnaryOperator.spelling?_of_ofKind? hop))
            (UnaryOperator.endsBefore hop (head?_flat hoperand))
          rw [String.ofList_toList, htext] at hliteral
          rw [flat_unary]
          refine ⟨.unary t' op operand', ⟨z, hcuts⟩, ⟨hkind ▸ hop, hfits⟩, ?_⟩
          rw [retoken, retoken, hgist,
            Token.gist_congr hkind (fun _ => hliteral)]
  | binary t op left right ihl ihr =>
      obtain ⟨hself, hoperands⟩ := List.forall_mem_cons.1 h
      obtain ⟨hleft, hright⟩ := List.forall_mem_append.1 hoperands
      cases hself with
      | binary hop htext =>
          obtain ⟨left', ⟨z', hcutsl⟩, hfitsl, hgistl⟩ := ihl hleft hblanks p
          obtain ⟨right', ⟨z, hcutsr⟩, hfitsr, hgistr⟩ :=
            ihr hright isBlank_space
              ((p.afterAll (blanks ++ flat left.text)).afterAll
                ([' '] ++ op.text.toList))
          obtain ⟨t', hcutsr, hkind, hliteral⟩ := hcutsr.cons isBlank_space
            (.fixed (BinaryOperator.spelling?_of_ofKind? hop))
            (.blank (by decide))
          -- a space stands between them, so no lexeme runs on
          have hcuts := hcutsl.append hcutsr
            (fun _ _ _ _ => .blank (by decide))
          rw [String.ofList_toList, htext] at hliteral
          rw [flat_binary, ← List.append_assoc]
          refine ⟨.binary t' op left' right', ⟨z, hcuts⟩,
            ⟨hkind ▸ hop, hfitsl, hfitsr⟩, ?_⟩
          rw [retoken, retoken, hgistl, hgistr,
            Token.gist_congr hkind (fun _ => hliteral)]

/-- The same with a space before it and a semicolon behind it. -/
theorem exists_cuts_closed {e : Expr} (h : ∀ p ∈ e.parts, p.Agrees)
    (p : Position) :
    ∃ (e' : Expr) (semicolon : Token),
      (∃ z, Cuts p ([' '] ++ (flat e.text ++ [';'])) (e'.tokens ++ [semicolon])
        z)
      ∧ semicolon.kind = .semicolon ∧ e'.Fits
      ∧ e'.retoken Token.gist = e.retoken Token.gist := by
  have hspelling : Spelling .semicolon ";".toList := .fixed rfl
  obtain ⟨e', ⟨z', hcuts⟩, hfits, hgist⟩ := exists_cuts h isBlank_space p
  obtain ⟨semicolon, z, hsemicolon, hkind, -⟩ :=
    Cuts.one (List.forall_mem_nil _) hspelling
      (p.afterAll ([' '] ++ flat e.text))
  have hcuts := hcuts.append hsemicolon
    (fun _ _ _ _ => .semicolon)
  rw [List.append_assoc] at hcuts
  exact ⟨e', semicolon, ⟨z, hcuts⟩, hkind, hfits, hgist⟩

/-- Expressions of the same gist have the same text. -/
theorem text_of_gist {e e' : Expr}
    (h : e'.retoken Token.gist = e.retoken Token.gist) : e'.text = e.text := by
  rw [← text_retoken Token.gist e', h, text_retoken]

/-- And they are grouped alike. -/
theorem Grouped.of_gist {e e' : Expr} (hgrouped : e.Grouped)
    (h : e'.retoken Token.gist = e.retoken Token.gist) : e'.Grouped := by
  rw [← grouped_retoken Token.gist, h, grouped_retoken]
  exact hgrouped

end Expr

-- =========================================================== statements

namespace Statement

/-- The characters of a statement that agrees with its tokens are those of
tokens that it could have been read from, with a semicolon behind them unless
it is an expression. -/
theorem exists_cuts {s : Statement} (h : s.Agrees)
    (hvalue : ∀ p ∈ s.value.parts, p.Agrees) :
    ∃ s' ts, (∃ z, Cuts .origin (flat s.text) ts z) ∧ WrittenAll [s'] ts
      ∧ s'.value.Fits ∧ s'.text = s.text
      ∧ s'.retoken Token.gist = s.retoken Token.gist := by
  cases h with
  | @binding t name e hlet hliteral hname =>
      have hvalue : ∀ p ∈ e.parts, p.Agrees := hvalue
      have hflat : flat (binding t name e).text
          = "let".toList ++ ([' '] ++ (name.name.toList
            ++ ([' '] ++ (['='] ++ ([' '] ++ (flat e.text ++ [';'])))))) := by
        rw [text, hliteral]
        simp only [flat_append, List.append_assoc]
        rw [flat_eq_toList hname.letters (by decide) (by decide)]
        rfl
      -- from the last token to the first
      let p := Position.origin.afterAll ([] ++ "let".toList)
      let q := p.afterAll ([' '] ++ name.name.toList)
      obtain ⟨e', semicolon, ⟨z, hcuts⟩, hsemicolon, hfits, hgist⟩ :=
        Expr.exists_cuts_closed hvalue (q.afterAll ([' '] ++ ['=']))
      have hassign : Spelling .assign "=".toList := .fixed rfl
      obtain ⟨equals, hcuts, hequals, -⟩ :=
        hcuts.cons isBlank_space hassign (.blank (by decide))
      obtain ⟨u, hcuts, hu, hname'⟩ :=
        hcuts.cons isBlank_space hname.spelling (.blank (by decide))
      have hkeyword : Spelling .letKeyword "let".toList := .fixed rfl
      obtain ⟨t', hcuts, hlet', hliteral'⟩ :=
        hcuts.cons (List.forall_mem_nil _) hkeyword (.blank (by decide))
      rw [String.ofList_toList] at hname' hliteral'
      have htoken : t'.gist = t.gist :=
        Token.gist_congr (hlet'.trans hlet.symm)
          (fun _ => hliteral'.trans hliteral.symm)
      have hnamed := hname.gist hu hname'
      refine ⟨.binding t' ⟨u, name.name⟩ e', _, ⟨z, hflat ▸ hcuts⟩,
        .closed (.binding hlet' hu hname' hequals) hsemicolon .nil, hfits,
        ?_, ?_⟩
      · rw [text, text, hliteral, hliteral', Expr.text_of_gist hgist]
      · rw [retoken, retoken, htoken, hgist, Identifier.retoken,
          Identifier.retoken, hnamed]
  | @result t e hreturn hliteral =>
      have hvalue : ∀ p ∈ e.parts, p.Agrees := hvalue
      have hflat : flat (result t e).text
          = "return".toList ++ ([' '] ++ (flat e.text ++ [';'])) := by
        rw [text, hliteral]
        simp only [flat_append, List.append_assoc]
        rfl
      obtain ⟨e', semicolon, ⟨z, hcuts⟩, hsemicolon, hfits, hgist⟩ :=
        Expr.exists_cuts_closed hvalue
          (Position.origin.afterAll ([] ++ "return".toList))
      have hkeyword : Spelling .returnKeyword "return".toList := .fixed rfl
      obtain ⟨t', hcuts, hreturn', hliteral'⟩ :=
        hcuts.cons (List.forall_mem_nil _) hkeyword (.blank (by decide))
      rw [String.ofList_toList] at hliteral'
      have htoken : t'.gist = t.gist :=
        Token.gist_congr (hreturn'.trans hreturn.symm)
          (fun _ => hliteral'.trans hliteral.symm)
      refine ⟨.result t' e', _, ⟨z, hflat ▸ hcuts⟩,
        .closed (.result hreturn') hsemicolon .nil, hfits, ?_, ?_⟩
      · rw [text, text, hliteral, hliteral', Expr.text_of_gist hgist]
      · rw [retoken, retoken, htoken, hgist]
  | @expression t e hfirst =>
      have hvalue : ∀ p ∈ e.parts, p.Agrees := hvalue
      obtain ⟨e', ⟨z, hcuts⟩, hfits, hgist⟩ :=
        Expr.exists_cuts hvalue (List.forall_mem_nil _) .origin
      obtain ⟨t', ts, htokens⟩ := e'.exists_tokens_eq_cons
      have hfirst' : e'.tokens.head? = some t' := by rw [htokens]; rfl
      have htoken : t'.gist = t.gist := by
        have hheads := congrArg (fun e => e.tokens.head?) hgist
        simp only [Expr.tokens_retoken, List.head?_map, hfirst,
          hfirst'] at hheads
        exact Option.some.inj hheads
      have hwritten := WrittenAll.bare (.expression hfirst') (by simp) .nil
      rw [List.append_nil] at hwritten
      exact ⟨.expression t' e', _, ⟨z, hcuts⟩, hwritten, hfits,
        Expr.text_of_gist hgist, by rw [retoken, retoken, htoken, hgist]⟩

end Statement

-- ============================================================== sources

/-- The text of a statement tells it without its parentheses, since they only
show how operators group by precedence. Whatever source a statement is read
from, with errors or without, its text without parentheses is a program
without errors: that one statement, the same but for where its tokens stand
and how its integers are spelled, and with the same text. -/
theorem ofText_unparenthesized {source : ByteSource} {s : Statement}
    (h : s ∈ (Program.ofSource source).program.statements) :
    ∃ s', Program.ofText (unparenthesized s.text) = .ok ⟨[s']⟩
      ∧ s'.text = s.text
      ∧ s'.retoken Token.gist = s.retoken Token.gist := by
  obtain ⟨hagrees, hvalue⟩ := Program.read_agrees h
  obtain ⟨s', ts, ⟨z, hcuts⟩, hwritten, hfits, htext, hgist⟩ :=
    Statement.exists_cuts hagrees hvalue
  have hgrouped : s'.value.Grouped := by
    have hvalues := congrArg Statement.value hgist
    rw [Statement.value_retoken, Statement.value_retoken] at hvalues
    exact (Window.statements_grouped _ s h).of_gist hvalues
  have hfaces := faces_ofText (unparenthesized s.text)
  rw [unparenthesized, String.toList_ofList] at hfaces
  have hhands := hands_of_cuts hfaces hcuts
  obtain ⟨hstatements, herrors⟩ := Window.statements_writtenAll hwritten
    (List.forall_mem_singleton.2 ⟨hgrouped, hfits⟩) (Window.sees_start hhands)
  rw [Window.errors_start hhands] at herrors
  exact ⟨s', Program.ofText_eq_ok (congrArg Program.mk hstatements) herrors,
    htext, hgist⟩

/-- A binding between errors. None of the parentheses is needed, and the zeros
of the source are not missed. -/
theorem ofText_unparenthesized_between_errors :
    let source := ByteSource.ofText "1 + ; let x = 007 - 1 - -y * 2 == !z fn"
    let text := "let x = (((7 - 1) - ((-y) * 2)) == (!z));"
    ∃ s ∈ (Program.ofSource source).program.statements, s.text = text
      ∧ ∃ s', Program.ofText "let x = 7 - 1 - -y * 2 == !z;" = .ok ⟨[s']⟩
        ∧ s'.text = text
        ∧ s'.retoken Token.gist = s.retoken Token.gist := by
  intro source text
  obtain ⟨s, hs, htext⟩ :
      ∃ s ∈ (Program.ofSource source).program.statements, s.text = text := by
    decide +kernel
  have hflat : unparenthesized text = "let x = 7 - 1 - -y * 2 == !z;" := by
    decide +kernel
  obtain ⟨s', hread, htext', hgist⟩ := ofText_unparenthesized hs
  rw [htext, hflat] at hread
  exact ⟨s, hs, htext, s', hread, htext'.trans htext, hgist⟩

end Monkey
