/-
Where texts are put together. Which characters make a lexeme depends on
nothing but the character behind them, and on that only for words,
integers, and the lone equals sign and exclamation mark
(`TokenKind.EndsBefore`). So a text is cut as the two parts of it are, if
the lexemes of the first end before the second (`Cuts.append`); and the
first tokens of a text are the tokens of its beginning (`Cuts.take`).
-/
import Monkey.Proofs.Token.Lossless

namespace Monkey

open Text

-- ===================================================== ends of lexemes

namespace TokenKind

/-- The keywords. -/
def keywords : List TokenKind :=
  [.function, .letKeyword, .trueKeyword, .falseKeyword, .ifKeyword,
    .elseKeyword, .returnKeyword]

/-- A word is an identifier or a keyword. -/
def IsWord (k : TokenKind) : Prop := k = .identifier ∨ k ∈ keywords

instance (k : TokenKind) : Decidable k.IsWord :=
  inferInstanceAs (Decidable (k = .identifier ∨ k ∈ keywords))

/-- The kind of a word is that of one. -/
theorem ofWord_isWord (word : String) : (ofWord word).IsWord := by
  unfold ofWord ofKeyword? IsWord
  split <;> decide

/-- Nothing that a token of this kind would take in stands behind it. -/
structure EndsBefore (kind : TokenKind) (rest : List Char) : Prop where
  word : kind.IsWord → ∀ c, rest.head? = some c → isLetter c = false
  integer : kind = .integer →
    ∀ c, rest.head? = some c → Numeral.isDigit c = false
  equals : kind = .assign ∨ kind = .bang → rest.head? ≠ some '='

namespace EndsBefore

variable {kind : TokenKind} {rest rest' : List Char}

/-- Every token ends at the end of the text. -/
theorem nil : kind.EndsBefore [] := ⟨by simp, by simp, by simp⟩

/-- Every token ends before a blank. -/
theorem blank {c : Char} (hc : isBlank c = true) :
    kind.EndsBefore (c :: rest) := by
  refine ⟨?_, ?_, ?_⟩
  · intro _ d hd
    cases hd
    cases hletter : isLetter c with
    | false => rfl
    | true => exact absurd hc (by simp [isBlank_of_isLetter hletter])
  · intro _ d hd
    cases hd
    cases hdigit : Numeral.isDigit c with
    | false => rfl
    | true => exact absurd hc (by simp [isBlank_of_isDigit hdigit])
  · intro _ hd
    cases hd
    exact absurd hc (by decide)

/-- Every token ends before a semicolon. -/
theorem semicolon : kind.EndsBefore (';' :: rest) := by
  refine ⟨?_, ?_, ?_⟩
  · intro _ c hc
    cases hc
    decide
  · intro _ c hc
    cases hc
    decide
  · intro _ hc
    cases hc

/-- Only the next character tells where a token ends. -/
theorem of_head (h : kind.EndsBefore rest)
    (hhead : ∀ c, rest'.head? = some c → rest.head? = some c) :
    kind.EndsBefore rest' :=
  ⟨fun hword c hc => h.word hword c (hhead c hc),
    fun hinteger c hc => h.integer hinteger c (hhead c hc),
    fun hequals hc => h.equals hequals (hhead '=' hc)⟩

/-- A symbol that no equals sign may join ends before everything. -/
theorem of_ofSymbol? {c : Char} (h : ofSymbol? c = some kind) :
    kind.EndsBefore rest := by
  have hkind : ¬kind.IsWord ∧ kind ≠ .integer
      ∧ ¬(kind = .assign ∨ kind = .bang) := by
    unfold ofSymbol? at h
    split at h <;> cases h <;> decide
  obtain ⟨hword, hinteger, hequals⟩ := hkind
  exact ⟨fun h => absurd h hword, fun h => absurd h hinteger,
    fun h => absurd h hequals⟩

end EndsBefore

end TokenKind

namespace Lexeme

variable {kind : TokenKind} {word rest rest' : List Char}

/-- A lexeme ends before what follows it. -/
theorem endsBefore (h : Lexeme kind word rest) : kind.EndsBefore rest := by
  have hother {k : TokenKind} (h : ¬k.IsWord ∧ k ≠ .integer)
      (hequals : k = .assign ∨ k = .bang → rest.head? ≠ some '=') :
      k.EndsBefore rest :=
    ⟨fun hword => absurd hword h.1, fun hinteger => absurd hinteger h.2,
      hequals⟩
  cases h with
  | symbol h => exact .of_ofSymbol? h
  | assign h => exact hother (by decide) (fun _ => h)
  | bang h => exact hother (by decide) (fun _ => h)
  | equal | notEqual | illegal => exact hother (by decide) (by simp)
  | word _ _ hend =>
      have hword := TokenKind.ofWord_isWord (String.ofList word)
      refine ⟨fun _ => hend, fun h => ?_, fun h => ?_⟩
      · rw [h] at hword
        exact absurd hword (by decide)
      · rcases h with h | h <;> rw [h] at hword <;>
          exact absurd hword (by decide)
  | integer _ _ hend =>
      exact ⟨fun h => absurd h (by decide), fun _ => hend, by simp⟩

/-- A lexeme is one before whatever it ends before. -/
theorem before (h : Lexeme kind word rest) (h' : kind.EndsBefore rest') :
    Lexeme kind word rest' := by
  cases h with
  | symbol h => exact .symbol h
  | assign => exact .assign (h'.equals (Or.inl rfl))
  | equal => exact .equal
  | bang => exact .bang (h'.equals (Or.inr rfl))
  | notEqual => exact .notEqual
  | word hne hall => exact .word hne hall (h'.word (TokenKind.ofWord_isWord _))
  | integer hne hall => exact .integer hne hall (h'.integer rfl)
  | illegal hblank hsymbol hequals hbang hletter hdigit =>
      exact .illegal hblank hsymbol hequals hbang hletter hdigit

/-- A semicolon is in no other lexeme than its own. -/
theorem eq_semicolon (h : Lexeme kind word rest) (hmem : ';' ∈ word) :
    kind = .semicolon := by
  cases h with
  | symbol h =>
      obtain rfl := List.mem_singleton.1 hmem
      cases h
      rfl
  | word _ hall => exact absurd (hall ';' hmem) (by decide)
  | integer _ hall => exact absurd (hall ';' hmem) (by decide)
  | illegal _ hsymbol =>
      obtain rfl := List.mem_singleton.1 hmem
      cases hsymbol
  | assign | equal | bang | notEqual => exact absurd hmem (by decide)

end Lexeme

-- ================================================================ cuts

namespace Cuts

variable {p : Position} {text rest : List Char} {ts us : List Token}
  {e e' : Token}

/-- Nothing is cut into no tokens. -/
theorem eq_nil (h : Cuts p [] ts e) : ts = [] := by
  generalize htext : [] = text at h
  cases h with
  | ended => rfl
  | token _ hlexeme =>
      have hne := hlexeme.ne_nil
      simp [hne] at htext

/-- Blanks before a text are before its first token. -/
theorem behind_blanks (hblanks : ∀ c ∈ text, isBlank c = true)
    (h : Cuts (p.afterAll text) rest ts e) : Cuts p (text ++ rest) ts e := by
  cases h with
  | ended hrest =>
      rw [← Position.afterAll_append]
      exact .ended (List.forall_mem_append.2 ⟨hblanks, hrest⟩)
  | token hskip hlexeme later =>
      rw [← Position.afterAll_append, ← List.append_assoc] at later
      have hcuts := Cuts.token (List.forall_mem_append.2 ⟨hblanks, hskip⟩)
        hlexeme later
      simpa only [List.append_assoc, Position.afterAll_append] using hcuts

/-- A text behind another is cut as it is, from where it stands, if each
lexeme that may end the first ends before it. -/
theorem append (h : Cuts p text ts e)
    (h' : Cuts (p.afterAll text) rest us e')
    (hseam : ∀ kind word, word <:+ text → Lexeme kind word [] →
      kind.EndsBefore rest) : Cuts p (text ++ rest) (ts ++ us) e' := by
  induction h with
  | ended hblanks => exact behind_blanks hblanks h'
  | @token p kind blanks word text ts e hblanks hlexeme _ ih =>
      have hword : Lexeme kind word (text ++ rest) := by
        cases text with
        | nil =>
            have hends := hseam kind word (by simp [List.suffix_append]) hlexeme
            exact hlexeme.before hends
        | cons c cs => exact hlexeme.before (hlexeme.endsBefore.of_head (by simp))
      rw [List.append_assoc, List.append_assoc]
      refine .token hblanks hword (ih ?_ ?_)
      · rw [← Position.afterAll_append, List.append_assoc]
        exact h'
      · intro kind' word' hsuffix
        apply hseam
        rw [← List.append_assoc]
        exact hsuffix.trans (List.suffix_append _ _)

/-- The first tokens of a text are those of its beginning, up to where the
last of them stops. -/
theorem exists_beginning (h : Cuts p text (ts ++ us) e) :
    ∃ before e', before <+: text ∧ Cuts p before ts e'
      ∧ p.afterAll before = (ts.getLast?.map (·.span.stop)).getD p := by
  induction ts generalizing p text with
  | nil => exact ⟨[], _, List.nil_prefix, .ended (by simp), rfl⟩
  | cons t ts ih =>
      cases h with
      | @token p kind blanks word rest _ _ hblanks hlexeme later =>
          obtain ⟨before, e', hprefix, hcuts, hstop⟩ := ih later
          have hword : Lexeme kind word before := by
            apply hlexeme.before
            apply hlexeme.endsBefore.of_head
            intro c hc
            obtain ⟨more, rfl⟩ := hprefix
            simp [hc]
          refine ⟨blanks ++ (word ++ before), e', ?_,
            .token hblanks hword hcuts, ?_⟩
          · rw [List.prefix_append_right_inj, List.prefix_append_right_inj]
            exact hprefix
          · rw [← List.append_assoc, Position.afterAll_append, hstop,
              List.getLast?_cons]
            cases ts.getLast? <;> rfl

/-- So they can be cut by themselves. -/
theorem take (h : Cuts p text (ts ++ us) e) :
    ∃ before e', before <+: text ∧ Cuts p before ts e' := by
  obtain ⟨before, e', hprefix, hcuts, -⟩ := h.exists_beginning
  exact ⟨before, e', hprefix, hcuts⟩

/-- The last token of a text that ends with a semicolon is a semicolon. -/
theorem exists_semicolon (h : Cuts p text ts e)
    (hlast : text.getLast? = some ';') :
    ∃ us t, ts = us ++ [t] ∧ t.kind = .semicolon := by
  induction h with
  | ended hblanks =>
      have hmem := List.mem_of_getLast? hlast
      exact absurd (hblanks ';' hmem) (by decide)
  | @token p kind blanks word text ts e hblanks hlexeme later ih =>
      cases text with
      | nil =>
          have hmem := List.mem_of_getLast? hlast
          rw [List.append_nil] at hmem
          obtain rfl := later.eq_nil
          rcases List.mem_append.1 hmem with hmem | hmem
          · exact absurd (hblanks ';' hmem) (by decide)
          · exact ⟨[], _, rfl, hlexeme.eq_semicolon hmem⟩
      | cons c cs =>
          have hrest : (c :: cs).getLast? = some ';' := by
            rw [List.getLast?_append, List.getLast?_append] at hlast
            simpa using hlast
          obtain ⟨us, t, rfl, ht⟩ := ih hrest
          exact ⟨_ :: us, t, rfl, ht⟩

end Cuts

end Monkey
