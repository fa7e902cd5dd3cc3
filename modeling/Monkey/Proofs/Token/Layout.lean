/-
Cutting a text undoes printing it, whatever its layout
(`tokenize_printed`). Tokens are printed one after another, with any
blanks before each and behind the last (`Printed`). A blank is only
needed where one token would take in characters of the next
(`Clashes`): between two words, between two integers, and before an
equals sign behind a lone equals sign or exclamation mark.

How tokens are spelled is told here by their kinds (`Spelling`), and not
by what the scanner looks for.
-/
import Mathlib.Data.List.Chain
import Monkey.Proofs.Token.Seam

namespace Monkey

open Text

-- ============================================================ spellings

/-- The spelling of a kind that has only one: of a symbol or a
keyword. -/
def TokenKind.spelling? : TokenKind → Option String
  | .assign => some "="
  | .plus => some "+"
  | .minus => some "-"
  | .bang => some "!"
  | .asterisk => some "*"
  | .slash => some "/"
  | .equal => some "=="
  | .notEqual => some "!="
  | .lessThan => some "<"
  | .greaterThan => some ">"
  | .comma => some ","
  | .semicolon => some ";"
  | .leftParen => some "("
  | .rightParen => some ")"
  | .leftBrace => some "\x7b"
  | .rightBrace => some "\x7d"
  | .function => some "fn"
  | .letKeyword => some "let"
  | .trueKeyword => some "true"
  | .falseKeyword => some "false"
  | .ifKeyword => some "if"
  | .elseKeyword => some "else"
  | .returnKeyword => some "return"
  | .illegal | .endOfInput | .identifier | .integer => none

/-- The characters that symbols are made of. -/
def punctuation : List Char :=
  ['+', '-', ',', ';', '(', ')', '\x7b', '\x7d', '*', '/', '<', '>', '=', '!']

/-- The ways to spell a token of a kind. -/
inductive Spelling : TokenKind → List Char → Prop
  | fixed {kind : TokenKind} {word : String}
      (h : kind.spelling? = some word) : Spelling kind word.toList
  | identifier {word : List Char} (hne : word ≠ [])
      (hall : ∀ c ∈ word, isLetter c = true)
      (hword : ∀ k ∈ TokenKind.keywords,
        k.spelling? ≠ some (String.ofList word)) :
      Spelling .identifier word
  | integer {word : List Char} (hne : word ≠ [])
      (hall : ∀ c ∈ word, Numeral.isDigit c = true) :
      Spelling .integer word
  | illegal {c : Char} (hblank : isBlank c = false)
      (hletter : isLetter c = false) (hdigit : Numeral.isDigit c = false)
      (hsymbol : c ∉ punctuation) : Spelling .illegal [c]

/-- What a token is, wherever it stands. -/
def Token.form (t : Token) : TokenKind × String := (t.kind, t.literal)

/-- A token as it is printed: any blanks, and a spelling of its kind. -/
structure Printed where
  blanks : List Char
  kind : TokenKind
  word : List Char
  isBlank_of_mem : ∀ c ∈ blanks, isBlank c = true
  spelling : Spelling kind word

namespace Printed

/-- A token printed right behind what stands before it. -/
def tight (kind : TokenKind) (word : List Char) (h : Spelling kind word) :
    Printed := ⟨[], kind, word, by simp, h⟩

/-- A token printed behind a space. -/
def spaced (kind : TokenKind) (word : List Char) (h : Spelling kind word) :
    Printed := ⟨[' '], kind, word, List.forall_mem_singleton.2 (by decide), h⟩

/-- The characters of a token as it is printed. -/
def text (p : Printed) : List Char := p.blanks ++ p.word

/-- The token that is printed, wherever it stands. -/
def form (p : Printed) : TokenKind × String := (p.kind, String.ofList p.word)

/-- The first token would take in characters of the second if no blank
stood between them. -/
def Clashes (p q : Printed) : Prop :=
  (p.kind.IsWord ∧ q.kind.IsWord)
    ∨ (p.kind = .integer ∧ q.kind = .integer)
    ∨ ((p.kind = .assign ∨ p.kind = .bang) ∧ q.word.head? = some '=')

instance (p q : Printed) : Decidable (p.Clashes q) :=
  inferInstanceAs (Decidable ((p.kind.IsWord ∧ q.kind.IsWord)
    ∨ (p.kind = .integer ∧ q.kind = .integer)
    ∨ ((p.kind = .assign ∨ p.kind = .bang) ∧ q.word.head? = some '=')))

/-- Tokens that clash have a blank between them. -/
def Separate (p q : Printed) : Prop := p.Clashes q → q.blanks ≠ []

instance (p q : Printed) : Decidable (p.Separate q) :=
  inferInstanceAs (Decidable (p.Clashes q → q.blanks ≠ []))

end Printed

-- ==================================================== spelled lexemes

/-- A word that is spelled like no keyword is an identifier. -/
theorem ofWord_of_not_keyword {word : String}
    (h : ∀ k ∈ TokenKind.keywords, k.spelling? ≠ some word) :
    TokenKind.ofWord word = .identifier := by
  unfold TokenKind.ofWord TokenKind.ofKeyword?
  split
  · exact absurd rfl (h .letKeyword (by decide))
  · exact absurd rfl (h .function (by decide))
  · exact absurd rfl (h .trueKeyword (by decide))
  · exact absurd rfl (h .falseKeyword (by decide))
  · exact absurd rfl (h .ifKeyword (by decide))
  · exact absurd rfl (h .elseKeyword (by decide))
  · exact absurd rfl (h .returnKeyword (by decide))
  · rfl

/-- A keyword is spelled as a word that is read as it. -/
theorem spelling_keyword {kind : TokenKind} {word : String}
    (hkind : kind ∈ TokenKind.keywords) (h : kind.spelling? = some word) :
    TokenKind.ofWord word = kind ∧ word.toList ≠ []
      ∧ ∀ c ∈ word.toList, isLetter c = true := by
  simp only [TokenKind.keywords, List.mem_cons, List.not_mem_nil,
    or_false] at hkind
  rcases hkind with rfl | rfl | rfl | rfl | rfl | rfl | rfl <;> cases h <;>
    simp <;> decide

/-- A kind that is spelled in one way and is no keyword is a symbol. -/
theorem spelling_symbol {kind : TokenKind} {word : String}
    (hkind : kind ∉ TokenKind.keywords) (h : kind.spelling? = some word)
    {rest : List Char} (hrest : kind.EndsBefore rest) :
    Lexeme kind word.toList rest := by
  cases kind with
  | assign => cases h; exact .assign (hrest.equals (Or.inl rfl))
  | bang => cases h; exact .bang (hrest.equals (Or.inr rfl))
  | equal => cases h; exact .equal
  | notEqual => cases h; exact .notEqual
  | plus | minus | asterisk | slash | lessThan | greaterThan | comma
  | semicolon | leftParen | rightParen | leftBrace | rightBrace =>
      cases h
      exact .symbol rfl
  | function | letKeyword | trueKeyword | falseKeyword | ifKeyword
  | elseKeyword | returnKeyword => exact absurd (by decide) hkind
  | illegal | endOfInput | identifier | integer => cases h

/-- A letter by itself is an identifier; no keyword is that short. -/
theorem Spelling.letter {c : Char} (hc : isLetter c = true) :
    Spelling .identifier [c] := by
  refine .identifier (List.cons_ne_nil _ _) (List.forall_mem_singleton.2 hc) ?_
  intro k hk hspelling
  have hlength : (String.ofList [c]).length = 1 := String.length_ofList
  generalize String.ofList [c] = word at hspelling hlength
  simp only [TokenKind.keywords, List.mem_cons, List.not_mem_nil,
    or_false] at hk
  rcases hk with rfl | rfl | rfl | rfl | rfl | rfl | rfl <;>
    cases hspelling <;> exact absurd hlength (by decide)

/-- What is not made of punctuation is no symbol. -/
theorem ofSymbol?_of_not_mem {c : Char} (h : c ∉ punctuation) :
    TokenKind.ofSymbol? c = none ∧ c ≠ '=' ∧ c ≠ '!' := by
  refine ⟨?_, ?_, ?_⟩
  · unfold TokenKind.ofSymbol?
    split <;> first | exact absurd (by decide) h | rfl
  · rintro rfl
    exact h (by decide)
  · rintro rfl
    exact h (by decide)

/-- The spelling of a kind is a lexeme of it, before whatever it does not
take in. -/
theorem Spelling.lexeme {kind : TokenKind} {word rest : List Char}
    (h : Spelling kind word) (hrest : kind.EndsBefore rest) :
    Lexeme kind word rest := by
  cases h with
  | @fixed _ word h =>
      by_cases hkind : kind ∈ TokenKind.keywords
      · obtain ⟨hword, hne, hall⟩ := spelling_keyword hkind h
        have hlexeme : Lexeme (.ofWord (String.ofList word.toList))
            word.toList rest := .word hne hall (hrest.word (Or.inr hkind))
        rwa [String.ofList_toList, hword] at hlexeme
      · exact spelling_symbol hkind h hrest
  | identifier hne hall hword =>
      rw [← ofWord_of_not_keyword hword]
      exact .word hne hall (hrest.word (Or.inl rfl))
  | integer hne hall => exact .integer hne hall (hrest.integer rfl)
  | illegal hblank hletter hdigit hsymbol =>
      obtain ⟨hnone, hequals, hbang⟩ := ofSymbol?_of_not_mem hsymbol
      exact .illegal hblank hnone hequals hbang hletter hdigit

/-- Only words start with a letter. -/
theorem Lexeme.isWord_of_isLetter {kind : TokenKind} {c : Char}
    {cs rest : List Char} (h : Lexeme kind (c :: cs) rest)
    (hc : isLetter c = true) : kind.IsWord := by
  obtain ⟨hsymbol, hequals, hbang⟩ := ofSymbol?_eq_none (Or.inl hc)
  cases h with
  | symbol h => rw [hsymbol] at h; cases h
  | word => exact TokenKind.ofWord_isWord _
  | integer _ hall =>
      have hdigit := isLetter_of_isDigit (hall c List.mem_cons_self)
      rw [hc] at hdigit
      cases hdigit
  | illegal _ _ _ _ hletter => rw [hc] at hletter; cases hletter
  | assign | equal => exact absurd rfl hequals
  | bang | notEqual => exact absurd rfl hbang

/-- Only integers start with a digit. -/
theorem Lexeme.eq_integer_of_isDigit {kind : TokenKind} {c : Char}
    {cs rest : List Char} (h : Lexeme kind (c :: cs) rest)
    (hc : Numeral.isDigit c = true) : kind = .integer := by
  obtain ⟨hsymbol, hequals, hbang⟩ := ofSymbol?_eq_none (Or.inr hc)
  cases h with
  | symbol h => rw [hsymbol] at h; cases h
  | integer => rfl
  | word _ hall =>
      have hletter := hall c List.mem_cons_self
      rw [isLetter_of_isDigit hc] at hletter
      cases hletter
  | illegal _ _ _ _ _ hdigit => rw [hc] at hdigit; cases hdigit
  | assign | equal => exact absurd rfl hequals
  | bang | notEqual => exact absurd rfl hbang

-- ====================================================== printed tokens

/-- Every token ends before another that it does not clash with. -/
theorem Printed.endsBefore_word {p q : Printed} (h : ¬p.Clashes q)
    (rest : List Char) : p.kind.EndsBefore (q.word ++ rest) := by
  have hlexeme := q.spelling.lexeme .nil
  obtain ⟨c, cs, hword⟩ := List.exists_cons_of_ne_nil hlexeme.ne_nil
  rw [hword] at hlexeme ⊢
  refine ⟨?_, ?_, ?_⟩
  · intro hp d hd
    cases hd
    cases hletter : isLetter c with
    | false => rfl
    | true =>
        exact absurd (Or.inl ⟨hp, hlexeme.isWord_of_isLetter hletter⟩) h
  · intro hp d hd
    cases hd
    cases hdigit : Numeral.isDigit c with
    | false => rfl
    | true =>
        have hq := hlexeme.eq_integer_of_isDigit hdigit
        exact absurd (Or.inr (Or.inl ⟨hp, hq⟩)) h
  · intro hp hd
    refine absurd (Or.inr (Or.inr ⟨hp, ?_⟩)) h
    rw [hword]
    exact hd

namespace Printed

/-- A printed token ends before those that are printed behind it. -/
theorem endsBefore {p : Printed} {ps : List Printed} {trailing : List Char}
    (hseparate : (p :: ps).IsChain Separate)
    (htrailing : ∀ c ∈ trailing, isBlank c = true) :
    p.kind.EndsBefore (ps.flatMap text ++ trailing) := by
  cases ps with
  | nil =>
      cases trailing with
      | nil => exact .nil
      | cons c cs => exact .blank (htrailing c List.mem_cons_self)
  | cons q qs =>
      have hpq : p.Separate q := hseparate.rel
      rw [List.flatMap_cons, List.append_assoc, text, List.append_assoc]
      cases hblanks : q.blanks with
      | nil =>
          have hclash : ¬p.Clashes q := fun h => hpq h hblanks
          exact endsBefore_word hclash _
      | cons c cs =>
          have hc := q.isBlank_of_mem c (by rw [hblanks]; simp)
          exact .blank hc

/-- Printed tokens are cut as what they are. -/
theorem exists_cuts {ps : List Printed} {trailing : List Char}
    (hseparate : ps.IsChain Separate)
    (htrailing : ∀ c ∈ trailing, isBlank c = true) (p : Position) :
    ∃ ts e, Cuts p (ps.flatMap text ++ trailing) ts e
      ∧ ts.map Token.form = ps.map form := by
  induction ps generalizing p with
  | nil => exact ⟨[], _, .ended htrailing, rfl⟩
  | cons q qs ih =>
      have hlexeme := q.spelling.lexeme (endsBefore hseparate htrailing)
      obtain ⟨ts, e, hcuts, hforms⟩ :=
        ih hseparate.tail (p.afterAll (q.blanks ++ q.word))
      rw [List.flatMap_cons, List.append_assoc, text, List.append_assoc,
        List.map_cons, ← hforms]
      exact ⟨_, e, .token q.isBlank_of_mem hlexeme hcuts, rfl⟩

end Printed

/-- Cutting a text undoes printing it, for any layout. Whatever tokens are
printed one after another, with any blanks before, between and behind
them, if only a blank stands between any two that clash, the text is cut
into exactly these tokens and the end of the input. -/
theorem tokenize_printed {ps : List Printed} {trailing : List Char}
    (hseparate : ps.IsChain Printed.Separate)
    (htrailing : ∀ c ∈ trailing, isBlank c = true) :
    ∃ ts e, tokenize (String.ofList (ps.flatMap Printed.text ++ trailing))
        = .ok (ts ++ [e])
      ∧ ts.map Token.form = ps.map Printed.form
      ∧ e.form = (.endOfInput, "") := by
  obtain ⟨ts, e, hcuts, hforms⟩ :=
    Printed.exists_cuts hseparate htrailing .origin
  have hfaces := faces_ofText
    (String.ofList (ps.flatMap Printed.text ++ trailing))
  rw [String.toList_ofList] at hfaces
  obtain ⟨hkind, hliteral⟩ := hcuts.endOfInput
  refine ⟨ts, e, tokenize_of_hands (hands_of_cuts hfaces hcuts), hforms, ?_⟩
  rw [Token.form, hkind, hliteral]

/-- Only the blanks that are needed: the one between two words, and the one
that keeps an equals sign from the two behind it. -/
theorem tokenize_printed_tight :
    ∃ ts e, tokenize "let x= ==!1a@\n" = .ok (ts ++ [e])
      ∧ ts.map Token.form
          = [(.letKeyword, "let"), (.identifier, "x"), (.assign, "="),
            (.equal, "=="), (.bang, "!"), (.integer, "1"),
            (.identifier, "a"), (.illegal, "@")]
      ∧ e.form = (.endOfInput, "") := by
  let ps : List Printed :=
    [.tight .letKeyword _ (.fixed rfl),
      .spaced .identifier ['x'] (.letter (by decide)),
      .tight .assign _ (.fixed rfl),
      .spaced .equal _ (.fixed rfl),
      .tight .bang _ (.fixed rfl),
      .tight .integer ['1']
        (.integer (by simp) (List.forall_mem_singleton.2 (by decide))),
      .tight .identifier ['a'] (.letter (by decide)),
      .tight .illegal ['@'] (.illegal (by decide) (by decide) (by decide)
        (by decide))]
  exact @tokenize_printed ps ['\n'] (by decide)
    (List.forall_mem_singleton.2 (by decide))

end Monkey
