/-
Every token of a text is of the class of its first character and as long as
it can be (`tokenize_classified`). A word ends where the letters do and an
integer where the digits do; an equals sign is never left to stand alone
behind one that it could join; and any other character is a token by
itself, an illegal one if the language has no use for it.

What a class is, is told here by how its tokens are spelled
(`TokenKind.spelling?`, `punctuation`), and not by what the scanner looks
for. That a cut has each lexeme where its token says is read off the cut
(`Cuts.exists_lexeme`), and the rest off the lexeme (`Lexeme.classified`).
-/
import Monkey.Proofs.Token.Layout

namespace Monkey

open Text

-- ============================================================= classes

/-- The words that are keywords, and so never identifiers. -/
def reservedWords : List String :=
  ["let", "fn", "true", "false", "if", "else", "return"]

/-- A word of letters is of the right kind: an identifier exactly if it is
not reserved, and otherwise the keyword that is spelled so. -/
structure WordKind (kind : TokenKind) (word : String) : Prop where
  identifier_iff : kind = .identifier ↔ word ∉ reservedWords
  keyword : kind ≠ .identifier →
    kind ∈ TokenKind.keywords ∧ kind.spelling? = some word

/-- A single character is of the right kind: illegal exactly if it is
neither a blank nor in any symbol, and otherwise the symbol that is spelled
so. -/
structure SymbolKind (kind : TokenKind) (c : Char) : Prop where
  illegal_iff : kind = .illegal ↔ isBlank c = false ∧ c ∉ punctuation
  symbol : kind ≠ .illegal → kind.spelling? = some (String.ofList [c])

/-- A token of this kind is made of the characters `word`, as its first one
says, and could not be longer with `behind` as what follows. -/
structure Classified (kind : TokenKind) (word behind : List Char) : Prop where
  letters : ∀ c, word.head? = some c → isLetter c = true →
    (∀ d ∈ word, isLetter d = true)
      ∧ (∀ d, behind.head? = some d → isLetter d = false)
      ∧ WordKind kind (String.ofList word)
  digits : ∀ c, word.head? = some c → Numeral.isDigit c = true →
    (∀ d ∈ word, Numeral.isDigit d = true)
      ∧ (∀ d, behind.head? = some d → Numeral.isDigit d = false)
      ∧ kind = .integer
  others : ∀ c, word.head? = some c → isLetter c = false →
    Numeral.isDigit c = false →
      (word = ['=', '='] ∧ kind = .equal)
        ∨ (word = ['!', '='] ∧ kind = .notEqual)
        ∨ (word = [c] ∧ SymbolKind kind c
          ∧ (c = '=' ∨ c = '!' → behind.head? ≠ some '='))

-- ============================================================= lexemes

/-- The kind of a word is the right one. -/
theorem wordKind_ofWord (word : String) :
    WordKind (.ofWord word) word := by
  unfold TokenKind.ofWord TokenKind.ofKeyword?
  split
  case h_8 hlet hfn htrue hfalse hif helse hreturn =>
    have hfree : word ∉ reservedWords := by
      simp only [reservedWords, List.mem_cons, List.not_mem_nil, or_false,
        not_or]
      exact ⟨hlet, hfn, htrue, hfalse, hif, helse, hreturn⟩
    exact ⟨iff_of_true rfl hfree, fun h => absurd rfl h⟩
  all_goals
    exact ⟨iff_of_false (by decide) (by decide), fun _ => ⟨by decide, rfl⟩⟩

/-- A symbol is the one that is spelled so. -/
theorem symbolKind_of_ofSymbol? {c : Char} {kind : TokenKind}
    (h : TokenKind.ofSymbol? c = some kind) : SymbolKind kind c := by
  unfold TokenKind.ofSymbol? at h
  split at h <;> cases h <;>
    exact ⟨iff_of_false (by decide) (by decide), fun _ => rfl⟩

/-- What is in a symbol is one by itself, or may be joined. -/
theorem isSome_of_mem_punctuation :
    ∀ c ∈ punctuation,
      (TokenKind.ofSymbol? c).isSome = true ∨ c = '=' ∨ c = '!' := by
  have hall : punctuation.all (fun c => (TokenKind.ofSymbol? c).isSome
      || c = '=' || c = '!') = true := by
    decide
  intro c hc
  simpa [or_assoc] using List.all_eq_true.1 hall c hc

/-- So any other character is in none. -/
theorem not_mem_punctuation {c : Char}
    (hsymbol : TokenKind.ofSymbol? c = none) (hequals : c ≠ '=')
    (hbang : c ≠ '!') : c ∉ punctuation := by
  intro hmem
  rcases isSome_of_mem_punctuation c hmem with h | h | h
  · rw [hsymbol] at h
    cases h
  · exact hequals h
  · exact hbang h

namespace Lexeme

variable {kind : TokenKind} {word rest : List Char}

/-- A lexeme that starts with neither a letter nor a digit is one of the
others. -/
theorem classified_of_other {c : Char} {cs : List Char}
    (hletter : isLetter c = false) (hdigit : Numeral.isDigit c = false)
    (h : (c :: cs = ['=', '='] ∧ kind = .equal)
      ∨ (c :: cs = ['!', '='] ∧ kind = .notEqual)
      ∨ (c :: cs = [c] ∧ SymbolKind kind c
        ∧ (c = '=' ∨ c = '!' → rest.head? ≠ some '='))) :
    Classified kind (c :: cs) rest := by
  refine ⟨?_, ?_, ?_⟩
  · intro d hd hd'
    cases hd
    rw [hletter] at hd'
    cases hd'
  · intro d hd hd'
    cases hd
    rw [hdigit] at hd'
    cases hd'
  · intro d hd _ _
    cases hd
    exact h

/-- Every lexeme is of the class of its first character. -/
theorem classified (h : Lexeme kind word rest) :
    Classified kind word rest := by
  cases h with
  | @symbol _ c _ h =>
      obtain ⟨hequals, hbang, hletter, hdigit⟩ := ofSymbol?_eq_some h
      refine classified_of_other hletter hdigit (Or.inr (Or.inr ⟨rfl, ?_, ?_⟩))
      · exact symbolKind_of_ofSymbol? h
      · rintro (hc | hc)
        · exact absurd hc hequals
        · exact absurd hc hbang
  | assign h =>
      have hkind : SymbolKind .assign '=' :=
        ⟨iff_of_false (by decide) (by decide), fun _ => rfl⟩
      exact classified_of_other (by decide) (by decide)
        (Or.inr (Or.inr ⟨rfl, hkind, fun _ => h⟩))
  | equal =>
      exact classified_of_other (by decide) (by decide) (Or.inl ⟨rfl, rfl⟩)
  | bang h =>
      have hkind : SymbolKind .bang '!' :=
        ⟨iff_of_false (by decide) (by decide), fun _ => rfl⟩
      exact classified_of_other (by decide) (by decide)
        (Or.inr (Or.inr ⟨rfl, hkind, fun _ => h⟩))
  | notEqual =>
      exact classified_of_other (by decide) (by decide)
        (Or.inr (Or.inl ⟨rfl, rfl⟩))
  | word hne hall hend =>
      refine ⟨fun _ _ _ => ⟨hall, hend, wordKind_ofWord _⟩, ?_, ?_⟩
      · intro c hc hdigit
        have hletter := hall c (List.mem_of_mem_head? hc)
        rw [isLetter_of_isDigit hdigit] at hletter
        cases hletter
      · intro c hc hletter _
        rw [hall c (List.mem_of_mem_head? hc)] at hletter
        cases hletter
  | integer hne hall hend =>
      refine ⟨?_, fun _ _ _ => ⟨hall, hend, rfl⟩, ?_⟩
      · intro c hc hletter
        rw [isLetter_of_isDigit (hall c (List.mem_of_mem_head? hc))] at hletter
        cases hletter
      · intro c hc _ hdigit
        rw [hall c (List.mem_of_mem_head? hc)] at hdigit
        cases hdigit
  | illegal hblank hsymbol hequals hbang hletter hdigit =>
      refine classified_of_other hletter hdigit (Or.inr (Or.inr ⟨rfl, ?_, ?_⟩))
      · exact ⟨iff_of_true rfl
          ⟨hblank, not_mem_punctuation hsymbol hequals hbang⟩,
          fun h => absurd rfl h⟩
      · rintro (hc | hc)
        · exact absurd hc hequals
        · exact absurd hc hbang

end Lexeme

-- ================================================================ cuts

/-- In a text of which the characters before a cut were passed, every token
of the cut is a lexeme where its span says. -/
theorem Cuts.exists_lexeme {text : List Char} {ts : List Token} {e t : Token}
    (before : List Char)
    (h : Cuts (Position.origin.afterAll before) text ts e) (ht : t ∈ ts) :
    ∃ front word behind, before ++ text = front ++ (word ++ behind)
      ∧ t.literal = String.ofList word
      ∧ t.span = ⟨Position.origin.afterAll front,
          Position.origin.afterAll (front ++ word)⟩
      ∧ Lexeme t.kind word behind := by
  generalize hp : Position.origin.afterAll before = p at h
  induction h generalizing before with
  | ended => cases ht
  | @token p kind blanks word rest ts e _ hlexeme _ ih =>
      subst hp
      rcases List.mem_cons.1 ht with rfl | ht
      · refine ⟨before ++ blanks, word, rest, ?_, rfl, ?_, hlexeme⟩
        · rw [List.append_assoc]
        · rw [List.append_assoc, Position.afterAll_append .origin before,
            Position.afterAll_append .origin before]
      · obtain ⟨front, word', behind, hsplit, hrest⟩ :=
          ih (before ++ (blanks ++ word)) ht (Position.afterAll_append ..)
        refine ⟨front, word', behind, ?_, hrest⟩
        rw [← hsplit]
        simp only [List.append_assoc]

/-- Every token of a text but the last is of the class of its first
character and as long as it can be. It stands in the text where its span
says, so what follows it is told by the text. A word has all the letters
from its first one on, and is an identifier unless it is reserved. An
integer has all the digits. A lone equals sign or exclamation mark does not
stand before an equals sign. Any other token is a single character, which
is illegal exactly if it is neither a blank nor in a symbol. -/
theorem tokenize_classified (src : String) :
    ∃ ts e, tokenize src = .ok (ts ++ [e])
      ∧ ∀ t ∈ ts, ∃ before word behind,
        src.toList = before ++ (word ++ behind)
          ∧ t.literal = String.ofList word ∧ word ≠ []
          ∧ t.span = ⟨Position.origin.afterAll before,
              Position.origin.afterAll (before ++ word)⟩
          ∧ Classified t.kind word behind := by
  obtain ⟨ts, e, hhands, hcuts⟩ := hands_ofText src
  refine ⟨ts, e, tokenize_of_hands hhands, ?_⟩
  intro t ht
  obtain ⟨before, word, behind, hsplit, hliteral, hspan, hlexeme⟩ :=
    Cuts.exists_lexeme [] hcuts ht
  exact ⟨before, word, behind, hsplit, hliteral, hlexeme.ne_nil, hspan,
    hlexeme.classified⟩

end Monkey
