/-
What a scanner hands out is spelled as its kind says (`Hands.spelling`), and
each token stands behind those that were handed out before it
(`Hands.precedes`). Neither depends on how the source behaves. A
source that ends and goes on can only split a word, an integer or two joined
characters into parts that are tokens themselves, and the one token that it
can make of a blank is illegal.
-/
import Monkey.Operator
import Monkey.Proofs.Token.Classes
import Monkey.Proofs.Token.Passing

namespace Monkey

open Text

-- ============================================================ spellings

/-- The characters of the one spelling of a kind spell it. -/
theorem Spelling.of_spelling? {kind : TokenKind} {word : List Char}
    (h : kind.spelling? = some (String.ofList word)) : Spelling kind word := by
  have hspelling : Spelling kind (String.ofList word).toList := .fixed h
  rwa [String.toList_ofList] at hspelling

/-- A word of letters is spelled as the kind that it is of. -/
theorem spelling_ofWord {word : List Char} (hne : word ≠ [])
    (hall : ∀ c ∈ word, isLetter c = true) :
    Spelling (.ofWord (String.ofList word)) word := by
  obtain ⟨hidentifier, hkeyword⟩ := wordKind_ofWord (String.ofList word)
  by_cases hkind : TokenKind.ofWord (String.ofList word) = .identifier
  · have hreserved := hidentifier.1 hkind
    rw [hkind]
    refine .identifier hne hall ?_
    intro k hk hspelling
    have hmem : ∀ k ∈ TokenKind.keywords, ∀ w ∈ k.spelling?,
        w ∈ reservedWords := by
      decide
    exact hreserved (hmem k hk _ hspelling)
  · exact .of_spelling? (hkeyword hkind).2

namespace Spelling

variable {kind : TokenKind} {word : List Char}

/-- A kind with one spelling is spelled so. -/
theorem eq_of_spelling? (h : Spelling kind word) {fixed : String}
    (hfixed : kind.spelling? = some fixed) : String.ofList word = fixed := by
  cases h with
  | fixed h =>
      rw [h] at hfixed
      rw [String.ofList_toList]
      exact Option.some.inj hfixed
  | identifier | integer | illegal => cases hfixed

/-- An identifier is letters, and not reserved. -/
theorem letters (h : Spelling .identifier word) :
    word ≠ [] ∧ (∀ c ∈ word, isLetter c = true)
      ∧ String.ofList word ∉ reservedWords := by
  generalize hkind : TokenKind.identifier = kind at h
  cases h with
  | fixed h =>
      subst hkind
      cases h
  | identifier hne hall hword =>
      refine ⟨hne, hall, ?_⟩
      rw [← (wordKind_ofWord _).identifier_iff]
      exact ofWord_of_not_keyword hword
  | integer | illegal => cases hkind

/-- An integer is digits. -/
theorem digits (h : Spelling .integer word) :
    word ≠ [] ∧ ∀ c ∈ word, Numeral.isDigit c = true := by
  generalize hkind : TokenKind.integer = kind at h
  cases h with
  | fixed h =>
      subst hkind
      cases h
  | integer hne hall => exact ⟨hne, hall⟩
  | identifier | illegal => cases hkind

end Spelling

/-- An operator in front of an operand is spelled as it is written. -/
theorem UnaryOperator.spelling?_of_ofKind? {k : TokenKind}
    {op : UnaryOperator} (h : ofKind? k = some op) :
    k.spelling? = some op.text := by
  unfold ofKind? at h
  split at h <;> cases h <;> rfl

/-- So is one between two operands. -/
theorem BinaryOperator.spelling?_of_ofKind? {k : TokenKind}
    {op : BinaryOperator} (h : ofKind? k = some op) :
    k.spelling? = some op.text := by
  unfold ofKind? at h
  split at h <;> cases h <;> rfl

-- ============================================================== scanners

namespace Scanner

variable {s s' : Scanner}

/-- Whatever makes a token but an illegal one spells its kind. -/
theorem spelling_lexeme {c : Char} {kind : TokenKind} {cs : List Char}
    (h : s.lexeme c = (.ok (kind, cs), s')) (hkind : kind ≠ .illegal) :
    Spelling kind cs := by
  have hjoin {c : Char} {alone joined : TokenKind}
      (halone : alone.spelling? = some (String.ofList [c]))
      (hjoined : joined.spelling? = some (String.ofList [c, '=']))
      (h : s.joinable c alone joined = (.ok (kind, cs), s')) :
      Spelling kind cs := by
    unfold joinable at h
    split at h <;> cases h
    · exact .of_spelling? hjoined
    · exact .of_spelling? halone
  have hrun {p : Char → Bool} {kindOf : List Char → TokenKind}
      (hc : p c = true)
      (hspelling : ∀ word, word ≠ [] → (∀ d ∈ word, p d = true) →
        Spelling (kindOf word) word)
      (h : s.runOf p kindOf c = (.ok (kind, cs), s')) : Spelling kind cs := by
    obtain ⟨_, ds, -, hall, hok⟩ := goes_takeRun p s
    unfold runOf at h
    split at h <;> cases h
    next ds' hrun =>
    obtain ⟨rfl, -⟩ := hok ds' (congrArg Prod.fst hrun)
    exact hspelling _ (List.cons_ne_nil _ _)
      (List.forall_mem_cons.2 ⟨hc, hall⟩)
  unfold lexeme at h
  split at h
  · next kind' hsymbol =>
    cases h
    exact .of_spelling? ((symbolKind_of_ofSymbol? hsymbol).symbol hkind)
  · split at h
    · next hequals =>
      subst hequals
      exact hjoin rfl rfl h
    · split at h
      · next hbang =>
        subst hbang
        exact hjoin rfl rfl h
      · split at h
        · next hletter =>
          exact hrun hletter (fun word => spelling_ofWord) h
        · split at h
          · next hdigit => exact hrun hdigit (fun word => .integer) h
          · cases h
            exact absurd rfl hkind

/-- So does every token that is neither illegal nor the end of the input. -/
theorem spelling_scan {t : Token} (h : s.scan = (.ok t, s'))
    (hend : t.kind ≠ .endOfInput) (hillegal : t.kind ≠ .illegal) :
    Spelling t.kind t.literal.toList := by
  unfold scan at h
  split at h
  · cases h
  · split at h
    · cases h
      exact absurd rfl hend
    · cases h
    · split at h
      · next hlexeme =>
        cases h
        rw [String.toList_ofList]
        exact spelling_lexeme hlexeme hillegal
      · cases h

end Scanner

-- =============================================================== order

/-- The first token is not empty and stops before the second starts. -/
structure Token.Precedes (t u : Token) : Prop where
  start_lt_stop : t.span.start.offset < t.span.stop.offset
  stop_le_start : t.span.stop.offset ≤ u.span.start.offset

namespace Scanner

/-- An item starts where its scanner stands or behind that, and stops where
the scanner stands then. A token takes some room. -/
theorem span_scan (s : Scanner) :
    s.here.offset ≤ s.scan.1.span.start.offset
      ∧ s.scan.1.span.stop = s.scan.2.here
      ∧ ∀ t, s.scan.1 = .ok t → t.kind ≠ .endOfInput →
        t.span.start.offset < t.span.stop.offset := by
  obtain ⟨calls, blanks, word, hlap⟩ := exists_lap s
  refine ⟨?_, ?_, ?_⟩
  · rw [hlap.span]
    exact offset_le_afterAll _ _
  · rw [hlap.span, hlap.goes.here]
  · intro t ht hkind
    have hspan : t.span = _ := ht ▸ hlap.span
    have hword : word ≠ [] := mt (hlap.literal t ht).2.2 hkind
    rw [hspan]
    show (s.here.afterAll blanks).offset
      < (s.here.afterAll (blanks ++ word)).offset
    rw [Position.afterAll_append, offset_afterAll _ word]
    have hpos : 0 < (String.ofList word).utf8ByteSize := by
      rw [Nat.pos_iff_ne_zero]
      intro hzero
      exact hword (String.ofList_eq_empty_iff.1
        (String.utf8ByteSize_eq_zero_iff.1 hzero))
    omega

end Scanner

namespace Hands

variable {s : Scanner} {ts : List Token} {last : Item}

/-- The tokens that a scanner hands out are spelled as their kinds say, but
for illegal ones. -/
theorem spelling (h : Hands s ts last) :
    ∀ t ∈ ts, t.kind ≠ .illegal → Spelling t.kind t.literal.toList := by
  induction h with
  | ended => simp
  | failed => simp
  | token h ht _ ih =>
      exact List.forall_mem_cons.2 ⟨Scanner.spelling_scan h ht, ih⟩

/-- They stand where the scanner does or behind that, one behind another. -/
theorem precedes (h : Hands s ts last) :
    (∀ t ∈ ts, s.here.offset ≤ t.span.start.offset)
      ∧ ts.Pairwise Token.Precedes := by
  induction h with
  | ended => simp
  | failed => simp
  | @token s s' t ts last h ht _ ih =>
      have h : s.scan = (.ok t, s') := h
      obtain ⟨hstart, hstop, hroom⟩ := s.span_scan
      rw [h] at hstart hstop hroom
      obtain ⟨hbehind, hlater⟩ := ih
      have hnext : ∀ u ∈ ts, t.span.stop.offset ≤ u.span.start.offset := by
        intro u hu
        rw [show t.span.stop = s'.here from hstop]
        exact hbehind u hu
      have hroom := hroom t rfl ht
      refine ⟨List.forall_mem_cons.2 ⟨hstart, fun u hu => ?_⟩,
        List.pairwise_cons.2 ⟨fun u hu => ⟨hroom, hnext u hu⟩, hlater⟩⟩
      exact Nat.le_trans hstart
        (Nat.le_trans (Nat.le_of_lt hroom) (hnext u hu))

end Hands

end Monkey
