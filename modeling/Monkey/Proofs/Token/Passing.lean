/-
What a scanner passes. All that a scanner does with its source is to look
and to take, so whatever it has done comes down to the calls that its
lookahead has answered: they say which characters were taken for good, and
those are what the scanner has moved past (`Scanner.Goes`). Such steps can
be put one after another (`Goes.trans`), and each function of the scanner is
one of them.

Put together, a call of the scanner passes some blanks and then the
characters of its token, or what was read of it when the source failed
(`Scanner.Lap`). A source that is asked again behind an end of input may go
on with a blank. That blank is then a token by itself, and the only one that
a token ever has in it (`Scanner.LateBlank`). Where no end comes before more
input there is none (`Lap.isBlank_eq_false`).
-/
import Monkey.Proofs.Source.Passed
import Monkey.Proofs.Token.Breaking

namespace Monkey

open Text

open Lookahead (Call)

-- ======================================================= steps of a scanner

/-- Where an item stands, be it a token or a failure. -/
def Item.span : Item → Span
  | .ok t => t.span
  | .error e => e.span

namespace Scanner

/-- From the first scanner to the second these calls were made, and these
characters passed. -/
structure Goes (s : Scanner) (calls : List Call) (cs : List Char)
    (s' : Scanner) : Prop where
  source : s'.source = s.source.after calls
  passed : s.source.passed calls = cs
  here : s'.here = s.here.afterAll cs

variable {s s' s'' : Scanner}

/-- Without calls nothing is passed. -/
theorem Goes.refl (s : Scanner) : Goes s [] [] s := ⟨rfl, rfl, rfl⟩

/-- One step after another. -/
theorem Goes.trans {calls later : List Call} {cs ds : List Char}
    (h : Goes s calls cs s') (h' : Goes s' later ds s'') :
    Goes s (calls ++ later) (cs ++ ds) s'' := by
  refine ⟨?_, ?_, ?_⟩
  · rw [h'.source, h.source, Lookahead.after_append]
  · rw [Lookahead.passed_append, h.passed, ← h.source, h'.passed]
  · rw [h'.here, h.here, Position.afterAll_append]

/-- A look passes nothing. -/
theorem goes_peek (s : Scanner) : Goes s [.peek] [] s.peek.2 :=
  ⟨rfl, rfl, rfl⟩

/-- What a look shows is what a call for it answers. -/
theorem call_of_peek {r : Except ReadError Char} (h : s.peek = (r, s')) :
    s.source.call .peek = (r, s'.source) := by
  cases h
  rfl

/-- A character that was looked at is passed as if it were taken. -/
theorem goes_pass {c : Char} (h : s.peek = (.ok c, s')) :
    Goes s [.peek, .take] [c] (s'.pass c) := by
  have htake := Lookahead.take_of_peek (call_of_peek h)
  have hlook : Goes s [.peek] [] s' := by
    have hpeek := s.goes_peek
    rwa [h] at hpeek
  have hpass : Goes s' [.take] [c] (s'.pass c) := by
    refine ⟨?_, ?_, rfl⟩
    · show s'.source.release = (s'.source.call .take).2
      rw [htake]
    · show Call.takes .take (s'.source.call .take).1 ++ [] = [c]
      rw [htake]
      rfl
  exact hlook.trans hpass

/-- What a take gives is passed: the character, or nothing. -/
theorem goes_take {r : Except ReadError Char} (h : s.take = (r, s')) :
    Goes s [.take] (Call.takes .take r) s' ∧ (s.source.call .take).1 = r := by
  unfold take at h
  split at h <;> next r' source hread =>
    cases h
    have hcall : s.source.call .take = (_, source) := hread
    refine ⟨⟨?_, ?_, rfl⟩, by rw [hcall]⟩
    · show source = (s.source.call .take).2
      rw [hcall]
    · show Call.takes .take (s.source.call .take).1 ++ [] = _
      rw [hcall]
      rfl

-- ---------------------------------------------------------------- runs

/-- A run passes characters of its class and ends with a look. If it is
complete, those are all that it gives, and the look found the end or a
character outside the class. -/
theorem goes_takeRun (p : Char → Bool) (s : Scanner) :
    ∃ calls cs, Goes s (calls ++ [.peek]) cs (s.takeRun p).2
      ∧ (∀ c ∈ cs, p c = true)
      ∧ ∀ ds, (s.takeRun p).1 = .ok ds → ds = cs
        ∧ (((s.source.after calls).call .peek).1 = .error .endOfInput
          ∨ ∃ c, ((s.source.after calls).call .peek).1 = .ok c
            ∧ p c = false) := by
  fun_induction takeRun p s with
  | case1 s c s' h hp cs s'' hrun ih =>
      obtain ⟨calls, es, hgoes, hall, hok⟩ := ih
      rw [hrun] at hgoes hok
      obtain ⟨hes, hlook⟩ := hok cs rfl
      have hpass := goes_pass h
      refine ⟨[.peek, .take] ++ calls, c :: es, ?_, ?_, ?_⟩
      · rw [List.append_assoc]
        exact hpass.trans hgoes
      · exact List.forall_mem_cons.2 ⟨hp, hall⟩
      · intro ds hds
        cases hds
        rw [Lookahead.after_append, ← hpass.source]
        exact ⟨by rw [hes], hlook⟩
  | case2 s c s' h hp f s'' hrun ih =>
      obtain ⟨calls, es, hgoes, hall, -⟩ := ih
      rw [hrun] at hgoes
      refine ⟨[.peek, .take] ++ calls, c :: es, ?_, ?_, ?_⟩
      · rw [List.append_assoc]
        exact (goes_pass h).trans hgoes
      · exact List.forall_mem_cons.2 ⟨hp, hall⟩
      · intro ds hds
        cases hds
  | case3 s c s' h hp =>
      have hpeek := s.goes_peek
      rw [h] at hpeek
      refine ⟨[], [], hpeek, by simp, ?_⟩
      intro ds hds
      cases hds
      refine ⟨rfl, Or.inr ⟨c, ?_, by simpa using hp⟩⟩
      exact congrArg Prod.fst (call_of_peek h)
  | case4 s s' h =>
      have hpeek := s.goes_peek
      rw [h] at hpeek
      refine ⟨[], [], hpeek, by simp, ?_⟩
      intro ds hds
      cases hds
      exact ⟨rfl, Or.inl (congrArg Prod.fst (call_of_peek h))⟩
  | case5 s f s' h =>
      have hpeek := s.goes_peek
      rw [h] at hpeek
      refine ⟨[], [], hpeek, by simp, ?_⟩
      intro ds hds
      cases hds

-- ------------------------------------------------------------- lexemes

/-- Behind its first character `c` a token passes characters other than
blanks. If it is complete, it is made of all of them, and of digits if it is
an integer. -/
structure Completes (s : Scanner) (c : Char)
    (r : Except ReadFailure (TokenKind × List Char)) (s' : Scanner) : Prop where
  goes : ∃ calls cs, Goes s calls cs s' ∧ (∀ d ∈ cs, isBlank d = false)
    ∧ ∀ kind ds, r = .ok (kind, ds) → ds = c :: cs
  integer : ∀ ds, r = .ok (.integer, ds) →
    ∀ d ∈ ds, Numeral.isDigit d = true

/-- So does one that an equals sign may join. -/
theorem completes_joinable (s : Scanner) (c : Char) {alone joined : TokenKind}
    (halone : alone ≠ .integer) (hjoined : joined ≠ .integer) :
    Completes s c (s.joinable c alone joined).1
      (s.joinable c alone joined).2 := by
  have hpeek := s.goes_peek
  unfold joinable passIf
  cases hlook : s.peek with
  | mk r s₁ =>
  rw [hlook] at hpeek
  match r with
  | .ok d =>
      by_cases hd : d = '='
      · subst hd
        simp only [if_true]
        refine ⟨⟨_, _, goes_pass hlook, by simp; decide, ?_⟩, ?_⟩
        · intro kind ds h
          cases h
          rfl
        · intro ds h
          cases h
          exact absurd rfl hjoined
      · simp only [hd, if_false]
        refine ⟨⟨_, _, hpeek, by simp, ?_⟩, ?_⟩
        · intro kind ds h
          cases h
          rfl
        · intro ds h
          cases h
          exact absurd rfl halone
  | .error .endOfInput =>
      refine ⟨⟨_, _, hpeek, by simp, ?_⟩, ?_⟩
      · intro kind ds h
        cases h
        rfl
      · intro ds h
        cases h
        exact absurd rfl halone
  | .error (.failed f) =>
      refine ⟨⟨_, _, hpeek, by simp, ?_⟩, ?_⟩
      · intro kind ds h
        cases h
      · intro ds h
        cases h

/-- And one that goes on with the characters of a class. -/
theorem completes_runOf {p : Char → Bool} {kindOf : List Char → TokenKind}
    (s : Scanner) {c : Char} (hblank : ∀ d, p d = true → isBlank d = false)
    (hinteger : ∀ ds, (∀ d ∈ ds, p d = true) → kindOf (c :: ds) = .integer →
      ∀ d ∈ c :: ds, Numeral.isDigit d = true) :
    Completes s c (s.runOf p kindOf c).1 (s.runOf p kindOf c).2 := by
  obtain ⟨calls, cs, hgoes, hall, hok⟩ := goes_takeRun p s
  unfold runOf
  cases hrun : s.takeRun p with
  | mk r s₁ =>
  rw [hrun] at hgoes hok
  have hblanks : ∀ d ∈ cs, isBlank d = false :=
    fun d hd => hblank d (hall d hd)
  cases r with
  | ok ds =>
      obtain ⟨rfl, -⟩ := hok ds rfl
      refine ⟨⟨_, _, hgoes, hblanks, ?_⟩, ?_⟩
      · intro kind es h
        cases h
        rfl
      · intro es h
        obtain ⟨hkind, rfl⟩ := Prod.mk.inj (Except.ok.inj h)
        exact hinteger ds hall hkind
  | error f =>
      refine ⟨⟨_, _, hgoes, hblanks, ?_⟩, ?_⟩
      · intro kind es h
        cases h
      · intro es h
        cases h

/-- A token of one character passes no others. -/
theorem completes_alone (s : Scanner) (c : Char) {kind : TokenKind}
    (hkind : kind ≠ .integer) : Completes s c (.ok (kind, [c])) s := by
  refine ⟨⟨[], [], .refl s, by simp, ?_⟩, ?_⟩
  · intro kind' ds h
    cases h
    rfl
  · intro ds h
    cases h
    exact absurd rfl hkind

/-- Every token is one of these. -/
theorem completes_lexeme (s : Scanner) (c : Char) :
    Completes s c (s.lexeme c).1 (s.lexeme c).2 := by
  unfold lexeme
  split
  · next kind hsymbol =>
    refine completes_alone s c ?_
    rintro rfl
    exact (ofSymbol?_ne c).2 hsymbol
  · split
    · exact completes_joinable s c (by decide) (by decide)
    · split
      · exact completes_joinable s c (by decide) (by decide)
      · split
        · refine completes_runOf s (fun d => isBlank_of_isLetter) ?_
          intro ds _ hkind
          exact absurd hkind (ofWord_ne _).2
        · split
          · next hdigit =>
            refine completes_runOf s (fun d => isBlank_of_isDigit) ?_
            intro ds hds _
            exact List.forall_mem_cons.2 ⟨hdigit, hds⟩
          · exact completes_alone s c (by decide)

/-- A blank goes on with nothing and is a token that starts nowhere. -/
theorem lexeme_of_isBlank (s : Scanner) {c : Char} (h : isBlank c = true) :
    s.lexeme c = (.ok (.illegal, [c]), s) := by
  rcases isBlank_iff.1 h with rfl | rfl | rfl | rfl <;> rfl

-- ================================================================ laps

/-- After these calls a look finds the end of the input, and yet a take
behind it gives a blank. The scanner makes an illegal token of it. -/
structure LateBlank (s : Scanner) (calls : List Call) (b : Char) : Prop where
  ended : ((s.source.after calls).call .peek).1 = .error .endOfInput
  given : (((s.source.after calls).call .peek).2.call .take).1 = .ok b
  blank : isBlank b = true
  illegal : ∃ t, s.scan.1 = .ok t ∧ t.kind = .illegal

/-- With these calls the scanner was asked for a token once. It skipped
blanks, and then passed the characters of the token or what was read of
it. -/
structure Lap (s : Scanner) (calls : List Call) (blanks word : List Char) :
    Prop where
  goes : Goes s calls (blanks ++ word) s.scan.2
  skipped : ∀ c ∈ blanks, isBlank c = true
  span : s.scan.1.span
    = ⟨s.here.afterAll blanks, s.here.afterAll (blanks ++ word)⟩
  literal : ∀ t, s.scan.1 = .ok t → t.literal = String.ofList word
    ∧ (t.kind = .endOfInput ↔ word = [])
  integer : ∀ t, s.scan.1 = .ok t → t.kind = .integer →
    ∀ c ∈ word, Numeral.isDigit c = true
  spelled : (∀ c ∈ word, isBlank c = false)
    ∨ ∃ looks b, calls = looks ++ [.peek, .take] ∧ word = [b]
      ∧ LateBlank s looks b

/-- What a call for a token gives tells where its lap started and
stopped. -/
private theorem lap_of_scan {calls : List Call} {blanks word : List Char}
    {item : Item} (hscan : s.scan = (item, s'))
    (hgoes : Goes s calls (blanks ++ word) s')
    (hskipped : ∀ c ∈ blanks, isBlank c = true)
    (hspan : item.span = ⟨s.here.afterAll blanks, s'.here⟩)
    (hitem : ∀ t, item = .ok t → t.literal = String.ofList word
      ∧ (t.kind = .endOfInput ↔ word = [])
      ∧ (t.kind = .integer → ∀ c ∈ word, Numeral.isDigit c = true))
    (hspelled : (∀ c ∈ word, isBlank c = false)
      ∨ ∃ looks b, calls = looks ++ [.peek, .take] ∧ word = [b]
        ∧ LateBlank s looks b) :
    Lap s calls blanks word := by
  refine ⟨?_, hskipped, ?_, ?_, ?_, hspelled⟩
  · rw [hscan]
    exact hgoes
  · rw [hscan, ← hgoes.here]
    exact hspan
  · intro t ht
    rw [hscan] at ht
    obtain ⟨hliteral, hkind, -⟩ := hitem t ht
    exact ⟨hliteral, hkind⟩
  · intro t ht
    rw [hscan] at ht
    exact (hitem t ht).2.2

/-- Behind the blanks, the first character and the rest of a token make the
lap. -/
private theorem lap_of_take {looks : List Call} {blanks : List Char} {c : Char}
    {s₁ s₂ : Scanner} (hblanks : Goes s (looks ++ [.peek]) blanks s₁)
    (hskipped : ∀ c ∈ blanks, isBlank c = true)
    (hrun : s.takeRun isBlank = (.ok blanks, s₁))
    (htake : s₁.take = (.ok c, s₂)) (hc : isBlank c = false) :
    ∃ calls word, Lap s calls blanks word := by
  obtain ⟨⟨calls, cs, hrest, hblank, hok⟩, hinteger⟩ := completes_lexeme s₂ c
  have hword : ∀ d ∈ c :: cs, isBlank d = false :=
    List.forall_mem_cons.2 ⟨hc, hblank⟩
  have hgoes := hblanks.trans ((goes_take htake).1.trans hrest)
  cases hlexeme : s₂.lexeme c with
  | mk r s₃ =>
  rw [hlexeme] at hgoes hok hinteger
  cases r with
  | ok found =>
      obtain ⟨kind, ds⟩ := found
      have hscan : s.scan
          = (.ok ⟨kind, String.ofList ds, ⟨s₁.here, s₃.here⟩⟩, s₃) := by
        rw [scan, hrun]
        simp only [htake, hlexeme]
      have hds : ds = c :: cs := hok kind ds rfl
      refine ⟨_, c :: cs, lap_of_scan hscan hgoes hskipped ?_ ?_
        (Or.inl hword)⟩
      · rw [← hblanks.here]
        rfl
      · intro t ht
        cases ht
        refine ⟨by rw [hds],
          iff_of_false (kind_lexeme hlexeme) (List.cons_ne_nil c cs), ?_⟩
        intro hkind
        rw [← hds]
        exact hinteger ds (by rw [← show kind = .integer from hkind])
  | error f =>
      have hscan : s.scan = (.error ⟨⟨s₁.here, s₃.here⟩, f⟩, s₃) := by
        rw [scan, hrun]
        simp only [htake, hlexeme]
      refine ⟨_, c :: cs, lap_of_scan hscan hgoes hskipped ?_ ?_
        (Or.inl hword)⟩
      · rw [← hblanks.here]
        rfl
      · intro t ht
        cases ht

/-- A blank that is taken is one that the last look did not show. -/
private theorem lap_of_blank {looks : List Call} {blanks : List Char}
    {c : Char} {s₁ s₂ : Scanner}
    (hblanks : Goes s (looks ++ [.peek]) blanks s₁)
    (hskipped : ∀ c ∈ blanks, isBlank c = true)
    (hrun : s.takeRun isBlank = (.ok blanks, s₁))
    (htake : s₁.take = (.ok c, s₂)) (hc : isBlank c = true)
    (hlook : ((s.source.after looks).call .peek).1 = .error .endOfInput
      ∨ ∃ d, ((s.source.after looks).call .peek).1 = .ok d
        ∧ isBlank d = false) :
    Lap s (looks ++ [.peek, .take]) blanks [c] := by
  obtain ⟨hfirst, hgiven⟩ := goes_take htake
  have hgoes := hblanks.trans hfirst
  rw [List.append_assoc] at hgoes
  rw [hblanks.source, Lookahead.after_append] at hgiven
  have hscan : s.scan
      = (.ok ⟨.illegal, String.ofList [c], ⟨s₁.here, s₂.here⟩⟩, s₂) := by
    rw [scan, hrun]
    simp only [htake, lexeme_of_isBlank s₂ hc]
  have hended : ((s.source.after looks).call .peek).1 = .error .endOfInput := by
    rcases hlook with hend | ⟨d, hd, hblank⟩
    · exact hend
    · have hsame := Lookahead.take_of_peek (Prod.ext hd rfl)
      have hdc : Except.ok d = Except.ok c :=
        (congrArg Prod.fst hsame).symm.trans hgiven
      cases hdc
      rw [hc] at hblank
      cases hblank
  refine lap_of_scan hscan hgoes hskipped ?_ ?_
    (Or.inr ⟨looks, c, rfl, rfl, hended, hgiven, hc, _, by rw [hscan], rfl⟩)
  · rw [← hblanks.here]
    rfl
  · intro t ht
    cases ht
    refine ⟨rfl, iff_of_false TokenKind.noConfusion (List.cons_ne_nil c []), ?_⟩
    intro hkind
    cases hkind

/-- Each call for a token is a lap. -/
theorem exists_lap (s : Scanner) :
    ∃ calls blanks word, Lap s calls blanks word := by
  obtain ⟨looks, blanks, hblanks, hskipped, hok⟩ := goes_takeRun isBlank s
  cases hrun : s.takeRun isBlank with
  | mk r s₁ =>
  rw [hrun] at hblanks hok
  cases r with
  | error f =>
      have hscan : s.scan = (.error ⟨⟨s₁.here, s₁.here⟩, f⟩, s₁) := by
        rw [scan, hrun]
      rw [← List.append_nil blanks] at hblanks
      refine ⟨_, blanks, [], lap_of_scan hscan hblanks hskipped ?_ ?_
        (Or.inl (by simp))⟩
      · rw [hblanks.here, List.append_nil]
        rfl
      · intro t ht
        cases ht
  | ok bs =>
      obtain ⟨rfl, hlook⟩ := hok bs rfl
      cases htake : s₁.take with
      | mk r s₂ =>
      cases r with
      | error e =>
          have hgoes := hblanks.trans (goes_take htake).1
          cases e with
          | endOfInput =>
              have hscan : s.scan
                  = (.ok (.endOfInput ⟨s₁.here, s₂.here⟩), s₂) := by
                rw [scan, hrun]
                simp only [htake]
              refine ⟨_, bs, [], lap_of_scan hscan hgoes hskipped ?_ ?_
                (Or.inl (by simp))⟩
              · rw [← hblanks.here]
                rfl
              · intro t ht
                cases ht
                refine ⟨rfl, iff_of_true rfl rfl, ?_⟩
                intro hkind
                cases hkind
          | failed f =>
              have hscan : s.scan
                  = (.error ⟨⟨s₁.here, s₂.here⟩, f⟩, s₂) := by
                rw [scan, hrun]
                simp only [htake]
              refine ⟨_, bs, [], lap_of_scan hscan hgoes hskipped ?_ ?_
                (Or.inl (by simp))⟩
              · rw [← hblanks.here]
                rfl
              · intro t ht
                cases ht
      | ok c =>
          cases hc : isBlank c with
          | false =>
              obtain ⟨calls, word, hlap⟩ :=
                lap_of_take hblanks hskipped hrun htake hc
              exact ⟨calls, bs, word, hlap⟩
          | true =>
              exact ⟨_, bs, [c],
                lap_of_blank hblanks hskipped hrun htake hc hlook⟩

/-- If the source of a scanner has no end before more input, the characters
that the scanner passes for a token have no blank among them. -/
theorem Lap.isBlank_eq_false {calls : List Call} {blanks word : List Char}
    (h : Lap s calls blanks word) (hends : .ended ∉ s.source.source.signals) :
    ∀ c ∈ word, isBlank c = false := by
  rcases h.spelled with hword | hlate
  · exact hword
  · obtain ⟨looks, b, -, -, hlate⟩ := hlate
    have hleft : .ended ∉ (s.source.after looks).source.signals :=
      fun hmem => hends ((s.source.signals_after_suffix looks).mem hmem)
    have hgiven := Lookahead.take_of_peek_end hleft hlate.ended
    rw [hlate.given] at hgiven
    cases hgiven

/-- An integer is digits, and at least one of them. -/
theorem digits_of_scan {t : Token} (h : s.scan = (.ok t, s'))
    (hkind : t.kind = .integer) : t.literal ≠ ""
      ∧ ∀ c ∈ t.literal.toList, Numeral.isDigit c = true := by
  obtain ⟨calls, blanks, word, hlap⟩ := exists_lap s
  rw [Prod.ext_iff] at h
  obtain ⟨hliteral, hend⟩ := hlap.literal t h.1
  have hword : word ≠ [] := by
    intro hnil
    have := hend.2 hnil
    rw [hkind] at this
    cases this
  rw [hliteral, String.toList_ofList]
  exact ⟨mt String.ofList_eq_empty_iff.1 hword, hlap.integer t h.1 hkind⟩

end Scanner

/-- So is every integer that a scanner hands out. -/
theorem Hands.digits {s : Scanner} {ts : List Token} {last : Item}
    (h : Hands s ts last) :
    ∀ t ∈ ts, t.kind = .integer → t.literal ≠ ""
      ∧ ∀ c ∈ t.literal.toList, Numeral.isDigit c = true := by
  induction h with
  | ended => simp
  | failed => simp
  | token h _ _ ih =>
      exact List.forall_mem_cons.2 ⟨Scanner.digits_of_scan h, ih⟩

end Monkey
