/-
Cutting characters into tokens. The scanner reads one token at a call,
and looks at most one character beyond it: a word is the longest run of
letters, an integer the longest run of digits, and an equals sign joins
the equals sign or exclamation mark before it.

The scanner knows where it stands in characters passed, not in bytes
read, so a failed call moves it past the characters it lost. Every span
it reports runs from where a token started to where the scanner stands.

`scan` asks the source again at each call, even behind an end of input:
a source may have gone on in the meantime.
-/
import Monkey.Numeral
import Monkey.Source.Lookahead
import Monkey.Text.Letter
import Monkey.Token.Item

namespace Monkey

open Text

-- ============================================================ the scanner

/-- The characters between tokens: space, tab, line feed, carriage
return. No other blank is one of them. -/
def isBlank (c : Char) : Bool :=
  c = ' ' || c = '\t' || c = '\n' || c = '\r'

/-- A scanner: what is still to be read, the place in the text where it
stands, and whether the iterator has ended. -/
structure Scanner where
  source : Lookahead
  here : Position
  ended : Bool

namespace Scanner

/-- Starts at the beginning of a source. -/
def ofSource (source : ByteSource) : Scanner :=
  ⟨.ofSource source, .origin, false⟩

/-- Starts at the beginning of a text. -/
def ofText (text : String) : Scanner := ofSource (.ofText text)

/-- An upper bound for the characters still to come. -/
def size (s : Scanner) : Nat := s.source.size

/-- How many bytes were taken from the source. -/
def taken (s : Scanner) : Nat := s.source.source.taken

-- ------------------------------------------------- single characters

/-- Moves past a character that was looked at. -/
def pass (s : Scanner) (c : Char) : Scanner :=
  { s with source := s.source.release, here := s.here.after c }

/-- Takes the next character and moves past it. -/
def take (s : Scanner) : Except ReadError Char × Scanner :=
  match s.source.take with
  | (.ok c, source) => (.ok c, { s with source, here := s.here.after c })
  | (.error e, source) => (.error e, { s with source })

/-- A look at the next character leaves the scanner where it is. -/
def peek (s : Scanner) : Except ReadError Char × Scanner :=
  match s.source.peek with
  | (r, source) => (r, { s with source })

/-- A character that was looked at and passed is gone. -/
theorem size_pass_peek_lt {s s' : Scanner} {c : Char}
    (h : s.peek = (.ok c, s')) : (s'.pass c).size < s.size := by
  simp only [peek, Prod.mk.injEq] at h
  obtain ⟨hr, rfl⟩ := h
  exact Lookahead.size_release_peek_lt (Prod.ext hr rfl)

-- ---------------------------------------------------------------- runs

/-- Takes the longest run of characters of a class. The end of the input
ends the run; a failure loses it, but the scanner has moved past it. -/
def takeRun (p : Char → Bool) (s : Scanner) :
    Except ReadFailure (List Char) × Scanner :=
  match _h : s.peek with
  | (.ok c, s') =>
      if p c then
        match takeRun p (s'.pass c) with
        | (.ok cs, s'') => (.ok (c :: cs), s'')
        | (.error f, s'') => (.error f, s'')
      else (.ok [], s')
  | (.error .endOfInput, s') => (.ok [], s')
  | (.error (.failed f), s') => (.error f, s')
termination_by s.size
decreasing_by exact size_pass_peek_lt _h

/-- Takes the next character if it is the expected one, and says whether
it was. -/
def passIf (s : Scanner) (expected : Char) :
    Except ReadFailure Bool × Scanner :=
  match s.peek with
  | (.ok c, s') =>
      if c = expected then (.ok true, s'.pass c) else (.ok false, s')
  | (.error .endOfInput, s') => (.ok false, s')
  | (.error (.failed f), s') => (.error f, s')

-- -------------------------------------------------------------- tokens

/-- The lexeme of a character that an equals sign may join. -/
def joinable (s : Scanner) (c : Char) (alone joined : TokenKind) :
    Except ReadFailure (TokenKind × List Char) × Scanner :=
  match s.passIf '=' with
  | (.ok true, s') => (.ok (joined, [c, '=']), s')
  | (.ok false, s') => (.ok (alone, [c]), s')
  | (.error f, s') => (.error f, s')

/-- The lexeme that a run of characters of a class makes together with
the one before it. -/
def runOf (p : Char → Bool) (kind : List Char → TokenKind) (s : Scanner)
    (c : Char) : Except ReadFailure (TokenKind × List Char) × Scanner :=
  match s.takeRun p with
  | (.ok cs, s') => (.ok (kind (c :: cs), c :: cs), s')
  | (.error f, s') => (.error f, s')

/-- The kind and the characters of the token that starts with `c`, which
the scanner has just passed. -/
def lexeme (s : Scanner) (c : Char) :
    Except ReadFailure (TokenKind × List Char) × Scanner :=
  match TokenKind.ofSymbol? c with
  | some kind => (.ok (kind, [c]), s)
  | none =>
      if c = '=' then s.joinable c .assign .equal
      else if c = '!' then s.joinable c .bang .notEqual
      else if isLetter c then
        s.runOf isLetter (fun word => .ofWord (String.ofList word)) c
      else if Numeral.isDigit c then
        s.runOf Numeral.isDigit (fun _ => .integer) c
      else (.ok (.illegal, [c]), s)

/-- Skips blanks and reads one token. Behind the last token this is the
end of the input; the source is asked again at each call. -/
def scan (s : Scanner) : Item × Scanner :=
  match s.takeRun isBlank with
  | (.error f, s₁) => (.error ⟨⟨s₁.here, s₁.here⟩, f⟩, s₁)
  | (.ok _, s₁) =>
      match s₁.take with
      | (.error .endOfInput, s₂) =>
          (.ok (.endOfInput ⟨s₁.here, s₂.here⟩), s₂)
      | (.error (.failed f), s₂) => (.error ⟨⟨s₁.here, s₂.here⟩, f⟩, s₂)
      | (.ok c, s₂) =>
          match s₂.lexeme c with
          | (.ok (kind, cs), s₃) =>
              (.ok ⟨kind, String.ofList cs, ⟨s₁.here, s₃.here⟩⟩, s₃)
          | (.error f, s₃) => (.error ⟨⟨s₁.here, s₃.here⟩, f⟩, s₃)

-- ======================================================== what is left

/-- A look never adds to what is left. -/
theorem size_peek_le (s : Scanner) : s.peek.2.size ≤ s.size :=
  Lookahead.size_peek_le s.source

/-- A run takes only what is there. -/
theorem size_takeRun_le (p : Char → Bool) (s : Scanner) :
    (s.takeRun p).2.size ≤ s.size := by
  fun_induction takeRun p s with
  | case1 s c s' h hp cs s'' hrun ih =>
      have := size_pass_peek_lt h
      rw [hrun] at ih
      simp only at ih ⊢
      omega
  | case2 s c s' h hp f s'' hrun ih =>
      have := size_pass_peek_lt h
      rw [hrun] at ih
      simp only at ih ⊢
      omega
  | case3 s c s' h hp => simpa [h] using size_peek_le s
  | case4 s s' h => simpa [h] using size_peek_le s
  | case5 s f s' h => simpa [h] using size_peek_le s

/-- So does a single expected character. -/
theorem size_passIf_le (s : Scanner) (expected : Char) :
    (s.passIf expected).2.size ≤ s.size := by
  rw [passIf]
  have hle := size_peek_le s
  split
  · next c s' h =>
    split
    · exact Nat.le_of_lt (size_pass_peek_lt h)
    · simpa [h] using hle
  · next s' h => simpa [h] using hle
  · next f s' h => simpa [h] using hle

/-- The rest of a token takes only what is there. -/
theorem size_lexeme_le (s : Scanner) (c : Char) :
    (s.lexeme c).2.size ≤ s.size := by
  have hjoin (alone joined : TokenKind) :
      (s.joinable c alone joined).2.size ≤ s.size := by
    have := size_passIf_le s '='
    rw [joinable]
    split <;> next h => simpa [h] using this
  have hrun (p : Char → Bool) (kind : List Char → TokenKind) :
      (s.runOf p kind c).2.size ≤ s.size := by
    have := size_takeRun_le p s
    rw [runOf]
    split <;> next h => simpa [h] using this
  rw [lexeme]
  split
  · exact Nat.le_refl _
  · split
    · exact hjoin _ _
    · split
      · exact hjoin _ _
      · split
        · exact hrun _ _
        · split
          · exact hrun _ _
          · exact Nat.le_refl _

/-- Moving past a character uses it up. -/
theorem size_take_lt {s s' : Scanner} {c : Char}
    (h : s.take = (.ok c, s')) : s'.size < s.size := by
  rw [take] at h
  split at h
  · next hread =>
    cases h
    exact Lookahead.size_take_lt hread
  · cases h

/-- Every token but the end of the input uses up a character. -/
theorem size_scan_lt {s s' : Scanner} {t : Token}
    (h : s.scan = (.ok t, s')) (ht : t.kind ≠ .endOfInput) :
    s'.size < s.size := by
  rw [scan] at h
  split at h
  · cases h
  · next cs s₁ hblank =>
    have h₁ := size_takeRun_le isBlank s
    rw [hblank] at h₁
    split at h
    · cases h
      exact absurd rfl ht
    · cases h
    · next c s₂ htake =>
      have h₂ := size_take_lt htake
      have h₃ := size_lexeme_le s₂ c
      split at h
      · next kind cs' s₃ hlexeme =>
        cases h
        rw [hlexeme] at h₃
        simp only at h₁ h₃
        omega
      · cases h

end Scanner

end Monkey
