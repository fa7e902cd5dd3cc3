/-
Lexemes: which characters make one token, given what stands behind them
(`Lexeme`). A word or an integer ends where its class of characters does,
and the lone equals sign and exclamation mark stand before no equals
sign; every other lexeme is the same whatever follows.

Whatever is no blank starts a lexeme (`exists_lexeme`), and the scanner
reads that lexeme and no other. Each of its functions is told here by the
characters it meets (`Scanner.Faces`): which of them it takes, which it
leaves, and where it stands then. Put together, a call finds the end
behind nothing but blanks (`scan_of_blanks`), or else the lexeme behind
them (`scan_of_lexeme`).
-/
import Mathlib.Data.List.TakeWhile
import Monkey.Token.Scanner
import Monkey.Proofs.Source.Reads

namespace Monkey

open Text

-- ============================================================= lexemes

/-- A token of this kind is made of the characters `word`, if `rest` is
what follows them. -/
inductive Lexeme : TokenKind → List Char → List Char → Prop
  | symbol {kind : TokenKind} {c : Char} {rest : List Char}
      (h : TokenKind.ofSymbol? c = some kind) : Lexeme kind [c] rest
  | assign {rest : List Char} (h : rest.head? ≠ some '=') :
      Lexeme .assign ['='] rest
  | equal {rest : List Char} : Lexeme .equal ['=', '='] rest
  | bang {rest : List Char} (h : rest.head? ≠ some '=') :
      Lexeme .bang ['!'] rest
  | notEqual {rest : List Char} : Lexeme .notEqual ['!', '='] rest
  | word {word rest : List Char} (hne : word ≠ [])
      (hall : ∀ c ∈ word, isLetter c = true)
      (hend : ∀ c, rest.head? = some c → isLetter c = false) :
      Lexeme (.ofWord (String.ofList word)) word rest
  | integer {word rest : List Char} (hne : word ≠ [])
      (hall : ∀ c ∈ word, Numeral.isDigit c = true)
      (hend : ∀ c, rest.head? = some c → Numeral.isDigit c = false) :
      Lexeme .integer word rest
  | illegal {c : Char} {rest : List Char}
      (hblank : isBlank c = false) (hsymbol : TokenKind.ofSymbol? c = none)
      (hequals : c ≠ '=') (hbang : c ≠ '!')
      (hletter : isLetter c = false) (hdigit : Numeral.isDigit c = false) :
      Lexeme .illegal [c] rest

-- -------------------------------------------------- classes of characters

/-- The four blanks. -/
theorem isBlank_iff {c : Char} :
    isBlank c = true ↔ c = ' ' ∨ c = '\t' ∨ c = '\n' ∨ c = '\r' := by
  simp [isBlank, or_assoc]

/-- No blank is a letter. -/
theorem isBlank_of_isLetter {c : Char} (h : isLetter c = true) :
    isBlank c = false := by
  rw [Bool.eq_false_iff]
  intro hb
  rcases isBlank_iff.1 hb with rfl | rfl | rfl | rfl <;> revert h <;> decide

/-- No blank is a digit. -/
theorem isBlank_of_isDigit {c : Char} (h : Numeral.isDigit c = true) :
    isBlank c = false := by
  rw [Bool.eq_false_iff]
  intro hb
  rcases isBlank_iff.1 hb with rfl | rfl | rfl | rfl <;> revert h <;> decide

/-- No blank is a symbol. -/
theorem isBlank_of_ofSymbol? {c : Char} {kind : TokenKind}
    (h : TokenKind.ofSymbol? c = some kind) : isBlank c = false := by
  rw [Bool.eq_false_iff]
  intro hb
  rcases isBlank_iff.1 hb with rfl | rfl | rfl | rfl <;> cases h

/-- No symbol is an equals sign or an exclamation mark, a letter or a
digit. -/
theorem ofSymbol?_eq_some {c : Char} {kind : TokenKind}
    (h : TokenKind.ofSymbol? c = some kind) :
    c ≠ '=' ∧ c ≠ '!' ∧ isLetter c = false ∧ Numeral.isDigit c = false := by
  unfold TokenKind.ofSymbol? at h
  split at h <;> first | decide | cases h

/-- A digit is no letter. -/
theorem isLetter_of_isDigit {c : Char} (h : Numeral.isDigit c = true) :
    isLetter c = false := by
  apply isLetter_of_lt
  have hle : c ≤ '9' := by
    unfold Numeral.isDigit at h
    simp only [Bool.and_eq_true, decide_eq_true_eq] at h
    exact h.2
  exact Nat.lt_of_le_of_lt hle (by decide)

/-- What is a letter or a digit is no symbol. -/
theorem ofSymbol?_eq_none {c : Char}
    (h : isLetter c = true ∨ Numeral.isDigit c = true) :
    TokenKind.ofSymbol? c = none ∧ c ≠ '=' ∧ c ≠ '!' := by
  refine ⟨?_, ?_, ?_⟩
  · cases hc : TokenKind.ofSymbol? c with
    | none => rfl
    | some kind =>
        obtain ⟨-, -, hletter, hdigit⟩ := ofSymbol?_eq_some hc
        simp [hletter, hdigit] at h
  · intro hc
    subst hc
    revert h
    decide
  · intro hc
    subst hc
    revert h
    decide

/-- No symbol stands for the end of the input or for an integer. -/
theorem ofSymbol?_ne (c : Char) :
    TokenKind.ofSymbol? c ≠ some .endOfInput
      ∧ TokenKind.ofSymbol? c ≠ some .integer := by
  unfold TokenKind.ofSymbol?
  split <;> simp

/-- Nor does a word. -/
theorem ofWord_ne (word : String) :
    TokenKind.ofWord word ≠ .endOfInput ∧ TokenKind.ofWord word ≠ .integer := by
  unfold TokenKind.ofWord TokenKind.ofKeyword?
  split <;> simp

namespace Lexeme

variable {kind : TokenKind} {word rest : List Char}

/-- A lexeme has at least one character. -/
theorem ne_nil (h : Lexeme kind word rest) : word ≠ [] := by
  cases h with
  | word hne => exact hne
  | integer hne => exact hne
  | _ => exact List.cons_ne_nil _ _

/-- A lexeme is not the end of the input. -/
theorem kind_ne_endOfInput (h : Lexeme kind word rest) :
    kind ≠ .endOfInput := by
  cases h with
  | @symbol _ c _ h =>
      intro hend
      subst hend
      exact (ofSymbol?_ne c).1 h
  | word => exact (ofWord_ne _).1
  | _ => exact TokenKind.noConfusion

/-- An integer is made of digits. -/
theorem isDigit_of_integer (h : Lexeme .integer word rest) :
    ∀ c ∈ word, Numeral.isDigit c = true := by
  generalize hkind : TokenKind.integer = kind at h
  cases h with
  | @symbol _ c _ h => exact absurd (hkind ▸ h) (ofSymbol?_ne c).2
  | word => exact absurd hkind.symm (ofWord_ne _).2
  | integer _ hall => exact hall
  | _ => cases hkind

/-- A lexeme holds no blank. -/
theorem isBlank_eq_false (h : Lexeme kind word rest) :
    ∀ c ∈ word, isBlank c = false := by
  intro c hc
  cases h with
  | symbol h =>
      obtain rfl := List.mem_singleton.1 hc
      exact isBlank_of_ofSymbol? h
  | word _ hall => exact isBlank_of_isLetter (hall c hc)
  | integer _ hall => exact isBlank_of_isDigit (hall c hc)
  | illegal hblank =>
      obtain rfl := List.mem_singleton.1 hc
      exact hblank
  | _ =>
      simp only [List.mem_cons, List.not_mem_nil, or_false] at hc
      rcases hc with rfl | rfl <;> decide

end Lexeme

-- -------------------------------------------- the lexeme of a text

/-- What `dropWhile` leaves starts outside the class. -/
private theorem head?_dropWhile {p : Char → Bool} {text : List Char} :
    ∀ c, (text.dropWhile p).head? = some c → p c = false := by
  intro c h
  have := List.head?_dropWhile_not p text
  rw [h] at this
  simpa using this

/-- A run of a class is what `takeWhile` takes of a text, up to the first
character outside the class. -/
theorem takeWhile_run {p : Char → Bool} {run rest : List Char}
    (hall : ∀ c ∈ run, p c = true)
    (hend : ∀ c, rest.head? = some c → p c = false) :
    (run ++ rest).takeWhile p = run ∧ (run ++ rest).dropWhile p = rest := by
  rw [List.takeWhile_append_of_pos hall, List.dropWhile_append_of_pos hall]
  cases rest with
  | nil => simp
  | cons c rest => simp [hend c rfl]

/-- A character that an equals sign may join makes the joined lexeme
before one, and its own before anything else. -/
private theorem exists_joinable {c : Char} {alone joined : TokenKind}
    (hjoined : ∀ rest, Lexeme joined [c, '='] rest)
    (halone : ∀ rest, rest.head? ≠ some '=' → Lexeme alone [c] rest)
    (text : List Char) :
    ∃ kind cs rest, text = cs ++ rest ∧ Lexeme kind (c :: cs) rest := by
  by_cases h : text.head? = some '='
  · obtain ⟨rest, rfl⟩ := List.head?_eq_some_iff.1 h
    exact ⟨joined, ['='], rest, rfl, hjoined rest⟩
  · exact ⟨alone, [], text, rfl, halone text h⟩

/-- Whatever is no blank starts a lexeme. -/
theorem exists_lexeme {c : Char} (hblank : isBlank c = false)
    (text : List Char) :
    ∃ kind cs rest, text = cs ++ rest ∧ Lexeme kind (c :: cs) rest := by
  -- a run is split where `takeWhile` splits it
  have hrun {p : Char → Bool} (hc : p c = true) :
      ∀ d ∈ c :: text.takeWhile p, p d = true :=
    List.forall_mem_cons.2 ⟨hc, fun d => List.mem_takeWhile_imp⟩
  cases hsymbol : TokenKind.ofSymbol? c with
  | some kind => exact ⟨kind, [], text, rfl, .symbol hsymbol⟩
  | none =>
      by_cases hequals : c = '='
      · subst hequals
        exact exists_joinable (fun _ => .equal) (fun _ => .assign) text
      by_cases hbang : c = '!'
      · subst hbang
        exact exists_joinable (fun _ => .notEqual) (fun _ => .bang) text
      by_cases hletter : isLetter c = true
      · exact ⟨_, _, _, List.takeWhile_append_dropWhile.symm,
          .word (List.cons_ne_nil _ _) (hrun hletter) head?_dropWhile⟩
      by_cases hdigit : Numeral.isDigit c = true
      · exact ⟨_, _, _, List.takeWhile_append_dropWhile.symm,
          .integer (List.cons_ne_nil _ _) (hrun hdigit) head?_dropWhile⟩
      · rw [Bool.not_eq_true] at hletter hdigit
        exact ⟨.illegal, [], text, rfl,
          .illegal hblank hsymbol hequals hbang hletter hdigit⟩

-- ======================================================= reading a text

namespace Scanner

/-- The characters still before a scanner, up to the end of its
source. -/
def Faces (s : Scanner) (text : List Char) : Prop := s.source.Faces text

variable {s : Scanner} {text : List Char}

/-- A look at the end. -/
theorem peek_of_faces_nil (h : s.Faces []) :
    ∃ s', s.peek = (.error .endOfInput, s') ∧ s'.Faces []
      ∧ s'.here = s.here := by
  obtain ⟨a, ha, hf⟩ := Lookahead.peek_of_faces_nil h
  exact ⟨{ s with source := a }, by rw [peek, ha], hf, rfl⟩

/-- A look at a character, and moving past it. -/
theorem peek_of_faces_cons {c : Char} (h : s.Faces (c :: text)) :
    ∃ s', s.peek = (.ok c, s') ∧ s'.Faces (c :: text)
      ∧ s'.here = s.here ∧ (s'.pass c).Faces text
      ∧ (s'.pass c).here = s.here.after c := by
  obtain ⟨a, ha, hf, hr⟩ := Lookahead.peek_of_faces_cons h
  exact ⟨{ s with source := a }, by rw [peek, ha], hf, rfl, hr, rfl⟩

/-- Nothing can be taken at the end. -/
theorem take_of_faces_nil (h : s.Faces []) :
    ∃ s', s.take = (.error .endOfInput, s') ∧ s'.Faces []
      ∧ s'.here = s.here := by
  obtain ⟨a, ha, hf⟩ := Lookahead.take_of_faces_nil h
  exact ⟨{ s with source := a }, by rw [take, ha], hf, rfl⟩

/-- The first character is taken. -/
theorem take_of_faces_cons {c : Char} (h : s.Faces (c :: text)) :
    ∃ s', s.take = (.ok c, s') ∧ s'.Faces text
      ∧ s'.here = s.here.after c := by
  obtain ⟨a, ha, hf⟩ := Lookahead.take_of_faces_cons h
  exact ⟨{ s with source := a, here := s.here.after c },
    by rw [take, ha], hf, rfl⟩

-- ---------------------------------------------------------------- runs

/-- One step of a run: what the look at the next character decides. -/
theorem takeRun_step (p : Char → Bool) (s : Scanner) :
    s.takeRun p =
      match s.peek with
      | (.ok c, s') =>
          if p c then
            match (s'.pass c).takeRun p with
            | (.ok cs, s'') => (.ok (c :: cs), s'')
            | (.error f, s'') => (.error f, s'')
          else (.ok [], s')
      | (.error .endOfInput, s') => (.ok [], s')
      | (.error (.failed f), s') => (.error f, s') := by
  rw [takeRun]
  cases s.peek with
  | mk r s' =>
      match r with
      | .ok c => rfl
      | .error .endOfInput => rfl
      | .error (.failed f) => rfl

/-- A run is the longest beginning of the text inside the class. -/
theorem takeRun_of_faces (p : Char → Bool) (h : s.Faces text) :
    ∃ s', s.takeRun p = (.ok (text.takeWhile p), s')
      ∧ s'.Faces (text.dropWhile p)
      ∧ s'.here = s.here.afterAll (text.takeWhile p) := by
  induction text generalizing s with
  | nil =>
      obtain ⟨s', hpeek, hf, hh⟩ := peek_of_faces_nil h
      exact ⟨s', by rw [takeRun_step, hpeek]; rfl, hf, hh⟩
  | cons c text ih =>
      obtain ⟨s₁, hpeek, hf, hh, hpass, hpassed⟩ := peek_of_faces_cons h
      rw [takeRun_step, hpeek]
      cases hp : p c with
      | false =>
          rw [List.takeWhile_cons_of_neg (by simp [hp]),
            List.dropWhile_cons_of_neg (by simp [hp])]
          exact ⟨s₁, by simp [hp], hf, hh⟩
      | true =>
          obtain ⟨s', hrun, hf', hh'⟩ := ih hpass
          rw [List.takeWhile_cons_of_pos hp, List.dropWhile_cons_of_pos hp,
            Position.afterAll_cons, ← hpassed]
          exact ⟨s', by simp [hp, hrun], hf', hh'⟩

/-- Only the expected character is passed. -/
theorem passIf_of_faces (expected : Char) (h : s.Faces text) :
    (∃ rest s', text = expected :: rest
        ∧ s.passIf expected = (.ok true, s') ∧ s'.Faces rest
        ∧ s'.here = s.here.after expected)
      ∨ (text.head? ≠ some expected
        ∧ ∃ s', s.passIf expected = (.ok false, s') ∧ s'.Faces text
          ∧ s'.here = s.here) := by
  cases text with
  | nil =>
      obtain ⟨s', hpeek, hf, hh⟩ := peek_of_faces_nil h
      exact Or.inr ⟨by simp, s', by rw [passIf, hpeek], hf, hh⟩
  | cons c text =>
      obtain ⟨s₁, hpeek, hf, hh, hpass, hpassed⟩ := peek_of_faces_cons h
      by_cases hc : c = expected
      · subst hc
        exact Or.inl ⟨text, _, rfl, by rw [passIf, hpeek]; simp, hpass,
          hpassed⟩
      · exact Or.inr ⟨by simpa using hc, s₁,
          by rw [passIf, hpeek]; simp [hc], hf, hh⟩

-- -------------------------------------------------------------- tokens

/-- The ways in which a token goes on behind its first character. It may not
go on at all, an equals sign may join it, or a run does. -/
theorem lexeme_cases
    {motive : Except ReadFailure (TokenKind × List Char) × Scanner → Prop}
    (s : Scanner) (c : Char)
    (alone : ∀ kind, motive (.ok (kind, [c]), s))
    (assign : motive (s.joinable c .assign .equal))
    (bang : motive (s.joinable c .bang .notEqual))
    (word : motive (s.runOf isLetter (fun cs => .ofWord (String.ofList cs)) c))
    (integer : motive (s.runOf Numeral.isDigit (fun _ => .integer) c)) :
    motive (s.lexeme c) := by
  unfold lexeme
  split
  · exact alone _
  · split
    · exact assign
    · split
      · exact bang
      · split
        · exact word
        · split
          · exact integer
          · exact alone _

/-- An equals sign that is there is joined. -/
theorem joinable_of_equals {c : Char} (alone joined : TokenKind)
    (h : s.Faces ('=' :: text)) :
    ∃ s', s.joinable c alone joined = (.ok (joined, [c, '=']), s')
      ∧ s'.Faces text ∧ s'.here = s.here.after '=' := by
  rcases passIf_of_faces '=' h with
    ⟨rest, s', hrest, hpass, hf, hh⟩ | ⟨hne, -⟩
  · cases hrest
    exact ⟨s', by rw [joinable, hpass], hf, hh⟩
  · exact absurd rfl hne

/-- Before anything else the character stays alone. -/
theorem joinable_of_ne {c : Char} (alone joined : TokenKind)
    (hne : text.head? ≠ some '=') (h : s.Faces text) :
    ∃ s', s.joinable c alone joined = (.ok (alone, [c]), s')
      ∧ s'.Faces text ∧ s'.here = s.here := by
  rcases passIf_of_faces '=' h with
    ⟨rest, s', rfl, -⟩ | ⟨-, s', hpass, hf, hh⟩
  · exact absurd rfl hne
  · exact ⟨s', by rw [joinable, hpass], hf, hh⟩

/-- A run together with the character before it. -/
theorem runOf_of_faces {p : Char → Bool} (kind : List Char → TokenKind)
    {c : Char} {cs : List Char} (hall : ∀ d ∈ c :: cs, p d = true)
    (hend : ∀ d, text.head? = some d → p d = false)
    (h : s.Faces (cs ++ text)) :
    ∃ s', s.runOf p kind c = (.ok (kind (c :: cs), c :: cs), s')
      ∧ s'.Faces text ∧ s'.here = s.here.afterAll cs := by
  obtain ⟨s', hrun, hf, hh⟩ := takeRun_of_faces p h
  obtain ⟨htake, hdrop⟩ := takeWhile_run (List.forall_mem_cons.1 hall).2 hend
  rw [htake] at hrun hh
  rw [hdrop] at hf
  exact ⟨s', by rw [runOf, hrun], hf, hh⟩

/-- Behind its first character the rest of a lexeme is taken and no
more. -/
theorem lexeme_of_faces {kind : TokenKind} {c : Char} {cs : List Char}
    (hlexeme : Lexeme kind (c :: cs) text) (h : s.Faces (cs ++ text)) :
    ∃ s', s.lexeme c = (.ok (kind, c :: cs), s')
      ∧ s'.Faces text ∧ s'.here = s.here.afterAll cs := by
  unfold lexeme
  cases hlexeme with
  | symbol hsymbol => exact ⟨s, by rw [hsymbol], h, rfl⟩
  | assign hne => exact joinable_of_ne .assign .equal hne h
  | equal => exact joinable_of_equals .assign .equal h
  | bang hne => exact joinable_of_ne .bang .notEqual hne h
  | notEqual => exact joinable_of_equals .bang .notEqual h
  | word _ hall hend =>
      have hletter : isLetter c = true := hall c List.mem_cons_self
      obtain ⟨hsymbol, hequals, hbang⟩ := ofSymbol?_eq_none (Or.inl hletter)
      rw [hsymbol]
      simp only [hequals, hbang, hletter, if_false, if_true]
      exact runOf_of_faces _ hall hend h
  | integer _ hall hend =>
      have hdigit : Numeral.isDigit c = true := hall c List.mem_cons_self
      obtain ⟨hsymbol, hequals, hbang⟩ := ofSymbol?_eq_none (Or.inr hdigit)
      rw [hsymbol]
      simp only [hequals, hbang, isLetter_of_isDigit hdigit, hdigit, if_false,
        if_true, Bool.false_eq_true]
      exact runOf_of_faces _ hall hend h
  | illegal _ hsymbol hequals hbang hletter hdigit =>
      refine ⟨s, ?_, h, rfl⟩
      rw [hsymbol]
      simp [hequals, hbang, hletter, hdigit]

/-- Before nothing but blanks, a call finds the end of the input behind
them. -/
theorem scan_of_blanks (h : s.Faces text)
    (hblanks : ∀ c ∈ text, isBlank c = true) :
    ∃ s', s.scan = (.ok (.endOfInput ⟨s.here.afterAll text,
        s.here.afterAll text⟩), s')
      ∧ s'.Faces [] ∧ s'.here = s.here.afterAll text := by
  obtain ⟨s₁, hrun, hf₁, hh₁⟩ := takeRun_of_faces isBlank h
  rw [List.takeWhile_eq_self_iff.2 hblanks] at hrun hh₁
  rw [List.dropWhile_eq_nil_iff.2 hblanks] at hf₁
  obtain ⟨s₂, htake, hf₂, hh₂⟩ := take_of_faces_nil hf₁
  rw [hh₁] at hh₂
  exact ⟨s₂, by rw [scan, hrun]; simp only [htake, hh₂, hh₁], hf₂, hh₂⟩

/-- Before anything else, a call skips the blanks and reads the lexeme
behind them. -/
theorem scan_of_lexeme {kind : TokenKind} {blanks word : List Char}
    (hblanks : ∀ c ∈ blanks, isBlank c = true)
    (hlexeme : Lexeme kind word text) (h : s.Faces (blanks ++ (word ++ text))) :
    ∃ s', s.scan = (.ok ⟨kind, String.ofList word, ⟨s.here.afterAll blanks,
        s.here.afterAll (blanks ++ word)⟩⟩, s')
      ∧ s'.Faces text ∧ s'.here = s.here.afterAll (blanks ++ word) := by
  obtain ⟨c, cs, rfl⟩ := List.exists_cons_of_ne_nil hlexeme.ne_nil
  have hc : ∀ d, (c :: cs ++ text).head? = some d → isBlank d = false := by
    intro d hd
    cases hd
    exact hlexeme.isBlank_eq_false c List.mem_cons_self
  obtain ⟨s₁, hrun, hf₁, hh₁⟩ := takeRun_of_faces isBlank h
  obtain ⟨htake, hdrop⟩ := takeWhile_run hblanks hc
  rw [htake] at hrun hh₁
  rw [hdrop] at hf₁
  obtain ⟨s₂, hchar, hf₂, hh₂⟩ := take_of_faces_cons hf₁
  obtain ⟨s₃, hread, hf₃, hh₃⟩ := lexeme_of_faces hlexeme hf₂
  have hstop : s₃.here = s.here.afterAll (blanks ++ c :: cs) := by
    rw [hh₃, hh₂, hh₁, Position.afterAll_append, Position.afterAll_cons]
  refine ⟨s₃, ?_, hf₃, hstop⟩
  rw [scan, hrun]
  simp only [hchar, hread]
  rw [hstop, hh₁]

end Scanner

end Monkey
