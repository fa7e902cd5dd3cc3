/-
Cutting a text loses nothing but blanks. A text is cut into lexemes with
blanks between them (`Cuts`). There is such a cut of every text
(`exists_cuts`), and its tokens are those of the text (`hands_of_cuts`);
what a token says about where it stands and what it was cut from is read
off the cut.

Places in a text are byte offsets. Those at which characters meet are
the positions of the text, and what stands between two of them is the
text's own `extract`.
-/
import Monkey.Proofs.Source.Decoding
import Monkey.Proofs.Token.Hands
import Monkey.Proofs.Token.Lexeme

namespace Monkey

-- ================================================== places in a text

namespace Text

/-- This part stands in a text from one byte to another. At both of them
characters meet. -/
def StandsAt (text : String) (start stop : Nat) (part : String) : Prop :=
  ∃ a b : text.Pos, a.offset.byteIdx = start ∧ b.offset.byteIdx = stop
    ∧ start ≤ stop ∧ text.extract a b = part

/-- What stands in a text starts before it stops, and stops within the
text. -/
theorem StandsAt.bounds {text part : String} {start stop : Nat}
    (h : StandsAt text start stop part) :
    start ≤ stop ∧ stop ≤ text.utf8ByteSize := by
  obtain ⟨a, b, -, rfl, hle, -⟩ := h
  exact ⟨hle, b.isValid.le_utf8ByteSize⟩

/-- What stands between two parts of a text starts behind the first and
stops before the second. -/
theorem standsAt_append (before part behind : String) :
    StandsAt (before ++ part ++ behind) before.utf8ByteSize
      (before ++ part).utf8ByteSize part := by
  have hstart : (⟨before.utf8ByteSize⟩ : String.Pos.Raw).IsValid
      (before ++ part ++ behind) :=
    String.Pos.Raw.isValid_iff_exists_append.2
      ⟨before, part ++ behind, String.append_assoc, rfl⟩
  have hstop : (⟨(before ++ part).utf8ByteSize⟩ : String.Pos.Raw).IsValid
      (before ++ part ++ behind) :=
    String.Pos.Raw.isValid_iff_exists_append.2
      ⟨before ++ part, behind, rfl, rfl⟩
  refine ⟨⟨_, hstart⟩, ⟨_, hstop⟩, rfl, rfl, ?_, ?_⟩
  · rw [String.utf8ByteSize_append]
    exact Nat.le_add_right _ _
  · rw [← String.toByteArray_inj, String.toByteArray_extract]
    show (before ++ part ++ behind).toByteArray.extract
      before.toByteArray.size (before ++ part).toByteArray.size
        = part.toByteArray
    rw [String.toByteArray_append, ByteArray.extract_append_size_left,
      String.toByteArray_append, ByteArray.size_append]
    exact ByteArray.extract_append_eq_right rfl rfl

end Text

open Text

/-- Passing characters moves on by their bytes. -/
theorem offset_afterAll (p : Position) (cs : List Char) :
    (p.afterAll cs).offset = p.offset + (String.ofList cs).utf8ByteSize := by
  induction cs generalizing p with
  | nil => rfl
  | cons c cs ih =>
      have hc : (p.after c).offset = p.offset + c.utf8Size := by
        unfold Position.after
        split <;> rfl
      have hsize : (String.ofList (c :: cs)).utf8ByteSize
          = c.utf8Size + (String.ofList cs).utf8ByteSize := by
        rw [← List.singleton_append, String.ofList_append,
          String.utf8ByteSize_append, ← String.singleton_eq_ofList,
          String.utf8ByteSize_singleton]
      rw [Position.afterAll_cons, ih, hc, hsize, Nat.add_assoc]

/-- Characters are passed forwards. -/
theorem offset_le_afterAll (p : Position) (cs : List Char) :
    p.offset ≤ (p.afterAll cs).offset := by
  rw [offset_afterAll]
  exact Nat.le_add_right _ _

/-- A part of a text stands between the positions before and behind
it. -/
theorem standsAt_afterAll (before part behind : List Char) :
    StandsAt (String.ofList (before ++ (part ++ behind)))
      (Position.origin.afterAll before).offset
      (Position.origin.afterAll (before ++ part)).offset
      (String.ofList part) := by
  have h := standsAt_append (String.ofList before) (String.ofList part)
    (String.ofList behind)
  rw [← String.ofList_append, ← String.ofList_append, List.append_assoc] at h
  rw [offset_afterAll, offset_afterAll]
  simpa only [Position.origin, Nat.zero_add] using h

-- ================================================================ cuts

/-- From a position on, a text is these tokens and the end of the input,
with nothing but blanks around them. -/
inductive Cuts : Position → List Char → List Token → Token → Prop
  | ended {p : Position} {text : List Char}
      (hblanks : ∀ c ∈ text, isBlank c = true) :
      Cuts p text [] (.endOfInput ⟨p.afterAll text, p.afterAll text⟩)
  | token {p : Position} {kind : TokenKind} {blanks word rest : List Char}
      {ts : List Token} {e : Token}
      (hblanks : ∀ c ∈ blanks, isBlank c = true)
      (hlexeme : Lexeme kind word rest)
      (later : Cuts (p.afterAll (blanks ++ word)) rest ts e) :
      Cuts p (blanks ++ (word ++ rest))
        (⟨kind, String.ofList word,
          ⟨p.afterAll blanks, p.afterAll (blanks ++ word)⟩⟩ :: ts) e

/-- Every text can be cut. -/
theorem exists_cuts (p : Position) (text : List Char) :
    ∃ ts e, Cuts p text ts e := by
  have hsplit := List.takeWhile_append_dropWhile (p := isBlank) (l := text)
  have hblanks : ∀ c ∈ text.takeWhile isBlank, isBlank c = true :=
    fun c => List.mem_takeWhile_imp
  cases hdrop : text.dropWhile isBlank with
  | nil =>
      rw [hdrop, List.append_nil] at hsplit
      rw [hsplit] at hblanks
      exact ⟨[], _, .ended hblanks⟩
  | cons c cs =>
      have hc : isBlank c = false := by
        have := List.head?_dropWhile_not isBlank text
        rw [hdrop] at this
        simpa using this
      obtain ⟨kind, word, rest, rfl, hlexeme⟩ := exists_lexeme hc cs
      have hshort : rest.length < text.length := by
        rw [← hsplit, hdrop]
        simp only [List.length_append, List.length_cons]
        omega
      obtain ⟨ts, e, hcuts⟩ := exists_cuts
        (p.afterAll (text.takeWhile isBlank ++ c :: word)) rest
      rw [hdrop, ← List.cons_append] at hsplit
      rw [← hsplit]
      exact ⟨_, e, .token hblanks hlexeme hcuts⟩
termination_by text.length

/-- A scanner before a text hands out the tokens of any cut of it, and then
the end of the input. So there is only one cut. -/
theorem hands_of_cuts {s : Scanner} {text : List Char} {ts : List Token}
    {e : Token} (h : s.Faces text) (hcuts : Cuts s.here text ts e) :
    Hands s ts (.ok e) := by
  generalize hp : s.here = p at hcuts
  induction hcuts generalizing s with
  | ended hblanks =>
      obtain ⟨s', hscan, -⟩ := Scanner.scan_of_blanks h hblanks
      rw [hp] at hscan
      exact .ended hscan rfl
  | token hblanks hlexeme _ ih =>
      obtain ⟨s', hscan, hf, hh⟩ := Scanner.scan_of_lexeme hblanks hlexeme h
      rw [hp] at hscan hh
      exact .token hscan hlexeme.kind_ne_endOfInput (ih hf hh)

/-- The scanner of a text is before that text. -/
theorem faces_ofText (text : String) :
    (Scanner.ofText text).Faces text.toList :=
  .fresh (ByteSource.reads_ofText text)

/-- The tokens of a text are a cut of it. -/
theorem hands_ofText (text : String) :
    ∃ ts e, Hands (Scanner.ofText text) ts (.ok e)
      ∧ Cuts .origin text.toList ts e := by
  obtain ⟨ts, e, hcuts⟩ := exists_cuts .origin text.toList
  exact ⟨ts, e, hands_of_cuts (faces_ofText text) hcuts, hcuts⟩

/-- A text is cut in one way. -/
theorem Cuts.unique {text : List Char} {ts us : List Token} {e z : Token}
    (h : Cuts .origin text ts e) (h' : Cuts .origin text us z) :
    ts = us ∧ e = z := by
  have hfaces := faces_ofText (String.ofList text)
  rw [String.toList_ofList] at hfaces
  have htokens := (tokenize_of_hands (hands_of_cuts hfaces h)).symm.trans
    (tokenize_of_hands (hands_of_cuts hfaces h'))
  obtain ⟨hts, he⟩ := List.append_inj' (Except.ok.inj htokens) rfl
  exact ⟨hts, List.head_eq_of_cons_eq he⟩

/-- The tokens of a text are what its scanner hands out before the end of
the input. -/
theorem hands_of_tokenize {src : String} {ts : List Token} {e : Token}
    (h : tokenize src = .ok (ts ++ [e])) :
    Hands (Scanner.ofText src) ts (.ok e) := by
  obtain ⟨us, z, hhands, -⟩ := hands_ofText src
  rw [tokenize_of_hands hhands] at h
  obtain ⟨rfl, hz⟩ := List.append_inj' (Except.ok.inj h) rfl
  cases hz
  exact hhands

-- ============================================================ lossless

/-- From byte `n` of a text on there are only blanks before each of these
tokens, each time from where the one before it stops. -/
def BlanksBetween (text : String) : Nat → List Token → Prop
  | _, [] => True
  | n, t :: ts =>
      (∃ gap, StandsAt text n t.span.start.offset gap
        ∧ ∀ c ∈ gap.toList, isBlank c = true)
      ∧ BlanksBetween text t.span.stop.offset ts

namespace Cuts

variable {p : Position} {text : List Char} {ts : List Token} {e : Token}

/-- The end of a cut is an end of the input without text. -/
theorem endOfInput (h : Cuts p text ts e) :
    e.kind = .endOfInput ∧ e.literal = "" := by
  induction h with
  | ended => exact ⟨rfl, rfl⟩
  | token _ _ _ ih => exact ih

/-- The end of a cut stands at the end of the text. -/
theorem stop_endOfInput (h : Cuts p text ts e) :
    e.span = ⟨p.afterAll text, p.afterAll text⟩ := by
  induction h with
  | ended => rfl
  | token _ _ _ ih => rw [ih, ← Position.afterAll_append, List.append_assoc]

/-- The tokens of a text stand within it. -/
theorem within (h : Cuts p text ts e) :
    ∀ t ∈ ts, p.offset ≤ t.span.start.offset
      ∧ t.span.stop.offset ≤ (p.afterAll text).offset := by
  induction h with
  | ended => simp
  | @token p kind blanks word rest ts e _ _ _ ih =>
      have hend : p.afterAll (blanks ++ (word ++ rest))
          = (p.afterAll (blanks ++ word)).afterAll rest := by
        rw [← Position.afterAll_append, List.append_assoc]
      rw [hend]
      refine List.forall_mem_cons.2 ⟨⟨?_, ?_⟩, ?_⟩
      · exact offset_le_afterAll p blanks
      · exact offset_le_afterAll _ rest
      · intro t ht
        obtain ⟨hstart, hstop⟩ := ih t ht
        exact ⟨Nat.le_trans (offset_le_afterAll p _) hstart, hstop⟩

/-- No token of a cut is the end of the input, and none is empty. -/
theorem forall_token (h : Cuts p text ts e) :
    ∀ t ∈ ts, t.kind ≠ .endOfInput ∧ t.literal ≠ "" := by
  induction h with
  | ended => simp
  | token _ hlexeme _ ih =>
      refine List.forall_mem_cons.2 ⟨⟨hlexeme.kind_ne_endOfInput, ?_⟩, ih⟩
      intro hempty
      exact hlexeme.ne_nil (String.ofList_eq_empty_iff.1 hempty)

/-- The integers of a cut are digits. -/
theorem forall_integer (h : Cuts p text ts e) :
    ∀ t ∈ ts, t.kind = .integer →
      ∀ c ∈ t.literal.toList, Numeral.isDigit c = true := by
  induction h with
  | ended => simp
  | @token p kind blanks word rest ts e _ hlexeme _ ih =>
      refine List.forall_mem_cons.2 ⟨?_, ih⟩
      intro hkind
      obtain rfl : kind = .integer := hkind
      rw [String.toList_ofList]
      exact hlexeme.isDigit_of_integer

/-- The literals of a cut are its text without the blanks. -/
theorem literals (h : Cuts p text ts e) :
    ts.flatMap (·.literal.toList) = text.filter (!isBlank ·) := by
  induction h with
  | ended hblanks => simpa using hblanks
  | @token p kind blanks word rest ts e hblanks hlexeme _ ih =>
      have hskip : blanks.filter (!isBlank ·) = [] := by simpa using hblanks
      have hkeep : word.filter (!isBlank ·) = word := by
        simpa using hlexeme.isBlank_eq_false
      rw [List.flatMap_cons, ih, List.filter_append, List.filter_append,
        hskip, hkeep, String.toList_ofList, List.nil_append]

/-- In a text of which the characters before a cut were passed, every
token of the cut stands where its span says, and between the tokens there
are only blanks. -/
theorem standsAt (before : List Char)
    (h : Cuts (Position.origin.afterAll before) text ts e) :
    (∀ t ∈ ts ++ [e], StandsAt (String.ofList (before ++ text))
        t.span.start.offset t.span.stop.offset t.literal)
      ∧ BlanksBetween (String.ofList (before ++ text))
          (Position.origin.afterAll before).offset (ts ++ [e]) := by
  generalize hp : Position.origin.afterAll before = p at h
  induction h generalizing before with
  | @ended p text hblanks =>
      subst hp
      have hend := standsAt_afterAll (before ++ text) [] []
      have hgap := standsAt_afterAll before text []
      simp only [List.append_nil, ← Position.afterAll_append] at hend hgap ⊢
      exact ⟨List.forall_mem_singleton.2 hend,
        ⟨_, hgap, by simpa using hblanks⟩, trivial⟩
  | @token p kind blanks word rest ts e hblanks hlexeme _ ih =>
      subst hp
      have hword := standsAt_afterAll (before ++ blanks) word rest
      have hgap := standsAt_afterAll before blanks (word ++ rest)
      obtain ⟨hlater, hbetween⟩ := ih (before ++ (blanks ++ word))
        (Position.afterAll_append ..)
      simp only [List.append_assoc, Position.afterAll_append] at *
      exact ⟨List.forall_mem_cons.2 ⟨hword, hlater⟩,
        ⟨_, hgap, by simpa using hblanks⟩, hbetween⟩

end Cuts

/-- Cutting a text into tokens always succeeds and loses nothing but
blanks. The last token is the one end of the input, without text, at the
end of the text. Every token stands where its span says, and is not empty
unless it is the last; only blanks stand before the first token and
between one and the next; and so the literals together are the text
without its blanks. -/
theorem tokenize_lossless (src : String) :
    ∃ ts e, tokenize src = .ok (ts ++ [e])
      ∧ e.kind = .endOfInput ∧ e.literal = ""
      ∧ e.span.start.offset = src.utf8ByteSize
      ∧ e.span.stop.offset = src.utf8ByteSize
      ∧ (∀ t ∈ ts, t.kind ≠ .endOfInput ∧ t.literal ≠ "")
      ∧ (∀ t ∈ ts ++ [e], t.span.start.offset ≤ t.span.stop.offset
          ∧ t.span.stop.offset ≤ src.utf8ByteSize
          ∧ StandsAt src t.span.start.offset t.span.stop.offset t.literal)
      ∧ BlanksBetween src 0 (ts ++ [e])
      ∧ (ts ++ [e]).flatMap (·.literal.toList)
          = src.toList.filter (!isBlank ·) := by
  obtain ⟨ts, e, hhands, hcuts⟩ := hands_ofText src
  obtain ⟨hkind, hliteral⟩ := hcuts.endOfInput
  have hend : (Position.origin.afterAll src.toList).offset
      = src.utf8ByteSize := by
    rw [offset_afterAll, String.ofList_toList]
    exact Nat.zero_add _
  obtain ⟨hstands, hbetween⟩ := Cuts.standsAt [] hcuts
  rw [List.nil_append, String.ofList_toList] at hstands hbetween
  refine ⟨ts, e, tokenize_of_hands hhands, hkind, hliteral, ?_, ?_,
    hcuts.forall_token, ?_, hbetween, ?_⟩
  · rw [hcuts.stop_endOfInput, hend]
  · rw [hcuts.stop_endOfInput, hend]
  · intro t ht
    have hat := hstands t ht
    exact ⟨hat.bounds.1, hat.bounds.2, hat⟩
  · rw [List.flatMap_append, hcuts.literals, List.flatMap_singleton, hliteral]
    simp

end Monkey
