/-
How far a scanner takes its source. What it has taken are the bytes of the
blanks and of the words of all tokens that it gave, and of at most one
character more, the one that was looked at and that comes next
(`scans_take_one_ahead`). Behind a token that no character can go on with
there is no such character (`Scanner.held_of_scan`), so that someone who
types it need not type more to get it.

The bytes are counted in chunks, as each character was taken in one,
malformed or not. A lookahead stands before the chunks and the characters
that were not passed yet (`Lookahead.Stands`): it has taken no chunk of them,
or only the first, whose character it then holds. Every call keeps that
(`Stands.call`), and moves on by the characters that it takes for good. A
token costs some calls, so it is kept by a run of the scanner
(`Stands.after`).
-/
import Monkey.Proofs.Program.Resuming
import Monkey.Proofs.Token.Classes
import Monkey.Proofs.Token.Places

namespace Monkey

open Text

-- ============================================================ lookahead

namespace Lookahead

/-- Before the lookahead stand these characters, and for each the chunk of
bytes that means it. Behind them comes the end, and before them `n` bytes
were taken. The first chunk was taken too if its character is held. -/
inductive Stands : Lookahead → Nat → List (List UInt8) → List Char → Prop
  | fresh {source : ByteSource} {chunks : List (List UInt8)}
      {text : List Char} (h : source.Decodes chunks text)
      (hholds : source.Holds chunks.flatten) :
      Stands ⟨source, none⟩ source.taken chunks text
  | held {source : ByteSource} {n : Nat} {chunk : List UInt8}
      {chunks : List (List UInt8)} {c : Char} {text : List Char}
      (h : source.Decodes chunks text) (hholds : source.Holds chunks.flatten)
      (htaken : source.taken = n + chunk.length) :
      Stands ⟨source, some c⟩ n (chunk :: chunks) (c :: text)

namespace Stands

variable {a : Lookahead} {n : Nat} {chunks : List (List UInt8)}
  {text : List Char}

/-- The source is behind the chunk of the character that is held, if there is
one, and that character comes first. -/
theorem source (h : a.Stands n chunks text) :
    let held := a.held.toList
    held <+: text
      ∧ a.source.taken = n + (chunks.take held.length).flatten.length
      ∧ a.source.Holds (chunks.drop held.length).flatten := by
  cases h with
  | fresh _ hholds => exact ⟨List.nil_prefix, rfl, hholds⟩
  | @held source n chunk chunks c text _ hholds htaken =>
      refine ⟨List.cons_prefix_cons.2 ⟨rfl, List.nil_prefix⟩, ?_, hholds⟩
      show source.taken = n + ([chunk] : List (List UInt8)).flatten.length
      rw [List.flatten_singleton, htaken]

/-- A call moves the lookahead on by what it takes for good. -/
theorem call (h : a.Stands n chunks text) (call : Call) :
    let cs := call.takes (a.call call).1
    cs <+: text
      ∧ (a.call call).2.Stands (n + (chunks.take cs.length).flatten.length)
          (chunks.drop cs.length) (text.drop cs.length) := by
  cases h with
  | held h hholds htaken =>
      rw [call_of_held]
      cases call with
      | peek => exact ⟨List.nil_prefix, .held h hholds htaken⟩
      | take =>
          refine ⟨List.cons_prefix_cons.2 ⟨rfl, List.nil_prefix⟩, ?_⟩
          show Stands ⟨_, none⟩ (_ + (List.flatten [_]).length) _ _
          rw [List.flatten_singleton, ← htaken]
          exact .fresh h hholds
  | @fresh source chunks text h hholds =>
      cases h with
      | ended hread =>
          have hcall := call_of_error hread call
          rw [ofSource] at hcall
          rw [hcall]
          have hover : Stands ⟨⟨[], source.taken⟩, none⟩ source.taken [] [] :=
            .fresh (.ended rfl) rfl
          cases call <;> exact ⟨List.nil_prefix, hover⟩
      | @char _ rest chunk chunks c text hread htaken _ later =>
          have hcall := call_of_ok hread call
          rw [ofSource] at hcall
          rw [hcall]
          rw [List.flatten_cons] at hholds
          have hrest := ByteSource.holds_of_taken hholds hread htaken
          cases call with
          | peek => exact ⟨List.nil_prefix, .held later hrest htaken⟩
          | take =>
              refine ⟨List.cons_prefix_cons.2 ⟨rfl, List.nil_prefix⟩, ?_⟩
              show Stands ⟨_, none⟩ (_ + (List.flatten [_]).length) _ _
              rw [List.flatten_singleton, ← htaken]
              exact .fresh later hrest

/-- So do calls, one after another. -/
theorem after (h : a.Stands n chunks text) (calls : List Call) :
    let cs := a.passed calls
    cs <+: text
      ∧ (a.after calls).Stands (n + (chunks.take cs.length).flatten.length)
          (chunks.drop cs.length) (text.drop cs.length) := by
  induction calls generalizing a n chunks text with
  | nil => exact ⟨List.nil_prefix, h⟩
  | cons call calls ih =>
      obtain ⟨hfirst, hcall⟩ := h.call call
      obtain ⟨hlater, hcalls⟩ := ih hcall
      intro cs
      have hcs : cs = call.takes (a.call call).1
          ++ (a.call call).2.passed calls := rfl
      refine ⟨?_, ?_⟩
      · rw [hcs, ← List.prefix_iff_eq_append.1 hfirst]
        exact (List.prefix_append_right_inj _).2 hlater
      · rw [List.drop_drop, List.drop_drop, Nat.add_assoc, ← List.length_append,
          ← List.flatten_append, ← List.take_add, ← List.length_append,
          ← hcs] at hcalls
        exact hcalls

end Stands

end Lookahead

-- ============================================================ tokens

/-- The kinds of token that are complete with their last character, whatever
follows. No others are: a word and an integer go on with more of the same, and
an equals sign or an exclamation mark with an equals sign. -/
def TokenKind.selfDelimiting : List TokenKind :=
  [.illegal, .endOfInput, .plus, .minus, .asterisk, .slash, .equal, .notEqual,
    .lessThan, .greaterThan, .comma, .semicolon, .leftParen, .rightParen,
    .leftBrace, .rightBrace]

/-- A word is not known to be complete. -/
theorem TokenKind.ofWord_not_mem_selfDelimiting (word : String) :
    ofWord word ∉ selfDelimiting := by
  unfold ofWord ofKeyword?
  split <;> decide

namespace Scanner

variable {s s' : Scanner}

/-- A run makes a token of the kind that its characters have. -/
theorem kind_of_runOf {p : Char → Bool} {kindOf : List Char → TokenKind}
    {c : Char} {kind : TokenKind} {cs : List Char}
    (h : s.runOf p kindOf c = (.ok (kind, cs), s')) :
    ∃ ds, kind = kindOf ds := by
  unfold runOf at h
  split at h <;> cases h
  exact ⟨_, rfl⟩

/-- Nothing is held behind a take, whatever it gave. -/
theorem held_of_take {r : Except ReadError Char} (h : s.take = (r, s')) :
    s'.source.held = none := by
  have htake : s.source.take.2.held = none := by
    unfold Lookahead.take
    split
    · rfl
    · split <;> rfl
  unfold take at h
  split at h <;> next hread =>
    cases h
    rwa [hread] at htake

/-- Nor behind an equals sign that was joined. -/
theorem held_of_joinable {c : Char} {kind alone joined : TokenKind}
    {cs : List Char} (h : s.joinable c alone joined = (.ok (kind, cs), s'))
    (halone : kind ≠ alone) : s'.source.held = none := by
  unfold joinable at h
  split at h
  · next s₁ hpass =>
    cases h
    unfold passIf at hpass
    split at hpass
    · split at hpass <;> cases hpass
      rfl
    · cases hpass
    · cases hpass
  · cases h
    exact absurd rfl halone
  · cases h

/-- Nor behind the rest of a token that is complete with it. -/
theorem held_of_lexeme {c : Char} {kind : TokenKind} {cs : List Char}
    (hs : s.source.held = none) (hkind : kind ∈ TokenKind.selfDelimiting) :
    s.lexeme c = (.ok (kind, cs), s') → s'.source.held = none := by
  have hne {other : TokenKind} (hother : other ∉ TokenKind.selfDelimiting) :
      kind ≠ other :=
    fun heq => hother (heq ▸ hkind)
  refine lexeme_cases (motive := fun r => r = (.ok (kind, cs), s') → _) s c ?_
    ?_ ?_ ?_ ?_
  · intro kind' h
    cases h
    exact hs
  · intro h
    exact held_of_joinable h (hne (by decide))
  · intro h
    exact held_of_joinable h (hne (by decide))
  · intro h
    obtain ⟨ds, hword⟩ := kind_of_runOf h
    exact absurd hword (hne (TokenKind.ofWord_not_mem_selfDelimiting _))
  · intro h
    obtain ⟨ds, hinteger⟩ := kind_of_runOf h
    exact absurd hinteger (hne (by decide))

/-- So behind a token that is complete with its last character nothing is
held: not one byte was taken that is not the token's. -/
theorem held_of_scan {t : Token} (h : s.scan = (.ok t, s'))
    (ht : t.kind ∈ TokenKind.selfDelimiting) : s'.source.held = none := by
  unfold scan at h
  split at h
  · cases h
  · split at h
    · next htake =>
      cases h
      exact held_of_take htake
    · cases h
    · next htake =>
      split at h
      · next hlexeme =>
        cases h
        exact held_of_lexeme (held_of_take htake) ht hlexeme
      · cases h

-- =============================================================== runs

variable {blanks word : Nat → List Char}

/-- What was passed by so many calls for a token, if each passed its blanks
and then its word. -/
def passedBy (blanks word : Nat → List Char) (n : Nat) : List Char :=
  (List.range n).flatMap fun i => blanks i ++ word i

/-- The laps of a run pass nothing else. -/
theorem passed_callsOf {laps : Nat → List Lookahead.Call}
    (h : ∀ n, Lap (s.scans n) (laps n) (blanks n) (word n)) (n : Nat) :
    s.source.passed (callsOf laps n) = passedBy blanks word n := by
  induction n with
  | zero => rfl
  | succ n ih =>
      rw [passed_callsOf_succ h, ih, passedBy, passedBy, List.range_succ,
        List.flatMap_append, List.flatMap_singleton]

/-- A scanner that has a text before it gives a token whenever it is asked. -/
theorem exists_scans_ok {text : List Char} (h : s.Faces text) (n : Nat) :
    ∃ t, (s.scans n).scan.1 = .ok t := by
  obtain ⟨ts, e, hcuts⟩ := exists_cuts s.here text
  have hhands := hands_scans h hcuts n
  generalize ts.drop n = later, hlast : Except.ok e = last at hhands
  cases hhands with
  | ended h => exact ⟨_, congrArg Prod.fst h⟩
  | failed => cases hlast
  | token h => exact ⟨_, congrArg Prod.fst h⟩

end Scanner

open Scanner

/-- Of bytes that are read without a failure, however they arrive, a scanner
takes one character more than it passes at most. The bytes are taken in
chunks of one to four, each for the character that it means. Every call gives
a token, and passes some blanks and the characters of the token. Behind it
the chunks of all that was passed so far are taken, and of at most one
character more, which is held and comes next; and these are all bytes that
are taken, the others being left. Nothing is held behind a token that is
complete with its last character. -/
theorem scans_take_one_ahead {source : ByteSource} {bytes : List UInt8}
    (h : source.signals = bytes.map .byte) :
    let s := Scanner.ofSource source
    ∃ (chunks : List (List UInt8)) (text : List Char)
      (blanks word : Nat → List Char),
      chunks.flatten = bytes
        ∧ List.Forall₂ (fun chunk c => 0 < chunk.length ∧ chunk.length ≤ 4
            ∧ Utf8.Means chunk c) chunks text
        ∧ ∀ n,
          let behind := s.scans (n + 1)
          let held := behind.source.held
          let read := passedBy blanks word (n + 1) ++ held.toList
          (∃ t, (s.scans n).scan = (.ok t, behind)
            ∧ (∀ c ∈ blanks n, isBlank c = true)
            ∧ t.literal = String.ofList (word n)
            ∧ (t.kind ∈ TokenKind.selfDelimiting → held = none))
          ∧ read <+: text
          ∧ behind.taken
            = source.taken + (chunks.take read.length).flatten.length
          ∧ behind.source.source.signals
            = (chunks.drop read.length).flatten.map .byte := by
  intro s
  obtain ⟨text, hdecodes⟩ := ByteSource.decodes_chunks h
  have hflatten := Utf8.flatten_chunks bytes
  choose laps blanks word hlap using fun n => exists_lap (s.scans n)
  refine ⟨Utf8.chunks bytes, text, blanks, word, hflatten, ?_, fun n => ?_⟩
  · have hmeans : List.Forall₂ (fun chunk c => Utf8.Chunk chunk
        ∧ Utf8.Means chunk c) (Utf8.chunks bytes) text :=
      (List.forall₂_and_left _ _).2
        ⟨fun _ hchunk => Utf8.chunk_of_mem hchunk, hdecodes.means⟩
    apply hmeans.imp
    intro chunk c hchunk
    obtain ⟨hchunk, hc⟩ := hchunk
    exact ⟨hchunk.length_pos, hchunk.length_le, hc⟩
  · intro behind held read
    have hstart : s.source.Stands source.taken (Utf8.chunks bytes) text :=
      .fresh hdecodes (by rw [hflatten]; exact h)
    obtain ⟨hpassed, hstands⟩ := hstart.after (callsOf laps (n + 1))
    rw [passed_callsOf hlap, ← (goes_scans hlap (n + 1)).source] at hstands
    rw [passed_callsOf hlap] at hpassed
    obtain ⟨hheld, htaken, hleft⟩ := hstands.source
    have hread : read.length
        = (passedBy blanks word (n + 1)).length + held.toList.length :=
      List.length_append
    refine ⟨?_, ?_, ?_, ?_⟩
    · have hfaces : s.Faces text := .fresh hdecodes.reads
      obtain ⟨t, ht⟩ := exists_scans_ok hfaces n
      have hscan : (s.scans n).scan = (.ok t, behind) :=
        Prod.ext ht (s.scans_succ n).symm
      exact ⟨t, hscan, (hlap n).skipped, ((hlap n).literal t ht).1,
        held_of_scan hscan⟩
    · rw [← List.prefix_iff_eq_append.1 hpassed]
      exact (List.prefix_append_right_inj _).2 hheld
    · rw [hread, List.take_add, List.flatten_append, List.length_append,
        ← Nat.add_assoc]
      exact htaken
    · rw [hread, ← List.drop_drop]
      exact hleft

/-- A sequence that an equals sign breaks off behind a letter. Its two bytes
are taken with the letter, as one character, since the letter might go on. The
equals signs are taken with the token that they are. -/
theorem scans_take_one_ahead_malformed :
    let bytes : List UInt8 := [0x61, 0xE4, 0xB8, 0x3D, 0x3D]
    let source : ByteSource := .ofEvents [.data [0x61, 0xE4],
      .failed ⟨.interrupted, none⟩, .data [0xB8, 0x3D, 0x3D]]
    let s := Scanner.ofSource source
    source.signals = bytes.map .byte
      ∧ (s.scans 1).source.held = some Utf8.replacement
      ∧ (s.scans 1).taken = 3 ∧ (s.scans 2).taken = 3
      ∧ (s.scans 3).source.held = none ∧ (s.scans 3).taken = 5
      ∧ ∃ (chunks : List (List UInt8)) (text : List Char)
        (blanks word : Nat → List Char), chunks.flatten = bytes
          ∧ ∀ n, let read := passedBy blanks word (n + 1)
              ++ (s.scans (n + 1)).source.held.toList
            read <+: text ∧ (s.scans (n + 1)).taken
              = 0 + (chunks.take read.length).flatten.length := by
  intro bytes source s
  have h : source.signals = bytes.map .byte := by decide
  obtain ⟨chunks, text, blanks, word, hflatten, -, hscans⟩ :=
    scans_take_one_ahead h
  refine ⟨h, by decide +kernel, by decide +kernel, by decide +kernel,
    by decide +kernel, by decide +kernel, chunks, text, blanks, word, hflatten,
    fun n => ?_⟩
  obtain ⟨-, hread, htaken, -⟩ := hscans n
  exact ⟨hread, htaken⟩

end Monkey
