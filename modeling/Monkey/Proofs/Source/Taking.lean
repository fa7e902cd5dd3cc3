/-
Characters taken one after another from a source of any bytes. The take of
number `n` gives the character of that number and moves the source past its
chunk, and behind the last chunk every take gives the end
(`ByteSource.Decodes.nth`). Which chunks these are is known from the bytes
alone (`Utf8.chunks`).

So decoding undoes encoding: the bytes of a text are taken as its characters
(`nth_of_encode`). And nothing is lost of bytes that are not those of a
text: each is in the chunk of one character, and no chunk takes in the
beginning of the next character (`nth_of_bytes`).
-/
import Monkey.Proofs.Source.Decoding

namespace Monkey

open Text

-- ================================================================ takes

/-- Of a source whose bytes are decoded in these chunks, each take gives the
next character, or the end, and takes its chunk. -/
theorem ByteSource.Decodes.nth {s : ByteSource} {chunks : List (List UInt8)}
    {text : List Char} (h : s.Decodes chunks text) (n : Nat) :
    let r := (Lookahead.ofSource s).nth n
    r.1 = text[n]?.elim (.error .endOfInput) .ok
      ∧ r.2.source.taken = s.taken + (chunks.take (n + 1)).flatten.length
      ∧ (s.Holds chunks.flatten →
        r.2.source.Holds (chunks.drop (n + 1)).flatten) := by
  intro r
  obtain ⟨s', hafter, -, htaken, hholds⟩ := h.after_takes (n + 1)
  rw [← Lookahead.nth_snd] at hafter
  have hsource : r.2.source = s' := congrArg (·.source) hafter
  rw [hsource]
  refine ⟨?_, htaken, hholds⟩
  obtain ⟨s₁, hbefore, hs₁, -⟩ := h.after_takes n
  show (((Lookahead.ofSource s).after _).call .take).1 = _
  rw [hbefore, ← List.head?_drop]
  generalize chunks.drop n = chunks', text.drop n = text' at hs₁
  cases hs₁ with
  | ended hread =>
      rw [Lookahead.call_of_error hread]
      rfl
  | char hread =>
      rw [Lookahead.call_of_ok hread]
      rfl

-- ============================================================ characters

namespace Lookahead

/-- The bytes of a text, however they arrive, are taken as the characters of
the text, one after another, and then as its end, as often as one takes.
Each take moves the source past the bytes of its character and no
further. -/
theorem nth_of_encode {source : ByteSource} {text : String}
    (h : source.signals = (Utf8.encode text.toList).map .byte) (n : Nat) :
    let r := (ofSource source).nth n
    r.1 = text.toList[n]?.elim (.error .endOfInput) .ok
      ∧ r.2.source.taken
        = source.taken + (Utf8.encode (text.toList.take (n + 1))).length
      ∧ r.2.source.signals
        = (Utf8.encode (text.toList.drop (n + 1))).map .byte := by
  have hdecodes := ByteSource.Decodes.of_encode h
  have hflatten (cs : List Char) :
      (cs.map String.utf8EncodeChar).flatten = Utf8.encode cs :=
    (List.flatMap_def ..).symm
  obtain ⟨hchar, htaken, hholds⟩ := hdecodes.nth n
  rw [← List.map_take, hflatten] at htaken
  rw [← List.map_drop, hflatten, hflatten] at hholds
  exact ⟨hchar, htaken, hholds h⟩

/-- The bytes of a letter, an ideograph and an emoji, cut in the middle of
the last two, with an interrupted read between the parts. -/
theorem nth_of_encode_cut :
    let source : ByteSource := .ofEvents [.data [0xC3, 0xA9, 0xE4, 0xB8],
      .failed ⟨.interrupted, none⟩, .data [0xAD, 0xF0], .data [],
      .data [0x9F, 0x98, 0x80]]
    let a := ofSource source
    source.signals = (Utf8.encode "é中😀".toList).map .byte
      ∧ (a.nth 1).1 = .ok '中' ∧ (a.nth 1).2.source.taken = 5
      ∧ (a.nth 2).1 = .ok '😀' ∧ (a.nth 2).2.source.signals = []
      ∧ (a.nth 3).1 = .error .endOfInput := by
  intro source a
  have h : source.signals = (Utf8.encode "é中😀".toList).map .byte := by decide
  obtain ⟨hsecond, htaken, -⟩ := nth_of_encode h 1
  obtain ⟨hthird, -, hsignals⟩ := nth_of_encode h 2
  obtain ⟨hend, -, -⟩ := nth_of_encode h 3
  exact ⟨h, hsecond, htaken, hthird, hsignals, hend⟩

/-- Any bytes before the end of a source, however they arrive, are taken in
chunks, one by each take, until after as many takes as there are bytes at
most every further take gives the end. A chunk has one to four bytes, of
which all but the first are continuation bytes. If a character has these
bytes, the take gives that character, and else the replacement character. So
the characters below 80 that are given are the bytes below 80, in their
order. -/
theorem nth_of_bytes {source : ByteSource} {bytes : List UInt8}
    (h : source.signals = bytes.map .byte) :
    ∃ (chunks : List (List UInt8)) (text : List Char),
      chunks.flatten = bytes ∧ text.length ≤ bytes.length
        ∧ List.Forall₂ (fun chunk c =>
            0 < chunk.length ∧ chunk.length ≤ 4
              ∧ (∀ b ∈ chunk.tail, Utf8.isContinuation b = true)
              ∧ Utf8.Means chunk c) chunks text
        ∧ (∀ n, let r := (ofSource source).nth n
          r.1 = text[n]?.elim (.error .endOfInput) .ok
            ∧ r.2.source.taken
              = source.taken + (chunks.take (n + 1)).flatten.length
            ∧ r.2.source.signals = (chunks.drop (n + 1)).flatten.map .byte)
        ∧ (text.filter (·.toNat < 0x80)).map Char.toNat
          = (bytes.filter (·.toNat < 0x80)).map UInt8.toNat := by
  obtain ⟨text, hdecodes⟩ := ByteSource.decodes_chunks h
  have hflatten := Utf8.flatten_chunks bytes
  have hmeans : List.Forall₂ (fun chunk c => Utf8.Chunk chunk
      ∧ Utf8.Means chunk c) (Utf8.chunks bytes) text :=
    (List.forall₂_and_left _ _).2
      ⟨fun _ hchunk => Utf8.chunk_of_mem hchunk, hdecodes.means⟩
  refine ⟨Utf8.chunks bytes, text, hflatten, ?_, ?_, ?_, ?_⟩
  · rw [← hmeans.length_eq]
    exact Utf8.length_chunks_le bytes
  · apply hmeans.imp
    intro chunk c hchunk
    obtain ⟨hchunk, hc⟩ := hchunk
    exact ⟨hchunk.length_pos, hchunk.length_le,
      fun _ => hchunk.isContinuation_of_mem_tail, hc⟩
  · intro n
    obtain ⟨hchar, htaken, hholds⟩ := hdecodes.nth n
    rw [hflatten] at hholds
    exact ⟨hchar, htaken, hholds h⟩
  · rw [Utf8.filter_ascii_of_means hmeans, hflatten]

/-- A byte that starts no character, a sequence that another one breaks off,
one that the end breaks off, and a number past the last character between
letters: all letters are given. -/
theorem nth_of_bytes_broken_off :
    let bytes : List UInt8 := [0xFF, 0x61, 0xE4, 0xB8, 0xC3, 0xA9, 0xF4, 0x90,
      0x80, 0x80, 0x62, 0xE4]
    let source : ByteSource := .ofEvents [.data [0xFF, 0x61, 0xE4],
      .failed ⟨.interrupted, none⟩, .data [0xB8, 0xC3, 0xA9, 0xF4],
      .data [0x90, 0x80, 0x80, 0x62, 0xE4]]
    source.signals = bytes.map .byte
      ∧ ∃ (chunks : List (List UInt8)) (text : List Char),
        chunks.flatten = bytes ∧ text.length ≤ 12
          ∧ (text.filter (·.toNat < 0x80)).map Char.toNat = [0x61, 0x62]
          ∧ ∀ n, ((ofSource source).nth n).1
            = text[n]?.elim (.error .endOfInput) .ok := by
  intro bytes source
  have h : source.signals = bytes.map .byte := by decide
  obtain ⟨chunks, text, hflatten, hlength, -, htakes, hascii⟩ := nth_of_bytes h
  exact ⟨h, chunks, text, hflatten, hlength, hascii, fun n => (htakes n).1⟩

end Lookahead

end Monkey
