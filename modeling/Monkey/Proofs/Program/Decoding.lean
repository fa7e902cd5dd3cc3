/-
Malformed bytes are replacement characters, and nothing more. What a source
of any bytes is read as, be it tokens or a program, is what the text of its
characters is read as, spans included (`ofSource_decoded`). A replacement
character starts no token and goes on with none, so it is a token by itself
wherever it stands (`Cuts.exists_replacement`).
-/
import Mathlib.Control.Monad.Basic
import Monkey.Proofs.Program.Streaming
import Monkey.Proofs.Source.Decoding
import Monkey.Proofs.Token.Seam

namespace Monkey

open Text TokenSupply

-- ================================================================ cuts

/-- The replacement character starts no token. -/
theorem lexeme_replacement (rest : List Char) :
    Lexeme .illegal [Utf8.replacement] rest :=
  .illegal (by decide) (by decide) (by decide) (by decide) (by decide +kernel)
    (by decide)

/-- And goes on with none. -/
theorem endsBefore_replacement (kind : TokenKind) (rest : List Char) :
    kind.EndsBefore (Utf8.replacement :: rest) := by
  refine ⟨?_, ?_, ?_⟩
  · intro _ c hc
    cases hc
    decide +kernel
  · intro _ c hc
    cases hc
    decide
  · intro _ hc
    cases hc

namespace Cuts

/-- A replacement character is one token. The tokens before it are those of
the text before it, and those behind it stand behind it. -/
theorem exists_replacement {before behind : List Char} {ts : List Token}
    {e : Token}
    (h : Cuts .origin (before ++ Utf8.replacement :: behind) ts e) :
    let p := Position.origin.afterAll before
    let t : Token := ⟨.illegal, String.ofList [Utf8.replacement],
      ⟨p, p.after Utf8.replacement⟩⟩
    ∃ us vs, ts = us ++ t :: vs
      ∧ (∀ u ∈ us, u.span.stop.offset ≤ p.offset)
      ∧ ∀ v ∈ vs ++ [e],
        (p.after Utf8.replacement).offset ≤ v.span.start.offset := by
  intro p t
  obtain ⟨us, z, hbefore⟩ := exists_cuts .origin before
  obtain ⟨vs, z', hbehind⟩ := exists_cuts (p.after Utf8.replacement) behind
  have hreplacement : Cuts p ([] ++ ([Utf8.replacement] ++ behind))
      (t :: vs) z' :=
    .token (List.forall_mem_nil _) (lexeme_replacement behind) hbehind
  obtain ⟨rfl, rfl⟩ := h.unique (hbefore.append hreplacement
    fun kind _ _ _ => endsBefore_replacement kind behind)
  refine ⟨us, vs, rfl, fun u hu => (hbefore.within u hu).2, ?_⟩
  rw [List.forall_mem_append, List.forall_mem_singleton,
    hbehind.stop_endOfInput]
  exact ⟨fun v hv => (hbehind.within v hv).1, offset_le_afterAll _ _⟩

end Cuts

-- ======================================================= source texts

/-- Whatever bytes a source shows before its end, it is read as the text of
its characters. The bytes are taken in chunks, one for each character,
which is what the chunk means; so malformed bytes are never an error. The
scanner cuts the characters into the tokens of the text, with its spans,
and the program and the errors are those of the text. Each malformed chunk
makes one illegal token, which stands where its character does. -/
theorem ofSource_decoded {source : ByteSource} {bytes : List UInt8}
    (h : source.signals = bytes.map .byte) :
    ∃ (text : String) (chunks : List (List UInt8)) (ts : List Token),
      (Lookahead.ofSource source).drain = (text.toList, .endOfInput)
        ∧ chunks.flatten = bytes
        ∧ List.Forall₂ Utf8.Means chunks text.toList
        ∧ (∀ n, ((Lookahead.ofSource source).after
              (List.replicate n .take)).source.taken
            = source.taken + (chunks.take n).flatten.length)
        ∧ tokenize text = .ok ts
        ∧ (Scanner.ofSource source).items.1 = ts.map .ok
        ∧ (Program.ofSource source).program
          = (Program.ofSource (.ofText text)).program
        ∧ (Program.ofSource source).errors
          = (Program.ofSource (.ofText text)).errors
        ∧ ∀ n chunk, chunks[n]? = some chunk → Utf8.Malformed chunk →
          let p := Position.origin.afterAll (text.toList.take n)
          ∃ us vs, ts = us ++ ⟨.illegal, "\uFFFD",
              ⟨p, p.after Utf8.replacement⟩⟩ :: vs
            ∧ (∀ u ∈ us, u.span.stop.offset ≤ p.offset)
            ∧ ∀ v ∈ vs, (p.after Utf8.replacement).offset
              ≤ v.span.start.offset := by
  obtain ⟨chunks, text, hflatten, hdecodes⟩ := ByteSource.decodes_of_holds h
  have hfaces : (Scanner.ofSource source).Faces text := .fresh hdecodes.reads
  obtain ⟨ts, z, hcuts⟩ := exists_cuts .origin text
  have hsource : Hands (Scanner.ofSource source) ts (.ok z) :=
    hands_of_cuts hfaces hcuts
  have htext : Hands (Scanner.ofText (String.ofList text)) ts (.ok z) := by
    apply hands_of_cuts (faces_ofText _)
    rwa [String.toList_ofList]
  have hitems : (draw (Scanner.ofSource source)).1
      = (draw (Scanner.ofText (String.ofList text))).1 := by
    rw [draw_of_hands hsource, draw_of_hands htext]
  obtain ⟨hprogram, herrors⟩ :=
    Program.read_congr (congrArg (List.map Item.shown) hitems)
  refine ⟨String.ofList text, chunks, ts ++ [z], ?_, hflatten, ?_,
    hdecodes.taken_after, tokenize_of_hands htext, ?_, hprogram, herrors, ?_⟩
  · rw [String.toList_ofList]
    exact Lookahead.drain_of_faces hfaces
  · rw [String.toList_ofList]
    exact hdecodes.means
  · rw [Scanner.items_of_hands rfl hsource, List.map_append]
    rfl
  · intro n chunk hchunk hmalformed
    obtain ⟨behind, hsplit⟩ := hdecodes.exists_split hchunk hmalformed
    rw [hsplit] at hcuts
    obtain ⟨us, vs, rfl, hus, hvs⟩ := hcuts.exists_replacement
    rw [String.toList_ofList, List.append_assoc]
    exact ⟨us, vs ++ [z], rfl, hus, hvs⟩

/-- A byte that starts no character, a sequence that an equals sign breaks
off and a surrogate, in chunks that cut through all but the first of
them. -/
theorem ofSource_decoded_broken_off :
    let source : ByteSource := .ofEvents [.data [0x61, 0xFF, 0x62, 0x20, 0xE2],
      .failed ⟨.interrupted, none⟩, .data [0x82, 0x3D, 0x3D, 0xED],
      .data [0xA0, 0x80]]
    let bytes : List UInt8 :=
      [0x61, 0xFF, 0x62, 0x20, 0xE2, 0x82, 0x3D, 0x3D, 0xED, 0xA0, 0x80]
    source.signals = bytes.map .byte
      ∧ ∃ (text : String) (ts : List Token),
        text.toList = ['a', '\uFFFD', 'b', ' ', '\uFFFD', '=', '=', '\uFFFD']
          ∧ tokenize text = .ok ts
          ∧ (Scanner.ofSource source).items.1 = ts.map .ok
          ∧ (Program.ofSource source).errors
            = (Program.ofSource (.ofText text)).errors := by
  intro source bytes
  have h : source.signals = bytes.map .byte := by decide
  have hdrained : (Lookahead.ofSource source).drain
      = (['a', '\uFFFD', 'b', ' ', '\uFFFD', '=', '=', '\uFFFD'],
        .endOfInput) := by
    decide +kernel
  obtain ⟨text, chunks, ts, hdrain, -, -, -, htokens, hitems, -, herrors, -⟩ :=
    ofSource_decoded h
  exact ⟨h, text, ts, congrArg Prod.fst (hdrain.symm.trans hdrained), htokens,
    hitems, herrors⟩

end Monkey
