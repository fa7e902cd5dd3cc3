/-
Sources of any bytes at all. A source that shows some bytes and then its
end, however it cuts them up (`ByteSource.Holds`), is read as a text: for
each character a chunk of the bytes is taken, the character is what the
chunk means, and the chunks together are all the bytes
(`ByteSource.decodes_of_holds`). So malformed bytes are never an error, and
none are lost. Which chunks are taken is known from the bytes alone
(`ByteSource.decodes_chunks`); the bytes of a text are taken as its
characters (`ByteSource.reads_ofText`).
-/
import Monkey.Proofs.Source.Coupling
import Monkey.Proofs.Source.Reads
import Monkey.Proofs.Text.Chunks

namespace Monkey

open Text

namespace ByteSource

-- ============================================================== looking

/-- The source shows these bytes, and then its end. -/
def Holds (s : ByteSource) (bytes : List UInt8) : Prop :=
  s.signals = bytes.map .byte

variable {s : ByteSource} {bytes : List UInt8}

/-- Behind the last byte a look finds the end, which is final. -/
theorem look_of_holds_nil (h : s.Holds []) : s.look = .ended ⟨[], s.taken⟩ := by
  have hlook := s.look_shows
  rw [show s.signals = [] from h] at hlook
  generalize s.look = l at hlook
  cases hlook
  rfl

/-- Before it, a look finds the first byte. -/
theorem look_of_holds_cons {b : UInt8} (h : s.Holds (b :: bytes)) :
    ∃ s', s.look = .byte b s' ∧ s'.Holds bytes ∧ s'.taken = s.taken + 1 := by
  have hlook := s.look_shows
  rw [show s.signals = _ from h, List.map_cons] at hlook
  generalize s.look = l at hlook
  cases hlook with
  | byte hrest hn => exact ⟨_, rfl, hrest, hn⟩

-- =========================================================== characters

/-- What is read behind a lead byte, and behind those that continue the
sequence already, is what all of them mean together. -/
theorem follow_of_holds {lead : UInt8} {conts : List UInt8} {missing : Nat}
    (h : s.Holds bytes)
    (hannounced : Utf8.followers? lead = some (conts.length + missing))
    (hcontinued : ∀ b ∈ conts, Utf8.isContinuation b = true) :
    let more := Utf8.continuing missing bytes
    ∃ c s', s.follow (lead :: conts) missing = (.ok c, s')
      ∧ Utf8.Means (lead :: (conts ++ more)) c
      ∧ s'.Holds (bytes.drop more.length)
      ∧ s'.taken = s.taken + more.length := by
  induction missing generalizing s bytes conts with
  | zero =>
      refine ⟨_, s, rfl, ?_, h, rfl⟩
      rw [Utf8.continuing_zero, List.append_nil]
      exact Utf8.means_decode hannounced hcontinued
  | succ missing ih =>
      -- a sequence that breaks off here is malformed
      have hshort : Utf8.Means (lead :: (conts ++ [])) Utf8.replacement := by
        refine Or.inr ⟨Utf8.malformed_of_length_ne hannounced ?_, rfl⟩
        rw [List.append_nil]
        omega
      rw [follow]
      cases bytes with
      | nil =>
          rw [look_of_holds_nil h]
          exact ⟨_, _, rfl, hshort, rfl, rfl⟩
      | cons b bytes =>
          obtain ⟨s', hlook, hs', htaken⟩ := look_of_holds_cons h
          rw [hlook]
          cases hb : Utf8.isContinuation b with
          | false =>
              rw [Utf8.continuing_of_other _ _ hb]
              exact ⟨_, s, by simp [hb], hshort, h, rfl⟩
          | true =>
              have hannounced' : Utf8.followers? lead
                  = some ((conts ++ [b]).length + missing) := by
                rw [hannounced, List.length_append, List.length_singleton,
                  Nat.add_assoc, Nat.add_comm 1]
              have hcontinued' : ∀ b' ∈ conts ++ [b],
                  Utf8.isContinuation b' = true :=
                List.forall_mem_append.2
                  ⟨hcontinued, List.forall_mem_singleton.2 hb⟩
              obtain ⟨c, s'', hfollow, hmeans, hs'', htaken'⟩ :=
                ih hs' hannounced' hcontinued'
              rw [Utf8.continuing_of_continuation _ _ hb]
              refine ⟨c, s'', ?_, ?_, hs'', ?_⟩
              · simp only [hb, if_true]
                exact hfollow
              · rwa [List.append_assoc] at hmeans
              · rw [htaken', htaken, List.length_cons]
                omega

/-- A character is what the bytes taken for it mean. -/
theorem nextChar_of_holds {b : UInt8} (h : s.Holds (b :: bytes)) :
    let more := Utf8.trailing b bytes
    ∃ c s', s.nextChar = (.ok c, s') ∧ Utf8.Means (b :: more) c
      ∧ s'.Holds (bytes.drop more.length)
      ∧ s'.taken = s.taken + (b :: more).length := by
  obtain ⟨s', hlook, hs', htaken⟩ := look_of_holds_cons h
  rw [nextChar, hlook, Utf8.trailing]
  simp only
  cases hlead : Utf8.followers? b with
  | none =>
      exact ⟨_, s', rfl, Or.inr ⟨Utf8.malformed_of_no_lead hlead, rfl⟩, hs',
        htaken⟩
  | some missing =>
      have hannounced : Utf8.followers? b
          = some (([] : List UInt8).length + missing) := by
        rw [hlead, List.length_nil, Nat.zero_add]
      obtain ⟨c, s'', hfollow, hmeans, hs'', htaken'⟩ :=
        follow_of_holds hs' hannounced (List.forall_mem_nil _)
      refine ⟨c, s'', hfollow, hmeans, hs'', ?_⟩
      rw [htaken', htaken, List.length_cons, Option.getD_some]
      omega

/-- Behind the last byte there is no character, now or later. -/
theorem nextChar_of_holds_nil (h : s.Holds []) :
    s.nextChar = (.error .endOfInput, ⟨[], s.taken⟩) := by
  rw [nextChar, look_of_holds_nil h]

/-- What a read leaves is the bytes that it did not take. -/
theorem holds_behind {r : Except ReadError Char} {s' : ByteSource}
    (h : s.Holds bytes) (hread : s.nextChar = (r, s')) :
    ∃ n, s'.taken = s.taken + n ∧ s'.Holds (bytes.drop n) := by
  cases bytes with
  | nil =>
      rw [nextChar_of_holds_nil h] at hread
      cases hread
      exact ⟨0, rfl, rfl⟩
  | cons b bytes =>
      obtain ⟨c, s₁, hread', -, hs₁, htaken⟩ := nextChar_of_holds h
      rw [hread'] at hread
      cases hread
      exact ⟨_, htaken, hs₁⟩

/-- If so many bytes were taken as stand in front, the others are left. -/
theorem holds_of_taken {chunk : List UInt8} {r : Except ReadError Char}
    {s' : ByteSource} (h : s.Holds (chunk ++ bytes))
    (hread : s.nextChar = (r, s'))
    (htaken : s'.taken = s.taken + chunk.length) : s'.Holds bytes := by
  obtain ⟨n, hn, hleft⟩ := holds_behind h hread
  obtain rfl : n = chunk.length := by omega
  rwa [List.drop_left] at hleft

-- ================================================================ texts

/-- Read character by character, the source gives this text and then its
end; for each character these bytes are taken, which mean it. -/
inductive Decodes : ByteSource → List (List UInt8) → List Char → Prop
  | ended {s : ByteSource}
      (h : s.nextChar = (.error .endOfInput, ⟨[], s.taken⟩)) : Decodes s [] []
  | char {s s' : ByteSource} {chunk : List UInt8} {chunks : List (List UInt8)}
      {c : Char} {text : List Char} (h : s.nextChar = (.ok c, s'))
      (htaken : s'.taken = s.taken + chunk.length)
      (hmeans : Utf8.Means chunk c) (later : Decodes s' chunks text) :
      Decodes s (chunk :: chunks) (c :: text)

/-- Bytes are decoded in their chunks. -/
theorem decodes_chunks {s : ByteSource} {bytes : List UInt8}
    (h : s.Holds bytes) : ∃ text, s.Decodes (Utf8.chunks bytes) text := by
  fun_induction Utf8.chunks bytes generalizing s with
  | case1 => exact ⟨[], .ended (nextChar_of_holds_nil h)⟩
  | case2 b bytes ih =>
      obtain ⟨c, s', hread, hmeans, hs', htaken⟩ := nextChar_of_holds h
      obtain ⟨text, hlater⟩ := ih hs'
      exact ⟨c :: text, .char hread htaken hmeans hlater⟩

/-- All bytes are taken for one character or another. -/
theorem decodes_of_holds {s : ByteSource} {bytes : List UInt8}
    (h : s.Holds bytes) :
    ∃ chunks text, chunks.flatten = bytes ∧ s.Decodes chunks text := by
  obtain ⟨text, hdecodes⟩ := decodes_chunks h
  exact ⟨_, text, Utf8.flatten_chunks bytes, hdecodes⟩

namespace Decodes

variable {chunks : List (List UInt8)} {text : List Char}

/-- The text is what the source gives. -/
theorem reads (h : s.Decodes chunks text) : s.Reads text := by
  induction h with
  | ended h => exact .ended h
  | char h _ _ _ ih => exact .char h ih

/-- Each character is what its chunk means. -/
theorem means (h : s.Decodes chunks text) :
    List.Forall₂ Utf8.Means chunks text := by
  induction h with
  | ended => exact .nil
  | char _ _ hmeans _ ih => exact .cons hmeans ih

/-- The bytes of a text are decoded as the text. -/
theorem of_encode {text : List Char} (h : s.Holds (Utf8.encode text)) :
    s.Decodes (text.map String.utf8EncodeChar) text := by
  obtain ⟨text', hdecodes⟩ := decodes_chunks h
  rw [Utf8.chunks_encode] at hdecodes
  obtain rfl : text = text' := by
    rw [← List.forall₂_eq_eq_eq]
    exact (List.forall₂_map_left_iff.1 hdecodes.means).imp
      fun _ _ hmeans => (Utf8.means_encodeChar hmeans).symm
  exact hdecodes

/-- Where a malformed chunk was taken, the text has a replacement
character. -/
theorem exists_split {chunk : List UInt8} {n : Nat}
    (h : s.Decodes chunks text) (hchunk : chunks[n]? = some chunk)
    (hmalformed : Utf8.Malformed chunk) :
    ∃ behind, text = text.take n ++ Utf8.replacement :: behind := by
  induction h generalizing n with
  | ended => simp at hchunk
  | @char s s' _ chunks c text _ _ hmeans _ ih =>
      cases n with
      | zero =>
          obtain rfl := Option.some.inj hchunk
          rcases hmeans with hc | ⟨-, rfl⟩
          · exact absurd hc (hmalformed c)
          · exact ⟨text, rfl⟩
      | succ n =>
          obtain ⟨behind, hsplit⟩ := ih hchunk
          exact ⟨behind, congrArg (c :: ·) hsplit⟩

/-- Once so many characters were taken, those that follow are still to be
read. Their bytes are still there if they were there before. -/
theorem after_takes (h : s.Decodes chunks text) (n : Nat) :
    ∃ s', (Lookahead.ofSource s).after (List.replicate n .take)
        = Lookahead.ofSource s'
      ∧ s'.Decodes (chunks.drop n) (text.drop n)
      ∧ s'.taken = s.taken + (chunks.take n).flatten.length
      ∧ (s.Holds chunks.flatten → s'.Holds (chunks.drop n).flatten) := by
  induction n generalizing s chunks text with
  | zero => exact ⟨s, rfl, h, rfl, id⟩
  | succ n ih =>
      rw [List.replicate_succ, Lookahead.after, List.foldl_cons]
      cases h with
      | ended h =>
          rw [Lookahead.call_of_error h]
          obtain ⟨s', hafter, hs', htaken, hholds⟩ :=
            ih (s := ⟨[], s.taken⟩) (.ended rfl)
          simp only [List.drop_nil, List.take_nil] at hs' htaken hholds ⊢
          exact ⟨s', hafter, hs', htaken, fun _ => hholds rfl⟩
      | @char _ s₁ chunk chunks c text h htaken hmeans later =>
          rw [Lookahead.call_of_ok h]
          obtain ⟨s', hafter, hs', htaken', hholds⟩ := ih later
          refine ⟨s', hafter, hs', ?_, ?_⟩
          · rw [htaken', htaken, List.take_succ_cons, List.flatten_cons,
              List.length_append, Nat.add_assoc]
          · intro hs
            rw [List.flatten_cons] at hs
            exact hholds (holds_of_taken hs h htaken)

/-- After so many calls the chunks of so many characters were taken. -/
theorem taken_after (h : s.Decodes chunks text) (n : Nat) :
    ((Lookahead.ofSource s).after (List.replicate n .take)).source.taken
      = s.taken + (chunks.take n).flatten.length := by
  obtain ⟨s', hafter, -, htaken, -⟩ := h.after_takes n
  rw [hafter]
  exact htaken

end Decodes

/-- A source of a text gives the text. -/
theorem reads_ofText (text : String) : Reads (ofText text) text.toList := by
  have h : (ofText text).Holds (Utf8.encode text.toList) :=
    List.append_nil _
  exact (Decodes.of_encode h).reads

end ByteSource

-- ============================================================== draining

namespace Lookahead

/-- Takes characters until there is none, and says why. -/
def drain (a : Lookahead) : List Char × ReadError :=
  match _h : a.take with
  | (.ok c, a') =>
      let later := a'.drain
      (c :: later.1, later.2)
  | (.error e, _) => ([], e)
termination_by a.size
decreasing_by exact size_take_lt _h

/-- What is taken is the text before the lookahead. -/
theorem drain_of_faces {a : Lookahead} {text : List Char} (h : a.Faces text) :
    a.drain = (text, .endOfInput) := by
  induction text generalizing a with
  | nil =>
      obtain ⟨a', htake, -⟩ := take_of_faces_nil h
      rw [drain]
      split
      · next h' => rw [htake] at h'; cases h'
      · next h' => rw [htake] at h'; cases h'; rfl
  | cons c text ih =>
      obtain ⟨a', htake, ha'⟩ := take_of_faces_cons h
      rw [drain]
      split
      · next h' =>
        rw [htake] at h'
        cases h'
        rw [ih ha']
      · next h' => rw [htake] at h'; cases h'

end Lookahead

end Monkey
