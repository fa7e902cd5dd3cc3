/-
How a reader cuts bytes up, one chunk for each character. A chunk is a
byte, and behind it the bytes that continue the sequence it starts, as many
as it announces at most (`chunks`). So no chunk reaches over a byte that
could start a character, and what comes behind a malformed sequence is read
as if the sequence had not been there.

Where the bytes are those of a text, the chunks are the bytes of its
characters (`chunks_encode`). Whatever the bytes are, those below 80 make
chunks of their own, and nothing else means a character below 80
(`ascii_of_means`).
-/
import Mathlib.Data.List.Forall2
import Mathlib.Data.List.TakeWhile
import Monkey.Proofs.Text.Malformed

namespace Monkey.Text.Utf8

-- =============================================================== chunks

/-- The bytes at the front that continue a sequence, at most `n` of
them. -/
def continuing (n : Nat) (bytes : List UInt8) : List UInt8 :=
  (bytes.take n).takeWhile isContinuation

/-- The bytes that are taken behind a lead byte. -/
def trailing (lead : UInt8) (bytes : List UInt8) : List UInt8 :=
  continuing ((followers? lead).getD 0) bytes

/-- The chunks that bytes are taken in. -/
def chunks : List UInt8 → List (List UInt8)
  | [] => []
  | b :: bytes =>
      (b :: trailing b bytes) :: chunks (bytes.drop (trailing b bytes).length)
termination_by bytes => bytes.length
decreasing_by
  simp only [List.length_drop, List.length_cons]
  omega

theorem continuing_zero (bytes : List UInt8) : continuing 0 bytes = [] := rfl

/-- A byte that continues the sequence is taken, and with it the bytes
behind it. -/
theorem continuing_of_continuation {b : UInt8} (n : Nat) (bytes : List UInt8)
    (hb : isContinuation b = true) :
    continuing (n + 1) (b :: bytes) = b :: continuing n bytes := by
  rw [continuing, List.take_succ_cons, List.takeWhile_cons_of_pos hb,
    continuing]

/-- A byte that does not continue it is left. -/
theorem continuing_of_other {b : UInt8} (n : Nat) (bytes : List UInt8)
    (hb : isContinuation b = false) : continuing n (b :: bytes) = [] := by
  cases n with
  | zero => rfl
  | succ n =>
      rw [continuing, List.take_succ_cons, List.takeWhile_cons_of_neg (by simp [hb])]

/-- The bytes that are taken stand in front of those that are left. -/
theorem continuing_append (n : Nat) (bytes : List UInt8) :
    continuing n bytes ++ bytes.drop (continuing n bytes).length = bytes :=
  List.prefix_iff_eq_append.1
    ((List.takeWhile_prefix _).trans (List.take_prefix _ _))

/-- All bytes are taken in one chunk or another. -/
theorem flatten_chunks (bytes : List UInt8) : (chunks bytes).flatten = bytes := by
  fun_induction chunks bytes with
  | case1 => rfl
  | case2 b bytes ih =>
      rw [List.flatten_cons, ih, List.cons_append, trailing, continuing_append]

/-- What a chunk can be: a byte, and behind it bytes that continue a
sequence, no more than it announces. -/
inductive Chunk : List UInt8 → Prop
  | intro {lead : UInt8} {conts : List UInt8}
      (hle : conts.length ≤ (followers? lead).getD 0)
      (hcontinued : ∀ b ∈ conts, isContinuation b = true) :
      Chunk (lead :: conts)

variable {bytes chunk : List UInt8} {c : Char}

/-- Bytes are taken in nothing else. -/
theorem chunk_of_mem (h : chunk ∈ chunks bytes) : Chunk chunk := by
  fun_induction chunks bytes with
  | case1 => cases h
  | case2 b bytes ih =>
      rcases List.mem_cons.1 h with rfl | h
      · refine .intro ?_ fun b hb => List.mem_takeWhile_imp hb
        exact Nat.le_trans (List.takeWhile_prefix _).length_le
          (List.length_take_le _ _)
      · exact ih h

namespace Chunk

theorem length_pos (h : Chunk chunk) : 0 < chunk.length := by
  cases h
  exact Nat.succ_pos _

/-- No byte announces more than three others. -/
theorem length_le (h : Chunk chunk) : chunk.length ≤ 4 := by
  cases h with
  | @intro lead conts hle _ =>
      rw [List.length_cons]
      cases hlead : followers? lead with
      | none =>
          rw [hlead, Option.getD_none] at hle
          omega
      | some n =>
          rw [hlead, Option.getD_some] at hle
          have := lead_of_announced hlead
          omega

/-- Behind its first byte it has continuation bytes only. -/
theorem isContinuation_of_mem_tail (h : Chunk chunk) {b : UInt8}
    (hb : b ∈ chunk.tail) : isContinuation b = true := by
  cases h with
  | intro _ hcontinued => exact hcontinued b hb

end Chunk

/-- There are no more chunks than bytes. -/
theorem length_chunks_le (bytes : List UInt8) :
    (chunks bytes).length ≤ bytes.length := by
  fun_induction chunks bytes with
  | case1 => exact Nat.le_refl _
  | case2 b bytes ih =>
      rw [List.length_drop] at ih
      simp only [List.length_cons]
      omega

-- ======================================================== bytes of texts

/-- The bytes of a character are those taken for it, whatever follows. -/
theorem chunks_encodeChar (c : Char) (bytes : List UInt8) :
    chunks (String.utf8EncodeChar c ++ bytes)
      = String.utf8EncodeChar c :: chunks bytes := by
  obtain ⟨lead, conts, hbytes, hspells⟩ := encodeChar_spells c
  have htrailing : trailing lead (conts ++ bytes) = conts := by
    rw [trailing, hspells.announced, Option.getD_some, continuing,
      List.take_left, List.takeWhile_eq_self_iff.2 hspells.continued]
  rw [hbytes, List.cons_append, chunks]
  simp only [htrailing, List.drop_left]

/-- The chunks of a text are the bytes of its characters. -/
theorem chunks_encode (text : List Char) :
    chunks (encode text) = text.map String.utf8EncodeChar := by
  induction text with
  | nil => rw [encode, List.flatMap_nil, chunks, List.map_nil]
  | cons c text ih =>
      rw [encode, List.flatMap_cons, chunks_encodeChar, List.map_cons]
      exact congrArg _ ih

/-- The bytes of a character mean that character. -/
theorem means_encodeChar {c' : Char} (h : Means (String.utf8EncodeChar c) c') :
    c' = c := by
  obtain ⟨lead, conts, hbytes, hspells⟩ := encodeChar_spells c
  rcases h with h | ⟨h, -⟩
  · have hspells' := spells_of_encodeChar (h.trans hbytes)
    exact Option.some.inj (hspells'.spelled.symm.trans hspells.spelled)
  · exact absurd rfl (h c)

-- ========================================================= single bytes

/-- A byte below 80 means the character of its number. -/
theorem toNat_of_means {b : UInt8} (hb : b.toNat < 0x80) (h : Means [b] c) :
    c.toNat = b.toNat := by
  have hannounced : followers? b = some 0 := by rw [followers?_eq, if_pos hb]
  have hvalid : b.toNat.isValidChar := Or.inl (by omega)
  have hspelled : decode? [b] = some (Char.ofNat b.toNat) :=
    if_pos ⟨Nat.zero_le _, hvalid⟩
  rcases h with h | ⟨h, -⟩
  · have hspells := spells_of_encodeChar h
    exact (payload_of_decode? hspells.spelled).1.symm
  · exact absurd (encodeChar_of_spells ⟨hannounced, by simp, hspelled⟩) (h _)

/-- Bytes of which the first is not below 80 mean no character below
80. -/
theorem le_toNat_of_means {lead : UInt8} {conts : List UInt8}
    (hlead : 0x80 ≤ lead.toNat) (h : Means (lead :: conts) c) :
    0x80 ≤ c.toNat := by
  rcases h with h | ⟨-, rfl⟩
  · have hspells := spells_of_encodeChar h
    have hle := (payload_of_decode? hspells.spelled).2
    rw [List.length_cons] at hle
    obtain ⟨-, hsmall⟩ | ⟨hlength, -⟩ | ⟨hlength, -⟩ | ⟨hlength, -⟩ :=
      lead_of_announced hspells.announced
    · omega
    · rwa [hlength] at hle
    · rw [hlength] at hle
      exact Nat.le_trans (by decide) hle
    · rw [hlength] at hle
      exact Nat.le_trans (by decide) hle
  · decide

/-- A chunk means a character below 80 only if it is the byte of that
character, and a byte below 80 is a chunk of its own. -/
theorem ascii_of_means (h : Chunk chunk) (hmeans : Means chunk c) :
    ([c].filter (·.toNat < 0x80)).map Char.toNat
      = (chunk.filter (·.toNat < 0x80)).map UInt8.toNat := by
  cases h with
  | @intro lead conts hle hcontinued =>
      have hconts : conts.filter (·.toNat < 0x80) = [] := by
        rw [List.filter_eq_nil_iff]
        intro b hb
        have := isContinuation_iff.1 (hcontinued b hb)
        simpa using this.1
      by_cases hlead : lead.toNat < 0x80
      · have hannounced : followers? lead = some 0 := by
          rw [followers?_eq, if_pos hlead]
        obtain rfl : conts = [] := by
          rw [hannounced, Option.getD_some] at hle
          exact List.length_eq_zero_iff.1 (Nat.le_zero.1 hle)
        have hc := toNat_of_means hlead hmeans
        simp [hc, hlead]
      · have hc := le_toNat_of_means (Nat.le_of_not_lt hlead) hmeans
        have hnone : [c].filter (·.toNat < 0x80) = [] :=
          List.filter_cons_of_neg (by simpa using hc)
        rw [hnone, List.filter_cons_of_neg (by simpa using hlead), hconts]
        rfl

/-- Of a text, the characters below 80 are the bytes below 80 of the chunks
that mean it. -/
theorem filter_ascii_of_means {chunks : List (List UInt8)} {text : List Char}
    (h : List.Forall₂ (fun chunk c => Chunk chunk ∧ Means chunk c) chunks text) :
    (text.filter (·.toNat < 0x80)).map Char.toNat
      = (chunks.flatten.filter (·.toNat < 0x80)).map UInt8.toNat := by
  induction h with
  | nil => rfl
  | @cons chunk c chunks text hhead _ ih =>
      rw [← List.singleton_append, List.filter_append, List.map_append, ih,
        ascii_of_means hhead.1 hhead.2, List.flatten_cons, List.filter_append,
        List.map_append]

end Monkey.Text.Utf8
