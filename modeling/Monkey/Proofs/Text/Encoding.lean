/-
The bytes of one character, seen from the reader's side: the lead byte
announces exactly the bytes behind it, each of those continues a
sequence, and together they spell the character again. The last is
arithmetic on six-bit digits, one case for each length.
-/
import Monkey.Text.Utf8

namespace Monkey.Text.Utf8

-- ============================================================ single bytes

/-- A byte made from a small number is that number. -/
private theorem toNat_byte {n : Nat} (h : n < 256) :
    (UInt8.ofNat n).toNat = n := by
  rw [UInt8.toNat_ofNat']
  exact Nat.mod_eq_of_lt h

/-- What a byte announces, by its number. -/
theorem followers?_eq (b : UInt8) :
    followers? b =
      if b.toNat < 0x80 then some 0
      else if b.toNat < 0xC2 then none
      else if b.toNat < 0xE0 then some 1
      else if b.toNat < 0xF0 then some 2
      else if b.toNat < 0xF5 then some 3
      else none := by
  simp only [followers?, UInt8.lt_iff_toNat_lt]
  rfl

/-- Six bits behind the mark of a continuation byte continue a
sequence. -/
theorem isContinuation_byte {n : Nat} (h : n < 64) :
    isContinuation (UInt8.ofNat (n + 0x80)) = true := by
  have hn : (UInt8.ofNat (n + 0x80)).toNat = n + 0x80 := toNat_byte (by omega)
  simp only [isContinuation, Bool.and_eq_true, decide_eq_true_eq,
    UInt8.le_iff_toNat_le, UInt8.lt_iff_toNat_lt, hn]
  exact ⟨Nat.le_add_left _ _, by show n + 0x80 < 0xC0; omega⟩

/-- Bytes that spell the number of a character in its least length spell
that character. -/
theorem decode?_of_payload {bytes : List UInt8} {c : Char}
    (hn : payload bytes = c.toNat)
    (hlen : leastPayload bytes.length ≤ c.toNat) :
    decode? bytes = some c := by
  have hvalid : c.toNat.isValidChar := c.valid
  simp only [decode?, hn, hlen, hvalid, and_self, if_true]
  rw [Char.ofNat_toNat]

-- ========================================================= one character

/-- A lead byte and the bytes behind it, met by a reader, are this
character: the first announces the others, each of those continues a
sequence, and together they spell the character. -/
structure Spells (c : Char) (lead : UInt8) (conts : List UInt8) : Prop where
  announced : followers? lead = some conts.length
  continued : ∀ b ∈ conts, isContinuation b = true
  spelled : decode? (lead :: conts) = some c

variable {c : Char}

private theorem spells_one (h : c.toNat < 0x80) :
    Spells c (UInt8.ofNat c.toNat) [] := by
  have ha := toNat_byte (n := c.toNat) (by omega)
  refine ⟨?_, by simp, decode?_of_payload ha (Nat.zero_le _)⟩
  rw [followers?_eq, ha, if_pos h]
  rfl

private theorem spells_two (h₁ : 0x80 ≤ c.toNat) (h₂ : c.toNat < 0x800) :
    Spells c (UInt8.ofNat (c.toNat / 64 % 0x20 + 0xc0))
      [UInt8.ofNat (c.toNat % 0x40 + 0x80)] := by
  have ha := toNat_byte (n := c.toNat / 64 % 0x20 + 0xc0) (by omega)
  have hb := toNat_byte (n := c.toNat % 0x40 + 0x80) (by omega)
  refine ⟨?_, ?_, decode?_of_payload ?_ h₁⟩
  · rw [followers?_eq, ha, if_neg (by omega), if_neg (by omega),
      if_pos (by omega)]
    rfl
  · simp only [List.forall_mem_cons, List.not_mem_nil]
    exact ⟨isContinuation_byte (by omega), by simp⟩
  · simp only [payload, ha, hb]
    omega

private theorem spells_three (h₁ : 0x800 ≤ c.toNat) (h₂ : c.toNat < 0x10000) :
    Spells c (UInt8.ofNat (c.toNat / 4096 % 0x10 + 0xe0))
      [UInt8.ofNat (c.toNat / 64 % 0x40 + 0x80),
        UInt8.ofNat (c.toNat % 0x40 + 0x80)] := by
  have ha := toNat_byte (n := c.toNat / 4096 % 0x10 + 0xe0) (by omega)
  have hb := toNat_byte (n := c.toNat / 64 % 0x40 + 0x80) (by omega)
  have hc := toNat_byte (n := c.toNat % 0x40 + 0x80) (by omega)
  refine ⟨?_, ?_, decode?_of_payload ?_ h₁⟩
  · rw [followers?_eq, ha, if_neg (by omega), if_neg (by omega),
      if_neg (by omega), if_pos (by omega)]
    rfl
  · simp only [List.forall_mem_cons, List.not_mem_nil]
    exact ⟨isContinuation_byte (by omega), isContinuation_byte (by omega),
      by simp⟩
  · simp only [payload, ha, hb, hc]
    omega

private theorem spells_four (h₁ : 0x10000 ≤ c.toNat)
    (h₂ : c.toNat < 0x110000) :
    Spells c (UInt8.ofNat (c.toNat / 262144 % 0x08 + 0xf0))
      [UInt8.ofNat (c.toNat / 4096 % 0x40 + 0x80),
        UInt8.ofNat (c.toNat / 64 % 0x40 + 0x80),
        UInt8.ofNat (c.toNat % 0x40 + 0x80)] := by
  have ha := toNat_byte (n := c.toNat / 262144 % 0x08 + 0xf0) (by omega)
  have hb := toNat_byte (n := c.toNat / 4096 % 0x40 + 0x80) (by omega)
  have hc := toNat_byte (n := c.toNat / 64 % 0x40 + 0x80) (by omega)
  have hd := toNat_byte (n := c.toNat % 0x40 + 0x80) (by omega)
  refine ⟨?_, ?_, decode?_of_payload ?_ h₁⟩
  · rw [followers?_eq, ha, if_neg (by omega), if_neg (by omega),
      if_neg (by omega), if_neg (by omega), if_pos (by omega)]
    rfl
  · simp only [List.forall_mem_cons, List.not_mem_nil]
    exact ⟨isContinuation_byte (by omega), isContinuation_byte (by omega),
      isContinuation_byte (by omega), by simp⟩
  · simp only [payload, ha, hb, hc, hd]
    omega

/-- The bytes of a character spell it. -/
theorem encodeChar_spells (c : Char) :
    ∃ lead conts, String.utf8EncodeChar c = lead :: conts
      ∧ Spells c lead conts := by
  have hmax : c.toNat < 0x110000 := by
    rcases c.valid with h | ⟨-, h⟩
    · exact Nat.lt_trans h (by decide)
    · exact h
  unfold String.utf8EncodeChar
  simp only [show c.val.toNat = c.toNat from rfl]
  split
  · next h₁ => exact ⟨_, _, rfl, spells_one (by omega)⟩
  · next h₁ =>
    split
    · next h₂ => exact ⟨_, _, rfl, spells_two (by omega) (by omega)⟩
    · next h₂ =>
      split
      · next h₃ => exact ⟨_, _, rfl, spells_three (by omega) (by omega)⟩
      · next h₃ => exact ⟨_, _, rfl, spells_four (by omega) hmax⟩

end Monkey.Text.Utf8
