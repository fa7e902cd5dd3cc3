/-
What the bytes taken for one character mean. If they are the bytes of a
character they mean that one, and if they are of none they are malformed
and mean the replacement character (`Means`).

No two sequences spell one character: a lead byte with all the bytes it
announces that spells a character is the sequence of that character
(`encodeChar_of_spells`). So whatever is not spelled out like this is
malformed.
-/
import Mathlib.Data.List.Basic
import Monkey.Proofs.Text.Encoding

namespace Monkey.Text.Utf8

-- ========================================================= one spelling

/-- The bytes that continue a sequence, by their numbers. -/
theorem isContinuation_iff {b : UInt8} :
    isContinuation b = true ↔ 0x80 ≤ b.toNat ∧ b.toNat < 0xC0 := by
  simp only [isContinuation, Bool.and_eq_true, decide_eq_true_eq,
    UInt8.le_iff_toNat_le, UInt8.lt_iff_toNat_lt]
  rfl

/-- A number of a character is the number of that character. -/
private theorem toNat_ofNat {n : Nat} (h : n.isValidChar) :
    (Char.ofNat n).toNat = n := by
  rw [Char.ofNat, dif_pos h]
  rfl

/-- A sequence that spells a character has its number, and needs its
length. -/
theorem payload_of_decode? {bytes : List UInt8} {c : Char}
    (h : decode? bytes = some c) :
    payload bytes = c.toNat ∧ leastPayload bytes.length ≤ c.toNat := by
  unfold decode? at h
  simp only at h
  split at h
  · next hn =>
    obtain ⟨hle, hvalid⟩ := hn
    cases h
    rw [toNat_ofNat hvalid]
    exact ⟨rfl, hle⟩
  · cases h

/-- A byte is known by its number. -/
private theorem byte_eq {n : Nat} {b : UInt8} (h : n = b.toNat) :
    UInt8.ofNat n = b := by
  rw [h, UInt8.ofNat_toNat]

variable {c : Char} {lead : UInt8} {conts : List UInt8}

/-- What a lead byte announces tells where its number lies. -/
theorem lead_of_announced {n : Nat} (h : followers? lead = some n) :
    (n = 0 ∧ lead.toNat < 0x80)
      ∨ (n = 1 ∧ 0xC2 ≤ lead.toNat ∧ lead.toNat < 0xE0)
      ∨ (n = 2 ∧ 0xE0 ≤ lead.toNat ∧ lead.toNat < 0xF0)
      ∨ (n = 3 ∧ 0xF0 ≤ lead.toNat ∧ lead.toNat < 0xF5) := by
  rw [followers?_eq] at h
  repeat' split at h
  all_goals cases h <;> omega

/-- A sequence that spells a character is the sequence of that
character. -/
theorem encodeChar_of_spells (h : Spells c lead conts) :
    String.utf8EncodeChar c = lead :: conts := by
  obtain ⟨hannounced, hcontinued, hspelled⟩ := h
  obtain ⟨hn, hle⟩ := payload_of_decode? hspelled
  have hconts (b : UInt8) (hb : b ∈ conts) := isContinuation_iff.1 (hcontinued b hb)
  unfold String.utf8EncodeChar
  simp only [show c.val.toNat = c.toNat from rfl]
  obtain ⟨hlen, ha⟩ | ⟨hlen, ha, ha'⟩ | ⟨hlen, ha, ha'⟩ | ⟨hlen, ha, ha'⟩ :=
    lead_of_announced hannounced
  · obtain rfl := List.length_eq_zero_iff.1 hlen
    simp only [payload] at hn
    rw [if_pos (by omega), byte_eq (b := lead) (by omega)]
  · obtain ⟨b₁, rfl⟩ := List.length_eq_one_iff.1 hlen
    obtain ⟨h₁, h₁'⟩ := hconts b₁ (by simp)
    simp only [payload] at hn
    rw [if_neg (by omega), if_pos (by omega), byte_eq (b := lead) (by omega),
      byte_eq (b := b₁) (by omega)]
  · obtain ⟨b₁, b₂, rfl⟩ := List.length_eq_two.1 hlen
    obtain ⟨h₁, h₁'⟩ := hconts b₁ (by simp)
    obtain ⟨h₂, h₂'⟩ := hconts b₂ (by simp)
    have hle : 0x800 ≤ c.toNat := hle
    simp only [payload] at hn
    rw [if_neg (by omega), if_neg (by omega), if_pos (by omega),
      byte_eq (b := lead) (by omega), byte_eq (b := b₁) (by omega),
      byte_eq (b := b₂) (by omega)]
  · obtain ⟨b₁, b₂, b₃, rfl⟩ := List.length_eq_three.1 hlen
    obtain ⟨h₁, h₁'⟩ := hconts b₁ (by simp)
    obtain ⟨h₂, h₂'⟩ := hconts b₂ (by simp)
    obtain ⟨h₃, h₃'⟩ := hconts b₃ (by simp)
    have hle : 0x10000 ≤ c.toNat := hle
    simp only [payload] at hn
    rw [if_neg (by omega), if_neg (by omega), if_neg (by omega),
      byte_eq (b := lead) (by omega), byte_eq (b := b₁) (by omega),
      byte_eq (b := b₂) (by omega), byte_eq (b := b₃) (by omega)]

-- ============================================================== meaning

/-- No character has these bytes. -/
def Malformed (bytes : List UInt8) : Prop :=
  ∀ c, String.utf8EncodeChar c ≠ bytes

/-- What bytes that are taken together mean: the character whose bytes they
are, or the replacement character if there is none. -/
def Means (bytes : List UInt8) (c : Char) : Prop :=
  String.utf8EncodeChar c = bytes ∨ (Malformed bytes ∧ c = replacement)

/-- The bytes of a character spell it in one way. -/
theorem spells_of_encodeChar (h : String.utf8EncodeChar c = lead :: conts) :
    Spells c lead conts := by
  obtain ⟨lead', conts', hbytes, hspells⟩ := encodeChar_spells c
  rw [h] at hbytes
  cases hbytes
  exact hspells

/-- A byte that starts no character is malformed. -/
theorem malformed_of_no_lead (h : followers? lead = none) :
    Malformed (lead :: conts) := by
  intro c hc
  have hannounced := (spells_of_encodeChar hc).announced
  rw [h] at hannounced
  cases hannounced

/-- So is a sequence that has not the bytes its lead byte announces. -/
theorem malformed_of_length_ne {n : Nat} (h : followers? lead = some n)
    (hne : conts.length ≠ n) : Malformed (lead :: conts) := by
  intro c hc
  have hannounced := (spells_of_encodeChar hc).announced
  rw [h] at hannounced
  exact hne (Option.some.inj hannounced).symm

/-- A sequence that has them means what it is decoded as. -/
theorem means_decode (hannounced : followers? lead = some conts.length)
    (hcontinued : ∀ b ∈ conts, isContinuation b = true) :
    Means (lead :: conts) ((decode? (lead :: conts)).getD replacement) := by
  cases h : decode? (lead :: conts) with
  | some c => exact Or.inl (encodeChar_of_spells ⟨hannounced, hcontinued, h⟩)
  | none =>
      refine Or.inr ⟨?_, rfl⟩
      intro c hc
      have hspelled := (spells_of_encodeChar hc).spelled
      rw [h] at hspelled
      cases hspelled

end Monkey.Text.Utf8
