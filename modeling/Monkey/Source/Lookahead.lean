/-
Characters out of a source of bytes, with a look at the next one.

A character is read whole. Malformed bytes give the replacement
character and are never an error: a byte that starts no character stands
for itself, a sequence that breaks off takes only what it has, and the
byte that broke it is left for the next read. A sequence with all its
continuation bytes is taken whole even if it spells no character. A
failure in the middle of a sequence loses the bytes already taken.

The lookahead keeps at most one character that was looked at and not yet
taken. A look that found none keeps nothing: the next one asks the
source again.
-/
import Monkey.Source.Bytes

namespace Monkey

open Text

namespace ByteSource

-- ==================================================== reading a character

/-- Reads the continuation bytes that are still missing behind `bytes`
and gives the character they spell. -/
def follow (s : ByteSource) (bytes : List UInt8) :
    Nat → Except ReadError Char × ByteSource
  | 0 => (.ok ((Utf8.decode? bytes).getD Utf8.replacement), s)
  | missing + 1 =>
      match s.look with
      | .byte b rest =>
          if Utf8.isContinuation b then
            rest.follow (bytes ++ [b]) missing
          else (.ok Utf8.replacement, s)
      | .ended rest => (.ok Utf8.replacement, rest)
      | .failed f rest => (.error (.failed f), rest)

/-- Reads one character. -/
def nextChar (s : ByteSource) : Except ReadError Char × ByteSource :=
  match s.look with
  | .ended rest => (.error .endOfInput, rest)
  | .failed f rest => (.error (.failed f), rest)
  | .byte lead rest =>
      match Utf8.followers? lead with
      | none => (.ok Utf8.replacement, rest)
      | some missing => rest.follow [lead] missing

/-- Reading the rest of a sequence never puts bytes back. -/
theorem size_follow_le (s : ByteSource) (bytes : List UInt8)
    (missing : Nat) : (s.follow bytes missing).2.size ≤ s.size := by
  fun_induction follow s bytes missing with
  | case1 => exact Nat.le_refl _
  | case2 s bytes missing b rest h hb ih =>
      have := size_of_lookIn_byte h
      exact Nat.le_trans ih (by simp only [size] at this ⊢; omega)
  | case3 => exact Nat.le_refl _
  | case4 s bytes missing rest h => exact Nat.le_of_eq (size_of_lookIn_ended h)
  | case5 s bytes missing f rest h => exact Nat.le_of_eq (size_of_lookIn_failed h)

/-- A character that was read took at least one byte. -/
theorem size_nextChar_lt {s s' : ByteSource} {c : Char}
    (h : s.nextChar = (.ok c, s')) : s'.size < s.size := by
  rw [nextChar] at h
  split at h
  · cases h
  · cases h
  · next lead rest hlook =>
    have hlt := size_of_lookIn_byte hlook
    have hle : s'.size ≤ rest.size := by
      split at h
      · cases h; exact Nat.le_refl _
      · next missing _ =>
        have := size_follow_le rest [lead] missing
        rwa [h] at this
    simp only [size] at hlt hle ⊢
    omega

/-- A read never puts bytes back, whatever it finds. -/
theorem size_nextChar_le (s : ByteSource) : s.nextChar.2.size ≤ s.size := by
  rw [nextChar]
  split
  · next rest hlook => exact Nat.le_of_eq (size_of_lookIn_ended hlook)
  · next f rest hlook => exact Nat.le_of_eq (size_of_lookIn_failed hlook)
  · next lead rest hlook =>
    have hlt := size_of_lookIn_byte hlook
    split
    · simp only [size] at hlt ⊢
      omega
    · next missing _ =>
      have := size_follow_le rest [lead] missing
      simp only [size] at hlt this ⊢
      omega

end ByteSource

-- ============================================================ lookahead

/-- A source of characters of which one may have been looked at. -/
structure Lookahead where
  source : ByteSource
  held : Option Char

namespace Lookahead

/-- Starts on a source; nothing has been looked at. -/
def ofSource (source : ByteSource) : Lookahead := ⟨source, none⟩

/-- How many bytes the source still holds, and one for a character that
was looked at: every character taken makes this smaller. -/
def size (a : Lookahead) : Nat :=
  a.source.size + if a.held.isSome then 1 else 0

/-- Shows the next character and keeps it. -/
def peek (a : Lookahead) : Except ReadError Char × Lookahead :=
  match a.held with
  | some c => (.ok c, a)
  | none =>
      match a.source.nextChar with
      | (.ok c, source) => (.ok c, ⟨source, some c⟩)
      | (.error e, source) => (.error e, ⟨source, none⟩)

/-- Takes the next character: the one that was looked at, if any. -/
def take (a : Lookahead) : Except ReadError Char × Lookahead :=
  match a.held with
  | some c => (.ok c, ⟨a.source, none⟩)
  | none =>
      match a.source.nextChar with
      | (.ok c, source) => (.ok c, ⟨source, none⟩)
      | (.error e, source) => (.error e, ⟨source, none⟩)

/-- Lets go of the character that was looked at. -/
def release (a : Lookahead) : Lookahead := ⟨a.source, none⟩

/-- A look makes no characters. -/
theorem size_peek_le (a : Lookahead) : a.peek.2.size ≤ a.size := by
  rw [peek]
  split
  · exact Nat.le_refl _
  · next hp =>
    split
    · next c source hread =>
      have := ByteSource.size_nextChar_lt hread
      simp only [size, hp, Option.isSome_some, Option.isSome_none]
      simp only [if_true, Bool.false_eq_true, if_false]
      omega
    · next e source hread =>
      have := ByteSource.size_nextChar_le a.source
      rw [hread] at this
      simpa only [size, hp] using Nat.add_le_add_right this _

/-- A character that was looked at and let go of is gone. -/
theorem size_release_peek_lt {a a' : Lookahead} {c : Char}
    (h : a.peek = (.ok c, a')) : a'.release.size < a.size := by
  rw [peek] at h
  split at h
  · next c' hp =>
    cases h
    simp [size, release, hp]
  · next hp =>
    split at h
    · next c' source hread =>
      cases h
      have := ByteSource.size_nextChar_lt hread
      simp [size, release, hp, this]
    · cases h

/-- A character that was taken is gone. -/
theorem size_take_lt {a a' : Lookahead} {c : Char}
    (h : a.take = (.ok c, a')) : a'.size < a.size := by
  rw [take] at h
  split at h
  · next c' hp =>
    cases h
    simp [size, hp]
  · next hp =>
    split at h
    · next c' source hread =>
      cases h
      have := ByteSource.size_nextChar_lt hread
      simpa [size, hp] using this
    · cases h

end Lookahead

end Monkey
