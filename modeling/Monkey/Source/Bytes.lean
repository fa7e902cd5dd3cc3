/-
A source of bytes, as its reader meets it. What a source will do is a
script of events: it hands over a chunk of bytes, or reports once that
it is at its end, or fails once. An end need not be final, since a
source that grows may go on after it.

The one way to see a source is to look at its next byte. A look passes
over empty chunks and tries interrupted reads again, so that how the
bytes were cut into chunks is invisible. It uses up the end or the
failure it meets. A byte is used up only if the reader then takes it,
and the source counts the bytes that were taken.
-/
import Monkey.Source.Failure
import Monkey.Text.Utf8

namespace Monkey

-- ============================================================ the script

/-- One thing a source does when it is asked for bytes. -/
inductive Event where
  | data (bytes : List UInt8)
  | ended
  | failed (failure : ReadFailure)
deriving DecidableEq

/-- How many bytes a script still holds. -/
def Event.bytesLeft : List Event → Nat
  | [] => 0
  | .data bytes :: rest => bytes.length + bytesLeft rest
  | .ended :: rest => bytesLeft rest
  | .failed _ :: rest => bytesLeft rest

/-- A source of bytes: what it will do, and how many bytes were taken
from it so far. After the last event every look finds its end. -/
structure ByteSource where
  script : List Event
  taken : Nat

namespace ByteSource

/-- A source that will follow a script. -/
def ofEvents (script : List Event) : ByteSource := ⟨script, 0⟩

/-- A source that holds these bytes and then ends. -/
def ofBytes (bytes : List UInt8) : ByteSource := ofEvents [.data bytes]

/-- A source that holds the UTF-8 bytes of a text and then ends. -/
def ofText (text : String) : ByteSource :=
  ofBytes (Text.Utf8.encode text.toList)

/-- How many bytes the source still holds. -/
def size (s : ByteSource) : Nat := Event.bytesLeft s.script

-- ============================================================== looking

/-- What a look at the next byte shows, and the source as it then
stands: behind the byte, should the reader take it, or behind the end or
the failure. -/
inductive Look where
  | byte (value : UInt8) (rest : ByteSource)
  | ended (rest : ByteSource)
  | failed (failure : ReadFailure) (rest : ByteSource)

/-- Looks at the next byte of a script from which `taken` bytes are
gone. -/
def lookIn (taken : Nat) : List Event → Look
  | [] => .ended ⟨[], taken⟩
  | .data [] :: rest => lookIn taken rest
  | .data (b :: bytes) :: rest => .byte b ⟨.data bytes :: rest, taken + 1⟩
  | .ended :: rest => .ended ⟨rest, taken⟩
  | .failed f :: rest =>
      if f.kind = .interrupted then lookIn taken rest
      else .failed f ⟨rest, taken⟩

/-- Looks at the next byte. -/
def look (s : ByteSource) : Look := lookIn s.taken s.script

-- =========================================================== what is left

/-- A taken byte is one byte less. -/
theorem size_of_lookIn_byte {n : Nat} {script : List Event} {b : UInt8}
    {rest : ByteSource} (h : lookIn n script = .byte b rest) :
    rest.size + 1 = Event.bytesLeft script := by
  fun_induction lookIn n script with
  | case1 => cases h
  | case2 rest' ih => simpa [Event.bytesLeft] using ih h
  | case3 b' bytes rest' =>
      cases h
      simp only [size, Event.bytesLeft, List.length_cons]
      omega
  | case4 => cases h
  | case5 f rest' hf ih => simpa [Event.bytesLeft] using ih h
  | case6 => cases h

/-- An end takes no byte away. -/
theorem size_of_lookIn_ended {n : Nat} {script : List Event}
    {rest : ByteSource} (h : lookIn n script = .ended rest) :
    rest.size = Event.bytesLeft script := by
  fun_induction lookIn n script with
  | case1 => cases h; rfl
  | case2 rest' ih => simpa [Event.bytesLeft] using ih h
  | case3 => cases h
  | case4 => cases h; rfl
  | case5 f rest' hf ih => simpa [Event.bytesLeft] using ih h
  | case6 => cases h

/-- A failure takes no byte away. -/
theorem size_of_lookIn_failed {n : Nat} {script : List Event}
    {f : ReadFailure} {rest : ByteSource}
    (h : lookIn n script = .failed f rest) :
    rest.size = Event.bytesLeft script := by
  fun_induction lookIn n script with
  | case1 => cases h
  | case2 rest' ih => simpa [Event.bytesLeft] using ih h
  | case3 => cases h
  | case4 => cases h
  | case5 f' rest' hf ih => simpa [Event.bytesLeft] using ih h
  | case6 => cases h; rfl

end ByteSource

end Monkey
