/-
What a script comes to. However its bytes are cut into chunks, and however
often a read is interrupted, a source gives one byte after another, with
ends and failures between them: its signals. A look at the next byte shows
the first signal and leaves the others (`ByteSource.look_shows`), and a
look is the one way to see a source.

A script is plain if it has no empty chunk, no interrupted read, and no two
chunks side by side. Making one plain leaves its signals as they are
(`Event.signals_plain`).
-/
import Monkey.Source.Bytes

namespace Monkey

-- ============================================================== signals

/-- What a look at the next byte can meet. -/
inductive Signal where
  | byte (value : UInt8)
  | ended
  | failed (failure : ReadFailure)
deriving DecidableEq

namespace Event

/-- The signals of a script, one after another. -/
def signals : List Event → List Signal
  | [] => []
  | .data bytes :: rest => bytes.map .byte ++ signals rest
  | .ended :: rest => .ended :: signals rest
  | .failed f :: rest =>
      if f.kind = .interrupted then signals rest
      else .failed f :: signals rest

-- ======================================================== plain scripts

/-- Whether an event is anything but an empty chunk or an interrupted
read. -/
def noticed : Event → Bool
  | .data bytes => !bytes.isEmpty
  | .ended => true
  | .failed f => f.kind ≠ .interrupted

/-- Joins the chunks that stand side by side. -/
def join : List Event → List Event
  | [] => []
  | .data bytes :: rest =>
      match join rest with
      | .data more :: rest' => .data (bytes ++ more) :: rest'
      | rest' => .data bytes :: rest'
  | e :: rest => e :: join rest

/-- The script without empty chunks and interrupted reads, and with the
chunks joined that then stand side by side. -/
def plain (script : List Event) : List Event := join (script.filter noticed)

/-- Nothing is seen of an event that goes unnoticed. -/
theorem signals_filter (script : List Event) :
    signals (script.filter noticed) = signals script := by
  induction script with
  | nil => rfl
  | cons e rest ih =>
      cases e with
      | data bytes =>
          cases bytes with
          | nil => simpa [noticed, signals] using ih
          | cons b bytes => simp [noticed, signals, ih]
      | ended => rw [List.filter_cons_of_pos rfl, signals, signals, ih]
      | failed f =>
          by_cases hf : f.kind = .interrupted
          · simpa [noticed, signals, hf] using ih
          · simp [noticed, signals, hf, ih]

/-- Nor of where one chunk ends and the next begins. -/
theorem signals_join (script : List Event) :
    signals (join script) = signals script := by
  fun_induction join script with
  | case1 => rfl
  | case2 bytes rest more rest' h ih =>
      rw [h, signals] at ih
      rw [signals, signals, ← ih, List.map_append, List.append_assoc]
  | case3 bytes rest h ih => rw [signals, signals, ih]
  | case4 e rest hdata ih =>
      cases e with
      | data bytes => exact absurd rfl (hdata bytes)
      | ended => rw [signals, signals, ih]
      | failed f => rw [signals, signals, ih]

/-- A plain script has the signals of the one it was made from. -/
theorem signals_plain (script : List Event) :
    signals (plain script) = signals script := by
  rw [plain, signals_join, signals_filter]

end Event

-- ============================================================== looking

namespace ByteSource

/-- What the source still has to show. -/
def signals (s : ByteSource) : List Signal := Event.signals s.script

/-- A look that shows the first of these signals, if `n` bytes were taken
before. Behind the last signal it shows the end. -/
inductive Shows : List Signal → Nat → Look → Prop
  | exhausted {n : Nat} : Shows [] n (.ended ⟨[], n⟩)
  | byte {b : UInt8} {rest : List Signal} {n : Nat} {s : ByteSource}
      (hrest : s.signals = rest) (hn : s.taken = n + 1) :
      Shows (.byte b :: rest) n (.byte b s)
  | ended {rest : List Signal} {n : Nat} {s : ByteSource}
      (hrest : s.signals = rest) (hn : s.taken = n) :
      Shows (.ended :: rest) n (.ended s)
  | failed {f : ReadFailure} {rest : List Signal} {n : Nat} {s : ByteSource}
      (hrest : s.signals = rest) (hn : s.taken = n) :
      Shows (.failed f :: rest) n (.failed f s)

/-- A look shows the first signal. -/
theorem look_shows (s : ByteSource) : Shows s.signals s.taken s.look := by
  obtain ⟨script, n⟩ := s
  show Shows (Event.signals script) n (lookIn n script)
  fun_induction lookIn n script with
  | case1 => exact .exhausted
  | case2 rest ih => exact ih
  | case3 b bytes rest => exact .byte rfl rfl
  | case4 rest => exact .ended rfl rfl
  | case5 f rest hf ih =>
      rw [Event.signals, if_pos hf]
      exact ih
  | case6 f rest hf =>
      rw [Event.signals, if_neg hf]
      exact .failed rfl rfl

end ByteSource

end Monkey
