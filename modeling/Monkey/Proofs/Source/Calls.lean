/-
Calls on a lookahead. It can be asked to look and to take, in any order and
as often as one likes (`Lookahead.Call`). If it holds no character it answers
either call with what its source reads, of which it keeps what the call says
(`call_of_ok`, `call_of_error`). If it holds one it answers with that, and
its source is not asked (`call_of_held`).
-/
import Monkey.Source.Lookahead

namespace Monkey

namespace Lookahead

-- ================================================================ calls

/-- What a lookahead can be asked for. -/
inductive Call where
  | peek
  | take
deriving DecidableEq

/-- What a call keeps of the character that it gives. -/
def Call.keeps : Call → Char → Option Char
  | .peek, c => some c
  | .take, _ => none

/-- Answers a call. -/
def call (a : Lookahead) : Call → Except ReadError Char × Lookahead
  | .peek => a.peek
  | .take => a.take

variable {source rest : ByteSource}

/-- A call for which the source is read gives the character that is found
there. -/
theorem call_of_ok {c : Char} (h : source.nextChar = (.ok c, rest))
    (call : Call) :
    (ofSource source).call call = (.ok c, ⟨rest, call.keeps c⟩) := by
  cases call with
  | peek => simp only [Lookahead.call, peek, ofSource, h, Call.keeps]
  | take => simp only [Lookahead.call, take, ofSource, h, Call.keeps]

/-- If none is found there, it gives the reason and keeps nothing. -/
theorem call_of_error {e : ReadError} (h : source.nextChar = (.error e, rest))
    (call : Call) :
    (ofSource source).call call = (.error e, ofSource rest) := by
  cases call with
  | peek => simp only [Lookahead.call, peek, ofSource, h]
  | take => simp only [Lookahead.call, take, ofSource, h]

/-- With a character in its hand a lookahead gives that, whatever its source
is, and leaves the source as it is. -/
theorem call_of_held (source : ByteSource) (c : Char) (call : Call) :
    (Lookahead.mk source (some c)).call call
      = (.ok c, ⟨source, call.keeps c⟩) := by
  cases call <;> rfl

-- ===================================================== one after another

/-- The lookahead after these calls, whatever they gave. -/
def after (a : Lookahead) (calls : List Call) : Lookahead :=
  calls.foldl (fun a call => (a.call call).2) a

/-- Calls, and then other calls. -/
theorem after_append (a : Lookahead) (calls later : List Call) :
    a.after (calls ++ later) = (a.after calls).after later :=
  List.foldl_append

/-- What the take of number `n` gives, counted from zero, if nothing but
takes is called. -/
def nth (a : Lookahead) (n : Nat) : Except ReadError Char × Lookahead :=
  (a.after (List.replicate n .take)).call .take

/-- It leaves what one more take leaves. -/
theorem nth_snd (a : Lookahead) (n : Nat) :
    (a.nth n).2 = a.after (List.replicate (n + 1) .take) := by
  rw [List.replicate_succ', after_append]
  rfl

end Lookahead

end Monkey
