/-
Looking ahead changes nothing of what is given. What a lookahead answers to
its calls, in whatever order it is asked to look and to take, is what it
would answer to takes alone: each take and each look that fails uses up one
of those answers, and a look that shows a character uses up none
(`answer_of_calls`).

Behind a look that showed a character, a lookahead is where it was before,
with the character in its hand (`Peeked`). That is kept by every call
(`Peeked.call`), and so by all of them (`Peeked.after`). With a character in
its hand it does not ask the source (`call_of_held`).
-/
import Monkey.Proofs.Source.Calls

namespace Monkey

namespace Lookahead

-- ============================================================== answers

/-- Whether a call uses up what it is answered: a take always does, a look
only if it fails. -/
def Call.uses : Call → Except ReadError Char → Bool
  | .take, _ => true
  | .peek, .error _ => true
  | .peek, .ok _ => false

/-- What these calls are answered, one after another. -/
def answers (a : Lookahead) : List Call → List (Except ReadError Char)
  | [] => []
  | call :: calls => (a.call call).1 :: (a.call call).2.answers calls

/-- How many answers these calls use up. -/
def used (a : Lookahead) (calls : List Call) : Nat :=
  (calls.zip (a.answers calls)).countP fun p => p.1.uses p.2

/-- The calls behind the first use up what they do from where it left. -/
theorem used_cons (a : Lookahead) (call : Call) (calls : List Call) :
    a.used (call :: calls)
      = (a.call call).2.used calls
        + if call.uses (a.call call).1 then 1 else 0 := by
  rw [used, answers, List.zip_cons_cons, List.countP_cons]
  rfl

-- ================================================================ looks

/-- The second lookahead is the first one, or the first one after a look
that showed a character. -/
inductive Peeked : Lookahead → Lookahead → Prop
  | fresh (source : ByteSource) : Peeked (ofSource source) (ofSource source)
  | held {source rest : ByteSource} {c : Char}
      (h : source.nextChar = (.ok c, rest)) :
      Peeked (ofSource source) ⟨rest, some c⟩

namespace Peeked

variable {a b : Lookahead}

/-- A call is answered what a take would be. If it uses the answer up, it
leaves what the take would leave, and else what was there. -/
theorem call (h : Peeked a b) (call : Call) :
    (b.call call).1 = (a.call .take).1
      ∧ Peeked (if call.uses (b.call call).1 then (a.call .take).2 else a)
          (b.call call).2 := by
  cases h with
  | fresh source =>
      cases hread : source.nextChar with
      | mk r rest =>
      cases r with
      | ok c =>
          rw [call_of_ok hread, call_of_ok hread]
          cases call with
          | peek => exact ⟨rfl, .held hread⟩
          | take => exact ⟨rfl, .fresh rest⟩
      | error e =>
          rw [call_of_error hread, call_of_error hread]
          cases call with
          | peek => exact ⟨rfl, .fresh rest⟩
          | take => exact ⟨rfl, .fresh rest⟩
  | held hread =>
      rw [call_of_held, call_of_ok hread]
      cases call with
      | peek => exact ⟨rfl, .held hread⟩
      | take => exact ⟨rfl, .fresh _⟩

/-- After any calls a lookahead is where takes would have left it, one for
each answer that was used up. -/
theorem after (h : Peeked a b) (calls : List Call) :
    Peeked (a.after (List.replicate (b.used calls) .take))
      (b.after calls) := by
  induction calls generalizing a b with
  | nil => exact h
  | cons call calls ih =>
      have hlater := ih (h.call call).2
      rw [used_cons]
      cases huses : call.uses (b.call call).1 with
      | true =>
          rw [huses, if_pos rfl] at hlater
          exact hlater
      | false =>
          rw [huses, if_neg Bool.false_ne_true] at hlater
          exact hlater

end Peeked

-- ============================================================ in the hand

/-- A look that shows a character keeps it. -/
theorem held_of_peek {a a' : Lookahead} {c : Char}
    (h : a.call .peek = (.ok c, a')) : a'.held = some c := by
  rw [Lookahead.call, peek] at h
  split at h
  · next c' hc =>
    cases h
    exact hc
  · split at h
    · cases h
      rfl
    · cases h

/-- And so do the looks behind it. -/
theorem held_of_looks {a : Lookahead} {c : Char} {looks : List Call}
    (h : a.held = some c) (hlooks : .take ∉ looks) :
    (a.after looks).held = some c := by
  induction looks generalizing a with
  | nil => exact h
  | cons call looks ih =>
      rw [List.mem_cons, not_or] at hlooks
      obtain ⟨hcall, hlooks⟩ := hlooks
      cases call with
      | take => exact absurd rfl hcall
      | peek =>
          refine ih ?_ hlooks
          obtain ⟨source, held⟩ := a
          cases h
          rfl

/-- A lookahead that is asked to look and to take in any order answers what
takes alone would be answered. Which of those answers a call is given is the
number of takes before it and of looks before it that failed. If a look
before it showed a character and nothing was taken since, a call gives that
character whatever the source is by then, and leaves the source as it
is. -/
theorem answer_of_calls (script : List Event) (calls : List Call)
    (call : Call) :
    let a := ofSource (.ofEvents script)
    ((a.after calls).call call).1 = (a.nth (a.used calls)).1
      ∧ ∀ before looks c, calls = before ++ .peek :: looks →
        .take ∉ looks → ((a.after before).call .peek).1 = .ok c →
        ∀ source, (Lookahead.mk source (a.after calls).held).call call
          = (.ok c, ⟨source, call.keeps c⟩) := by
  intro a
  have hpeeked : Peeked a a := .fresh _
  refine ⟨((hpeeked.after calls).call call).1, ?_⟩
  intro before looks c hcalls hlooks hshown source
  have hlook : ((a.after before).call .peek).2.held = some c :=
    held_of_peek (Prod.ext hshown rfl)
  have hheld : (a.after calls).held = some c := by
    rw [hcalls, after_append]
    show (((a.after before).call .peek).2.after looks).held = some c
    exact held_of_looks hlook hlooks
  rw [hheld, call_of_held]

/-- A failure in the middle of a character and an end before the last one.
Of six calls one takes and one look fails, so the next call is given the
third answer, a character that two looks have shown by then. -/
theorem answer_of_calls_timed_out :
    let a := ofSource (.ofEvents [.data [0x61, 0xE2],
      .failed ⟨.timedOut, none⟩, .data [0x62], .ended, .data [0xC3, 0xA9]])
    let calls : List Call := [.peek, .peek, .take, .peek, .peek, .peek]
    a.answers calls = [.ok 'a', .ok 'a', .ok 'a',
        .error (.failed ⟨.timedOut, none⟩), .ok 'b', .ok 'b']
      ∧ ((a.after calls).call .take).1 = (a.nth 2).1
      ∧ ∀ source, (Lookahead.mk source (a.after calls).held).call .take
        = (.ok 'b', ⟨source, none⟩) := by
  intro a calls
  have hanswers : a.answers calls = [.ok 'a', .ok 'a', .ok 'a',
      .error (.failed ⟨.timedOut, none⟩), .ok 'b', .ok 'b'] := rfl
  have hused : a.used calls = 2 := by rw [used, hanswers]; rfl
  obtain ⟨hanswer, hheld⟩ := answer_of_calls [.data [0x61, 0xE2],
    .failed ⟨.timedOut, none⟩, .data [0x62], .ended, .data [0xC3, 0xA9]]
    calls .take
  refine ⟨hanswers, ?_, ?_⟩
  · rw [← hused]
    exact hanswer
  · exact hheld [.peek, .peek, .take, .peek] [.peek] 'b' rfl (by decide) rfl

end Lookahead

end Monkey
