/-
Two sources read side by side. A coupling pairs sources so that looks at
the two of a pair show the same and leave a pair again; only some failures
of the first source are let pass, which break its reading off
(`Coupling`). What is read from a pair then agrees, step by step: either
it is the same, and a pair is left, or the first source broke off
(`Agree`). This module says so of characters and of the lookahead.

Sources with the same signals, from which as many bytes were taken, are
coupled, and nothing breaks off (`Coupling.sameSignals`). So is a source
with another that ends where the first one fails
(`Coupling.untilFailure`).
-/
import Monkey.Proofs.Source.Calls
import Monkey.Proofs.Source.Signals

namespace Monkey

open Text

-- ============================================================ agreement

/-- Two reads give the same and leave things that belong together, or else
the first one ended in an error of this sort. -/
def Agree {α ε β : Type} (R : β → β → Prop) (broken : ε → Prop)
    (x y : Except ε α × β) : Prop :=
  (∃ r s v, x = (r, s) ∧ y = (r, v) ∧ R s v)
    ∨ ∃ e s, x = (.error e, s) ∧ broken e

namespace Agree

variable {α ε β : Type} {R : β → β → Prop} {broken : ε → Prop}

/-- Reads that give the same and leave what belongs together agree. -/
theorem same (r : Except ε α) {s v : β} (h : R s v) :
    Agree R broken (r, s) (r, v) :=
  Or.inl ⟨r, s, v, rfl, rfl, h⟩

/-- With an error of this sort the first read agrees with any other. -/
theorem broke {e : ε} (h : broken e) (s : β) (y : Except ε α × β) :
    Agree R broken (.error e, s) y :=
  Or.inr ⟨e, s, rfl, h⟩

/-- Where there are no such errors, the reads do give the same. -/
theorem eq_of_never {x y : Except ε α × β} (h : Agree R broken x y)
    (hnever : ∀ e, ¬broken e) : x.1 = y.1 ∧ R x.2 y.2 := by
  obtain ⟨r, s, v, rfl, rfl, hsv⟩ | ⟨e, s, -, he⟩ := h
  · exact ⟨rfl, hsv⟩
  · exact absurd he (hnever e)

end Agree

/-- Two looks show the same and leave a pair of sources, or else the first
one shows a failure of this sort. -/
inductive LooksAgree (pairs : ByteSource → ByteSource → Prop)
    (breaks : ReadFailure → Prop) : ByteSource.Look → ByteSource.Look → Prop
  | byte {b : UInt8} {s v : ByteSource} (h : pairs s v) :
      LooksAgree pairs breaks (.byte b s) (.byte b v)
  | ended {s v : ByteSource} (h : pairs s v) :
      LooksAgree pairs breaks (.ended s) (.ended v)
  | failed {f : ReadFailure} {s v : ByteSource} (h : pairs s v) :
      LooksAgree pairs breaks (.failed f s) (.failed f v)
  | broke {f : ReadFailure} {s : ByteSource} {l : ByteSource.Look}
      (h : breaks f) : LooksAgree pairs breaks (.failed f s) l

/-- Pairs of sources on which looks agree, but for failures that break the
first one off. -/
structure Coupling where
  Pairs : ByteSource → ByteSource → Prop
  Breaks : ReadFailure → Prop
  look_agrees : ∀ {s v : ByteSource},
    Pairs s v → LooksAgree Pairs Breaks s.look v.look

namespace Coupling

variable {C : Coupling}

/-- A character is missing because the first source broke off. -/
def BreaksOff (C : Coupling) : ReadError → Prop
  | .endOfInput => False
  | .failed f => C.Breaks f

-- =========================================================== characters

/-- The rest of a sequence is read alike. -/
theorem follow_agrees {s v : ByteSource} (h : C.Pairs s v)
    (bytes : List UInt8) (missing : Nat) :
    Agree C.Pairs C.BreaksOff (s.follow bytes missing)
      (v.follow bytes missing) := by
  induction missing generalizing s v bytes with
  | zero => exact .same _ h
  | succ missing ih =>
      have hlook := C.look_agrees h
      rw [ByteSource.follow, ByteSource.follow]
      generalize s.look = l at hlook ⊢
      generalize v.look = l' at hlook ⊢
      cases hlook with
      | @byte b s' v' h' =>
          cases hb : Utf8.isContinuation b with
          | true => simpa only [hb, if_true] using ih h' (bytes ++ [b])
          | false =>
              simpa only [hb, Bool.false_eq_true, if_false] using Agree.same _ h
      | ended h' => exact .same _ h'
      | failed h' => exact .same _ h'
      | @broke f s' _ hf => exact .broke (e := ReadError.failed f) hf s' _

/-- So is a character. -/
theorem nextChar_agrees {s v : ByteSource} (h : C.Pairs s v) :
    Agree C.Pairs C.BreaksOff s.nextChar v.nextChar := by
  have hlook := C.look_agrees h
  unfold ByteSource.nextChar
  generalize s.look = l at hlook ⊢
  generalize v.look = l' at hlook ⊢
  cases hlook with
  | @byte b s' v' h' =>
      simp only
      cases Utf8.followers? b with
      | none => exact .same _ h'
      | some missing => exact follow_agrees h' [b] missing
  | ended h' => exact .same _ h'
  | failed h' => exact .same _ h'
  | @broke f s' _ hf => exact .broke (e := ReadError.failed f) hf s' _

end Coupling

-- ============================================================ lookahead

namespace Lookahead

/-- Gives the next character, and keeps of it what `keep` says. -/
def next (a : Lookahead) (keep : Char → Option Char) :
    Except ReadError Char × Lookahead :=
  match a.held with
  | some c => (.ok c, ⟨a.source, keep c⟩)
  | none =>
      match a.source.nextChar with
      | (.ok c, source) => (.ok c, ⟨source, keep c⟩)
      | (.error e, source) => (.error e, ⟨source, none⟩)

/-- A look keeps the character. -/
theorem peek_eq_next (a : Lookahead) : a.peek = a.next some := by
  obtain ⟨source, held⟩ := a
  cases held <;> rfl

end Lookahead

namespace Coupling

variable {C : Coupling}

/-- Lookaheads on a pair of sources that hold the same character. -/
structure Ahead (C : Coupling) (a b : Lookahead) : Prop where
  source : C.Pairs a.source b.source
  held : a.held = b.held

variable {a b : Lookahead}

/-- The next character is alike, whatever is kept of it. -/
theorem next_agrees (keep : Char → Option Char) (h : C.Ahead a b) :
    Agree C.Ahead C.BreaksOff (a.next keep) (b.next keep) := by
  obtain ⟨s, held⟩ := a
  obtain ⟨v, held'⟩ := b
  obtain ⟨hsource, rfl : held = held'⟩ := h
  cases held with
  | some c => exact .same _ ⟨hsource, rfl⟩
  | none =>
      obtain ⟨r, s', v', hs, hv, h'⟩ | ⟨e, s', hs, he⟩ :=
        nextChar_agrees hsource
      · simp only [Lookahead.next, hs, hv]
        cases r with
        | ok c => exact .same _ ⟨h', rfl⟩
        | error e => exact .same _ ⟨h', rfl⟩
      · simp only [Lookahead.next, hs]
        exact .broke he _ _

/-- So a look is alike. -/
theorem peek_agrees (h : C.Ahead a b) :
    Agree C.Ahead C.BreaksOff a.peek b.peek := by
  rw [Lookahead.peek_eq_next, Lookahead.peek_eq_next]
  exact next_agrees some h

/-- And so is taking a character. -/
theorem take_agrees (h : C.Ahead a b) :
    Agree C.Ahead C.BreaksOff a.take b.take :=
  next_agrees (fun _ => none) h

/-- Letting go of a character leaves a pair. -/
theorem Ahead.release (h : C.Ahead a b) : C.Ahead a.release b.release :=
  ⟨h.source, rfl⟩

end Coupling

-- ================================================================ calls

namespace Coupling

variable {C : Coupling} {a b : Lookahead}

/-- If nothing breaks off, a call gives the same and keeps lookaheads
together. -/
theorem Ahead.call (hnever : ∀ f, ¬C.Breaks f) (h : C.Ahead a b)
    (call : Lookahead.Call) :
    (a.call call).1 = (b.call call).1
      ∧ C.Ahead (a.call call).2 (b.call call).2 := by
  have hnever (e : ReadError) : ¬C.BreaksOff e := by
    cases e with
    | endOfInput => exact id
    | failed f => exact hnever f
  cases call with
  | peek => exact (peek_agrees h).eq_of_never hnever
  | take => exact (take_agrees h).eq_of_never hnever

/-- So does any sequence of calls. -/
theorem Ahead.after (hnever : ∀ f, ¬C.Breaks f) (h : C.Ahead a b)
    (calls : List Lookahead.Call) : C.Ahead (a.after calls) (b.after calls) := by
  induction calls generalizing a b with
  | nil => exact h
  | cons call calls ih => exact ih (h.call hnever call).2

-- ======================================================== two couplings

/-- Sources with the same signals from which as many bytes were taken. -/
def sameSignals : Coupling where
  Pairs s v := s.signals = v.signals ∧ s.taken = v.taken
  Breaks _ := False
  look_agrees := by
    intro s v h
    have hs := s.look_shows
    have hv := v.look_shows
    rw [h.1, h.2] at hs
    generalize v.signals = signals at hs hv
    generalize v.taken = n at hs hv
    generalize s.look = l at hs ⊢
    generalize v.look = l' at hv ⊢
    cases hs with
    | exhausted =>
        cases hv
        exact .ended ⟨rfl, rfl⟩
    | byte hrest hn =>
        cases hv with
        | byte hrest' hn' =>
            exact .byte ⟨hrest.trans hrest'.symm, hn.trans hn'.symm⟩
    | ended hrest hn =>
        cases hv with
        | ended hrest' hn' =>
            exact .ended ⟨hrest.trans hrest'.symm, hn.trans hn'.symm⟩
    | failed hrest hn =>
        cases hv with
        | failed hrest' hn' =>
            exact .failed ⟨hrest.trans hrest'.symm, hn.trans hn'.symm⟩

/-- A source that shows bytes and then this failure, with one that shows
the same bytes and then its end. -/
def untilFailure (f : ReadFailure) : Coupling where
  Pairs s v := ∃ (bytes : List UInt8) (later : List Signal),
    s.signals = bytes.map .byte ++ .failed f :: later
      ∧ v.signals = bytes.map .byte
  Breaks f' := f' = f
  look_agrees := by
    intro s v h
    obtain ⟨bytes, later, hs, hv⟩ := h
    have hlook := s.look_shows
    have hlook' := v.look_shows
    rw [hs] at hlook
    rw [hv] at hlook'
    generalize s.look = l at hlook ⊢
    generalize v.look = l' at hlook' ⊢
    cases bytes with
    | nil =>
        cases hlook
        exact .broke rfl
    | cons b bytes =>
        cases hlook with
        | byte hrest =>
            cases hlook' with
            | byte hrest' => exact .byte ⟨bytes, later, hrest, hrest'⟩

end Coupling

end Monkey
