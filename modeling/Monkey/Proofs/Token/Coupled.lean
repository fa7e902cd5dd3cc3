/-
Two scanners read side by side. Scanners that stand at the same place over
coupled sources (`Scanner.Coupled`) take the same runs and cut the same
tokens, until the first of them breaks off in a failure that its coupling
lets pass (`Scanner.scan_agrees`). If nothing breaks off they give the same
at every call (`Scanner.Coupled.scans`).
-/
import Monkey.Proofs.Source.Coupling
import Monkey.Proofs.Token.Hands
import Monkey.Proofs.Token.Lexeme

namespace Monkey

open Text

namespace Scanner

variable {C : Coupling} {s v : Scanner}

/-- Scanners at the same place over coupled sources. -/
structure Coupled (C : Coupling) (s v : Scanner) : Prop where
  source : C.Ahead s.source v.source
  here : s.here = v.here
  ended : s.ended = v.ended

/-- At the beginning of coupled sources. -/
theorem coupled_ofSource {source source' : ByteSource}
    (h : C.Pairs source source') :
    Coupled C (ofSource source) (ofSource source') :=
  ⟨⟨h, rfl⟩, rfl, rfl⟩

-- ==================================================== single characters

/-- Passing a character keeps scanners together. -/
theorem Coupled.pass (h : Coupled C s v) (c : Char) :
    Coupled C (s.pass c) (v.pass c) :=
  ⟨h.source.release, congrArg (·.after c) h.here, h.ended⟩

/-- A look at the next character is alike. -/
theorem peek_agrees (h : Coupled C s v) :
    Agree (Coupled C) C.BreaksOff s.peek v.peek := by
  obtain ⟨r, a, b, ha, hb, hab⟩ | ⟨e, a, ha, he⟩ :=
    Coupling.peek_agrees h.source
  · rw [peek, peek, ha, hb]
    exact .same r ⟨hab, h.here, h.ended⟩
  · rw [peek, ha]
    exact .broke he _ _

/-- So is taking a character. -/
theorem take_agrees (h : Coupled C s v) :
    Agree (Coupled C) C.BreaksOff s.take v.take := by
  obtain ⟨r, a, b, ha, hb, hab⟩ | ⟨e, a, ha, he⟩ :=
    Coupling.take_agrees h.source
  · rw [take, take, ha, hb]
    cases r with
    | ok c => exact .same _ ⟨hab, congrArg (·.after c) h.here, h.ended⟩
    | error e => exact .same _ ⟨hab, h.here, h.ended⟩
  · rw [take, ha]
    exact .broke he _ _

-- ================================================================= runs

/-- A run is alike. -/
theorem takeRun_agrees (p : Char → Bool) {s v : Scanner}
    (h : Coupled C s v) :
    Agree (Coupled C) C.Breaks (s.takeRun p) (v.takeRun p) := by
  obtain ⟨r, s', v', hs, hv, h'⟩ | ⟨e, s', hs, he⟩ := peek_agrees h
  · rw [takeRun_step, takeRun_step p v, hs, hv]
    cases r with
    | ok c =>
        cases hp : p c with
        | false => simpa [hp] using Agree.same _ h'
        | true =>
            -- the character is passed, and the rest of the run is alike
            have := size_pass_peek_lt hs
            obtain ⟨r, s'', v'', hs', hv', h''⟩ | ⟨f, s'', hs', hf⟩ :=
              takeRun_agrees p (h'.pass c)
            · simp only [hp, if_true, hs', hv']
              cases r with
              | ok cs => exact .same _ h''
              | error f => exact .same _ h''
            · simp only [hp, if_true, hs']
              exact .broke hf _ _
    | error e => cases e <;> exact .same _ h'
  · rw [takeRun_step, hs]
    cases e with
    | endOfInput => exact he.elim
    | failed f => exact .broke (e := f) he _ _
termination_by s.size

/-- So is a single expected character. -/
theorem passIf_agrees (expected : Char) (h : Coupled C s v) :
    Agree (Coupled C) C.Breaks (s.passIf expected) (v.passIf expected) := by
  obtain ⟨r, s', v', hs, hv, h'⟩ | ⟨e, s', hs, he⟩ := peek_agrees h
  · rw [passIf, passIf, hs, hv]
    cases r with
    | ok c =>
        by_cases hc : c = expected
        · simpa only [hc, if_true] using Agree.same _ (h'.pass expected)
        · simpa only [hc, if_false] using Agree.same _ h'
    | error e => cases e <;> exact .same _ h'
  · rw [passIf, hs]
    cases e with
    | endOfInput => exact he.elim
    | failed f => exact .broke (e := f) he _ _

-- =============================================================== tokens

/-- A lexeme that an equals sign may join is alike. -/
theorem joinable_agrees (c : Char) (alone joined : TokenKind)
    (h : Coupled C s v) :
    Agree (Coupled C) C.Breaks (s.joinable c alone joined)
      (v.joinable c alone joined) := by
  obtain ⟨r, s', v', hs, hv, h'⟩ | ⟨f, s', hs, hf⟩ := passIf_agrees '=' h
  · rw [joinable, joinable, hs, hv]
    cases r with
    | ok joins => cases joins <;> exact .same _ h'
    | error f => exact .same _ h'
  · rw [joinable, hs]
    exact .broke hf _ _

/-- So is one that is a run. -/
theorem runOf_agrees (p : Char → Bool) (kind : List Char → TokenKind)
    (c : Char) (h : Coupled C s v) :
    Agree (Coupled C) C.Breaks (s.runOf p kind c) (v.runOf p kind c) := by
  obtain ⟨r, s', v', hs, hv, h'⟩ | ⟨f, s', hs, hf⟩ := takeRun_agrees p h
  · rw [runOf, runOf, hs, hv]
    cases r with
    | ok cs => exact .same _ h'
    | error f => exact .same _ h'
  · rw [runOf, hs]
    exact .broke hf _ _

/-- So is every lexeme. -/
theorem lexeme_agrees (c : Char) (h : Coupled C s v) :
    Agree (Coupled C) C.Breaks (s.lexeme c) (v.lexeme c) := by
  unfold lexeme
  cases TokenKind.ofSymbol? c with
  | some kind => exact .same _ h
  | none =>
      simp only
      split
      · exact joinable_agrees c .assign .equal h
      · split
        · exact joinable_agrees c .bang .notEqual h
        · split
          · exact runOf_agrees isLetter _ c h
          · split
            · exact runOf_agrees Numeral.isDigit _ c h
            · exact .same _ h

/-- A call is alike. -/
theorem scan_agrees (h : Coupled C s v) :
    Agree (Coupled C) (fun e : ScanError => C.Breaks e.failure) s.scan
      v.scan := by
  obtain ⟨r, s₁, v₁, hs, hv, h₁⟩ | ⟨f, s₁, hs, hf⟩ := takeRun_agrees isBlank h
  · rw [scan, scan, hs, hv]
    cases r with
    | error f => simpa only [h₁.here] using Agree.same _ h₁
    | ok cs =>
        obtain ⟨r, s₂, v₂, hs, hv, h₂⟩ | ⟨e, s₂, hs, he⟩ := take_agrees h₁
        · simp only [hs, hv]
          cases r with
          | error e =>
              cases e <;> simpa only [h₁.here, h₂.here] using Agree.same _ h₂
          | ok c =>
              obtain ⟨r, s₃, v₃, hs, hv, h₃⟩ | ⟨f, s₃, hs, hf⟩ :=
                lexeme_agrees c h₂
              · simp only [hs, hv]
                cases r with
                | ok lexeme =>
                    simpa only [h₁.here, h₃.here] using Agree.same _ h₃
                | error f =>
                    simpa only [h₁.here, h₃.here] using Agree.same _ h₃
              · simp only [hs]
                exact .broke (e := ScanError.mk _ f) hf _ _
        · simp only [hs]
          cases e with
          | endOfInput => exact he.elim
          | failed f => exact .broke (e := ScanError.mk _ f) he _ _
  · rw [scan, hs]
    exact .broke (e := ScanError.mk _ f) hf _ _

-- ================================================================ calls

/-- If nothing breaks off, a call gives the same and keeps scanners
together. -/
theorem Coupled.scan (hnever : ∀ f, ¬C.Breaks f) (h : Coupled C s v) :
    s.scan.1 = v.scan.1 ∧ Coupled C s.scan.2 v.scan.2 :=
  (scan_agrees h).eq_of_never fun e => hnever e.failure

/-- So does any number of calls. -/
theorem Coupled.scans (hnever : ∀ f, ¬C.Breaks f) (h : Coupled C s v)
    (n : Nat) : Coupled C (s.scans n) (v.scans n) := by
  induction n generalizing s v with
  | zero => exact h
  | succ n ih => exact ih (h.scan hnever).2

end Scanner

end Monkey
