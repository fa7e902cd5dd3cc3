/-
Where a scanner breaks off. A scanner whose source fails behind some bytes
is coupled with one whose source ends there (`Coupling.untilFailure`).
Until it fails it gives the same tokens, and it does fail, since it never
comes to an end of the input before (`Scanner.Coupled.kind_scan`). So what
it hands out are the first tokens of the other, and then the failure
(`Scanner.Coupled.exists_hands`).
-/
import Monkey.Proofs.Source.Passed
import Monkey.Proofs.Token.Coupled

namespace Monkey

namespace Coupling

variable {f : ReadFailure}

/-- Before a source fails it does not end. -/
theorem nextChar_ne_end {s v : ByteSource} (h : (untilFailure f).Pairs s v) :
    s.nextChar.1 ≠ .error .endOfInput := by
  obtain ⟨bytes, later, hs, -⟩ := h
  have hlook := s.look_shows
  rw [hs] at hlook
  unfold ByteSource.nextChar
  generalize s.look = l at hlook ⊢
  cases bytes with
  | nil =>
      cases hlook
      simp
  | cons b bytes =>
      cases hlook
      simp only
      split
      · simp
      · exact ByteSource.follow_ne_end _ _ _

/-- So there is a character to take, or the failure. -/
theorem Ahead.take_ne_end {a b : Lookahead}
    (h : (untilFailure f).Ahead a b) : a.take.1 ≠ .error .endOfInput := by
  have hread := nextChar_ne_end h.source
  unfold Lookahead.take
  split
  · simp
  · split
    · simp
    · next e source hnext =>
      rw [hnext] at hread
      exact hread

end Coupling

namespace Scanner

variable {f : ReadFailure} {s s' v : Scanner}

/-- The rest of a token makes no end of the input of it. -/
theorem kind_lexeme {c : Char} {kind : TokenKind} {cs : List Char}
    (h : s.lexeme c = (.ok (kind, cs), s')) : kind ≠ .endOfInput := by
  have hjoin {alone joined : TokenKind} (halone : alone ≠ .endOfInput)
      (hjoined : joined ≠ .endOfInput)
      (h : s.joinable c alone joined = (.ok (kind, cs), s')) :
      kind ≠ .endOfInput := by
    unfold joinable at h
    split at h <;> cases h
    · exact hjoined
    · exact halone
  have hrun {p : Char → Bool} {kindOf : List Char → TokenKind}
      (hkind : ∀ cs, kindOf cs ≠ .endOfInput)
      (h : s.runOf p kindOf c = (.ok (kind, cs), s')) :
      kind ≠ .endOfInput := by
    unfold runOf at h
    split at h <;> cases h
    exact hkind _
  unfold lexeme at h
  split at h
  · next kind' hsymbol =>
    cases h
    intro hend
    subst hend
    exact (ofSymbol?_ne c).1 hsymbol
  · split at h
    · exact hjoin (by decide) (by decide) h
    · split at h
      · exact hjoin (by decide) (by decide) h
      · split at h
        · exact hrun (fun cs => (ofWord_ne _).1) h
        · split at h
          · exact hrun (fun cs => by decide) h
          · cases h
            decide

/-- A character can be taken before the source fails, or the failure is
found. -/
theorem Coupled.take_ne_end (h : Coupled (.untilFailure f) s v) :
    s.take.1 ≠ .error .endOfInput := by
  have htake := h.source.take_ne_end
  unfold Scanner.take
  split
  · simp
  · next e source hread =>
    rw [hread] at htake
    exact htake

/-- A call that gives a token before the source fails does not give the end
of the input. -/
theorem Coupled.kind_scan (h : Coupled (.untilFailure f) s v) {t : Token}
    (hscan : s.scan = (.ok t, s')) : t.kind ≠ .endOfInput := by
  have hblanks := takeRun_agrees isBlank h
  rw [Scanner.scan] at hscan
  split at hscan
  · cases hscan
  · next cs s₁ hrun =>
    obtain ⟨r, s₂, v₁, hs, -, h₁⟩ | ⟨f', s₂, hs, -⟩ := hblanks
    · rw [hrun] at hs
      cases hs
      split at hscan
      · next s₂ hend => exact absurd (congrArg Prod.fst hend) h₁.take_ne_end
      · cases hscan
      · next c s₂ _ =>
        split at hscan
        · next hlexeme =>
          cases hscan
          exact kind_lexeme hlexeme
        · cases hscan
    · rw [hrun] at hs
      cases hs

/-- Until its source fails, a scanner hands out the first of the tokens
that it would with the end of the input there. -/
theorem Coupled.exists_hands {ts : List Token} {z : Token}
    (h : Coupled (.untilFailure f) s v) (hv : Hands v ts (.ok z)) :
    ∃ us e, us <+: ts ∧ Hands s us (.error e) ∧ e.failure = f := by
  generalize hlast : Except.ok z = last at hv
  induction hv generalizing s with
  | @ended v v' z' hnext hend =>
      have hnext : v.scan = (.ok z', v') := hnext
      obtain ⟨r, s', v', hs, hv, -⟩ | ⟨e, s', hs, he⟩ := scan_agrees h
      · rw [hnext] at hv
        cases hv
        exact absurd hend (h.kind_scan hs)
      · exact ⟨[], e, List.nil_prefix, .failed hs, he⟩
  | failed => cases hlast
  | @token v v' t ts last hnext ht _ ih =>
      have hnext : v.scan = (.ok t, v') := hnext
      obtain ⟨r, s', v', hs, hv, h'⟩ | ⟨e, s', hs, he⟩ := scan_agrees h
      · rw [hnext] at hv
        cases hv
        obtain ⟨us, e, hprefix, hhands, he⟩ := ih h' hlast
        exact ⟨t :: us, e, List.cons_prefix_cons.2 ⟨rfl, hprefix⟩,
          .token hs ht hhands, he⟩
      · exact ⟨[], e, List.nil_prefix, .failed hs, he⟩

end Scanner

end Monkey
