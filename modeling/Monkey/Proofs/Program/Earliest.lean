/-
An error is found at the first token at which there is one
(`ofSource_earliest`). The tokens before that of the first error are the
beginning of a program (`Viable`), and with it they are the beginning of
none.

Up to the first error the rounds of a reading are statements, so all
tokens before it were due one after another from the beginning on
(`Rounds.exists_halts`). What is due then can always be supplied by a few
more tokens (`Due.completion`); and a token that is not due is not made
good by anything behind it.
-/
import Monkey.Proofs.Program.Acceptance
import Monkey.Proofs.Token.Layout

namespace Monkey

-- =============================================================== tokens

/-- These tokens are read as a program, without an error. -/
def Sound (ts : List Token) : Prop :=
  (Program.read (ts.map Except.ok : List Item)).errors = []

/-- Some text that is read without an error starts with these tokens. -/
def Viable (ts : List Token) : Prop :=
  ∃ text more e, tokenize text = .ok (ts ++ more ++ [e])
    ∧ (Program.ofSource (.ofText text)).errors = []

/-- A list of tokens hands them out up to the end of the input. -/
theorem hands_of_tokens (ts : List Token) :
    ∃ e, Hands (ts.map Except.ok : List Item)
      (ts.takeWhile (·.kind ≠ .endOfInput)) (.ok e) := by
  induction ts with
  | nil => exact ⟨_, .ended rfl rfl⟩
  | cons t ts ih =>
      by_cases ht : t.kind = .endOfInput
      · rw [List.takeWhile_cons_of_neg (by simpa using ht)]
        exact ⟨t, .ended rfl ht⟩
      · obtain ⟨e, hlater⟩ := ih
        rw [List.takeWhile_cons_of_pos (by simpa using ht)]
        exact ⟨e, .token rfl ht hlater⟩

/-- Tokens are sound if those before the end of the input make up a
program. -/
theorem sound_append_iff {ts : List Token} (us : List Token)
    (h : ∀ t ∈ ts, t.kind ≠ .endOfInput) :
    Sound (ts ++ us) ↔ Due.statement.Accepts
      (ts ++ us.takeWhile (·.kind ≠ .endOfInput)) := by
  obtain ⟨e, hhands⟩ := hands_of_tokens (ts ++ us)
  have hts (t : Token) (ht : t ∈ ts) :
      decide (t.kind ≠ .endOfInput) = true := decide_eq_true (h t ht)
  rw [List.takeWhile_append_of_pos hts] at hhands
  exact Program.errors_read_eq_nil_iff hhands

-- ================================================================ forms

/-- Among tokens of the same forms there is one of each form. -/
theorem exists_form_of_mem {ts us : List Token} {u : Token}
    (h : us.map Token.form = ts.map Token.form) (hu : u ∈ us) :
    ∃ t ∈ ts, t.form = u.form := by
  apply List.mem_map.1
  rw [← h]
  exact List.mem_map_of_mem hu

/-- A token is as legible as any other of its form. -/
theorem Token.legible_of_form {t u : Token} (hform : u.form = t.form)
    (h : t.Legible) : u.Legible := by
  obtain ⟨hkind, hliteral⟩ := Prod.mk.inj hform
  intro hinteger
  rw [hliteral]
  exact h (hkind.symm.trans hinteger)

namespace Due

variable {q q' : Due} {ts us : List Token}

/-- What is due does not depend on where tokens stand. -/
theorem Follows.of_forms (h : q.Follows ts q')
    (hforms : us.map Token.form = ts.map Token.form) : q.Follows us q' := by
  have hkinds (ts : List Token) :
      ts.map (·.kind) = (ts.map Token.form).map Prod.fst := by
    rw [List.map_map]
    rfl
  refine ⟨?_, ?_⟩
  · rw [hkinds, hforms, ← hkinds]
    exact h.1
  · intro u hu
    obtain ⟨t, ht, hform⟩ := exists_form_of_mem hforms hu
    exact Token.legible_of_form hform.symm (h.2 t ht)

/-- Nor does it whether reading is stuck. -/
theorem Stuck.of_form {t u : Token} (h : q.Stuck t)
    (hform : u.form = t.form) : q.Stuck u := by
  refine h.imp ?_ ?_
  · intro hnone
    rwa [show u.kind = t.kind from congrArg Prod.fst hform]
  · exact mt (Token.legible_of_form hform.symm)

end Due

-- ========================================================= first errors

variable {z : Token} {ts : List Token} {e : ParseError}

/-- An error behind a statement is one behind the tokens of both. -/
theorem Halts.behind_statement {own behind before after : List Token}
    (hown : Due.statement.Follows own .more)
    (hcloses : Statement.Closes behind (before ++ after))
    (hnext : BinaryOperator.ofKind? (behind.headD z).kind = none)
    (h : Halts z before after e) :
    ∃ between, behind = between ++ after
      ∧ Halts z (own ++ between) after e := by
  obtain ⟨htoken, q, hbefore, hstuck, hend⟩ := h
  generalize hrest : before ++ after = rest at hcloses
  cases hcloses with
  | @semicolon t _ hkind =>
      have hsemicolon : Due.more.Follows [t] .statement :=
        .one hkind (by decide) rfl
      refine ⟨t :: before, by rw [← hrest, List.cons_append], htoken, q, ?_,
        hstuck, hend⟩
      exact hown.append (hsemicolon.append hbefore)
  | bare hne =>
      subst hrest
      refine ⟨before, rfl, htoken, ?_⟩
      have hstep (t : Token) (ht : (before ++ after).head? = some t) :
          Due.more.step t.kind = Due.statement.step t.kind := by
        refine Due.step_more (hne t ht) ?_
        rwa [List.headD_eq_head?_getD, ht] at hnext
      cases before with
      | nil =>
          cases hbefore.1
          obtain ⟨t, us, rfl⟩ := List.exists_cons_of_ne_nil (hend (Or.inl rfl))
          refine ⟨.more, by rwa [List.append_nil], ?_, fun _ => by simp⟩
          rw [Due.Stuck, List.headD_cons, hstep t rfl]
          exact hstuck
      | cons t us =>
          exact ⟨q, hown.append (hbefore.of_step (hstep t rfl)), hstuck, hend⟩

/-- Up to the first error of a reading every token was due. -/
theorem Rounds.exists_halts {outcomes : List Outcome}
    {es : List ParseError} (h : Rounds z ts outcomes)
    (herrors : outcomes.filterMap Outcome.error? = e :: es) :
    ∃ before after, ts = before ++ after ∧ Halts z before after e := by
  induction h with
  | ended => cases herrors
  | @round ts rest outcome outcomes h _ ih =>
      cases h with
      | statement _ hcloses hown hnext =>
          obtain ⟨before, after, rfl, hhalts⟩ := ih herrors
          obtain ⟨between, rfl, hhalts⟩ :=
            hhalts.behind_statement hown hcloses hnext
          exact ⟨_, after, (List.append_assoc _ _ _).symm, hhalts⟩
      | unexpected h =>
          cases herrors
          exact ⟨_, _, rfl, h⟩
      | noOperand h =>
          cases herrors
          exact ⟨_, _, rfl, h⟩

/-- No tokens behind one that is not due make it good. -/
theorem not_sound_of_stuck {before us : List Token} {t : Token} {q : Due}
    (hbefore : Due.statement.Follows before q) (hstuck : q.Stuck t)
    (htokens : ∀ u ∈ before ++ [t], u.kind ≠ .endOfInput)
    (h : (before ++ [t]).map Token.form <+: us.map Token.form) :
    ¬Sound us := by
  obtain ⟨forms, hforms⟩ := h
  obtain ⟨vs, behind, rfl, hvs, -⟩ := List.map_eq_append_iff.1 hforms.symm
  have hends : ∀ v ∈ vs, v.kind ≠ .endOfInput := by
    intro v hv
    obtain ⟨u, hu, hform⟩ := exists_form_of_mem hvs hv
    have hkind : u.kind = v.kind := congrArg Prod.fst hform
    rw [← hkind]
    exact htokens u hu
  rw [sound_append_iff _ hends]
  rw [List.map_append, List.map_singleton] at hvs
  obtain ⟨before', us, rfl, hbefore', hus⟩ := List.map_eq_append_iff.1 hvs
  obtain ⟨u, rfl, hu⟩ := List.map_eq_singleton_iff.1 hus
  rw [List.append_assoc, Due.accepts_append (hbefore.of_forms hbefore')]
  exact Due.not_accepts_of_stuck (z := t) (hstuck.of_form hu) (by simp)

-- ========================================================== completion

/-- A name behind a space. -/
def Printed.someName : Printed :=
  .spaced .identifier ['x'] (.letter (by decide))

/-- An equals sign behind a space. -/
def Printed.equalsSign : Printed := .spaced .assign _ (.fixed rfl)

namespace Due

open Printed

/-- A few tokens that supply what is due, up to where a program may
end. -/
def completion : Due → List Printed
  | statement | more => []
  | operand => [someName]
  | equals => [equalsSign, someName]
  | name => [someName, equalsSign, someName]

/-- Behind them a program may end. -/
theorem run_completion (q : Due) :
    ∃ q', q.run (q.completion.map Printed.kind) = some q' ∧ q'.Complete := by
  cases q with
  | statement => exact ⟨_, rfl, Or.inl rfl⟩
  | name | equals | operand | more => exact ⟨_, rfl, Or.inr rfl⟩

/-- No integer is among them. -/
theorem ne_integer_of_mem_completion (q : Due) :
    ∀ k ∈ q.completion.map Printed.kind, k ≠ .integer := by
  cases q <;> decide

/-- They have blanks between them. -/
theorem isChain_completion (q : Due) : q.completion.IsChain Separate := by
  cases q <;> decide

/-- And before them, so every token ends before them. -/
theorem endsBefore_completion (q : Due) (kind : TokenKind) :
    kind.EndsBefore (q.completion.flatMap Printed.text ++ []) := by
  cases q with
  | statement | more => exact .nil
  | name | equals | operand => exact .blank (c := ' ') (by decide)

/-- They are accepted, wherever they stand. -/
theorem accepts_completion {q : Due} {ts : List Token}
    (h : ts.map Token.form = q.completion.map Printed.form) :
    q.Accepts ts := by
  obtain ⟨q', hrun, hq'⟩ := q.run_completion
  have hkinds : ts.map Token.kind = q.completion.map Printed.kind := by
    have := congrArg (List.map Prod.fst) h
    rwa [List.map_map, List.map_map] at this
  refine ⟨q', ⟨by rwa [hkinds], ?_⟩, hq'⟩
  intro t ht
  apply Token.legible_of_kind
  apply q.ne_integer_of_mem_completion
  rw [← hkinds]
  exact List.mem_map_of_mem ht

end Due

/-- Where the first tokens of a text were due one after another, what is
due then can be supplied. -/
theorem viable_of_follows {text : List Char} {us : List Token} {q : Due}
    (h : Cuts .origin text (ts ++ us) z)
    (hfollows : Due.statement.Follows ts q) : Viable ts := by
  obtain ⟨before, e, -, hbefore⟩ := h.take
  obtain ⟨more, e', hmore, hforms⟩ := Printed.exists_cuts
    q.isChain_completion (List.forall_mem_nil _) (.afterAll .origin before)
  have hcuts := hbefore.append hmore
    (fun kind _ _ _ => q.endsBefore_completion kind)
  rw [← String.toList_ofList (l := _ ++ _)] at hcuts
  have hhands := hands_of_cuts (faces_ofText _) hcuts
  refine ⟨_, more, e', tokenize_of_hands hhands, ?_⟩
  refine (Program.errors_read_eq_nil_iff hhands).2 ?_
  exact (Due.accepts_append hfollows).2 (Due.accepts_completion hforms)

-- ======================================================= source texts

/-- The first error of a text is found at the earliest token. If that is
not the end of the input, the tokens before it can go on to those of a
text without an error, and no tokens that start with the same ones and
with it are read without one. If it is the end, the tokens of the text are
not read without an error, but can go on to those of a text that is. -/
theorem ofSource_earliest {src : String} {e : ParseError}
    {es : List ParseError}
    (h : (Program.ofSource (.ofText src)).errors = e :: es) :
    ∃ ts z, tokenize src = .ok (ts ++ [z]) ∧ z.kind = .endOfInput
      ∧ (e.token.kind ≠ .endOfInput → ∃ before behind,
          ts = before ++ e.token :: behind ∧ Viable before
            ∧ ∀ us : List Token,
              (before ++ [e.token]).map Token.form <+: us.map Token.form →
                ¬Sound us)
      ∧ (e.token.kind = .endOfInput →
          e.token = z ∧ ¬Sound ts ∧ Viable ts) := by
  obtain ⟨ts, z, outcomes, hhands, hcuts, hrounds, -, herrors⟩ :=
    Program.rounds_ofText src
  rw [h] at herrors
  obtain ⟨before, after, rfl, hhalts⟩ := hrounds.exists_halts herrors.symm
  obtain ⟨q, hbefore, hstuck, -⟩ := hhalts.due
  have htoken := hhalts.token
  have hviable : Viable before := viable_of_follows hcuts hbefore
  have htokens : ∀ u ∈ before ++ after, u.kind ≠ .endOfInput :=
    fun u hu => (hcuts.forall_token u hu).1
  refine ⟨_, z, tokenize_of_hands hhands, hcuts.endOfInput.1, ?_, ?_⟩
  · intro hkind
    cases after with
    | nil => exact absurd (htoken ▸ hcuts.endOfInput.1) hkind
    | cons t behind =>
        rw [List.headD_cons] at htoken hstuck
        subst htoken
        refine ⟨before, behind, rfl, hviable, ?_⟩
        intro us
        apply not_sound_of_stuck hbefore hstuck
        rw [← List.singleton_append, ← List.append_assoc] at htokens
        exact (List.forall_mem_append.1 htokens).1
  · intro hkind
    cases after with
    | nil =>
        refine ⟨htoken, ?_, by rwa [List.append_nil]⟩
        rw [sound_append_iff [] (List.forall_mem_append.1 htokens).1]
        exact hhalts.not_accepts
    | cons t behind =>
        rw [List.headD_cons] at htoken
        exact absurd hkind (htokens _ (by simp [htoken]))

/-- An integer out of range is the first error behind a sound statement,
and nothing behind it is looked at. -/
theorem ofSource_earliest_overflow :
    let src := "a; let x = 9223372036854775808 b"
    let t : Token := ⟨.integer, "9223372036854775808",
      ⟨⟨11, 1, 12⟩, ⟨30, 1, 31⟩⟩⟩
    (Program.ofSource (.ofText src)).errors
        = [⟨.invalidInteger "9223372036854775808" .tooLarge, t⟩]
      ∧ ∃ before behind z,
        tokenize src = .ok (before ++ t :: behind ++ [z]) ∧ Viable before
          ∧ ∀ us : List Token,
            (before ++ [t]).map Token.form <+: us.map Token.form →
              ¬Sound us := by
  intro src t
  have h : (Program.ofSource (.ofText src)).errors
      = [⟨.invalidInteger "9223372036854775808" .tooLarge, t⟩] := by
    decide +kernel
  obtain ⟨ts, z, htokenize, -, htoken, -⟩ := ofSource_earliest h
  obtain ⟨before, behind, rfl, hviable, hnot⟩ := htoken (by decide)
  exact ⟨h, before, behind, z, htokenize, hviable, hnot⟩

end Monkey
