/-
The order in which errors come out (`ofSource_errors_in_order`). A token can
be wrong in three ways, and they are found in turn: while it is ahead it is
not the token that must come next; then the window moves on to it, and the
source fails behind it; then it is the current token, and no operand. So an
error has its turn, by the place of its token and the stage at which it is
found there (`ParseError.FoundBefore`), and no two errors have the same.

What carries the argument is a mark that the window pushes before it. Behind
a move all that is recorded was found before the current token could be no
operand (`Window.Settled`). Each move keeps that (`Settled.slide`), a failure
that it meets included, because tokens stand one behind another
(`Hands.precedes_closing`). So what is found next is found in its turn, be it
at the current token or at the one ahead.
-/
import Monkey.Proofs.Program.Breaking
import Monkey.Proofs.Token.Spelled

namespace Monkey

-- ================================================================ turns

/-- When an error is found at its token: while that is ahead, as the window
moves on to it, or when it is the current one. -/
def Cause.stage : Cause → Nat
  | .unexpectedToken _ _ => 0
  | .readFailed _ _ => 1
  | .noOperand _ | .notAnOperator _ | .invalidInteger _ _ => 2

/-- The second stage is that of failures of the source. -/
theorem Cause.stage_eq_one_iff (c : Cause) :
    c.stage = 1 ↔ c.isReadFailure = true := by
  cases c <;> simp [stage, isReadFailure]

/-- There is no fourth stage. -/
theorem Cause.stage_le (c : Cause) : c.stage ≤ 2 := by
  cases c <;> simp [stage]

/-- The error is found before a token that starts at this offset comes to this
stage. -/
def ParseError.FoundBefore (e : ParseError) (offset stage : Nat) : Prop :=
  e.token.span.start.offset < offset
    ∨ (e.token.span.start.offset = offset ∧ e.cause.stage < stage)

namespace Diagnosis

/-- Each error is found before those that come behind it. -/
def InTurn (errors : Diagnosis) : Prop :=
  errors.Pairwise fun e f =>
    e.FoundBefore f.token.span.start.offset f.cause.stage

namespace InTurn

variable {errors : Diagnosis}

/-- An error before which all others are found comes last. -/
theorem concat (h : InTurn errors) {e : ParseError}
    (hbefore : ∀ f ∈ errors,
      f.FoundBefore e.token.span.start.offset e.cause.stage) :
    InTurn (errors ++ [e]) :=
  List.pairwise_append.2 ⟨h, List.pairwise_singleton _ e, fun f hf _ hg =>
    List.mem_singleton.1 hg ▸ hbefore f hf⟩

/-- Errors in their turn come in the order of their tokens. -/
theorem offset_le (h : InTurn errors) :
    errors.Pairwise fun e f =>
      e.token.span.start.offset ≤ f.token.span.start.offset := by
  refine List.Pairwise.imp ?_ h
  intro e f hef
  rcases hef with hlt | ⟨heq, -⟩
  · exact Nat.le_of_lt hlt
  · exact Nat.le_of_eq heq

/-- None comes twice. -/
theorem nodup (h : InTurn errors) : errors.Nodup := by
  refine List.Pairwise.imp ?_ h
  intro e f hef hsame
  subst hsame
  rcases hef with hlt | ⟨-, hlt⟩
  · exact Nat.lt_irrefl _ hlt
  · exact Nat.lt_irrefl _ hlt

/-- At one token there is an error a stage. So there are three at most, and
with three one of them is a failure of the source. -/
theorem shared (h : InTurn errors) (t : Token) :
    let found := errors.filter (·.token = t)
    found.length ≤ 3
      ∧ (found.length = 3 →
        (found.filter ParseError.isReadFailure).length = 1) := by
  intro found
  have hstages : found.Pairwise fun e f => e.cause.stage < f.cause.stage := by
    refine List.Pairwise.imp_of_mem ?_ (h.sublist List.filter_sublist)
    intro e f he hf hef
    have he : e.token = t := by simpa using (List.mem_filter.1 he).2
    have hf : f.token = t := by simpa using (List.mem_filter.1 hf).2
    rw [ParseError.FoundBefore, he, hf] at hef
    omega
  match found, hstages with
  | [], _ => simp
  | [_], _ => simp
  | [_, _], _ => simp
  | [a, b, c], hstages =>
      simp only [List.pairwise_cons, List.forall_mem_cons] at hstages
      obtain ⟨⟨hab, -⟩, ⟨hbc, -⟩, -⟩ := hstages
      have hc := c.cause.stage_le
      have hfailure (e : ParseError) :
          e.isReadFailure = true ↔ e.cause.stage = 1 :=
        e.cause.stage_eq_one_iff.symm
      have ha : ¬a.isReadFailure = true := by rw [hfailure]; omega
      have hb : b.isReadFailure = true := by rw [hfailure]; omega
      have hc : ¬c.isReadFailure = true := by rw [hfailure]; omega
      rw [List.filter_cons_of_neg ha, List.filter_cons_of_pos hb,
        List.filter_cons_of_neg hc]
      exact ⟨Nat.le_refl 3, fun _ => rfl⟩
  | a :: b :: c :: d :: _, hstages =>
      simp only [List.pairwise_cons, List.forall_mem_cons] at hstages
      obtain ⟨⟨hab, -⟩, ⟨hbc, -⟩, ⟨hcd, -⟩, -⟩ := hstages
      have := d.cause.stage_le
      omega

end InTurn

end Diagnosis

-- =============================================================== tokens

namespace Token

/-- What is no operand is found so at the last stage. -/
theorem stage_of_operand {t : Token} {e : ParseError}
    (h : t.operand = .error e) : e.cause.stage = 2 := by
  unfold operand at h
  split at h
  · cases h
  · split at h <;> cases h
    rfl
  · cases h
    rfl

/-- These tokens stand one behind another, and `z` behind all of them. -/
def Ascend (ts : List Token) (z : Token) : Prop :=
  (ts ++ [z]).Pairwise Precedes

/-- So do the last of them. -/
theorem Ascend.of_suffix {ts us : List Token} {z : Token} (h : Ascend ts z)
    (hus : us <:+ ts) : Ascend us z :=
  List.Pairwise.sublist (hus.sublist.append (List.Sublist.refl [z])) h

end Token

namespace Window

variable {σ : Type} [TokenSupply σ] {w w' : Window σ} {ts : List Token}
  {last : Item}

-- ============================================================== findings

/-- The error is found at a token in sight: at the one ahead, of which a token
before it tells the kind, or at the current one. -/
inductive Finds (w : Window σ) (e : ParseError) : Prop
  | ahead (htoken : e.token = w.ahead) (hstage : e.cause.stage = 0)
      (hcurrent : w.current.kind ≠ .endOfInput)
  | current (htoken : e.token = w.current) (hstage : e.cause.stage = 2)

/-- An expression finds its error at the current token, as does what is
around it. -/
theorem finds_of_closing {α : Type} {f : Expr → α} {e : ParseError}
    (hw : w.Sees ts last)
    (h : (Except.map f w.closing.1, w.closing.2) = (.error e, w')) :
    w'.Finds e := by
  cases hclosing : w.closing with
  | mk r w₁ =>
  rw [hclosing] at h
  cases r with
  | ok value => cases h
  | error e₁ =>
      cases h
      obtain ⟨before, behind, -, hw', -, htoken, -⟩ := closing_error hw hclosing
      have hoperand := closing_operand (congrArg Prod.fst hclosing)
      exact .current (htoken.trans hw'.current.symm)
        (Token.stage_of_operand hoperand)

/-- A binding finds its error at the token ahead if that is not the name or
the equals sign. -/
theorem finds_of_binding {e : ParseError} (hw : w.Sees ts last)
    (hlet : w.current.kind = .letKeyword) (h : w.binding = (.error e, w')) :
    w'.Finds e := by
  by_cases hname : w.ahead.kind = .identifier
  · by_cases hequals : w.slide.ahead.kind = .assign
    · rw [binding_of_eq hname hequals] at h
      exact finds_of_closing hw.slide.slide.slide h
    · rw [binding_of_no_equals hname hequals] at h
      cases h
      refine .ahead rfl rfl ?_
      rw [current_slide, hname]
      decide
  · rw [binding_of_no_name hname] at h
    cases h
    refine .ahead rfl rfl ?_
    rw [hlet]
    decide

/-- The error of a statement is found at a token in sight. -/
theorem finds_of_statement {e : ParseError} (hw : w.Sees ts last)
    (h : w.statement = (.error e, w')) : w'.Finds e := by
  by_cases hlet : w.current.kind = .letKeyword
  · rw [statement_of_let hlet] at h
    exact finds_of_binding hw hlet h
  · by_cases hreturn : w.current.kind = .returnKeyword
    · rw [statement_of_return hreturn, result_eq] at h
      exact finds_of_closing hw.slide h
    · rw [statement_of_ne hlet hreturn, bare_eq] at h
      exact finds_of_closing hw h

-- =============================================================== moving

/-- Errors are recorded in their turn, and each was found before the current
token could be no operand. -/
structure Settled (w : Window σ) : Prop where
  inTurn : w.errors.InTurn
  before : ∀ e ∈ w.errors, e.FoundBefore w.current.span.start.offset 2

/-- If all that is recorded was found before the source could fail behind the
token ahead, moving on to that token records nothing out of turn. -/
theorem settled_slide (h : w.errors.InTurn)
    (hbefore : ∀ e ∈ w.errors, e.FoundBefore w.ahead.span.start.offset 1) :
    w.slide.Settled := by
  have hlater : ∀ e ∈ w.errors,
      e.FoundBefore w.ahead.span.start.offset 2 := by
    intro e he
    have := hbefore e he
    unfold ParseError.FoundBefore at this ⊢
    omega
  by_cases hahead : w.ahead.kind = .endOfInput
  · rw [slide_of_end hahead]
    exact ⟨h, hlater⟩
  · rw [slide_of_token hahead, pull]
    split
    · exact ⟨h, hlater⟩
    · refine ⟨h.concat hbefore, ?_⟩
      intro f hf
      rcases List.mem_append.1 hf with hf | hf
      · exact hlater f hf
      · rw [List.mem_singleton.1 hf]
        exact Or.inr ⟨rfl, Nat.one_lt_two⟩

/-- A current token stands before the one ahead. -/
theorem Sees.current_precedes (hw : w.Sees ts last) (hne : ts ≠ [])
    (horder : Token.Ascend ts last.closing) :
    w.current.span.start.offset < w.ahead.span.start.offset := by
  have hprecedes : w.current.Precedes w.ahead := by
    rw [hw.current, hw.ahead]
    match ts, hne with
    | [_], _ => exact (List.pairwise_cons.1 horder).1 _ (by simp)
    | _ :: _ :: _, _ => exact (List.pairwise_cons.1 horder).1 _ (by simp)
  exact Nat.lt_of_lt_of_le hprecedes.start_lt_stop hprecedes.stop_le_start

/-- Moving on keeps a window settled, if tokens stand one behind another. At
the end of the input it changes nothing. -/
theorem Settled.slide (h : w.Settled) (hw : w.Sees ts last)
    (horder : Token.Ascend ts last.closing) :
    w.slide.Settled := by
  by_cases hne : ts = []
  · subst hne
    rw [slide_of_end (hw.ahead ▸ hw.closing)]
    refine ⟨h.inTurn, ?_⟩
    have hbefore := h.before
    rw [hw.current] at hbefore
    rwa [hw.ahead]
  · have hlt := hw.current_precedes hne horder
    refine settled_slide h.inTurn fun e he => ?_
    have := h.before e he
    unfold ParseError.FoundBefore at this ⊢
    omega

/-- However far it moves. -/
theorem Settled.slides (h : w.Settled) (hw : w.Sees ts last)
    (horder : Token.Ascend ts last.closing) (n : Nat) :
    (w.slides n).Settled := by
  induction n generalizing w ts with
  | zero => exact h
  | succ n ih =>
      exact ih (h.slide hw horder) hw.slide
        (horder.of_suffix (List.tail_suffix ts))

/-- What a settled window finds, at a token or at the end of the input behind
all tokens, is found in its turn. If there is a token to come to, the window
settles there. -/
theorem Settled.finds {e : ParseError} (h : w.Settled) (hw : w.Sees ts last)
    (horder : Token.Ascend ts last.closing)
    (he : w.Finds e) :
    (w.addError e).slide.errors.InTurn
      ∧ ((w.addError e).slide.current.kind ≠ .endOfInput →
        (w.addError e).slide.Settled) := by
  have hadded : (w.addError e).errors.InTurn := by
    refine h.inTurn.concat fun f hf => ?_
    have hbefore := h.before f hf
    cases he with
    | ahead htoken hstage hcurrent =>
        have hne := mt hw.current_eq_endOfInput_iff.2 hcurrent
        have hlt := hw.current_precedes hne horder
        rw [htoken, hstage]
        unfold ParseError.FoundBefore at hbefore ⊢
        omega
    | current htoken hstage =>
        rw [htoken, hstage]
        exact hbefore
  by_cases hne : ts = []
  · subst hne
    have hahead : w.ahead.kind = .endOfInput := hw.ahead ▸ hw.closing
    rw [slide_of_end (w := w.addError e) hahead]
    exact ⟨hadded, fun hcurrent => absurd hahead hcurrent⟩
  · have hsettled : (w.addError e).slide.Settled := by
      refine settled_slide hadded fun f hf => ?_
      have hlt := hw.current_precedes hne horder
      show f.FoundBefore w.ahead.span.start.offset 1
      rcases List.mem_append.1 hf with hf | hf
      · have hbefore := h.before f hf
        unfold ParseError.FoundBefore at hbefore ⊢
        omega
      · rw [List.mem_singleton.1 hf, ParseError.FoundBefore]
        cases he with
        | ahead htoken hstage _ => rw [htoken, hstage]; omega
        | current htoken hstage => rw [htoken, hstage]; omega
    exact ⟨hsettled.inTurn, fun _ => hsettled⟩

-- ============================================================== reading

/-- Errors come out in their turn. At the end of the input there are no
more. -/
theorem inTurn_statements (hw : w.Sees ts last)
    (horder : Token.Ascend ts last.closing)
    (hturn : w.errors.InTurn)
    (h : w.current.kind ≠ .endOfInput → w.Settled) :
    w.statements.2.errors.InTurn := by
  fun_induction statements w generalizing ts with
  | case1 => exact hturn
  | case2 w hend s w' hs later =>
      rename_i ih
      obtain ⟨n, hn⟩ := statement_moves w
      rw [hs] at hn
      subst hn
      have hsettled := (h hend).slides hw horder (n + 1)
      rw [← slide_slides] at hsettled
      exact ih (hw.slides n).slide (horder.of_suffix
        ((List.tail_suffix _).trans (List.drop_suffix n ts)))
        hsettled.inTurn fun _ => hsettled
  | case3 w hend e w' hs ih =>
      have hfinds := finds_of_statement hw hs
      obtain ⟨n, hn⟩ := statement_moves w
      rw [hs] at hn
      subst hn
      have hleft := horder.of_suffix (List.drop_suffix n ts)
      obtain ⟨hturn', hsettled'⟩ :=
        ((h hend).slides hw horder n).finds (hw.slides n) hleft hfinds
      exact ih ((hw.slides n).addError e).slide
        (hleft.of_suffix (List.tail_suffix _)) hturn' hsettled'

/-- At the beginning nothing is recorded but a failure, and that before
everything or at the first token. -/
theorem settled_start {s : σ} (h : Hands s ts last) :
    (start s).errors.InTurn
      ∧ ((start s).current.kind ≠ .endOfInput → (start s).Settled) := by
  have hblank : Hands (blank s).supply ts last := h
  obtain ⟨-, hahead, -⟩ := pull_of_hands hblank
  rw [start_eq]
  cases ts with
  | nil =>
      have hend : (blank s).pull.ahead.kind = .endOfInput :=
        hahead ▸ h.kind_closing
      rw [slide_of_end hend]
      refine ⟨?_, fun hcurrent => absurd hend hcurrent⟩
      show (blank s).pull.errors.InTurn
      rw [errors_pull_last hblank]
      cases last with
      | ok z => exact List.Pairwise.nil
      | error e => exact List.pairwise_singleton _ _
  | cons t ts =>
      have hnone : (blank s).pull.errors = [] := errors_pull_token hblank
      have hsettled : (blank s).pull.slide.Settled :=
        settled_slide (by rw [hnone]; exact List.Pairwise.nil)
          (by simp [hnone])
      exact ⟨hsettled.inTurn, fun _ => hsettled⟩

end Window

-- ============================================================== sources

/-- The end of the input stands behind all that a scanner hands out before
it, as does what stands in for it. -/
theorem Hands.precedes_closing {s : Scanner} {ts : List Token} {last : Item}
    (h : Hands s ts last) :
    s.here.offset ≤ last.closing.span.start.offset
      ∧ ∀ t ∈ ts, t.Precedes last.closing := by
  induction h with
  | @ended s s' e h _ =>
      have hspan := s.span_scan.1
      rw [show s.scan = _ from h] at hspan
      exact ⟨hspan, by simp⟩
  | @failed s s' e h =>
      have hspan := s.span_scan.1
      rw [show s.scan = _ from h] at hspan
      exact ⟨hspan, by simp⟩
  | @token s s' t ts last h ht _ ih =>
      obtain ⟨hstart, hstop, hroom⟩ := s.span_scan
      rw [show s.scan = _ from h] at hstart hstop hroom
      obtain ⟨hbehind, hlater⟩ := ih
      have hroom := hroom t rfl ht
      have hstop : t.span.stop.offset ≤ last.closing.span.start.offset := by
        rw [show t.span.stop = s'.here from hstop]
        exact hbehind
      refine ⟨?_, List.forall_mem_cons.2 ⟨⟨hroom, hstop⟩, hlater⟩⟩
      exact Nat.le_trans hstart
        (Nat.le_trans (Nat.le_of_lt hroom) hstop)

/-- The errors of every source come out in the order in which their tokens
start, and none of them twice. Three errors at most are pinned to one token,
and where there are three, exactly one is a failure of the source. -/
theorem ofSource_errors_in_order (source : ByteSource) :
    let errors := (Program.ofSource source).errors
    (errors.Pairwise fun e f =>
        e.token.span.start.offset ≤ f.token.span.start.offset)
      ∧ errors.Nodup
      ∧ ∀ t, let found := errors.filter (·.token = t)
        found.length ≤ 3
          ∧ (found.length = 3 →
            (found.filter ParseError.isReadFailure).length = 1) := by
  intro errors
  obtain ⟨ts, last, hhands⟩ :=
    TokenSupply.exists_hands (Scanner.ofSource source)
  have horder : Token.Ascend ts last.closing := by
    refine List.pairwise_append.2 ⟨hhands.precedes.2,
      List.pairwise_singleton _ _, ?_⟩
    intro t ht u hu
    rw [List.mem_singleton.1 hu]
    exact hhands.precedes_closing.2 t ht
  obtain ⟨hstart, hsettled⟩ := Window.settled_start hhands
  have hturn : errors.InTurn :=
    Window.inTurn_statements (Window.sees_start hhands) horder hstart hsettled
  exact ⟨hturn.offset_le, hturn.nodup, hturn.shared⟩

-- An asterisk that is no name, behind which the source fails, and that is no
-- operand either.
example : (Program.ofSource (.ofEvents [.data [0x6C, 0x65, 0x74, 0x20, 0x2A],
      .failed ⟨.timedOut, none⟩])).errors.map (·.cause.stage) = [0, 1, 2] := by
  decide +kernel

end Monkey
