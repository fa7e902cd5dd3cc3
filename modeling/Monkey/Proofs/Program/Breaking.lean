/-
A source that fails. Reading a program from it goes on as if its input had
ended behind the last token before the failure, and the failure is recorded
once, at that token (`ofSource_of_failure`). Nothing that was read is lost,
and no part of a token that was not.

The errors of a reading are those of its statements and the failure, and no
statement has the failure as its error; so the two can be told apart
(`Window.errors_statements_filter`). What the statements are, and what their
errors are, depends on the tokens before the failure alone, and those are
the tokens of the text up to the last of them.
-/
import Monkey.Proofs.Program.Accounting
import Monkey.Proofs.Program.Causes
import Monkey.Proofs.Program.Streaming
import Monkey.Proofs.Token.Breaking
import Monkey.Proofs.Token.Seam

namespace Monkey

open Text TokenSupply

-- =============================================================== errors

/-- Whether an error is a failure of the source. -/
def ParseError.isReadFailure (e : ParseError) : Bool := e.cause.isReadFailure

/-- What is still to be recorded is a failure of the source, if anything. -/
theorem Item.filter_pending (last : Item) (ts : List Token) :
    (last.pending ts).filter (!·.isReadFailure) = [] := by
  match ts with
  | [] | [_] => rfl
  | _ :: _ :: _ => cases last <;> rfl

namespace Window

variable {σ : Type} [TokenSupply σ] {w w' : Window σ} {ts : List Token}
  {last : Item}

/-- Whatever else is recorded does not change with what is still to be. -/
theorem filter_of_pending {errors errors' : Diagnosis} {ts ts' : List Token}
    (h : errors' ++ last.pending ts' = errors ++ last.pending ts) :
    errors'.filter (!·.isReadFailure) = errors.filter (!·.isReadFailure) := by
  have := congrArg (List.filter (!·.isReadFailure)) h
  rwa [List.filter_append, List.filter_append, Item.filter_pending,
    Item.filter_pending, List.append_nil, List.append_nil] at this

/-- Of the errors of a reading, the failures of the source are those that
were recorded and that were still to be; all others are the errors of the
rounds. -/
theorem errors_statements_filter (hw : w.Sees ts last) :
    w.statements.2.errors.filter ParseError.isReadFailure
        = (w.errors ++ last.pending ts).filter ParseError.isReadFailure
      ∧ w.statements.2.errors.filter (!·.isReadFailure)
        = w.errors.filter (!·.isReadFailure)
          ++ w.outcomes.filterMap Outcome.error? := by
  fun_induction statements w generalizing ts with
  | case1 w h =>
      obtain rfl := hw.current_eq_endOfInput_iff.1 h
      rw [outcomes_of_end h]
      exact ⟨congrArg _ (List.append_nil _).symm, (List.append_nil _).symm⟩
  | case2 w h s w' hs later =>
      rename_i ih
      have hmoves := (statement_moves w).trans (Moves.stay _).slide
      rw [hs] at hmoves
      obtain ⟨left, hw', hpending⟩ := hmoves.sees_pending hw
      obtain ⟨hfailures, hothers⟩ := ih hw'
      rw [outcomes_of_token h, hs]
      exact ⟨hfailures.trans (congrArg _ hpending),
        hothers.trans (congrArg (· ++ _) (filter_of_pending hpending))⟩
  | case3 w h e w' hs ih =>
      have hmoves := statement_moves w
      rw [hs] at hmoves
      obtain ⟨left, hw', hpending⟩ := hmoves.sees_pending hw
      have hlater := hw'.addError e
      obtain ⟨hfailures, hothers⟩ := ih hlater.slide
      have he : e.isReadFailure = false := by
        apply ParseError.Founded.isReadFailure_eq_false
        apply statement_founded (w := w)
        rw [hs]
      have hrecorded : (w'.addError e).slide.errors ++ last.pending left.tail
          = w'.errors ++ [e] ++ last.pending left := hlater.pending_slide
      rw [outcomes_of_token h, hs, outcomes_congr hlater.slide hw'.slide]
      constructor
      · calc (w'.addError e).slide.statements.2.errors.filter _
            = (w'.errors ++ [e] ++ last.pending left).filter _ :=
              hfailures.trans (congrArg _ hrecorded)
          _ = (w'.errors ++ last.pending left).filter _ := by simp [he]
          _ = (w.errors ++ last.pending ts).filter _ := congrArg _ hpending
      · calc (w'.addError e).slide.statements.2.errors.filter _
            = (w'.errors ++ [e]).filter _
                ++ (w'.addError e).slide.outcomes.filterMap Outcome.error? :=
              hothers.trans (congrArg (· ++ _) (filter_of_pending hrecorded))
          _ = w.errors.filter _ ++ [e]
                ++ (w'.addError e).slide.outcomes.filterMap Outcome.error? := by
              rw [List.filter_append, filter_of_pending hpending]
              simp [he]
          _ = w.errors.filter _
                ++ (.error e :: (w'.addError e).slide.outcomes).filterMap
                  Outcome.error? := List.append_assoc _ _ _

end Window

-- ================================================ ends of the input

namespace Token

/-- The span of a token, but of the end of the input this one. -/
def spanWithEnd (stop : Span) (t : Token) : Span :=
  if t.kind = .endOfInput then stop else t.span

/-- Any other token stays where it is. -/
theorem respan_spanWithEnd {stop : Span} {t : Token}
    (h : t.kind ≠ .endOfInput) : t.respan (spanWithEnd stop) = t :=
  respan_eq_self (if_neg h)

end Token

/-- The end of the input stands where it was put last. -/
theorem ParseError.respan_respan_spanWithEnd (stop stop' : Span)
    (e : ParseError) :
    (e.respan (Token.spanWithEnd stop)).respan (Token.spanWithEnd stop')
      = e.respan (Token.spanWithEnd stop') := by
  obtain ⟨cause, t⟩ := e
  by_cases h : t.kind = .endOfInput
  · simp [respan, Token.respan, Token.spanWithEnd, h]
  · simp only [respan, Token.respan_spanWithEnd h]

/-- Windows that see the same tokens and then an end have the same before
them, but for where the end is. -/
theorem Window.token_spanWithEnd {σ σ' : Type} [TokenSupply σ]
    [TokenSupply σ'] {w : Window σ} {v : Window σ'} {ts : List Token}
    {last last' : Item} (hw : w.Sees ts last) (hv : v.Sees ts last')
    (hliteral : last'.closing.literal = last.closing.literal) (n : Nat) :
    v.token n
      = (w.token n).respan (Token.spanWithEnd last'.closing.span) := by
  rw [hw.token, hv.token]
  cases hn : ts[n]? with
  | none =>
      have hkind := hw.closing
      have hkind' := hv.closing
      generalize last.closing = z at hliteral hkind ⊢
      generalize last'.closing = z' at hliteral hkind' ⊢
      obtain ⟨kind, literal, span⟩ := z
      obtain ⟨kind', literal', span'⟩ := z'
      cases hkind
      cases hkind'
      cases hliteral
      rfl
  | some t =>
      have ht := hw.tokens t (List.mem_of_getElem? hn)
      exact (Token.respan_spanWithEnd ht).symm

-- =============================================================== reading

namespace Program

variable {σ σ' : Type} [TokenSupply σ] [TokenSupply σ'] {s : σ} {s' : σ'}
  {ts : List Token}

/-- A statement is written in a stretch of what the supply handed out. -/
theorem exists_written {last : Item} (h : Hands s ts last) {st : Statement}
    (hst : st ∈ (read s).program.statements) :
    ∃ own, st.Written own ∧ own <:+: ts := by
  have hw := Window.sees_start h
  have hstatements : (read s).program.statements = _ :=
    (Window.statements_outcomes hw).1
  rw [hstatements, Outcome.mem_filterMap_statement?] at hst
  exact (Window.outcomes_rounds hw).exists_written hw.closing hst

/-- No statement has a token at the end of the input, so wherever that is,
the statements are the same. -/
theorem respan_statements {last : Item} (h : Hands s ts last) (stop : Span) :
    (read s).program.statements.map
        (Statement.respan (Token.spanWithEnd stop))
      = (read s).program.statements := by
  have htokens := h.ne_endOfInput
  have hself : ∀ st ∈ (read s).program.statements,
      st.respan (Token.spanWithEnd stop) = id st := by
    intro st hst
    obtain ⟨own, hwritten, hwithin⟩ := exists_written h hst
    exact hwritten.respan_eq_self fun t ht =>
      if_neg (htokens t (hwithin.subset ht))
  rw [List.map_congr_left hself, List.map_id]

/-- What is read from any supply. What ends it is recorded at the last token
before it, if it is a failure; all other errors, and the statements, are
those of the rounds. -/
theorem read_of_hands {last : Item} (h : Hands s ts last) :
    (read s).program.statements
        = (Window.start s).outcomes.filterMap Outcome.statement?
      ∧ (read s).errors.filter ParseError.isReadFailure
        = last.diagnosis (ts.getLastD (.endOfInput .origin))
      ∧ (read s).errors.filter (!·.isReadFailure)
        = (Window.start s).outcomes.filterMap Outcome.error? := by
  have hw := Window.sees_start h
  have hpending := Window.pending_start h
  obtain ⟨hfailures, hothers⟩ := Window.errors_statements_filter hw
  have hall (t : Token) : (last.diagnosis t).filter ParseError.isReadFailure
      = last.diagnosis t := by
    cases last <;> rfl
  rw [hpending, hall] at hfailures
  have hnone : (Window.start s).errors.filter (!·.isReadFailure) = [] := by
    have := congrArg (List.filter (!·.isReadFailure)) hpending
    rw [List.filter_append, Item.filter_pending, List.append_nil] at this
    rw [this]
    cases last <;> rfl
  rw [hnone] at hothers
  exact ⟨(Window.statements_outcomes hw).1, hfailures, hothers⟩

/-- The errors of the rounds are those that are no failure of the
source. -/
theorem mem_errors_read {last : Item} (h : Hands s ts last) {e : ParseError}
    (he : e.isReadFailure = false) :
    e ∈ (read s).errors ↔ .error e ∈ (Window.start s).outcomes := by
  rw [← Outcome.mem_filterMap_error?, ← (read_of_hands h).2.2,
    List.mem_filter, he]
  exact (and_iff_left rfl).symm

/-- A supply that fails and one that ends behind the same tokens are read as
the same program. The failure is recorded at the last of the tokens; without
it the errors are the same but for the place of the end of the input. -/
theorem read_failure_congr {e : ScanError} {z : Token}
    (h : Hands s ts (.error e)) (h' : Hands s' ts (.ok z))
    (hz : z.literal = "") :
    (read s).program = (read s').program
      ∧ (read s).errors.filter ParseError.isReadFailure
        = [⟨.ofScanError e, ts.getLastD (.endOfInput .origin)⟩]
      ∧ ((read s).errors.filter (!·.isReadFailure)).map
          (ParseError.respan (Token.spanWithEnd .origin))
        = (read s').errors.map
          (ParseError.respan (Token.spanWithEnd .origin)) := by
  obtain ⟨hstatements, hfailures, hothers⟩ := read_of_hands h
  obtain ⟨hstatements', herrors'⟩ := read_outcomes h'
  have houtcomes := Window.outcomes_mirror (Window.token_spanWithEnd
    (Window.sees_start h) (Window.sees_start h') hz)
  rw [houtcomes] at hstatements' herrors'
  rw [Outcome.filterMap_statement?_respan, ← hstatements,
    respan_statements h] at hstatements'
  rw [Outcome.filterMap_error?_respan, ← hothers] at herrors'
  refine ⟨congrArg Program.mk hstatements'.symm, hfailures, ?_⟩
  rw [herrors', List.map_map]
  apply List.map_congr_left
  intro error _
  exact (error.respan_respan_spanWithEnd _ _).symm

end Program

-- ======================================================= source texts

/-- A failure ends the input behind the last token before it. Whatever text
a source shows before it fails, there is a beginning of the text, up to the
last token that was read, such that the program is that of the beginning.
The failure is recorded once, at that token, or else at an end of the input
before everything. Without it the errors are those of the beginning, but
for the place of the end of the input. -/
theorem ofSource_of_failure {source : ByteSource} {text : String}
    {f : ReadFailure} {later : List Signal}
    (h : source.signals
      = (Utf8.encode text.toList).map .byte ++ .failed f :: later) :
    ∃ (ts : List Token) (e : ScanError) (before behind : String),
      (Scanner.ofSource source).items.1 = ts.map .ok ++ [.error e]
        ∧ e.failure = f
        ∧ text = before ++ behind
        ∧ before.utf8ByteSize = (ts.getLast?.map (·.span.stop.offset)).getD 0
        ∧ (Program.ofSource source).program
          = (Program.ofSource (.ofText before)).program
        ∧ (Program.ofSource source).errors.filter ParseError.isReadFailure
          = [⟨.readFailed f.kind f.text, ts.getLastD (.endOfInput .origin)⟩]
        ∧ ((Program.ofSource source).errors.filter (!·.isReadFailure)).map
            (ParseError.respan (Token.spanWithEnd .origin))
          = (Program.ofSource (.ofText before)).errors.map
            (ParseError.respan (Token.spanWithEnd .origin)) := by
  obtain ⟨us, z, hhands, hcuts⟩ := hands_ofText text
  have hpair : (Coupling.untilFailure f).Pairs source (.ofText text) :=
    ⟨_, later, h, List.append_nil _⟩
  obtain ⟨ts, e, ⟨vs, rfl⟩, hsource, rfl⟩ :=
    (Scanner.coupled_ofSource hpair).exists_hands hhands
  obtain ⟨before, z', ⟨behind, hsplit⟩, hbefore, hstop⟩ :=
    hcuts.exists_beginning
  have htext : Hands (Scanner.ofText (.ofList before)) ts (.ok z') := by
    apply hands_of_cuts (faces_ofText _)
    rwa [String.toList_ofList]
  refine ⟨ts, e, .ofList before, .ofList behind,
    Scanner.items_of_hands rfl hsource, rfl, ?_, ?_,
    Program.read_failure_congr hsource htext hbefore.endOfInput.2⟩
  · rw [← String.ofList_append, hsplit, String.ofList_toList]
  · have hoffset := congrArg Position.offset hstop
    rw [offset_afterAll] at hoffset
    rw [← Nat.zero_add (String.ofList before).utf8ByteSize]
    refine hoffset.trans ?_
    cases ts.getLast? <;> rfl

/-- The source fails in the middle of an integer, and would have gone on
with it. The failure is recorded at the equals sign before the integer, and
the program is that of the text up to the equals sign. -/
theorem ofSource_of_failure_integer :
    let gone : ReadFailure := ⟨.connectionReset, some "gone"⟩
    let source : ByteSource := .ofEvents [.data [0x61, 0x3B, 0x6C, 0x65],
      .failed ⟨.interrupted, none⟩, .data [0x74, 0x20, 0x78, 0x3D, 0x31],
      .failed gone, .data [0x32]]
    let equals : Token := ⟨.assign, "=", ⟨⟨7, 1, 8⟩, ⟨8, 1, 9⟩⟩⟩
    source.signals
        = (Utf8.encode "a;let x=1".toList).map .byte
          ++ [.failed gone, .byte 0x32]
      ∧ (Program.ofSource source).errors
        = [⟨.readFailed .connectionReset "gone", equals⟩,
          ⟨.noOperand .endOfInput, .endOfInput ⟨⟨8, 1, 9⟩, ⟨9, 1, 10⟩⟩⟩]
      ∧ ∃ before behind : String, "a;let x=1" = before ++ behind
        ∧ (Program.ofSource source).program
          = (Program.ofSource (.ofText before)).program
        ∧ (Program.ofSource source).errors.filter ParseError.isReadFailure
          = [⟨.readFailed .connectionReset "gone", equals⟩] := by
  intro gone source equals
  have h : source.signals = (Utf8.encode "a;let x=1".toList).map .byte
      ++ [.failed gone, .byte 0x32] := by
    decide
  have herrors : (Program.ofSource source).errors
      = [⟨.readFailed .connectionReset "gone", equals⟩,
        ⟨.noOperand .endOfInput, .endOfInput ⟨⟨8, 1, 9⟩, ⟨9, 1, 10⟩⟩⟩] := by
    decide +kernel
  obtain ⟨ts, e, before, behind, -, -, htext, -, hprogram, -⟩ :=
    ofSource_of_failure h
  exact ⟨h, herrors, before, behind, htext, hprogram, by rw [herrors]; rfl⟩

end Monkey
