/-
Reading a program while its tokens come in. The window asks its supply two
tokens ahead of what is read, from many places, and yet a reading draws the
same as whoever asks the supply again and again until it gives the end of
the input or fails: not less, since the supply that is left behind a window
does not change as it moves on (`Window.rest`), and not more, since nothing
is asked of it behind its last item.

A failure of the supply is recorded when the window comes to it, between
the errors of statements. What is recorded so far, together with what still
will be (`Item.pending`), is the same however far the window has moved. So
windows with the same before them record the same, and a reading depends on
the items alone (`Program.read_congr`).
-/
import Mathlib.Control.Monad.Basic
import Monkey.Proofs.Program.Outcomes
import Monkey.Proofs.Token.Drawing

namespace Monkey

open TokenSupply

-- ========================================================== appearances

namespace Item

/-- What can be seen of an item: a token, or the place, the kind and the
text of a failure. -/
def shown : Item → Except (Span × FailureKind × String) Token
  | .ok t => .ok t
  | .error e => .error (e.span, e.failure.kind, e.failure.text)

variable {last last' : Item}

/-- Items that look the same stand for the same end of the input. -/
theorem closing_of_shown (h : last'.shown = last.shown) :
    last'.closing = last.closing := by
  match last', last, h with
  | .ok _, .ok _, h => exact Except.ok.inj h
  | .error _, .error _, h =>
      exact congrArg (fun seen : Span × FailureKind × String =>
        Token.endOfInput seen.1) (Except.error.inj h)

/-- And the same is recorded of them. -/
theorem diagnosis_of_shown (h : last'.shown = last.shown) (t : Token) :
    last'.diagnosis t = last.diagnosis t := by
  match last', last, h with
  | .ok _, .ok _, _ => rfl
  | .error _, .error _, h =>
      exact congrArg (fun seen : Span × FailureKind × String =>
        [ParseError.mk (.readFailed seen.2.1 seen.2.2) t]) (Except.error.inj h)

/-- So is still to be recorded. -/
theorem pending_of_shown (h : last'.shown = last.shown) (ts : List Token) :
    last'.pending ts = last.pending ts := by
  match ts with
  | [] | [_] => rfl
  | _ :: _ :: _ => exact diagnosis_of_shown h _

end Item

namespace Window

variable {σ σ' : Type} [TokenSupply σ] [TokenSupply σ'] {w : Window σ}
  {v : Window σ'} {ts : List Token} {last last' : Item}

-- ========================================================= two windows

/-- Windows with the same before them that have recorded the same do so
after moving on. -/
theorem errors_slides_congr (hw : w.Sees ts last) (hv : v.Sees ts last')
    (hlast : last'.shown = last.shown) (herrors : v.errors = w.errors)
    (n : Nat) : (v.slides n).errors = (w.slides n).errors := by
  have h := (hv.pending_slides n).trans
    (herrors ▸ Item.pending_of_shown hlast ts ▸ (hw.pending_slides n).symm)
  rw [Item.pending_of_shown hlast] at h
  exact List.append_cancel_right h

/-- And they are read as the same statements, with the same errors. -/
theorem statements_congr {w : Window σ} {v : Window σ'} {ts : List Token}
    (hw : w.Sees ts last) (hv : v.Sees ts last')
    (hlast : last'.shown = last.shown) (herrors : v.errors = w.errors) :
    v.statements.1 = w.statements.1
      ∧ v.statements.2.errors = w.statements.2.errors := by
  have htoken (n : Nat) : v.token n = (w.token n).respan Token.span := by
    rw [hw.token, hv.token, Item.closing_of_shown hlast, Token.respan_span]
  by_cases hend : w.current.kind = .endOfInput
  · have hend' : v.current.kind = .endOfInput := by
      rw [← token_zero, htoken 0]
      exact hend
    rw [statements_of_end hend, statements_of_end hend']
    exact ⟨rfl, herrors⟩
  · have hend' : v.current.kind ≠ .endOfInput := by
      rw [← token_zero, htoken 0]
      exact hend
    obtain ⟨n, hn⟩ := exists_token_end w
    obtain ⟨m, hparallel⟩ :=
      statement_parallel (fun i _ => htoken i) (n := n) (Or.inr hn)
    have hleft := hparallel.left
    have hright := hparallel.right
    have hresult := hparallel.result.trans (Outcome.respan_span _)
    have hsize := size_round_lt hend
    cases hs : w.statement with
    | mk outcome w' =>
    cases hs' : v.statement with
    | mk outcome' v' =>
    simp only [hs, hs'] at hleft hright hresult hsize
    subst hleft hright hresult
    have herrors' := errors_slides_congr hw hv hlast herrors
    cases outcome' with
    | ok s =>
        rw [statements_of_ok hend hs, statements_of_ok hend' hs']
        obtain ⟨hstatements, hlater⟩ := statements_congr (hw.slides m).slide
          (hv.slides m).slide hlast (by
            rw [slide_slides, slide_slides]
            exact herrors' (m + 1))
        exact ⟨congrArg (s :: ·) hstatements, hlater⟩
    | error e =>
        rw [statements_of_error hend hs, statements_of_error hend' hs']
        have : ((w.slides m).addError e).slide.size < w.size := by
          rwa [size_slide_addError]
        have hwe := (hw.slides m).addError e
        have hve := (hv.slides m).addError e
        exact statements_congr hwe.slide hve.slide hlast
          (errors_slides_congr hwe hve hlast
            (congrArg (· ++ [e]) (herrors' m)) 1)
termination_by w.size

-- ========================================================== the supply

/-- The supply behind its last item, when the window has come to it. -/
def rest (w : Window σ) : σ :=
  if w.ahead.kind = .endOfInput then w.supply else (draw w.supply).2

/-- Pulling a token leaves as much as there is to draw. -/
theorem rest_pull (w : Window σ) : w.pull.rest = (draw w.supply).2 := by
  unfold pull
  split
  · next t s h =>
    by_cases ht : t.kind = .endOfInput
    · rw [draw_of_end h ht, rest, if_pos ht]
    · rw [draw_of_token h ht, rest, if_neg ht]
  · next e s h =>
    rw [draw_of_error h]
    rfl

/-- Moving on does not change what will be left. -/
theorem rest_slide (w : Window σ) : w.slide.rest = w.rest := by
  by_cases h : w.ahead.kind = .endOfInput
  · rw [slide_of_end h]
    rfl
  · rw [slide_of_token h, rest_pull, rest, if_neg h]

/-- However far. -/
theorem Moves.rest {w w' : Window σ} (h : w.Moves w') : w'.rest = w.rest := by
  obtain ⟨n, rfl⟩ := h
  induction n generalizing w with
  | zero => rfl
  | succ n ih => rw [slides_succ, ih, rest_slide]

/-- Nor does reading a program. -/
theorem rest_statements (w : Window σ) : w.statements.2.rest = w.rest := by
  fun_induction statements w with
  | case1 => rfl
  | case2 w h s w' hs later ih =>
      have hmoves := statement_moves w
      rw [hs] at hmoves
      exact ih.trans (hmoves.trans (Moves.stay _).slide).rest
  | case3 w h e w' hs ih =>
      have hmoves := statement_moves w
      rw [hs] at hmoves
      rw [ih, rest_slide]
      exact hmoves.rest

/-- A program is read to its end. -/
theorem sees_statements {w : Window σ} {ts : List Token} {last : Item}
    (hw : w.Sees ts last) : w.statements.2.Sees [] last := by
  fun_induction statements w generalizing ts with
  | case1 w h =>
      obtain rfl := hw.current_eq_endOfInput_iff.1 h
      exact hw
  | case2 w h s w' hs later =>
      rename_i ih
      obtain ⟨left, hw'⟩ := sees_statement hw hs
      exact ih hw'.slide
  | case3 w h e w' hs ih =>
      obtain ⟨left, hw'⟩ := sees_statement hw hs
      exact ih (hw'.addError e).slide

end Window

namespace Program

variable {σ σ' : Type} [TokenSupply σ] [TokenSupply σ']

open Window

/-- A reading leaves the supply as drawing from it does. -/
theorem supply_read (s : σ) : (read s).supply = (draw s).2 := by
  obtain ⟨ts, last, h⟩ := exists_hands s
  have hend := sees_statements (sees_start h)
  calc (read s).supply
      = (start s).statements.2.rest :=
        (if_pos (hend.ahead ▸ h.kind_closing)).symm
    _ = (start s).rest := rest_statements _
    _ = (draw s).2 := by rw [start_eq, rest_slide, rest_pull]; rfl

/-- Nothing but the items that can be drawn from a supply, as far as they
can be seen, decides on what is read. -/
theorem read_congr {s : σ} {s' : σ'}
    (h : (draw s').1.map Item.shown = (draw s).1.map Item.shown) :
    (read s').program = (read s).program
      ∧ (read s').errors = (read s).errors := by
  obtain ⟨ts, last, hs⟩ := exists_hands s
  obtain ⟨ts', last', hs'⟩ := exists_hands s'
  rw [draw_of_hands hs, draw_of_hands hs', List.map_append, List.map_append,
    List.map_map, List.map_map] at h
  obtain ⟨htokens, hlast⟩ := List.append_inj' h rfl
  obtain rfl : ts' = ts :=
    (List.map_inj_right fun _ _ => Except.ok.inj).1 htokens
  replace hlast : last'.shown = last.shown := List.head_eq_of_cons_eq hlast
  have herrors : (start s').errors = (start s).errors := by
    have hstart := pending_start hs'
    rw [Item.diagnosis_of_shown hlast, ← pending_start hs,
      Item.pending_of_shown hlast] at hstart
    exact List.append_cancel_right hstart
  obtain ⟨hstatements, herrors⟩ := statements_congr (sees_start hs)
    (sees_start hs') hlast herrors
  exact ⟨congrArg Program.mk hstatements, herrors⟩

end Program

-- ============================================================= scanners

/-- A program is read off a scanner, be it fresh or after any calls, as if
its iterator had been asked for everything first. What is drawn from the
scanner are the items of the iterator, which are tokens up to and including
the first end of the input or failure, and it takes the same bytes. What is
read depends on these items alone, as far as they can be seen. -/
theorem read_draws_items (source : ByteSource) (n : Nat) :
    let s := (Scanner.ofSource source).scans n
    let recorded := Program.read (Recorder.mk s [])
    recorded.supply.handed = s.items.1
      ∧ recorded.supply.supply = (Program.read s).supply
      ∧ recorded.program = (Program.read s).program
      ∧ recorded.errors = (Program.read s).errors
      ∧ (∃ (ts : List Token) (last : Item),
          s.items.1 = ts.map .ok ++ [last]
            ∧ (∀ t ∈ ts, t.kind ≠ .endOfInput)
            ∧ ∀ z, last = .ok z → z.kind = .endOfInput)
      ∧ { (Program.read s).supply with ended := true } = s.items.2
      ∧ (Program.read s).supply.taken = s.items.2.taken
      ∧ ∀ (source' : ByteSource) (n' : Nat),
        let s' := (Scanner.ofSource source').scans n'
        s'.items.1.map Item.shown = s.items.1.map Item.shown →
          (Program.read s').program = (Program.read s).program
            ∧ (Program.read s').errors = (Program.read s).errors := by
  intro s recorded
  have hitems (source : ByteSource) (n : Nat) :=
    Scanner.items_eq_draw (Scanner.ended_scans (Scanner.ofSource source) n)
  have hs : s.items = _ := hitems source n
  have hrecorded : recorded.supply = ⟨(draw s).2, (draw s).1⟩ := by
    rw [Program.supply_read, Recorder.draw_recorder, List.nil_append]
  have hdrawn : (draw (Recorder.mk s [])).1 = (draw s).1 := by
    rw [Recorder.draw_recorder]
  obtain ⟨hprogram, herrors⟩ :=
    Program.read_congr (congrArg (List.map Item.shown) hdrawn)
  obtain ⟨ts, last, hhands⟩ := exists_hands s
  rw [hs, hrecorded, Program.supply_read]
  refine ⟨rfl, rfl, hprogram, herrors, ?_, rfl, rfl, ?_⟩
  · refine ⟨ts, last, draw_of_hands hhands, hhands.ne_endOfInput, ?_⟩
    intro z hz
    subst hz
    exact hhands.kind_closing
  · intro source' n' s' hshown
    apply Program.read_congr
    rwa [show s'.items = _ from hitems source' n'] at hshown

/-- Both sources time out behind a minus sign, the first with the standard
text for that and the second with one of its own, which is the same. The
scanners have given the name before the sign away. -/
theorem read_draws_items_timed_out :
    let s := (Scanner.ofSource (.ofEvents [.data [97, 32, 45],
      .failed ⟨.timedOut, none⟩, .data [98]])).scans 1
    let s' := (Scanner.ofSource (.ofEvents [.data [97],
      .failed ⟨.interrupted, none⟩, .data [32, 45],
      .failed ⟨.timedOut, some "timed out"⟩])).scans 1
    let minus : Token := ⟨.minus, "-", ⟨⟨2, 1, 3⟩, ⟨3, 1, 4⟩⟩⟩
    let last : Token := .endOfInput ⟨⟨3, 1, 4⟩, ⟨3, 1, 4⟩⟩
    s'.items.1.map Item.shown = s.items.1.map Item.shown
      ∧ (Program.read s').program = (Program.read s).program
      ∧ (Program.read s').errors = (Program.read s).errors
      ∧ (Program.read s).errors = [⟨.readFailed .timedOut "timed out", minus⟩,
          ⟨.noOperand .endOfInput, last⟩] := by
  intro s s' minus last
  have hshown : s'.items.1.map Item.shown = s.items.1.map Item.shown := by
    decide +kernel
  obtain ⟨-, -, -, -, -, -, -, hsame⟩ := read_draws_items (.ofEvents
    [.data [97, 32, 45], .failed ⟨.timedOut, none⟩, .data [98]]) 1
  obtain ⟨hprogram, herrors⟩ := hsame _ 1 hshown
  exact ⟨hshown, hprogram, herrors, by decide +kernel⟩

end Monkey
