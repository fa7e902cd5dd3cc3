/-
Recovery has no memory. After any number of rounds, whatever they gave,
reading goes on as it would from a fresh window at the same token
(`ofText_resumed`): what was read and what was recorded before changes
nothing of what is read behind it.

A window that has recorded errors differs from the one it started as in these
errors, and in that it has moved on (`Window.exists_place`). What it sees does
not depend on the errors (`Window.Sees.of_place`). And a scanner that was
asked for some tokens of a text hands out the others, from where they stand,
however often it is asked behind the last (`Scanner.hands_scans`). So the
outcomes of both are the same.
-/
import Monkey.Proofs.Program.Outcomes
import Monkey.Proofs.Token.Lossless
import Monkey.Tree.Display

namespace Monkey

-- ============================================================== scanners

namespace Scanner

variable {s : Scanner} {text : List Char} {ts : List Token} {e : Token}

/-- A call leaves what stands behind the first token; at the end of a text it
leaves the end. -/
theorem cuts_scan (h : s.Faces text) (hcuts : Cuts s.here text ts e) :
    ∃ rest, s.scan.2.Faces rest ∧ Cuts s.scan.2.here rest ts.tail e := by
  generalize hp : s.here = p at hcuts
  cases hcuts with
  | ended hblanks =>
      obtain ⟨s', hscan, hf, hh⟩ := scan_of_blanks h hblanks
      rw [hscan]
      refine ⟨[], hf, ?_⟩
      rw [hh, hp]
      exact .ended (by simp)
  | token hblanks hlexeme later =>
      obtain ⟨s', hscan, hf, hh⟩ := scan_of_lexeme hblanks hlexeme h
      rw [hscan]
      refine ⟨_, hf, ?_⟩
      rw [hh, hp]
      exact later

/-- After so many calls the scanner of a text hands out the tokens behind as
many, and then the same end of the input. -/
theorem hands_scans (h : s.Faces text) (hcuts : Cuts s.here text ts e)
    (n : Nat) : Hands (s.scans n) (ts.drop n) (.ok e) := by
  induction n generalizing s text ts with
  | zero => exact hands_of_cuts h hcuts
  | succ n ih =>
      obtain ⟨rest, hf, hcuts⟩ := cuts_scan h hcuts
      rw [← List.drop_tail]
      exact ih hf hcuts

end Scanner

namespace Window

variable {σ : Type} [TokenSupply σ]

-- ================================================================ rounds

/-- So many rounds of reading: the statements they give, and the window behind
them, in which the errors that they gave are recorded. At the end of the
input there is no further round. -/
def rounds : Nat → Window σ → List Statement × Window σ
  | 0, w => ([], w)
  | n + 1, w =>
      if w.current.kind = .endOfInput then ([], w)
      else
        match w.statement with
        | (.ok s, w') =>
            let later := rounds n w'.slide
            (s :: later.1, later.2)
        | (.error e, w') => rounds n (w'.addError e).slide

section equations

variable {w w' : Window σ}

theorem rounds_of_end (h : w.current.kind = .endOfInput) (n : Nat) :
    w.rounds n = ([], w) := by
  cases n with
  | zero => rfl
  | succ n => rw [rounds, if_pos h]

theorem rounds_of_ok {s : Statement} (h : w.current.kind ≠ .endOfInput)
    (hs : w.statement = (.ok s, w')) (n : Nat) :
    w.rounds (n + 1) = (s :: (w'.slide.rounds n).1, (w'.slide.rounds n).2) := by
  rw [rounds, if_neg h, hs]

theorem rounds_of_error {e : ParseError} (h : w.current.kind ≠ .endOfInput)
    (hs : w.statement = (.error e, w')) (n : Nat) :
    w.rounds (n + 1) = (w'.addError e).slide.rounds n := by
  rw [rounds, if_neg h, hs]

end equations

/-- A program is what some rounds give and what is read behind them. -/
theorem statements_rounds (n : Nat) (w : Window σ) :
    w.statements = ((w.rounds n).1 ++ (w.rounds n).2.statements.1,
      (w.rounds n).2.statements.2) := by
  induction n generalizing w with
  | zero => rfl
  | succ n ih =>
      by_cases hend : w.current.kind = .endOfInput
      · rw [rounds_of_end hend]
        rfl
      · cases hs : w.statement with
        | mk outcome w' =>
            cases outcome with
            | ok s =>
                rw [rounds_of_ok hend hs, statements_of_ok hend hs, ih w'.slide]
                rfl
            | error e =>
                rw [rounds_of_error hend hs, statements_of_error hend hs]
                exact ih _

-- ================================================================= places

/-- Where a window stands, whatever is recorded in it: the tokens in sight,
and what is still to come. -/
def place (w : Window σ) : Token × Token × σ := (w.current, w.ahead, w.supply)

section places

variable {w v : Window σ}

/-- Moving on does not depend on the errors. -/
theorem place_slide (h : v.place = w.place) : v.slide.place = w.slide.place := by
  obtain ⟨current, ahead, supply, errors⟩ := w
  obtain ⟨current', ahead', supply', errors'⟩ := v
  cases h
  cases hnext : TokenSupply.next supply with
  | mk item behind =>
      simp only [slide, pull, hnext]
      by_cases hahead : ahead.is .endOfInput
      · rw [if_pos hahead, if_pos hahead]
        rfl
      · rw [if_neg hahead, if_neg hahead]
        cases item <;> rfl

/-- However far. -/
theorem place_slides (h : v.place = w.place) (n : Nat) :
    (v.slides n).place = (w.slides n).place := by
  induction n generalizing w v with
  | zero => exact h
  | succ n ih => exact ih (place_slide h)

/-- Nor does what a window sees. -/
theorem Sees.of_place {ts : List Token} {last : Item} (hw : w.Sees ts last)
    (h : v.place = w.place) : v.Sees ts last := by
  obtain ⟨hcurrent, hrest⟩ := Prod.mk.inj h
  obtain ⟨hahead, hsupply⟩ := Prod.mk.inj hrest
  exact ⟨hcurrent.trans hw.current, hahead.trans hw.ahead, hw.tokens,
    hw.closing, hsupply ▸ hw.supply⟩

end places

/-- Rounds only move a window on. -/
theorem exists_place (n : Nat) (w : Window σ) :
    ∃ k, (w.rounds n).2.place = (w.slides k).place := by
  induction n generalizing w with
  | zero => exact ⟨0, rfl⟩
  | succ n ih =>
      by_cases hend : w.current.kind = .endOfInput
      · rw [rounds_of_end hend]
        exact ⟨0, rfl⟩
      · cases hs : w.statement with
        | mk outcome w' =>
            obtain ⟨m, hm⟩ := statement_moves w
            obtain rfl : w' = w.slides m := by rw [← hm, hs]
            have hbehind (k : Nat) :
                (w.slides m).slide.slides k = w.slides (m + (k + 1)) :=
              (slides_add w m (k + 1)).symm
            cases outcome with
            | ok s =>
                obtain ⟨k, hk⟩ := ih (w.slides m).slide
                rw [hbehind] at hk
                rw [rounds_of_ok hend hs]
                exact ⟨m + (k + 1), hk⟩
            | error e =>
                -- the error is recorded before the window moves on
                obtain ⟨k, hk⟩ := ih ((w.slides m).addError e).slide
                have hadded : ((w.slides m).addError e).place
                    = (w.slides m).place := rfl
                have hclear := place_slides (place_slide hadded) k
                rw [hclear, hbehind] at hk
                rw [rounds_of_error hend hs]
                exact ⟨m + (k + 1), hk⟩

end Window

-- ========================================================== source texts

/-- Reading goes on behind any number of rounds as if nothing stood before.
Whatever the rounds gave, the window behind them stands some `k` tokens behind
the first. For every such number its current token is the one of that index,
the end of the input being repeated; and a program is read as what the rounds
gave, and then as what is read from a fresh window over a scanner of the same
text that was asked for `k` tokens. -/
theorem ofText_resumed (src : String) (n : Nat) :
    let start := Window.start (Scanner.ofText src)
    let reached := start.rounds n
    (∃ k, reached.2.place = (start.slides k).place)
      ∧ ∀ k, reached.2.place = (start.slides k).place →
        let whole := Program.ofSource (.ofText src)
        let rest := Program.read ((Scanner.ofText src).scans k)
        (∃ ts e, tokenize src = .ok (ts ++ [e])
            ∧ reached.2.current = ts.getD k e)
          ∧ whole.program.statements = reached.1 ++ rest.program.statements
          ∧ whole.errors = reached.2.errors ++ rest.errors := by
  intro start reached
  obtain ⟨ts, e, hhands, hcuts⟩ := hands_ofText src
  refine ⟨Window.exists_place n start, ?_⟩
  intro k hk whole rest
  have hstart : start.Sees ts (.ok e) := Window.sees_start hhands
  have hw := (hstart.slides k).of_place hk
  have hfresh := Scanner.hands_scans (faces_ofText src) hcuts k
  have houtcomes := Window.outcomes_congr hw (Window.sees_start hfresh)
  obtain ⟨hstatements, herrors⟩ := Window.statements_outcomes hw
  obtain ⟨hstatements', herrors'⟩ := Program.read_outcomes hfresh
  rw [houtcomes] at hstatements' herrors'
  have hrounds := start.statements_rounds n
  refine ⟨⟨ts, e, tokenize_of_hands hhands, ?_⟩, ?_, ?_⟩
  · rw [hw.current, List.headD_eq_head?_getD, List.head?_drop,
      List.getD_eq_getElem?_getD]
    rfl
  · rw [hstatements', ← hstatements]
    exact congrArg Prod.fst hrounds
  · rw [herrors', ← herrors e rfl]
    exact congrArg (fun r => r.2.errors) hrounds

/-- Four rounds, two of which gave an error, come to the last name of a text;
from there on there is that name and no error. -/
theorem ofText_resumed_behind_errors :
    let src := "let 1; x fn y"
    let start := Window.start (Scanner.ofText src)
    let reached := start.rounds 4
    reached.1.map Statement.text = ["1", "x"] ∧ reached.2.errors.length = 2
      ∧ ∃ k, reached.2.place = (start.slides k).place
        ∧ let rest := Program.read ((Scanner.ofText src).scans k)
          rest.program.text = "y" ∧ rest.errors = [] := by
  intro src start reached
  let whole := Program.ofSource (.ofText src)
  have hreached : reached.1.map Statement.text = ["1", "x"]
      ∧ reached.2.errors.length = 2 := by
    decide +kernel
  have hwhole : whole.program.statements.map Statement.text = ["1", "x", "y"]
      ∧ whole.errors.length = 2 := by
    decide +kernel
  obtain ⟨⟨k, hk⟩, hresumed⟩ := ofText_resumed src 4
  obtain ⟨-, hstatements, herrors⟩ := hresumed k hk
  refine ⟨hreached.1, hreached.2, k, hk, ?_, ?_⟩
  · have htexts := congrArg (List.map Statement.text) hstatements
    rw [List.map_append, hreached.1, hwhole.1] at htexts
    have htexts : ["1", "x"] ++ ["y"] = ["1", "x"] ++ _ := htexts
    rw [Program.text, ← List.append_cancel_left htexts]
    rfl
  · have hlength := congrArg List.length herrors
    rw [List.length_append, hreached.2, hwhole.2] at hlength
    exact List.eq_nil_of_length_eq_zero (by omega)

end Monkey
