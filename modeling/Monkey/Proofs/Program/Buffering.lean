/-
How bytes arrive is never noticed. Scripts that are the same once they are
made plain (`Event.plain`) have the same signals, so their sources are
coupled and nothing breaks off (`Coupling.sameSignals`). Whatever is then
asked for, be it characters, tokens or a program, is the same for both, and
as many bytes are taken (`alike_of_plain`).
-/
import Monkey.Proofs.Program.Streaming
import Monkey.Proofs.Token.Coupled

namespace Monkey

open TokenSupply

namespace Scanner

variable {C : Coupling} {s v : Scanner}

/-- If nothing breaks off, both scanners hand out the same item. -/
theorem Coupled.next (hnever : ∀ f, ¬C.Breaks f) (h : Coupled C s v)
    {s' : Scanner} {item : Item} (hs : TokenSupply.next s = (item, s')) :
    ∃ v', TokenSupply.next v = (item, v') ∧ Coupled C s' v' := by
  have hs : s.scan = (item, s') := hs
  obtain ⟨hitem, hrest⟩ := h.scan hnever
  rw [hs] at hitem hrest
  exact ⟨v.scan.2, Prod.ext hitem.symm rfl, hrest⟩

/-- So the same is drawn from both. -/
theorem Coupled.draw (hnever : ∀ f, ¬C.Breaks f) {s v : Scanner}
    (h : Coupled C s v) :
    (draw v).1 = (draw s).1 ∧ Coupled C (draw s).2 (draw v).2 := by
  fun_induction TokenSupply.draw s generalizing v with
  | case1 s e s' hs =>
      obtain ⟨v', hv, hrest⟩ := h.next hnever hs
      rw [draw_of_error hv]
      exact ⟨rfl, hrest⟩
  | case2 s t s' hs ht =>
      obtain ⟨v', hv, hrest⟩ := h.next hnever hs
      rw [draw_of_end hv ht]
      exact ⟨rfl, hrest⟩
  | case3 s t s' hs ht later =>
      rename_i ih
      obtain ⟨v', hv, hrest⟩ := h.next hnever hs
      obtain ⟨hitems, hlater⟩ := ih hrest
      rw [draw_of_token hv ht]
      exact ⟨congrArg (.ok t :: ·) hitems, hlater⟩

end Scanner

/-- Two scripts that are the same up to empty chunks, interrupted reads and
the places where chunks are cut cannot be told apart: not by looking at
characters and taking them, not by calling a scanner, and not by reading a
program. After every call as many bytes were taken from both. -/
theorem alike_of_plain {script script' : List Event}
    (h : Event.plain script = Event.plain script') :
    (∀ (calls : List Lookahead.Call) (call : Lookahead.Call),
      let r := ((Lookahead.ofSource (.ofEvents script)).after calls).call call
      let r' := ((Lookahead.ofSource (.ofEvents script')).after calls).call call
      r.1 = r'.1 ∧ r.2.source.taken = r'.2.source.taken)
      ∧ (∀ n : Nat,
        let r := ((Scanner.ofSource (.ofEvents script)).scans n).scan
        let r' := ((Scanner.ofSource (.ofEvents script')).scans n).scan
        r.1 = r'.1 ∧ r.2.taken = r'.2.taken)
      ∧ let reading := Program.ofSource (.ofEvents script)
        let reading' := Program.ofSource (.ofEvents script')
        reading.program = reading'.program ∧ reading.errors = reading'.errors
          ∧ reading.supply.taken = reading'.supply.taken := by
  have hsources : Coupling.sameSignals.Pairs (.ofEvents script)
      (.ofEvents script') := by
    refine ⟨?_, rfl⟩
    show Event.signals script = Event.signals script'
    rw [← Event.signals_plain, h, Event.signals_plain]
  have hnever (f : ReadFailure) : ¬Coupling.sameSignals.Breaks f := id
  have hscanners := Scanner.coupled_ofSource hsources
  refine ⟨?_, ?_, ?_⟩
  · intro calls call
    have hahead : Coupling.sameSignals.Ahead (.ofSource (.ofEvents script))
        (.ofSource (.ofEvents script')) := ⟨hsources, rfl⟩
    obtain ⟨hresult, hafter⟩ := (hahead.after hnever calls).call hnever call
    exact ⟨hresult, hafter.source.2⟩
  · intro n
    obtain ⟨hresult, hafter⟩ := (hscanners.scans hnever n).scan hnever
    exact ⟨hresult, hafter.source.source.2⟩
  · obtain ⟨hitems, hrest⟩ := hscanners.draw hnever
    obtain ⟨hprogram, herrors⟩ :=
      Program.read_congr (congrArg (List.map Item.shown) hitems)
    refine ⟨hprogram.symm, herrors.symm, ?_⟩
    unfold Program.ofSource
    rw [Program.supply_read, Program.supply_read]
    exact hrest.source.source.2

/-- Cut in the middle of a letter and of an operator, with empty chunks and
interrupted reads between the parts, the bytes of `é == 1` followed by a
failure are read as they are in one piece. -/
theorem alike_of_plain_cut :
    let broken : ReadFailure := ⟨.brokenPipe, none⟩
    let interrupted : Event := .failed ⟨.interrupted, some "again"⟩
    let script : List Event :=
      [.data [0xC3, 0xA9, 32, 61, 61, 32, 49], .failed broken]
    let script' : List Event := [.data [], interrupted, .data [0xC3],
      interrupted, interrupted, .data [], .data [0xA9, 32, 61], interrupted,
      .data [61, 32], .data [49], .data [], .failed broken]
    Event.plain script = Event.plain script'
      ∧ (Program.ofSource (.ofEvents script)).program
        = (Program.ofSource (.ofEvents script')).program
      ∧ (Program.ofSource (.ofEvents script)).supply.taken
        = (Program.ofSource (.ofEvents script')).supply.taken := by
  intro broken interrupted script script'
  have h : Event.plain script = Event.plain script' := by decide
  obtain ⟨-, -, hprogram, -, htaken⟩ := alike_of_plain h
  exact ⟨h, hprogram, htaken⟩

end Monkey
