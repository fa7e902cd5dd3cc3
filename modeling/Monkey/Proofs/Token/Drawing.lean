/-
Everything a supply has to give, up to the first end of the input or the
first failure, and the supply as it then stands (`TokenSupply.draw`). For a
scanner these are the items of its iterator, which leaves it in the same
place (`Scanner.items_eq_draw`).

A recorder is a supply that passes on what another one hands out and keeps
a list of it. It shows what a reader drew from the supply, and that nothing
else was drawn.
-/
import Monkey.Proofs.Token.Hands

namespace Monkey

-- ============================================================== drawing

namespace TokenSupply

variable {σ : Type} [TokenSupply σ] {s s' : σ}

/-- Asks the supply until it gives the end of the input or fails. -/
def draw (s : σ) : List Item × σ :=
  match _h : next s with
  | (.error e, s') => ([.error e], s')
  | (.ok t, s') =>
      if _ht : t.kind = .endOfInput then ([.ok t], s')
      else
        let later := draw s'
        (.ok t :: later.1, later.2)
termination_by size s
decreasing_by exact size_next_lt _h _ht

/-- What the next item decides. -/
private theorem draw_step (s : σ) :
    draw s =
      match next s with
      | (.error e, s') => ([.error e], s')
      | (.ok t, s') =>
          if t.kind = .endOfInput then ([.ok t], s')
          else (.ok t :: (draw s').1, (draw s').2) := by
  rw [draw]
  cases next s with
  | mk item s' => cases item <;> rfl

/-- A failure is the last item. -/
theorem draw_of_error {e : ScanError} (h : next s = (.error e, s')) :
    draw s = ([.error e], s') := by
  rw [draw_step, h]

/-- So is the end of the input. -/
theorem draw_of_end {t : Token} (h : next s = (.ok t, s'))
    (ht : t.kind = .endOfInput) : draw s = ([.ok t], s') := by
  rw [draw_step, h]
  exact if_pos ht

/-- Any other token comes before what is drawn behind it. -/
theorem draw_of_token {t : Token} (h : next s = (.ok t, s'))
    (ht : t.kind ≠ .endOfInput) :
    draw s = (.ok t :: (draw s').1, (draw s').2) := by
  rw [draw_step, h]
  exact if_neg ht

/-- Every supply hands out something. -/
theorem exists_hands (s : σ) : ∃ ts last, Hands s ts last := by
  fun_induction draw s with
  | case1 s e s' h => exact ⟨[], _, .failed h⟩
  | case2 s t s' h ht => exact ⟨[], _, .ended h ht⟩
  | case3 s t s' h ht later ih =>
      obtain ⟨ts, last, hlater⟩ := ih
      exact ⟨t :: ts, last, .token h ht hlater⟩

/-- What is drawn is what the supply hands out. -/
theorem draw_of_hands {ts : List Token} {last : Item}
    (h : Hands s ts last) : (draw s).1 = ts.map .ok ++ [last] := by
  induction h with
  | ended h he => rw [draw_of_end h he]; rfl
  | failed h => rw [draw_of_error h]; rfl
  | token h ht _ ih =>
      rw [draw_of_token h ht, ih, List.map_cons, List.cons_append]

end TokenSupply

open TokenSupply

/-- The iterator yields what is drawn from its scanner, and then stands
where the scanner does. -/
theorem Scanner.items_eq_draw {s : Scanner} (hs : s.ended = false) :
    s.items = ((draw s).1, { (draw s).2 with ended := true }) := by
  fun_induction draw s with
  | case1 s e s' h =>
      have h : s.scan = (.error e, s') := h
      rw [items_step, next?, h]
      simp [hs, items_of_ended]
  | case2 s t s' h ht =>
      have h : s.scan = (.ok t, s') := h
      rw [items_step, next?, h]
      simp [hs, items_of_ended, Token.is, ht]
  | case3 s t s' h ht later ih =>
      have h : s.scan = (.ok t, s') := h
      have hended : s'.ended = false := by
        have := ended_scan s
        rwa [h, hs] at this
      have hsame : { s' with ended := t.is .endOfInput } = s' := by
        rw [show t.is .endOfInput = s'.ended by simp [Token.is, ht, hended]]
      rw [items_step, next?, h]
      simp [hs, hsame, ih hended, later]

-- ============================================================ recorders

/-- A supply, and a list of what it has handed out. -/
structure Recorder (σ : Type) where
  supply : σ
  handed : List Item

namespace Recorder

variable {σ : Type} [TokenSupply σ]

/-- A recorder hands out what its supply does, and keeps it. -/
instance : TokenSupply (Recorder σ) where
  next r :=
    ((next r.supply).1, ⟨(next r.supply).2, r.handed ++ [(next r.supply).1]⟩)
  size r := size r.supply
  size_next_lt := by
    intro r r' t h ht
    obtain ⟨hitem, rfl⟩ := Prod.mk.inj h
    exact size_next_lt (Prod.ext hitem rfl) ht

/-- The next item as the recorder gives it. -/
theorem next_recorder {s s' : σ} {item : Item} (h : next s = (item, s'))
    (handed : List Item) :
    next (⟨s, handed⟩ : Recorder σ) = (item, ⟨s', handed ++ [item]⟩) := by
  show ((next s).1, Recorder.mk (next s).2 (handed ++ [(next s).1])) = _
  rw [h]

/-- What is drawn from a recorder is drawn from its supply, and kept. -/
theorem draw_recorder (s : σ) (handed : List Item) :
    draw (⟨s, handed⟩ : Recorder σ)
      = ((draw s).1, ⟨(draw s).2, handed ++ (draw s).1⟩) := by
  fun_induction draw s generalizing handed with
  | case1 s e s' h => exact draw_of_error (next_recorder h handed)
  | case2 s t s' h ht => exact draw_of_end (next_recorder h handed) ht
  | case3 s t s' h ht later ih =>
      rw [draw_of_token (next_recorder h handed) ht, ih, List.append_assoc,
        List.singleton_append]

end Recorder

end Monkey
