/-
The iterator ends, and it ends once (`items_end`). It yields the
tokens that its scanner hands out, and then one last item, the end of the
input or a failure. From then on it yields nothing: asked again it does
nothing at all, and does not look at its source to know that
(`Scanner.next?_of_ended`).

That it comes so far is its measure, which every yield lowers, so there are
no more yields than the measure was at first (`Scanner.length_items_le`): one
for each byte that is left, and one for the end. The items are a list, and
what the iterator yields call by call is read off it
(`Scanner.next?_nexts`).
-/
import Monkey.Proofs.Program.Sight
import Monkey.Proofs.Token.Drawing

namespace Monkey

namespace Scanner

/-- The scanner after the iterator was asked so many times. -/
def nexts (s : Scanner) : Nat → Scanner
  | 0 => s
  | n + 1 => s.next?.2.nexts n

-- ============================================================== the end

/-- An iterator that has ended yields nothing and stays as it is, whatever its
source would do. -/
theorem next?_of_ended {s : Scanner} (h : s.ended = true)
    (source : Lookahead) :
    ({ s with source } : Scanner).next? = (none, { s with source }) := by
  rw [next?, if_pos h]

/-- An iterator that yields nothing has ended. -/
theorem ended_of_next? {s s' : Scanner} (h : s.next? = (none, s')) :
    s.ended = true ∧ s' = s := by
  unfold next? at h
  split at h
  · next hended =>
    cases h
    exact ⟨hended, rfl⟩
  · split at h <;> cases h

/-- Behind its items an iterator has ended. -/
theorem ended_items (s : Scanner) : s.items.2.ended = true := by
  fun_induction items s with
  | case1 s s' h =>
      obtain ⟨hended, rfl⟩ := ended_of_next? h
      exact hended
  | case2 s item s' h later ih => exact ih

/-- It yields no more often than it can. -/
theorem length_items_le (s : Scanner) : s.items.1.length ≤ s.yieldsLeft := by
  fun_induction items s with
  | case1 => exact Nat.zero_le _
  | case2 s item s' h later ih =>
      exact Nat.lt_of_le_of_lt ih (yieldsLeft_next?_lt h)

-- ========================================================== call by call

/-- The call of number `n`, counted from zero, yields the item of that number,
and nothing behind the last one. -/
theorem next?_nexts (s : Scanner) (n : Nat) :
    (s.nexts n).next?.1 = s.items.1[n]? := by
  induction n generalizing s with
  | zero =>
      rw [items_step, nexts]
      cases hnext : s.next? with
      | mk item s' => cases item <;> rfl
  | succ n ih =>
      rw [nexts, ih]
      cases hnext : s.next? with
      | mk item s' =>
      cases item with
      | none =>
          obtain ⟨hended, rfl⟩ := ended_of_next? hnext
          rw [items_of_ended hended]
          rfl
      | some item =>
          rw [s.items_step, hnext]
          rfl

/-- Behind the last item the scanner stays where it is. -/
theorem nexts_of_length_le {s : Scanner} {n : Nat}
    (h : s.items.1.length ≤ n) : s.nexts n = s.items.2 := by
  induction n generalizing s with
  | zero =>
      rw [Nat.le_zero, List.length_eq_zero_iff] at h
      rw [items_step] at h ⊢
      cases hnext : s.next? with
      | mk item s' =>
      cases item with
      | none => exact (ended_of_next? hnext).2.symm
      | some item => rw [hnext] at h; cases h
  | succ n ih =>
      rw [nexts]
      cases hnext : s.next? with
      | mk item s' =>
      cases item with
      | none =>
          obtain ⟨hended, rfl⟩ := ended_of_next? hnext
          rw [ih (by rw [items_of_ended hended]; exact Nat.zero_le n)]
      | some item =>
          rw [items_step, hnext] at h ⊢
          exact ih (Nat.le_of_succ_le_succ h)

end Scanner

open Scanner

/-- Whatever a source does, the iterator over it ends, and it ends once. It
yields some tokens, of which none is the end of the input, and not more of
them than there are bytes in the source. Then it yields one last item, which
is the end of the input or a failure, and from then on nothing, however often
it is asked. Nothing changes any more, and the source is not looked at:
whatever stood in its place would be left as it is. -/
theorem items_end (script : List Event) :
    let s := Scanner.ofSource (.ofEvents script)
    ∃ (ts : List Token) (last : Item),
      s.items.1 = ts.map .ok ++ [last]
        ∧ (∀ t ∈ ts, t.kind ≠ .endOfInput)
        ∧ (∀ z, last = .ok z → z.kind = .endOfInput)
        ∧ ts.length ≤ Event.bytesLeft script
        ∧ (∀ n, (s.nexts n).next?.1 = (ts.map .ok ++ [last])[n]?)
        ∧ ∀ n, ts.length < n → s.nexts n = s.nexts (ts.length + 1)
          ∧ ∀ source, ({ s.nexts n with source } : Scanner).next?
            = (none, { s.nexts n with source }) := by
  intro s
  obtain ⟨ts, last, hhands⟩ := TokenSupply.exists_hands s
  have hitems := items_of_hands (s := s) rfl hhands
  have hlength : s.items.1.length = ts.length + 1 := by
    rw [hitems, List.length_append, List.length_map, List.length_singleton]
  refine ⟨ts, last, hitems, hhands.ne_endOfInput, ?_, ?_, ?_, ?_⟩
  · intro z hz
    subst hz
    exact hhands.kind_closing
  · have hle := s.length_items_le
    rw [hlength] at hle
    exact Nat.le_of_succ_le_succ hle
  · intro n
    rw [next?_nexts, hitems]
  · intro n hn
    have hlast (m : Nat) (hm : ts.length < m) : s.nexts m = s.items.2 :=
      nexts_of_length_le (by rw [hlength]; exact hm)
    refine ⟨?_, fun source => next?_of_ended ?_ source⟩
    · rw [hlast n hn, hlast _ (Nat.lt_succ_self _)]
    · rw [hlast n hn]
      exact s.ended_items

end Monkey
