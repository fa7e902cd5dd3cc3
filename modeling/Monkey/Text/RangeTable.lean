/-
Sets of characters as tables of code point ranges. A table lists its
ranges in ascending order, so a search may stop at the first range that
starts above the code point: text in the low blocks is classified in a
few steps however long the table is.
-/
namespace Monkey.Text

/-- Closed ranges of code points, first and last, in ascending order. -/
abbrev RangeTable := List (Nat × Nat)

namespace RangeTable

/-- Whether a code point lies in one of the ranges. -/
def contains : RangeTable → Nat → Bool
  | [], _ => false
  | (first, last) :: rest, n =>
      if n < first then false else n ≤ last || contains rest n

/-- Each range is non-empty and ends before the next one starts. -/
def Ascending : RangeTable → Prop
  | [] => True
  | [r] => r.1 ≤ r.2
  | r :: s :: rest => r.1 ≤ r.2 ∧ r.2 < s.1 ∧ Ascending (s :: rest)

instance decidableAscending : DecidablePred Ascending
  | [] => isTrue trivial
  | [r] => inferInstanceAs (Decidable (r.1 ≤ r.2))
  | r :: s :: rest =>
      have := decidableAscending (s :: rest)
      inferInstanceAs (Decidable (r.1 ≤ r.2 ∧ r.2 < s.1 ∧ Ascending (s :: rest)))

/-- No range of an ascending table starts before its first one. -/
theorem Ascending.first_le {r s : Nat × Nat} {t : RangeTable}
    (h : Ascending (r :: t)) (hs : s ∈ r :: t) : r.1 ≤ s.1 := by
  induction t generalizing r with
  | nil =>
      obtain rfl := List.mem_singleton.1 hs
      exact Nat.le_refl _
  | cons u rest ih =>
      obtain ⟨hr, hru, hrest⟩ := h
      rcases List.mem_cons.1 hs with rfl | hs
      · exact Nat.le_refl _
      · have := ih hrest hs
        omega

/-- So none of its ranges has a code point before that one. -/
theorem Ascending.not_mem_of_lt {r : Nat × Nat} {t : RangeTable}
    (h : Ascending (r :: t)) {n : Nat} (hn : n < r.1) :
    ¬∃ s ∈ r :: t, s.1 ≤ n ∧ n ≤ s.2 := by
  rintro ⟨s, hs, hsn, -⟩
  have := h.first_le hs
  omega

/-- The tail of an ascending table is ascending. -/
theorem Ascending.tail {r : Nat × Nat} {t : RangeTable}
    (h : Ascending (r :: t)) : Ascending t := by
  cases t with
  | nil => trivial
  | cons u rest => exact h.2.2

/-- Stopping early misses nothing: on an ascending table the search
answers membership in the union of the ranges. -/
theorem contains_iff {t : RangeTable} (h : Ascending t) {n : Nat} :
    t.contains n = true ↔ ∃ r ∈ t, r.1 ≤ n ∧ n ≤ r.2 := by
  induction t with
  | nil => simp [contains]
  | cons r rest ih =>
      obtain ⟨first, last⟩ := r
      rw [contains]
      split
      · next hlt =>
        simp only [Bool.false_eq_true, false_iff]
        exact h.not_mem_of_lt hlt
      · next hge =>
        rw [Bool.or_eq_true, decide_eq_true_iff, ih h.tail]
        constructor
        · rintro (hn | ⟨s, hs, hsn⟩)
          · exact ⟨_, List.mem_cons_self, by simp only; omega, hn⟩
          · exact ⟨s, List.mem_cons_of_mem _ hs, hsn⟩
        · rintro ⟨s, hs, hsn⟩
          rcases List.mem_cons.1 hs with rfl | hs
          · exact Or.inl hsn.2
          · exact Or.inr ⟨s, hs, hsn⟩

end RangeTable

end Monkey.Text
