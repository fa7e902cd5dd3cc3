/-
What a run of digits denotes, and that reading it gives just that. The
reader stops at the first digit that takes the value out of range; as a
further digit never makes a value smaller, it stops exactly when the
whole run denotes too much.

A number that was written with zeros in front is written without them
(`toDigits_value`).
-/
import Mathlib.Tactic.IntervalCases
import Monkey.Numeral

namespace Monkey.Numeral

/-- The number that a run of decimal digits denotes. -/
def value (digits : List Char) : Nat := Nat.ofDigitChars 10 digits 0

/-- Further digits never make a value smaller. -/
theorem le_ofDigitChars (digits : List Char) (n : Nat) :
    n ≤ Nat.ofDigitChars 10 digits n := by
  rw [Nat.ofDigitChars_eq_ofDigitChars_zero]
  exact Nat.le_trans (Nat.le_mul_of_pos_left n (Nat.pow_pos (by omega)))
    (Nat.le_add_right _ _)

/-- Digits are taken up to the value they denote, unless that is out of
range. -/
theorem readDigits_of_digits {digits : List Char} {n : Nat}
    (h : ∀ c ∈ digits, isDigit c = true) (hn : (n : Int) ≤ greatest) :
    readDigits false n digits =
      if (Nat.ofDigitChars 10 digits n : Int) ≤ greatest
      then .ok (Nat.ofDigitChars 10 digits n) else .error .tooLarge := by
  induction digits generalizing n with
  | nil =>
      rw [readDigits, Nat.ofDigitChars_nil, if_pos hn]
  | cons c digits ih =>
      obtain ⟨hc, hrest⟩ := List.forall_mem_cons.1 h
      have hnext : (n : Int) * 10 + ((c.toNat - '0'.toNat : Nat) : Int)
          = ((10 * n + (c.toNat - '0'.toNat) : Nat) : Int) := by omega
      rw [readDigits, digit?, if_pos hc, Nat.ofDigitChars_cons]
      simp only [Bool.false_eq_true, if_false, hnext]
      have hle := le_ofDigitChars digits (10 * n + (c.toNat - '0'.toNat))
      by_cases hbig : greatest < ((10 * n + (c.toNat - '0'.toNat) : Nat) : Int)
      · rw [if_pos hbig, if_neg (by omega)]
      · have hleast : ¬((10 * n + (c.toNat - '0'.toNat) : Nat) : Int)
            < least := by
          unfold least
          omega
        rw [if_neg hbig, if_neg hleast, ih hrest (by omega)]

/-- A numeral of digits alone is read as the number it denotes, or is too
large. -/
theorem read_of_digits {digits : List Char} (hne : digits ≠ [])
    (h : ∀ c ∈ digits, isDigit c = true) :
    read digits =
      if (value digits : Int) ≤ greatest
      then .ok (value digits) else .error .tooLarge := by
  have hread : read digits = readDigits false 0 digits := by
    unfold read
    split
    · exact absurd rfl hne
    · exact absurd (h '+' (by simp)) (by decide)
    · exact absurd (h '-' (by simp)) (by decide)
    · exact absurd (h '+' (by simp)) (by decide)
    · exact absurd (h '-' (by simp)) (by decide)
    · rfl
  rw [hread]
  exact readDigits_of_digits (n := 0) h (by decide)

-- ======================================================= written numbers

/-- A number is written in digits. -/
theorem isDigit_of_mem_toDigits {n : Nat} {c : Char}
    (h : c ∈ Nat.toDigits 10 n) : isDigit c = true := by
  have hdigit := Nat.isDigit_of_mem_toDigits (by decide) (by decide) h
  unfold Char.isDigit at hdigit
  simp only [Bool.and_eq_true, decide_eq_true_eq] at hdigit
  unfold isDigit
  simp only [Bool.and_eq_true, decide_eq_true_eq]
  exact hdigit

/-- They denote the number. -/
theorem value_toDigits (n : Nat) : value (Nat.toDigits 10 n) = n :=
  Nat.ofDigitChars_toDigits (by decide) (by decide)

/-- So no two numbers are written alike. -/
theorem toDigits_injective : Function.Injective (Nat.toDigits 10) :=
  Function.LeftInverse.injective value_toDigits

/-- A value that is not negative is shown in its digits. -/
theorem toList_toString_natCast (n : Nat) :
    (toString (n : Int)).toList = Nat.toDigits 10 n :=
  Nat.toList_repr

/-- A negative one is shown with a minus sign before them. -/
theorem toList_toString_negSucc (n : Nat) :
    (toString (Int.negSucc n)).toList = '-' :: Nat.toDigits 10 (n + 1) := by
  show ("-" ++ (n + 1).repr).toList = _
  rw [String.toList_append, Nat.toList_repr]
  rfl

/-- A run of digits without the zeros in front of it, of which one is kept
if there is nothing else. -/
def plain (digits : List Char) : List Char :=
  match digits.dropWhile (· = '0') with
  | [] => ['0']
  | c :: rest => c :: rest

/-- A digit is written as it was. -/
theorem digitChar_of_isDigit {c : Char} (h : isDigit c = true) :
    c.toNat - '0'.toNat < 10 ∧ Nat.digitChar (c.toNat - '0'.toNat) = c := by
  unfold isDigit at h
  simp only [Bool.and_eq_true, decide_eq_true_eq] at h
  have hlow : 48 ≤ c.toNat := h.1
  have hhigh : c.toNat ≤ 57 := h.2
  rw [← Char.ofNat_toNat c]
  generalize c.toNat = n at hlow hhigh
  interval_cases n <;> decide

/-- Further digits are written behind those of a number that has some. -/
theorem toDigits_ofDigitChars {digits : List Char} {n : Nat}
    (h : ∀ c ∈ digits, isDigit c = true) (hn : 0 < n) :
    Nat.toDigits 10 (Nat.ofDigitChars 10 digits n)
      = Nat.toDigits 10 n ++ digits := by
  induction digits generalizing n with
  | nil => rw [Nat.ofDigitChars_nil, List.append_nil]
  | cons c digits ih =>
      obtain ⟨hc, hrest⟩ := List.forall_mem_cons.1 h
      obtain ⟨hlt, hchar⟩ := digitChar_of_isDigit hc
      rw [Nat.ofDigitChars_cons, ih hrest (by omega),
        ← Nat.toDigits_append_toDigits (by omega) hn hlt,
        Nat.toDigits_of_lt_base hlt, hchar, List.append_assoc]
      rfl

/-- The number that a run of digits denotes is written as the run, without
the zeros in front. -/
theorem toDigits_value {digits : List Char}
    (h : ∀ c ∈ digits, isDigit c = true) :
    Nat.toDigits 10 (value digits) = plain digits := by
  unfold value
  induction digits with
  | nil => rfl
  | cons c digits ih =>
      obtain ⟨hc, hrest⟩ := List.forall_mem_cons.1 h
      obtain ⟨hlt, hchar⟩ := digitChar_of_isDigit hc
      rw [Nat.ofDigitChars_cons, Nat.mul_zero, Nat.zero_add]
      by_cases hzero : c = '0'
      · subst hzero
        exact ih hrest
      · have hpos : 0 < c.toNat - '0'.toNat := by
          rw [Nat.pos_iff_ne_zero]
          intro hn
          rw [hn] at hchar
          exact hzero hchar.symm
        have hplain : plain (c :: digits) = c :: digits := by
          rw [plain, List.dropWhile_cons_of_neg (by simpa using hzero)]
        rw [toDigits_ofDigitChars hrest hpos, Nat.toDigits_of_lt_base hlt,
          hchar, hplain]
        rfl

/-- As a 64-bit value it is shown so too. -/
theorem toString_value {digits : List Char}
    (h : ∀ c ∈ digits, isDigit c = true) :
    toString (value digits : Int) = String.ofList (plain digits) := by
  show toString (value digits) = _
  rw [Nat.toString_eq_repr, Nat.repr_eq_ofList_toDigits, toDigits_value h]

end Monkey.Numeral
