/-
The text of an expression tells its tree (`Expr.text_eq_iff`), however its
operators are nested and whatever its integers are. Where a text starts with
that of an expression and goes on with a space or a closing parenthesis, it
tells where the expression ends (`Expr.text_append_inj`). The first character
tells a name, an integer and an operation apart (`Expr.text_opens`), and runs
of letters or digits end where their class does.

A minus sign is written before an operand, between two, and before a negative
integer. So an operation with an operator in front and one whose left operand
is negative start alike; the first of them has a closing parenthesis where
the second goes on with a space (`Expr.unary_ne_binary`).
-/
import Monkey.Proofs.Numeral
import Monkey.Proofs.Token.Lexeme
import Monkey.Proofs.Tree.Retoken

namespace Monkey

open Text

-- ================================================================ runs

/-- Two runs of a class are the same if they are what a text starts with
before it leaves the class. -/
theorem run_append_inj {p : Char → Bool} {xs ys r r' : List Char}
    (hxs : ∀ c ∈ xs, p c = true) (hys : ∀ c ∈ ys, p c = true)
    (hr : ∀ c, r.head? = some c → p c = false)
    (hr' : ∀ c, r'.head? = some c → p c = false)
    (h : xs ++ r = ys ++ r') : xs = ys ∧ r = r' := by
  obtain ⟨htake, hdrop⟩ := takeWhile_run hxs hr
  obtain ⟨htake', hdrop'⟩ := takeWhile_run hys hr'
  rw [h] at htake hdrop
  exact ⟨htake.symm.trans htake', hdrop.symm.trans hdrop'⟩

namespace Expr

-- ============================================================== classes

/-- The expression without its tokens: all of them are the same one. -/
def erased (e : Expr) : Expr := e.retoken fun _ => .endOfInput .origin

/-- Every name in the expression is written in letters. -/
def Named : Expr → Prop
  | identifier id => id.name ≠ "" ∧ ∀ c ∈ id.name.toList, isLetter c = true
  | integer _ _ => True
  | unary _ _ operand => operand.Named
  | binary _ _ left right => left.Named ∧ right.Named

/-- Whether all names are letters can be computed. -/
def decidableNamed : (e : Expr) → Decidable e.Named
  | identifier id =>
      have := List.decidableBAll (isLetter · = true) id.name.toList
      inferInstanceAs (Decidable
        (id.name ≠ "" ∧ ∀ c ∈ id.name.toList, isLetter c = true))
  | integer _ _ => inferInstanceAs (Decidable True)
  | unary _ _ operand => decidableNamed operand
  | binary _ _ left right =>
      have := decidableNamed left
      have := decidableNamed right
      inferInstanceAs (Decidable (left.Named ∧ right.Named))

instance (e : Expr) : Decidable e.Named := decidableNamed e

/-- What stands behind an expression inside of another, if anything does: a
space or a closing parenthesis. -/
def Ends (rest : List Char) : Prop :=
  ∀ c, rest.head? = some c → c = ' ' ∨ c = ')'

namespace Ends

variable {rest : List Char}

theorem nil : Ends [] := by
  intro c hc
  cases hc

theorem space : Ends (' ' :: rest) := by
  intro c hc
  exact .inl (Option.some.inj hc).symm

theorem paren : Ends (')' :: rest) := by
  intro c hc
  exact .inr (Option.some.inj hc).symm

/-- No letter stands there. -/
theorem isLetter (h : Ends rest) :
    ∀ c, rest.head? = some c → isLetter c = false := by
  intro c hc
  rcases h c hc with rfl | rfl <;> decide

/-- Nor does a digit. -/
theorem isDigit (h : Ends rest) :
    ∀ c, rest.head? = some c → Numeral.isDigit c = false := by
  intro c hc
  rcases h c hc with rfl | rfl <;> decide

end Ends

/-- The characters that the text of an expression may start with. -/
def Opens : Expr → Char → Prop
  | identifier _, c => isLetter c = true
  | integer _ (.ofNat _), c => Numeral.isDigit c = true
  | integer _ (.negSucc _), c => c = '-'
  | unary _ _ _, c => c = '('
  | binary _ _ _ _, c => c = '('

-- =============================================================== texts

section texts

variable (t : Token) (op : UnaryOperator) (o : BinaryOperator)
  (operand left right : Expr) (rest : List Char)

/-- The characters of an operation in front of its operand, and what stands
behind it. -/
theorem toList_text_unary :
    (unary t op operand).text.toList ++ rest
      = '(' :: (op.text.toList ++ (operand.text.toList ++ ')' :: rest)) := by
  simp [text]

/-- The characters of an operation between two operands, and what stands
behind it. -/
theorem toList_text_binary :
    (binary t o left right).text.toList ++ rest
      = '(' :: (left.text.toList ++ ' ' :: (o.text.toList
          ++ ' ' :: (right.text.toList ++ ')' :: rest))) := by
  simp [text]

end texts

/-- A text has a first character, which tells what it is the text of. -/
theorem text_opens {e : Expr} (h : e.Named) :
    ∃ c cs, e.text.toList = c :: cs ∧ e.Opens c := by
  cases e with
  | identifier id =>
      obtain ⟨hne, hletters⟩ := h
      obtain ⟨c, cs, hname⟩ :=
        List.exists_cons_of_ne_nil (mt String.toList_eq_nil_iff.1 hne)
      exact ⟨c, cs, hname, hletters c (by rw [hname]; exact List.mem_cons_self)⟩
  | integer t v =>
      cases v with
      | ofNat n =>
          obtain ⟨c, cs, hdigits⟩ :=
            List.exists_cons_of_ne_nil (Nat.toDigits_ne_nil (n := n) (b := 10))
          have hmem : c ∈ Nat.toDigits 10 n := by
            rw [hdigits]
            exact List.mem_cons_self
          exact ⟨c, cs, (Numeral.toList_toString_natCast n).trans hdigits,
            Numeral.isDigit_of_mem_toDigits hmem⟩
      | negSucc n =>
          exact ⟨'-', _, Numeral.toList_toString_negSucc n, rfl⟩
  | unary t op operand =>
      exact ⟨'(', _, by
        simpa using toList_text_unary t op operand [], rfl⟩
  | binary t op left right =>
      exact ⟨'(', _, by
        simpa using toList_text_binary t op left right [], rfl⟩

-- ================================================== reading a text

section reading

variable {e e' : Expr} {r r' : List Char}

/-- Texts that start alike are of expressions that may start alike. -/
theorem exists_opens (he : e.Named) (he' : e'.Named)
    (h : e.text.toList ++ r = e'.text.toList ++ r') :
    ∃ c, e.Opens c ∧ e'.Opens c := by
  obtain ⟨c, cs, hc, hopens⟩ := text_opens he
  obtain ⟨c', cs', hc', hopens'⟩ := text_opens he'
  rw [hc, hc'] at h
  obtain rfl := List.head_eq_of_cons_eq h
  exact ⟨c, hopens, hopens'⟩

/-- The text of a name is that of no other expression. -/
theorem identifier_append_inj {id : Identifier} (hid : (identifier id).Named)
    (he : e.Named) (hr : Ends r) (hr' : Ends r')
    (h : (identifier id).text.toList ++ r = e.text.toList ++ r') :
    (∃ u, e = identifier ⟨u, id.name⟩) ∧ r = r' := by
  obtain ⟨c, hletter, hc⟩ := exists_opens hid he h
  have hletter : isLetter c = true := hletter
  cases e with
  | identifier id' =>
      obtain ⟨hname, hrest⟩ :=
        run_append_inj hid.2 he.2 hr.isLetter hr'.isLetter h
      exact ⟨⟨id'.token, by rw [String.toList_inj.1 hname]⟩, hrest⟩
  | integer t v =>
      cases v with
      | ofNat n =>
          rw [isLetter_of_isDigit hc] at hletter
          cases hletter
      | negSucc n =>
          obtain rfl : c = '-' := hc
          exact absurd hletter (by decide)
  | unary | binary =>
      obtain rfl : c = '(' := hc
      exact absurd hletter (by decide)

/-- The digits of a number end where no further digit follows. -/
theorem toDigits_append_inj {m n : Nat} (hr : Ends r) (hr' : Ends r')
    (h : Nat.toDigits 10 m ++ r = Nat.toDigits 10 n ++ r') :
    m = n ∧ r = r' := by
  obtain ⟨hdigits, hrest⟩ := run_append_inj
    (fun _ => Numeral.isDigit_of_mem_toDigits)
    (fun _ => Numeral.isDigit_of_mem_toDigits) hr.isDigit hr'.isDigit h
  exact ⟨Numeral.toDigits_injective hdigits, hrest⟩

/-- The text of an integer is that of no other expression, and of no other
value. -/
theorem integer_append_inj {t : Token} {v : Int} (he : e.Named)
    (hr : Ends r) (hr' : Ends r')
    (h : (integer t v).text.toList ++ r = e.text.toList ++ r') :
    (∃ u, e = integer u v) ∧ r = r' := by
  have hnamed : (integer t v).Named := trivial
  obtain ⟨c, hc, hc'⟩ := exists_opens hnamed he h
  cases e with
  | identifier id =>
      obtain ⟨⟨u, hu⟩, -⟩ := identifier_append_inj he hnamed hr' hr h.symm
      cases hu
  | integer t' v' =>
      rw [text, text] at h
      cases v with
      | ofNat m =>
          cases v' with
          | ofNat n =>
              rw [Int.ofNat_eq_natCast, Int.ofNat_eq_natCast,
                Numeral.toList_toString_natCast,
                Numeral.toList_toString_natCast] at h
              obtain ⟨rfl, hrest⟩ := toDigits_append_inj hr hr' h
              exact ⟨⟨t', rfl⟩, hrest⟩
          | negSucc n =>
              obtain rfl : c = '-' := hc'
              exact absurd hc (by simp [Opens, Numeral.isDigit])
      | negSucc m =>
          cases v' with
          | ofNat n =>
              obtain rfl : c = '-' := hc
              exact absurd hc' (by simp [Opens, Numeral.isDigit])
          | negSucc n =>
              rw [Numeral.toList_toString_negSucc,
                Numeral.toList_toString_negSucc] at h
              obtain ⟨hmn, hrest⟩ :=
                toDigits_append_inj hr hr' (List.cons.inj h).2
              obtain rfl := Nat.succ.inj hmn
              exact ⟨⟨t', rfl⟩, hrest⟩
  | unary | binary =>
      obtain rfl : c = '(' := hc'
      cases v with
      | ofNat n => exact absurd hc (by simp [Opens, Numeral.isDigit])
      | negSucc n => cases hc

/-- Where the left operand of an operation is negative, it starts like an
operation with a minus sign in front; but there the operand is closed. -/
theorem unary_ne_binary {t t' : Token} {op : UnaryOperator}
    {o : BinaryOperator} {operand left right : Expr}
    (hoperand : operand.Named) (hleft : left.Named) :
    (unary t op operand).text.toList ++ r
      ≠ (binary t' o left right).text.toList ++ r' := by
  intro h
  rw [toList_text_unary, toList_text_binary] at h
  have h := (List.cons.inj h).2
  obtain ⟨c, cs, htext, hopens⟩ := text_opens hleft
  have hc : op = .not ∧ c = '!' ∨ op = .negate ∧ c = '-' := by
    rw [htext] at h
    cases op with
    | not => exact .inl ⟨rfl, (List.head_eq_of_cons_eq h).symm⟩
    | negate => exact .inr ⟨rfl, (List.head_eq_of_cons_eq h).symm⟩
  cases left with
  | identifier id =>
      have hletter : isLetter c = true := hopens
      rcases hc with ⟨-, rfl⟩ | ⟨-, rfl⟩ <;> exact absurd hletter (by decide)
  | integer u v =>
      cases v with
      | ofNat n =>
          have hdigit : Numeral.isDigit c = true := hopens
          rcases hc with ⟨-, rfl⟩ | ⟨-, rfl⟩ <;>
            exact absurd hdigit (by decide)
      | negSucc n =>
          obtain rfl : c = '-' := hopens
          obtain ⟨-, hc⟩ | ⟨rfl, -⟩ := hc
          · cases hc
          -- both go on with a number, the one as the left operand
          rw [text, Numeral.toList_toString_negSucc] at h
          have h := (List.cons.inj h).2
          rw [← Numeral.toList_toString_natCast] at h
          obtain ⟨-, hrest⟩ := integer_append_inj (t := u) (e := operand)
            hoperand .space .paren h.symm
          cases hrest
  | unary | binary =>
      obtain rfl : c = '(' := hopens
      rcases hc with ⟨-, hc⟩ | ⟨-, hc⟩ <;> cases hc

/-- Before a space no two operators are written alike. -/
theorem operator_append_inj {o o' : BinaryOperator}
    (h : o.text.toList ++ ' ' :: r = o'.text.toList ++ ' ' :: r') :
    o = o' ∧ r = r' := by
  cases o <;> cases o' <;> simp_all [BinaryOperator.text]

/-- A text that starts with that of an expression, and goes on as it would
inside of another, tells the tree of the expression and where its text
ends. -/
theorem text_append_inj (he : e.Named) (he' : e'.Named) (hr : Ends r)
    (hr' : Ends r')
    (h : e.text.toList ++ r = e'.text.toList ++ r') :
    e.erased = e'.erased ∧ r = r' := by
  induction e generalizing e' r r' with
  | identifier id =>
      obtain ⟨⟨u, rfl⟩, hrest⟩ := identifier_append_inj he he' hr hr' h
      exact ⟨rfl, hrest⟩
  | integer t v =>
      obtain ⟨⟨u, rfl⟩, hrest⟩ := integer_append_inj he' hr hr' h
      exact ⟨rfl, hrest⟩
  | unary t op operand ih =>
      cases e' with
      | identifier id =>
          obtain ⟨⟨u, hu⟩, -⟩ := identifier_append_inj he' he hr' hr h.symm
          cases hu
      | integer t' v =>
          obtain ⟨⟨u, hu⟩, -⟩ := integer_append_inj he hr' hr h.symm
          cases hu
      | unary t' op' operand' =>
          rw [toList_text_unary, toList_text_unary] at h
          have h := (List.cons.inj h).2
          obtain rfl : op = op' := by
            cases op <;> cases op' <;> simp_all [UnaryOperator.text]
          have h := List.append_cancel_left h
          have hnamed : operand'.Named := he'
          obtain ⟨hoperand, hrest⟩ := ih he hnamed .paren .paren h
          exact ⟨congrArg (unary _ op) hoperand, (List.cons.inj hrest).2⟩
      | binary t' o left right => exact absurd h (unary_ne_binary he he'.1)
  | binary t o left right ihl ihr =>
      cases e' with
      | identifier id =>
          obtain ⟨⟨u, hu⟩, -⟩ := identifier_append_inj he' he hr' hr h.symm
          cases hu
      | integer t' v =>
          obtain ⟨⟨u, hu⟩, -⟩ := integer_append_inj he hr' hr h.symm
          cases hu
      | unary t' op operand =>
          exact absurd h.symm (unary_ne_binary he' he.1)
      | binary t' o' left' right' =>
          rw [toList_text_binary, toList_text_binary] at h
          obtain ⟨hleft, hbehind⟩ :=
            ihl he.1 he'.1 .space .space (List.cons.inj h).2
          obtain ⟨rfl, hoperand⟩ :=
            operator_append_inj (List.cons.inj hbehind).2
          obtain ⟨hright, hrest⟩ := ihr he.2 he'.2 .paren .paren hoperand
          exact ⟨congrArg₂ (binary _ o) hleft hright,
            (List.cons.inj hrest).2⟩

end reading

/-- The text of an expression determines its tree, and no more. If all names
are written in letters, two expressions have the same text just when they are
the same but for their tokens: made of the same operators, names and values
in the same way. -/
theorem text_eq_iff {e e' : Expr} (he : e.Named) (he' : e'.Named) :
    e.text = e'.text ↔ e.erased = e'.erased := by
  constructor
  · intro h
    have happend : e.text.toList ++ [] = e'.text.toList ++ [] := by rw [h]
    exact (text_append_inj he he' .nil .nil happend).1
  · intro h
    calc e.text = e.erased.text := (text_retoken _ e).symm
      _ = e'.erased.text := by rw [h]
      _ = e'.text := text_retoken _ e'

/-- The number -5, a minus sign before the number 5, and operations on either
of the two all have different texts. -/
theorem text_eq_iff_minus :
    let minus : Token := ⟨.minus, "-", .origin⟩
    let x : Expr := .identifier ⟨⟨.identifier, "x", .origin⟩, "x"⟩
    let number : Expr := .integer minus (-5)
    let operation : Expr := .unary minus .negate (.integer minus 5)
    let expressions : List Expr :=
      [number, operation, .unary minus .negate number,
        .binary minus .subtract number x, .binary minus .subtract operation x,
        .binary minus .subtract (.binary minus .subtract number x) number]
    expressions.Pairwise fun e e' => e.text ≠ e'.text := by
  intro minus x number operation expressions
  have hdifferent : expressions.Pairwise fun e e' =>
      e.Named ∧ e'.Named ∧ e.erased ≠ e'.erased := by
    decide +kernel
  exact hdifferent.imp fun ⟨he, he', hne⟩ => mt (text_eq_iff he he').1 hne

end Expr

end Monkey
