/-
Climbing, step by step. Reading an operand leads to the same decision
whatever the operand is: `Window.resume` is what climbing does once one
is complete, and the laws of `resume` say when an operation that waits in
a frame is complete too. What a token is as an operand is settled first
(`Token.IsOperand`), and what is wrong with one that is none
(`Token.NoOperand`).
-/
import Monkey.Program.Climb
import Monkey.Proofs.Numeral

namespace Monkey

-- ============================================================== operands

namespace Token

variable {t : Token}

/-- The expression that a token is by itself: the name that it spells, or the
integer that it is read as. -/
inductive IsOperand (t : Token) : Expr → Prop
  | name (hkind : t.kind = .identifier) :
      IsOperand t (.identifier (.ofToken t))
  | numeral {v : Int} (hkind : t.kind = .integer)
      (hread : Numeral.read t.literal.toList = .ok v) :
      IsOperand t (.integer t v)

/-- What is wrong with a token where an operand is due: none begins with a
token of its kind, or it is an integer without a value. -/
inductive NoOperand (t : Token) : ParseError → Prop
  | kind (hidentifier : t.kind ≠ .identifier) (hinteger : t.kind ≠ .integer)
      (hunary : UnaryOperator.ofKind? t.kind = none) :
      NoOperand t ⟨.noOperand t.kind, t⟩
  | numeral {fault : NumeralFault} (hkind : t.kind = .integer)
      (hread : Numeral.read t.literal.toList = .error fault) :
      NoOperand t ⟨.invalidInteger t.literal fault, t⟩

variable {operand : Expr} {e : ParseError}

/-- A token is read as the expression that it is. -/
theorem isOperand_iff : t.IsOperand operand ↔ t.operand = .ok operand := by
  constructor
  · rintro (hkind | ⟨hkind, hread⟩)
    · rw [Token.operand, hkind]
    · simp only [Token.operand, hkind, hread]
  · intro h
    unfold Token.operand at h
    split at h
    · next hkind =>
      cases h
      exact .name hkind
    · next hkind =>
      split at h
      · next v hread =>
        cases h
        exact .numeral hkind hread
      · cases h
    · cases h

/-- Only an identifier is an operand with a name, which is its text. -/
theorem operand_eq_identifier {id : Identifier}
    (h : t.operand = .ok (.identifier id)) :
    t.kind = .identifier ∧ id = .ofToken t := by
  cases isOperand_iff.2 h with
  | name hkind => exact ⟨hkind, rfl⟩

/-- Only an integer is an operand with a value. -/
theorem operand_eq_integer {u : Token} {v : Int}
    (h : t.operand = .ok (.integer u v)) : u = t ∧ t.kind = .integer := by
  cases isOperand_iff.2 h with
  | numeral hkind => exact ⟨rfl, hkind⟩

/-- A token that is an operand is no operator in front of one. -/
theorem IsOperand.unary_eq_none (h : t.IsOperand operand) :
    UnaryOperator.ofKind? t.kind = none := by
  cases h with
  | name hkind => rw [hkind]; rfl
  | numeral hkind => rw [hkind]; rfl

/-- What is wrong with a token is its error as an operand, unless it is an
operator in front of one. -/
theorem noOperand_iff : t.NoOperand e
    ↔ UnaryOperator.ofKind? t.kind = none ∧ t.operand = .error e := by
  constructor
  · rintro (⟨hidentifier, hinteger, hunary⟩ | ⟨hkind, hread⟩)
    · refine ⟨hunary, ?_⟩
      unfold Token.operand
      split
      · next hk => exact absurd hk hidentifier
      · next hk => exact absurd hk hinteger
      · rfl
    · refine ⟨by rw [hkind]; rfl, ?_⟩
      simp only [Token.operand, hkind, hread]
  · rintro ⟨hunary, h⟩
    unfold Token.operand at h
    split at h
    · cases h
    · next hkind =>
      split at h
      · cases h
      · next fault hread =>
        cases h
        exact .numeral hkind hread
    · next hidentifier hinteger =>
      cases h
      exact .kind hidentifier hinteger hunary

/-- The number that the digits of a token denote. -/
def number (t : Token) : Nat := Numeral.value t.literal.toList

/-- A token that is digits is the number they denote, unless that is too
large. -/
theorem operand_of_digits (hkind : t.kind = .integer)
    (h : t.literal ≠ "" ∧ ∀ c ∈ t.literal.toList, Numeral.isDigit c = true) :
    t.operand = if (t.number : Int) ≤ Numeral.greatest
      then .ok (.integer t t.number)
      else .error ⟨.invalidInteger t.literal .tooLarge, t⟩ := by
  have hne : t.literal.toList ≠ [] := mt String.toList_eq_nil_iff.1 h.1
  have hread := Numeral.read_of_digits hne h.2
  unfold number
  split at hread
  · next hle =>
    rw [if_pos hle]
    exact isOperand_iff.1 (.numeral hkind hread)
  · next hlarge =>
    rw [if_neg hlarge]
    exact (noOperand_iff.1 (.numeral hkind hread)).2

/-- Digits that are no operand denote too much. -/
theorem NoOperand.tooLarge (h : t.NoOperand e) (hkind : t.kind = .integer)
    (hdigits : t.literal ≠ ""
      ∧ ∀ c ∈ t.literal.toList, Numeral.isDigit c = true) :
    e = ⟨.invalidInteger t.literal .tooLarge, t⟩
      ∧ Numeral.greatest < t.number := by
  obtain ⟨-, hoperand⟩ := noOperand_iff.1 h
  rw [operand_of_digits hkind hdigits] at hoperand
  split at hoperand
  · cases hoperand
  · next hlarge =>
    cases hoperand
    exact ⟨rfl, Int.not_le.1 hlarge⟩

end Token

namespace Window

open Monkey.Frame

variable {σ : Type} [TokenSupply σ]

/-- How reading goes on behind a complete operand: the token ahead closes
frames, opens one, or ends the expression. -/
def resume (least : Precedence) (frames : List Frame) (operand : Expr)
    (w : Window σ) : Except ParseError Expr × Window σ :=
  match BinaryOperator.ofKind? w.ahead.kind with
  | none => (.ok (closeAll frames operand), w)
  | some op =>
      let (waiting, left) := settle op.precedence frames operand
      if threshold least waiting < op.precedence then
        climb least (.binary left w.ahead op :: waiting) w.slide.slide
      else (.ok left, w)

variable {least : Precedence} {frames : List Frame} {w : Window σ}

-- ============================================================== one step

/-- An operator in front of its operand opens a frame. -/
theorem climb_of_unary {op : UnaryOperator}
    (h : UnaryOperator.ofKind? w.current.kind = some op) :
    w.climb least frames
      = w.slide.climb least (.unary w.current op :: frames) := by
  rw [climb]
  split
  · next op' h' =>
    rw [h] at h'
    cases h'
    rfl
  · next h' =>
    rw [h] at h'
    cases h'

/-- Behind an operand reading goes on. -/
theorem climb_of_operand {e : Expr} (he : w.current.IsOperand e) :
    w.climb least frames = resume least frames e w := by
  have h := he.unary_eq_none
  rw [Token.isOperand_iff] at he
  rw [climb]
  split
  · next op h' =>
    rw [h] at h'
    cases h'
  · rw [he]
    simp only [resume]
    split <;> next h' => simp only [h']

/-- What is no operand is the error. -/
theorem climb_of_error {e : ParseError} (he : w.current.NoOperand e) :
    w.climb least frames = (.error e, w) := by
  obtain ⟨h, he⟩ := Token.noOperand_iff.1 he
  rw [climb]
  split
  · next op h' =>
    rw [h] at h'
    cases h'
  · rw [he]

-- ======================================================= complete operands

/-- Without an operator ahead every frame is closed. -/
theorem resume_of_none {e : Expr}
    (h : BinaryOperator.ofKind? w.ahead.kind = none) :
    resume least frames e w = (.ok (closeAll frames e), w) := by
  rw [resume, h]

/-- Before an operator as many frames are closed as it does not bind
tighter than. -/
theorem resume_of_some {e : Expr} {op : BinaryOperator}
    (h : BinaryOperator.ofKind? w.ahead.kind = some op) :
    resume least frames e w
      = if threshold least (settle op.precedence frames e).1 < op.precedence
        then w.slide.slide.climb least
          (.binary (settle op.precedence frames e).2 w.ahead op
            :: (settle op.precedence frames e).1)
        else (.ok (settle op.precedence frames e).2, w) := by
  rw [resume, h]

/-- An operator in front of its operand binds it tighter than any token
behind it. -/
theorem resume_unary (t : Token) (op : UnaryOperator) (e : Expr) :
    resume least (.unary t op :: frames) e w
      = resume least frames (.unary t op e) w := by
  simp only [resume]
  split
  · rfl
  · next o h =>
    have hle : ¬Frame.precedence (.unary t op) < o.precedence := by
      intro hlt
      exact Nat.lt_asymm hlt o.precedence_lt_unary
    rw [settle, if_neg hle]
    rfl

/-- The right operand of an operator is complete before a token that
binds no tighter. -/
theorem resume_binary {left : Expr} {t : Token} {op : BinaryOperator}
    {e : Expr} (h : w.ahead.kind.precedence ≤ op.precedence) :
    resume least (.binary left t op :: frames) e w
      = resume least frames (.binary t op left e) w := by
  simp only [resume]
  split
  · rfl
  · next o ho =>
    have hle : ¬Frame.precedence (.binary left t op) < o.precedence := by
      rw [TokenKind.precedence, ho] at h
      exact Nat.not_lt.2 h
    rw [settle, if_neg hle]
    rfl

/-- An operator that binds tighter than what waits takes the operand as
its left one. -/
theorem resume_of_tighter {e : Expr} {op : BinaryOperator}
    (h : BinaryOperator.ofKind? w.ahead.kind = some op)
    (hlt : threshold least frames < op.precedence) :
    resume least frames e w
      = w.slide.slide.climb least (.binary e w.ahead op :: frames) := by
  have hsettle : settle op.precedence frames e = (frames, e) := by
    cases frames with
    | nil => rfl
    | cons f rest =>
        rw [settle]
        exact if_pos hlt
  rw [resume_of_some h, hsettle, if_pos hlt]

end Window

end Monkey
