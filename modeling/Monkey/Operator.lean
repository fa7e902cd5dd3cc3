/-
Operators and how tightly they bind. A precedence is a level, and a
higher level binds tighter. The operators between two operands stand on
four levels; an operator in front of its operand binds tighter than all
of them. Two operators on one level group to the left.
-/
import Monkey.Token.Kind

namespace Monkey

-- ========================================================== precedences

/-- The levels of binding, loosest first. Nothing in the language stands
on the level of calls yet. -/
inductive Precedence where
  | lowest
  | equality
  | comparison
  | sum
  | product
  | unary
  | call
deriving DecidableEq

namespace Precedence

/-- How tight a level is. -/
def rank : Precedence → Nat
  | lowest => 0
  | equality => 1
  | comparison => 2
  | sum => 3
  | product => 4
  | unary => 5
  | call => 6

instance : LT Precedence := ⟨fun a b => a.rank < b.rank⟩

instance : LE Precedence := ⟨fun a b => a.rank ≤ b.rank⟩

instance (a b : Precedence) : Decidable (a < b) :=
  inferInstanceAs (Decidable (a.rank < b.rank))

instance (a b : Precedence) : Decidable (a ≤ b) :=
  inferInstanceAs (Decidable (a.rank ≤ b.rank))

instance : Ord Precedence := ⟨fun a b => compare a.rank b.rank⟩

/-- Without an operator there is nothing that binds. -/
instance : Inhabited Precedence := ⟨lowest⟩

end Precedence

-- ============================================================ operators

/-- The operators in front of their operand. -/
inductive UnaryOperator where
  | not
  | negate
deriving DecidableEq

namespace UnaryOperator

/-- The operator that a token of this kind is in front of an operand. -/
def ofKind? : TokenKind → Option UnaryOperator
  | .bang => some not
  | .minus => some negate
  | _ => none

/-- How the operator is written. -/
def text : UnaryOperator → String
  | not => "!"
  | negate => "-"

end UnaryOperator

/-- The operators between two operands. -/
inductive BinaryOperator where
  | add
  | subtract
  | multiply
  | divide
  | greaterThan
  | lessThan
  | equal
  | notEqual
deriving DecidableEq

namespace BinaryOperator

/-- The operator that a token of this kind is behind an operand. -/
def ofKind? : TokenKind → Option BinaryOperator
  | .plus => some add
  | .minus => some subtract
  | .asterisk => some multiply
  | .slash => some divide
  | .greaterThan => some greaterThan
  | .lessThan => some lessThan
  | .equal => some equal
  | .notEqual => some notEqual
  | _ => none

/-- How the operator is written. -/
def text : BinaryOperator → String
  | add => "+"
  | subtract => "-"
  | multiply => "*"
  | divide => "/"
  | greaterThan => ">"
  | lessThan => "<"
  | equal => "=="
  | notEqual => "!="

/-- How tightly the operator binds. -/
def precedence : BinaryOperator → Precedence
  | add | subtract => .sum
  | multiply | divide => .product
  | greaterThan | lessThan => .comparison
  | equal | notEqual => .equality

/-- Operators between operands bind tighter than no operator at all. -/
theorem lowest_lt_precedence (op : BinaryOperator) :
    Precedence.lowest < op.precedence := by
  cases op <;> decide

/-- Operators between operands bind less tightly than those in front of
one. -/
theorem precedence_lt_unary (op : BinaryOperator) :
    op.precedence < Precedence.unary := by
  cases op <;> decide

end BinaryOperator

/-- How tightly a token binds what stands before it to what stands
behind it. -/
def TokenKind.precedence (k : TokenKind) : Precedence :=
  match BinaryOperator.ofKind? k with
  | some op => op.precedence
  | none => .lowest

end Monkey
