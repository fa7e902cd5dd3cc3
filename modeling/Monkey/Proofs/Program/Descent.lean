/-
Reading an expression by rules. A table says how an operand begins with a
token of a kind (`prefixRules`), and another which kinds go on behind one,
and how tightly (`infixRules`). The reader looks a kind up, follows the
rule, and calls itself for the operand that an operator still wants
(`Window.Descends`). Where the tables and the operators of a kind disagreed
it would report a token that is not an operator, or end an expression before
an operator that binds.

They agree (`isSome_of_prefixRule?`, `infixRule?_eq`), so this never
happens, and what the rules give is what climbing gives
(`Window.descends_iff`). The calls that have not come back are the frames of
the climb: an operand that is read with a threshold is read with that
threshold innermost (`Window.Descends.climb`), and what it leaves ahead
binds no tighter, so the frame that waited for it is closed next.
-/
import Monkey.Proofs.Program.Climbing
import Monkey.Proofs.Program.Sight

namespace Monkey

-- =============================================================== rules

/-- What an operand that begins with a token is: a name, an integer, or an
operation whose operator stands in front. -/
inductive PrefixRule where
  | name
  | numeral
  | operation
deriving DecidableEq

/-- The kinds with which an operand may begin. -/
def prefixRules : List (TokenKind × PrefixRule) :=
  [(.identifier, .name), (.integer, .numeral), (.bang, .operation),
    (.minus, .operation)]

/-- The kinds that go on behind an operand, and how tightly. The rule is the
same for all of them. -/
def infixRules : List (TokenKind × Precedence) :=
  [(.equal, .equality), (.notEqual, .equality), (.lessThan, .comparison),
    (.greaterThan, .comparison), (.plus, .sum), (.minus, .sum),
    (.asterisk, .product), (.slash, .product)]

namespace TokenKind

/-- The rule for an operand that begins with a token of this kind. -/
def prefixRule? (k : TokenKind) : Option PrefixRule := prefixRules.lookup k

/-- How tightly the rule for a token behind an operand binds, if there is
one. -/
def infixRule? (k : TokenKind) : Option Precedence := infixRules.lookup k

/-- A kind without a rule binds nothing. -/
def bindingOf (k : TokenKind) : Precedence := k.infixRule?.getD default

variable {k : TokenKind}

/-- The rule for operations has an operator for every kind it is for. -/
theorem isSome_of_prefixRule? (h : k.prefixRule? = some .operation) :
    (UnaryOperator.ofKind? k).isSome = true := by
  cases k <;> first | rfl | cases h

/-- A kind without a rule is neither a name, nor an integer, nor an operator
in front of an operand. -/
theorem prefixRule?_eq_none (h : k.prefixRule? = none) :
    k ≠ .identifier ∧ k ≠ .integer ∧ UnaryOperator.ofKind? k = none := by
  cases k <;> first | exact ⟨by decide, by decide, rfl⟩ | cases h

/-- The rule for names is for names. -/
theorem prefixRule?_eq_name (h : k.prefixRule? = some .name) :
    k = .identifier := by
  cases k <;> first | rfl | cases h

/-- And the one for integers is for integers. -/
theorem prefixRule?_eq_numeral (h : k.prefixRule? = some .numeral) :
    k = .integer := by
  cases k <;> first | rfl | cases h

/-- The kinds that go on behind an operand are the operators between two,
with the precedence of the operator. -/
theorem infixRule?_eq (k : TokenKind) :
    k.infixRule? = (BinaryOperator.ofKind? k).map (·.precedence) := by
  cases k <;> rfl

/-- So a kind binds as its operator does. -/
theorem bindingOf_eq (k : TokenKind) : k.bindingOf = k.precedence := by
  cases k <;> rfl

end TokenKind

namespace Window

open Monkey.Frame TokenKind

variable {σ : Type} [TokenSupply σ]

-- ============================================================ descending

/-- Whether the token ahead goes on with the expression: it is no semicolon
and binds tighter than the threshold. -/
def GoesOn (least : Precedence) (w : Window σ) : Prop :=
  w.ahead.kind ≠ .semicolon ∧ least < w.ahead.kind.bindingOf

/-- What the reader gives with this threshold, and where. It is called where
an operand is due, and then again with each operand that is complete. -/
inductive Descends : Precedence → Option Expr → Window σ →
    Except ParseError Expr × Window σ → Prop
  | noRule {least : Precedence} {w : Window σ}
      (h : w.current.kind.prefixRule? = none) :
      Descends least none w
        (.error ⟨.noOperand w.current.kind, w.current⟩, w)
  | name {least : Precedence} {w : Window σ}
      {r : Except ParseError Expr × Window σ}
      (h : w.current.kind.prefixRule? = some .name)
      (later : Descends least (some (.identifier (.ofToken w.current))) w r) :
      Descends least none w r
  | numeral {least : Precedence} {w : Window σ} {v : Int}
      {r : Except ParseError Expr × Window σ}
      (h : w.current.kind.prefixRule? = some .numeral)
      (hread : Numeral.read w.current.literal.toList = .ok v)
      (later : Descends least (some (.integer w.current v)) w r) :
      Descends least none w r
  | noNumeral {least : Precedence} {w : Window σ} {fault : NumeralFault}
      (h : w.current.kind.prefixRule? = some .numeral)
      (hread : Numeral.read w.current.literal.toList = .error fault) :
      Descends least none w
        (.error ⟨.invalidInteger w.current.literal fault, w.current⟩, w)
  | noUnary {least : Precedence} {w : Window σ}
      (h : w.current.kind.prefixRule? = some .operation)
      (hop : UnaryOperator.ofKind? w.current.kind = none) :
      Descends least none w
        (.error ⟨.notAnOperator w.current.kind, w.current⟩, w)
  | unary {least : Precedence} {w w' : Window σ} {op : UnaryOperator}
      {operand : Expr} {r : Except ParseError Expr × Window σ}
      (h : w.current.kind.prefixRule? = some .operation)
      (hop : UnaryOperator.ofKind? w.current.kind = some op)
      (hoperand : Descends .unary none w.slide (.ok operand, w'))
      (later : Descends least (some (.unary w.current op operand)) w' r) :
      Descends least none w r
  | unaryError {least : Precedence} {w w' : Window σ} {op : UnaryOperator}
      {e : ParseError} (h : w.current.kind.prefixRule? = some .operation)
      (hop : UnaryOperator.ofKind? w.current.kind = some op)
      (hoperand : Descends .unary none w.slide (.error e, w')) :
      Descends least none w (.error e, w')
  | ended {least : Precedence} {left : Expr} {w : Window σ}
      (h : ¬w.GoesOn least) : Descends least (some left) w (.ok left, w)
  | noInfix {least : Precedence} {left : Expr} {w : Window σ}
      (h : w.GoesOn least) (hrule : w.ahead.kind.infixRule? = none) :
      Descends least (some left) w (.ok left, w)
  | noBinary {least : Precedence} {left : Expr} {w : Window σ}
      {p : Precedence} (h : w.GoesOn least)
      (hrule : w.ahead.kind.infixRule? = some p)
      (hop : BinaryOperator.ofKind? w.slide.current.kind = none) :
      Descends least (some left) w
        (.error ⟨.notAnOperator w.slide.current.kind, w.slide.current⟩,
          w.slide)
  | binary {least : Precedence} {left right : Expr} {w w' : Window σ}
      {p : Precedence} {op : BinaryOperator}
      {r : Except ParseError Expr × Window σ} (h : w.GoesOn least)
      (hrule : w.ahead.kind.infixRule? = some p)
      (hop : BinaryOperator.ofKind? w.slide.current.kind = some op)
      (hoperand : Descends w.slide.current.kind.bindingOf none w.slide.slide
        (.ok right, w'))
      (later : Descends least
        (some (.binary w.slide.current op left right)) w' r) :
      Descends least (some left) w r
  | binaryError {least : Precedence} {left : Expr} {w w' : Window σ}
      {p : Precedence} {op : BinaryOperator} {e : ParseError}
      (h : w.GoesOn least) (hrule : w.ahead.kind.infixRule? = some p)
      (hop : BinaryOperator.ofKind? w.slide.current.kind = some op)
      (hoperand : Descends w.slide.current.kind.bindingOf none w.slide.slide
        (.error e, w')) :
      Descends least (some left) w (.error e, w')

-- =============================================================== climbing

/-- What climbing does with these frames once a call has come back. -/
def comeBack (least : Precedence) (frames : List Frame) :
    Except ParseError Expr × Window σ → Except ParseError Expr × Window σ
  | (.ok e, w) => resume least frames e w
  | (.error e, w) => (.error e, w)

/-- Where climbing starts on what a call is asked for. -/
def goOn (least : Precedence) (frames : List Frame) (w : Window σ) :
    Option Expr → Except ParseError Expr × Window σ
  | none => w.climb least frames
  | some left => resume least frames left w

variable {least : Precedence} {w : Window σ} {left? : Option Expr}
  {r : Except ParseError Expr × Window σ}

/-- Behind an expression that is complete nothing more is read. -/
theorem resume_nil {e : Expr} (h : w.ahead.kind.precedence ≤ least) :
    resume least [] e w = (.ok e, w) := by
  unfold resume
  split
  · rfl
  · next op hop =>
    rw [TokenKind.precedence, hop] at h
    exact if_neg (Nat.not_lt.2 h)

/-- Where a call leaves an expression, nothing ahead binds tighter than its
threshold. -/
def Leaves (least : Precedence) (r : Except ParseError Expr × Window σ) :
    Prop :=
  ∀ e, r.1 = .ok e → r.2.ahead.kind.precedence ≤ least

omit [TokenSupply σ] in
/-- An error leaves none. -/
theorem leaves_error (e : ParseError) (w : Window σ) :
    Leaves least (.error e, w) := by
  intro e' he
  cases he

omit [TokenSupply σ] in
/-- A token that does not go on with an expression binds no tighter than the
threshold. -/
theorem precedence_le_of_not_goesOn (h : ¬w.GoesOn least) :
    w.ahead.kind.precedence ≤ least := by
  by_cases hs : w.ahead.kind = .semicolon
  · rw [hs]
    exact Nat.zero_le _
  · rw [← bindingOf_eq]
    exact Nat.not_lt.1 fun hlt => h ⟨hs, hlt⟩

omit [TokenSupply σ] in
/-- One that does is an operator. -/
theorem exists_op_of_goesOn (h : w.GoesOn least) :
    ∃ op, BinaryOperator.ofKind? w.ahead.kind = some op
      ∧ least < op.precedence := by
  have hlt := h.2
  rw [bindingOf_eq, TokenKind.precedence] at hlt
  cases hop : BinaryOperator.ofKind? w.ahead.kind with
  | none =>
      rw [hop] at hlt
      exact absurd hlt (Nat.not_lt_zero _)
  | some op =>
      rw [hop] at hlt
      exact ⟨op, rfl, hlt⟩

/-- The rule for it finds that operator, and its precedence. -/
theorem op_of_goesOn {op : BinaryOperator} (h : w.GoesOn least)
    (hop : BinaryOperator.ofKind? w.slide.current.kind = some op) :
    BinaryOperator.ofKind? w.ahead.kind = some op ∧ least < op.precedence
      ∧ w.slide.current.kind.bindingOf = op.precedence := by
  obtain ⟨op', hop', hlt⟩ := exists_op_of_goesOn h
  rw [current_slide] at hop ⊢
  rw [hop] at hop'
  cases hop'
  exact ⟨hop, hlt, by rw [bindingOf_eq, TokenKind.precedence, hop]⟩

/-- A call is a part of a climb: with frames of which the innermost binds as
tightly as its threshold says, climbing goes on where the call comes
back. -/
theorem Descends.climb (h : Descends least left? w r) :
    Leaves least r ∧ ∀ bottom frames, threshold bottom frames = least →
      w.goOn bottom frames left? = comeBack bottom frames r := by
  induction h with
  | @noRule least w h =>
      obtain ⟨hidentifier, hinteger, hunary⟩ := prefixRule?_eq_none h
      exact ⟨leaves_error _ _, fun bottom frames _ =>
        climb_of_error (.kind hidentifier hinteger hunary)⟩
  | @name least w r h _ ih =>
      have hk := prefixRule?_eq_name h
      refine ⟨ih.1, fun bottom frames hthreshold => ?_⟩
      rw [← ih.2 bottom frames hthreshold]
      exact climb_of_operand (.name hk)
  | @numeral least w v r h hread _ ih =>
      have hk := prefixRule?_eq_numeral h
      refine ⟨ih.1, fun bottom frames hthreshold => ?_⟩
      rw [← ih.2 bottom frames hthreshold]
      exact climb_of_operand (.numeral hk hread)
  | @noNumeral least w fault h hread =>
      have hk := prefixRule?_eq_numeral h
      exact ⟨leaves_error _ _, fun bottom frames _ =>
        climb_of_error (.numeral hk hread)⟩
  | @noUnary least w h hop =>
      have := isSome_of_prefixRule? h
      rw [hop] at this
      cases this
  | @unary least w w' op operand r h hop _ _ ihoperand ih =>
      refine ⟨ih.1, fun bottom frames hthreshold => ?_⟩
      have hcall := ihoperand.2 bottom (.unary w.current op :: frames) rfl
      calc w.climb bottom frames
          = w.slide.climb bottom (.unary w.current op :: frames) :=
            climb_of_unary hop
        _ = resume bottom (.unary w.current op :: frames) operand w' := hcall
        _ = resume bottom frames (.unary w.current op operand) w' :=
            resume_unary _ _ _
        _ = comeBack bottom frames r := ih.2 bottom frames hthreshold
  | @unaryError least w w' op e h hop _ ihoperand =>
      refine ⟨leaves_error _ _, fun bottom frames _ => ?_⟩
      exact (climb_of_unary hop).trans
        (ihoperand.2 bottom (.unary w.current op :: frames) rfl)
  | @ended least left w h =>
      refine ⟨?_, fun _ _ _ => rfl⟩
      intro e he
      exact precedence_le_of_not_goesOn h
  | @noInfix least left w h hrule =>
      obtain ⟨op, hop, -⟩ := exists_op_of_goesOn h
      rw [infixRule?_eq, hop] at hrule
      cases hrule
  | @noBinary least left w p h hrule hop =>
      obtain ⟨op, hop', -⟩ := exists_op_of_goesOn h
      rw [current_slide, hop'] at hop
      cases hop
  | @binary least left right w w' p op r h hrule hop _ _ ihoperand ih =>
      obtain ⟨hahead, hlt, hbinds⟩ := op_of_goesOn h hop
      rw [current_slide] at ih
      have hle := ihoperand.1 right rfl
      rw [hbinds] at hle
      refine ⟨ih.1, fun bottom frames hthreshold => ?_⟩
      have hcall := ihoperand.2 bottom (.binary left w.ahead op :: frames)
        hbinds.symm
      calc resume bottom frames left w
          = w.slide.slide.climb bottom (.binary left w.ahead op :: frames) :=
            resume_of_tighter hahead (hthreshold ▸ hlt)
        _ = resume bottom (.binary left w.ahead op :: frames) right w' := hcall
        _ = resume bottom frames (.binary w.ahead op left right) w' :=
            resume_binary hle
        _ = comeBack bottom frames r := ih.2 bottom frames hthreshold
  | @binaryError least left w w' p op e h hrule hop _ ihoperand =>
      obtain ⟨hahead, hlt, hbinds⟩ := op_of_goesOn h hop
      refine ⟨leaves_error _ _, fun bottom frames hthreshold => ?_⟩
      exact (resume_of_tighter hahead (hthreshold ▸ hlt)).trans
        (ihoperand.2 bottom (.binary left w.ahead op :: frames) hbinds.symm)

/-- What a call gives where an operand is due is the expression that climbing
gives. -/
theorem Descends.expression (h : Descends least none w r) :
    w.expression least = r := by
  obtain ⟨hleaves, hclimb⟩ := h.climb
  refine (hclimb least [] rfl).trans ?_
  obtain ⟨e | e, w'⟩ := r
  · rfl
  · exact resume_nil (hleaves e rfl)

/-- A call for an operand does not make more of what is left. -/
theorem Descends.size_le (h : Descends least none w r) : r.2.size ≤ w.size := by
  have hle := size_climb_le least [] w
  rwa [show w.climb least [] = r from h.expression] at hle

/-- Every call comes back. A call with a complete operand makes others only
behind an operator, and a call for an operand only behind one in front of
it, so what is left is less each time. -/
theorem exists_descends (w : Window σ) :
    (∀ least left, ∃ r, Descends least (some left) w r)
      ∧ ∀ least, ∃ r, Descends least none w r := by
  have hbehind : ∀ least left, ∃ r, Descends least (some left) w r := by
    intro least left
    by_cases h : w.GoesOn least
    · obtain ⟨op, hop, -⟩ := exists_op_of_goesOn h
      have hrule : w.ahead.kind.infixRule? = some op.precedence := by
        rw [infixRule?_eq, hop]
        rfl
      have hcurrent : BinaryOperator.ofKind? w.slide.current.kind = some op := by
        rw [current_slide]
        exact hop
      have hslide : w.slide.slide.size < w.size := by
        refine Nat.lt_of_le_of_lt (size_slide_le _) (size_slide_lt ?_)
        refine size_pos_of_ahead fun hend => ?_
        rw [hend] at hop
        cases hop
      obtain ⟨⟨e | right, w'⟩, hoperand⟩ :=
        (exists_descends w.slide.slide).2 w.slide.current.kind.bindingOf
      · exact ⟨_, .binaryError h hrule hcurrent hoperand⟩
      · have hlater := Nat.lt_of_le_of_lt hoperand.size_le hslide
        obtain ⟨r, hr⟩ := (exists_descends w').1 least
          (.binary w.slide.current op left right)
        exact ⟨r, .binary h hrule hcurrent hoperand hr⟩
    · exact ⟨_, .ended h⟩
  refine ⟨hbehind, fun least => ?_⟩
  cases hrule : w.current.kind.prefixRule? with
  | none => exact ⟨_, .noRule hrule⟩
  | some rule =>
      cases rule with
      | name =>
          obtain ⟨r, hr⟩ := hbehind least (.identifier (.ofToken w.current))
          exact ⟨r, .name hrule hr⟩
      | numeral =>
          cases hread : Numeral.read w.current.literal.toList with
          | ok v =>
              obtain ⟨r, hr⟩ := hbehind least (.integer w.current v)
              exact ⟨r, .numeral hrule hread hr⟩
          | error fault => exact ⟨_, .noNumeral hrule hread⟩
      | operation =>
          cases hop : UnaryOperator.ofKind? w.current.kind with
          | none => exact ⟨_, .noUnary hrule hop⟩
          | some op =>
              have hslide : w.slide.size < w.size := by
                refine size_slide_lt (size_pos_of_current fun hend => ?_)
                rw [hend] at hop
                cases hop
              obtain ⟨⟨e | operand, w'⟩, hoperand⟩ :=
                (exists_descends w.slide).2 .unary
              · exact ⟨_, .unaryError hrule hop hoperand⟩
              · have hlater := Nat.lt_of_le_of_lt hoperand.size_le hslide
                obtain ⟨r, hr⟩ := (exists_descends w').1 least
                  (.unary w.current op operand)
                exact ⟨r, .unary hrule hop hoperand hr⟩
termination_by w.size

/-- Reading by rules and climbing give the same. -/
theorem descends_iff :
    Descends least none w r ↔ w.expression least = r := by
  refine ⟨Descends.expression, ?_⟩
  rintro rfl
  obtain ⟨r, hr⟩ := (exists_descends w).2 least
  rwa [hr.expression]

end Window

end Monkey
