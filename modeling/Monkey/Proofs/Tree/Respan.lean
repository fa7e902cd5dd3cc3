/-
Trees and errors whose tokens stand elsewhere. A token is given another
span and keeps its kind and its text (`Token.respan`); a tree or an error
is given other spans token by token. What a token is read as does not
depend on where it stands (`Token.operand_respan`), nor do the frames of
a climb. Where none of its tokens moves, a tree stays as it is
(`Expr.respan_eq_self`, `Statement.Written.respan_eq_self`).
-/
import Monkey.Program.Climb
import Monkey.Proofs.Tree.Written

namespace Monkey

-- =============================================================== tokens

/-- The token with the span that `g` gives it. -/
def Token.respan (g : Token → Span) (t : Token) : Token :=
  { t with span := g t }

namespace Token

variable (g : Token → Span) (t : Token)

@[simp] theorem kind_respan : (t.respan g).kind = t.kind := rfl

@[simp] theorem literal_respan : (t.respan g).literal = t.literal := rfl

/-- With its own span a token is itself. -/
@[simp] theorem respan_span : t.respan Token.span = t := rfl

/-- And so it is with any span that is its own. -/
theorem respan_eq_self {g : Token → Span} {t : Token} (h : g t = t.span) :
    t.respan g = t := by
  rw [respan, h]

end Token

/-- The name with its token elsewhere. -/
def Identifier.respan (g : Token → Span) (id : Identifier) : Identifier :=
  ⟨id.token.respan g, id.name⟩

/-- The expression with its tokens elsewhere. -/
def Expr.respan (g : Token → Span) : Expr → Expr
  | identifier id => identifier (id.respan g)
  | integer t v => integer (t.respan g) v
  | unary t op operand => unary (t.respan g) op (operand.respan g)
  | binary t op left right =>
      binary (t.respan g) op (left.respan g) (right.respan g)

/-- The statement with its tokens elsewhere. -/
def Statement.respan (g : Token → Span) : Statement → Statement
  | binding t name e => binding (t.respan g) (name.respan g) (e.respan g)
  | result t e => result (t.respan g) (e.respan g)
  | expression t e => expression (t.respan g) (e.respan g)

/-- The error with its token elsewhere. -/
def ParseError.respan (g : Token → Span) (e : ParseError) : ParseError :=
  ⟨e.cause, e.token.respan g⟩

/-- Where its tokens stay, an expression stays. -/
theorem Expr.respan_eq_self {g : Token → Span} {e : Expr}
    (h : ∀ t ∈ e.tokens, g t = t.span) : e.respan g = e := by
  induction e with
  | identifier id =>
      have ht : g id.token = id.token.span := h _ (by simp [tokens])
      rw [respan, Identifier.respan, Token.respan_eq_self ht]
  | integer t v =>
      have ht : g t = t.span := h t (by simp [tokens])
      rw [respan, Token.respan_eq_self ht]
  | unary t op operand ih =>
      obtain ⟨ht, hoperand⟩ := List.forall_mem_cons.1 h
      rw [respan, Token.respan_eq_self ht, ih hoperand]
  | binary t op left right ihl ihr =>
      obtain ⟨hleft, hrest⟩ := List.forall_mem_append.1 h
      obtain ⟨ht, hright⟩ := List.forall_mem_cons.1 hrest
      rw [respan, Token.respan_eq_self ht, ihl hleft, ihr hright]

/-- So does a statement. -/
theorem Statement.Written.respan_eq_self {g : Token → Span} {s : Statement}
    {own : List Token} (h : s.Written own) (hg : ∀ t ∈ own, g t = t.span) :
    s.respan g = s := by
  cases h with
  | binding =>
      simp only [List.forall_mem_cons] at hg
      obtain ⟨ht, hname, -, hvalue⟩ := hg
      rw [respan, Token.respan_eq_self ht, Identifier.respan,
        Token.respan_eq_self hname, Expr.respan_eq_self hvalue]
  | result =>
      obtain ⟨ht, hvalue⟩ := List.forall_mem_cons.1 hg
      rw [respan, Token.respan_eq_self ht, Expr.respan_eq_self hvalue]
  | expression ht =>
      have hfirst := hg _ (List.mem_of_head? ht)
      rw [respan, Token.respan_eq_self hfirst, Expr.respan_eq_self hg]

/-- With its own spans an expression is itself. -/
@[simp] theorem Expr.respan_span (e : Expr) : e.respan Token.span = e :=
  respan_eq_self fun _ _ => rfl

/-- So is a statement. -/
@[simp] theorem Statement.respan_span (s : Statement) :
    s.respan Token.span = s := by
  cases s with
  | binding t name e => rw [respan, Expr.respan_span]; rfl
  | result t e => rw [respan, Expr.respan_span]; rfl
  | expression t e => rw [respan, Expr.respan_span]; rfl

-- ============================================================== results

/-- What was read, or why it could not be, with the tokens elsewhere. -/
def respanned {α : Type} (g : Token → Span) (f : α → α) :
    Except ParseError α → Except ParseError α
  | .ok a => .ok (f a)
  | .error e => .error (e.respan g)

/-- A single token is the same operand wherever it stands. -/
theorem Token.operand_respan (g : Token → Span) (t : Token) :
    (t.respan g).operand = respanned g (Expr.respan g) t.operand := by
  unfold operand
  simp only [kind_respan, literal_respan]
  split
  · rfl
  · split <;> rfl
  · rfl

-- =============================================================== frames

namespace Frame

/-- The frame with its tokens elsewhere. -/
def respan (g : Token → Span) : Frame → Frame
  | unary t op => unary (t.respan g) op
  | binary left t op => binary (left.respan g) (t.respan g) op

variable (g : Token → Span) (frames : List Frame) (e : Expr)

@[simp] theorem precedence_respan (f : Frame) :
    (f.respan g).precedence = f.precedence := by
  cases f <;> rfl

/-- A frame is closed in the same way wherever its tokens stand. -/
theorem close_respan (f : Frame) :
    (f.respan g).close (e.respan g) = (f.close e).respan g := by
  cases f <;> rfl

/-- So are all frames. -/
theorem closeAll_respan :
    closeAll (frames.map (respan g)) (e.respan g)
      = (closeAll frames e).respan g := by
  induction frames generalizing e with
  | nil => rfl
  | cons f rest ih =>
      show closeAll (rest.map (respan g)) ((f.respan g).close (e.respan g)) = _
      rw [close_respan, ih]
      rfl

/-- And as many of them. -/
theorem settle_respan (next : Precedence) :
    settle next (frames.map (respan g)) (e.respan g)
      = ((settle next frames e).1.map (respan g),
          (settle next frames e).2.respan g) := by
  induction frames generalizing e with
  | nil => rfl
  | cons f rest ih =>
      rw [List.map_cons, settle, settle, precedence_respan]
      by_cases h : f.precedence < next
      · rw [if_pos h, if_pos h]
        rfl
      · rw [if_neg h, if_neg h, close_respan, ih]

@[simp] theorem threshold_respan (least : Precedence) :
    threshold least (frames.map (respan g)) = threshold least frames := by
  cases frames with
  | nil => rfl
  | cons f rest => exact precedence_respan g f

end Frame

end Monkey
