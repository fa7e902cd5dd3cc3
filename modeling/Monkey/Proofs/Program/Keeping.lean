/-
Every node of a tree that is read agrees with the token it keeps
(`ofSource_agrees`), whatever the source, and whether or not there were errors
around the tree. A name is the text of its token, an integer the number that
the digits of its token denote, an operator the one its token is spelled as;
and the token of an operation between two operands stands between theirs.

What a node means was read off its token (`Expr.Meant`), and the tokens of a
statement are a stretch of what the scanner handed out
(`Program.exists_written`). So all else is known of them from there: they are
spelled as their kinds say, and stand one behind another.
-/
import Monkey.Proofs.Program.Integers
import Monkey.Proofs.Token.Spelled

namespace Monkey

open Text

-- ============================================================ agreement

/-- A name is the text of its token: letters, and not a reserved word. -/
structure Identifier.Agrees (id : Identifier) : Prop where
  kind : id.token.kind = .identifier
  literal : id.token.literal = id.name
  ne_empty : id.name ≠ ""
  letters : ∀ c ∈ id.name.toList, isLetter c = true
  not_reserved : id.name ∉ reservedWords

/-- A node is what the token it keeps says: a name its text, an integer the
number that its digits denote, and an operation its operator. The token of an
operation between two operands stands behind all tokens of the left one and
before all of the right one. -/
inductive Expr.Agrees : Expr → Prop
  | identifier {id : Identifier} (h : id.Agrees) : Agrees (.identifier id)
  | integer {t : Token} {v : Int} (hkind : t.kind = .integer)
      (hne : t.literal ≠ "")
      (hdigits : ∀ c ∈ t.literal.toList, Numeral.isDigit c = true)
      (hvalue : v = Numeral.value t.literal.toList) (hnonneg : 0 ≤ v)
      (hle : v ≤ Numeral.greatest) : Agrees (.integer t v)
  | unary {t : Token} {op : UnaryOperator} {operand : Expr}
      (hop : UnaryOperator.ofKind? t.kind = some op)
      (htext : op.text = t.literal) : Agrees (.unary t op operand)
  | binary {t : Token} {op : BinaryOperator} {left right : Expr}
      (hop : BinaryOperator.ofKind? t.kind = some op)
      (htext : op.text = t.literal)
      (hleft : ∀ u ∈ left.tokens, u.Precedes t)
      (hright : ∀ u ∈ right.tokens, t.Precedes u) :
      Agrees (.binary t op left right)

/-- A statement keeps its keyword, or the leftmost token of its
expression. -/
inductive Statement.Agrees : Statement → Prop
  | binding {t : Token} {name : Identifier} {e : Expr}
      (hkind : t.kind = .letKeyword) (hliteral : t.literal = "let")
      (hname : name.Agrees) : Agrees (.binding t name e)
  | result {t : Token} {e : Expr} (hkind : t.kind = .returnKeyword)
      (hliteral : t.literal = "return") : Agrees (.result t e)
  | expression {t : Token} {e : Expr} (hfirst : e.tokens.head? = some t) :
      Agrees (.expression t e)

namespace Token

variable {t : Token}

/-- The token is spelled as its kind says, unless it is illegal. -/
def Spelled (t : Token) : Prop :=
  t.kind ≠ .illegal → Spelling t.kind t.literal.toList

/-- A token whose kind has one spelling has it. -/
theorem Spelled.literal_eq (h : t.Spelled) {fixed : String}
    (hfixed : t.kind.spelling? = some fixed) : t.literal = fixed := by
  have hillegal : t.kind ≠ .illegal := by
    intro hkind
    rw [hkind] at hfixed
    cases hfixed
  rw [← (h hillegal).eq_of_spelling? hfixed, String.ofList_toList]

/-- An identifier agrees with the name that it is. -/
theorem Spelled.identifier_agrees {id : Identifier} (h : id.token.Spelled)
    (hkind : id.token.kind = .identifier)
    (hliteral : id.token.literal = id.name) : id.Agrees := by
  have hspelling := h (by rw [hkind]; decide)
  rw [hkind] at hspelling
  obtain ⟨hne, hletters, hreserved⟩ := hspelling.letters
  rw [String.ofList_toList] at hreserved
  rw [hliteral] at hne hletters hreserved
  exact ⟨hkind, hliteral, mt String.toList_eq_nil_iff.2 hne, hletters,
    hreserved⟩

end Token

-- =============================================================== trees

/-- A tree that means what its tokens say agrees with them, if they are
spelled as their kinds say and stand one behind another. -/
theorem Expr.Meant.agrees {e : Expr} (h : e.Meant)
    (hspelled : ∀ t ∈ e.tokens, t.Spelled)
    (horder : e.tokens.Pairwise Token.Precedes) :
    ∀ p ∈ e.parts, p.Agrees := by
  induction e with
  | identifier id =>
      obtain ⟨hkind, hid⟩ := Token.operand_eq_identifier h
      have hliteral : id.token.literal = id.name := by
        conv_rhs => rw [hid]
        rfl
      have hagrees := (hspelled id.token List.mem_cons_self).identifier_agrees
        hkind hliteral
      exact List.forall_mem_singleton.2 (.identifier hagrees)
  | integer t v =>
      have hoperand : t.operand = .ok (.integer t v) := h
      obtain ⟨-, hkind⟩ := Token.operand_eq_integer hoperand
      have hspelling := hspelled t List.mem_cons_self (by rw [hkind]; decide)
      rw [hkind] at hspelling
      obtain ⟨hne, hdigits⟩ := hspelling.digits
      have hne : t.literal ≠ "" := mt String.toList_eq_nil_iff.2 hne
      rw [Token.operand_of_digits hkind ⟨hne, hdigits⟩] at hoperand
      split at hoperand
      · next hle =>
        cases hoperand
        exact List.forall_mem_singleton.2 (.integer hkind hne hdigits rfl
          (Int.natCast_nonneg _) hle)
      · cases hoperand
  | unary t op operand ih =>
      obtain ⟨hop, hoperand⟩ := h
      obtain ⟨ht, hspelled⟩ := List.forall_mem_cons.1 hspelled
      have htext := ht.literal_eq (UnaryOperator.spelling?_of_ofKind? hop)
      exact List.forall_mem_cons.2 ⟨.unary hop htext.symm,
        ih hoperand hspelled (List.pairwise_cons.1 horder).2⟩
  | binary t op left right ihl ihr =>
      obtain ⟨hop, hl, hr⟩ := h
      obtain ⟨hspelledl, hspelledr⟩ := List.forall_mem_append.1 hspelled
      obtain ⟨ht, hspelledr⟩ := List.forall_mem_cons.1 hspelledr
      obtain ⟨horderl, horderr, hbetween⟩ := List.pairwise_append.1 horder
      obtain ⟨hright, horderr⟩ := List.pairwise_cons.1 horderr
      have htext := ht.literal_eq (BinaryOperator.spelling?_of_ofKind? hop)
      have hleft : ∀ u ∈ left.tokens, u.Precedes t :=
        fun u hu => hbetween u hu t List.mem_cons_self
      exact List.forall_mem_cons.2 ⟨.binary hop htext.symm hleft hright,
        List.forall_mem_append.2 ⟨ihl hl hspelledl horderl,
          ihr hr hspelledr horderr⟩⟩

/-- So does a statement that is written in such tokens. -/
theorem Statement.Written.agrees {st : Statement} {own : List Token}
    (h : st.Written own) (hspelled : ∀ t ∈ own, t.Spelled) : st.Agrees := by
  cases h with
  | binding hlet hname htext _ =>
      simp only [List.forall_mem_cons] at hspelled
      obtain ⟨ht, hidentifier, -, -⟩ := hspelled
      exact .binding hlet (ht.literal_eq (by rw [hlet]; rfl))
        (hidentifier.identifier_agrees hname htext)
  | result hreturn =>
      obtain ⟨ht, -⟩ := List.forall_mem_cons.1 hspelled
      exact .result hreturn (ht.literal_eq (by rw [hreturn]; rfl))
  | expression hfirst => exact .expression hfirst

/-- The tokens of its expression are the last of those that a statement is
written in. -/
theorem Statement.Written.tokens_suffix {st : Statement} {own : List Token}
    (h : st.Written own) : st.value.tokens <:+ own := by
  cases h with
  | binding => exact ⟨[_, _, _], rfl⟩
  | result => exact ⟨[_], rfl⟩
  | expression => exact List.suffix_rfl

-- ============================================================== sources

/-- What is read off a scanner agrees with its tokens, whatever it scans. -/
theorem Program.read_agrees {s : Scanner} {st : Statement}
    (hst : st ∈ (Program.read s).program.statements) :
    st.Agrees ∧ ∀ e ∈ st.value.parts, e.Agrees := by
  obtain ⟨ts, last, hhands⟩ := TokenSupply.exists_hands s
  obtain ⟨own, hwritten, hwithin⟩ := Program.exists_written hhands hst
  have hspelled : ∀ t ∈ own, t.Spelled :=
    fun t ht => hhands.spelling t (hwithin.subset ht)
  have horder : own.Pairwise Token.Precedes :=
    hhands.precedes.2.sublist hwithin.sublist
  have hvalue := hwritten.tokens_suffix
  exact ⟨hwritten.agrees hspelled,
    (Window.statements_meant _ st hst).agrees
      (fun t ht => hspelled t (hvalue.subset ht))
      (horder.sublist hvalue.sublist)⟩

/-- Every node of every tree that is read agrees with the token it keeps,
from any source, with errors or without. -/
theorem ofSource_agrees {source : ByteSource} {st : Statement}
    (hst : st ∈ (Program.ofSource source).program.statements) :
    st.Agrees ∧ ∀ e ∈ st.value.parts, e.Agrees :=
  Program.read_agrees hst

/-- A source that ends for a while behind `let`, goes on with the name
without a blank, and fails behind the binding: what is read before the
failure agrees with its tokens. -/
theorem ofSource_agrees_broken_off :
    let source := ByteSource.ofEvents [.data [0x6C, 0x65, 0x74], .ended,
      .data [0x78, 0x3D, 0x30, 0x37, 0x2D], .data [0x2D, 0x79, 0x3B],
      .failed ⟨.other, none⟩]
    let place (n : Nat) : Position := ⟨n, 1, n + 1⟩
    let token (kind : TokenKind) (literal : String) (m n : Nat) : Token :=
      ⟨kind, literal, ⟨place m, place n⟩⟩
    let name := token .identifier "x" 3 4
    let seven := token .integer "07" 5 7
    let minus (n : Nat) := token .minus "-" n (n + 1)
    let e : Expr := .binary (minus 7) .subtract (.integer seven 7)
      (.unary (minus 8) .negate (.identifier ⟨token .identifier "y" 9 10, "y"⟩))
    let st := Statement.binding (token .letKeyword "let" 0 3) ⟨name, "x"⟩ e
    st ∈ (Program.ofSource source).program.statements
      ∧ st.Agrees ∧ ∀ p ∈ e.parts, p.Agrees := by
  intro source place token name seven minus e st
  have hst : st ∈ (Program.ofSource source).program.statements := by
    decide +kernel
  exact ⟨hst, ofSource_agrees hst⟩

end Monkey
