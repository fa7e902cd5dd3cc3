/-
Whole programs. Reading one never stops at an error: it gives every
statement that could be read, and every error beside them. Whoever wants
a program or nothing asks for the program of a text.
-/
import Monkey.Program.Statements

namespace Monkey

/-- What reading a program gives: the statements that could be read, the
errors between them, and what is left of the supply. -/
structure Reading (σ : Type) where
  program : Program
  errors : Diagnosis
  supply : σ

namespace Program

/-- Reads a program from a supply of tokens, up to the end of the
input. -/
def read {σ : Type} [TokenSupply σ] (supply : σ) : Reading σ :=
  let (statements, w) := (Window.start supply).statements
  ⟨⟨statements⟩, w.errors, w.supply⟩

/-- Reads a program from a source of bytes. -/
def ofSource (source : ByteSource) : Reading Scanner :=
  read (Scanner.ofSource source)

/-- The program that a text is, if there is no error in it. -/
def ofText (text : String) : Except Diagnosis Program :=
  let reading := ofSource (.ofText text)
  match reading.errors.toResult with
  | .ok () => .ok reading.program
  | .error errors => .error errors

end Program

end Monkey
