/-
Sources that hold a text. What a source gives when it is read character
by character is a list of characters and then its end (`Reads`).

A lookahead has such a text before it (`Lookahead.Faces`) however much of
it was looked at: a look changes nothing, and taking a character leaves
the rest.
-/
import Monkey.Source.Lookahead

namespace Monkey

namespace ByteSource

-- ==================================================== reading to the end

/-- Read character by character, the source gives this text and then its
end, which is final. -/
inductive Reads : ByteSource → List Char → Prop
  | ended {s : ByteSource} {n : Nat}
      (h : s.nextChar = (.error .endOfInput, ⟨[], n⟩)) : Reads s []
  | char {s s' : ByteSource} {c : Char} {text : List Char}
      (h : s.nextChar = (.ok c, s')) (later : Reads s' text) :
      Reads s (c :: text)

/-- A source whose script is over has nothing before it. -/
theorem reads_over (n : Nat) : Reads ⟨[], n⟩ [] := .ended rfl

end ByteSource

-- ============================================================ lookahead

namespace Lookahead

/-- The characters still to come: the one that was looked at, if any, and
what the source gives. -/
inductive Faces : Lookahead → List Char → Prop
  | fresh {source : ByteSource} {text : List Char}
      (h : source.Reads text) : Faces ⟨source, none⟩ text
  | held {source : ByteSource} {text : List Char} (c : Char)
      (h : source.Reads text) : Faces ⟨source, some c⟩ (c :: text)

variable {a : Lookahead}

/-- A look at the end finds the end. -/
theorem peek_of_faces_nil (h : a.Faces []) :
    ∃ a', a.peek = (.error .endOfInput, a') ∧ a'.Faces [] := by
  cases h with
  | fresh h =>
      cases h with
      | @ended _ n h =>
          refine ⟨⟨⟨[], n⟩, none⟩, ?_, .fresh (ByteSource.reads_over n)⟩
          simp only [peek, h]

/-- A look finds the first character and moves nothing; letting go of
the character moves past it. -/
theorem peek_of_faces_cons {c : Char} {text : List Char}
    (h : a.Faces (c :: text)) :
    ∃ a', a.peek = (.ok c, a') ∧ a'.Faces (c :: text)
      ∧ a'.release.Faces text := by
  cases h with
  | fresh h =>
      cases h with
      | char h later =>
          refine ⟨⟨_, some c⟩, ?_, .held c later, .fresh later⟩
          simp only [peek, h]
  | held _ h => exact ⟨_, rfl, .held c h, .fresh h⟩

/-- There is nothing to take at the end. -/
theorem take_of_faces_nil (h : a.Faces []) :
    ∃ a', a.take = (.error .endOfInput, a') ∧ a'.Faces [] := by
  cases h with
  | fresh h =>
      cases h with
      | @ended _ n h =>
          refine ⟨⟨⟨[], n⟩, none⟩, ?_, .fresh (ByteSource.reads_over n)⟩
          simp only [take, h]

/-- What is taken is the first character. -/
theorem take_of_faces_cons {c : Char} {text : List Char}
    (h : a.Faces (c :: text)) :
    ∃ a', a.take = (.ok c, a') ∧ a'.Faces text := by
  cases h with
  | fresh h =>
      cases h with
      | char h later =>
          refine ⟨⟨_, none⟩, ?_, .fresh later⟩
          simp only [take, h]
  | held _ h => exact ⟨_, rfl, .fresh h⟩

end Lookahead

end Monkey
