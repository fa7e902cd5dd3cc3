/-
Where text stands in its source. A position is a place between two
characters, counted three ways: in bytes from the start, in lines from
one, and in characters of its line from one. A span is a pair of
positions.

Positions move by whole characters only (`Position.after`), so all
three counts are functions of the characters passed, and never of how
the bytes of the source arrived.
-/
namespace Monkey

-- ============================================================ positions

/-- A place between two characters of a source text. `offset` counts
the UTF-8 bytes of the characters before it, `line` starts at one and
grows at each line feed, `column` starts at one in every line and counts
characters. -/
structure Position where
  offset : Nat
  line : Nat
  column : Nat
deriving DecidableEq

namespace Position

/-- The place before the first character. -/
def origin : Position := ⟨0, 1, 1⟩

/-- The place after one more character. A line feed opens the next
line; every other character, a carriage return or a tab included, is one
column wide. -/
def after (p : Position) (c : Char) : Position :=
  if c = '\n' then ⟨p.offset + c.utf8Size, p.line + 1, 1⟩
  else ⟨p.offset + c.utf8Size, p.line, p.column + 1⟩

/-- The place after a run of characters. -/
def afterAll (p : Position) (cs : List Char) : Position :=
  cs.foldl after p

@[simp] theorem afterAll_nil (p : Position) : p.afterAll [] = p := rfl

@[simp] theorem afterAll_cons (p : Position) (c : Char) (cs : List Char) :
    p.afterAll (c :: cs) = (p.after c).afterAll cs := rfl

/-- Passing two runs is passing their concatenation. -/
theorem afterAll_append (p : Position) (cs ds : List Char) :
    p.afterAll (cs ++ ds) = (p.afterAll cs).afterAll ds := by
  simp [afterAll]

end Position

-- ================================================================ spans

/-- The stretch of a source between two positions. -/
structure Span where
  start : Position
  stop : Position
deriving DecidableEq

namespace Span

/-- The empty span before the first character. -/
def origin : Span := ⟨.origin, .origin⟩

instance : Inhabited Span := ⟨origin⟩

/-- A span is written as the line and column of its start. -/
def text (s : Span) : String :=
  toString s.start.line ++ ":" ++ toString s.start.column

end Span

end Monkey
