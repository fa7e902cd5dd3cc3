/-
The kinds of token of the language, and how each is spelled. Symbols of
one character and keywords have a fixed spelling. Identifiers and
integers are spelled as the source has them. A character that starts no
token makes an illegal one, so that text is never lost, and the end of
the input is a token too.
-/
namespace Monkey

/-- The kinds of token. -/
inductive TokenKind where
  | illegal
  | endOfInput
  | identifier
  | integer
  | assign
  | plus
  | minus
  | bang
  | asterisk
  | slash
  | equal
  | notEqual
  | lessThan
  | greaterThan
  | comma
  | semicolon
  | leftParen
  | rightParen
  | leftBrace
  | rightBrace
  | function
  | letKeyword
  | trueKeyword
  | falseKeyword
  | ifKeyword
  | elseKeyword
  | returnKeyword
deriving DecidableEq

namespace TokenKind

/-- Every kind once, in the order of the language's own list. -/
def all : List TokenKind :=
  [.illegal, .endOfInput, .identifier, .integer, .assign, .plus, .minus,
    .bang, .asterisk, .slash, .equal, .notEqual, .lessThan, .greaterThan,
    .comma, .semicolon, .leftParen, .rightParen, .leftBrace, .rightBrace,
    .function, .letKeyword, .trueKeyword, .falseKeyword, .ifKeyword,
    .elseKeyword, .returnKeyword]

/-- The place of a kind in the list of all kinds. -/
def index (k : TokenKind) : Nat := k.ctorIdx

/-- Kinds are ordered as the list of all kinds has them. -/
instance : Ord TokenKind := ⟨fun a b => compare a.index b.index⟩

/-- How messages name a kind. A symbol is named by its spelling, except
the lone equals sign; that and all else is named by a word in
capitals. -/
def label : TokenKind → String
  | .illegal => "ILLEGAL"
  | .endOfInput => "EOF"
  | .identifier => "IDENT"
  | .integer => "INT"
  | .assign => "ASSIGN"
  | .plus => "+"
  | .minus => "-"
  | .bang => "!"
  | .asterisk => "*"
  | .slash => "/"
  | .equal => "=="
  | .notEqual => "!="
  | .lessThan => "<"
  | .greaterThan => ">"
  | .comma => ","
  | .semicolon => ";"
  | .leftParen => "("
  | .rightParen => ")"
  | .leftBrace => "\x7b"
  | .rightBrace => "\x7d"
  | .function => "FUNCTION"
  | .letKeyword => "LET"
  | .trueKeyword => "TRUE"
  | .falseKeyword => "FALSE"
  | .ifKeyword => "IF"
  | .elseKeyword => "ELSE"
  | .returnKeyword => "RETURN"

/-- The kind of a character that is a token whatever follows it. The
equals sign and the exclamation mark are not among them, since each may
go on with an equals sign. -/
def ofSymbol? : Char → Option TokenKind
  | '+' => some .plus
  | '-' => some .minus
  | ',' => some .comma
  | ';' => some .semicolon
  | '(' => some .leftParen
  | ')' => some .rightParen
  | '\x7b' => some .leftBrace
  | '\x7d' => some .rightBrace
  | '*' => some .asterisk
  | '/' => some .slash
  | '<' => some .lessThan
  | '>' => some .greaterThan
  | _ => none

/-- The kind of a reserved word. -/
def ofKeyword? : String → Option TokenKind
  | "let" => some .letKeyword
  | "fn" => some .function
  | "true" => some .trueKeyword
  | "false" => some .falseKeyword
  | "if" => some .ifKeyword
  | "else" => some .elseKeyword
  | "return" => some .returnKeyword
  | _ => none

/-- The kind of a word: that of the reserved word it is, or else an
identifier. -/
def ofWord (word : String) : TokenKind :=
  (ofKeyword? word).getD .identifier

end TokenKind

end Monkey
