import Dataflow.Notation.Token
import Dataflow.Text.Blank
import Dataflow.Text.Span

/-! A text falls into lexemes with blanks between them. Each lexeme is the longest that starts at
its place: a token, or characters that make none. -/
namespace Dataflow.Notation

open Text (Span byteLength isSpace)

/-- A run of characters and its place; no token if the characters make none. -/
structure Lexeme where
  text : List Char
  span : Span
  token? : Option Token
deriving DecidableEq, Repr

namespace Lexeme

/-! ### Character classes -/

def isIdentStart (c : Char) : Bool := c.isAlpha || c = '_'

def isIdentRest (c : Char) : Bool := c.isAlphanum || c = '_'

/-! ### The longest lexeme at a place -/

/-- Digits after an optional minus sign make a token if 64 bits hold their value. -/
def integer (negative : Bool) (digits : List Char) : Option Token :=
  let n : Int := Nat.ofDigitChars 10 digits 0
  (int64OfInt? (if negative then -n else n)).map .int

/-- What starts at `c`: how many of the characters after it belong to it, and its token. -/
def munch (c : Char) (cs : List Char) : Nat × Option Token :=
  if isIdentStart c then
    let word := cs.takeWhile isIdentRest
    (word.length, some (.ident (String.ofList (c :: word))))
  else if c.isDigit then
    let digits := cs.takeWhile Char.isDigit
    (digits.length, integer false (c :: digits))
  else match c with
    | '-' =>
      let digits := cs.takeWhile Char.isDigit
      (digits.length, if digits.isEmpty then none else integer true digits)
    | '.' => if ['.', '.'].isPrefixOf cs then (2, some .ellipsis) else (0, some .dot)
    | '[' => (0, some .openBracket)
    | ']' => (0, some .closeBracket)
    | ',' => (0, some .comma)
    | '?' => (0, some .question)
    | _ => (0, none)

/-! ### All lexemes -/

/-- The lexemes of a text whose first byte has number `start`. -/
def scan (start : Nat) : List Char → List Lexeme
  | [] => []
  | c :: cs =>
    if isSpace c then scan (start + c.utf8Size) cs
    else
      let (more, token?) := munch c cs
      let text := c :: cs.take more
      let stop := start + byteLength text
      ⟨text, ⟨start, stop⟩, token?⟩ :: scan stop (cs.drop more)
termination_by cs => cs.length

def all (text : String) : List Lexeme := scan 0 text.toList

def placedToken? (l : Lexeme) : Option (Token × Span) := l.token?.map (·, l.span)

def isStray (l : Lexeme) : Bool := l.token?.isNone

end Lexeme

/-- The tokens of a text with their places. -/
def tokens (text : String) : List (Token × Span) := (Lexeme.all text).filterMap Lexeme.placedToken?

/-- The lexemes of a text that are no tokens. -/
def strays (text : String) : List Lexeme := (Lexeme.all text).filter Lexeme.isStray

end Dataflow.Notation
