import Dataflow.Dim

/-! The tokens of contract notation, such as `float32[-1, bands]?`. Tokens fall into classes;
whether a token may stand somewhere depends on its class alone. -/
namespace Dataflow.Notation

inductive Token where
  | int (n : Int64)
  | ident (name : String)
  | openBracket
  | closeBracket
  | comma
  | dot
  | ellipsis
  | question
deriving DecidableEq, Repr

/-- What may stand at a place in a text: a token of some class, or its end. -/
inductive Expected where
  | int | ident | openBracket | closeBracket | comma | dot | ellipsis | question
  | endOfInput
deriving DecidableEq, Repr

namespace Token

def expected : Token → Expected
  | int _ => .int
  | ident _ => .ident
  | openBracket => .openBracket
  | closeBracket => .closeBracket
  | comma => .comma
  | dot => .dot
  | ellipsis => .ellipsis
  | question => .question

/-- An integer shows its value, a name only that it is one. -/
def display : Token → String
  | int n => decimalText n.toInt
  | ident _ => "<ident>"
  | openBracket => "["
  | closeBracket => "]"
  | comma => ","
  | dot => "."
  | ellipsis => "..."
  | question => "?"

end Token

namespace Expected

/-- Integers have no spelling in common, so they go by a phrase. -/
def display : Expected → String
  | int => "something else"
  | ident => "'<ident>'"
  | openBracket => "'['"
  | closeBracket => "']'"
  | comma => "','"
  | dot => "'.'"
  | ellipsis => "'...'"
  | question => "'?'"
  | endOfInput => "end of input"

/-- Alternatives in one phrase, the last one after an "or". -/
def displayAll : List Expected → String
  | [] => ""
  | [e] => e.display
  | [e, e'] => e.display ++ ", or " ++ e'.display
  | e :: es => e.display ++ ", " ++ displayAll es

end Expected

end Dataflow.Notation
