import Dataflow.Notation.Grammar
import Dataflow.Notation.Lexeme
import Dataflow.Spec

/-! Reading contract notation. Characters that make no token are reported and passed over; the
tokens are read up to the first that cannot stand where it is. The three ways in take a contract,
the contract of an input, and a bare shape. -/
namespace Dataflow.Notation

open Text (Span byteLength)

/-! ### Faults -/

/-- A token, or the end of the text, where something else has to stand. -/
structure Misplaced where
  found? : Option Token
  span : Span
  expected : List Expected
deriving DecidableEq, Repr

inductive Fault where
  | stray (lexeme : Lexeme)
  | misplaced (what : Misplaced)
deriving DecidableEq, Repr

namespace Fault

def span : Fault → Span
  | stray lexeme => lexeme.span
  | misplaced what => what.span

def message : Fault → String
  | stray lexeme => "unexpected character '" ++ String.ofList lexeme.text ++ "'"
  | misplaced what =>
    let found := match what.found? with
      | some token => "'" ++ token.display ++ "'"
      | none => Expected.endOfInput.display
    "found " ++ found ++ " expected " ++ Expected.displayAll what.expected

def placedMessage (f : Fault) : String := s!"{f.message} at {f.span.start}..{f.span.stop}"

end Fault

/-! ### Reading tokens -/

/-- Reads on from a state and what has been said so far; `stop` is where the text ends. -/
def ofTokens (stop : Nat) : State → Notation → List (Token × Span) → Except Misplaced Notation
  | s, n, [] => if s.Accepts then .ok n else .error ⟨none, ⟨stop, stop⟩, s.expected⟩
  | s, n, (token, span) :: rest =>
    match s.next? token with
    | some s' => ofTokens stop s' (n.extend s token) rest
    | none => .error ⟨some token, span, s.expected⟩

/-- What the tokens of a text say, whether or not there is something else between them. -/
def spelled (text : String) : Except Misplaced Notation :=
  ofTokens (byteLength text.toList) .start {} (tokens text)

/-- All that is wrong with a text: first the characters that make no token, then the first token
out of place. -/
def faults (text : String) : List Fault :=
  (strays text).map .stray ++
    match spelled text with
    | .ok _ => []
    | .error what => [.misplaced what]

/-! ### The ways in -/

inductive Problem where
  | malformed (faults : List Fault)
  | missingDtype
  | variadicOutput
  | notBareShape
deriving DecidableEq, Repr

def Problem.messages : Problem → List String
  | malformed faults => faults.map Fault.placedMessage
  | missingDtype => ["missing dtype before shape"]
  | variadicOutput => ["'...' is only valid on input ports"]
  | notBareShape => ["expected a bare shape like [batch, 3]"]

structure Error where
  input : String
  problem : Problem
deriving DecidableEq, Repr

namespace Error

def messages (e : Error) : List String := e.problem.messages

def message (e : Error) : String :=
  "invalid port notation '" ++ e.input ++ "': " ++ "; ".intercalate e.messages

end Error

/-- What a text without fault says. -/
def ofText (text : String) : Except Problem Notation :=
  match strays text, spelled text with
  | [], .ok n => .ok n
  | _, _ => .error (.malformed (faults text))

def toSpec (n : Notation) : Except Problem Spec :=
  match n.dtype? with
  | some name => .ok { dtype := .ofName name, shape := n.shape, optional := n.optional }
  | none => .error .missingDtype

def specOf (text : String) : Except Problem Spec := do
  let n ← ofText text
  if n.variadic then throw .variadicOutput
  n.toSpec

/-- The mark of a variadic input makes a list of one contract. -/
def inputOf (text : String) : Except Problem InputSpec := do
  let n ← ofText text
  let spec ← n.toSpec
  return if n.variadic then .variadic [spec] else .single spec

def shapeOf (text : String) : Except Problem Shape := do
  let n ← ofText text
  if n.dtype?.isSome || n.optional || n.variadic then throw .notBareShape
  return n.shape

def readSpec (text : String) : Except Error Spec := (specOf text).mapError (⟨text, ·⟩)

def readInput (text : String) : Except Error InputSpec := (inputOf text).mapError (⟨text, ·⟩)

def readShape (text : String) : Except Error Shape := (shapeOf text).mapError (⟨text, ·⟩)

end Dataflow.Notation
