import Dataflow.Notation.Token

/-! Contract notation as a machine that reads one token at a time:

    notation := dtype? shape '?'? '...'?
    dtype    := ident ('.' ident)*
    shape    := '[' (dim (',' dim)* ','?)? ']'
    dim      := int | ident

Each state knows what may come next, and a state in which the text may end accepts. -/
namespace Dataflow

/-- What a text in contract notation says; which parts are welcome depends on where it stands. -/
structure Notation where
  dtype? : Option String := none
  shape : Shape := []
  optional : Bool := false
  variadic : Bool := false
deriving DecidableEq, Repr

namespace Notation

inductive State where
  | start
  | named
  | dotted
  | listing
  | listed
  | closed
  | marked
  | complete
deriving DecidableEq, Repr

namespace State

/-- What may come next, in the order in which a message lists it. -/
def expected : State → List Expected
  | start => [.ident, .openBracket]
  | named => [.dot, .openBracket]
  | dotted => [.ident]
  | listing => [.int, .ident, .closeBracket]
  | listed => [.comma, .closeBracket]
  | closed => [.question, .ellipsis, .endOfInput]
  | marked => [.ellipsis, .endOfInput]
  | complete => [.endOfInput]

def next? : State → Token → Option State
  | start, .ident _ => some named
  | start, .openBracket => some listing
  | named, .dot => some dotted
  | named, .openBracket => some listing
  | dotted, .ident _ => some named
  | listing, .int _ => some listed
  | listing, .ident _ => some listed
  | listing, .closeBracket => some closed
  | listed, .comma => some listing
  | listed, .closeBracket => some closed
  | closed, .question => some marked
  | closed, .ellipsis => some complete
  | marked, .ellipsis => some complete
  | _, _ => none

def Accepts (s : State) : Prop := .endOfInput ∈ s.expected

instance : DecidablePred Accepts := fun s => inferInstanceAs (Decidable (_ ∈ s.expected))

/-- A state goes on exactly with the tokens whose class it expects. -/
theorem isSome_next? (s : State) (t : Token) :
    (s.next? t).isSome = decide (t.expected ∈ s.expected) := by
  cases s <;> cases t <;> rfl

end State

/-- What a token read in a state adds to what the text says. -/
def extend (n : Notation) : State → Token → Notation
  | .start, .ident name => { n with dtype? := some name }
  | .dotted, .ident name => { n with dtype? := n.dtype?.map (· ++ "." ++ name) }
  | .listing, .int size => { n with shape := n.shape ++ [.size size] }
  | .listing, .ident name => { n with shape := n.shape ++ [.symbol name] }
  | .closed, .question => { n with optional := true }
  | .closed, .ellipsis | .marked, .ellipsis => { n with variadic := true }
  | _, _ => n

end Notation

end Dataflow
