import Dataflow.Compatibility

/-! Terminals are the outputs and inputs of nodes. One is known by its node and its name; its
contract does not take part. Two nodes may look alike, so nodes are told apart by a number. -/
namespace Dataflow

structure Owner where
  number : Nat
  node : Context

structure Terminal (α : Type) where
  owner : Owner
  name : String
  contract : α

abbrev Output := Terminal Spec

abbrev Input := Terminal InputSpec

namespace Terminal

def identity (t : Terminal α) : Nat × String := (t.owner.number, t.name)

def display (direction : String) (t : Terminal α) : String :=
  direction ++ "(" ++ t.owner.node.label ++ "." ++ t.name ++ ")"

end Terminal

def Output.display (t : Output) : String := Terminal.display "OutputPort" t

def Input.display (t : Input) : String := Terminal.display "InputPort" t

/-! ### Connecting -/

structure ConnectError where
  source : String
  target : String
  reason : Incompatibility
deriving DecidableEq, Repr

def ConnectError.message (e : ConnectError) : String :=
  "cannot connect " ++ e.source ++ " to " ++ e.target ++ ": " ++ e.reason.message

/-- Each side resolves its names against its own node. -/
def Output.connect (source : Output) (target : Input) : Except ConnectError Unit :=
  (source.contract.check target.contract (some source.owner.node) (some target.owner.node)).mapError
    fun reason => ⟨source.display, target.display, reason⟩

end Dataflow
