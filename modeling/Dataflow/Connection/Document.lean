import Dataflow.Connection
import Dataflow.Notation.Reading
import Dataflow.Spec.Json

/-! Connections in JSON. Each side has a contract, in its notation or as JSON, and may have a
node. -/
namespace Dataflow

open Json (Reader)

/-- A contract as a text in contract notation, or given in full. -/
inductive Declared (α : Type) where
  | written (text : String)
  | given (contract : α)
deriving DecidableEq, Repr

/-- One side of a connection. -/
structure Endpoint (α : Type) where
  declared : Declared α
  node? : Option Node := none
deriving DecidableEq

structure Document where
  source : Endpoint Spec
  target : Endpoint InputSpec
deriving DecidableEq

/-! ### Writing -/

def Declared.toJson (contract : α → Json) : Declared α → Json
  | written text => .string text
  | given a => contract a

/-- A node that is absent is written as null. -/
def Endpoint.toJson (contract : α → Json) (e : Endpoint α) : Json :=
  .object [("spec", e.declared.toJson contract), ("node", (e.node?.map Node.toJson).getD .null)]

def Document.toJson (d : Document) : Json :=
  .object [("source", d.source.toJson Spec.toJson), ("target", d.target.toJson InputSpec.toJson)]

/-! ### Reading -/

def Declared.ofJson? (contract? : Json → Option α) : Json → Option (Declared α)
  | .string text => some (.written text)
  | v => (contract? v).map .given

namespace Endpoint

/-- What has been read of one side. -/
structure Draft (α : Type) where
  declared? : Option (Declared α) := none
  node? : Option (Option Node) := none

/-- Messages know the forms of a contract by `form`. -/
def record (form : String) (contract? : Json → Option α) : Json.Record (Draft α) (Endpoint α) where
  name := "Endpoint"
  fields := [
    .reading "spec" Draft.declared? (fun d x => { d with declared? := some x })
      (Json.readAlternative form (Declared.ofJson? contract?)),
    .reading "node" Draft.node? (fun d x => { d with node? := some x })
      fun depth => Json.readOption (Node.read depth)]
  blank := {}
  finish d :=
    match d.declared? with
    | none => .error "spec"
    | some declared => .ok ⟨declared, d.node?.join⟩

end Endpoint

namespace Document

/-- What has been read of a document. -/
structure Draft where
  source? : Option (Endpoint Spec) := none
  target? : Option (Endpoint InputSpec) := none

def record : Json.Record Draft Document where
  name := "ConnectionDoc"
  fields := [
    .reading "source" Draft.source? (fun d x => { d with source? := some x })
      (Endpoint.record "SourceDecl" Spec.ofJson?).read,
    .reading "target" Draft.target? (fun d x => { d with target? := some x })
      (Endpoint.record "TargetDecl" InputSpec.ofJson?).read]
  blank := {}
  finish d :=
    match d.source?, d.target? with
    | none, _ => .error "source"
    | _, none => .error "target"
    | some source, some target => .ok ⟨source, target⟩

def ofText (text : String) : Except Json.Error Document :=
  Json.readText (record.read Json.maxDepth) text

end Document

/-! ### Connections -/

def Declared.read (reader : String → Except Notation.Error α) : Declared α → Except Notation.Error α
  | written text => reader text
  | given a => .ok a

/-- The source is read first. -/
def Document.toConnection (d : Document) : Except Notation.Error Connection := do
  let source ← d.source.declared.read Notation.readSpec
  let target ← d.target.declared.read Notation.readInput
  return ⟨source, d.source.node?, target, d.target.node?⟩

/-! ### Files -/

/-- Why a file has no text. -/
inductive FileFault where
  | missing
  | forbidden
  | notDirectory
  | directory
  | nameTooLong
  | notText
  | other (message : String)
deriving DecidableEq, Repr

def FileFault.message : FileFault → String
  | missing => "No such file or directory (os error 2)"
  | forbidden => "Permission denied (os error 13)"
  | notDirectory => "Not a directory (os error 20)"
  | directory => "Is a directory (os error 21)"
  | nameTooLong => "File name too long (os error 36)"
  | notText => "stream did not contain valid UTF-8"
  | other message => message

namespace Document

inductive Error where
  | unreadable (path : String) (fault : FileFault)
  | malformed (error : Json.Error)
  | badNotation (error : Notation.Error)
deriving DecidableEq, Repr

def Error.message : Error → String
  | unreadable path fault => path ++ ": " ++ fault.message
  | malformed error => "malformed connection document: " ++ error.message
  | badNotation error => error.message

/-- The message followed by those of its causes. -/
def Error.chain (e : Error) : String :=
  match e with
  | unreadable _ fault => e.message ++ ": " ++ fault.message
  | malformed error => e.message ++ ": " ++ error.message
  | badNotation _ => e.message

/-- Reads the document in a file that holds this. -/
def ofFile (path : String) (contents : Except FileFault String) : Except Error Document := do
  let text ← contents.mapError (.unreadable path)
  (ofText text).mapError .malformed

end Document

end Dataflow
