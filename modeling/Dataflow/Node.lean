import Dataflow.Json.Record
import Dataflow.Json.Value

/-! Nodes have outputs and inputs. A node may have an identifier and any number of named attributes;
those that hold integers give its symbolic dimensions their sizes. -/
namespace Dataflow

/-! ### What resolution sees of a node -/

structure Context where
  id? : Option String
  attribute? : String → Option Value

namespace Context

/-- Stands for a node without an identifier. -/
def anonymous : String := "<node@*>"

/-- An empty identifier is none. -/
def label (c : Context) : String :=
  match c.id? with
  | some id => if id = "" then anonymous else id
  | none => anonymous

/-- The attribute as a size; none if it is absent or something else. -/
def size? (c : Context) (name : String) : Option Int64 := (c.attribute? name).bind Value.toInt64?

/-- Sizes under names, without an identifier. -/
def ofSizes (sizes : SortedMap Int64) : Context :=
  ⟨none, fun name => (sizes.find? name).map .ofInt64⟩

end Context

/-! ### Nodes -/

structure Node where
  id? : Option String := none
  attributes : SortedMap Value := .empty
deriving DecidableEq

namespace Node

def withId (id : String) : Node := { id? := some id }

/-- The last value set under a name stays. -/
def set (n : Node) (name : String) (v : Value) : Node :=
  { n with attributes := n.attributes.insert name v }

/-- The name `id` asks for the identifier, whatever attributes there are. -/
def attribute? (n : Node) (name : String) : Option Value :=
  if name = "id" then n.id?.map .ofString else n.attributes.find? name

theorem attribute?_set (n : Node) (name : String) (v : Value) (other : String) :
    (n.set name v).attribute? other =
      if other ≠ "id" ∧ other = name then some v else n.attribute? other := by
  by_cases h : other = "id" <;> simp [attribute?, set, SortedMap.find?_insert, h]

def context (n : Node) : Context := ⟨n.id?, n.attribute?⟩

@[simp] theorem attribute?_context (n : Node) : n.context.attribute? = n.attribute? := rfl

def label (n : Node) : String := n.context.label

@[simp] theorem label_context (n : Node) : n.context.label = n.label := rfl

/-! ### JSON -/

/-- One object with the identifier, if there is one, before the attributes. -/
def toJson (n : Node) : Json :=
  .object ((n.id?.map fun id => ("id", Json.string id)).toList ++
    n.attributes.entries.map fun e => (e.1, e.2.json))

/-- What has been read of a node. -/
structure Draft where
  id? : Option (Option String) := none
  attributes : List (String × Value) := []

open Json (Reader)

/-- A second `id` is refused even if the first was null. -/
def readMember (depth : Nat) (d : Draft) (name : String) : Reader Draft := fun cs => do
  if name = "id" then
    if d.id?.isSome then throw (.floating (.repeatedField "id") cs)
    let (id?, rest) ← Json.readOption Json.expectString (← Json.readColon cs)
    return ({ d with id? := some id? }, rest)
  else
    let (v, rest) ← Value.read depth (← Json.readColon cs)
    return ({ d with attributes := d.attributes ++ [(name, v)] }, rest)

def ofDraft (d : Draft) : Node := ⟨d.id?.join, .ofList d.attributes⟩

/-- A node is always an object. -/
def read (depth : Nat) : Reader Node := fun cs =>
  match Text.skipSpace cs, depth with
  | '{' :: rest, 0 => .error (.next .tooDeep ('{' :: rest))
  | '{' :: rest, depth + 1 => do
    let (d, rest) ← Json.readMembers (readMember depth) {} rest
    return (ofDraft d, rest)
  | rest, _ => .error (Json.mismatch "struct NodeAttrs" rest)

def ofText (text : String) : Except Json.Error Node := Json.readText (read Json.maxDepth) text

end Node

/-! ### Assignments -/

/-- An attribute as it is given on a command line, `NAME=VALUE`. -/
structure Assignment where
  name : String
  value : Value
deriving DecidableEq

namespace Assignment

inductive Problem where
  | noEquals (text : String)
  | noName (text : String)
deriving DecidableEq, Repr

def Problem.message : Problem → String
  | noEquals text => "expected NAME=VALUE, got '" ++ text ++ "'"
  | noName text => "empty attribute name in '" ++ text ++ "'"

/-- What is no JSON text is a string as it stands. -/
def valueOf (text : String) : Value :=
  match Value.ofText text with
  | .ok v => v
  | .error _ => .ofString text

/-- The name ends at the first equals sign. Blanks around the name and the value do not count. -/
def ofText (text : String) : Except Problem Assignment :=
  let chars := text.toList
  let name := Text.trim (String.ofList (chars.takeWhile (· ≠ '=')))
  match chars.dropWhile (· ≠ '=') with
  | [] => .error (.noEquals text)
  | _ :: value =>
    if name = "" then .error (.noName text)
    else .ok ⟨name, valueOf (Text.trim (String.ofList value))⟩

end Assignment

/-- The node with these attributes, the last of several with one name. -/
def Node.ofAssignments (id? : Option String) (assignments : List Assignment) : Node :=
  ⟨id?, .ofList (assignments.map fun a => (a.name, a.value))⟩

end Dataflow
