import Dataflow.Json.Reader
import Dataflow.Json.Skip

/-! Readers of values of a fixed form. A record is written as an object, or as the list of its
fields; in an object unknown names are passed over and known ones may not repeat. -/
namespace Dataflow.Json

open Text (skipSpace)

/-! ### Scalars of one type -/

/-- The fault of a value of another type than expected. A scalar is read before it is refused, a
container is not. -/
def mismatch (expected : String) (cs : List Char) : Fault :=
  match skipSpace cs with
  | '[' :: rest => .here (.wrongType .sequence expected) ('[' :: rest)
  | '{' :: rest => .here (.wrongType .map expected) ('{' :: rest)
  | rest =>
    match readValue 0 rest with
    | .ok (v, rest) => .here (.wrongType v.found expected) rest
    | .error f => f

def expectString : Reader String := fun cs =>
  match skipSpace cs with
  | '"' :: rest => readString rest
  | rest => .error (mismatch "a string" rest)

def expectBool : Reader Bool := fun cs =>
  match skipSpace cs with
  | 't' :: rest => do return (true, ← readLiteral "rue".toList rest)
  | 'f' :: rest => do return (false, ← readLiteral "alse".toList rest)
  | rest => .error (mismatch "a boolean" rest)

/-- Nothing where `null` stands. -/
def readOption (reader : Reader α) : Reader (Option α) := fun cs =>
  match skipSpace cs with
  | 'n' :: rest => do return (none, ← readLiteral "ull".toList rest)
  | rest => do
    let (a, rest) ← reader rest
    return (some a, rest)

def expectList (item : Nat → Reader α) (depth : Nat) : Reader (List α) := fun cs =>
  match skipSpace cs with
  | '[' :: rest =>
    match depth with
    | 0 => .error (.next .tooDeep ('[' :: rest))
    | depth + 1 => readItems (item depth) rest
  | rest => .error (mismatch "a sequence" rest)

/-- A value that has to have one of the forms that `decode` knows. -/
def readAlternative (name : String) (decode : Json → Option α) (depth : Nat) : Reader α :=
  fun cs => do
    let (v, rest) ← readValue depth cs
    match decode v with
    | some a => return (a, rest)
    | none => throw (.floating (.noAlternative name) rest)

/-! ### Records -/

/-- A field of a record that is read into a draft of type `σ`. -/
structure Field (σ : Type) where
  name : String
  isSet : σ → Bool
  read : (depth : Nat) → σ → Reader σ

/-- A field whose value is kept in the draft. -/
def Field.reading (name : String) (get : σ → Option α) (put : σ → α → σ)
    (reader : (depth : Nat) → Reader α) : Field σ where
  name := name
  isSet s := (get s).isSome
  read depth s := fun cs => do
    let (a, rest) ← reader depth cs
    return (put s a, rest)

/-- A form of record. A draft becomes a value, or else lacks the field of the name returned. -/
structure Record (σ α : Type) where
  name : String
  fields : List (Field σ)
  blank : σ
  finish : σ → Except String α

namespace Record

def find? (r : Record σ α) (name : String) : Option (Field σ) := r.fields.find? (·.name = name)

def display (r : Record σ α) : String := "struct " ++ r.name

/-- What follows the name of a member. -/
def readMember (r : Record σ α) (depth : Nat) (s : σ) (name : String) : Reader σ := fun cs =>
  match r.find? name with
  | none => do return (s, ← skipValue (← readColon cs))
  | some field =>
    if field.isSet s then .error (.floating (.repeatedField name) cs)
    else do field.read depth s (← readColon cs)

def readObject (r : Record σ α) (depth : Nat) : Reader α := fun cs => do
  let (s, rest) ← readMembers (r.readMember depth) r.blank cs
  match r.finish s with
  | .ok a => return (a, rest)
  | .error name => throw (.here (.missingField name) rest)

/-- Reads the fields in their order as far as the list goes; how many were read. -/
def readFields (depth : Nat) : List (Field σ) → (count : Nat) → σ → Reader (σ × Nat)
  | [], count, s, cs => do return ((s, count), ← endList cs)
  | field :: fields, count, s, cs => do
    match ← nextItem (count = 0) cs with
    | .done rest => return ((s, count), rest)
    | .more rest =>
      let (s, rest) ← field.read depth s rest
      readFields depth fields (count + 1) s rest

def readList (r : Record σ α) (depth : Nat) : Reader α := fun cs => do
  let ((s, count), rest) ← inList (readFields depth r.fields 0 r.blank cs)
  match r.finish s with
  | .ok a => return (a, rest)
  | .error _ =>
    let expected := r.display ++ s!" with {r.fields.length} elements"
    throw (.here (.wrongLength count expected) rest)

def read (r : Record σ α) (depth : Nat) : Reader α := fun cs =>
  match skipSpace cs, depth with
  | '[' :: rest, 0 => .error (.next .tooDeep ('[' :: rest))
  | '{' :: rest, 0 => .error (.next .tooDeep ('{' :: rest))
  | '[' :: rest, depth + 1 => r.readList depth rest
  | '{' :: rest, depth + 1 => r.readObject depth rest
  | rest, _ => .error (mismatch r.display rest)

end Record

end Dataflow.Json
