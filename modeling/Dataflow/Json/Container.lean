import Dataflow.Json.Scalar
import Dataflow.Text.Blank

/-! Readers of lists and objects, whatever reads what they hold. They start after the opening
bracket and read the closing one. -/
namespace Dataflow.Json

open Text (skipSpace)

/-- Reads a value from the front of a text and returns the text after it. -/
abbrev Reader (α : Type) := List Char → Except Fault (α × List Char)

/-- What stands between two items: the start of another one, or the end of the container. -/
inductive Turn where
  | more (rest : List Char)
  | done (rest : List Char)

/-! ### Lists -/

/-- A comma precedes every item but the first. -/
def nextItem (first : Bool) (cs : List Char) : Except Fault Turn :=
  match skipSpace cs with
  | [] => .error (.here .endInList [])
  | ']' :: rest => .ok (.done rest)
  | c :: rest =>
    if first then .ok (.more (c :: rest))
    else if c = ',' then
      match skipSpace rest with
      | [] => .error (.here .endInValue [])
      | ']' :: rest => .error (.next .trailingComma (']' :: rest))
      | rest => .ok (.more rest)
    else .error (.next .listEndExpected (c :: rest))

/-- The end of a list that may hold no more. -/
def endList (cs : List Char) : Except Fault (List Char) :=
  match skipSpace cs with
  | [] => .error (.here .endInList [])
  | ']' :: rest => .ok rest
  | ',' :: rest =>
    match skipSpace rest with
    | ']' :: rest => .error (.next .trailingComma (']' :: rest))
    | rest => .error (.next .trailingCharacters rest)
  | rest => .error (.next .trailingCharacters rest)

/-- A fault in a list stands after the bracket or the comma that follows. -/
def closeList (cs : List Char) : List Char :=
  match skipSpace cs with
  | ']' :: rest => rest
  | ',' :: rest => skipSpace rest
  | rest => rest

def inList (r : Except Fault α) : Except Fault α := r.mapError (·.settle closeList)

/-- Each item takes a step. -/
def itemsFrom (item : Reader α) : (steps : Nat) → (first : Bool) → Reader (List α)
  | 0, _, _ => .error (.here .endInList [])
  | steps + 1, first, cs => do
    match ← nextItem first cs with
    | .done rest => return ([], rest)
    | .more rest =>
      let (a, rest) ← item rest
      let (as, rest) ← itemsFrom item steps false rest
      return (a :: as, rest)

def readItems (item : Reader α) : Reader (List α) := fun cs =>
  inList (itemsFrom item (cs.length + 1) true cs)

/-! ### Objects -/

/-- A comma precedes every name but the first; the text after the opening quote of a name. -/
def nextName (first : Bool) (cs : List Char) : Except Fault Turn :=
  match skipSpace cs with
  | [] => .error (.here .endInObject [])
  | '}' :: rest => .ok (.done rest)
  | c :: rest =>
    if first then
      if c = '"' then .ok (.more rest) else .error (.next .nameNotString (c :: rest))
    else if c = ',' then
      match skipSpace rest with
      | [] => .error (.here .endInValue [])
      | '"' :: rest => .ok (.more rest)
      | '}' :: rest => .error (.next .trailingComma ('}' :: rest))
      | rest => .error (.next .nameNotString rest)
    else .error (.next .objectEndExpected (c :: rest))

def readColon (cs : List Char) : Except Fault (List Char) :=
  match skipSpace cs with
  | [] => .error (.here .endInObject [])
  | ':' :: rest => .ok rest
  | rest => .error (.next .colonExpected rest)

/-- A fault in an object stands after the brace that follows. -/
def closeObject (cs : List Char) : List Char :=
  match skipSpace cs with
  | '}' :: rest => rest
  | rest => rest

def inObject (r : Except Fault α) : Except Fault α := r.mapError (·.settle closeObject)

/-- Each member takes a step; `member` reads what follows a name and adds it to what there is. -/
def membersFrom (member : σ → String → Reader σ) : (steps : Nat) → (first : Bool) → σ → Reader σ
  | 0, _, _, _ => .error (.here .endInObject [])
  | steps + 1, first, s, cs => do
    match ← nextName first cs with
    | .done rest => return (s, rest)
    | .more rest =>
      let (name, rest) ← readString rest
      let (s, rest) ← member s name rest
      membersFrom member steps false s rest

def readMembers (member : σ → String → Reader σ) (s : σ) : Reader σ := fun cs =>
  inObject (membersFrom member (cs.length + 1) true s cs)

/-- A member whose value is kept under its name. -/
def readMember (value : Reader α) (members : List (String × α)) (name : String) :
    Reader (List (String × α)) := fun cs => do
  let rest ← readColon cs
  let (v, rest) ← value rest
  return (members ++ [(name, v)], rest)

end Dataflow.Json
