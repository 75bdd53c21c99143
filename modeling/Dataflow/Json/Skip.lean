import Dataflow.Json.Container

/-! Passing over a value that nobody asks for. It may nest without limit and its numbers may be of
any size, and the halves of an escaped character need not pair; all else has to be in order. -/
namespace Dataflow.Json

open Text (skipSpace)

def skipEscape (cs : List Char) : Except Fault (List Char) :=
  match cs with
  | [] => .error (.here .endInString [])
  | 'u' :: rest => do return (← readHex rest).2
  | c :: rest => if (escaped? c).isSome then .ok rest else .error (.next .invalidEscape cs)

/-- Passes the closing quote of a string. Each character takes a step. -/
def skipChars : (steps : Nat) → List Char → Except Fault (List Char)
  | 0, _ | _, [] => .error (.here .endInString [])
  | steps + 1, c :: cs =>
    if c = '"' then .ok cs
    else if c = '\\' then do skipChars steps (← skipEscape cs)
    else if isControl c then .error (.here .controlCharacter (c :: cs))
    else skipChars steps cs

def skipString (cs : List Char) : Except Fault (List Char) := skipChars cs.length cs

inductive Bracket where
  | list
  | object

/-- Where a walk over a value stands: before a value, or in a container before or after an item. -/
inductive Stage where
  | value
  | item
  | between

/-- Passes the name of a member and its colon. -/
def skipName (cs : List Char) : Except Fault (List Char) :=
  match skipSpace cs with
  | [] => .error (.here .endInObject [])
  | '"' :: rest => do readColon (← skipString rest)
  | rest => .error (.next .nameNotString rest)

/-- Passes what is left of a value in the containers that are open, the innermost first. Opening,
closing and going on to an item each take a step. -/
def skipFrom : (steps : Nat) → Stage → List Bracket → List Char → Except Fault (List Char)
  | 0, _, _, _ => .error (.here .endInValue [])
  | steps + 1, .value, brackets, cs =>
    match skipSpace cs with
    | [] => .error (.here .endInValue [])
    | 'n' :: rest => do skipFrom steps .between brackets (← readLiteral "ull".toList rest)
    | 't' :: rest => do skipFrom steps .between brackets (← readLiteral "rue".toList rest)
    | 'f' :: rest => do skipFrom steps .between brackets (← readLiteral "alse".toList rest)
    | '-' :: rest => do
      let (_, rest) ← readNumeral .invalidNumber true rest
      skipFrom steps .between brackets rest
    | '"' :: rest => do skipFrom steps .between brackets (← skipString rest)
    | '[' :: rest => skipFrom steps .item (.list :: brackets) rest
    | '{' :: rest => skipFrom steps .item (.object :: brackets) rest
    | c :: rest =>
      if c.isDigit then do
        let (_, rest) ← readNumeral .invalidNumber false (c :: rest)
        skipFrom steps .between brackets rest
      else .error (.next .valueExpected (c :: rest))
  | _ + 1, .item, [], cs | _ + 1, .between, [], cs => .ok cs
  | steps + 1, .item, .list :: brackets, cs =>
    match skipSpace cs with
    | [] => .error (.here .endInList [])
    | ']' :: rest => skipFrom steps .between brackets rest
    | rest => skipFrom steps .value (.list :: brackets) rest
  | steps + 1, .item, .object :: brackets, cs =>
    match skipSpace cs with
    | [] => .error (.here .endInObject [])
    | '}' :: rest => skipFrom steps .between brackets rest
    | rest => do skipFrom steps .value (.object :: brackets) (← skipName rest)
  | steps + 1, .between, .list :: brackets, cs =>
    match skipSpace cs with
    | [] => .error (.here .endInList [])
    | ']' :: rest => skipFrom steps .between brackets rest
    | ',' :: rest => skipFrom steps .value (.list :: brackets) rest
    | rest => .error (.next .listEndExpected rest)
  | steps + 1, .between, .object :: brackets, cs =>
    match skipSpace cs with
    | [] => .error (.here .endInObject [])
    | '}' :: rest => skipFrom steps .between brackets rest
    | ',' :: rest => do skipFrom steps .value (.object :: brackets) (← skipName rest)
    | rest => .error (.next .objectEndExpected rest)

def skipValue (cs : List Char) : Except Fault (List Char) :=
  skipFrom (2 * cs.length + 2) .value [] cs

end Dataflow.Json
