import Dataflow.Json.Container

/-! Reading values from JSON text. Containers nest up to a limit. -/
namespace Dataflow.Json

open Text (isSpace skipSpace)

/-- How many containers may be open at once. -/
def maxDepth : Nat := 127

/-- Reads a value that opens at most `depth` containers one inside another. -/
def readValue : (depth : Nat) → Reader Json
  | depth, cs =>
    match skipSpace cs with
    | [] => .error (.here .endInValue [])
    | 'n' :: rest => do return (.null, ← readLiteral "ull".toList rest)
    | 't' :: rest => do return (.bool true, ← readLiteral "rue".toList rest)
    | 'f' :: rest => do return (.bool false, ← readLiteral "alse".toList rest)
    | '-' :: rest => do
      let (n, rest) ← readNumber true rest
      return (.number n, rest)
    | '"' :: rest => do
      let (s, rest) ← readString rest
      return (.string s, rest)
    | '[' :: rest =>
      match depth with
      | 0 => .error (.next .tooDeep ('[' :: rest))
      | depth + 1 => do
        let (items, rest) ← readItems (readValue depth) rest
        return (.array items, rest)
    | '{' :: rest =>
      match depth with
      | 0 => .error (.next .tooDeep ('{' :: rest))
      | depth + 1 => do
        let (members, rest) ← readMembers (readMember (readValue depth)) [] rest
        return (.object members, rest)
    | c :: rest =>
      if c.isDigit then do
        let (n, rest) ← readNumber false (c :: rest)
        return (.number n, rest)
      else .error (.next .valueExpected (c :: rest))

/-- Blanks before a value are passed over. -/
theorem readValue_space (depth : Nat) {c : Char} (h : isSpace c) (cs : List Char) :
    readValue depth (c :: cs) = readValue depth cs := by
  have hskip : skipSpace (c :: cs) = skipSpace cs := List.dropWhile_cons_of_pos h
  unfold readValue
  rw [hskip]

/-- Reads a whole text with blanks around what it holds. -/
def readText (reader : Reader α) (text : String) : Except Error α :=
  let chars := text.toList
  let result : Except Fault α := do
    let (a, rest) ← reader chars
    match skipSpace rest with
    | [] => return a
    | rest => throw (.next .trailingCharacters rest)
  result.mapError (·.toError chars)

/-- The value of a text, with all its members as they are written. -/
def ofText (text : String) : Except Error Json := readText (readValue maxDepth) text

end Dataflow.Json
