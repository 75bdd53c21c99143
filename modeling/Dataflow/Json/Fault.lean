import Dataflow.Json.Writer
import Dataflow.Text.Quoted
import Dataflow.Text.Span

/-! What can be wrong with a JSON text, and where. A fault is found with some of the text unread;
one that concerns a whole value has no place until the container around the value gives it one. -/
namespace Dataflow.Json

open Text (byteLength)

/-! ### Causes -/

/-- A value as a message about its type shows it. -/
inductive Found where
  | null
  | bool (b : Bool)
  | number (n : Number)
  | string (s : String)
  | sequence
  | map
deriving DecidableEq, Repr

def found : Json → Found
  | .null => .null
  | .bool b => .bool b
  | .number n => .number n
  | .string s => .string s
  | .array _ => .sequence
  | .object _ => .map

def Found.display : Found → String
  | null => "null"
  | bool b => "boolean `" ++ toString b ++ "`"
  | number (.integer n) => "integer `" ++ decimalText n.val ++ "`"
  | number (.float x) => "floating point `" ++ String.ofList x.text ++ "`"
  | string s => "string " ++ Text.quoted s
  | sequence => "sequence"
  | map => "map"

inductive Reason where
  | endInValue
  | endInList
  | endInObject
  | endInString
  | valueExpected
  | literalExpected
  | colonExpected
  | listEndExpected
  | objectEndExpected
  | nameNotString
  | trailingComma
  | trailingCharacters
  | tooDeep
  | invalidNumber
  | numberOutOfRange
  | invalidEscape
  | controlCharacter
  | loneSurrogate
  | unpairedSurrogate
  | wrongType (found : Found) (expected : String)
  | missingField (name : String)
  | repeatedField (name : String)
  | wrongLength (length : Nat) (expected : String)
  | noAlternative (name : String)
deriving DecidableEq, Repr

def Reason.message : Reason → String
  | endInValue => "EOF while parsing a value"
  | endInList => "EOF while parsing a list"
  | endInObject => "EOF while parsing an object"
  | endInString => "EOF while parsing a string"
  | valueExpected => "expected value"
  | literalExpected => "expected ident"
  | colonExpected => "expected `:`"
  | listEndExpected => "expected `,` or `]`"
  | objectEndExpected => "expected `,` or `\x7d`"
  | nameNotString => "key must be a string"
  | trailingComma => "trailing comma"
  | trailingCharacters => "trailing characters"
  | tooDeep => "recursion limit exceeded"
  | invalidNumber => "invalid number"
  | numberOutOfRange => "number out of range"
  | invalidEscape => "invalid escape"
  | controlCharacter => "control character (\\u0000-\\u001F) found while parsing a string"
  | loneSurrogate => "lone leading surrogate in hex escape"
  | unpairedSurrogate => "unexpected end of hex escape"
  | wrongType found expected => "invalid type: " ++ found.display ++ ", expected " ++ expected
  | missingField name => "missing field `" ++ name ++ "`"
  | repeatedField name => "duplicate field `" ++ name ++ "`"
  | wrongLength length expected =>
    "invalid length " ++ toString length ++ ", expected " ++ expected
  | noAlternative name => "data did not match any variant of untagged enum " ++ name

/-! ### Faults while reading -/

/-- Where a fault was found: with so many bytes unread, or with this text unread but without a
place of its own. -/
inductive Place where
  | unread (bytes : Nat)
  | floating (rest : List Char)
deriving DecidableEq, Repr

structure Fault where
  reason : Reason
  place : Place
deriving DecidableEq, Repr

namespace Fault

/-- A fault where the unread text starts. -/
def here (reason : Reason) (rest : List Char) : Fault := ⟨reason, .unread (byteLength rest)⟩

/-- A fault one byte further, unless nothing is unread. -/
def next (reason : Reason) (rest : List Char) : Fault := ⟨reason, .unread (byteLength rest - 1)⟩

def floating (reason : Reason) (rest : List Char) : Fault := ⟨reason, .floating rest⟩

/-- Puts a floating fault where `close` leaves the unread text. -/
def settle (close : List Char → List Char) (f : Fault) : Fault :=
  match f.place with
  | .unread _ => f
  | .floating rest => here f.reason (close rest)

end Fault

/-! ### Errors in a text -/

/-- Lines count from one; a column is the number of bytes before it in its line. -/
structure Position where
  line : Nat
  column : Nat
deriving DecidableEq, Repr

/-- The position after a number of bytes, counted on from `p`. -/
def Position.advance (p : Position) : Nat → List Char → Position
  | _, [] => p
  | bytes, c :: cs =>
    if bytes < c.utf8Size then ⟨p.line, p.column + bytes⟩
    else if c = '\n' then advance ⟨p.line + 1, 0⟩ (bytes - c.utf8Size) cs
    else advance ⟨p.line, p.column + c.utf8Size⟩ (bytes - c.utf8Size) cs

def Position.after (bytes : Nat) (text : List Char) : Position := advance ⟨1, 0⟩ bytes text

structure Error where
  reason : Reason
  position? : Option Position
deriving DecidableEq, Repr

def Error.message (e : Error) : String :=
  match e.position? with
  | some p => e.reason.message ++ s!" at line {p.line} column {p.column}"
  | none => e.reason.message

/-- A fault as an error in the text it was found in. -/
def Fault.toError (text : List Char) (f : Fault) : Error :=
  match f.place with
  | .unread bytes => ⟨f.reason, some (Position.after (byteLength text - bytes) text)⟩
  | .floating _ => ⟨f.reason, none⟩

end Dataflow.Json
