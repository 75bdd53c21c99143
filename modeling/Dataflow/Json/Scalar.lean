import Dataflow.Json.Fault

/-! Readers of the parts of a JSON text that hold no other values: literals, numbers, strings. -/
namespace Dataflow.Json

open Text (byteLength)

/-! ### Literals -/

/-- Reads the characters of a word one by one. -/
def readLiteral : (word cs : List Char) → Except Fault (List Char)
  | [], cs => .ok cs
  | _ :: _, [] => .error (.here .endInValue [])
  | w :: word, c :: cs =>
    if c = w then readLiteral word cs else .error (.next .literalExpected (c :: cs))

/-! ### Numbers -/

/-- A number as it is written: its sign, the digits before the point, those after it, and the sign
and the digits of its exponent. -/
structure Numeral where
  negative : Bool
  whole : List Char
  fraction : List Char := []
  exponent? : Option (Bool × List Char) := none
deriving DecidableEq, Repr

/-- Digits, of which there has to be one; the text may end instead for the reason `atEnd`. -/
def readDigits (atEnd : Reason) (cs : List Char) : Except Fault (List Char × List Char) :=
  match cs with
  | [] => .error (.here atEnd [])
  | c :: _ =>
    if c.isDigit then .ok (cs.takeWhile Char.isDigit, cs.dropWhile Char.isDigit)
    else .error (.next .invalidNumber cs)

/-- A zero stands alone. -/
def readWhole (atEnd : Reason) (cs : List Char) : Except Fault (List Char × List Char) :=
  match cs with
  | '0' :: c :: rest =>
    if c.isDigit then .error (.next .invalidNumber (c :: rest)) else .ok (['0'], c :: rest)
  | _ => readDigits atEnd cs

def readFraction (atEnd : Reason) (cs : List Char) : Except Fault (List Char × List Char) :=
  match cs with
  | '.' :: rest => readDigits atEnd rest
  | _ => .ok ([], cs)

def readSign : List Char → Bool × List Char
  | '-' :: rest => (true, rest)
  | '+' :: rest => (false, rest)
  | cs => (false, cs)

def readExponent (atEnd : Reason) (cs : List Char) :
    Except Fault (Option (Bool × List Char) × List Char) :=
  match cs with
  | 'e' :: rest | 'E' :: rest => do
    let (negative, rest) := readSign rest
    let (digits, rest) ← readDigits atEnd rest
    return (some (negative, digits), rest)
  | _ => .ok (none, cs)

/-- The rest of a number whose sign has been read. -/
def readNumeral (atEnd : Reason) (negative : Bool) (cs : List Char) :
    Except Fault (Numeral × List Char) := do
  let (whole, rest) ← readWhole atEnd cs
  let (fraction, rest) ← readFraction atEnd rest
  let (exponent?, rest) ← readExponent atEnd rest
  return (⟨negative, whole, fraction, exponent?⟩, rest)

/-- Appends digits to a number as long as it stays at most `limit`; the digits left over. -/
def gather (limit n : Nat) : List Char → Nat × List Char
  | [] => (n, [])
  | d :: ds =>
    let m := 10 * n + (d.toNat - '0'.toNat)
    if m ≤ limit then gather limit m ds else (n, d :: ds)

namespace Numeral

/-- Digits beyond a word of 64 bits only count for the size of the number. -/
def wholeDigits (n : Numeral) : Nat × List Char := gather 0xFFFFFFFFFFFFFFFF 0 n.whole

def allDigits (n : Numeral) : Nat × List Char :=
  gather 0xFFFFFFFFFFFFFFFF n.wholeDigits.1 n.fraction

/-- The exponent of the last digit that counts, before the written exponent. -/
def scale (n : Numeral) : Int :=
  (n.wholeDigits.2.length : Int) - (n.fraction.length - n.allDigits.2.length : Nat)

/-- The written exponent as far as a word of 31 bits holds it, and its digits left over. -/
def exponentDigits (n : Numeral) : Nat × List Char :=
  match n.exponent? with
  | some (_, digits) => gather 0x7FFFFFFF 0 digits
  | none => (0, [])

def exponent (n : Numeral) : Int :=
  match n.exponent? with
  | some (true, _) => n.scale - n.exponentDigits.1
  | _ => n.scale + n.exponentDigits.1

/-- How many digits of a number that is too large its reader never comes to. -/
def undecided (n : Numeral) : Nat := n.exponentDigits.2.length - 1

def isPositivePower (n : Numeral) : Bool :=
  match n.exponent? with
  | some (negative, _) => !negative
  | none => true

/-- An exponent that no word holds makes the number too large or zero. -/
def float? (n : Numeral) : Option Binary64 :=
  if n.exponentDigits.2.isEmpty then Binary64.ofDecimal? n.negative n.allDigits.1 n.exponent
  else if n.isPositivePower && n.allDigits.1 ≠ 0 then none
  else some (.zero n.negative)

/-- Written as an integer and held by a word. There is no negative zero among them. -/
def integer? (n : Numeral) : Option WordInt :=
  if n.fraction.isEmpty && n.exponent?.isNone && n.wholeDigits.2.isEmpty then
    if n.negative then
      if n.wholeDigits.1 = 0 then none else WordInt.ofInt? (-n.wholeDigits.1)
    else WordInt.ofInt? n.wholeDigits.1
  else none

def number? (n : Numeral) : Option Number :=
  match n.integer? with
  | some i => some (.integer i)
  | none => n.float?.map .float

end Numeral

def readNumber (negative : Bool) (cs : List Char) : Except Fault (Number × List Char) := do
  let (n, rest) ← readNumeral .endInValue negative cs
  match n.number? with
  | some v => return (v, rest)
  | none => throw ⟨.numberOutOfRange, .unread (n.undecided + byteLength rest)⟩

/-! ### Strings -/

def hexDigit? (c : Char) : Option Nat :=
  if c.isDigit then some (c.toNat - '0'.toNat)
  else if 'a' ≤ c ∧ c ≤ 'f' then some (c.toNat - 'a'.toNat + 10)
  else if 'A' ≤ c ∧ c ≤ 'F' then some (c.toNat - 'A'.toNat + 10)
  else none

def hexValue? (cs : List Char) : Option Nat :=
  cs.foldlM (fun n c => (hexDigit? c).map (16 * n + ·)) 0

/-- Four hexadecimal digits. Other characters count as far as they fill four bytes. -/
def readHex (cs : List Char) : Except Fault (Nat × List Char) :=
  match hexValue? (cs.take 4) with
  | some n =>
    if 4 ≤ cs.length then .ok (n, cs.drop 4) else .error (.here .endInString [])
  | none =>
    if byteLength cs < 4 then .error (.here .endInString [])
    else .error ⟨.invalidEscape, .unread (byteLength cs - 4)⟩

def isLeading (n : Nat) : Bool := 0xD800 ≤ n && n < 0xDC00

def isTrailing (n : Nat) : Bool := 0xDC00 ≤ n && n < 0xE000

def readMark (mark : Char) (cs : List Char) : Except Fault (List Char) :=
  match cs with
  | [] => .error (.here .endInString [])
  | c :: rest => if c = mark then .ok rest else .error (.next .unpairedSurrogate cs)

/-- The character of an escape by number, after its `u`. Two halves make one character. -/
def readUnicode (cs : List Char) : Except Fault (Char × List Char) := do
  let (n, rest) ← readHex cs
  if isTrailing n then throw (.here .loneSurrogate rest)
  if !isLeading n then return (Char.ofNat n, rest)
  let rest ← readMark '\\' rest
  let rest ← readMark 'u' rest
  let (m, rest) ← readHex rest
  if !isTrailing m then throw (.here .loneSurrogate rest)
  return (Char.ofNat (0x10000 + (n - 0xD800) * 0x400 + (m - 0xDC00)), rest)

/-- The escapes of one letter. -/
def escaped? : Char → Option Char
  | '"' => some '"'
  | '\\' => some '\\'
  | '/' => some '/'
  | 'b' => some '\x08'
  | 'f' => some '\x0c'
  | 'n' => some '\n'
  | 'r' => some '\r'
  | 't' => some '\t'
  | _ => none

def readEscape (cs : List Char) : Except Fault (Char × List Char) :=
  match cs with
  | [] => .error (.here .endInString [])
  | 'u' :: rest => readUnicode rest
  | c :: rest =>
    match escaped? c with
    | some d => .ok (d, rest)
    | none => .error (.next .invalidEscape cs)

def isControl (c : Char) : Bool := c.toNat < 0x20

/-- Characters up to the closing quote. Each takes a step, so there are steps enough if there are
as many as characters. -/
def readChars : (steps : Nat) → List Char → Except Fault (List Char × List Char)
  | 0, _ | _, [] => .error (.here .endInString [])
  | steps + 1, c :: cs =>
    if c = '"' then .ok ([], cs)
    else if c = '\\' then do
      let (d, rest) ← readEscape cs
      let (ds, rest) ← readChars steps rest
      return (d :: ds, rest)
    else if isControl c then .error (.next .controlCharacter (c :: cs))
    else do
      let (ds, rest) ← readChars steps cs
      return (c :: ds, rest)

/-- A string whose opening quote has been read. -/
def readString (cs : List Char) : Except Fault (String × List Char) := do
  let (chars, rest) ← readChars cs.length cs
  return (String.ofList chars, rest)

end Dataflow.Json
