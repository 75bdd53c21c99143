import Dataflow.Binary64.Shortest
import Dataflow.Json.Basic

/-! JSON text, in one line without blanks or with one item a line, indented by two blanks for each
level. Members are written in the order in which they stand. -/
namespace Dataflow

/-! ### Strings -/

/-- The escapes with a letter of their own. -/
def Json.shortEscape? : Char → Option Char
  | '"' => some '"'
  | '\\' => some '\\'
  | '\x08' => some 'b'
  | '\x0c' => some 'f'
  | '\n' => some 'n'
  | '\r' => some 'r'
  | '\t' => some 't'
  | _ => none

/-- Of the characters without a letter only those below the blank are escaped, by their number. -/
def Json.escape (c : Char) : List Char :=
  match shortEscape? c with
  | some letter => ['\\', letter]
  | none =>
    if c.toNat < 0x20 then
      ['\\', 'u', '0', '0', Nat.digitChar (c.toNat / 16), Nat.digitChar (c.toNat % 16)]
    else [c]

def Json.quoted (s : String) : List Char := '"' :: s.toList.flatMap escape ++ ['"']

/-! ### Numbers -/

def Number.text : Number → List Char
  | integer n => decimal n.val
  | float x => x.text

namespace Json

/-! ### In one line -/

mutual

def line : Json → List Char
  | null => "null".toList
  | bool true => "true".toList
  | bool false => "false".toList
  | number n => n.text
  | string s => quoted s
  | array items => '[' :: lineItems items ++ [']']
  | object members => '{' :: lineMembers members ++ ['}']

def lineItems : List Json → List Char
  | [] => []
  | [v] => line v
  | v :: items => line v ++ ',' :: lineItems items

def lineMembers : List (String × Json) → List Char
  | [] => []
  | [(name, v)] => quoted name ++ ':' :: line v
  | (name, v) :: members => quoted name ++ ':' :: line v ++ ',' :: lineMembers members

end

def compact (v : Json) : String := String.ofList v.line

/-! ### One item a line -/

def newline (level : Nat) : List Char := '\n' :: List.replicate (2 * level) ' '

mutual

def page (level : Nat) : Json → List Char
  | array [] => ['[', ']']
  | object [] => ['{', '}']
  | array items => '[' :: pageItems (level + 1) items ++ newline level ++ [']']
  | object members => '{' :: pageMembers (level + 1) members ++ newline level ++ ['}']
  | v => line v

def pageItems (level : Nat) : List Json → List Char
  | [] => []
  | [v] => newline level ++ page level v
  | v :: items => newline level ++ page level v ++ ',' :: pageItems level items

def pageMembers (level : Nat) : List (String × Json) → List Char
  | [] => []
  | [(name, v)] => newline level ++ quoted name ++ ':' :: ' ' :: page level v
  | (name, v) :: members =>
    newline level ++ quoted name ++ ':' :: ' ' :: page level v ++ ',' :: pageMembers level members

end

def pretty (v : Json) : String := String.ofList (v.page 0)

end Json

end Dataflow
