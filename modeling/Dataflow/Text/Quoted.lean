import Dataflow.Text.Hidden

/-! Text between quotes as messages show it: what a reader could not see or take for part of the
quotes is escaped. -/
namespace Dataflow.Text

def quotedEscape? : Char → Option Char
  | '"' => some '"'
  | '\\' => some '\\'
  | '\n' => some 'n'
  | '\r' => some 'r'
  | '\t' => some 't'
  | '\x00' => some '0'
  | _ => none

def quotedChar (c : Char) : List Char :=
  match quotedEscape? c with
  | some letter => ['\\', letter]
  | none =>
    if isHidden c then '\\' :: 'u' :: '{' :: Nat.toDigits 16 c.toNat ++ ['}'] else [c]

def quoted (s : String) : String :=
  String.ofList ('"' :: s.toList.flatMap quotedChar ++ ['"'])

end Dataflow.Text
