import Dataflow.Binary64
import Dataflow.Decimal
import Dataflow.SortedMap

/-! Values of JSON. An object keeps its members as they were written, in order and with repeated
names; the canonical form of a value sorts them and lets the last of several with one name stay. -/
namespace Dataflow

/-- An integer that a signed or an unsigned word of 64 bits holds. -/
structure WordInt where
  val : Int
  inRange : -0x8000000000000000 ≤ val ∧ val < 0x10000000000000000
deriving DecidableEq, Repr

namespace WordInt

def ofInt? (n : Int) : Option WordInt :=
  if h : -0x8000000000000000 ≤ n ∧ n < 0x10000000000000000 then some ⟨n, h⟩ else none

def ofInt64 (n : Int64) : WordInt := ⟨n.toInt, by have := n.le_toInt; have := n.toInt_lt; omega⟩

def toInt64? (n : WordInt) : Option Int64 := int64OfInt? n.val

end WordInt

inductive Number where
  | integer (n : WordInt)
  | float (x : Binary64)
deriving DecidableEq, Repr

inductive Json where
  | null
  | bool (b : Bool)
  | number (n : Number)
  | string (s : String)
  | array (items : List Json)
  | object (members : List (String × Json))
deriving Repr

namespace Json

def ofInt64 (n : Int64) : Json := number (.integer (.ofInt64 n))

/-! ### Equality -/

mutual

def decEq : (a b : Json) → Decidable (a = b)
  | null, null => isTrue rfl
  | bool x, bool y => decidable_of_iff (x = y) (by simp)
  | number x, number y => decidable_of_iff (x = y) (by simp)
  | string x, string y => decidable_of_iff (x = y) (by simp)
  | array xs, array ys =>
    have := decEqItems xs ys
    decidable_of_iff (xs = ys) (by simp)
  | object xs, object ys =>
    have := decEqMembers xs ys
    decidable_of_iff (xs = ys) (by simp)
  | null, bool _ | null, number _ | null, string _ | null, array _ | null, object _ => isFalse nofun
  | bool _, null | bool _, number _ | bool _, string _ | bool _, array _ | bool _, object _ =>
    isFalse nofun
  | number _, null | number _, bool _ | number _, string _ | number _, array _
  | number _, object _ => isFalse nofun
  | string _, null | string _, bool _ | string _, number _ | string _, array _
  | string _, object _ => isFalse nofun
  | array _, null | array _, bool _ | array _, number _ | array _, string _ | array _, object _ =>
    isFalse nofun
  | object _, null | object _, bool _ | object _, number _ | object _, string _
  | object _, array _ => isFalse nofun

def decEqItems : (xs ys : List Json) → Decidable (xs = ys)
  | [], [] => isTrue rfl
  | x :: xs, y :: ys =>
    have := decEq x y
    have := decEqItems xs ys
    decidable_of_iff (x = y ∧ xs = ys) (by simp)
  | [], _ :: _ | _ :: _, [] => isFalse nofun

def decEqMembers : (xs ys : List (String × Json)) → Decidable (xs = ys)
  | [], [] => isTrue rfl
  | (k, x) :: xs, (l, y) :: ys =>
    have := decEq x y
    have := decEqMembers xs ys
    decidable_of_iff (k = l ∧ x = y ∧ xs = ys) (by simp [and_assoc])
  | [], _ :: _ | _ :: _, [] => isFalse nofun

end

instance : DecidableEq Json := decEq

/-! ### Kinds -/

inductive Kind where
  | null | bool | int | wideInt | float | str | list | dict
deriving DecidableEq, Repr

def Kind.display : Kind → String
  | null => "null"
  | bool => "bool"
  | int => "int"
  | wideInt => "int (out of range)"
  | float => "float"
  | str => "str"
  | list => "list"
  | dict => "dict"

/-- An integer is of the kind of sizes only if it could be one. -/
def kind : Json → Kind
  | null => .null
  | bool _ => .bool
  | number (.integer n) => if n.toInt64?.isSome then .int else .wideInt
  | number (.float _) => .float
  | string _ => .str
  | array _ => .list
  | object _ => .dict

def toInt64? : Json → Option Int64
  | number (.integer n) => n.toInt64?
  | _ => none

/-! ### Canonical form -/

mutual

def canonical : Json → Json
  | array items => array (canonicalItems items)
  | object members => object (sortEntries (canonicalMembers members))
  | v => v

def canonicalItems : List Json → List Json
  | [] => []
  | v :: items => v.canonical :: canonicalItems items

def canonicalMembers : List (String × Json) → List (String × Json)
  | [] => []
  | (name, v) :: members => (name, v.canonical) :: canonicalMembers members

end

end Json

end Dataflow
