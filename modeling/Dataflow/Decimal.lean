/-! Integers in decimal notation, and the words that hold them. -/
namespace Dataflow

/-- The digits of a natural number with a minus sign before those of a negative one. -/
def decimal (n : Int) : List Char :=
  if n < 0 then '-' :: Nat.toDigits 10 n.natAbs else Nat.toDigits 10 n.natAbs

def decimalText (n : Int) : String := String.ofList (decimal n)

/-- The 64-bit integer of this value, if there is one. -/
def int64OfInt? (n : Int) : Option Int64 :=
  if Int64.minValue.toInt ≤ n ∧ n ≤ Int64.maxValue.toInt then some (Int64.ofInt n) else none

theorem int64OfInt?_toInt (n : Int64) : int64OfInt? n.toInt = some n := by
  rw [int64OfInt?, if_pos ⟨n.minValue_le_toInt, n.toInt_le⟩, Int64.ofInt_toInt]

end Dataflow
