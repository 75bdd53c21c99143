/-! Finite binary floating-point numbers of 64 bits. A magnitude is numbered by its place in the
increasing order of all magnitudes, which is also its bit pattern. Results of arithmetic are
rounded to the nearest magnitude, and of two equally near to the even one. -/
namespace Dataflow

structure Binary64 where
  negative : Bool
  magnitude : Nat
  finite : magnitude < 0x7FF0000000000000
deriving DecidableEq, Repr

namespace Binary64

/-- The first number that stands for no finite magnitude. -/
def infinity : Nat := 0x7FF0000000000000

def bits (x : Binary64) : Nat := (if x.negative then 0x8000000000000000 else 0) + x.magnitude

/-! ### Magnitudes as fractions -/

/-- The significand of a magnitude; it counts units of `2 ^ exponent`. -/
def significand (magnitude : Nat) : Nat :=
  if magnitude < 0x10000000000000 then magnitude
  else 0x10000000000000 + magnitude % 0x10000000000000

def exponent (magnitude : Nat) : Int :=
  if magnitude < 0x10000000000000 then -1074 else (magnitude / 0x10000000000000 : Nat) - 1075

/-- A number of units of `2 ^ e`, or any other base, as numerator and denominator. -/
def scaled (base count : Nat) (e : Int) : Nat × Nat :=
  (count * Nat.pow base e.toNat, Nat.pow base (-e).toNat)

def fraction (magnitude : Nat) : Nat × Nat := scaled 2 (significand magnitude) (exponent magnitude)

/-! ### Rounding -/

/-- The integer nearest to a quotient, the even one of two. -/
def roundDiv (num den : Nat) : Nat :=
  let q := num / den
  let r := num % den
  if 2 * r < den ∨ (2 * r = den ∧ q % 2 = 0) then q else q + 1

/-- The power of two at or below a positive fraction. -/
def binade (num den : Nat) : Int :=
  let d : Int := (num.log2 : Int) - den.log2
  if den * Nat.pow 2 d.toNat ≤ num * Nat.pow 2 (-d).toNat then d else d - 1

/-- The number of the magnitude nearest to a fraction, from `infinity` on if there is none. -/
def nearest (num den : Nat) : Nat :=
  if num = 0 then 0
  else
    let e := max (binade num den - 52) (-1074)
    (e + 1074).toNat * 0x10000000000000 +
      roundDiv (num * Nat.pow 2 (-e).toNat) (den * Nat.pow 2 e.toNat)

def mul (a b : Nat) : Nat :=
  let (p, q) := fraction a
  let (r, s) := fraction b
  nearest (p * r) (q * s)

def div (a b : Nat) : Nat :=
  let (p, q) := fraction a
  let (r, s) := fraction b
  nearest (p * s) (q * r)

def powerOfTen (k : Nat) : Nat := nearest (Nat.pow 10 k) 1

/-! ### Decimal scaling

A decimal is rounded once for its digits and once more for each scaling by a power of ten. -/

/-- The greatest exponent of a power of ten that is a magnitude. -/
def maxPower : Nat := 308

/-- Divides by `10 ^ k`, in steps where the power is no magnitude. -/
def scaleDown (a k : Nat) : Nat :=
  if k ≤ maxPower then div a (powerOfTen k)
  else if a = 0 then 0
  else scaleDown (div a (powerOfTen maxPower)) (k - maxPower)
termination_by k
decreasing_by simp only [maxPower] at *; omega

def scaleUp (a k : Nat) : Nat :=
  if a = 0 then 0
  else if k ≤ maxPower then mul a (powerOfTen k)
  else infinity

/-- The number that the digits of `n` stand for when the point moves `e` places to the right. -/
def ofDecimal? (negative : Bool) (n : Nat) (e : Int) : Option Binary64 :=
  let a := nearest n 1
  let scaled := if e < 0 then scaleDown a (-e).toNat else scaleUp a e.toNat
  if h : scaled < infinity then some ⟨negative, scaled, h⟩ else none

def zero (negative : Bool) : Binary64 := ⟨negative, 0, by decide⟩

end Binary64

end Dataflow
