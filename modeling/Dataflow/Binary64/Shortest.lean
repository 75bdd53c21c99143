import Dataflow.Binary64

/-! The fewest decimal digits that read back as the same number, and how they are written. -/
namespace Dataflow.Binary64

/-! ### Digits -/

/-- Whether `n` units of `10 ^ p` round to this magnitude. Distances are counted in quarters of its
last place; below a power of two the neighbour is only half as far. -/
def roundsTo (magnitude n : Nat) (p : Int) : Bool :=
  let m := significand magnitude
  let below := if m = 0x10000000000000 ∧ 0x20000000000000 ≤ magnitude then 1 else 2
  let (num, den) := scaled 10 n p
  let (low, unit) := scaled 2 (4 * m - below) (exponent magnitude - 2)
  let (high, _) := scaled 2 (4 * m + 2) (exponent magnitude - 2)
  if m % 2 = 0 then low * den ≤ num * unit && num * unit ≤ high * den
  else low * den < num * unit && num * unit < high * den

/-- The neighbours of a magnitude on the grid of multiples of `10 ^ p`: the one at or below it and
whether the next is nearer, or as near and even. -/
def onGrid (magnitude : Nat) (p : Int) : Nat × Bool :=
  let (num, den) := fraction magnitude
  let top := num * Nat.pow 10 (-p).toNat
  let bottom := den * Nat.pow 10 p.toNat
  let n := top / bottom
  (n, roundDiv top bottom ≠ n)

/-- The neighbour on a grid that reads back, the nearer one if both do. -/
def hit? (magnitude : Nat) (p : Int) : Option Nat :=
  let (n, up) := onGrid magnitude p
  let candidates := if up then [n + 1, n] else [n, n + 1]
  candidates.find? (roundsTo magnitude · p)

/-- Tries ever finer grids from `10 ^ p` on. -/
def search (magnitude : Nat) : Nat → Int → Nat × Int
  | 0, p => ((onGrid magnitude p).1, p)
  | steps + 1, p =>
    match hit? magnitude p with
    | some n => (n, p)
    | none => search magnitude steps (p - 1)

/-- An exponent of ten above a magnitude. -/
def decimalBound (magnitude : Nat) : Int :=
  let (num, den) := fraction magnitude
  ((num.log2 : Int) - den.log2 + 1) * 30103 / 100000 + 2

/-- Digits `n` and exponent `p` such that `n * 10 ^ p` reads back, with as few digits as can be.
Seventeen digits always do, and the bound is at most three places high. -/
def shortest (magnitude : Nat) : Nat × Int := search magnitude 21 (decimalBound magnitude)

/-! ### Layout -/

/-- Which numbers are written without an exponent: those whose first digit stands at one of these
powers of ten. -/
structure Layout where
  least : Int
  greatest : Int

def layout : Layout := ⟨-5, 15⟩

/-- All digits are written out, with at least one after the point. -/
def positional (digits : List Char) (point : Int) : List Char :=
  if point ≤ 0 then '0' :: '.' :: List.replicate (-point).toNat '0' ++ digits
  else
    let whole := digits.take point.toNat ++ List.replicate (point.toNat - digits.length) '0'
    let rest := digits.drop point.toNat
    whole ++ '.' :: if rest.isEmpty then ['0'] else rest

/-- One digit before the point and none after it if there are no more; the exponent has a sign. -/
def scientific (digits : List Char) (e : Int) : List Char :=
  let sign := if e < 0 then '-' else '+'
  let tail := 'e' :: sign :: Nat.toDigits 10 e.natAbs
  match digits with
  | d :: f :: fs => d :: '.' :: f :: fs ++ tail
  | ds => ds ++ tail

def magnitudeText (magnitude : Nat) : List Char :=
  if magnitude = 0 then ['0', '.', '0']
  else
    let (n, p) := shortest magnitude
    let digits := Nat.toDigits 10 n
    let e := p + digits.length - 1
    if layout.least ≤ e ∧ e ≤ layout.greatest then positional digits (e + 1)
    else scientific digits e

def text (x : Binary64) : List Char :=
  if x.negative then '-' :: magnitudeText x.magnitude else magnitudeText x.magnitude

end Dataflow.Binary64
