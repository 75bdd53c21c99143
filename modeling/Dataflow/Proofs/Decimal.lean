import Dataflow.Decimal

/-! Digits of numbers and the numbers that digits stand for. -/
namespace Dataflow

theorem int64OfInt?_eq_some_iff {m : Int} {n : Int64} : int64OfInt? m = some n ↔ m = n.toInt := by
  constructor
  · intro h
    obtain ⟨hm, hn⟩ := Option.ite_none_right_eq_some.1 h
    rw [Int64.toInt_minValue, Int64.toInt_maxValue] at hm
    rw [← Option.some.inj hn, Int64.toInt_ofInt_of_le hm.1 (by omega)]
  · rintro rfl
    exact int64OfInt?_toInt n

/-- The number has no place in 64 bits. -/
def IsOutOfRange (m : Int) : Prop := m < Int64.minValue.toInt ∨ Int64.maxValue.toInt < m

theorem int64OfInt?_eq_none_iff {m : Int} : int64OfInt? m = none ↔ IsOutOfRange m := by
  rw [int64OfInt?, IsOutOfRange]
  split
  · simp only [reduceCtorEq, false_iff]
    omega
  · simp only [true_iff]
    omega

theorem le_ofDigitChars (ds : List Char) (n : Nat) : n ≤ Nat.ofDigitChars 10 ds n := by
  induction ds generalizing n with
  | nil => simp
  | cons d ds ih =>
    rw [Nat.ofDigitChars_cons]
    have := ih (10 * n + (d.toNat - '0'.toNat))
    omega

/-- The first digit of a number is zero only if the number is. -/
theorem exists_toDigits_eq_cons (n : Nat) :
    ∃ c cs, Nat.toDigits 10 n = c :: cs ∧ c.isDigit ∧ (n ≠ 0 → c ≠ '0') := by
  induction n using Nat.strongRecOn with
  | ind n ih =>
    obtain hlt | hle := Nat.lt_or_ge n 10
    · refine ⟨n.digitChar, [], Nat.toDigits_of_lt_base hlt, ?_, ?_⟩
      · rw [Nat.isDigit_digitChar, decide_eq_true hlt]
      · rw [ne_eq, ne_eq, Nat.digitChar_eq_zero]
        exact id
    · obtain ⟨c, cs, hcs, hdigit, hc⟩ := ih (n / 10) (by omega)
      rw [Nat.toDigits_of_base_le (by decide) hle, hcs]
      exact ⟨c, cs ++ _, rfl, hdigit, fun _ => hc (by omega)⟩

end Dataflow
