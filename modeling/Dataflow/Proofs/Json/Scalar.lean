import Dataflow.Json.Scalar
import Dataflow.Proofs.Decimal
import Dataflow.Proofs.Traversal

/-! Strings and integers in JSON text: what has been written is read as it was. A string ends with
its quote; where a number ends depends on what follows it. -/
namespace Dataflow.Json

/-! ### Escapes -/

theorem readEscape_of_shortEscape? {c letter : Char} (h : shortEscape? c = some letter)
    (rest : List Char) : readEscape (letter :: rest) = .ok (c, rest) := by
  unfold shortEscape? at h
  split at h <;> cases h <;> rfl

theorem hexDigit?_digitChar {d : Nat} (h : d < 16) : hexDigit? (Nat.digitChar d) = some d := by
  have hall : ∀ d : Fin 16, hexDigit? (Nat.digitChar d) = some d.val := by decide
  exact hall ⟨d, h⟩

/-- A character below the blank is escaped by two hexadecimal digits. -/
theorem readUnicode_of_lt {c : Char} (h : c.toNat < 0x20) (rest : List Char) :
    readUnicode ('0' :: '0' :: Nat.digitChar (c.toNat / 16) ::
      Nat.digitChar (c.toNat % 16) :: rest) = .ok (c, rest) := by
  have hvalue : hexValue? ['0', '0', Nat.digitChar (c.toNat / 16), Nat.digitChar (c.toNat % 16)] =
      some c.toNat := by
    have hzero : hexDigit? '0' = some 0 := rfl
    simp [hexValue?, hzero, hexDigit?_digitChar (show c.toNat / 16 < 16 by omega),
      hexDigit?_digitChar (Nat.mod_lt c.toNat (show 0 < 16 by decide)), Nat.div_add_mod]
  have htrailing : isTrailing c.toNat = false := by
    simp only [isTrailing, Bool.and_eq_false_iff, decide_eq_false_iff_not]
    omega
  have hleading : isLeading c.toNat = false := by
    simp only [isLeading, Bool.and_eq_false_iff, decide_eq_false_iff_not]
    omega
  simp [readUnicode, readHex, hvalue, htrailing, hleading, pure, Except.pure, bind, Except.bind]

/-! ### Strings -/

/-- One step reads one character, in whatever way it has been written. -/
theorem readChars_escape (c : Char) (steps : Nat) (rest : List Char) :
    readChars (steps + 1) (escape c ++ rest) =
      (readChars steps rest).map fun p => (c :: p.1, p.2) := by
  unfold escape
  cases hshort : shortEscape? c with
  | some letter =>
    simp only [List.cons_append, List.nil_append, readChars]
    rw [if_neg (by decide), if_pos trivial]
    simp only [readEscape_of_shortEscape? hshort, ok_bind]
    cases readChars steps rest <;> rfl
  | none =>
    have hquote : c ≠ '"' := by
      rintro rfl
      cases hshort
    have hbackslash : c ≠ '\\' := by
      rintro rfl
      cases hshort
    dsimp only
    split
    · rename_i hlt
      simp only [List.cons_append, List.nil_append, readChars]
      rw [if_neg (by decide), if_pos trivial]
      simp only [readEscape, readUnicode_of_lt hlt, ok_bind]
      cases readChars steps rest <;> rfl
    · rename_i hge
      have hcontrol : isControl c = false := decide_eq_false hge
      simp only [List.cons_append, List.nil_append, readChars, hcontrol]
      rw [if_neg hquote, if_neg hbackslash]
      cases readChars steps rest <;> rfl

theorem readChars_flatMap_escape (cs : List Char) {steps : Nat} (h : cs.length < steps)
    (rest : List Char) :
    readChars steps (cs.flatMap escape ++ '"' :: rest) = .ok (cs, rest) := by
  induction cs generalizing steps with
  | nil =>
    obtain ⟨steps, rfl⟩ := Nat.exists_eq_add_of_lt h
    simp [readChars]
  | cons c cs ih =>
    obtain ⟨steps, rfl⟩ := Nat.exists_eq_succ_of_ne_zero (Nat.ne_zero_of_lt h)
    rw [List.flatMap_cons, List.append_assoc, readChars_escape, ih (Nat.lt_of_succ_lt_succ h)]
    rfl

theorem escape_ne_nil (c : Char) : escape c ≠ [] := by
  unfold escape
  split
  · simp
  · split <;> simp

theorem quoted_append (s : String) (rest : List Char) :
    quoted s ++ rest = '"' :: (s.toList.flatMap escape ++ '"' :: rest) := by
  simp [quoted]

/-- A string after its opening quote. -/
theorem readString_escape (s : String) (rest : List Char) :
    readString (s.toList.flatMap escape ++ '"' :: rest) = .ok (s, rest) := by
  have hlen : s.toList.length < (s.toList.flatMap escape ++ '"' :: rest).length := by
    have := length_le_length_flatMap escape_ne_nil s.toList
    rw [List.length_append, List.length_cons]
    omega
  rw [readString, readChars_flatMap_escape s.toList hlen]
  simp [bind, Except.bind, pure, Except.pure]

/-! ### Integers -/

/-- The text goes on with nothing that could belong to a number before it. -/
def EndsNumber (rest : List Char) : Prop :=
  ∀ c ∈ rest.head?, ¬ c.isDigit ∧ c ≠ '.' ∧ c ≠ 'e' ∧ c ≠ 'E'

theorem endsNumber_cons {c : Char} (h : c = ',' ∨ c = ']' ∨ c = '}') (rest : List Char) :
    EndsNumber (c :: rest) := by
  rintro _ ⟨⟩
  rcases h with rfl | rfl | rfl <;> decide

/-- Digits are gathered to the last one if their number stays within the limit. -/
theorem gather_eq {limit n : Nat} {ds : List Char} (h : Nat.ofDigitChars 10 ds n ≤ limit) :
    gather limit n ds = (Nat.ofDigitChars 10 ds n, []) := by
  induction ds generalizing n with
  | nil => rw [gather, Nat.ofDigitChars_nil]
  | cons d ds ih =>
    rw [Nat.ofDigitChars_cons] at h ⊢
    rw [gather, if_pos (Nat.le_trans (le_ofDigitChars ds _) h), ih h]

theorem readDigits_append (atEnd : Reason) {ds rest : List Char} (hne : ds ≠ [])
    (hds : ∀ d ∈ ds, d.isDigit) (hrest : ∀ c ∈ rest.head?, ¬ c.isDigit) :
    readDigits atEnd (ds ++ rest) = .ok (ds, rest) := by
  have htake := takeWhile_append_of_head hds hrest
  have hdrop := dropWhile_append_of_head hds hrest
  obtain ⟨d, ds, rfl⟩ := List.exists_cons_of_ne_nil hne
  rw [List.cons_append] at htake hdrop ⊢
  rw [readDigits, if_pos (hds d List.mem_cons_self), htake, hdrop]

theorem readWhole_toDigits (atEnd : Reason) (n : Nat) {rest : List Char} (h : EndsNumber rest) :
    readWhole atEnd (Nat.toDigits 10 n ++ rest) = .ok (Nat.toDigits 10 n, rest) := by
  have hdigits : ∀ c ∈ Nat.toDigits 10 n, c.isDigit := fun _ =>
    Nat.isDigit_of_mem_toDigits (by decide) (by decide)
  have hrest : ∀ c ∈ rest.head?, ¬ c.isDigit := fun c hc => (h c hc).1
  by_cases hn : n = 0
  · subst hn
    rw [Nat.toDigits_zero]
    cases rest with
    | nil => rfl
    | cons c rest => simp [readWhole, hrest c rfl]
  · rw [← readDigits_append atEnd Nat.toDigits_ne_nil hdigits hrest]
    obtain ⟨c, cs, hcs, -, hc⟩ := exists_toDigits_eq_cons n
    rw [hcs, List.cons_append]
    unfold readWhole
    split
    · rename_i heq
      exact absurd (List.cons.inj heq).1 (hc hn)
    · rfl

theorem readNumeral_toDigits (atEnd : Reason) (negative : Bool) (n : Nat) {rest : List Char}
    (h : EndsNumber rest) : readNumeral atEnd negative (Nat.toDigits 10 n ++ rest) =
      .ok (⟨negative, Nat.toDigits 10 n, [], none⟩, rest) := by
  have hfraction : readFraction atEnd rest = .ok ([], rest) := by
    unfold readFraction
    split
    · exact absurd rfl (h _ rfl).2.1
    · rfl
  have hexponent : readExponent atEnd rest = .ok (none, rest) := by
    unfold readExponent
    split
    · exact absurd rfl (h _ rfl).2.2.1
    · exact absurd rfl (h _ rfl).2.2.2
    · rfl
  rw [readNumeral, readWhole_toDigits atEnd n h]
  simp [hfraction, hexponent, bind, Except.bind, pure, Except.pure]

theorem ofInt?_val (n : WordInt) : WordInt.ofInt? n.val = some n := by
  rw [WordInt.ofInt?, dif_pos n.inRange]

theorem number?_toDigits (n : WordInt) :
    Numeral.number? ⟨decide (n.val < 0), Nat.toDigits 10 n.val.natAbs, [], none⟩ =
      some (.integer n) := by
  have hrange := n.inRange
  have hdigits : Numeral.wholeDigits ⟨decide (n.val < 0), Nat.toDigits 10 n.val.natAbs, [], none⟩ =
      (n.val.natAbs, []) := by
    have hle : Nat.ofDigitChars 10 (Nat.toDigits 10 n.val.natAbs) 0 ≤ 0xFFFFFFFFFFFFFFFF := by
      rw [Nat.ofDigitChars_ten_toDigits]
      omega
    rw [Numeral.wholeDigits, gather_eq hle, Nat.ofDigitChars_ten_toDigits]
  rw [Numeral.number?, Numeral.integer?, hdigits]
  by_cases hneg : n.val < 0
  · have hval : -(n.val.natAbs : Int) = n.val := by omega
    have hne : n.val.natAbs ≠ 0 := by omega
    simp only [decide_eq_true hneg, List.isEmpty_nil, Option.isNone_none, Bool.and_self, ↓reduceIte,
      if_neg hne, hval, ofInt?_val]
  · have hval : (n.val.natAbs : Int) = n.val := by omega
    simp only [decide_eq_false hneg, List.isEmpty_nil, Option.isNone_none, Bool.and_self,
      ↓reduceIte, Bool.false_eq_true, hval, ofInt?_val]

/-- An integer after its sign. -/
theorem readNumber_toDigits (n : WordInt) {rest : List Char} (h : EndsNumber rest) :
    readNumber (n.val < 0) (Nat.toDigits 10 n.val.natAbs ++ rest) = .ok (.integer n, rest) := by
  rw [readNumber, readNumeral_toDigits .endInValue _ _ h]
  simp only [bind, Except.bind, number?_toDigits]
  rfl

end Dataflow.Json
