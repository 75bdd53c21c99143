import Dataflow.Proofs.Notation.Scan

/-! The longest token at a place. What is taken there is the longest text of a token that begins
there, and it is a token unless 64 bits do not hold its value. Where the text of no token begins,
one character is taken, which is none. -/
namespace Dataflow.Notation

/-! ### The texts of tokens -/

/-- Characters that make a token, or would if there were a token for every integer. -/
def IsTokenText (cs : List Char) : Prop := (∃ t : Token, t.Spells cs) ∨ ∃ n, IsLiteral cs n

/-- Among the texts of tokens that begin where these characters do, with `after` behind them, none
is longer. -/
def IsLongest (cs after : List Char) : Prop :=
  ∀ v, v <+: cs ++ after → IsTokenText v → v.length ≤ cs.length

theorem Token.Spells.isTokenText {t : Token} {cs : List Char} (h : t.Spells cs) :
    IsTokenText cs := .inl ⟨t, h⟩

theorem IsLiteral.isTokenText {cs : List Char} {n : Int} (h : IsLiteral cs n) :
    IsTokenText cs := .inr ⟨n, h⟩

theorem isTokenText_dots : IsTokenText ['.', '.', '.'] := .inl ⟨.ellipsis, rfl⟩

theorem not_isTokenText_nil : ¬ IsTokenText [] := by
  have hliteral (n : Int) : ¬ IsLiteral [] n := by
    generalize hcs : ([] : List Char) = cs
    intro h
    cases h with
    | natural hne => exact hne hcs.symm
    | negative => cases hcs
  rintro (⟨t, h⟩ | ⟨n, h⟩)
  · cases t with
    | int n => exact hliteral _ h
    | ident name =>
      obtain ⟨hname, c, cs, hcs, -⟩ := h
      simp [← hname] at hcs
    | openBracket | closeBracket | comma | dot | ellipsis | question => cases h
  · exact hliteral n h

theorem exists_isLiteral_cons_iff {c : Char} {v : List Char} : (∃ n, IsLiteral (c :: v) n) ↔
    (c.isDigit ∧ ∀ d ∈ v, d.isDigit) ∨ (c = '-' ∧ v ≠ [] ∧ ∀ d ∈ v, d.isDigit) := by
  constructor
  · rintro ⟨n, h⟩
    generalize hcs : c :: v = cs at h
    cases h with
    | natural hne hdigits =>
      rw [← hcs] at hdigits
      exact .inl (List.forall_mem_cons.1 hdigits)
    | negative hne hdigits =>
      cases hcs
      exact .inr ⟨rfl, hne, hdigits⟩
  · rintro (⟨hc, hv⟩ | ⟨rfl, hne, hv⟩)
    · exact ⟨_, .natural (List.cons_ne_nil c v) (List.forall_mem_cons.2 ⟨hc, hv⟩)⟩
    · exact ⟨_, .negative hne hv⟩

theorem not_isLiteral_dot (cs : List Char) (n : Int) : ¬ IsLiteral ('.' :: cs) n := by
  intro h
  have hdigits := exists_isLiteral_cons_iff.1 ⟨n, h⟩
  simp at hdigits

/-- The marks of one character that begin no other token. -/
def marksOfOne : List Char := ['[', ']', ',', '?']

/-- The first character of a token tells what may come after it. -/
theorem isTokenText_cons_iff {c : Char} {v : List Char} : IsTokenText (c :: v) ↔
    (Lexeme.isIdentStart c ∧ ∀ d ∈ v, Lexeme.isIdentRest d) ∨
      ((c.isDigit ∧ ∀ d ∈ v, d.isDigit) ∨ (c = '-' ∧ v ≠ [] ∧ ∀ d ∈ v, d.isDigit)) ∨
      (c = '.' ∧ (v = [] ∨ v = ['.', '.'])) ∨ (c ∈ marksOfOne ∧ v = []) := by
  rw [← exists_isLiteral_cons_iff]
  constructor
  · rintro (⟨t, h⟩ | hliteral)
    · cases t with
      | int n => exact .inr (.inl ⟨_, h⟩)
      | ident name =>
        obtain ⟨hname, d, ds, hcs, hd, hds⟩ := h
        rw [← hname] at hcs
        cases hcs
        exact .inl ⟨hd, hds⟩
      | dot =>
        cases h
        exact .inr (.inr (.inl ⟨rfl, .inl rfl⟩))
      | ellipsis =>
        cases h
        exact .inr (.inr (.inl ⟨rfl, .inr rfl⟩))
      | openBracket | closeBracket | comma | question =>
        cases h
        exact .inr (.inr (.inr ⟨by decide, rfl⟩))
    · exact .inr (.inl hliteral)
  · rintro (⟨hc, hv⟩ | hliteral | ⟨rfl, rfl | rfl⟩ | ⟨hc, rfl⟩)
    · have hspells : (Token.ident (String.ofList (c :: v))).Spells (c :: v) :=
        ⟨by simp, c, v, by simp, hc, hv⟩
      exact hspells.isTokenText
    · exact .inr hliteral
    · exact .inl ⟨.dot, rfl⟩
    · exact .inl ⟨.ellipsis, rfl⟩
    · have hmark : ∃ t : Token, t.Spells [c] := by
        simp only [marksOfOne, List.mem_cons, List.not_mem_nil, or_false] at hc
        obtain rfl | rfl | rfl | rfl := hc
        · exact ⟨.openBracket, rfl⟩
        · exact ⟨.closeBracket, rfl⟩
        · exact ⟨.comma, rfl⟩
        · exact ⟨.question, rfl⟩
      exact .inl hmark

/-! ### What is taken -/

namespace Lexeme

theorem length_le_length_takeWhile {p : Char → Bool} {v cs : List Char} (hbegins : v <+: cs)
    (hv : ∀ d ∈ v, p d) : v.length ≤ (cs.takeWhile p).length := by
  obtain ⟨rest, rfl⟩ := hbegins
  rw [List.takeWhile_append_of_pos hv, List.length_append]
  omega

theorem munch_identStart {c : Char} (h : isIdentStart c) (cs : List Char) :
    munch c cs = ((cs.takeWhile isIdentRest).length,
      some (.ident (String.ofList (c :: cs.takeWhile isIdentRest)))) := by
  unfold munch
  rw [if_pos h]

theorem munch_digit {c : Char} (h : c.isDigit) (cs : List Char) :
    munch c cs = ((cs.takeWhile Char.isDigit).length,
      integer false (c :: cs.takeWhile Char.isDigit)) := by
  unfold munch
  rw [if_neg (not_isIdentStart_of_isDigit h), if_pos h]

theorem munch_minus (cs : List Char) :
    munch '-' cs = ((cs.takeWhile Char.isDigit).length,
      if (cs.takeWhile Char.isDigit).isEmpty then none
      else integer true (cs.takeWhile Char.isDigit)) := by
  rw [munch, if_neg (by decide), if_neg (by decide)]

theorem munch_dot (cs : List Char) :
    munch '.' cs = if ['.', '.'].isPrefixOf cs then (2, some .ellipsis) else (0, some .dot) := by
  rw [munch, if_neg (by decide), if_neg (by decide)]

theorem munch_mark {c : Char} (h : c ∈ marksOfOne) : ∃ t, ∀ cs, munch c cs = (0, some t) := by
  simp only [marksOfOne, List.mem_cons, List.not_mem_nil, or_false] at h
  obtain rfl | rfl | rfl | rfl := h <;> exact ⟨_, fun _ => rfl⟩

theorem munch_other {c : Char} (hstart : ¬ isIdentStart c) (hdigit : ¬ c.isDigit)
    (hminus : c ≠ '-') (hdot : c ≠ '.') (hmark : c ∉ marksOfOne) (cs : List Char) :
    munch c cs = (0, none) := by
  simp only [marksOfOne, List.mem_cons, List.not_mem_nil, or_false, not_or] at hmark
  obtain ⟨hopen, hclose, hcomma, hquestion⟩ := hmark
  unfold munch
  rw [if_neg hstart, if_neg hdigit]
  split
  · exact absurd rfl hminus
  · exact absurd rfl hdot
  · exact absurd rfl hopen
  · exact absurd rfl hclose
  · exact absurd rfl hcomma
  · exact absurd rfl hquestion
  · rfl

/-- No longer token begins at this place. -/
theorem length_le_munch {c : Char} {v cs : List Char} (hbegins : v <+: cs)
    (h : IsTokenText (c :: v)) : v.length ≤ (munch c cs).1 := by
  rw [isTokenText_cons_iff] at h
  obtain ⟨hc, hv⟩ | (⟨hc, hv⟩ | ⟨rfl, -, hv⟩) | ⟨rfl, rfl | rfl⟩ | ⟨-, rfl⟩ := h
  · rw [munch_identStart hc]
    exact length_le_length_takeWhile hbegins hv
  · rw [munch_digit hc]
    exact length_le_length_takeWhile hbegins hv
  · rw [munch_minus]
    exact length_le_length_takeWhile hbegins hv
  · exact Nat.zero_le _
  · rw [munch_dot, if_pos (List.isPrefixOf_iff_prefix.2 hbegins)]
    decide
  · exact Nat.zero_le _

theorem integer_eq_none_iff {negative : Bool} {digits : List Char} :
    integer negative digits = none ↔ IsOutOfRange (if negative then
      -(Nat.ofDigitChars 10 digits 0 : Int) else Nat.ofDigitChars 10 digits 0) := by
  rw [integer, Option.map_eq_none_iff, int64OfInt?_eq_none_iff]

/-- What is taken is no token if its value is too large, or if no token begins there. -/
theorem munch_eq_none {c : Char} {cs : List Char} (h : (munch c cs).2 = none) :
    (∃ n, IsLiteral (c :: cs.take (munch c cs).1) n ∧ IsOutOfRange n) ∨
      (munch c cs).1 = 0 ∧ ∀ v, v <+: cs → ¬ IsTokenText (c :: v) := by
  by_cases hstart : isIdentStart c
  · rw [munch_identStart hstart] at h
    cases h
  by_cases hdigit : c.isDigit
  · left
    rw [munch_digit hdigit] at h ⊢
    rw [take_takeWhile_length]
    refine ⟨_, .natural (List.cons_ne_nil _ _) ?_, integer_eq_none_iff.1 h⟩
    exact List.forall_mem_cons.2 ⟨hdigit, fun d hd => List.mem_takeWhile_imp hd⟩
  by_cases hminus : c = '-'
  · subst hminus
    rw [munch_minus] at h ⊢
    by_cases hdigits : cs.takeWhile Char.isDigit = []
    · right
      refine ⟨by simp [hdigits], fun v hbegins hv => ?_⟩
      have hlength := length_le_munch hbegins hv
      rw [munch_minus, hdigits, List.length_nil, Nat.le_zero, List.length_eq_zero_iff] at hlength
      simp [isTokenText_cons_iff, hlength, isIdentStart, marksOfOne] at hv
    · left
      simp only [List.isEmpty_iff, hdigits, ↓reduceIte] at h
      simp only [take_takeWhile_length]
      exact ⟨_, .negative hdigits fun d hd => List.mem_takeWhile_imp hd, integer_eq_none_iff.1 h⟩
  by_cases hdot : c = '.'
  · subst hdot
    rw [munch_dot] at h
    split at h <;> cases h
  by_cases hmark : c ∈ marksOfOne
  · obtain ⟨t, ht⟩ := munch_mark hmark
    rw [ht] at h
    cases h
  right
  refine ⟨by rw [munch_other hstart hdigit hminus hdot hmark], fun v _ hv => ?_⟩
  simp [isTokenText_cons_iff, hstart, hdigit, hminus, hdot, hmark] at hv

end Lexeme

end Dataflow.Notation
