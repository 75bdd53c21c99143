import Dataflow.Text.Blank
import Mathlib.Data.List.DropRight

/-! Blanks at the ends of texts and between tokens. What has been trimmed stays as it is when it is
trimmed again. -/
namespace Dataflow.Text

/-- The characters from the exclamation mark to the tilde are not blank. -/
theorem not_isBlank_of_visible {c : Char} (h : 0x20 < c.toNat ∧ c.toNat < 0x7F) :
    ¬ isBlank c := by
  simp only [isBlank, blankRanges, List.any_cons, List.any_nil, Bool.or_eq_true, Bool.and_eq_true,
    decide_eq_true_eq, Bool.or_false]
  omega

/-! ### Trimming -/

theorem trimLeft_eq_self_iff {cs : List Char} :
    trimLeft cs = cs ↔ ∀ c ∈ cs.head?, ¬ isBlank c := by
  cases cs with
  | nil => simp [trimLeft]
  | cons c cs => simp [trimLeft, List.dropWhile_eq_self_iff]

theorem trimRight_eq_self_iff {cs : List Char} :
    trimRight cs = cs ↔ ∀ c ∈ cs.getLast?, ¬ isBlank c := by
  rw [trimRight, List.reverse_eq_iff, trimLeft_eq_self_iff, List.head?_reverse]

/-- Trimming leaves a text as it is exactly if neither end of it is blank. -/
theorem trim_eq_self_iff {s : String} : trim s = s ↔
    (∀ c ∈ s.toList.head?, ¬ isBlank c) ∧ ∀ c ∈ s.toList.getLast?, ¬ isBlank c := by
  rw [← trimLeft_eq_self_iff, ← trimRight_eq_self_iff, trim]
  constructor
  · intro h
    have hchars : trimRight (trimLeft s.toList) = s.toList := by
      rw [← String.toList_ofList (l := trimRight _), h]
    -- nothing is gained at the right of what has been lost at the left
    have hleft : trimLeft s.toList = s.toList := by
      have hle : (trimRight (trimLeft s.toList)).length ≤ (trimLeft s.toList).length :=
        (List.rdropWhile_prefix isBlank _).length_le
      rw [hchars] at hle
      exact (List.dropWhile_suffix isBlank).eq_of_length_le hle
    rw [hleft] at hchars
    exact ⟨hleft, hchars⟩
  · rintro ⟨hleft, hright⟩
    rw [hleft, hright, String.ofList_toList]

theorem trim_eq_self {s : String} (h : ∀ c ∈ s.toList, ¬ isBlank c) : trim s = s :=
  trim_eq_self_iff.2 ⟨fun c hc => h c (List.mem_of_mem_head? hc),
    fun c hc => h c (List.mem_of_mem_getLast? hc)⟩

/-- The first character that trimming leaves is not blank, even when it is taken from what the
other end leaves. -/
theorem trimLeft_trimRight_trimLeft (cs : List Char) :
    trimLeft (trimRight (trimLeft cs)) = trimRight (trimLeft cs) := by
  have hbegin : trimRight (trimLeft cs) <+: trimLeft cs := List.rdropWhile_prefix isBlank _
  refine List.dropWhile_eq_self_iff.2 fun hlen => ?_
  rw [hbegin.getElem hlen]
  exact List.dropWhile_get_zero_not isBlank cs (hlen.trans_le hbegin.length_le)

theorem trim_trim (s : String) : trim (trim s) = trim s := by
  have hright (cs : List Char) : trimRight (trimRight cs) = trimRight cs :=
    List.rdropWhile_idempotent isBlank cs
  simp only [trim, String.toList_ofList, trimLeft_trimRight_trimLeft, hright]

/-- A text of blanks alone. -/
def IsBlank (s : String) : Prop := ∀ c ∈ s.toList, isBlank c

instance : DecidablePred IsBlank := fun s =>
  decidable_of_iff (s.toList.all isBlank) List.all_eq_true

/-- `t` is what stands in `s` between the blanks at its ends. -/
structure IsCore (t s : String) : Prop where
  first : ∀ c ∈ t.toList.head?, ¬ isBlank c
  last : ∀ c ∈ t.toList.getLast?, ¬ isBlank c
  within : ∃ left right, s = left ++ t ++ right ∧ IsBlank left ∧ IsBlank right

theorem trimLeft_append {left cs : List Char} (h : ∀ c ∈ left, isBlank c) :
    trimLeft (left ++ cs) = trimLeft cs := List.dropWhile_append_of_pos h

theorem trimRight_append {right cs : List Char} (h : ∀ c ∈ right, isBlank c) :
    trimRight (cs ++ right) = trimRight cs := by
  rw [trimRight, List.reverse_append, trimLeft_append fun c hc => h c (List.mem_reverse.1 hc),
    trimRight]

theorem exists_trimLeft (cs : List Char) :
    ∃ left, cs = left ++ trimLeft cs ∧ ∀ c ∈ left, isBlank c :=
  ⟨cs.takeWhile isBlank, List.takeWhile_append_dropWhile.symm, fun _ => List.mem_takeWhile_imp⟩

theorem exists_trimRight (cs : List Char) :
    ∃ right, cs = trimRight cs ++ right ∧ ∀ c ∈ right, isBlank c := by
  obtain ⟨right, hcs, hright⟩ := exists_trimLeft cs.reverse
  refine ⟨right.reverse, ?_, fun c hc => hright c (List.mem_reverse.1 hc)⟩
  rw [trimRight, ← List.reverse_append, ← hcs, List.reverse_reverse]

theorem isCore_trim (s : String) : IsCore (trim s) s := by
  obtain ⟨hfirst, hlast⟩ := trim_eq_self_iff.1 (trim_trim s)
  refine ⟨hfirst, hlast, ?_⟩
  obtain ⟨left, hs, hleft⟩ := exists_trimLeft s.toList
  obtain ⟨right, hcs, hright⟩ := exists_trimRight (trimLeft s.toList)
  refine ⟨String.ofList left, String.ofList right, ?_, ?_, ?_⟩
  · rw [trim, ← String.ofList_append, ← String.ofList_append, List.append_assoc, ← hcs, ← hs,
      String.ofList_toList]
  · rwa [IsBlank, String.toList_ofList]
  · rwa [IsBlank, String.toList_ofList]

/-- Trimming takes off all blanks at both ends and nothing else. -/
theorem trim_eq_iff {s t : String} : trim s = t ↔ IsCore t s := by
  constructor
  · rintro rfl
    exact isCore_trim s
  · rintro ⟨hfirst, hlast, left, right, rfl, hleft, hright⟩
    have hcore : trimRight (trimLeft (t.toList ++ right.toList)) = t.toList := by
      cases ht : t.toList with
      | nil =>
        rw [List.nil_append, ← List.append_nil right.toList, trimLeft_append hright]
        rfl
      | cons c cs =>
        have hhead : ∀ d ∈ (c :: cs ++ right.toList).head?, ¬ isBlank d := by
          rw [ht] at hfirst
          exact hfirst
        rw [trimLeft_eq_self_iff.2 hhead, trimRight_append hright, ← ht,
          trimRight_eq_self_iff.2 hlast]
    rw [trim, String.toList_append, String.toList_append, List.append_assoc, trimLeft_append hleft,
      hcore, String.ofList_toList]

theorem trim_eq_empty_iff {s : String} : trim s = "" ↔ IsBlank s := by
  rw [trim_eq_iff]
  constructor
  · rintro ⟨-, -, left, right, rfl, hleft, hright⟩ c hc
    rw [String.append_empty, String.toList_append] at hc
    exact (List.mem_append.1 hc).elim (hleft c) (hright c)
  · intro h
    exact ⟨nofun, nofun, s, "", by simp, h, nofun⟩

/-! ### Between tokens -/

theorem isSpace_iff {c : Char} : isSpace c ↔ c ∈ [' ', '\t', '\r', '\n'] := by
  simp [isSpace, or_assoc]

theorem utf8Size_of_isSpace {c : Char} (h : isSpace c) : c.utf8Size = 1 := by
  rw [isSpace_iff] at h
  simp only [List.mem_cons, List.not_mem_nil, or_false] at h
  obtain rfl | rfl | rfl | rfl := h <;> decide

/-- A class of characters without the blanks between tokens. -/
theorem not_isSpace_of_class {p : Char → Bool}
    (hp : ¬ p ' ' ∧ ¬ p '\t' ∧ ¬ p '\r' ∧ ¬ p '\n') {c : Char} (h : p c) : ¬ isSpace c := by
  obtain ⟨hblank, htab, hreturn, hnewline⟩ := hp
  intro hc
  simp only [isSpace, Bool.or_eq_true, decide_eq_true_eq] at hc
  obtain ((rfl | rfl) | rfl) | rfl := hc
  · exact hblank h
  · exact htab h
  · exact hreturn h
  · exact hnewline h

theorem skipSpace_cons {c : Char} (h : ¬ isSpace c) (cs : List Char) :
    skipSpace (c :: cs) = c :: cs := by
  rw [skipSpace, List.dropWhile_cons_of_neg h]

end Dataflow.Text
