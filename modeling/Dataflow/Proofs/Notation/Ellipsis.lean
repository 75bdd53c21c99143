import Dataflow.Proofs.Notation.Gap
import Dataflow.Proofs.Notation.Printing

/-! An ellipsis put behind a contract. A contract ends in a mark of one character, which divides a
text wherever it stands, so that the dots are a token of their own, also behind blanks. -/
namespace Dataflow.Notation

open Text (isSpace)

namespace Lexeme

/-! ### Marks -/

theorem not_isSpace_of_mem_marksOfOne {c : Char} (h : c ∈ marksOfOne) : ¬ isSpace c := by
  simp only [marksOfOne, List.mem_cons, List.not_mem_nil, or_false] at h
  obtain rfl | rfl | rfl | rfl := h <;> decide

/-- A mark ends what stands before it and does not go on itself. -/
theorem kinds_append_mark {c : Char} (h : c ∈ marksOfOne) (before rest : List Char) :
    kinds (before ++ c :: rest) = kinds (before ++ [c]) ++ kinds rest := by
  have happend (after : List Char) :
      kinds (before ++ c :: after) = kinds before ++ (munch c []).2 :: kinds after := by
    obtain ⟨t, hmunch⟩ := munch_mark h
    rw [kinds, scan_append_cons (standsApart_of_mem_marksOfOne h), List.map_append,
      map_token?_scan, map_token?_scan, kinds_munch (not_isSpace_of_mem_marksOfOne h), hmunch,
      hmunch, List.drop_zero]
  rw [happend, happend, kinds_nil, List.append_assoc, List.singleton_append]

/-! ### The last lexeme -/

theorem isSpace_of_kinds_eq_nil {cs : List Char} (h : kinds cs = []) : ∀ c ∈ cs, isSpace c := by
  induction cs with
  | nil => exact List.forall_mem_nil _
  | cons c cs ih =>
    by_cases hspace : isSpace c
    · rw [kinds_space hspace] at h
      exact List.forall_mem_cons.2 ⟨hspace, ih h⟩
    · rw [kinds_munch hspace] at h
      cases h

/-- Behind the last lexeme there are only blanks. -/
theorem exists_munch_of_getLast?_kinds {cs : List Char} {t? : Option Token}
    (h : (kinds cs).getLast? = some t?) : ∃ before c rest, cs = before ++ c :: rest ∧
      (munch c rest).2 = t? ∧ ∀ d ∈ rest.drop (munch c rest).1, isSpace d := by
  -- lexemes follow the recursion of the scan, wherever it is said to start
  generalize 0 = start
  induction start, cs using scan.induct with
  | case1 =>
    rw [kinds_nil] at h
    cases h
  | case2 start c cs hspace ih =>
    rw [kinds_space hspace] at h
    obtain ⟨before, d, rest, rfl, hd⟩ := ih h
    exact ⟨c :: before, d, rest, rfl, hd⟩
  | case3 start c cs hspace more token? hmunch text stop ih =>
    have hmore : (munch c cs).1 = more := by rw [hmunch]
    rw [kinds_munch hspace, hmore] at h
    cases hlater : kinds (cs.drop more) with
    | nil =>
      rw [hlater] at h
      exact ⟨[], c, cs, rfl, Option.some.inj h, hmore ▸ isSpace_of_kinds_eq_nil hlater⟩
    | cons u ts =>
      rw [hlater, List.getLast?_cons_cons, ← hlater] at h
      obtain ⟨before, d, rest, hdrop, hd⟩ := ih h
      refine ⟨text ++ before, d, rest, ?_, hd⟩
      rw [List.append_assoc, ← hdrop, List.cons_append, List.take_append_drop]

/-- Where a text ends in one of these tokens, another text goes on with tokens of its own. -/
theorem kinds_append {cs : List Char} {t : Token} (ht : t = .closeBracket ∨ t = .question)
    (h : (kinds cs).getLast? = some (some t)) (rest : List Char) :
    kinds (cs ++ rest) = kinds cs ++ kinds rest := by
  obtain ⟨before, c, after, rfl, hmunch, hspaces⟩ := exists_munch_of_getLast?_kinds h
  have hmark : c ∈ marksOfOne := by
    have hspells := spells_of_munch hmunch
    obtain rfl | rfl := ht
    · obtain ⟨rfl, -⟩ := List.cons.inj hspells
      decide
    · obtain ⟨rfl, -⟩ := List.cons.inj hspells
      decide
  have hgap : ∀ d ∈ after, isSpace d := by
    obtain ⟨u, hu⟩ := munch_mark hmark
    rwa [hu, List.drop_zero] at hspaces
  have hblank (later : List Char) : kinds (after ++ later) = kinds later := by
    rw [kinds, scan_spaces hgap, map_token?_scan]
  have hnone := hblank []
  rw [List.append_nil, kinds_nil] at hnone
  rw [List.append_assoc, List.cons_append, kinds_append_mark hmark, hblank,
    kinds_append_mark hmark before after, hnone, List.append_nil]

end Lexeme

/-! ### Contracts -/

theorem DerivesShape.exists_concat {ts : List Token} {shape : Shape} (h : DerivesShape ts shape) :
    ∃ us, ts = us ++ [.closeBracket] := by
  cases h with
  | empty => exact ⟨[.openBracket], rfl⟩
  | @plain ts => exact ⟨.openBracket :: ts, rfl⟩
  | @trailing ts => exact ⟨.openBracket :: ts ++ [.comma], by simp⟩

/-- What is not variadic ends in one of two marks, and is variadic with an ellipsis behind them. -/
theorem Derives.ellipsis {ts : List Token} {dtype? : Option String} {shape : Shape}
    {optional : Bool} (h : Derives ts ⟨dtype?, shape, optional, false⟩) :
    (∃ us t, ts = us ++ [t] ∧ (t = .closeBracket ∨ t = .question)) ∧
      Derives (ts ++ [.ellipsis]) ⟨dtype?, shape, optional, true⟩ := by
  cases h with
  | @mk ds ts _ _ hd hs _ _ =>
    constructor
    · cases optional with
      | false =>
        obtain ⟨us, rfl⟩ := hs.exists_concat
        exact ⟨ds ++ us, .closeBracket, by simp [marks], .inl rfl⟩
      | true => exact ⟨ds ++ ts, .question, rfl, .inr rfl⟩
    · simpa [marks] using Derives.mk hd hs optional true

/-- An ellipsis behind a text, or behind the blanks at its end, makes it variadic. -/
theorem Reads.ellipsis {text : String} {dtype? : Option String} {shape : Shape} {optional : Bool}
    (h : Reads text ⟨dtype?, shape, optional, false⟩) :
    Reads (text ++ "...") ⟨dtype?, shape, optional, true⟩ := by
  have hkinds := Lexeme.kinds_eq_map_some_iff.2 ⟨h.noStrays, rfl⟩
  obtain ⟨⟨us, t, hts, ht⟩, hderives⟩ := h.derives.ellipsis
  have hlast : (Lexeme.kinds text.toList).getLast? = some (some t) := by
    rw [hkinds, hts, List.map_append]
    exact List.getLast?_concat
  have hspells : Token.ellipsis.Spells "...".toList := rfl
  have hends : Lexeme.Ends .ellipsis [] := trivial
  have hdots := Lexeme.kinds_of_spells hspells hends
  rw [List.append_nil, Lexeme.kinds_nil] at hdots
  refine reads_of_kinds ?_ hderives
  rw [String.toList_append, Lexeme.kinds_append ht hlast, hkinds, hdots, List.map_append]
  rfl

theorem readInput_ellipsis {text : String} {spec : Spec} (h : readSpec text = .ok spec) :
    readInput (text ++ "...") = .ok (.variadic [spec]) := by
  obtain ⟨name, shape, optional, hreads, rfl⟩ := readSpec_eq_ok_iff.1 h
  exact readInput_eq_ok_iff.2 ⟨name, shape, optional, true, hreads.ellipsis, rfl⟩

end Dataflow.Notation
