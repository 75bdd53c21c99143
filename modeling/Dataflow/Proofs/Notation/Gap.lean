import Dataflow.Proofs.Notation.Partition
import Dataflow.Proofs.Notation.Reading

/-! Blanks between lexemes. No lexeme depends on what follows it beyond a blank or beyond the place
where the next one begins, so that blanks may be put in wherever no lexeme is torn: the lexemes
after them move, and the text still says the same. -/
namespace Dataflow.Notation

open Text (Span byteLength isSpace prefix_of_byteLength_le byteLength_le_of_prefix)

namespace Lexeme

/-! ### What is taken after a character -/

/-- Except after a dot, what is taken is a run of some class, and its token depends on no more. -/
theorem eq_dot_or_exists_run (c : Char) : c = '.' ∨
    ∃ (p : Char → Bool) (token? : List Char → Option Token), (∀ d, p d → isIdentRest d) ∧
      ∀ cs, munch c cs = ((cs.takeWhile p).length, token? (cs.takeWhile p)) := by
  have hdigits (d : Char) (hd : d.isDigit) : isIdentRest d := isIdentRest_iff.2 (.inr hd)
  have halone {token? : Option Token} (h : ∀ cs, munch c cs = (0, token?)) :
      ∃ (p : Char → Bool) (token? : List Char → Option Token), (∀ d, p d → isIdentRest d) ∧
        ∀ cs, munch c cs = ((cs.takeWhile p).length, token? (cs.takeWhile p)) := by
    refine ⟨fun _ => false, fun _ => token?, fun _ hd => absurd hd Bool.false_ne_true, fun cs => ?_⟩
    cases cs <;> exact h _
  by_cases hdot : c = '.'
  · exact .inl hdot
  right
  by_cases hstart : isIdentStart c
  · exact ⟨isIdentRest, fun run => some (.ident (String.ofList (c :: run))), fun _ => id,
      munch_identStart hstart⟩
  by_cases hdigit : c.isDigit
  · exact ⟨Char.isDigit, fun run => integer false (c :: run), hdigits, munch_digit hdigit⟩
  by_cases hminus : c = '-'
  · subst hminus
    exact ⟨Char.isDigit, fun run => if run.isEmpty then none else integer true run, hdigits,
      munch_minus⟩
  by_cases hmark : c ∈ marksOfOne
  · obtain ⟨t, hmunch⟩ := munch_mark hmark
    exact halone hmunch
  · exact halone (munch_other hstart hdigit hminus hdot hmark)

theorem munch_le_length (c : Char) (cs : List Char) : (munch c cs).1 ≤ cs.length := by
  obtain rfl | ⟨p, token?, -, hmunch⟩ := eq_dot_or_exists_run c
  · rw [munch_dot]
    split
    · rename_i hdots
      exact (List.isPrefixOf_iff_prefix.1 hdots).length_le
    · exact Nat.zero_le _
  · rw [hmunch]
    exact (List.takeWhile_prefix p).length_le

/-- What ends before `rest` does not depend on it. -/
theorem munch_append {c : Char} {cs rest : List Char}
    (h : (cs ++ rest).take (munch c (cs ++ rest)).1 <+: cs) :
    munch c (cs ++ rest) = munch c cs := by
  obtain rfl | ⟨p, token?, -, hmunch⟩ := eq_dot_or_exists_run c
  · rw [munch_dot] at h
    rw [munch_dot, munch_dot]
    have hdots : ['.', '.'].isPrefixOf (cs ++ rest) ↔ ['.', '.'].isPrefixOf cs := by
      rw [List.isPrefixOf_iff_prefix, List.isPrefixOf_iff_prefix]
      refine ⟨fun hall => ?_, fun hcs => hcs.trans (List.prefix_append cs rest)⟩
      rw [if_pos (List.isPrefixOf_iff_prefix.2 hall)] at h
      obtain ⟨more, hmore⟩ := hall
      rwa [← hmore] at h
    simp only [hdots]
  · rw [hmunch, take_takeWhile_length] at h
    rw [hmunch, hmunch, takeWhile_append_of_prefix h]

/-- After its first character a lexeme has none but those of names and of the ellipsis. -/
theorem isIdentRest_or_eq_dot_of_mem_take {c d : Char} {cs : List Char}
    (h : d ∈ cs.take (munch c cs).1) : isIdentRest d ∨ d = '.' := by
  obtain rfl | ⟨p, token?, hp, hmunch⟩ := eq_dot_or_exists_run c
  · rw [munch_dot] at h
    split at h
    · rename_i hdots
      obtain ⟨more, rfl⟩ := List.isPrefixOf_iff_prefix.1 hdots
      exact .inr (by simpa using h)
    · exact absurd h List.not_mem_nil
  · rw [hmunch, take_takeWhile_length] at h
    exact .inl (hp d (List.mem_takeWhile_imp h))

/-! ### Texts in two parts -/

/-- No lexeme that another character begins goes on with this one. -/
def StandsApart (d : Char) : Prop := ¬ isIdentRest d ∧ d ≠ '.'

theorem standsApart_of_isSpace {d : Char} (h : isSpace d) : StandsApart d := by
  refine ⟨fun hrest => not_isSpace_of_isIdentRest hrest h, ?_⟩
  rintro rfl
  exact absurd h (by decide)

theorem standsApart_of_mem_marksOfOne {d : Char} (h : d ∈ marksOfOne) : StandsApart d := by
  simp only [marksOfOne, List.mem_cons, List.not_mem_nil, or_false] at h
  obtain rfl | rfl | rfl | rfl := h <;> exact ⟨by decide, by decide⟩

theorem StandsApart.take_munch_begins {d : Char} (h : StandsApart d) (c : Char)
    (cs rest : List Char) : (cs ++ d :: rest).take (munch c (cs ++ d :: rest)).1 <+: cs := by
  have htake := List.take_prefix (munch c (cs ++ d :: rest)).1 (cs ++ d :: rest)
  obtain hbegins | ⟨more, hmore⟩ :=
    List.prefix_or_prefix_of_prefix htake (List.prefix_append cs (d :: rest))
  · exact hbegins
  · cases more with
    | nil => rw [← hmore, List.append_nil]
    | cons e more =>
      rw [← hmore, List.prefix_append_right_inj] at htake
      obtain ⟨rfl, -⟩ := List.cons_prefix_cons.1 htake
      have hmem : e ∈ (cs ++ e :: rest).take (munch c (cs ++ e :: rest)).1 :=
        hmore ▸ List.mem_append_right cs List.mem_cons_self
      obtain hrest | hdot := isIdentRest_or_eq_dot_of_mem_take hmem
      · exact absurd hrest h.1
      · exact absurd hdot h.2

/-- If no lexeme straddles the place between two parts, each part falls into lexemes of its own. -/
theorem scan_append (start : Nat) (a b : List Char)
    (h : ∀ l ∈ scan start (a ++ b), ¬ l.span.Straddles (start + byteLength a)) :
    scan start (a ++ b) = scan start a ++ scan (start + byteLength a) b := by
  induction start, a using scan.induct with
  | case1 start => simp
  | case2 start c cs hspace ih =>
    rw [List.cons_append, scan_space hspace] at h ⊢
    rw [Text.byteLength_cons, ← Nat.add_assoc] at h ⊢
    rw [scan_space hspace, ih h]
  | case3 start c cs hspace more token? hmunch text stop ih =>
    have hmore : (munch c cs).1 = more := by rw [hmunch]
    rw [List.cons_append, scan_munch hspace] at h ⊢
    have hstop : start + byteLength (c :: (cs ++ b).take (munch c (cs ++ b)).1) ≤
        start + byteLength (c :: cs) := by
      by_contra hlt
      have hpos : 0 < byteLength (c :: cs) := Text.byteLength_pos (List.cons_ne_nil c cs)
      exact h _ List.mem_cons_self ⟨Nat.lt_add_of_pos_right hpos, Nat.lt_of_not_le hlt⟩
    have hprefix : (cs ++ b).take (munch c (cs ++ b)).1 <+: cs := by
      rw [Text.byteLength_cons, Text.byteLength_cons] at hstop
      exact prefix_of_byteLength_le (List.take_prefix _ _) (List.prefix_append cs b) (by omega)
    -- the lexeme is the one that starts in the first part alone
    have hle : more ≤ cs.length := hmore ▸ munch_le_length c cs
    have htake : (cs ++ b).take more = cs.take more := List.take_append_of_le_length hle
    have hdrop : (cs ++ b).drop more = cs.drop more ++ b := List.drop_append_of_le_length hle
    have hbytes : stop + byteLength (cs.drop more) = start + byteLength (c :: cs) := by
      have hcs : c :: cs = text ++ cs.drop more := by
        rw [List.cons_append, List.take_append_drop]
      rw [hcs, Text.byteLength_append, Nat.add_assoc]
    rw [munch_append hprefix, hmore, htake, hdrop] at h ⊢
    have hrest := ih fun l hl => hbytes ▸ h l (List.mem_cons_of_mem _ hl)
    rw [hrest, hbytes, scan_munch hspace start cs, hmore, List.cons_append]

theorem StandsApart.not_straddles {d : Char} (h : StandsApart d) {start : Nat}
    {a rest : List Char} {l : Lexeme} (hl : l ∈ scan start (a ++ d :: rest)) :
    ¬ l.span.Straddles (start + byteLength a) := by
  rintro ⟨hbegin, hend⟩
  obtain ⟨before, c, after, htext, -, hlex, -, hstart, hstop⟩ := eq_munch_of_mem_scan hl
  have hbefore : before <+: a ++ d :: rest := htext ▸ List.prefix_append before (c :: after)
  obtain ⟨within, rfl⟩ :=
    prefix_of_byteLength_le hbefore (List.prefix_append a (d :: rest)) (by omega)
  rw [List.append_assoc, List.append_cancel_left_eq] at htext
  rw [Text.byteLength_append] at hbegin hend
  cases within with
  | nil =>
    rw [Text.byteLength_nil] at hbegin
    omega
  | cons e within =>
    rw [List.cons_append] at htext
    obtain ⟨rfl, rfl⟩ := List.cons.inj htext
    have hbytes := byteLength_le_of_prefix (h.take_munch_begins e within rest)
    rw [hlex, Text.byteLength_cons] at hstop
    rw [Text.byteLength_cons] at hend
    omega

theorem scan_append_cons {d : Char} (h : StandsApart d) (start : Nat) (a rest : List Char) :
    scan start (a ++ d :: rest) = scan start a ++ scan (start + byteLength a) (d :: rest) :=
  scan_append start a (d :: rest) fun _ hl => h.not_straddles hl

/-! ### Blanks -/

/-- The lexeme after this many bytes have been put in at a place. -/
def moved (place count : Nat) (l : Lexeme) : Lexeme := { l with span := l.span.moved place count }

/-- Lexemes all of which stand after the place move. -/
theorem scan_add {place start : Nat} (hstart : place ≤ start) (count : Nat) (cs : List Char) :
    scan (start + count) cs = (scan start cs).map (moved place count) := by
  induction start, cs using scan.induct with
  | case1 start => simp
  | case2 start c cs hspace ih =>
    rw [scan_space hspace, scan_space hspace, ← ih (by omega), Nat.add_right_comm]
  | case3 start c cs hspace more token? hmunch text stop ih =>
    have hmore : (munch c cs).1 = more := by rw [hmunch]
    rw [scan_munch hspace, scan_munch hspace, hmore, List.map_cons, ← ih (by omega), moved,
      Span.moved, if_pos hstart, Nat.add_right_comm]

theorem map_moved_scan (place count : Nat) {start : Nat} {cs : List Char}
    (h : start + byteLength cs ≤ place) :
    (scan start cs).map (moved place count) = scan start cs := by
  refine (List.map_congr_left fun l hl => ?_).trans (List.map_id _)
  obtain ⟨before, c, rest, rfl, -, -, -, hstart, -⟩ := eq_munch_of_mem_scan hl
  have hpos : 0 < byteLength (c :: rest) := Text.byteLength_pos (List.cons_ne_nil c rest)
  rw [Text.byteLength_append] at h
  rw [moved, Span.moved, if_neg (by omega), id]

theorem scan_spaces {w : List Char} (hw : ∀ c ∈ w, isSpace c) (start : Nat) (rest : List Char) :
    scan start (w ++ rest) = scan (start + byteLength w) rest := by
  induction w generalizing start with
  | nil => rfl
  | cons c w ih =>
    rw [List.cons_append, scan_space (hw c List.mem_cons_self),
      ih fun d hd => hw d (List.mem_cons_of_mem c hd), Text.byteLength_cons, Nat.add_assoc]

/-- Blanks put in where no lexeme is torn move the lexemes after them. -/
theorem scan_gap {a w b : List Char} (hw : ∀ c ∈ w, isSpace c)
    (h : ∀ l ∈ scan 0 (a ++ b), ¬ l.span.Straddles (byteLength a)) :
    scan 0 (a ++ (w ++ b)) = (scan 0 (a ++ b)).map (moved (byteLength a) (byteLength w)) := by
  have hab : scan 0 (a ++ b) = scan 0 a ++ scan (byteLength a) b := by
    have happend := scan_append 0 a b
    rw [Nat.zero_add] at happend
    exact happend h
  have hgap : scan 0 (a ++ (w ++ b)) = scan 0 a ++ scan (byteLength a) (w ++ b) := by
    cases w with
    | nil => exact hab
    | cons c w =>
      have hc := standsApart_of_isSpace (hw c List.mem_cons_self)
      rw [List.cons_append, scan_append_cons hc, Nat.zero_add]
  rw [hgap, scan_spaces hw, hab, List.map_append, map_moved_scan _ _ (Nat.zero_add _).le,
    ← scan_add le_rfl]

end Lexeme

/-! ### Main statement -/

section Text
variable {a w b : String}

/-- No token and no stray of `a ++ b` straddles the place between the two parts. -/
def IsCut (a b : String) : Prop :=
  ∀ s ∈ places (tokens (a ++ b)) (strays (a ++ b)), ¬ s.Straddles (byteLength a.toList)

instance : Decidable (IsCut a b) :=
  inferInstanceAs (Decidable (∀ s ∈ places (tokens (a ++ b)) (strays (a ++ b)),
    ¬ s.Straddles (byteLength a.toList)))

theorem all_gap (hw : ∀ c ∈ w.toList, isSpace c) (h : IsCut a b) :
    Lexeme.all (a ++ w ++ b) =
      (Lexeme.all (a ++ b)).map (Lexeme.moved (byteLength a.toList) (byteLength w.toList)) := by
  have hlexemes : ∀ l ∈ Lexeme.scan 0 (a.toList ++ b.toList),
      ¬ l.span.Straddles (byteLength a.toList) := by
    intro l hl
    rw [← String.toList_append] at hl
    exact h _ (mem_places_of_mem_all hl)
  simp only [Lexeme.all, String.toList_append, List.append_assoc]
  exact Lexeme.scan_gap hw hlexemes

theorem tokens_gap (hw : ∀ c ∈ w.toList, isSpace c) (h : IsCut a b) :
    tokens (a ++ w ++ b) = (tokens (a ++ b)).map fun p =>
      (p.1, p.2.moved (byteLength a.toList) (byteLength w.toList)) := by
  rw [tokens, all_gap hw h, List.filterMap_map, tokens, List.map_filterMap]
  refine List.filterMap_congr fun l _ => ?_
  show (l.token?.map (·, _)) = (l.token?.map (·, l.span)).map _
  rw [Option.map_map]
  rfl

theorem strays_gap (hw : ∀ c ∈ w.toList, isSpace c) (h : IsCut a b) :
    strays (a ++ w ++ b) =
      (strays (a ++ b)).map (Lexeme.moved (byteLength a.toList) (byteLength w.toList)) := by
  rw [strays, all_gap hw h, List.filter_map]
  rfl

theorem reads_gap_iff (hw : ∀ c ∈ w.toList, isSpace c) (h : IsCut a b) {n : Notation} :
    Reads (a ++ w ++ b) n ↔ Reads (a ++ b) n := by
  have hstrays : strays (a ++ w ++ b) = [] ↔ strays (a ++ b) = [] := by
    rw [strays_gap hw h, List.map_eq_nil_iff]
  have htokens : (tokens (a ++ w ++ b)).map Prod.fst = (tokens (a ++ b)).map Prod.fst := by
    rw [tokens_gap hw h, List.map_map]
    rfl
  constructor
  · rintro ⟨hnone, hderives⟩
    exact ⟨hstrays.1 hnone, htokens ▸ hderives⟩
  · rintro ⟨hnone, hderives⟩
    exact ⟨hstrays.2 hnone, htokens ▸ hderives⟩

/-- Blanks between two lexemes change nothing but the places after them: there are the same tokens
and the same strays in the same order, with the same characters, and each way in reads the text
as before. -/
theorem tokens_strays_gap (hw : ∀ c ∈ w.toList, isSpace c) (h : IsCut a b) :
    tokens (a ++ w ++ b) = (tokens (a ++ b)).map (fun p =>
      (p.1, p.2.moved (byteLength a.toList) (byteLength w.toList))) ∧
    strays (a ++ w ++ b) = (strays (a ++ b)).map
      (Lexeme.moved (byteLength a.toList) (byteLength w.toList)) ∧
    (∀ s ∈ places (tokens (a ++ b)) (strays (a ++ b)), ∀ cs after, s.Cuts (a ++ b) cs after →
      ∃ after', (s.moved (byteLength a.toList) (byteLength w.toList)).Cuts (a ++ w ++ b) cs
        after') ∧
    (∀ spec, readSpec (a ++ w ++ b) = .ok spec ↔ readSpec (a ++ b) = .ok spec) ∧
    (∀ input, readInput (a ++ w ++ b) = .ok input ↔ readInput (a ++ b) = .ok input) ∧
    ∀ shape, readShape (a ++ w ++ b) = .ok shape ↔ readShape (a ++ b) = .ok shape := by
  refine ⟨tokens_gap hw h, strays_gap hw h, fun s hs cs after hcuts => hcuts.moved (h s hs),
    fun spec => ?_, fun input => ?_, fun shape => ?_⟩
  · simp only [readSpec_eq_ok_iff, reads_gap_iff hw h]
  · simp only [readInput_eq_ok_iff, reads_gap_iff hw h]
  · rw [readShape_eq_ok_iff, readShape_eq_ok_iff, reads_gap_iff hw h]

end Text

/-- A name is put together from its parts over a line break. An ellipsis may not be torn. -/
theorem tokens_strays_gap_dotted :
    IsCut "torch." "Tensor[-1]..." ∧ ¬ IsCut "torch.Tensor[-1]." ".." ∧
    tokens "torch. \r\n\tTensor[-1]..." = [(.ident "torch", ⟨0, 5⟩), (.dot, ⟨5, 6⟩),
      (.ident "Tensor", ⟨10, 16⟩), (.openBracket, ⟨16, 17⟩), (.int (-1), ⟨17, 19⟩),
      (.closeBracket, ⟨19, 20⟩), (.ellipsis, ⟨20, 23⟩)] ∧
    readInput "torch. \r\n\tTensor[-1]..." =
      .ok (.variadic [⟨.tensor, [.size (-1)], "", false⟩]) := by
  have hw : ∀ c ∈ " \r\n\t".toList, isSpace c := List.all_eq_true.1 (by decide)
  have hcut : IsCut "torch." "Tensor[-1]..." := by decide +kernel
  have htext : "torch." ++ " \r\n\t" ++ "Tensor[-1]..." = "torch. \r\n\tTensor[-1]..." := by
    decide +kernel
  have htokens : tokens ("torch." ++ "Tensor[-1]...") = [(.ident "torch", ⟨0, 5⟩),
      (.dot, ⟨5, 6⟩), (.ident "Tensor", ⟨6, 12⟩), (.openBracket, ⟨12, 13⟩), (.int (-1), ⟨13, 15⟩),
      (.closeBracket, ⟨15, 16⟩), (.ellipsis, ⟨16, 19⟩)] := by decide +kernel
  have hinput : readInput ("torch." ++ "Tensor[-1]...") =
      .ok (.variadic [⟨.tensor, [.size (-1)], "", false⟩]) :=
    toOption_eq_some_iff.1 (by decide +kernel)
  obtain ⟨hmoved, -, -, -, hagain, -⟩ := tokens_strays_gap hw hcut
  rw [htext] at hmoved hagain
  refine ⟨hcut, by decide +kernel, ?_, (hagain _).2 hinput⟩
  rw [hmoved, htokens]
  decide

end Dataflow.Notation
