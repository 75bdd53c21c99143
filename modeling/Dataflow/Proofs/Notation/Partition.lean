import Dataflow.Proofs.Notation.Longest
import Dataflow.Proofs.Text.Span

/-! How a text divides into tokens and what is none. Their places follow each other, do not overlap
and leave nothing out but blanks. Each token is the longest at its place, and what is no token is a
character that begins none or an integer of more than 64 bits. -/
namespace Dataflow.Notation

open Text (Span byteLength isSpace)

/-! ### What stands at a place -/

/-- The characters before `after` are this token and no longer one. -/
structure IsTokenAt (t : Token) (cs after : List Char) : Prop where
  spells : t.Spells cs
  longest : IsLongest cs after
  ends : Lexeme.Ends t after

/-- The characters before `after` are no token, though all of them are taken together. -/
inductive IsStrayAt : List Char → List Char → Prop
  | character {c : Char} {after : List Char} (hspace : ¬ isSpace c)
      (h : ∀ v, v <+: c :: after → ¬ IsTokenText v) : IsStrayAt [c] after
  | integer {cs after : List Char} {n : Int} (h : IsLiteral cs n) (hn : IsOutOfRange n)
      (hends : ∀ d ∈ after.head?, ¬ d.isDigit) : IsStrayAt cs after

/-- The text of a token does not go on with a character that would make it longer. -/
theorem IsLongest.not_isTokenText_concat {cs after : List Char} (h : IsLongest cs after) {d : Char}
    (hd : d ∈ after.head?) : ¬ IsTokenText (cs ++ [d]) := by
  intro htoken
  obtain ⟨rest, rfl⟩ := List.head?_eq_some_iff.1 hd
  have hlength := h (cs ++ [d]) ⟨rest, by simp⟩ htoken
  rw [List.length_append, List.length_singleton] at hlength
  omega

theorem forall_mem_concat {p : Char → Prop} {cs : List Char} {d : Char} (hcs : ∀ c ∈ cs, p c)
    (hd : p d) : ∀ c ∈ cs ++ [d], p c :=
  List.forall_mem_append.2 ⟨hcs, List.forall_mem_singleton.2 hd⟩

theorem IsLiteral.isTokenText_concat {cs : List Char} {n : Int} (h : IsLiteral cs n) {d : Char}
    (hd : d.isDigit) : IsTokenText (cs ++ [d]) := by
  cases h with
  | natural hne hdigits =>
    exact (IsLiteral.natural (by simp) (forall_mem_concat hdigits hd)).isTokenText
  | negative hne hdigits =>
    exact (IsLiteral.negative (by simp) (forall_mem_concat hdigits hd)).isTokenText

theorem isTokenText_concat_of_isIdent {name : String} (h : IsIdent name) {d : Char}
    (hd : Lexeme.isIdentRest d) : IsTokenText (name.toList ++ [d]) := by
  obtain ⟨c, cs, hname, hc, hcs⟩ := h
  rw [hname, List.cons_append, isTokenText_cons_iff]
  exact .inl ⟨hc, forall_mem_concat hcs hd⟩

/-- The longest token ends where no character makes it longer. -/
theorem isTokenAt_of_isLongest {t : Token} {cs after : List Char} (hspells : t.Spells cs)
    (hlongest : IsLongest cs after) : IsTokenAt t cs after where
  spells := hspells
  longest := hlongest
  ends := by
    cases t with
    | int n =>
      intro d hd hdigit
      exact hlongest.not_isTokenText_concat hd (hspells.isTokenText_concat hdigit)
    | ident name =>
      intro d hd hrest
      obtain ⟨rfl, hname⟩ := hspells
      exact hlongest.not_isTokenText_concat hd (isTokenText_concat_of_isIdent hname hrest)
    | dot =>
      intro hdots
      cases hspells
      have hlength := hlongest _ (List.cons_prefix_cons.2 ⟨rfl, hdots⟩) isTokenText_dots
      simp at hlength
    | openBracket | closeBracket | comma | ellipsis | question => trivial

/-- Three dots are an ellipsis. -/
theorem IsTokenAt.eq_ellipsis {t : Token} {cs after : List Char} (h : IsTokenAt t cs after)
    (hdots : ['.', '.', '.'] <+: cs ++ after) : t = .ellipsis := by
  have hlength := h.longest _ hdots isTokenText_dots
  have hcs : ∃ w, cs = '.' :: '.' :: '.' :: w := by
    obtain ⟨w, hw⟩ := List.prefix_of_prefix_length_le hdots (List.prefix_append cs after) hlength
    exact ⟨w, hw.symm⟩
  obtain ⟨w, rfl⟩ := hcs
  have hspells := h.spells
  cases t with
  | int n => exact absurd hspells (not_isLiteral_dot _ _)
  | ident name =>
    obtain ⟨hname, c, cs, hcs, hc, -⟩ := hspells
    rw [← hname] at hcs
    cases hcs
    exact absurd hc (by decide)
  | ellipsis => rfl
  | openBracket | closeBracket | comma | dot | question => cases hspells

theorem IsLiteral.unique {cs : List Char} {m n : Int} (hm : IsLiteral cs m) (hn : IsLiteral cs n) :
    m = n := by
  cases hm with
  | @natural digits _ hdigits =>
    cases hn with
    | natural => rfl
    | negative => exact absurd (hdigits '-' List.mem_cons_self) (by decide)
  | @negative digits _ _ =>
    generalize hcs : '-' :: digits = cs at hn
    cases hn with
    | natural _ hdigits =>
      rw [← hcs] at hdigits
      exact absurd (hdigits '-' List.mem_cons_self) (by decide)
    | negative =>
      cases hcs
      rfl

/-- An integer of 64 bits is a token. -/
theorem IsStrayAt.outOfRange {cs after : List Char} (h : IsStrayAt cs after) {n : Int}
    (hn : IsLiteral cs n) : IsOutOfRange n := by
  cases h with
  | character _ hnone => exact absurd hn.isTokenText (hnone _ ⟨after, rfl⟩)
  | integer hm hrange _ => exact hm.unique hn ▸ hrange

theorem IsStrayAt.not_begins_ellipsis {cs after : List Char} (h : IsStrayAt cs after) :
    ¬ ['.', '.', '.'] <+: cs ++ after := by
  intro hdots
  cases h with
  | character _ hnone => exact hnone _ hdots isTokenText_dots
  | @integer cs after n hn _ _ =>
    cases cs with
    | nil => exact not_isTokenText_nil hn.isTokenText
    | cons c cs =>
      obtain ⟨rfl, -⟩ := List.cons_prefix_cons.1 hdots
      exact not_isLiteral_dot cs n hn

/-- A minus sign alone begins a token only before a digit. -/
theorem minus_begins_iff {after : List Char} :
    (∃ v, v <+: '-' :: after ∧ IsTokenText v) ↔ ∃ d ∈ after.head?, d.isDigit := by
  constructor
  · rintro ⟨v, hbegins, hv⟩
    cases v with
    | nil => exact absurd hv not_isTokenText_nil
    | cons c v =>
      obtain ⟨rfl, hafter⟩ := List.cons_prefix_cons.1 hbegins
      simp only [isTokenText_cons_iff, marksOfOne, Lexeme.isIdentStart] at hv
      obtain ⟨hne, hdigits⟩ : v ≠ [] ∧ ∀ d ∈ v, d.isDigit := by simpa using hv
      obtain ⟨d, w, rfl⟩ := List.exists_cons_of_ne_nil hne
      obtain ⟨rest, rfl⟩ := hafter
      exact ⟨d, rfl, hdigits d List.mem_cons_self⟩
  · rintro ⟨d, hd, hdigit⟩
    obtain ⟨rest, rfl⟩ := List.head?_eq_some_iff.1 hd
    have hliteral := IsLiteral.negative (List.cons_ne_nil d []) (List.forall_mem_singleton.2 hdigit)
    exact ⟨['-', d], ⟨rest, rfl⟩, hliteral.isTokenText⟩

namespace Lexeme

/-! ### What stands at the place of a lexeme -/

theorem isLongest_munch {c : Char} {cs : List Char} :
    IsLongest (c :: cs.take (munch c cs).1) (cs.drop (munch c cs).1) := by
  intro v hbegins hv
  rw [List.cons_append, List.take_append_drop] at hbegins
  cases v with
  | nil => exact Nat.zero_le _
  | cons d v =>
    obtain ⟨rfl, hrest⟩ := List.cons_prefix_cons.1 hbegins
    have hmore := length_le_munch hrest hv
    have hlength := hrest.length_le
    rw [List.length_cons, List.length_cons, List.length_take]
    omega

theorem isTokenAt_munch {c : Char} {cs : List Char} {t : Token} (h : (munch c cs).2 = some t) :
    IsTokenAt t (c :: cs.take (munch c cs).1) (cs.drop (munch c cs).1) :=
  isTokenAt_of_isLongest (spells_of_munch h) isLongest_munch

theorem isStrayAt_munch {c : Char} {cs : List Char} (hspace : ¬ isSpace c)
    (h : (munch c cs).2 = none) :
    IsStrayAt (c :: cs.take (munch c cs).1) (cs.drop (munch c cs).1) := by
  obtain ⟨n, hn, hrange⟩ | ⟨hmore, hnone⟩ := munch_eq_none h
  · refine .integer hn hrange fun d hd hdigit => ?_
    exact isLongest_munch.not_isTokenText_concat hd (hn.isTokenText_concat hdigit)
  · rw [hmore]
    refine .character hspace fun v hbegins hv => ?_
    cases v with
    | nil => exact not_isTokenText_nil hv
    | cons d v =>
      obtain ⟨rfl, hrest⟩ := List.cons_prefix_cons.1 hbegins
      exact hnone v hrest hv

/-- A lexeme of a text is what its span takes out of the text. -/
theorem exists_cuts_of_mem_all {text : String} {l : Lexeme} (h : l ∈ all text) :
    ∃ after, l.span.Cuts text l.text after ∧ l.text ≠ [] ∧
      (∀ t, l.token? = some t → IsTokenAt t l.text after) ∧
      (l.token? = none → IsStrayAt l.text after) := by
  obtain ⟨before, c, rest, htext, hspace, hl, htoken, hstart, hstop⟩ := eq_munch_of_mem_scan h
  refine ⟨rest.drop (munch c rest).1, ⟨before, ?_, ?_⟩, ?_, fun t ht => ?_, fun hnone => ?_⟩
  · rw [htext, hl, List.append_assoc, List.cons_append, List.take_append_drop]
  · rw [Nat.zero_add] at hstart
    rw [← hstart, ← hstop]
  · rw [hl]
    exact List.cons_ne_nil _ _
  · rw [hl]
    exact isTokenAt_munch (htoken.symm.trans ht)
  · rw [hl]
    exact isStrayAt_munch hspace (htoken.symm.trans hnone)

/-! ### How the places follow each other -/

theorem start_le_of_mem_scan {l : Lexeme} {start : Nat} {cs : List Char} (h : l ∈ scan start cs) :
    start ≤ l.span.start := by
  obtain ⟨before, _, _, -, -, -, -, hstart, -⟩ := eq_munch_of_mem_scan h
  omega

theorem pairwise_scan (start : Nat) (cs : List Char) :
    (scan start cs).Pairwise fun l m => l.span.Precedes m.span := by
  induction start, cs using scan.induct with
  | case1 => simp
  | case2 start c cs hspace ih => rwa [scan_space hspace]
  | case3 start c cs hspace more token? hmunch text stop ih =>
    have hmore : (munch c cs).1 = more := by rw [hmunch]
    rw [scan_munch hspace, hmore, List.pairwise_cons]
    exact ⟨fun l hl => start_le_of_mem_scan hl, ih⟩

/-- A byte in no lexeme is a blank, since every other character begins one or is part of one. -/
theorem exists_space_of_not_covers {start : Nat} {cs : List Char} {i : Nat} (hstart : start ≤ i)
    (hstop : i < start + byteLength cs) (h : ∀ l ∈ scan start cs, ¬ l.span.Covers i) :
    ∃ before c after, cs = before ++ c :: after ∧ start + byteLength before = i ∧ isSpace c := by
  induction start, cs using scan.induct with
  | case1 start =>
    rw [Text.byteLength_nil] at hstop
    omega
  | case2 start c cs hspace ih =>
    rw [scan_space hspace] at h
    by_cases hi : i = start
    · exact ⟨[], c, cs, rfl, hi.symm, hspace⟩
    · have hone := Text.utf8Size_of_isSpace hspace
      rw [Text.byteLength_cons] at hstop
      obtain ⟨before, d, after, rfl, hbefore, hd⟩ := ih (by omega) (by omega) h
      refine ⟨c :: before, d, after, rfl, ?_, hd⟩
      rw [Text.byteLength_cons]
      omega
  | case3 start c cs hspace more token? hmunch text stop ih =>
    have hmore : (munch c cs).1 = more := by rw [hmunch]
    rw [scan_munch hspace, hmore] at h
    have hfirst := h _ List.mem_cons_self
    have htext : c :: cs = text ++ cs.drop more := by
      rw [List.cons_append, List.take_append_drop]
    have hbyte : stop ≤ i := by
      by_contra hlt
      exact hfirst ⟨hstart, by show i < stop; omega⟩
    rw [htext, Text.byteLength_append] at hstop
    obtain ⟨before, d, after, hrest, hbefore, hd⟩ := ih hbyte (by omega)
      fun l hl => h l (List.mem_cons_of_mem _ hl)
    refine ⟨text ++ before, d, after, by rw [htext, hrest, List.append_assoc], ?_, hd⟩
    rw [Text.byteLength_append]
    omega

/-! ### Tokens and strays -/

/-- Of lexemes each is a token or none. -/
theorem perm_spans (ls : List Lexeme) :
    (ls.map span).Perm
      ((ls.filterMap placedToken?).map Prod.snd ++ (ls.filter isStray).map span) := by
  induction ls with
  | nil => exact .refl _
  | cons l ls ih =>
    cases hl : l.token? with
    | some t => simpa [placedToken?, isStray, hl] using ih
    | none =>
      simp only [placedToken?, isStray, hl, List.map_cons, List.filterMap_cons, Option.map_none,
        Option.isNone_none, List.filter_cons_of_pos]
      exact (ih.cons l.span).trans List.perm_middle.symm

end Lexeme

/-! ### Main statement -/

/-- The places of tokens and of what is none, the former first. -/
def places (tokens : List (Token × Span)) (strays : List Lexeme) : List Span :=
  tokens.map Prod.snd ++ strays.map Lexeme.span

/-- A text divides into these tokens, these strays and blanks. -/
structure IsDivision (text : String) (tokens : List (Token × Span)) (strays : List Lexeme) :
    Prop where
  tokens_ordered : (tokens.map Prod.snd).Pairwise Span.Precedes
  strays_ordered : (strays.map Lexeme.span).Pairwise Span.Precedes
  ordered : ∃ spans : List Span, spans.Perm (places tokens strays) ∧ spans.Pairwise Span.Precedes
  nonempty : ∀ s ∈ places tokens strays, s.start < s.stop ∧ s.stop ≤ byteLength text.toList
  blank : ∀ i < byteLength text.toList, (∀ s ∈ places tokens strays, ¬ s.Covers i) →
    ∃ before c after, text.toList = before ++ c :: after ∧ byteLength before = i ∧
      c ∈ [' ', '\t', '\r', '\n']
  token : ∀ t s, (t, s) ∈ tokens → ∃ cs after, s.Cuts text cs after ∧ IsTokenAt t cs after
  ellipsis : ∀ s ∈ places tokens strays, ∀ cs after, s.Cuts text cs after →
    ['.', '.', '.'] <+: cs ++ after → (.ellipsis, s) ∈ tokens
  stray : ∀ l ∈ strays, ∃ after, l.span.Cuts text l.text after ∧ IsStrayAt l.text after
  outOfRange : ∀ l ∈ strays, ∀ n, IsLiteral l.text n → IsOutOfRange n

section Text
variable {text : String}

theorem exists_cuts_of_mem_tokens {t : Token} {s : Span} (h : (t, s) ∈ tokens text) :
    ∃ cs after, s.Cuts text cs after ∧ cs ≠ [] ∧ IsTokenAt t cs after := by
  obtain ⟨l, hl, hplaced⟩ := List.mem_filterMap.1 h
  obtain ⟨t', htoken, heq⟩ := Option.map_eq_some_iff.1 hplaced
  cases heq
  obtain ⟨after, hcuts, hne, hat, -⟩ := Lexeme.exists_cuts_of_mem_all hl
  exact ⟨l.text, after, hcuts, hne, hat t htoken⟩

theorem exists_cuts_of_mem_strays {l : Lexeme} (h : l ∈ strays text) :
    ∃ after, l.span.Cuts text l.text after ∧ l.text ≠ [] ∧ IsStrayAt l.text after := by
  obtain ⟨hl, hstray⟩ := List.mem_filter.1 h
  obtain ⟨after, hcuts, hne, -, hat⟩ := Lexeme.exists_cuts_of_mem_all hl
  exact ⟨after, hcuts, hne, hat (Option.isNone_iff_eq_none.1 hstray)⟩

/-- Each place is that of a token or of a stray. -/
theorem mem_places_iff {s : Span} : s ∈ places (tokens text) (strays text) ↔
    (∃ t, (t, s) ∈ tokens text) ∨ ∃ l ∈ strays text, l.span = s := by
  simp [places]

theorem mem_places_of_mem_all {l : Lexeme} (h : l ∈ Lexeme.all text) :
    l.span ∈ places (tokens text) (strays text) :=
  (Lexeme.perm_spans (Lexeme.all text)).subset (List.mem_map_of_mem h)

theorem pairwise_all (text : String) : ((Lexeme.all text).map Lexeme.span).Pairwise Span.Precedes :=
  List.pairwise_map.2 (Lexeme.pairwise_scan 0 text.toList)

theorem tokens_precede (text : String) : ((tokens text).map Prod.snd).Pairwise Span.Precedes := by
  refine List.pairwise_map.2 ((Lexeme.pairwise_scan 0 text.toList).filterMap _ ?_)
  intro l m hlm p hp q hq
  obtain ⟨t, -, rfl⟩ := Option.map_eq_some_iff.1 hp
  obtain ⟨u, -, rfl⟩ := Option.map_eq_some_iff.1 hq
  exact hlm

theorem strays_precede (text : String) :
    ((strays text).map Lexeme.span).Pairwise Span.Precedes :=
  List.pairwise_map.2 ((Lexeme.pairwise_scan 0 text.toList).filter _)

/-- Every text divides into its tokens, its strays and blanks. A minus sign is a stray just where no
digit follows it. -/
theorem isDivision_tokens_strays (text : String) :
    IsDivision text (tokens text) (strays text) ∧
    ∀ after, (∃ v, v <+: '-' :: after ∧ IsTokenText v) ↔ ∃ d ∈ after.head?, d.isDigit := by
  refine ⟨?_, fun _ => minus_begins_iff⟩
  constructor
  case tokens_ordered => exact tokens_precede text
  case strays_ordered => exact strays_precede text
  case ordered => exact ⟨_, Lexeme.perm_spans (Lexeme.all text), pairwise_all text⟩
  case nonempty =>
    intro s hs
    obtain ⟨t, ht⟩ | ⟨l, hl, rfl⟩ := mem_places_iff.1 hs
    · obtain ⟨cs, after, hcuts, hne, -⟩ := exists_cuts_of_mem_tokens ht
      exact ⟨hcuts.start_lt_stop hne, hcuts.stop_le⟩
    · obtain ⟨after, hcuts, hne, -⟩ := exists_cuts_of_mem_strays hl
      exact ⟨hcuts.start_lt_stop hne, hcuts.stop_le⟩
  case blank =>
    intro i hi hnone
    have huncovered : ∀ l ∈ Lexeme.all text, ¬ l.span.Covers i :=
      fun l hl => hnone _ (mem_places_of_mem_all hl)
    obtain ⟨before, c, after, htext, hbefore, hc⟩ :=
      Lexeme.exists_space_of_not_covers (Nat.zero_le i) (by omega) huncovered
    exact ⟨before, c, after, htext, by omega, Text.isSpace_iff.1 hc⟩
  case token =>
    intro t s hts
    obtain ⟨cs, after, hcuts, -, hat⟩ := exists_cuts_of_mem_tokens hts
    exact ⟨cs, after, hcuts, hat⟩
  case ellipsis =>
    intro s hs cs after hcuts hdots
    obtain ⟨t, ht⟩ | ⟨l, hl, rfl⟩ := mem_places_iff.1 hs
    · obtain ⟨cs', after', hcuts', -, hat⟩ := exists_cuts_of_mem_tokens ht
      obtain ⟨rfl, rfl⟩ := hcuts.unique hcuts'
      rwa [hat.eq_ellipsis hdots] at ht
    · obtain ⟨after', hcuts', -, hat⟩ := exists_cuts_of_mem_strays hl
      obtain ⟨rfl, rfl⟩ := hcuts.unique hcuts'
      exact absurd hdots hat.not_begins_ellipsis
  case stray =>
    intro l hl
    obtain ⟨after, hcuts, -, hat⟩ := exists_cuts_of_mem_strays hl
    exact ⟨after, hcuts, hat⟩
  case outOfRange =>
    intro l hl n hn
    obtain ⟨after, -, -, hat⟩ := exists_cuts_of_mem_strays hl
    exact hat.outOfRange hn

end Text

end Dataflow.Notation
