import Dataflow.Notation.Reading
import Dataflow.Proofs.Decimal
import Dataflow.Proofs.Text.Blank
import Dataflow.Proofs.Traversal
import Mathlib.Data.List.TakeWhile

/-! How texts fall into lexemes: where each stands, and how a token is spelled. A text that is
written token by token falls into these tokens as long as none runs on into the next. -/
namespace Dataflow.Notation

open Text (byteLength isSpace)

/-! ### Spelling -/

/-- A letter or an underscore, then letters, digits and underscores. -/
def IsIdent (name : String) : Prop :=
  ∃ c cs, name.toList = c :: cs ∧ Lexeme.isIdentStart c ∧ ∀ d ∈ cs, Lexeme.isIdentRest d

instance : DecidablePred IsIdent := fun name =>
  match h : name.toList with
  | [] => .isFalse fun ⟨_, _, hname, _⟩ => by simp [h] at hname
  | c :: cs =>
    decidable_of_iff (Lexeme.isIdentStart c && cs.all Lexeme.isIdentRest) <| by
      rw [Bool.and_eq_true, List.all_eq_true]
      constructor
      · rintro ⟨hc, hcs⟩
        exact ⟨c, cs, h, hc, hcs⟩
      · rintro ⟨_, _, hname, hc, hcs⟩
        cases h.symm.trans hname
        exact ⟨hc, hcs⟩

/-- Digits after an optional minus sign, with their value. -/
inductive IsLiteral : List Char → Int → Prop
  | natural {digits : List Char} (hne : digits ≠ []) (h : ∀ d ∈ digits, d.isDigit) :
      IsLiteral digits (Nat.ofDigitChars 10 digits 0)
  | negative {digits : List Char} (hne : digits ≠ []) (h : ∀ d ∈ digits, d.isDigit) :
      IsLiteral ('-' :: digits) (-Nat.ofDigitChars 10 digits 0)

/-- The characters make this token. -/
def Token.Spells : Token → List Char → Prop
  | int n, cs => IsLiteral cs n.toInt
  | ident name, cs => cs = name.toList ∧ IsIdent name
  | openBracket, cs => cs = ['[']
  | closeBracket, cs => cs = [']']
  | comma, cs => cs = [',']
  | dot, cs => cs = ['.']
  | ellipsis, cs => cs = ['.', '.', '.']
  | question, cs => cs = ['?']

namespace Lexeme

/-! ### Character classes -/

theorem isIdentStart_iff {c : Char} : isIdentStart c ↔
    (65 ≤ c.toNat ∧ c.toNat ≤ 90) ∨ (97 ≤ c.toNat ∧ c.toNat ≤ 122) ∨ c = '_' := by
  have hupper : c.isUpper = decide (65 ≤ c.val ∧ c.val ≤ 90) := rfl
  have hlower : c.isLower = (decide (97 ≤ c.val) && decide (c.val ≤ 122)) := rfl
  have halpha : c.isAlpha = (c.isUpper || c.isLower) := rfl
  simp [isIdentStart, halpha, hupper, hlower, UInt32.le_iff_toNat_le, or_assoc]

theorem isIdentRest_iff {c : Char} : isIdentRest c ↔ isIdentStart c ∨ c.isDigit := by
  simp [isIdentRest, isIdentStart, Char.isAlphanum, or_right_comm]

theorem not_isSpace_of_isIdentRest {c : Char} (h : isIdentRest c) : ¬ isSpace c :=
  Text.not_isSpace_of_class (by decide) h

theorem not_isIdentStart_of_isDigit {c : Char} (h : c.isDigit) : ¬ isIdentStart c := by
  rw [isIdentStart_iff]
  simp only [Char.isDigit_iff_toNat, Char.reduceToNat] at h
  rintro (hc | hc | rfl)
  · omega
  · omega
  · simp at h

/-! ### The longest lexeme -/

theorem take_takeWhile_length (p : Char → Bool) (cs : List Char) :
    cs.take (cs.takeWhile p).length = cs.takeWhile p :=
  (List.prefix_iff_eq_take.1 (List.takeWhile_prefix p)).symm

theorem integer_eq_some_iff {negative : Bool} {digits : List Char} {t : Token} :
    integer negative digits = some t ↔
      ∃ n, t = .int n ∧ n.toInt =
        if negative then -(Nat.ofDigitChars 10 digits 0 : Int)
        else Nat.ofDigitChars 10 digits 0 := by
  simp only [integer, Option.map_eq_some_iff, int64OfInt?_eq_some_iff]
  constructor
  · rintro ⟨n, hn, rfl⟩
    exact ⟨n, rfl, hn.symm⟩
  · rintro ⟨n, rfl, hn⟩
    exact ⟨n, hn.symm, rfl⟩

/-- What starts at a place is spelled by the characters that belong to it. -/
theorem spells_of_munch {c : Char} {cs : List Char} {t : Token} (h : (munch c cs).2 = some t) :
    t.Spells (c :: cs.take (munch c cs).1) := by
  unfold munch at h ⊢
  split at h
  · rename_i hc
    cases h
    rw [if_pos hc, take_takeWhile_length]
    exact ⟨by simp, c, cs.takeWhile isIdentRest, by simp, hc, fun d hd => List.mem_takeWhile_imp hd⟩
  split at h
  · rename_i hc hdigit
    obtain ⟨n, rfl, hn⟩ := integer_eq_some_iff.1 h
    rw [if_neg hc, if_pos hdigit, take_takeWhile_length]
    have hlit : IsLiteral (c :: cs.takeWhile Char.isDigit) _ := .natural (by simp) fun d hd => by
      rcases List.mem_cons.1 hd with rfl | hd
      · exact hdigit
      · exact List.mem_takeWhile_imp hd
    simpa [Token.Spells, hn] using hlit
  rename_i hc hdigit
  rw [if_neg hc, if_neg hdigit]
  split at h
  · simp only at h ⊢
    split at h
    · cases h
    · rename_i hne
      obtain ⟨n, rfl, hn⟩ := integer_eq_some_iff.1 h
      rw [take_takeWhile_length]
      have hlit : IsLiteral ('-' :: cs.takeWhile Char.isDigit) _ :=
        .negative (by simpa using hne) fun d hd => List.mem_takeWhile_imp hd
      simpa [Token.Spells, hn] using hlit
  · split at h
    · rename_i hdots
      cases h
      obtain ⟨rest, rfl⟩ := List.isPrefixOf_iff_prefix.1 hdots
      simp [Token.Spells]
    · rename_i hdots
      cases h
      simp [Token.Spells, hdots]
  all_goals
    cases h
  all_goals rfl

/-- The text after a token does not make it longer. -/
def Ends (t : Token) (rest : List Char) : Prop :=
  match t with
  | .int _ => ∀ c ∈ rest.head?, ¬ c.isDigit
  | .ident _ => ∀ c ∈ rest.head?, ¬ isIdentRest c
  | .dot => ¬ ['.', '.'] <+: rest
  | .openBracket | .closeBracket | .comma | .ellipsis | .question => True

/-- Characters that spell a token and end there are its lexeme. -/
theorem munch_of_spells {t : Token} {cs rest : List Char} (h : t.Spells cs) (he : Ends t rest) :
    ∃ c w, cs = c :: w ∧ ¬ isSpace c ∧ munch c (w ++ rest) = (w.length, some t) := by
  cases t with
  | ident name =>
    obtain ⟨rfl, c, w, hname, hc, hw⟩ := h
    refine ⟨c, w, hname, not_isSpace_of_isIdentRest (isIdentRest_iff.2 (.inl hc)), ?_⟩
    unfold munch
    rw [if_pos hc, takeWhile_append_of_head hw he]
    simp only [← hname, String.ofList_toList]
  | int n =>
    obtain ⟨v, hv⟩ : ∃ v, n.toInt = v := ⟨_, rfl⟩
    rw [Token.Spells, hv] at h
    cases h with
    | @natural digits hne hdigits =>
      obtain ⟨c, w, rfl⟩ := List.exists_cons_of_ne_nil hne
      have hc := hdigits c List.mem_cons_self
      have hw : ∀ d ∈ w, d.isDigit := fun d hd => hdigits d (List.mem_cons_of_mem c hd)
      refine ⟨c, w, rfl, not_isSpace_of_isIdentRest (isIdentRest_iff.2 (.inr hc)), ?_⟩
      have hint : integer false (c :: w) = some (.int n) :=
        integer_eq_some_iff.2 ⟨n, rfl, by simpa using hv⟩
      unfold munch
      rw [if_neg (not_isIdentStart_of_isDigit hc), if_pos hc, takeWhile_append_of_head hw he]
      simp only [hint]
    | @negative digits hne hdigits =>
      refine ⟨'-', digits, rfl, by decide, ?_⟩
      have hint : integer true digits = some (.int n) :=
        integer_eq_some_iff.2 ⟨n, rfl, by simpa using hv⟩
      rw [munch, if_neg (by decide), if_neg (by decide)]
      simp only [takeWhile_append_of_head hdigits he, List.isEmpty_iff, hne, ↓reduceIte, hint]
  | dot =>
    cases h
    refine ⟨'.', [], rfl, by decide, ?_⟩
    rw [Ends, ← List.isPrefixOf_iff_prefix, Bool.not_eq_true] at he
    rw [munch, if_neg (by decide), if_neg (by decide)]
    simp only [List.nil_append, he, List.length_nil, Bool.false_eq_true, ↓reduceIte]
  | ellipsis =>
    cases h
    exact ⟨'.', ['.', '.'], rfl, by decide, by simp [munch, isIdentStart]⟩
  | openBracket | closeBracket | comma | question =>
    cases h
    exact ⟨_, [], rfl, by decide, by simp [munch, isIdentStart]⟩

/-! ### Scanning -/

@[simp] theorem scan_nil (start : Nat) : scan start [] = [] := by rw [scan]

theorem scan_space {c : Char} (h : isSpace c) (start : Nat) (cs : List Char) :
    scan start (c :: cs) = scan (start + c.utf8Size) cs := by
  rw [scan, if_pos h]

theorem scan_munch {c : Char} (h : ¬ isSpace c) (start : Nat) (cs : List Char) :
    scan start (c :: cs) =
      ⟨c :: cs.take (munch c cs).1,
        ⟨start, start + byteLength (c :: cs.take (munch c cs).1)⟩, (munch c cs).2⟩ ::
      scan (start + byteLength (c :: cs.take (munch c cs).1)) (cs.drop (munch c cs).1) := by
  rw [scan, if_neg h]

/-- Each lexeme is the one that starts at its place in the text. -/
theorem eq_munch_of_mem_scan {l : Lexeme} {start : Nat} {cs : List Char} (h : l ∈ scan start cs) :
    ∃ before c rest, cs = before ++ c :: rest ∧ ¬ isSpace c ∧
      l.text = c :: rest.take (munch c rest).1 ∧ l.token? = (munch c rest).2 ∧
      l.span.start = start + byteLength before ∧
      l.span.stop = l.span.start + byteLength l.text := by
  induction start, cs using scan.induct with
  | case1 => simp at h
  | case2 start c cs hspace ih =>
    rw [scan_space hspace] at h
    obtain ⟨before, d, rest, rfl, hd⟩ := ih h
    exact ⟨c :: before, d, rest, rfl, by simpa [Nat.add_assoc] using hd⟩
  | case3 start c cs hspace more token? hmunch text stop ih =>
    have hmore : (munch c cs).1 = more := by rw [hmunch]
    rw [scan_munch hspace, hmore] at h
    rcases List.mem_cons.1 h with rfl | h
    · exact ⟨[], c, cs, rfl, hspace, by simp [hmore], rfl, by simp, rfl⟩
    · obtain ⟨before, d, rest, heq, hd⟩ := ih h
      refine ⟨text ++ before, d, rest, ?_, ?_⟩
      · rw [List.append_assoc, ← heq, List.cons_append, List.take_append_drop]
      · simpa [stop, Nat.add_assoc] using hd

/-- A token with its place in a text: what stands there spells it. -/
theorem spells_of_mem_tokens {text : String} {t : Token} {span : Text.Span}
    (h : (t, span) ∈ tokens text) :
    ∃ before cs after, text.toList = before ++ cs ++ after ∧
      span = ⟨byteLength before, byteLength before + byteLength cs⟩ ∧ t.Spells cs := by
  obtain ⟨l, hl, hplaced⟩ := List.mem_filterMap.1 h
  obtain ⟨t', htoken, heq⟩ := Option.map_eq_some_iff.1 hplaced
  cases heq
  obtain ⟨before, c, rest, htext, -, hlex, hmunch, hstart, hstop⟩ := eq_munch_of_mem_scan hl
  refine ⟨before, l.text, rest.drop (munch c rest).1, ?_, ?_, ?_⟩
  · rw [htext, hlex, List.append_assoc, List.cons_append, List.take_append_drop]
  · rw [Nat.zero_add] at hstart
    rw [← hstart, ← hstop]
  · rw [hlex]
    exact spells_of_munch (hmunch.symm.trans htoken)

/-! ### Tokens without their places -/

/-- What the lexemes of a text are, wherever they stand. -/
def kinds (cs : List Char) : List (Option Token) := (scan 0 cs).map token?

theorem map_token?_scan (start : Nat) (cs : List Char) :
    (scan start cs).map token? = kinds cs := by
  suffices h : ∀ start', (scan start cs).map token? = (scan start' cs).map token? from h 0
  induction start, cs using scan.induct with
  | case1 => simp
  | case2 start c cs hspace ih =>
    intro start'
    rw [scan_space hspace, scan_space hspace, ih]
  | case3 start c cs hspace more token? hmunch text stop ih =>
    intro start'
    have hmore : (munch c cs).1 = more := by rw [hmunch]
    rw [scan_munch hspace, scan_munch hspace, hmore, List.map_cons, List.map_cons, ih]

@[simp] theorem kinds_nil : kinds [] = [] := by simp [kinds]

theorem kinds_space {c : Char} (h : isSpace c) (cs : List Char) : kinds (c :: cs) = kinds cs := by
  rw [kinds, scan_space h, map_token?_scan]

theorem kinds_munch {c : Char} (h : ¬ isSpace c) (cs : List Char) :
    kinds (c :: cs) = (munch c cs).2 :: kinds (cs.drop (munch c cs).1) := by
  rw [kinds, scan_munch h, List.map_cons, map_token?_scan]

/-- A spelled token in front of a text that does not make it longer. -/
theorem kinds_of_spells {t : Token} {cs rest : List Char} (h : t.Spells cs) (he : Ends t rest) :
    kinds (cs ++ rest) = some t :: kinds rest := by
  obtain ⟨c, w, rfl, hspace, hmunch⟩ := munch_of_spells h he
  rw [List.cons_append, kinds_munch hspace, hmunch, List.drop_left]

/-- A text all of which is tokens. -/
theorem kinds_eq_map_some_iff {text : String} {ts : List Token} :
    kinds text.toList = ts.map some ↔
      strays text = [] ∧ (tokens text).map Prod.fst = ts := by
  have hfst : (fun l : Lexeme => (placedToken? l).map Prod.fst) = token? := by
    funext l
    cases h : l.token? <;> simp [placedToken?, h]
  rw [strays, tokens, List.map_filterMap, hfst, kinds, all]
  generalize scan 0 text.toList = ls
  induction ls generalizing ts with
  | nil => cases ts <;> simp
  | cons l ls ih =>
    cases hl : l.token? with
    | none => cases ts <;> simp [hl, isStray]
    | some t => cases ts <;> simp [hl, isStray, ih, and_left_comm]

end Lexeme

end Dataflow.Notation
