import Dataflow.Proofs.Json.Basic
import Dataflow.Proofs.Json.Scalar
import Dataflow.Proofs.Text.Blank

/-! Lists and objects in JSON text, whatever reads what they hold. If each part that is written is
read, so is the whole; what holds of each part that is read, or what each part preserves, holds of
the whole. -/
namespace Dataflow.Json

open Text (isSpace skipSpace skipSpace_cons)

/-! ### Text -/

/-- Texts after the first, with a comma and this gap before each. -/
def laterTexts (gap : List Char) (texts : List (List Char)) : List Char :=
  texts.flatMap fun text => ',' :: (gap ++ text)

/-- Texts with this gap before each and a comma between two of them. -/
def spread (gap : List Char) : List (List Char) → List Char
  | [] => []
  | text :: texts => gap ++ text ++ laterTexts gap texts

theorem spread_cons (gap text : List Char) (texts : List (List Char)) (rest : List Char) :
    spread gap (text :: texts) ++ rest = gap ++ (text ++ (laterTexts gap texts ++ rest)) := by
  simp [spread]

theorem laterTexts_cons (gap text : List Char) (texts : List (List Char)) (rest : List Char) :
    laterTexts gap (text :: texts) ++ rest =
      ',' :: (gap ++ (text ++ (laterTexts gap texts ++ rest))) := by
  simp [laterTexts]

theorem spread_append_cons (gap : List Char) (texts : List (List Char)) (text : List Char)
    (later : List (List Char)) :
    spread gap (texts ++ text :: later) = spread gap (texts ++ [text]) ++ laterTexts gap later := by
  cases texts <;> simp [spread, laterTexts]

theorem length_le_length_laterTexts (gap : List Char) (texts : List (List Char)) :
    texts.length ≤ (laterTexts gap texts).length :=
  length_le_length_flatMap (by simp) texts

/-- There are characters enough for a step for each of the later texts and one more. -/
theorem exists_length_eq_of_laterTexts (gap text : List Char) (texts : List (List Char))
    {rest : List Char} (h : rest ≠ []) :
    ∃ steps,
      (gap ++ (text ++ (laterTexts gap texts ++ rest))).length = steps + 1 + texts.length := by
  have hlater := length_le_length_laterTexts gap texts
  have hrest := List.length_pos_of_ne_nil h
  refine ⟨(gap ++ (text ++ (laterTexts gap texts ++ rest))).length - 1 - texts.length, ?_⟩
  simp only [List.length_append]
  omega

theorem lineItems_eq_spread (items : List Json) : lineItems items = spread [] (items.map line) := by
  induction items with
  | nil => rfl
  | cons v items ih =>
    cases items with
    | nil => simp [lineItems, spread, laterTexts]
    | cons w items => simpa [lineItems, spread, laterTexts] using ih

/-- A member as it is written when its value is written like this. -/
def namedText (e : String × List Char) : List Char := quoted e.1 ++ ':' :: e.2

theorem lineMembers_eq_spread (members : List (String × Json)) :
    lineMembers members = spread [] (members.map fun e => namedText (e.1, e.2.line)) := by
  induction members with
  | nil => rfl
  | cons e members ih =>
    cases members with
    | nil => simp [lineMembers, spread, laterTexts, namedText]
    | cons d members => simpa [lineMembers, spread, laterTexts, namedText] using ih

theorem line_array_append (items : List Json) (rest : List Char) :
    (array items).line ++ rest = '[' :: (lineItems items ++ ']' :: rest) := by
  simp [line]

theorem line_object_append (members : List (String × Json)) (rest : List Char) :
    (object members).line ++ rest = '{' :: (lineMembers members ++ '}' :: rest) := by
  simp [line]

theorem not_isSpace_of_isDigit {c : Char} (h : c.isDigit) : ¬ isSpace c :=
  Text.not_isSpace_of_class (by decide) h

/-- A number starts with a minus sign or a digit. -/
theorem exists_decimal_eq_cons (n : Int) :
    ∃ c cs, decimal n = c :: cs ∧ (c = '-' ∨ c.isDigit) := by
  unfold decimal
  split
  · exact ⟨_, _, rfl, .inl rfl⟩
  · obtain ⟨c, cs, hcs, hdigit, -⟩ := exists_toDigits_eq_cons n.natAbs
    exact ⟨c, cs, hcs, .inr hdigit⟩

/-- The character that the text of a value starts with. -/
inductive Opens : Json → Char → Prop
  | null : Opens .null 'n'
  | true : Opens (.bool true) 't'
  | false : Opens (.bool false) 'f'
  | minus (n : Number) : Opens (.number n) '-'
  | digit (n : Number) {c : Char} (h : c.isDigit) : Opens (.number n) c
  | string (s : String) : Opens (.string s) '"'
  | array (items : List Json) : Opens (.array items) '['
  | object (members : List (String × Json)) : Opens (.object members) '{'

theorem exists_line_eq_cons {v : Json} (h : v.IsFloatFree) :
    ∃ c cs, v.line = c :: cs ∧ v.Opens c := by
  cases h with
  | null => exact ⟨'n', _, by rw [line]; rfl, .null⟩
  | bool b =>
    cases b
    · exact ⟨'f', _, by rw [line]; rfl, .false⟩
    · exact ⟨'t', _, by rw [line]; rfl, .true⟩
  | integer n =>
    obtain ⟨c, cs, hcs, hc⟩ := exists_decimal_eq_cons n.val
    refine ⟨c, cs, by rw [line, Number.text, hcs], ?_⟩
    obtain rfl | hc := hc
    · exact .minus _
    · exact .digit _ hc
  | string s => exact ⟨'"', _, by rw [line, quoted, List.cons_append], .string s⟩
  | array => exact ⟨'[', _, by rw [line, List.cons_append], .array _⟩
  | object => exact ⟨'{', _, by rw [line, List.cons_append], .object _⟩

theorem Opens.not_isSpace {v : Json} {c : Char} (h : v.Opens c) : ¬ isSpace c := by
  cases h with
  | digit n h => exact not_isSpace_of_isDigit h
  | null | true | false | minus | string | array | object => decide

/-- A text that starts with no blank and with no bracket that closes a list. -/
def StartsItem (text : List Char) : Prop := ∃ c cs, text = c :: cs ∧ ¬ isSpace c ∧ c ≠ ']'

theorem startsItem_line {v : Json} (h : v.IsFloatFree) : StartsItem v.line := by
  obtain ⟨c, cs, hline, hopens⟩ := exists_line_eq_cons h
  refine ⟨c, cs, hline, hopens.not_isSpace, ?_⟩
  rintro rfl
  cases hopens with
  | digit n h => exact absurd h (by decide)

/-! ### Gaps -/

/-- Blanks between tokens. -/
def IsGap (gap : List Char) : Prop := ∀ c ∈ gap, isSpace c

theorem isGap_nil : IsGap [] := fun _ h => absurd h List.not_mem_nil

theorem skipSpace_gap {gap : List Char} (h : IsGap gap) (rest : List Char) :
    skipSpace (gap ++ rest) = skipSpace rest := List.dropWhile_append_of_pos h

theorem skipSpace_gap_cons {gap : List Char} (h : IsGap gap) {c : Char} (hc : ¬ isSpace c)
    (rest : List Char) : skipSpace (gap ++ c :: rest) = c :: rest := by
  rw [skipSpace_gap h, skipSpace_cons hc]

theorem endsNumber_space {c : Char} (h : isSpace c) (rest : List Char) :
    EndsNumber (c :: rest) := by
  rintro _ ⟨⟩
  simp only [isSpace, Bool.or_eq_true, decide_eq_true_eq] at h
  rcases h with ((rfl | rfl) | rfl) | rfl <;> decide

/-- A number ends before a bracket, whatever gap lies between them. -/
theorem endsNumber_gap {gap : List Char} (h : IsGap gap) {c : Char} (hc : c = ']' ∨ c = '}')
    (rest : List Char) : EndsNumber (gap ++ c :: rest) := by
  cases gap with
  | nil => exact endsNumber_cons (.inr hc) rest
  | cons b gap => exact endsNumber_space (h b List.mem_cons_self) _

/-- What stands after an item: a comma, or the end of the container. -/
theorem endsNumber_laterTexts (gap : List Char) (texts : List (List Char)) {rest : List Char}
    (h : EndsNumber rest) : EndsNumber (laterTexts gap texts ++ rest) := by
  cases texts with
  | nil => exact h
  | cons text texts =>
    rw [laterTexts_cons]
    exact endsNumber_cons (by simp) _

/-! ### Reading lists back -/

section Lists

variable {gap close : List Char}

theorem nextItem_first (hgap : IsGap gap) {text : List Char} (h : StartsItem text)
    (rest : List Char) : nextItem true (gap ++ (text ++ rest)) = .ok (.more (text ++ rest)) := by
  obtain ⟨c, cs, rfl, hspace, hclose⟩ := h
  unfold nextItem
  rw [List.cons_append, skipSpace_gap_cons hgap hspace]
  split
  · rename_i heq
    cases heq
  · rename_i heq
    exact absurd (List.cons.inj heq).1 hclose
  · rename_i heq
    cases heq
    rfl

theorem nextItem_comma (hgap : IsGap gap) {text : List Char} (h : StartsItem text)
    (rest : List Char) :
    nextItem false (',' :: (gap ++ (text ++ rest))) = .ok (.more (text ++ rest)) := by
  obtain ⟨c, cs, rfl, hspace, hclose⟩ := h
  unfold nextItem
  rw [skipSpace_cons (by decide)]
  split
  · rename_i heq
    cases heq
  · rename_i heq
    cases heq
  · rename_i heq
    cases heq
    rw [if_neg Bool.false_ne_true, if_pos rfl, List.cons_append, skipSpace_gap_cons hgap hspace]
    split
    · rename_i heq
      cases heq
    · rename_i heq
      exact absurd (List.cons.inj heq).1 hclose
    · rfl

theorem nextItem_close (hclose : IsGap close) (first : Bool) (rest : List Char) :
    nextItem first (close ++ ']' :: rest) = .ok (.done rest) := by
  rw [nextItem, skipSpace_gap_cons hclose (by decide)]
  rfl

variable {item : Reader α} {text : α → List Char} {as : List α}

/-- One step reads one item, if there is one. -/
theorem itemsFrom_of_nextItem {first : Bool} {cs cs' rest rest' : List Char} {a : α} {steps : Nat}
    (hnext : nextItem first cs = .ok (.more cs')) (hitem : item cs' = .ok (a, rest))
    (hitems : itemsFrom item steps false rest = .ok (as, rest')) :
    itemsFrom item (steps + 1) first cs = .ok (a :: as, rest') := by
  rw [itemsFrom, hnext]
  simp only [ok_bind, hitem, hitems]
  rfl

theorem itemsFrom_close (hclose : IsGap close) (steps : Nat) (first : Bool) (rest : List Char) :
    itemsFrom item (steps + 1) first (close ++ ']' :: rest) = .ok ([], rest) := by
  have hdone := nextItem_close hclose first rest
  rw [itemsFrom, hdone]
  rfl

/-- The items after one, if each of them is read back. -/
theorem itemsFrom_laterTexts (hgap : IsGap gap) (hclose : IsGap close)
    (hstart : ∀ a ∈ as, StartsItem (text a))
    (h : ∀ a ∈ as, ∀ rest, EndsNumber rest → item (text a ++ rest) = .ok (a, rest))
    (steps : Nat) (rest : List Char) :
    itemsFrom item (steps + 1 + as.length) false
      (laterTexts gap (as.map text) ++ (close ++ ']' :: rest)) = .ok (as, rest) := by
  induction as with
  | nil => exact itemsFrom_close hclose steps false rest
  | cons a as ih =>
    have hend := endsNumber_gap hclose (.inl rfl) rest
    have hitem := h a List.mem_cons_self _ (endsNumber_laterTexts gap (as.map text) hend)
    have hitems := ih (fun b hb => hstart b (List.mem_cons_of_mem a hb))
      fun b hb => h b (List.mem_cons_of_mem a hb)
    rw [List.map_cons, laterTexts_cons]
    exact itemsFrom_of_nextItem (nextItem_comma hgap (hstart a List.mem_cons_self) _) hitem hitems

theorem readItems_spread (hgap : IsGap gap) (hclose : IsGap close)
    (hstart : ∀ a ∈ as, StartsItem (text a))
    (h : ∀ a ∈ as, ∀ rest, EndsNumber rest → item (text a ++ rest) = .ok (a, rest))
    (rest : List Char) :
    readItems item (spread gap (as.map text) ++ (close ++ ']' :: rest)) = .ok (as, rest) := by
  suffices hfrom : itemsFrom item ((spread gap (as.map text) ++ (close ++ ']' :: rest)).length + 1)
      true (spread gap (as.map text) ++ (close ++ ']' :: rest)) = .ok (as, rest) by
    rw [readItems, hfrom]
    rfl
  cases as with
  | nil => exact itemsFrom_close hclose _ true rest
  | cons a as =>
    have hend := endsNumber_gap hclose (.inl rfl) rest
    have hitem := h a List.mem_cons_self _ (endsNumber_laterTexts gap (as.map text) hend)
    have hitems := itemsFrom_laterTexts hgap hclose
      (fun b hb => hstart b (List.mem_cons_of_mem a hb)) fun b hb => h b (List.mem_cons_of_mem a hb)
    obtain ⟨steps, hsteps⟩ := exists_length_eq_of_laterTexts gap (text a) (as.map text)
      (List.append_ne_nil_of_right_ne_nil close (List.cons_ne_nil ']' rest))
    rw [List.map_cons, spread_cons, hsteps, List.length_map]
    exact itemsFrom_of_nextItem (nextItem_first hgap (hstart a List.mem_cons_self) _) hitem
      (hitems steps rest)

end Lists

theorem readItems_lineItems {item : Reader α} {encode : α → Json} {as : List α}
    (hfloat : ∀ a ∈ as, (encode a).IsFloatFree)
    (h : ∀ a ∈ as, ∀ rest, EndsNumber rest → item ((encode a).line ++ rest) = .ok (a, rest))
    (rest : List Char) :
    readItems item (lineItems (as.map encode) ++ ']' :: rest) = .ok (as, rest) := by
  rw [lineItems_eq_spread, List.map_map]
  exact readItems_spread isGap_nil isGap_nil (fun a ha => startsItem_line (hfloat a ha)) h rest

/-! ### Reading objects back -/

@[simp] theorem readColon_colon (cs : List Char) : readColon (':' :: cs) = .ok cs := rfl

/-- Reading these members, of which the second part is what follows the colon, one after another
leads from one state to another. -/
inductive TextsRead (member : σ → String → Reader σ) : σ → List (String × List Char) → σ → Prop
  | nil (s : σ) : TextsRead member s [] s
  | cons {s s' s'' : σ} {name : String} {text : List Char} {texts : List (String × List Char)}
      (h : ∀ rest, EndsNumber rest → member s name (':' :: (text ++ rest)) = .ok (s', rest))
      (hs : TextsRead member s' texts s'') : TextsRead member s ((name, text) :: texts) s''

theorem TextsRead.append {member : σ → String → Reader σ} {s s' s'' : σ}
    {texts later : List (String × List Char)} (h : TextsRead member s texts s')
    (hlater : TextsRead member s' later s'') : TextsRead member s (texts ++ later) s'' := by
  induction h with
  | nil => exact hlater
  | cons h _ ih => exact .cons h (ih hlater)

/-- Reading these members as they are written in one line. -/
abbrev MembersRead (member : σ → String → Reader σ) (s : σ) (members : List (String × Json))
    (s' : σ) : Prop :=
  TextsRead member s (members.map fun e => (e.1, e.2.line)) s'

section Objects

variable {gap close : List Char}

theorem nextName_first (hgap : IsGap gap) (cs : List Char) :
    nextName true (gap ++ '"' :: cs) = .ok (.more cs) := by
  rw [nextName, skipSpace_gap_cons hgap (by decide)]
  rfl

theorem nextName_comma (hgap : IsGap gap) (cs : List Char) :
    nextName false (',' :: (gap ++ '"' :: cs)) = .ok (.more cs) := by
  have hname : skipSpace (gap ++ '"' :: cs) = '"' :: cs := skipSpace_gap_cons hgap (by decide) cs
  rw [nextName, skipSpace_cons (by decide)]
  simp [hname]

theorem nextName_close (hclose : IsGap close) (first : Bool) (rest : List Char) :
    nextName first (close ++ '}' :: rest) = .ok (.done rest) := by
  rw [nextName, skipSpace_gap_cons hclose (by decide)]
  rfl

theorem namedText_append (name : String) (text rest : List Char) :
    namedText (name, text) ++ rest =
      '"' :: (name.toList.flatMap escape ++ '"' :: ':' :: (text ++ rest)) := by
  simp [namedText, quoted]

variable {member : σ → String → Reader σ} {s s' : σ} {texts : List (String × List Char)}

theorem membersFrom_first (hgap : IsGap gap) (steps : Nat) (s : σ) (name : String)
    (text rest : List Char) :
    membersFrom member (steps + 1) true s (gap ++ (namedText (name, text) ++ rest)) =
      member s name (':' :: (text ++ rest)) >>= fun p =>
        membersFrom member steps false p.1 p.2 := by
  rw [namedText_append, membersFrom, nextName_first hgap]
  simp only [ok_bind, readString_escape]

theorem membersFrom_comma (hgap : IsGap gap) (steps : Nat) (s : σ) (name : String)
    (text rest : List Char) :
    membersFrom member (steps + 1) false s (',' :: (gap ++ (namedText (name, text) ++ rest))) =
      member s name (':' :: (text ++ rest)) >>= fun p =>
        membersFrom member steps false p.1 p.2 := by
  rw [namedText_append, membersFrom, nextName_comma hgap]
  simp only [ok_bind, readString_escape]

theorem membersFrom_close (hclose : IsGap close) (steps : Nat) (first : Bool) (s : σ)
    (rest : List Char) :
    membersFrom member (steps + 1) first s (close ++ '}' :: rest) = .ok (s, rest) := by
  have hdone := nextName_close hclose first rest
  rw [membersFrom, hdone]
  rfl

/-- After members that are read, reading goes on from the state that they lead to. -/
theorem membersFrom_laterTexts (hgap : IsGap gap) (h : TextsRead member s texts s') (steps : Nat)
    {rest : List Char} (hrest : EndsNumber rest) :
    membersFrom member (steps + texts.length) false s
      (laterTexts gap (texts.map namedText) ++ rest) = membersFrom member steps false s' rest := by
  induction h with
  | nil s => rfl
  | @cons s s' s'' name text texts h hs ih =>
    have hmember := h _ (endsNumber_laterTexts gap (texts.map namedText) hrest)
    rw [List.map_cons, laterTexts_cons, List.length_cons, ← Nat.add_assoc, membersFrom_comma hgap,
      hmember, ok_bind]
    exact ih

theorem readMembers_spread (hgap : IsGap gap) (hclose : IsGap close)
    (h : TextsRead member s texts s') (rest : List Char) :
    readMembers member s (spread gap (texts.map namedText) ++ (close ++ '}' :: rest)) =
      .ok (s', rest) := by
  suffices hfrom :
      membersFrom member ((spread gap (texts.map namedText) ++ (close ++ '}' :: rest)).length + 1)
        true s (spread gap (texts.map namedText) ++ (close ++ '}' :: rest)) = .ok (s', rest) by
    rw [readMembers, hfrom]
    rfl
  cases h with
  | nil => exact membersFrom_close hclose _ true s rest
  | @cons _ s'' _ name text texts h hs =>
    rw [List.map_cons, spread_cons]
    obtain ⟨steps, hsteps⟩ := exists_length_eq_of_laterTexts gap (namedText (name, text))
      (texts.map namedText) (List.append_ne_nil_of_right_ne_nil close (List.cons_ne_nil '}' rest))
    have hend := endsNumber_gap hclose (.inr rfl) rest
    have hmember := h _ (endsNumber_laterTexts gap (texts.map namedText) hend)
    rw [hsteps, List.length_map, membersFrom_first hgap, hmember, ok_bind,
      membersFrom_laterTexts hgap hs _ hend]
    exact membersFrom_close hclose steps false s' rest

theorem readMembers_lineMembers {members : List (String × Json)}
    (h : MembersRead member s members s') (rest : List Char) :
    readMembers member s (lineMembers members ++ '}' :: rest) = .ok (s', rest) := by
  have hspread := readMembers_spread isGap_nil isGap_nil h rest
  rw [List.map_map] at hspread
  rw [lineMembers_eq_spread]
  exact hspread

/-! ### Refusals -/

/-- Fails for this reason, wherever that was found. -/
def FailsFor (reason : Reason) (x : Except Fault α) : Prop := ∃ f, x = .error f ∧ f.reason = reason

variable {reason : Reason}

theorem FailsFor.map {x : Except Fault α} (h : FailsFor reason x) (f : α → β) :
    FailsFor reason (x.map f) := by
  obtain ⟨fault, rfl, hreason⟩ := h
  exact ⟨fault, rfl, hreason⟩

theorem FailsFor.bind {x : Except Fault α} (h : FailsFor reason x) (f : α → Except Fault β) :
    FailsFor reason (x >>= f) := by
  obtain ⟨fault, rfl, hreason⟩ := h
  exact ⟨fault, rfl, hreason⟩

/-- A container gives a fault its place but leaves its reason. -/
theorem FailsFor.settle {x : Except Fault α} (h : FailsFor reason x)
    (close : List Char → List Char) : FailsFor reason (x.mapError (·.settle close)) := by
  obtain ⟨fault, rfl, hreason⟩ := h
  refine ⟨fault.settle close, rfl, ?_⟩
  rw [Fault.settle]
  split <;> exact hreason

/-- What is wrong with a member is wrong with the object if the members before it are read. -/
theorem readMembers_spread_refused (hgap : IsGap gap) (h : TextsRead member s texts s')
    {name : String} {text : List Char}
    (hmember : ∀ rest, EndsNumber rest → FailsFor reason (member s' name (':' :: (text ++ rest))))
    {rest : List Char} (hrest : EndsNumber rest) :
    FailsFor reason (readMembers member s
      (spread gap ((texts ++ [(name, text)]).map namedText) ++ rest)) := by
  rw [readMembers]
  apply FailsFor.settle
  cases h with
  | nil =>
    rw [List.nil_append, List.map_singleton, spread_cons, membersFrom_first hgap]
    exact (hmember rest hrest).bind _
  | @cons _ s'' _ first firstText texts h hs =>
    have hlast : laterTexts gap ((texts ++ [(name, text)]).map namedText) ++ rest =
        laterTexts gap (texts.map namedText) ++
          (',' :: (gap ++ (namedText (name, text) ++ rest))) := by
      simp [laterTexts]
    have hcomma : EndsNumber (',' :: (gap ++ (namedText (name, text) ++ rest))) :=
      endsNumber_cons (.inl rfl) _
    have hfirst := h _ (endsNumber_laterTexts gap (texts.map namedText) hcomma)
    rw [List.cons_append, List.map_cons, spread_cons, hlast, membersFrom_first hgap, hfirst,
      ok_bind]
    obtain ⟨steps, hsteps⟩ := exists_length_eq_of_laterTexts gap (namedText (first, firstText))
      (texts.map namedText) (List.cons_ne_nil ',' (gap ++ (namedText (name, text) ++ rest)))
    rw [hsteps, List.length_map, membersFrom_laterTexts hgap hs _ hcomma, membersFrom_comma hgap]
    exact (hmember rest hrest).bind _

theorem readMembers_lineMembers_refused {members : List (String × Json)}
    (h : MembersRead member s members s') {name : String} {v : Json}
    (hmember : ∀ rest, EndsNumber rest → FailsFor reason (member s' name (':' :: (v.line ++ rest))))
    (later : List (String × Json)) (rest : List Char) :
    FailsFor reason
      (readMembers member s (lineMembers (members ++ (name, v) :: later) ++ '}' :: rest)) := by
  have hend := endsNumber_laterTexts [] (later.map fun e => namedText (e.1, e.2.line))
    (endsNumber_cons (.inr (.inr rfl)) rest)
  have hrefused := readMembers_spread_refused isGap_nil h hmember hend
  rw [lineMembers_eq_spread, List.map_append, List.map_cons, spread_append_cons, List.append_assoc]
  rw [List.map_append, List.map_map] at hrefused
  exact hrefused

end Objects

/-! ### What has been read -/

theorem itemsFrom_forall {item : Reader α} {p : α → Prop}
    (hitem : ∀ {cs a rest}, item cs = .ok (a, rest) → p a) {steps : Nat} {first : Bool}
    {cs rest : List Char} {as : List α} (h : itemsFrom item steps first cs = .ok (as, rest)) :
    ∀ a ∈ as, p a := by
  induction steps generalizing first cs rest as with
  | zero => cases h
  | succ steps ih =>
    rw [itemsFrom] at h
    obtain ⟨turn, -, h⟩ := bind_eq_ok_iff.1 h
    cases turn with
    | done rest =>
      cases h
      nofun
    | more rest =>
      obtain ⟨⟨a, rest⟩, ha, h⟩ := bind_eq_ok_iff.1 h
      obtain ⟨⟨as, rest⟩, has, h⟩ := bind_eq_ok_iff.1 h
      cases h
      intro b hb
      rcases List.mem_cons.1 hb with rfl | hb
      · exact hitem ha
      · exact ih has b hb

theorem readItems_forall {item : Reader α} {p : α → Prop}
    (hitem : ∀ {cs a rest}, item cs = .ok (a, rest) → p a) {cs rest : List Char} {as : List α}
    (h : readItems item cs = .ok (as, rest)) : ∀ a ∈ as, p a :=
  itemsFrom_forall hitem (mapError_eq_ok_iff.1 h)

/-- Where the first reader reads on from a state, the second one does so from each state that goes
with it, and they come to states that go together. -/
def Parallel (r : σ → τ → Prop) (step : σ → Reader σ) (step' : τ → Reader τ) : Prop :=
  ∀ ⦃s t cs s' rest⦄, r s t → step s cs = .ok (s', rest) → ∃ t', step' t cs = .ok (t', rest) ∧ r s' t'

theorem parallel_membersFrom {r : σ → τ → Prop} {member : σ → String → Reader σ}
    {member' : τ → String → Reader τ}
    (hmember : ∀ name, Parallel r (fun s => member s name) fun t => member' t name) (steps : Nat)
    (first : Bool) : Parallel r (membersFrom member steps first) (membersFrom member' steps first) := by
  intro s t cs s' rest hst h
  induction steps generalizing first s t cs with
  | zero => cases h
  | succ steps ih =>
    rw [membersFrom] at h ⊢
    obtain ⟨turn, hturn, h⟩ := bind_eq_ok_iff.1 h
    cases turn with
    | done rest =>
      cases h
      exact ⟨t, by rw [hturn]; rfl, hst⟩
    | more rest =>
      obtain ⟨⟨name, rest⟩, hname, h⟩ := bind_eq_ok_iff.1 h
      obtain ⟨⟨s, rest⟩, hread, h⟩ := bind_eq_ok_iff.1 h
      obtain ⟨t, hread', hst⟩ := hmember name hst hread
      obtain ⟨t', h', hst'⟩ := ih false hst h
      refine ⟨t', ?_, hst'⟩
      dsimp only at hread'
      simp only [hturn, hname, hread', h', ok_bind]

theorem parallel_readMembers {r : σ → τ → Prop} {member : σ → String → Reader σ}
    {member' : τ → String → Reader τ}
    (hmember : ∀ name, Parallel r (fun s => member s name) fun t => member' t name) :
    Parallel r (readMembers member) (readMembers member') := by
  intro s t cs s' rest hst h
  obtain ⟨t', h', hst'⟩ := parallel_membersFrom hmember _ true hst (mapError_eq_ok_iff.1 h)
  exact ⟨t', mapError_eq_ok_iff.2 h', hst'⟩

/-- Reading on from a state with the property leads to states with it. -/
def Keeps (p : σ → Prop) (step : σ → Reader σ) : Prop :=
  ∀ ⦃s cs s' rest⦄, p s → step s cs = .ok (s', rest) → p s'

/-- A reader goes along with itself. -/
theorem keeps_iff_parallel {p : σ → Prop} {step : σ → Reader σ} :
    Keeps p step ↔ Parallel (fun s t => s = t ∧ p s) step step := by
  constructor
  · rintro h s _ cs s' rest ⟨rfl, hs⟩ hread
    exact ⟨s', hread, rfl, h hs hread⟩
  · intro h s cs s' rest hs hread
    obtain ⟨_, -, -, hs'⟩ := h ⟨rfl, hs⟩ hread
    exact hs'

theorem keeps_readMembers {member : σ → String → Reader σ} {p : σ → Prop}
    (hmember : ∀ name, Keeps p fun s => member s name) : Keeps p (readMembers member) :=
  keeps_iff_parallel.2 (parallel_readMembers fun name => keeps_iff_parallel.1 (hmember name))

theorem keeps_readMember {value : Reader α} {p : α → Prop}
    (hvalue : ∀ {cs a rest}, value cs = .ok (a, rest) → p a) (name : String) :
    Keeps (fun members => ∀ e ∈ members, p e.2) fun members => readMember value members name := by
  intro members cs members' rest hmembers h
  obtain ⟨_, -, h⟩ := bind_eq_ok_iff.1 h
  obtain ⟨⟨a, _⟩, ha, h⟩ := bind_eq_ok_iff.1 h
  cases h
  intro e he
  rcases List.mem_append.1 he with he | he
  · exact hmembers e he
  · rw [List.mem_singleton.1 he]
    exact hvalue ha

end Dataflow.Json
