import Dataflow.CommandLine.Arguments
import Dataflow.Proofs.Traversal

/-! Options on the command line. Only what a line names can be read from it. A line of long options
that carry their values after an equals sign is read as the options that it was written from, in
their order, if each may have its value and none repeats against the rules. -/
namespace Dataflow.CommandLine

/-! ### One option -/

namespace Key

theorem ne_equals_of_mem_name {k : Key} {c : Char} (h : c ∈ k.name.toList) : c ≠ '=' := by
  rintro rfl
  revert h
  cases k <;> decide

theorem name_inj {k k' : Key} (h : k.name = k'.name) : k = k' := by
  cases k <;> cases k' <;> first | rfl | exact absurd h (by decide)

theorem find?_name_eq {allowed : List Key} {k : Key} (h : k ∈ allowed) :
    allowed.find? (·.name = k.name) = some k := by
  have hsome : (allowed.find? (·.name = k.name)).isSome :=
    List.find?_isSome.2 ⟨k, h, decide_eq_true rfl⟩
  obtain ⟨k', hk'⟩ := Option.isSome_iff_exists.1 hsome
  have hname := List.find?_some hk'
  rw [hk', name_inj (of_decide_eq_true hname)]

/-- An option with its value, as one argument. -/
def argument (k : Key) (value : String) : String := "--" ++ k.name ++ "=" ++ value

end Key

theorem Argument.ofText_argument (k : Key) (value : String) :
    ofText (k.argument value) = long k.name (some value) := by
  have hchars : (k.argument value).toList =
      '-' :: '-' :: (k.name.toList ++ '=' :: value.toList) := by
    simp [Key.argument]
  have hname : ∀ c ∈ k.name.toList, decide (c ≠ '=') = true := fun c hc =>
    decide_eq_true (Key.ne_equals_of_mem_name hc)
  have hstop : ∀ c ∈ ('=' :: value.toList).head?, ¬ decide (c ≠ '=') = true := by simp
  unfold ofText
  rw [hchars]
  split
  · rename_i heq
    simp at heq
  · rename_i heq
    obtain rfl := (List.cons.inj (List.cons.inj heq).2).2
    simp only [takeWhile_append_of_head hname hstop, dropWhile_append_of_head hname hstop,
      String.ofList_toList]
  · rename_i hletter heq
    exact (hletter (List.cons.inj (List.cons.inj heq).2).1.symm).elim
  · rename_i hshort
    exact (hshort _ _ rfl).elim

theorem readOptions_argument {allowed : List Key} {k : Key} (hk : k ∈ allowed) (versioned : Bool)
    (g : Given) (value : String) (rest : List String) :
    readOptions allowed versioned g none (k.argument value :: rest) =
      (g.add? k value).bind fun g => readOptions allowed versioned g none rest := by
  rw [readOptions, Argument.ofText_argument]
  simp [Given.settle?, Argument.isHelp, Argument.isVersion, Key.find?_name_eq hk]

/-! ### Lines -/

namespace Given

/-- The options one after another, each as one argument. -/
def line (options : Given) : List String := options.map fun o => o.1.argument o.2

/-- Options that may stand together where these are allowed. -/
structure IsLegal (allowed : List Key) (options : Given) : Prop where
  mem_allowed : ∀ o ∈ options, o.1 ∈ allowed
  takes : ∀ o ∈ options, o.1.takes o.2
  repeats : options.Pairwise fun o o' => o.1 = o'.1 → o.1.repeats

theorem add?_eq_some {g : Given} {k : Key} {value : String} (htakes : k.takes value)
    (hrepeats : ∀ o ∈ g, o.1 = k → o.1.repeats) : g.add? k value = some (g ++ [(k, value)]) := by
  have hfree : (k.repeats || (g.value? k).isNone) = true := by
    by_cases hk : k.repeats
    · rw [hk, Bool.true_or]
    · rw [Bool.or_eq_true, Option.isNone_iff_eq_none]
      refine .inr (List.lookup_eq_none_iff.2 fun o ho => ?_)
      rw [bne_iff_ne]
      rintro rfl
      exact hk (hrepeats o ho rfl)
  rw [add?, htakes, hfree]
  rfl

end Given

theorem readOptions_line {allowed : List Key} {options : Given} (h : options.IsLegal allowed)
    (versioned : Bool) :
    readOptions allowed versioned [] none options.line = some (options, .done) := by
  obtain ⟨hallowed, htakes, hrepeats⟩ := h
  -- the options that have been read, and those that are still to come
  suffices hs : ∀ g : Given, (g ++ options).Pairwise (fun o o' => o.1 = o'.1 → o.1.repeats) →
      readOptions allowed versioned g none options.line = some (g ++ options, .done) from
    hs [] hrepeats
  clear hrepeats
  induction options with
  | nil =>
    intro g _
    rw [List.append_nil]
    rfl
  | cons o options ih =>
    intro g hg
    obtain ⟨k, value⟩ := o
    have hadd : g.add? k value = some (g ++ [(k, value)]) :=
      Given.add?_eq_some (htakes _ List.mem_cons_self) fun o ho heq =>
        (List.pairwise_append.1 hg).2.2 o ho _ List.mem_cons_self heq
    rw [Given.line, List.map_cons, readOptions_argument (hallowed _ List.mem_cons_self), hadd,
      Option.bind_some]
    have hrest := ih (fun o ho => hallowed o (List.mem_cons_of_mem _ ho))
      (fun o ho => htakes o (List.mem_cons_of_mem _ ho)) (g ++ [(k, value)]) (by simpa using hg)
    rw [List.append_assoc, List.singleton_append] at hrest
    exact hrest

/-- A command is followed by its options in any order that is legal. -/
theorem requestOf?_line {name : String} {allowed : List Key} {build? : Given → Option Command}
    (hcommand : commandOf? name = some (allowed, build?)) {options : Given}
    (h : options.IsLegal allowed) :
    requestOf? (name :: options.line) = (build? options).map
      (.command ((options.value? .log).getD defaultFilter) (options.format?.getD .text)) := by
  have hname : name = "check" ∨ name = "resolve" := by
    unfold commandOf? at hcommand
    split at hcommand
    · exact .inl rfl
    · exact .inr rfl
    · cases hcommand
  have hword : readOptions Key.general true [] none (name :: options.line) =
      some ([], .word none name options.line) := by
    rcases hname with rfl | rfl <;> rfl
  have hhelp : name ≠ "help" := by rcases hname with rfl | rfl <;> decide
  rw [requestOf?, hword]
  simp only [Option.bind_eq_bind, Option.bind_some, hcommand, readOptions_line h, if_neg hhelp]
  have hfilter : (options.value? .log).or (Given.value? [] .log) = options.value? .log :=
    Option.or_none
  have hformat : options.format?.or (Given.format? []) = options.format? := Option.or_none
  rw [Given.settle?, Option.bind_some, hfilter, hformat]
  cases build? options <;> rfl

/-! ### What a line names -/

/-- Some argument of the line is this option. -/
def IsNamed (arguments : List String) (k : Key) : Prop :=
  ∃ a ∈ arguments, ∃ value?, Argument.ofText a = .long k.name value?

variable {allowed : List Key} {versioned : Bool} {g g' : Given}
  {waiting? : Option (Key × String)} {argument : String} {rest : List String} {ending : Ending}

/-- One argument ends the run of options, or it is an option that is allowed. The value of an option
follows the equals sign or is the next argument. -/
theorem readOptions_cons_cases
    (h : readOptions allowed versioned g waiting? (argument :: rest) = some (g', ending)) :
    (∃ text, g' = g ∧ ending = .word waiting? text rest) ∨
    (g.settle? waiting? = some g' ∧ ∀ waiting? text rest, ending ≠ .word waiting? text rest) ∨
    ∃ g₁ k value?, g.settle? waiting? = some g₁ ∧ Argument.ofText argument = .long k.name value? ∧
      ((∃ value g₂, g₁.add? k value = some g₂ ∧
          readOptions allowed versioned g₂ none rest = some (g', ending)) ∨
        ∃ value next rest', rest = next :: rest' ∧
          readOptions allowed versioned g₁ (some (k, value)) rest' = some (g', ending)) := by
  rw [readOptions] at h
  split at h
  · cases h
    exact .inl ⟨_, rfl, rfl⟩
  · split at h
    · obtain ⟨g₁, hsettle, h⟩ := Option.bind_eq_some_iff.1 h
      cases h
      exact .inr (.inl ⟨hsettle, nofun⟩)
    · cases h
  · obtain ⟨g₁, hsettle, h⟩ := Option.bind_eq_some_iff.1 h
    split at h
    · cases h
      exact .inr (.inl ⟨hsettle, nofun⟩)
    split at h
    · cases h
      exact .inr (.inl ⟨hsettle, nofun⟩)
    split at h
    · rename_i name value? hlong
      obtain ⟨k, hk, hrest⟩ := Option.bind_eq_some_iff.1 h
      have hname := List.find?_some hk
      obtain rfl : k.name = name := of_decide_eq_true hname
      refine .inr (.inr ⟨g₁, k, value?, hsettle, hlong, ?_⟩)
      split at hrest
      · obtain ⟨g₂, hadd, hread⟩ := Option.bind_eq_some_iff.1 hrest
        exact .inl ⟨_, g₂, hadd, hread⟩
      · split at hrest
        · exact .inr ⟨_, _, _, rfl, hrest⟩
        · cases hrest
      · cases hrest
    · cases h

theorem Given.add?_eq_append {k : Key} {value : String} (h : g.add? k value = some g') :
    g' = g ++ [(k, value)] := by
  unfold Given.add? at h
  split at h
  · exact (Option.some.inj h).symm
  · cases h

theorem Given.forall_of_settle? {p : Key → Prop} (hgiven : ∀ o ∈ g, p o.1)
    (hwaiting : ∀ o ∈ waiting?, p o.1) (h : g.settle? waiting? = some g') : ∀ o ∈ g', p o.1 := by
  cases waiting? with
  | none =>
    cases h
    exact hgiven
  | some o =>
    rw [add?_eq_append h, List.forall_mem_append]
    exact ⟨hgiven, List.forall_mem_singleton.2 (hwaiting o rfl)⟩

theorem IsNamed.of_suffix {arguments : List String} {k : Key} (hsuffix : rest <:+ arguments)
    (h : IsNamed rest k) : IsNamed arguments k := by
  obtain ⟨a, ha, hk⟩ := h
  exact ⟨a, hsuffix.subset ha, hk⟩

/-- The options that have been read have a property, also the one that may still wait, and what is
left of the line is an end of it. -/
structure AllRead (p : Key → Prop) (arguments : List String) (g : Given) (ending : Ending) :
    Prop where
  given : ∀ o ∈ g, p o.1
  waiting : ∀ waiting? text rest, ending = .word waiting? text rest → ∀ o ∈ waiting?, p o.1
  rest : ∀ waiting? text rest, ending = .word waiting? text rest → rest <:+ arguments

/-- What holds of the options before and of those that a line names holds of all that are read. -/
theorem allRead_of_readOptions {p : Key → Prop} {arguments : List String}
    (hnamed : ∀ k, IsNamed arguments k → p k) (hgiven : ∀ o ∈ g, p o.1)
    (hwaiting : ∀ o ∈ waiting?, p o.1)
    (h : readOptions allowed versioned g waiting? arguments = some (g', ending)) :
    AllRead p arguments g' ending := by
  -- an option may take two arguments, so the rest is not always the tail
  induction hlength : arguments.length using Nat.strongRecOn generalizing g waiting? arguments with
  | ind length ih =>
  subst hlength
  cases arguments with
  | nil =>
    obtain ⟨g₁, hsettle, h⟩ := Option.bind_eq_some_iff.1 h
    cases h
    exact ⟨Given.forall_of_settle? hgiven hwaiting hsettle, nofun, nofun⟩
  | cons argument rest =>
    have hlater {g₂ : Given} {waiting₂? : Option (Key × String)} {later : List String}
        (hlater : later <:+ rest) (hgiven : ∀ o ∈ g₂, p o.1) (hwaiting : ∀ o ∈ waiting₂?, p o.1)
        (h : readOptions allowed versioned g₂ waiting₂? later = some (g', ending)) :
        AllRead p (argument :: rest) g' ending := by
      have hsuffix : later <:+ argument :: rest := hlater.trans (List.suffix_cons _ _)
      have hread := ih later.length (Nat.lt_succ_of_le hlater.length_le)
        (fun k hk => hnamed k (hk.of_suffix hsuffix)) hgiven hwaiting h rfl
      exact ⟨hread.given, hread.waiting, fun _ _ _ heq => (hread.rest _ _ _ heq).trans hsuffix⟩
    obtain ⟨text, rfl, rfl⟩ | ⟨hsettle, hending⟩ | ⟨g₁, k, value?, hsettle, hk, hread⟩ :=
      readOptions_cons_cases h
    · refine ⟨hgiven, ?_, ?_⟩
      · rintro _ _ _ ⟨⟩
        exact hwaiting
      · rintro _ _ _ ⟨⟩
        exact List.suffix_cons _ _
    · exact ⟨Given.forall_of_settle? hgiven hwaiting hsettle,
        fun _ _ _ heq => absurd heq (hending _ _ _), fun _ _ _ heq => absurd heq (hending _ _ _)⟩
    · have hk : p k := hnamed k ⟨argument, List.mem_cons_self, value?, hk⟩
      have hgiven₁ := Given.forall_of_settle? hgiven hwaiting hsettle
      obtain ⟨value, g₂, hadd, hread⟩ | ⟨value, next, rest, rfl, hread⟩ := hread
      · have hgiven₂ : ∀ o ∈ g₂, p o.1 := by
          rw [Given.add?_eq_append hadd, List.forall_mem_append]
          exact ⟨hgiven₁, List.forall_mem_singleton.2 hk⟩
        have hnone : ∀ o ∈ (none : Option (Key × String)), p o.1 := nofun
        exact hlater (List.suffix_refl _) hgiven₂ hnone hread
      · have hwaiting₁ : ∀ o ∈ some (k, value), p o.1 := by
          rintro _ ⟨⟩
          exact hk
        exact hlater (List.suffix_cons _ _) hgiven₁ hwaiting₁ hread

/-- From the start of a line nothing but what it names can be read. -/
theorem allRead_of_readOptions_nil {p : Key → Prop} {arguments : List String}
    (hnamed : ∀ k, IsNamed arguments k → p k)
    (h : readOptions allowed versioned [] none arguments = some (g', ending)) :
    AllRead p arguments g' ending :=
  allRead_of_readOptions hnamed (fun _ ho => absurd ho List.not_mem_nil)
    (fun _ ho => absurd ho (Option.not_mem_none _)) h

theorem Given.value?_eq_none {k : Key} (h : ∀ o ∈ g, o.1 ≠ k) : g.value? k = none :=
  List.lookup_eq_none_iff.2 fun o ho => bne_iff_ne.2 (h o ho).symm

/-- A line on which no filter is given has the default one. -/
theorem filter_eq_default {arguments : List String} {filter : String} {format : Format}
    {command : Command} (h : requestOf? arguments = some (.command filter format command))
    (hnamed : ¬ IsNamed arguments .log) : filter = defaultFilter := by
  rw [requestOf?] at h
  obtain ⟨⟨outer, ending⟩, houter, h⟩ := Option.bind_eq_some_iff.1 h
  have hallOuter := allRead_of_readOptions_nil (p := (· ≠ .log))
    (fun k hk heq => hnamed (heq ▸ hk)) houter
  cases ending with
  | done => cases h
  | version => cases h
  | help => cases h
  | word waiting? name rest =>
    have hrest := hallOuter.rest _ _ _ rfl
    simp only at h
    split at h
    · split at h <;> cases h
    obtain ⟨⟨allowed, build?⟩, hcommand, h⟩ := Option.bind_eq_some_iff.1 h
    obtain ⟨⟨inner, ending⟩, hinner, h⟩ := Option.bind_eq_some_iff.1 h
    have hallInner := allRead_of_readOptions_nil (p := (· ≠ .log))
      (fun k hk heq => hnamed (heq ▸ hk.of_suffix hrest)) hinner
    cases ending with
    | word => cases h
    | version => cases h
    | help => cases h
    | done =>
      obtain ⟨settled, hsettle, h⟩ := Option.bind_eq_some_iff.1 h
      obtain ⟨_, -, h⟩ := Option.bind_eq_some_iff.1 h
      cases h
      have hsettled := Given.forall_of_settle? (p := (· ≠ .log)) hallOuter.given
        (hallOuter.waiting _ _ _ rfl) hsettle
      rw [Given.value?_eq_none hallInner.given, Given.value?_eq_none hsettled]
      rfl

end Dataflow.CommandLine
