import Dataflow.Proofs.Dtype
import Dataflow.Proofs.Notation.Reading

/-! Contracts written in notation. What can be written reads back as it was, and everything that is
read can be written. -/
namespace Dataflow

/-! ### What can be written -/

/-- The names in a shape are identifiers. -/
def Shape.IsWritable (shape : Shape) : Prop :=
  ∀ name, .symbol name ∈ shape → Notation.IsIdent name

/-- Besides tensors these are the types whose names are identifiers with dots between them and mean
nothing else. -/
inductive Dtype.IsWritable : Dtype → Prop
  | tensor : IsWritable .tensor
  | element (kind : ElementKind) : IsWritable (.element kind)
  | other {names : List String} (hne : names ≠ []) (h : ∀ name ∈ names, Notation.IsIdent name)
      (htensor : Dtype.ofName (".".intercalate names) ≠ .tensor)
      (helement : ∀ kind, Dtype.ofName (".".intercalate names) ≠ .element kind) :
      IsWritable (.other (".".intercalate names))

structure Spec.IsWritable (spec : Spec) : Prop where
  dtype : spec.dtype.IsWritable
  shape : spec.shape.IsWritable

/-- A contract in notation, which has no place for the description. -/
def Spec.written (spec : Spec) : String :=
  spec.dtype.display ++ spec.shape.display ++ if spec.optional then "?" else ""

def Dim.token : Dim → Notation.Token
  | size n => .int n
  | symbol name => .ident name

theorem intercalate_cons_eq_flatMap (sep x : List α) (xs : List (List α)) :
    sep.intercalate (x :: xs) = x ++ xs.flatMap (sep ++ ·) := by
  induction xs generalizing x with
  | nil => simp
  | cons y ys ih => rw [List.intercalate_cons_cons, ih, List.flatMap_cons]; simp

namespace Notation

open Lexeme (kinds kinds_of_spells kinds_space Ends isIdentStart isIdentRest)

/-! ### The tokens of a shape -/

theorem spells_decimal (n : Int64) : (Token.int n).Spells (decimal n.toInt) := by
  have hdigits : ∀ d ∈ Nat.toDigits 10 n.toInt.natAbs, d.isDigit := fun _ =>
    Nat.isDigit_of_mem_toDigits (by decide) (by decide)
  rw [Token.Spells, decimal]
  split
  · have hlit := IsLiteral.negative Nat.toDigits_ne_nil hdigits
    rwa [Nat.ofDigitChars_ten_toDigits, Int.ofNat_natAbs_of_nonpos (by omega), Int.neg_neg] at hlit
  · have hlit := IsLiteral.natural Nat.toDigits_ne_nil hdigits
    rwa [Nat.ofDigitChars_ten_toDigits, Int.natAbs_of_nonneg (by omega)] at hlit

theorem derivesDim_token (d : Dim) : DerivesDim d.token d := by
  cases d with
  | size n => exact .int n
  | symbol name => exact .ident name

theorem spells_token {d : Dim} (h : ∀ name, d = .symbol name → IsIdent name) :
    d.token.Spells d.display.toList := by
  cases d with
  | size n => simpa [Dim.token, Dim.display, decimalText] using spells_decimal n
  | symbol name => exact ⟨rfl, h name rfl⟩

/-- A comma or a bracket ends a dimension. -/
theorem ends_token (d : Dim) {c : Char} (h : ¬ isIdentRest c) (rest : List Char) :
    Ends d.token (c :: rest) := by
  have hc : ¬ c.isDigit := fun hdigit => h (Lexeme.isIdentRest_iff.2 (.inr hdigit))
  cases d with
  | size n => simpa [Dim.token, Ends] using hc
  | symbol name => simpa [Dim.token, Ends] using h

/-- The dimensions after the first with what stands before each. -/
def laterTokens (shape : Shape) : List Token := shape.flatMap fun d => [.comma, d.token]

def laterText (shape : Shape) : List Char := shape.flatMap fun d => ',' :: ' ' :: d.display.toList

theorem DerivesDims.append {ts : List Token} {shape : Shape} (h : DerivesDims ts shape)
    (later : Shape) : DerivesDims (ts ++ laterTokens later) (shape ++ later) := by
  induction later generalizing ts shape with
  | nil => simpa [laterTokens] using h
  | cons d later ih => simpa [laterTokens] using ih (h.more (derivesDim_token d))

theorem kinds_closeBracket (rest : List Char) :
    kinds (']' :: rest) = some Token.closeBracket :: kinds rest :=
  kinds_of_spells (t := .closeBracket) rfl trivial

/-- The first dimension and the text after it, up to the bracket, which ends the last one. -/
theorem kinds_dims {d : Dim} {shape : Shape} (h : Shape.IsWritable (d :: shape))
    (rest : List Char) :
    kinds (d.display.toList ++ laterText shape ++ ']' :: rest) =
      (d.token :: laterTokens shape ++ [Token.closeBracket]).map some ++ kinds rest := by
  induction shape generalizing d with
  | nil =>
    have hd := spells_token fun name hname => h name (hname ▸ List.mem_cons_self)
    rw [laterText, List.flatMap_nil, List.append_nil,
      kinds_of_spells hd (ends_token d (by decide) rest), kinds_closeBracket]
    simp [laterTokens]
  | cons e shape ih =>
    have hd := spells_token fun name hname => h name (hname ▸ List.mem_cons_self)
    have hcomma (cs : List Char) : kinds (',' :: cs) = some Token.comma :: kinds cs :=
      kinds_of_spells (t := .comma) rfl trivial
    have hlater := ih (d := e) fun name hname => h name (List.mem_cons_of_mem d hname)
    rw [List.append_assoc, kinds_of_spells hd]
    · simp only [laterText, List.flatMap_cons, List.cons_append, hcomma, kinds_space (c := ' ') rfl,
        laterTokens] at hlater ⊢
      rw [hlater]
      simp
    · exact ends_token d (by decide) _

/-! ### Shapes -/

theorem toList_display (d : Dim) (shape : Shape) :
    (Shape.display (d :: shape)).toList =
      '[' :: (d.display.toList ++ laterText shape) ++ [']'] := by
  simp only [Shape.display, Shape.bracketed, String.toList_append, String.toList_intercalate,
    List.map_cons, intercalate_cons_eq_flatMap, laterText, List.flatMap_map]
  simp

theorem kinds_openBracket (rest : List Char) :
    kinds ('[' :: rest) = some Token.openBracket :: kinds rest :=
  kinds_of_spells (t := .openBracket) rfl trivial

/-- The text of a shape falls into tokens that derive the shape. -/
theorem kinds_display {shape : Shape} (h : shape.IsWritable) :
    ∃ ts, DerivesShape ts shape ∧
      ∀ rest, kinds (shape.display.toList ++ rest) = ts.map some ++ kinds rest := by
  cases shape with
  | nil =>
    refine ⟨_, .empty, fun rest => ?_⟩
    have htext : (Shape.display []).toList = ['[', ']'] := by decide
    rw [htext]
    simp [kinds_openBracket, kinds_closeBracket]
  | cons d shape =>
    refine ⟨_, .plain ((DerivesDims.one (derivesDim_token d)).append shape), fun rest => ?_⟩
    rw [toList_display, List.append_assoc, List.cons_append, kinds_openBracket,
      List.singleton_append, kinds_dims h]
    simp

/-! ### The tokens of a type -/

/-- The names after the first with the dot before each. -/
def laterNames (names : List String) : List Token := names.flatMap fun name => [.dot, .ident name]

theorem DerivesDtype.append {ts : List Token} {names : List String} (h : DerivesDtype ts names)
    (later : List String) : DerivesDtype (ts ++ laterNames later) (names ++ later) := by
  induction later generalizing ts names with
  | nil => simpa [laterNames] using h
  | cons name later ih => simpa [laterNames] using ih (h.more name)

/-- A dot and a name are no ellipsis. -/
theorem kinds_dot {name : String} (h : IsIdent name) (rest : List Char) :
    kinds ('.' :: (name.toList ++ rest)) = some Token.dot :: kinds (name.toList ++ rest) := by
  refine kinds_of_spells (t := .dot) rfl ?_
  obtain ⟨c, cs, hname, hc, -⟩ := h
  rw [hname]
  show ¬ ['.', '.'] <+: c :: (cs ++ rest)
  rw [List.cons_prefix_cons]
  rintro ⟨rfl, -⟩
  exact absurd hc (by decide)

/-- The names with dots between them, up to the bracket that opens the shape. -/
theorem kinds_names {name : String} {names : List String}
    (h : ∀ n ∈ name :: names, IsIdent n) (rest : List Char) :
    kinds (name.toList ++ names.flatMap (fun n => '.' :: n.toList) ++ '[' :: rest) =
      (Token.ident name :: laterNames names).map some ++ kinds ('[' :: rest) := by
  have hname : (Token.ident name).Spells name.toList := ⟨rfl, h name List.mem_cons_self⟩
  induction names generalizing name with
  | nil =>
    rw [List.flatMap_nil, List.append_nil, kinds_of_spells hname]
    · simp [laterNames]
    · simp [Ends, Lexeme.isIdentRest]
  | cons next names ih =>
    have hnames : ∀ n ∈ next :: names, IsIdent n := fun n hn => h n (List.mem_cons_of_mem name hn)
    have hnext : IsIdent next := hnames next List.mem_cons_self
    have hlater := ih hnames ⟨rfl, hnext⟩
    rw [List.append_assoc, kinds_of_spells hname]
    · simp only [List.flatMap_cons, List.cons_append, List.append_assoc, kinds_dot hnext,
        laterNames] at hlater ⊢
      rw [hlater]
      simp
    · simp [Ends, Lexeme.isIdentRest]

theorem kinds_joined {names : List String} (hne : names ≠ []) (h : ∀ name ∈ names, IsIdent name) :
    ∃ ts, DerivesDtype ts names ∧ ∀ rest, kinds ((".".intercalate names).toList ++ '[' :: rest) =
      ts.map some ++ kinds ('[' :: rest) := by
  obtain ⟨name, names, rfl⟩ := List.exists_cons_of_ne_nil hne
  refine ⟨_, (DerivesDtype.one name).append names, fun rest => ?_⟩
  rw [String.toList_intercalate, List.map_cons, intercalate_cons_eq_flatMap, List.flatMap_map]
  exact kinds_names h rest

/-! ### Names of types -/

theorem not_isBlank_of_isIdentRest {c : Char} (h : isIdentRest c) : ¬ Text.isBlank c := by
  have hc : (48 ≤ c.toNat ∧ c.toNat ≤ 57) ∨ (65 ≤ c.toNat ∧ c.toNat ≤ 95) ∨
      (97 ≤ c.toNat ∧ c.toNat ≤ 122) := by
    rw [Lexeme.isIdentRest_iff, Lexeme.isIdentStart_iff, Char.isDigit_iff_toNat] at h
    obtain (hc | hc | rfl) | hc := h
    · omega
    · omega
    · decide
    · exact .inl hc
  exact Text.not_isBlank_of_visible (by omega)

theorem trim_joined {names : List String} (h : ∀ name ∈ names, IsIdent name) :
    Text.trim (".".intercalate names) = ".".intercalate names := by
  refine Text.trim_eq_self fun c hc => ?_
  have hrest : ∀ name ∈ names, ∀ c ∈ name.toList, ¬ Text.isBlank c := fun name hname c hc => by
    obtain ⟨d, ds, hds, hd, hds'⟩ := h name hname
    rw [hds] at hc
    rcases List.mem_cons.1 hc with rfl | hc
    · exact not_isBlank_of_isIdentRest (Lexeme.isIdentRest_iff.2 (.inl hd))
    · exact not_isBlank_of_isIdentRest (hds' c hc)
  cases names with
  | nil => simp at hc
  | cons name names =>
    rw [String.toList_intercalate, List.map_cons, intercalate_cons_eq_flatMap, List.flatMap_map,
      List.mem_append, List.mem_flatMap] at hc
    obtain hc | ⟨later, hlater, hc⟩ := hc
    · exact hrest name List.mem_cons_self c hc
    · rcases List.mem_append.1 hc with hdot | hc
      · rw [List.mem_singleton.1 hdot]
        decide
      · exact hrest later (List.mem_cons_of_mem name hlater) c hc

/-- The type with a name of identifiers can be written with it. -/
theorem isWritable_ofName {names : List String} (hne : names ≠ [])
    (h : ∀ name ∈ names, IsIdent name) : (Dtype.ofName (".".intercalate names)).IsWritable := by
  have hname : Dtype.ofName (".".intercalate names) = .ofTrimmed (".".intercalate names) := by
    rw [Dtype.ofName, trim_joined h]
  obtain heq | ⟨kind, heq⟩ | heq := Dtype.ofTrimmed_cases (".".intercalate names)
  · rw [hname, heq]
    exact .tensor
  · rw [hname, heq]
    exact .element kind
  · rw [hname, heq]
    refine .other hne h ?_ fun kind => ?_ <;> simp [hname, heq]

/-- What a type is printed as is made of identifiers and reads back as the type. -/
theorem exists_names_of_isWritable {t : Dtype} (h : t.IsWritable) :
    ∃ names, names ≠ [] ∧ (∀ name ∈ names, IsIdent name) ∧ t.display = ".".intercalate names ∧
      Dtype.ofName (".".intercalate names) = t := by
  cases h with
  | tensor =>
    refine ⟨["Tensor"], by decide, by decide, ?_, by decide +kernel⟩
    rw [String.intercalate_singleton, Dtype.display]
  | element kind =>
    have hdisplay : kind.display = ".".intercalate ["torch", kind.name] := by
      simp [ElementKind.display, String.intercalate_cons_cons]
    refine ⟨["torch", kind.name], by simp, ?_, hdisplay, ?_⟩
    · cases kind <;> decide
    · rw [← hdisplay, Dtype.ofName_display_element]
  | @other names hne hnames htensor helement =>
    refine ⟨names, hne, hnames, rfl, ?_⟩
    rw [Dtype.ofName, trim_joined hnames] at htensor helement ⊢
    obtain heq | ⟨kind, heq⟩ | heq := Dtype.ofTrimmed_cases (".".intercalate names)
    · exact absurd heq htensor
    · exact absurd heq (helement kind)
    · exact heq

/-! ### Identifiers that have been read -/

theorem DerivesDims.ident_mem {ts : List Token} {shape : Shape} (h : DerivesDims ts shape)
    {name : String} (hname : .symbol name ∈ shape) : .ident name ∈ ts := by
  have hdim {t : Token} {d : Dim} (hd : DerivesDim t d) (hname : d = .symbol name) :
      t = .ident name := by
    cases hd <;> cases hname
    rfl
  induction h with
  | one hd => simpa using (hdim hd (List.mem_singleton.1 hname).symm).symm
  | more hs hd ih =>
    rcases List.mem_append.1 hname with hname | hname
    · exact List.mem_append_left _ (ih hname)
    · rw [hdim hd (List.mem_singleton.1 hname).symm]
      simp

theorem DerivesShape.ident_mem {ts : List Token} {shape : Shape} (h : DerivesShape ts shape)
    {name : String} (hname : .symbol name ∈ shape) : .ident name ∈ ts := by
  cases h with
  | empty => simp at hname
  | plain hs | trailing hs => simp [hs.ident_mem hname]

theorem DerivesDtype.ident_mem {ts : List Token} {names : List String} (h : DerivesDtype ts names)
    {name : String} (hname : name ∈ names) : .ident name ∈ ts := by
  induction h with
  | one => simpa using hname
  | more hs last ih =>
    rcases List.mem_append.1 hname with hname | hname
    · exact List.mem_append_left _ (ih hname)
    · simp [List.mem_singleton.1 hname]

/-- An identifier among the tokens of a text is one. -/
theorem isIdent_of_mem_tokens (text : String) {name : String}
    (h : .ident name ∈ (tokens text).map Prod.fst) : IsIdent name := by
  obtain ⟨⟨t, span⟩, hmem, rfl⟩ := List.mem_map.1 h
  obtain ⟨-, -, -, -, -, -, hname⟩ := Lexeme.spells_of_mem_tokens hmem
  exact hname

theorem Reads.shape_isWritable {text : String} {n : Notation} (h : Reads text n) :
    n.shape.IsWritable := by
  obtain ⟨-, hd⟩ := h
  generalize hts : (tokens text).map Prod.fst = ts at hd
  cases hd with
  | mk _ hs optional variadic =>
    refine fun name hname => isIdent_of_mem_tokens text ?_
    simp [hts, hs.ident_mem hname]

theorem Reads.dtype_isWritable {text : String} {n : Notation} (h : Reads text n) {name : String}
    (hname : n.dtype? = some name) : (Dtype.ofName name).IsWritable := by
  obtain ⟨-, hd⟩ := h
  generalize hts : (tokens text).map Prod.fst = ts at hd
  cases hd with
  | mk hdtype hs optional variadic =>
    cases hname
    cases hdtype with
    | @present ds names hnames =>
      refine isWritable_ofName hnames.ne_nil fun name hname => isIdent_of_mem_tokens text ?_
      simp [hts, hnames.ident_mem hname]

/-! ### Texts that have been written -/

theorem reads_of_kinds {text : String} {ts : List Token} {n : Notation}
    (hkinds : kinds text.toList = ts.map some) (h : Derives ts n) : Reads text n := by
  obtain ⟨hstrays, rfl⟩ := Lexeme.kinds_eq_map_some_iff.1 hkinds
  exact ⟨hstrays, h⟩

theorem reads_display {shape : Shape} (h : shape.IsWritable) :
    Reads shape.display ⟨none, shape, false, false⟩ := by
  obtain ⟨ts, hs, hkinds⟩ := kinds_display h
  have htext := hkinds []
  rw [List.append_nil, Lexeme.kinds_nil, List.append_nil] at htext
  refine reads_of_kinds htext ?_
  simpa [marks] using Derives.mk .absent hs false false

theorem reads_written {spec : Spec} (h : spec.IsWritable) :
    Reads spec.written ⟨some spec.dtype.display, spec.shape, spec.optional, false⟩ := by
  obtain ⟨names, hne, hnames, hdisplay, -⟩ := exists_names_of_isWritable h.dtype
  obtain ⟨ds, hd, hdkinds⟩ := kinds_joined hne hnames
  obtain ⟨ts, hs, hskinds⟩ := kinds_display h.shape
  have hmarks : kinds (if spec.optional then "?" else "").toList =
      (marks spec.optional false).map some := by
    cases spec.optional <;> decide +kernel
  obtain ⟨body, hbody⟩ : ∃ body, spec.shape.display.toList = '[' :: body := by
    simp [Shape.display, Shape.bracketed]
  have htext : kinds spec.written.toList = (ds ++ ts ++ marks spec.optional false).map some := by
    simp only [Spec.written, hdisplay, String.toList_append, List.append_assoc]
    rw [hbody, List.cons_append, hdkinds, ← List.cons_append, ← hbody, hskinds, hmarks]
    simp
  refine reads_of_kinds htext ?_
  rw [hdisplay]
  exact .mk (.present hd) hs spec.optional false

/-! ### Reading and writing -/

/-- What can be written is read back as it was, without a description. Nothing else survives, and
all that is ever read can be written. -/
theorem readSpec_written :
    (∀ shape : Shape, readShape shape.display = .ok shape ↔ shape.IsWritable) ∧
    (∀ spec : Spec, readSpec spec.written = .ok { spec with description := "" } ↔
      spec.IsWritable) ∧
    ∀ text spec, readSpec text = .ok spec → spec.IsWritable ∧ readSpec spec.written = .ok spec := by
  have hof (text : String) (spec : Spec) (h : readSpec text = .ok spec) :
      spec.IsWritable ∧ spec.description = "" := by
    obtain ⟨name, shape, optional, hreads, rfl⟩ := readSpec_eq_ok_iff.1 h
    have hdtype : (Dtype.ofName name).IsWritable := hreads.dtype_isWritable rfl
    have hshape : shape.IsWritable := hreads.shape_isWritable
    refine ⟨⟨?_, ?_⟩, rfl⟩
    · dsimp only
      exact hdtype
    · exact hshape
  have hwritten (spec : Spec) (h : spec.IsWritable) :
      readSpec spec.written = .ok { spec with description := "" } := by
    obtain ⟨names, -, -, hdisplay, hname⟩ := exists_names_of_isWritable h.dtype
    refine readSpec_eq_ok_iff.2 ⟨_, _, _, reads_written h, ?_⟩
    rw [hdisplay, hname]
  refine ⟨fun shape => ?_, fun spec => ⟨fun h => ?_, hwritten spec⟩, fun text spec h => ?_⟩
  · rw [readShape_eq_ok_iff]
    exact ⟨Reads.shape_isWritable, reads_display⟩
  · obtain ⟨⟨hdtype, hshape⟩, -⟩ := hof _ _ h
    exact ⟨hdtype, hshape⟩
  · obtain ⟨hspec, hdescription⟩ := hof text spec h
    refine ⟨hspec, ?_⟩
    rw [hwritten spec hspec, ← hdescription]

theorem readSpec_written_dotted :
    readSpec "my.Kind [n , -1,]?" = .ok ⟨.other "my.Kind", [.symbol "n", .size (-1)], "", true⟩ ∧
      readSpec "my.Kind[n, -1]?" = .ok ⟨.other "my.Kind", [.symbol "n", .size (-1)], "", true⟩ := by
  have h : readSpec "my.Kind [n , -1,]?" =
      .ok ⟨.other "my.Kind", [.symbol "n", .size (-1)], "", true⟩ :=
    toOption_eq_some_iff.1 (by decide +kernel)
  have hwritten : Spec.written ⟨.other "my.Kind", [.symbol "n", .size (-1)], "", true⟩ =
      "my.Kind[n, -1]?" := by decide +kernel
  obtain ⟨-, hagain⟩ := readSpec_written.2.2 _ _ h
  rw [hwritten] at hagain
  exact ⟨h, hagain⟩

end Notation

end Dataflow
