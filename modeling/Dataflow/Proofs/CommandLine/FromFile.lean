import Dataflow.CommandLine.Run
import Dataflow.Proofs.CommandLine.Arguments
import Dataflow.Proofs.Connection.Document

/-! Checks of a document in a file. Options that give both contracts and both nodes ask for the same
as the document that is written from them, also where a contract cannot be read. -/
namespace Dataflow

/-! ### Documents in notation -/

theorem Endpoint.nestsWithin_written_iff {contract : α → Json} {text : String} {node? : Option Node}
    {depth : Nat} : (Endpoint.toJson contract ⟨.written text, node?⟩).NestsWithin (depth + 2) ↔
      ∀ n, node? = some n → ∀ e ∈ n.attributes.entries, e.2.json.NestsWithin depth := by
  rw [toJson, Json.nestsWithin_object_iff, List.forall_mem_cons, List.forall_mem_cons]
  simp only [Declared.toJson, Json.NestsWithin.string, true_and, List.not_mem_nil, false_implies,
    implies_true, and_true]
  cases node? with
  | none => exact iff_of_true .null fun _ hn => (Option.some_ne_none _ hn.symm).elim
  | some n => simpa using Node.nestsWithin_toJson_iff

namespace Document

/-- Both contracts in notation. -/
def written (source target : String) (sourceNode? targetNode? : Option Node) : Document where
  source := ⟨.written source, sourceNode?⟩
  target := ⟨.written target, targetNode?⟩

variable {source target : String} {sourceNode? targetNode? : Option Node}

theorem nestsWithin_written_iff {depth : Nat} :
    (written source target sourceNode? targetNode?).toJson.NestsWithin (depth + 3) ↔
      (∀ n, sourceNode? = some n → ∀ e ∈ n.attributes.entries, e.2.json.NestsWithin depth) ∧
        ∀ n, targetNode? = some n → ∀ e ∈ n.attributes.entries, e.2.json.NestsWithin depth := by
  rw [toJson, Json.nestsWithin_object_iff, List.forall_mem_cons, List.forall_mem_cons]
  simp [written, Endpoint.nestsWithin_written_iff]

end Document

namespace CommandLine

/-! ### Checks in place -/

/-- What the options of a check say if they name no file. -/
structure InPlace where
  source : String
  target : String
  sourceId? : Option String := none
  targetId? : Option String := none
  sourceAttributes : List Assignment := []
  targetAttributes : List Assignment := []
deriving DecidableEq

namespace InPlace

def sourceNode? (c : InPlace) : Option Node := nodeOf c.sourceId? c.sourceAttributes

def targetNode? (c : InPlace) : Option Node := nodeOf c.targetId? c.targetAttributes

def input (c : InPlace) : CheckInput := .inline c.source c.target c.sourceNode? c.targetNode?

def document (c : InPlace) : Document := .written c.source c.target c.sourceNode? c.targetNode?

/-- The check in place that these options give, if they do. -/
def ofOptions? (options : Given) : Option InPlace :=
  match options.value? .file, options.value? .source, options.value? .target with
  | none, some source, some target => some {
      source, target
      sourceId? := options.value? .sourceId
      targetId? := options.value? .targetId
      sourceAttributes := options.assignments .sourceAttr
      targetAttributes := options.assignments .targetAttr }
  | _, _, _ => none

theorem checkOf?_of_ofOptions? {options : Given} {c : InPlace} (h : ofOptions? options = some c) :
    checkOf? options = some (.check c.input) := by
  unfold ofOptions? at h
  split at h
  · rename_i hfile hsource htarget
    cases h
    simp only [checkOf?, hfile, hsource, htarget, input, sourceNode?, targetNode?]
  · cases h

/-- Options that give a check in place ask for it in whatever order they follow the command. -/
theorem requestOf?_line {options : Given} {c : InPlace} (hlegal : options.IsLegal Key.ofCheck)
    (h : ofOptions? options = some c) : requestOf? ("check" :: options.line) =
      some (.command ((options.value? .log).getD defaultFilter) (options.format?.getD .text)
        (.check c.input)) := by
  rw [CommandLine.requestOf?_line rfl hlegal, checkOf?_of_ofOptions? h]
  rfl

end InPlace

/-- What holds of all attributes that are given holds of those that stay. -/
theorem forall_entries_of_nodeOf {p : String × Value → Prop} {id? : Option String}
    {assignments : List Assignment} (h : ∀ a ∈ assignments, p (a.name, a.value)) (n : Node)
    (hn : nodeOf id? assignments = some n) : ∀ e ∈ n.attributes.entries, p e := by
  unfold nodeOf at hn
  split at hn
  · cases hn
  · cases hn
    intro e he
    obtain ⟨a, ha, rfl⟩ := List.mem_map.1 (mem_sortEntries he)
    exact h a ha

/-- A check in place whose document can be stored: an attribute named like the identifier would
stand for a second one, a float may change, and what nests too deep is refused. -/
structure InPlace.IsStorable (c : InPlace) : Prop where
  name_ne : ∀ a ∈ c.sourceAttributes ++ c.targetAttributes, a.name ≠ "id"
  isFloatFree : ∀ a ∈ c.sourceAttributes ++ c.targetAttributes, a.value.json.IsFloatFree
  nestsWithin : c.document.toJson.NestsWithin Json.maxDepth

theorem InPlace.IsStorable.ofText_document {c : InPlace} (h : c.IsStorable) :
    Document.ofText c.document.toJson.compact = .ok c.document := by
  obtain ⟨hnameSource, hnameTarget⟩ := List.forall_mem_append.1 h.name_ne
  obtain ⟨hfloatSource, hfloatTarget⟩ := List.forall_mem_append.1 h.isFloatFree
  obtain ⟨hnestsSource, hnestsTarget⟩ := Document.nestsWithin_written_iff.1 h.nestsWithin
  have hsource : ∀ n, c.sourceNode? = some n → n.IsReadable 124 := fun n hn =>
    ⟨forall_entries_of_nodeOf (p := (·.1 ≠ "id")) hnameSource n hn, hnestsSource n hn⟩
  have htarget : ∀ n, c.targetNode? = some n → n.IsReadable 124 := fun n hn =>
    ⟨forall_entries_of_nodeOf (p := (·.1 ≠ "id")) hnameTarget n hn, hnestsTarget n hn⟩
  have hfree : c.document.IsFloatFree :=
    ⟨forall_entries_of_nodeOf (p := (·.2.json.IsFloatFree)) hfloatSource,
      forall_entries_of_nodeOf (p := (·.2.json.IsFloatFree)) hfloatTarget⟩
  exact Document.ofText_toJson ⟨⟨rfl, hsource⟩, ⟨rfl, htarget⟩⟩ hfree

/-- The document puts three containers around each value. -/
theorem InPlace.nestsWithin_document {c : InPlace} {depth : Nat}
    (h : ∀ a ∈ c.sourceAttributes ++ c.targetAttributes, a.value.json.NestsWithin depth) :
    c.document.toJson.NestsWithin (depth + 3) := by
  obtain ⟨hsource, htarget⟩ := List.forall_mem_append.1 h
  exact Document.nestsWithin_written_iff.2
    ⟨forall_entries_of_nodeOf (p := (·.2.json.NestsWithin depth)) hsource,
      forall_entries_of_nodeOf (p := (·.2.json.NestsWithin depth)) htarget⟩

/-! ### Where a connection comes from -/

variable {files : Files} {path : String}

theorem connectionOf_file {text : String} {d : Document} (hfile : files path = .ok text)
    (hd : Document.ofText text = .ok d) :
    connectionOf files (.file path) = d.toConnection.mapError .badNotation := by
  simp only [connectionOf, Document.ofFile, hfile, Except.mapError, ok_bind, hd]

theorem connectionOf_inline (files : Files) (source target : String)
    (sourceNode? targetNode? : Option Node) :
    connectionOf files (.inline source target sourceNode? targetNode?) =
      (Document.written source target sourceNode? targetNode?).toConnection.mapError
        .badNotation := by
  simp only [connectionOf, Document.written, Document.toConnection, Declared.read]
  -- the source decides alone if it cannot be read
  cases Notation.readSpec source with
  | error e => rfl
  | ok contract => cases Notation.readInput target <;> rfl

theorem runCheck_input {c : InPlace} (h : c.IsStorable)
    (hfile : files path = .ok c.document.toJson.compact) (format : Format)
    (entry : Event → String) :
    runCheck files format c.input entry = runCheck files format (.file path) entry := by
  rw [runCheck, runCheck, InPlace.input, connectionOf_inline,
    connectionOf_file hfile h.ofText_document]
  rfl

/-! ### Main statement -/

/-- In whatever form two lines of arguments ask for them, a check in place and a check of the file
that its document is written to come out alike, in the log and otherwise. So it is for the line that
has the options of the former after the command, in any order that is legal. -/
theorem run_inPlace_eq_run_file {c : InPlace} (h : c.IsStorable)
    (hfile : files path = .ok c.document.toJson.compact) {filter : String} {format : Format}
    {fromFile : List String}
    (hfromFile : requestOf? fromFile = some (.command filter format (.check (.file path))))
    (log : Log) :
    (∀ inPlace, requestOf? inPlace = some (.command filter format (.check c.input)) →
      run files inPlace log = run files fromFile log) ∧
    ∀ options : Given, options.IsLegal Key.ofCheck → InPlace.ofOptions? options = some c →
      (options.value? .log).getD defaultFilter = filter → options.format?.getD .text = format →
        run files ("check" :: options.line) log = run files fromFile log := by
  have hrun (inPlace : List String)
      (hinPlace : requestOf? inPlace = some (.command filter format (.check c.input))) :
      run files inPlace log = run files fromFile log := by
    rw [run, run, hinPlace, hfromFile]
    simp only [Request.run, runCheck_input h hfile]
  refine ⟨hrun, fun options hlegal hoptions hfilter hformat => hrun _ ?_⟩
  rw [InPlace.requestOf?_line hlegal hoptions, hfilter, hformat]

/-- An attribute is given twice, the target has an identifier alone. -/
def threes : InPlace where
  source := "Tensor[n]"
  target := "Tensor [3]..."
  targetId? := some ""
  sourceAttributes := [⟨"n", .ofInt64 2⟩, ⟨"n", .ofInt64 3⟩]

def threesLine : List String :=
  ["check", "--source-attr", "n=2", "--format=json", "--source=Tensor[n]", "--target",
    "Tensor [3]...", "--target-id=", "--source-attr=n = 3"]

def threesOptions : Given :=
  [(.sourceAttr, "n=2"), (.format, "json"), (.target, "Tensor [3]..."), (.sourceAttr, "n = 3"),
    (.targetId, ""), (.source, "Tensor[n]")]

def storedLine : List String := ["--format", "json", "check", "--file", "conn.json"]

def stored : Files := fun _ => .ok threes.document.toJson.compact

theorem isStorable_threes : threes.IsStorable := by
  have hvalue : ∀ a ∈ threes.sourceAttributes ++ threes.targetAttributes,
      ∃ n, a.value.json = .number (.integer n) := by
    intro a ha
    rcases List.mem_cons.1 ha with rfl | ha
    · exact ⟨_, rfl⟩
    · cases List.mem_singleton.1 ha
      exact ⟨_, rfl⟩
  refine ⟨by decide, fun a ha => ?_, InPlace.nestsWithin_document fun a ha => ?_⟩
  · obtain ⟨n, hn⟩ := hvalue a ha
    exact hn ▸ .integer n
  · obtain ⟨n, hn⟩ := hvalue a ha
    exact hn ▸ .number _

theorem isLegal_threesOptions : threesOptions.IsLegal Key.ofCheck where
  mem_allowed := by decide
  takes := by decide +kernel
  repeats := by decide

theorem run_inPlace_eq_run_file_threes : run stored threesLine = run stored storedLine ∧
    run stored ("check" :: threesOptions.line) = run stored storedLine := by
  have hfile : stored "conn.json" = .ok threes.document.toJson.compact := rfl
  have hthrees : requestOf? threesLine =
      some (.command defaultFilter .json (.check threes.input)) := by decide +kernel
  have hstored : requestOf? storedLine =
      some (.command defaultFilter .json (.check (.file "conn.json"))) := by decide +kernel
  obtain ⟨hline, hoptions⟩ := run_inPlace_eq_run_file isStorable_threes hfile hstored .plain
  have hgiven : InPlace.ofOptions? threesOptions = some threes := by decide +kernel
  exact ⟨hline _ hthrees, hoptions _ isLegal_threesOptions hgiven rfl rfl⟩

end CommandLine

end Dataflow
