import Dataflow.Proofs.CommandLine.FromFile
import Dataflow.Proofs.Connection.Verdict

/-! How commands come out. The exit tells whether there was anything to decide and what was
decided, in both formats alike; people are told on the two outputs what programs are told by one
JSON value. The log comes ahead of what people are told, and changes nothing else; with a filter
that holds everything back there is none. -/
namespace Dataflow

/-! ### What a check is about -/

/-- A contract of the document is in notation and breaks its rules. -/
def Document.HasBadNotation (d : Document) : Prop :=
  (∃ text e, d.source.declared = .written text ∧ Notation.readSpec text = .error e) ∨
    ∃ text e, d.target.declared = .written text ∧ Notation.readInput text = .error e

theorem Declared.exists_read_eq_error_iff {reader : String → Except Notation.Error α}
    {declared : Declared α} : (∃ e, declared.read reader = .error e) ↔
      ∃ text e, declared = .written text ∧ reader text = .error e := by
  cases declared with
  | written text => simp [read]
  | given a => simp [read]

theorem Document.exists_toConnection_eq_error_iff {d : Document} :
    (∃ e, d.toConnection = .error e) ↔ d.HasBadNotation := by
  rw [HasBadNotation, ← Declared.exists_read_eq_error_iff, ← Declared.exists_read_eq_error_iff]
  simp only [toConnection]
  cases d.source.declared.read Notation.readSpec with
  | error e => exact iff_of_true ⟨e, rfl⟩ (.inl ⟨e, rfl⟩)
  | ok source =>
    cases d.target.declared.read Notation.readInput with
    | error e => exact iff_of_true ⟨e, rfl⟩ (.inr ⟨e, rfl⟩)
    | ok target =>
      refine iff_of_false ?_ (by simp)
      rintro ⟨e, he⟩
      cases he

namespace CommandLine

variable {files : Files}

namespace CheckInput

/-- The document that a check is about: the one in the file, or the one that the options make. -/
inductive IsAbout (files : Files) : CheckInput → Document → Prop
  | file {path text : String} {d : Document} (hfile : files path = .ok text)
      (hd : Document.ofText text = .ok d) : IsAbout files (.file path) d
  | inline (source target : String) (sourceNode? targetNode? : Option Node) :
      IsAbout files (.inline source target sourceNode? targetNode?)
        (.written source target sourceNode? targetNode?)

/-- The check is about this connection. -/
def Gives (files : Files) (input : CheckInput) (c : Connection) : Prop :=
  ∃ d, input.IsAbout files d ∧ d.toConnection = .ok c

/-- There is no document, or it has a bad notation. -/
def IsUnreadable (files : Files) (input : CheckInput) : Prop :=
  (∀ d, ¬ input.IsAbout files d) ∨ ∃ d, input.IsAbout files d ∧ d.HasBadNotation

theorem connectionOf_of_isAbout {input : CheckInput} {d : Document} (h : input.IsAbout files d) :
    connectionOf files input = d.toConnection.mapError .badNotation := by
  cases h with
  | file hfile hd => exact connectionOf_file hfile hd
  | inline => exact connectionOf_inline files _ _ _ _

theorem exists_connectionOf_eq_error {input : CheckInput} (h : ∀ d, ¬ input.IsAbout files d) :
    ∃ e, connectionOf files input = .error e := by
  cases input with
  | inline source target sourceNode? targetNode? => exact absurd (.inline _ _ _ _) (h _)
  | file path =>
    cases hfile : files path with
    | error fault =>
      refine ⟨.unreadable path fault, ?_⟩
      simp only [connectionOf, Document.ofFile, hfile]
      rfl
    | ok text =>
      cases hd : Document.ofText text with
      | error e =>
        refine ⟨.malformed e, ?_⟩
        simp only [connectionOf, Document.ofFile, hfile, Except.mapError, ok_bind, hd]
        rfl
      | ok d => exact absurd (.file hfile hd) (h d)

theorem connectionOf_eq_ok_iff {input : CheckInput} {c : Connection} :
    connectionOf files input = .ok c ↔ input.Gives files c := by
  constructor
  · intro hc
    by_cases h : ∃ d, input.IsAbout files d
    · obtain ⟨d, hd⟩ := h
      rw [connectionOf_of_isAbout hd] at hc
      exact ⟨d, hd, mapError_eq_ok_iff.1 hc⟩
    · obtain ⟨e, he⟩ := exists_connectionOf_eq_error (not_exists.1 h)
      rw [he] at hc
      cases hc
  · rintro ⟨d, hd, hc⟩
    rw [connectionOf_of_isAbout hd, hc]
    rfl

theorem exists_connectionOf_eq_error_iff {input : CheckInput} :
    (∃ e, connectionOf files input = .error e) ↔ input.IsUnreadable files := by
  constructor
  · rintro ⟨e, he⟩
    by_cases h : ∃ d, input.IsAbout files d
    · obtain ⟨d, hd⟩ := h
      refine .inr ⟨d, hd, Document.exists_toConnection_eq_error_iff.1 ?_⟩
      rw [connectionOf_of_isAbout hd] at he
      cases hc : d.toConnection with
      | error e => exact ⟨e, rfl⟩
      | ok c =>
        rw [hc] at he
        cases he
    · exact .inl (not_exists.1 h)
  · rintro (h | ⟨d, hd, h⟩)
    · exact exists_connectionOf_eq_error h
    · obtain ⟨e, he⟩ := Document.exists_toConnection_eq_error_iff.2 h
      exact ⟨.badNotation e, by rw [connectionOf_of_isAbout hd, he]; rfl⟩

end CheckInput

/-! ### Exits -/

namespace Command

/-- The word that asks for the command. -/
def name : Command → String
  | check _ => "check"
  | resolve _ _ => "resolve"

/-- What comes out of the command in a format, the log apart. -/
def outcome (files : Files) (command : Command) (format : Format) : Outcome :=
  (Request.command defaultFilter format command).run files .silent

/-- There is nothing to decide. -/
def IsUnreadable (files : Files) : Command → Prop
  | check input => input.IsUnreadable files
  | resolve text _ => ∃ e, Notation.readShape text = .error e

def Succeeds (files : Files) : Command → Prop
  | check input => ∃ c, input.Gives files c ∧ c.check = .ok ()
  | resolve text node? => ∃ shape sizes, Notation.readShape text = .ok shape ∧
      shape.resolve (node?.map Node.context) = .ok sizes

def IsRefused (files : Files) : Command → Prop
  | check input => ∃ c reason, input.Gives files c ∧ c.check = .error reason
  | resolve text node? => ∃ shape e, Notation.readShape text = .ok shape ∧
      shape.resolve (node?.map Node.context) = .error e

theorem isUnreadable_or (files : Files) (command : Command) :
    command.IsUnreadable files ∨ command.Succeeds files ∨ command.IsRefused files := by
  cases command with
  | check input =>
    cases hc : connectionOf files input with
    | error e => exact .inl (CheckInput.exists_connectionOf_eq_error_iff.1 ⟨e, hc⟩)
    | ok c =>
      have hgives := CheckInput.connectionOf_eq_ok_iff.1 hc
      cases hresult : c.check with
      | ok => exact .inr (.inl ⟨c, hgives, hresult⟩)
      | error reason => exact .inr (.inr ⟨c, reason, hgives, hresult⟩)
  | resolve text node? =>
    cases hshape : Notation.readShape text with
    | error e => exact .inl ⟨e, hshape⟩
    | ok shape =>
      cases hresult : shape.resolve (node?.map Node.context) with
      | ok sizes => exact .inr (.inl ⟨shape, sizes, hshape, hresult⟩)
      | error e => exact .inr (.inr ⟨shape, e, hshape, hresult⟩)

theorem outcome_check_eq (files : Files) (input : CheckInput) (format : Format) :
    (check input).outcome files format = runCheck files format input fun _ => "" := by
  simp only [outcome, Request.run, Log.silent, Outcome.after_empty]

theorem outcome_resolve_eq (files : Files) (text : String) (node? : Option Node)
    (format : Format) : (resolve text node?).outcome files format = runResolve format text node? := by
  simp only [outcome, Request.run, Log.silent, Outcome.after_empty]

theorem outcome_check {input : CheckInput} {c : Connection} (h : input.Gives files c)
    (format : Format) : (check input).outcome files format = report format c := by
  rw [outcome_check_eq, runCheck, CheckInput.connectionOf_eq_ok_iff.2 h]
  exact Outcome.after_empty _

theorem outcome_resolve {text : String} {shape : Shape}
    (h : Notation.readShape text = .ok shape) (node? : Option Node) (format : Format) :
    (resolve text node?).outcome files format =
      reportResolution format (shape.resolve (node?.map Node.context)) := by
  rw [outcome_resolve_eq, runResolve, h]

theorem exists_outcome_eq_failed {command : Command} (h : command.IsUnreadable files)
    (format : Format) : ∃ message, command.outcome files format = failed command.name message := by
  cases command with
  | check input =>
    obtain ⟨e, he⟩ := CheckInput.exists_connectionOf_eq_error_iff.2 h
    exact ⟨e.chain, by rw [outcome_check_eq, runCheck, he]; rfl⟩
  | resolve text node? =>
    obtain ⟨e, he⟩ := h
    exact ⟨e.message, by rw [outcome_resolve_eq, runResolve, he]; rfl⟩

/-- Each exit has its meaning, in whatever format the answer comes. -/
theorem exit_outcome_iff (files : Files) (command : Command) (format : Format) :
    ((command.outcome files format).exit = 2 ↔ command.IsUnreadable files) ∧
    ((command.outcome files format).exit = 0 ↔ command.Succeeds files) ∧
    ((command.outcome files format).exit = 1 ↔ command.IsRefused files) := by
  have htwo (h : command.IsUnreadable files) : (command.outcome files format).exit = 2 := by
    obtain ⟨message, hmessage⟩ := exists_outcome_eq_failed h format
    rw [hmessage, failed]
  have hzero (h : command.Succeeds files) : (command.outcome files format).exit = 0 := by
    cases command with
    | check input =>
      obtain ⟨c, hc, hcheck⟩ := h
      rw [outcome_check hc, exit_report, hcheck]
      rfl
    | resolve text node? =>
      obtain ⟨shape, sizes, hshape, hsizes⟩ := h
      rw [outcome_resolve hshape, exit_reportResolution, hsizes]
      rfl
  have hone (h : command.IsRefused files) : (command.outcome files format).exit = 1 := by
    cases command with
    | check input =>
      obtain ⟨c, reason, hc, hcheck⟩ := h
      rw [outcome_check hc, exit_report, hcheck]
      rfl
    | resolve text node? =>
      obtain ⟨shape, e, hshape, he⟩ := h
      rw [outcome_resolve hshape, exit_reportResolution, he]
      rfl
  -- one of the three holds, and the exit tells which
  refine ⟨⟨fun h => ?_, htwo⟩, ⟨fun h => ?_, hzero⟩, ⟨fun h => ?_, hone⟩⟩
  · rcases isUnreadable_or files command with hcase | hcase | hcase
    · exact hcase
    · exact absurd ((hzero hcase).symm.trans h) (by decide)
    · exact absurd ((hone hcase).symm.trans h) (by decide)
  · rcases isUnreadable_or files command with hcase | hcase | hcase
    · exact absurd ((htwo hcase).symm.trans h) (by decide)
    · exact hcase
    · exact absurd ((hone hcase).symm.trans h) (by decide)
  · rcases isUnreadable_or files command with hcase | hcase | hcase
    · exact absurd ((htwo hcase).symm.trans h) (by decide)
    · exact absurd ((hzero hcase).symm.trans h) (by decide)
    · exact hcase

/-! ### The log -/

/-- What the log has of a command: what there is to say of its filter and, if there is a connection
to check, the entry for that. -/
inductive Logs (log : Log) (filter : String) (files : Files) : Command → String → Prop
  | check {input : CheckInput} {c : Connection} (h : input.Gives files c) :
      Logs log filter files (check input) (log.notices filter ++ log.entry filter c.event)
  | unreadable {input : CheckInput} (h : input.IsUnreadable files) :
      Logs log filter files (check input) (log.notices filter)
  | resolve (text : String) (node? : Option Node) :
      Logs log filter files (resolve text node?) (log.notices filter)

/-- The log comes ahead of all that is written to the second output. -/
theorem exists_logs (log : Log) (filter : String) (files : Files) (command : Command)
    (format : Format) : ∃ logged, command.Logs log filter files logged ∧
      (Request.command filter format command).run files log =
        (command.outcome files format).after logged := by
  cases command with
  | check input =>
    simp only [Request.run, outcome_check_eq, runCheck]
    cases hc : connectionOf files input with
    | error e =>
      have hunreadable := CheckInput.exists_connectionOf_eq_error_iff.1 ⟨e, hc⟩
      exact ⟨_, .unreadable hunreadable, rfl⟩
    | ok c =>
      refine ⟨_, .check (CheckInput.connectionOf_eq_ok_iff.1 hc), ?_⟩
      simp only [Outcome.after_after, String.append_empty]
  | resolve text node? => exact ⟨_, .resolve text node?, by rw [outcome_resolve_eq, Request.run]⟩

/-- All that commands do is less severe than what such a filter lets through. -/
theorem Logs.eq_empty {log : Log} (hlog : log.IsGraded) {s : Severity}
    (hs : s.rank < Severity.debug.rank) {command : Command} {logged : String}
    (h : command.Logs log s.name files logged) : logged = "" := by
  cases h with
  | check h =>
    rw [hlog.notices_name, hlog.entry_name s _ hs]
    rfl
  | unreadable h => exact hlog.notices_name s
  | resolve text node? => exact hlog.notices_name s

end Command

/-! ### Lines for people -/

/-- The line that tells people of a finding with a code. A hint goes on a line of its own. -/
def IsLineOf (d : Diagnostic) (line : String) : Prop :=
  ∃ code, d.code? = some code ∧
    line = "portspec: " ++ d.level.display ++ "[" ++ code.text ++ "]: " ++ d.message ++
      (d.hint?.elim "" fun hint => "\n  hint: " ++ hint) ++ "\n"

theorem isLineOf_remark {d : Diagnostic} {code : Code} (h : d.code? = some code) :
    IsLineOf d (remark d.display) := by
  refine ⟨code, h, ?_⟩
  rw [remark, Diagnostic.display, h]
  cases d.hint? <;> simp [programName, String.append_assoc]

end CommandLine

/-- All that a verdict tells: its warnings and what it refuses the connection for. -/
def Verdict.findings (v : Verdict) : List Diagnostic :=
  v.warnings ++ if v.compatible then [] else
    [{ code? := v.code?, level := .error, message := v.message, hint? := v.hint? }]

namespace Connection

theorem compatible_verdict_iff {c : Connection} : c.verdict.compatible ↔ c.check = .ok () := by
  rw [verdict]
  cases c.check with
  | ok => exact iff_of_true rfl rfl
  | error reason => exact iff_of_false Bool.false_ne_true nofun

theorem exists_code_of_mem_warnings {c : Connection} {d : Diagnostic} (h : d ∈ c.warnings) :
    ∃ code, d.code? = some code := by
  unfold warnings at h
  split at h
  · split at h
    · rw [List.mem_singleton.1 h]
      exact ⟨_, rfl⟩
    · exact absurd h List.not_mem_nil
  · exact absurd h List.not_mem_nil

theorem findings_verdict_of_ok {c : Connection} (h : c.check = .ok ()) :
    c.verdict.findings = c.warnings := by
  rw [verdict, h]
  exact List.append_nil c.warnings

theorem findings_verdict_of_error {c : Connection} {reason : Incompatibility}
    (h : c.check = .error reason) : c.verdict.findings = c.warnings ++ [reason.diagnostic] := by
  rw [verdict, h]
  rfl

end Connection

namespace CommandLine

theorem stderr_report_text (c : Connection) :
    (report .text c).stderr = String.join (c.verdict.findings.map fun d => remark d.display) := by
  rw [report]
  cases h : c.check with
  | ok => rw [Connection.findings_verdict_of_ok h]
  | error reason =>
    rw [Connection.findings_verdict_of_error h, List.map_append, String.join_append]
    simp

theorem exists_code_of_mem_findings {c : Connection} {d : Diagnostic}
    (h : d ∈ c.verdict.findings) : ∃ code, d.code? = some code := by
  cases hcheck : c.check with
  | ok =>
    rw [Connection.findings_verdict_of_ok hcheck] at h
    exact Connection.exists_code_of_mem_warnings h
  | error reason =>
    rw [Connection.findings_verdict_of_error hcheck] at h
    rcases List.mem_append.1 h with h | h
    · exact Connection.exists_code_of_mem_warnings h
    · rw [List.mem_singleton.1 h]
      exact ⟨reason.code, rfl⟩

/-! ### Reports -/

/-- A check of the connection as it comes out for people and for programs. -/
structure ReportsCheck (c : Connection) (text json : Outcome) : Prop where
  exit_text : text.exit = exitOf c.check
  exit_json : json.exit = exitOf c.check
  stdout_text : text.stdout = if text.exit = 0 then "compatible\n" else ""
  stderr_text : ∃ lines, List.Forall₂ IsLineOf c.verdict.findings lines ∧
    text.stderr = String.join lines
  /-- Only this verdict can be read there. -/
  stdout_json : ∀ v : Verdict, Json.ofText json.stdout = .ok v.toJson ↔ v = c.verdict
  compatible_iff : c.verdict.compatible ↔ json.exit = 0
  stderr_json : json.stderr = ""

theorem reportsCheck (c : Connection) : ReportsCheck c (report .text c) (report .json c) where
  exit_text := exit_report .text c
  exit_json := exit_report .json c
  stdout_text := by
    rw [exit_report, report]
    cases c.check <;> rfl
  stderr_text := by
    refine ⟨_, ?_, stderr_report_text c⟩
    rw [List.forall₂_map_right_iff, List.forall₂_same]
    intro d hd
    obtain ⟨code, hcode⟩ := exists_code_of_mem_findings hd
    exact isLineOf_remark hcode
  stdout_json v := Verdict.ofText_pretty_newline_iff
  compatible_iff := by
    rw [Connection.compatible_verdict_iff, exit_report]
    cases c.check with
    | ok => exact iff_of_true rfl rfl
    | error reason =>
      have hexit : exitOf (.error reason : Except Incompatibility Unit) = 1 := rfl
      rw [hexit]
      refine iff_of_false ?_ (by decide)
      rintro ⟨⟩
  stderr_json := rfl

/-- A resolution as it comes out for people and for programs. -/
structure ReportsResolution (result : Except ResolveError (List Int64)) (text json : Outcome) :
    Prop where
  exit_text : text.exit = exitOf result
  exit_json : json.exit = exitOf result
  ok : ∀ sizes, result = .ok sizes →
    text.stdout = Shape.bracketed (sizes.map (decimalText ·.toInt)) ++ "\n" ∧ text.stderr = "" ∧
      Json.ofText json.stdout = .ok (.object [("resolved", .array (sizes.map .ofInt64))])
  error : ∀ e, result = .error e →
    text.stdout = "" ∧ text.stderr = "portspec: error: " ++ e.message ++ "\n" ∧
      Json.ofText json.stdout = .ok (.object [("error", .string e.message), ("resolved", .null)])
  stderr_json : json.stderr = ""

/-- What a resolution holds in JSON is a list of integers, or a text beside a null. -/
theorem forall_resolutionMembers {p : Json → Prop} (result : Except ResolveError (List Int64))
    (hnull : p .null) (hstring : ∀ s, p (.string s))
    (hsizes : ∀ sizes : List Int64, p (.array (sizes.map .ofInt64))) :
    ∃ members, resolutionJson result = .object members ∧ ∀ e ∈ members, p e.2 := by
  cases result with
  | ok sizes => exact ⟨_, rfl, List.forall_mem_singleton.2 (hsizes sizes)⟩
  | error e =>
    exact ⟨_, rfl, List.forall_mem_cons.2 ⟨hstring _, List.forall_mem_singleton.2 hnull⟩⟩

theorem isFloatFree_resolutionJson (result : Except ResolveError (List Int64)) :
    (resolutionJson result).IsFloatFree := by
  obtain ⟨members, hresult, hmembers⟩ := forall_resolutionMembers (p := Json.IsFloatFree) result
    .null .string fun sizes => .array fun v hv => by
      obtain ⟨n, -, rfl⟩ := List.mem_map.1 hv
      exact .integer _
  rw [hresult]
  exact .object hmembers

theorem nestsWithin_resolutionJson (depth : Nat) (result : Except ResolveError (List Int64)) :
    (resolutionJson result).NestsWithin (depth + 2) := by
  obtain ⟨members, hresult, hmembers⟩ := forall_resolutionMembers
    (p := Json.NestsWithin (depth + 1)) result .null .string fun sizes => .array fun v hv => by
      obtain ⟨n, -, rfl⟩ := List.mem_map.1 hv
      exact .number _
  rw [hresult]
  exact .object hmembers

theorem reportsResolution (result : Except ResolveError (List Int64)) :
    ReportsResolution result (reportResolution .text result) (reportResolution .json result) := by
  have hjson : Json.ofText (reportResolution .json result).stdout = .ok (resolutionJson result) :=
    Json.ofText_compact_newline (nestsWithin_resolutionJson 125 result)
      (isFloatFree_resolutionJson result)
  refine ⟨exit_reportResolution .text result, exit_reportResolution .json result,
    ?_, ?_, rfl⟩
  · rintro sizes rfl
    exact ⟨rfl, rfl, hjson⟩
  · rintro e rfl
    refine ⟨rfl, ?_, hjson⟩
    simp [reportResolution, remark, Diagnostic.display, programName, Level.display,
      ← String.append_assoc]

/-! ### Main statement -/

/-- A line of arguments that asks for a command exits with two if there is nothing to decide, with
zero if the answer is yes and with one if it is no, whatever the format, the filter and the
warnings. In the first case only an error is told; in the others people are told what one JSON value
tells programs. The log is written before, and not at all if the line gives no filter or gives a
severity that is too high for a check to be an event. -/
theorem run_command {arguments : List String} {filter : String} {format : Format}
    {command : Command} (h : requestOf? arguments = some (.command filter format command))
    {log : Log} (hlog : log.IsGraded) (files : Files) :
    (∃ logged, command.Logs log filter files logged ∧
      run files arguments log = (command.outcome files format).after logged) ∧
    (¬ IsNamed arguments .log ∨
        (∃ s : Severity, s.rank < Severity.debug.rank ∧ filter = s.name) →
      run files arguments log = command.outcome files format) ∧
    (∀ format,
      ((command.outcome files format).exit = 2 ↔ command.IsUnreadable files) ∧
      ((command.outcome files format).exit = 0 ↔ command.Succeeds files) ∧
      ((command.outcome files format).exit = 1 ↔ command.IsRefused files) ∧
      (command.IsUnreadable files → (command.outcome files format).stdout = "" ∧
        ∃ message, (command.outcome files format).stderr =
          "portspec: error: " ++ command.name ++ " failed: " ++ message)) ∧
    (∀ input c, command = .check input → input.Gives files c →
      ReportsCheck c (command.outcome files .text) (command.outcome files .json)) ∧
    ∀ text node? shape, command = .resolve text node? → Notation.readShape text = .ok shape →
      ReportsResolution (shape.resolve (node?.map Node.context)) (command.outcome files .text)
        (command.outcome files .json) := by
  have hrun : run files arguments log = (Request.command filter format command).run files log := by
    rw [run, h]
  obtain ⟨logged, hlogged, hafter⟩ := command.exists_logs log filter files format
  refine ⟨⟨logged, hlogged, hrun.trans hafter⟩, fun hquiet => ?_, fun format => ?_, ?_, ?_⟩
  · obtain ⟨s, hs, rfl⟩ : ∃ s : Severity, s.rank < Severity.debug.rank ∧ filter = s.name :=
      hquiet.elim (fun hnamed => ⟨.warn, by decide, filter_eq_default h hnamed⟩) id
    rw [hrun, hafter, hlogged.eq_empty hlog hs, Outcome.after_empty]
  · obtain ⟨htwo, hzero, hone⟩ := command.exit_outcome_iff files format
    refine ⟨htwo, hzero, hone, fun hunreadable => ?_⟩
    obtain ⟨message, hmessage⟩ := Command.exists_outcome_eq_failed hunreadable format
    rw [hmessage]
    refine ⟨rfl, message ++ "\n", ?_⟩
    simp [failed, remark, programName, ← String.append_assoc]
  · rintro input c rfl hc
    rw [Command.outcome_check hc, Command.outcome_check hc]
    exact reportsCheck c
  · rintro text node? shape rfl hshape
    rw [Command.outcome_resolve hshape, Command.outcome_resolve hshape]
    exact reportsResolution _

/-- The target declares two contracts, the first of another size than the source. -/
def mismatchedText : String :=
  "\x7b\"source\": \x7b\"spec\": \"Tensor[3]\"\x7d, \"target\": \x7b\"spec\": " ++
    "[\x7b\"dtype\": \"Tensor\", \"shape\": [4]\x7d, [\"Tensor\", []]]\x7d\x7d"

def mismatched : Files := fun _ => .ok mismatchedText

def mismatchedLine : List String := ["check", "--file=conn.json"]

def mismatchedInput : CheckInput := .file "conn.json"

def mismatchedConnection : Connection where
  source := { dtype := .tensor, shape := [.size 3] }
  target := .variadic [{ dtype := .tensor, shape := [.size 4] }, { dtype := .tensor, shape := [] }]

def mismatchedDocument : Document where
  source := { declared := .written "Tensor[3]" }
  target := { declared := .given mismatchedConnection.target }

theorem gives_mismatchedConnection : mismatchedInput.Gives mismatched mismatchedConnection := by
  have hfile : mismatched "conn.json" = .ok mismatchedText := rfl
  have hd : Document.ofText mismatchedText = .ok mismatchedDocument :=
    toOption_eq_some_iff.1 (by decide +kernel)
  have hc : mismatchedDocument.toConnection = .ok mismatchedConnection :=
    toOption_eq_some_iff.1 (by decide +kernel)
  exact ⟨mismatchedDocument, .file hfile hd, hc⟩

theorem run_command_mismatched :
    (run mismatched mismatchedLine).exit = 1 ∧ (run mismatched mismatchedLine).stdout = "" ∧
      ∃ lines, List.Forall₂ IsLineOf mismatchedConnection.verdict.findings lines ∧
        (run mismatched mismatchedLine).stderr = String.join lines := by
  have hline : requestOf? mismatchedLine =
      some (.command defaultFilter .text (.check mismatchedInput)) := by decide +kernel
  obtain ⟨-, hquiet, -, hcheck, -⟩ := run_command hline Log.isGraded_plain mismatched
  have hrun := hquiet (.inr ⟨.warn, by decide, rfl⟩)
  have hreport := hcheck mismatchedInput mismatchedConnection rfl gives_mismatchedConnection
  have hexit : (run mismatched mismatchedLine).exit = 1 := by
    rw [hrun, hreport.exit_text]
    rfl
  refine ⟨hexit, ?_, ?_⟩
  · rw [hrun, hreport.stdout_text, ← hrun, hexit]
    rfl
  · rw [hrun]
    exact hreport.stderr_text

/-- A filter that is no rule. -/
def filteredLine : List String :=
  ["check", "--source", "Tensor[3]", "--target", "Tensor[3]", "--log", "!["]

/-- What there is to say of a filter comes ahead of the findings. -/
theorem not_stderr_findings : ¬ ∀ (files : Files) (arguments : List String) (filter : String)
    (input : CheckInput) (c : Connection),
    requestOf? arguments = some (.command filter .text (.check input)) → input.Gives files c →
      ∃ lines, List.Forall₂ IsLineOf c.verdict.findings lines ∧
        (run files arguments).stderr = String.join lines := by
  intro hall
  have hline : requestOf? filteredLine =
      some (.command "![" .text (.check (.inline "Tensor[3]" "Tensor[3]" none none))) := by
    decide +kernel
  have hgives : (CheckInput.inline "Tensor[3]" "Tensor[3]" none none).Gives mismatched
      { mismatchedConnection with target := .single mismatchedConnection.source } :=
    ⟨_, .inline _ _ _ _, toOption_eq_some_iff.1 (by decide +kernel)⟩
  obtain ⟨lines, hlines, hstderr⟩ := hall mismatched _ _ _ _ hline hgives
  cases hlines
  have hnotice : (run mismatched filteredLine).stderr =
      "ignoring `![`: invalid filter directive\n" := by decide +kernel
  rw [hnotice] at hstderr
  exact absurd hstderr (by decide)

end CommandLine

end Dataflow
