import Dataflow.CommandLine.Arguments
import Dataflow.Connection.Document
import Dataflow.Log

/-! Running a request: what goes to the two outputs and how the program exits. Zero means yes, one
means no, two means that there was nothing to decide. The log goes to the second output, ahead of
what the program says there itself. -/
namespace Dataflow.CommandLine

structure Outcome where
  exit : UInt8
  stdout : String := ""
  stderr : String := ""
deriving DecidableEq, Repr

namespace Outcome

/-- The outcome with this written to the second output before. -/
def after (o : Outcome) (logged : String) : Outcome := { o with stderr := logged ++ o.stderr }

@[simp] theorem after_empty (o : Outcome) : o.after "" = o := by
  rw [after, String.empty_append]

@[simp] theorem after_after (o : Outcome) (first second : String) :
    (o.after second).after first = o.after (first ++ second) := by
  simp only [after, String.append_assoc]

end Outcome

def programName : String := "portspec"

def versionLine : String := programName ++ " 0.3.1\n"

/-- A line of output for people. -/
def remark (text : String) : String := programName ++ ": " ++ text ++ "\n"

def exitOf (result : Except ε α) : UInt8 := if result.toBool then 0 else 1

/-- Nothing could be decided while doing this. -/
def failed (doing message : String) : Outcome :=
  { exit := 2, stderr := remark ("error: " ++ doing ++ " failed: " ++ message) }

/-! ### Checks -/

/-- How the contents of a file are found. -/
abbrev Files := String → Except FileFault String

def connectionOf (files : Files) : CheckInput → Except Document.Error Connection
  | .file path => do
    let document ← Document.ofFile path (files path)
    document.toConnection.mapError .badNotation
  | .inline source target sourceNode? targetNode? => do
    let source ← (Notation.readSpec source).mapError .badNotation
    let target ← (Notation.readInput target).mapError .badNotation
    return ⟨source, sourceNode?, target, targetNode?⟩

def report (format : Format) (c : Connection) : Outcome :=
  let result := c.check
  match format with
  | .json => { exit := exitOf result, stdout := c.verdict.toJson.pretty ++ "\n" }
  | .text =>
    let warnings := String.join (c.warnings.map fun w => remark w.display)
    match result with
    | .ok () => { exit := exitOf result, stdout := "compatible\n", stderr := warnings }
    | .error reason =>
      { exit := exitOf result, stderr := warnings ++ remark reason.diagnostic.display }

theorem exit_report (format : Format) (c : Connection) :
    (report format c).exit = exitOf c.check := by
  cases format with
  | json => rfl
  | text =>
    rw [report]
    cases c.check <;> rfl

/-- A check that has something to check is an event. -/
def runCheck (files : Files) (format : Format) (input : CheckInput) (entry : Event → String) :
    Outcome :=
  match connectionOf files input with
  | .ok c => (report format c).after (entry c.event)
  | .error e => failed "check" e.chain

/-! ### Resolutions -/

def resolutionJson : Except ResolveError (List Int64) → Json
  | .ok sizes => .object [("resolved", .array (sizes.map .ofInt64))]
  | .error e => .object [("error", .string e.message), ("resolved", .null)]

def reportResolution (format : Format) (result : Except ResolveError (List Int64)) : Outcome :=
  match format, result with
  | .json, _ => { exit := exitOf result, stdout := (resolutionJson result).compact ++ "\n" }
  | .text, .ok sizes =>
    { exit := exitOf result, stdout := Shape.bracketed (sizes.map (decimalText ·.toInt)) ++ "\n" }
  | .text, .error e =>
    { exit := exitOf result,
      stderr := remark { level := .error, message := e.message : Diagnostic }.display }

theorem exit_reportResolution (format : Format) (result : Except ResolveError (List Int64)) :
    (reportResolution format result).exit = exitOf result := by
  cases format <;> cases result <;> rfl

def runResolve (format : Format) (shape : String) (node? : Option Node) : Outcome :=
  match Notation.readShape shape with
  | .ok shape => reportResolution format (shape.resolve (node?.map Node.context))
  | .error e => failed "resolve" e.message

/-! ### Requests -/

/-- Stands for the text that explains the options. -/
def usage : String := "Usage: portspec [OPTIONS] <COMMAND>\n"

/-- A line that is no request; its text stands for one that says why. -/
def refused : Outcome := { exit := 2, stderr := "error: invalid arguments\n\n" ++ usage }

/-- The filter of the log is set up before anything else is done. -/
def Request.run (files : Files) (request : Request) (log : Log := .plain) : Outcome :=
  match request with
  | version => { exit := 0, stdout := versionLine }
  | help => { exit := 0, stdout := usage }
  | command filter format (.check input) =>
    (runCheck files format input (log.entry filter)).after (log.notices filter)
  | command filter format (.resolve shape node?) =>
    (runResolve format shape node?).after (log.notices filter)

/-- Runs a line of arguments. -/
def run (files : Files) (arguments : List String) (log : Log := .plain) : Outcome :=
  match requestOf? arguments with
  | some request => request.run files log
  | none => refused

end Dataflow.CommandLine
