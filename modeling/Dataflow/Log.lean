import Dataflow.Connection
import Dataflow.Text.Quoted

/-! The log. The program only says what happens and how severe that is. What is written of it, and
of the filter that holds events back, is up to the log. -/
namespace Dataflow

/-! ### Events -/

/-- From the most severe kind of event to the most detailed one. -/
inductive Severity where
  | error | warn | info | debug | trace
deriving DecidableEq, Repr

namespace Severity

def name : Severity → String
  | error => "error"
  | warn => "warn"
  | info => "info"
  | debug => "debug"
  | trace => "trace"

/-- The less severe, the higher. -/
def rank : Severity → Nat
  | error => 1
  | warn => 2
  | info => 3
  | debug => 4
  | trace => 5

/-- The name as it stands in a line of the log. -/
def column : Severity → String
  | error => "ERROR"
  | warn => " WARN"
  | info => " INFO"
  | debug => "DEBUG"
  | trace => "TRACE"

end Severity

/-- What happens to the contracts of a connection. -/
structure Event where
  severity : Severity
  message : String
  source : Spec
  target : InputSpec
deriving DecidableEq, Repr

/-- The connection is going to be checked. -/
def Connection.event (c : Connection) : Event where
  severity := .debug
  message := "checking connection"
  source := c.source
  target := c.target

/-- What is written, in one run, when a filter is set up and what of an event under it. -/
structure Log where
  notices : (filter : String) → String
  entry : (filter : String) → Event → String

namespace Log

/-- A log that writes nothing. -/
def silent : Log where
  notices _ := ""
  entry _ _ := ""

/-- The name of a severity is a filter without faults, and it holds back what is less severe. -/
structure IsGraded (log : Log) : Prop where
  notices_name : ∀ s : Severity, log.notices s.name = ""
  entry_name : ∀ (s : Severity) (e : Event), s.rank < e.severity.rank → log.entry s.name e = ""

end Log

/-! ### Contracts in a log -/

def Dtype.shown : Dtype → String
  | tensor => "Tensor"
  | element kind => "Element(" ++ kind.name.capitalize ++ ")"
  | other name => "Other(" ++ Text.quoted name ++ ")"

def Dim.shown : Dim → String
  | size n => "Size(" ++ decimalText n.toInt ++ ")"
  | symbol name => "Symbol(" ++ Text.quoted name ++ ")"

def Spec.shown (s : Spec) : String :=
  "PortSpec \x7b dtype: " ++ s.dtype.shown ++ ", shape: " ++
    Shape.bracketed (s.shape.map Dim.shown) ++ ", description: " ++ Text.quoted s.description ++
    ", optional: " ++ toString s.optional ++ " \x7d"

def InputSpec.shown : InputSpec → String
  | single spec => "Single(" ++ spec.shown ++ ")"
  | variadic specs => "Variadic(" ++ Shape.bracketed (specs.map Spec.shown) ++ ")"

/-! ### A plain log -/

/-- Where all events come from. -/
def Event.origin : String := "portspec"

/-- A line of a log without times and colours. -/
def Event.line (e : Event) : String :=
  e.severity.column ++ " " ++ origin ++ ": " ++ e.message ++ " source=" ++ e.source.shown ++
    " target=" ++ e.target.shown ++ "\n"

namespace Log

/-- Events whose origin starts so are let through up to a rank. -/
structure Rule where
  origin : List Char := []
  rank : Nat := Severity.trace.rank

namespace Rule

/-- The rank that is written as a name, in letters of either case, or as a number. -/
def rank? (cs : List Char) : Option Nat :=
  match String.ofList (cs.map Char.toLower) with
  | "off" | "0" => some 0
  | "error" | "1" => some 1
  | "warn" | "2" => some 2
  | "info" | "3" => some 3
  | "debug" | "4" => some 4
  | "trace" | "5" => some 5
  | _ => none

def opens (c : Char) : Bool := c.isAlphanum || c ∈ ['-', ':', '_', '['] || 127 < c.toNat

/-- A rank, an origin, or an origin and the rank for it after an equals sign. Brackets stand around
what the program does not have, so that a rule with one is for other events. -/
def ofText? (cs : List Char) : Option Rule :=
  let origin := cs.takeWhile (· ≠ '=')
  if !origin.head?.any opens then none
  else if '[' ∈ cs then some { origin := cs }
  else match cs.dropWhile (· ≠ '='), rank? origin with
    | [], some rank => some { rank }
    | [], none | [_], _ => some { origin }
    | _ :: rank, _ => (rank? rank).map fun rank => { origin, rank }

end Rule

/-- The parts of a filter between commas, those left out that are empty. -/
def parts (filter : String) : List (List Char) :=
  (filter.toList.splitBy fun c d => c ≠ ',' && d ≠ ',').filter (· ≠ [','])

/-- The rank up to which the events of the program are let through. Of the rules that are for them
the longest one decides, and of several of one length the last. Without any rules only errors are
let through. -/
def limit (filter : String) : Nat :=
  match (parts filter).filterMap Rule.ofText? with
  | [] => Severity.error.rank
  | rules =>
    let fitting := rules.filter (·.origin.isPrefixOf Event.origin.toList)
    let longer (best rule : Rule) := if best.origin.length ≤ rule.origin.length then rule else best
    (fitting.foldl longer { rank := 0 }).rank

/-- What is no rule is told of and passed over. -/
def plain : Log where
  notices filter := String.join <|
    ((parts filter).filter fun part => (Rule.ofText? part).isNone).map fun part =>
      "ignoring `" ++ String.ofList part ++ "`: invalid filter directive\n"
  entry filter e := if e.severity.rank ≤ limit filter then e.line else ""

theorem isGraded_plain : plain.IsGraded := by
  refine ⟨fun s => ?_, fun s e h => ?_⟩
  · cases s <;> decide +kernel
  · have hlimit : limit s.name = s.rank := by cases s <;> decide +kernel
    rw [← hlimit] at h
    exact if_neg (Nat.not_le_of_lt h)

end Log

end Dataflow
