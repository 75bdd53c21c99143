import Dataflow.Node

/-! The arguments of the command line. Options are read from left to right; the first that is
unknown, lacks its value, has a bad one or repeats against the rules refuses the whole line. -/
namespace Dataflow.CommandLine

/-! ### Options -/

inductive Format where
  | text
  | json
deriving DecidableEq, Repr

def Format.ofName? : String → Option Format
  | "text" => some text
  | "json" => some json
  | _ => none

inductive Key where
  | format | log
  | file | source | target | sourceAttr | targetAttr | sourceId | targetId
  | shape | attr | id
deriving DecidableEq, Repr

namespace Key

def name : Key → String
  | format => "format"
  | log => "log"
  | file => "file"
  | source => "source"
  | target => "target"
  | sourceAttr => "source-attr"
  | targetAttr => "target-attr"
  | sourceId => "source-id"
  | targetId => "target-id"
  | shape => "shape"
  | attr => "attr"
  | id => "id"

/-- Options that may stand before the command and after it. -/
def general : List Key := [format, log]

def ofCheck : List Key :=
  [file, source, target, sourceAttr, targetAttr, sourceId, targetId] ++ general

def ofResolve : List Key := [shape, attr, id] ++ general

def repeats : Key → Bool
  | sourceAttr | targetAttr | attr => true
  | _ => false

/-- Whether an option may have this value. -/
def takes (k : Key) (value : String) : Bool :=
  match k with
  | format => (Format.ofName? value).isSome
  | file => value ≠ ""
  | sourceAttr | targetAttr | attr => (Assignment.ofText value).toOption.isSome
  | _ => true

end Key

/-! ### Reading options -/

abbrev Given := List (Key × String)

namespace Given

def value? (g : Given) (k : Key) : Option String := g.lookup k

def values (g : Given) (k : Key) : List String := (g.filter (·.1 = k)).map (·.2)

def assignments (g : Given) (k : Key) : List Assignment :=
  (g.values k).filterMap fun text => (Assignment.ofText text).toOption

def format? (g : Given) : Option Format := (g.value? .format).bind Format.ofName?

/-- Adds an option to those before it. -/
def add? (g : Given) (k : Key) (value : String) : Option Given :=
  if k.takes value && (k.repeats || (g.value? k).isNone) then some (g ++ [(k, value)]) else none

/-- Adds the option that still waits to be looked into, if there is one. -/
def settle? (g : Given) (waiting? : Option (Key × String)) : Option Given :=
  match waiting? with
  | some (k, value) => g.add? k value
  | none => some g

end Given

/-- An argument by its looks. Of a run of short options the first letter decides, since no short
option leaves anything to read after it. -/
inductive Argument where
  | word (text : String)
  | escape
  | short (letter : Char)
  | long (name : String) (value? : Option String)
deriving DecidableEq, Repr

namespace Argument

/-- A long option may have its value after an equals sign. A single dash is a word. -/
def ofText (text : String) : Argument :=
  match text.toList with
  | ['-', '-'] => escape
  | '-' :: '-' :: cs =>
    let name := String.ofList (cs.takeWhile (· ≠ '='))
    match cs.dropWhile (· ≠ '=') with
    | [] => long name none
    | _ :: value => long name (some (String.ofList value))
  | '-' :: letter :: _ => short letter
  | _ => word text

def isHelp : Argument → Bool
  | short letter => letter = 'h'
  | long name value? => name = "help" && value?.isNone
  | _ => false

def isVersion : Argument → Bool
  | short letter => letter = 'V'
  | long name value? => name = "version" && value?.isNone
  | _ => false

end Argument

/-- Where a run of options ends. At a word the last option may still wait to be looked into. -/
inductive Ending where
  | done
  | word (waiting? : Option (Key × String)) (text : String) (rest : List String)
  | version
  | help
deriving DecidableEq, Repr

/-- Reads the options in `allowed` up to the first other word; none if the line is refused. A value
that is an argument of its own has to be a word. It waits to be looked into until another option or
the end of the line comes. -/
def readOptions (allowed : List Key) (versioned : Bool) :
    Given → (waiting? : Option (Key × String)) → List String → Option (Given × Ending)
  | g, waiting?, [] => do return (← g.settle? waiting?, .done)
  | g, waiting?, argument :: rest =>
    match Argument.ofText argument with
    | .word text => some (g, .word waiting? text rest)
    | .escape => if rest.isEmpty then do return (← g.settle? waiting?, .done) else none
    | option => do
      let g ← g.settle? waiting?
      if option.isHelp then return (g, .help)
      if versioned && option.isVersion then return (g, .version)
      match option with
      | .long name value? =>
        let k ← allowed.find? (·.name = name)
        match value?, rest with
        | some value, rest => readOptions allowed versioned (← g.add? k value) none rest
        | none, value :: rest =>
          match Argument.ofText value with
          | .word value => readOptions allowed versioned g (some (k, value)) rest
          | _ => none
        | none, [] => none
      | _ => none

/-! ### Requests -/

/-- Where the two contracts of a check come from. -/
inductive CheckInput where
  | file (path : String)
  | inline (source target : String) (sourceNode? targetNode? : Option Node)
deriving DecidableEq

inductive Command where
  | check (input : CheckInput)
  | resolve (shape : String) (node? : Option Node)
deriving DecidableEq

inductive Request where
  | version
  | help
  | command (filter : String) (format : Format) (command : Command)
deriving DecidableEq

/-- The filter of the log where none is given. -/
def defaultFilter : String := "warn"

/-- No node at all if neither an identifier nor an attribute is given. -/
def nodeOf (id? : Option String) (assignments : List Assignment) : Option Node :=
  if id?.isNone && assignments.isEmpty then none else some (.ofAssignments id? assignments)

/-- A file stands in for both contracts and for all that belongs to them. -/
def checkOf? (g : Given) : Option Command :=
  match g.value? .file, g.value? .source, g.value? .target with
  | some path, none, none => some (.check (.file path))
  | none, some source, some target =>
    some (.check (.inline source target (nodeOf (g.value? .sourceId) (g.assignments .sourceAttr))
      (nodeOf (g.value? .targetId) (g.assignments .targetAttr))))
  | _, _, _ => none

def resolveOf? (g : Given) : Option Command := do
  return .resolve (← g.value? .shape) (nodeOf (g.value? .id) (g.assignments .attr))

/-- A command with the options that may follow it. -/
def commandOf? : String → Option (List Key × (Given → Option Command))
  | "check" => some (Key.ofCheck, checkOf?)
  | "resolve" => some (Key.ofResolve, resolveOf?)
  | _ => none

/-- What help may be asked for by name. -/
def topics : List String := ["check", "resolve", "help"]

/-- Whether the words after `help` name nothing or one topic. -/
def isHelpRequest : List String → Bool
  | [] => true
  | [topic] => topic ∈ topics
  | _ => false

/-- The request of a line of arguments; none if it is refused. A general option after the command
goes before one in front of it. -/
def requestOf? (arguments : List String) : Option Request := do
  match ← readOptions Key.general true [] none arguments with
  | (_, .done) => none
  | (_, .version) => return .version
  | (_, .help) => return .help
  | (outer, .word waiting? name rest) =>
    if name = "help" then
      if isHelpRequest rest then return .help else none
    let (allowed, build?) ← commandOf? name
    match ← readOptions allowed false [] none rest with
    | (_, .help) => return .help
    | (inner, .done) =>
      let outer ← outer.settle? waiting?
      let filter := ((inner.value? .log).or (outer.value? .log)).getD defaultFilter
      let format := (inner.format?.or outer.format?).getD .text
      return .command filter format (← build? inner)
    | _ => none

end Dataflow.CommandLine
