import Dataflow.Diagnostic

/-! A proposed connection between an output and an input, each with the node that owns it if there
is one, and the verdict on it. -/
namespace Dataflow

structure Connection where
  source : Spec
  sourceNode? : Option Node := none
  target : InputSpec
  targetNode? : Option Node := none
deriving DecidableEq

namespace Connection

def check (c : Connection) : Except Incompatibility Unit :=
  c.source.check c.target (c.sourceNode?.map Node.context) (c.targetNode?.map Node.context)

def uncheckedSpecs (count : Nat) : Diagnostic where
  code? := some .uncheckedVariadic
  level := .warning
  message := s!"variadic target declares {count} specs; only the first is checked"
  hint? := some "declare a single spec that covers every variadic input"

/-- What is worth a remark although the check passes over it. -/
def warnings (c : Connection) : List Diagnostic :=
  match c.target with
  | .variadic specs => if 1 < specs.length then [uncheckedSpecs specs.length] else []
  | .single _ => []

end Connection

/-! ### Verdicts -/

/-- What programs are told of a check. -/
structure Verdict where
  compatible : Bool
  message : String := ""
  code? : Option Code := none
  hint? : Option String := none
  warnings : List Diagnostic := []
deriving DecidableEq, Repr

namespace Verdict

def ofResult : Except Incompatibility Unit → Verdict
  | .ok () => { compatible := true }
  | .error reason =>
    { compatible := false, message := reason.message, code? := some reason.code,
      hint? := reason.hint? }

def withWarnings (v : Verdict) (warnings : List Diagnostic) : Verdict := { v with warnings }

/-- Members with nothing to say are left out. -/
def toJson (v : Verdict) : Json :=
  .object ([("compatible", .bool v.compatible), ("message", .string v.message)] ++
    Diagnostic.optionalMember "code" (v.code?.map Code.text) ++
    Diagnostic.optionalMember "hint" v.hint? ++
    if v.warnings.isEmpty then [] else [("warnings", .array (v.warnings.map Diagnostic.toJson))])

end Verdict

def Connection.verdict (c : Connection) : Verdict :=
  (Verdict.ofResult c.check).withWarnings c.warnings

end Dataflow
