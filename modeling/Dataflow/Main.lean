import Dataflow.CommandLine.Run

/-! The program: a document is read from its file and outcomes are printed. -/
namespace Dataflow.CommandLine

/-- The file that a request reads, if any. -/
def Request.file? : Request → Option String
  | command _ _ (.check (.file path)) => some path
  | _ => none

def readContents (path : String) : IO (Except FileFault String) := do
  try
    let bytes ← IO.FS.readBinFile path
    match String.fromUTF8? bytes with
    | some text => return .ok text
    | none => return .error .notText
  catch
    | .noFileOrDirectory .. => return .error .missing
    | .permissionDenied .. => return .error .forbidden
    | .inappropriateType none .. => return .error .directory
    | .inappropriateType .. => return .error .notDirectory
    | .invalidArgument _ _ "name too long" => return .error .nameTooLong
    | e => return .error (.other (toString e))

end Dataflow.CommandLine

open Dataflow.CommandLine in
def main (arguments : List String) : IO UInt32 := do
  let contents ← match (requestOf? arguments).bind Request.file? with
    | some path => readContents path
    | none => pure (.error .missing)
  let outcome := run (fun _ => contents) arguments
  IO.print outcome.stdout
  IO.eprint outcome.stderr
  return outcome.exit.toUInt32
