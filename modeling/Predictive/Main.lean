import Predictive.CommandLine
/-!
# The program

Reads the bytes that the command asks for, and prints its outcome.
-/
namespace Predictive

namespace CommandLine

def ReadError.ofSystem : IO.Error → ReadError
  | .noFileOrDirectory .. => .missing
  | .inappropriateType .. => .directory
  | e => .other (toString e)

/-- The bytes of the grammar, from the file of the command or from standard input. -/
def content (c : Command) : IO (Except ReadError ByteArray) := do
  match c.file with
  | none => return .ok (← (← IO.getStdin).readBinToEnd)
  | some name =>
    match ← (IO.FS.readBinFile name).toBaseIO with
    | .ok bytes => return .ok bytes
    | .error e => return .error (.ofSystem e)

end CommandLine

end Predictive

def main (args : List String) : IO UInt32 := do
  let outcome ←
    match Predictive.CommandLine.read args with
    | none => pure Predictive.CommandLine.help
    | some c => do pure (Predictive.CommandLine.answer c (← Predictive.CommandLine.content c))
  IO.print outcome.stdout
  IO.eprint outcome.stderr
  return outcome.code.toUInt32
