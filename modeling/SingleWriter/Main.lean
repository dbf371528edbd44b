import SingleWriter.Program

/-!
# Entry point

Reads the arguments and the settings file, runs the program, and prints what it says.
No server is reached from here: a caller that has servers runs `Program.invoke` on a
network with them.
-/

set_option autoImplicit false

namespace SingleWriter

def content? (path : String) : IO (Option (List UInt8)) :=
  try
    return some (← IO.FS.readBinFile path).toList
  catch _ => return none

end SingleWriter

open SingleWriter in
def main (args : List String) : IO UInt32 := do
  let outcome ← match Invocation.ofArguments args with
    | none => pure Program.usage
    | some i => pure (Program.invoke i (← content? i.config) (.offline [])).1
  IO.print outcome.output
  unless outcome.complaint.isEmpty do IO.eprintln outcome.complaint
  return outcome.exitCode.toUInt32
