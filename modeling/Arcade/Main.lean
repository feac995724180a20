import Arcade.CommandLine.Run

/-!
# `Arcade.Main` — the program

Runs the machine without a display, on the real file system.
-/

namespace Arcade

/-- The real surroundings of a run. -/
def realHost : Host IO where
  present path := do
    try
      discard (IO.FS.realPath path)
      pure true
    catch _ => pure false
  read path := do
    try pure (.ok (← IO.FS.readBinFile path).toList)
    catch e => pure (.error (toString e))
  create path text := do
    try pure (.ok (← IO.FS.writeFile path text))
    catch e => pure (.error (toString e))
  print line := IO.println line
  log line := IO.eprintln line

/-- How the program is called. -/
def usage : String :=
  "usage: [REVISION] [--roms DIR] [--frames N] [--save FILE] [--config FILE] [--dsw-a BYTE] " ++
    "[--dsw-b BYTE] [--log-level LEVEL] [--quiet] [--list]"

end Arcade

/-- Runs the command line: 0 if all went well, 1 after a failure, 2 if it cannot be understood. -/
def main (args : List String) : IO UInt32 := do
  match Arcade.Options.parse args with
  | .error _ =>
    IO.eprintln Arcade.usage
    pure 2
  | .ok options =>
    match ← (Arcade.Run.all Arcade.realHost options).run with
    | .ok () => pure 0
    | .error chain =>
      IO.eprintln ("Error: " ++ ": ".intercalate chain)
      pure 1
