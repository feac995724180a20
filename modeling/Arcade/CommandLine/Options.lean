import Arcade.Log.Level
import Arcade.Text.Numeral

/-!
# `Arcade.CommandLine.Options` — the command line

Options have long names; a value follows its name, in the same argument after an equals sign or as
the next argument. A next argument that begins with a dash is no value, unless it is a dash alone.
Nothing may be given twice, and after two dashes everything is positional. The one positional
argument names a revision.

## Contents
- `Options`, their defaults.
- `Options.Draft`, `Options.parse`.
-/

namespace Arcade

/-- What the command line asks for. -/
structure Options where
  revision : Option String
  /-- The directory with the program chips. -/
  roms : Option String
  frames : Nat
  /-- Where the save state goes. -/
  save : String
  /-- The configuration file. -/
  config : Option String
  dipA : Option UInt8
  dipB : Option UInt8
  logLevel : Level
  quiet : Bool
  /-- Only list the revisions. -/
  list : Bool
  deriving DecidableEq, Repr

/-- A command line that cannot be understood. -/
structure UsageProblem where
  deriving DecidableEq, Repr

namespace Options

/-- What has been given so far. -/
structure Draft where
  revision : Option String
  roms : Option String
  frames : Option Nat
  save : Option String
  config : Option String
  dipA : Option UInt8
  dipB : Option UInt8
  logLevel : Option Level
  quiet : Bool
  list : Bool
  deriving Repr

namespace Draft

/-- Nothing has been given. -/
def empty : Draft :=
  { revision := none, roms := none, frames := none, save := none, config := none, dipA := none
    dipB := none, logLevel := none, quiet := false, list := false }

/-- The options, with the default for whatever was not given. -/
def complete (d : Draft) : Options :=
  { revision := d.revision
    roms := d.roms
    frames := d.frames.getD 60
    save := d.save.getD "state.json"
    config := d.config
    dipA := d.dipA
    dipB := d.dipB
    logLevel := d.logLevel.getD .warn
    quiet := d.quiet
    list := d.list }

/-- A value that may be given once. -/
def once {α : Type} (before : Option α) (value : Option α) : Option (Option α) :=
  match before, value with
  | none, some a => some (some a)
  | _, _ => none

/-- A path, which is not empty. -/
def path? (s : String) : Option String := if s.isEmpty then none else some s

/-- A count of 32 bits. A minus sign is only good in front of zero. -/
def count? (s : String) : Option Nat :=
  match s.toList with
  | '-' :: digits =>
    if digits.head? = some '+' then none else (Numeral.read 10 0 digits).toOption
  | digits => (Numeral.read 10 (UInt32.size - 1) digits).toOption

/-- Takes the value of an option. -/
def take (d : Draft) (name value : String) : Option Draft :=
  match name with
  | "roms" => (once d.roms (path? value)).map fun v => { d with roms := v }
  | "frames" => (once d.frames (count? value)).map fun v => { d with frames := v }
  | "save" => (once d.save (path? value)).map fun v => { d with save := v }
  | "config" => (once d.config (path? value)).map fun v => { d with config := v }
  | "dsw-a" => (once d.dipA (Byte.ofText value).toOption).map fun v => { d with dipA := v }
  | "dsw-b" => (once d.dipB (Byte.ofText value).toOption).map fun v => { d with dipB := v }
  | "log-level" =>
    (once d.logLevel (Level.ofText value).toOption).map fun v => { d with logLevel := v }
  | _ => none

/-- Takes an option that has no value, if that is what the name names. -/
def takeFlag (d : Draft) : String → Option (Option Draft)
  | "quiet" => some (if d.quiet then none else some { d with quiet := true })
  | "list" => some (if d.list then none else some { d with list := true })
  | _ => none

/-- Takes the positional argument. -/
def takePositional (d : Draft) (value : String) : Option Draft :=
  (once d.revision (some value)).map fun v => { d with revision := v }

end Draft

/-- Takes arguments that are all positional. -/
def positionals (d : Draft) : List String → Option Draft
  | [] => some d
  | arg :: rest => (d.takePositional arg).bind fun d => positionals d rest

/-- Whether an argument is an option rather than a value. -/
def isOption (arg : String) : Bool := arg.startsWith "-" && arg != "-"

/-- The name in an argument after its two dashes, and the value after an equals sign, if any. -/
def splitName (arg : String) : String × Option String :=
  let cs := arg.toList.drop 2
  (String.ofList (cs.takeWhile fun c => c != '='),
    match cs.dropWhile fun c => c != '=' with
    | [] => none
    | _ :: value => some (String.ofList value))

/-- Takes arguments one after the other. -/
def takeAll (d : Draft) : List String → Option Draft
  | [] => some d
  | arg :: rest =>
    if arg = "--" then positionals d rest
    else if arg.startsWith "--" then
      match splitName arg with
      | (name, some value) => (d.take name value).bind fun d => takeAll d rest
      | (name, none) =>
        match d.takeFlag name with
        | some d => d.bind fun d => takeAll d rest
        | none =>
          match rest with
          | [] => none
          | value :: rest =>
            if isOption value then none
            else (d.take name value).bind fun d => takeAll d rest
    else if isOption arg then none
    else (d.takePositional arg).bind fun d => takeAll d rest

/-- The options of a command line. -/
def parse (args : List String) : Except UsageProblem Options :=
  match takeAll .empty args with
  | some d => .ok d.complete
  | none => .error {}

end Options

end Arcade
