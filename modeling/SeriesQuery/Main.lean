/-
The program. It reads the arguments, the settings file, the environment and
the clock, and prints what the command line comes to.
-/
import SeriesQuery.CommandLine.Perform
import SeriesQuery.Regex.Engine
import SeriesQuery.Sha256
import Std.Time.DateTime.Timestamp

open SeriesQuery CommandLine
open scoped SeriesQuery.Regex SeriesQuery.Sha256

namespace SeriesQuery.Main

def helpText : String :=
  String.intercalate "\n"
    ["Parse, evaluate and compile series metadata queries",
     "",
     "Usage: seriesql [OPTIONS] <COMMAND>",
     "",
     "Commands: tokens, render, eval, compile, run, config, validate, version, help",
     "Options: --config <CONFIG>, -v, --verbose, -q, --quiet, -h, --help, -V, --version"]

def usageMessage : UsageFault → String
  | .unknownArgument => "unexpected argument"
  | .unknownCommand => "unrecognized subcommand"
  | .missingCommand => "a subcommand is required but one was not provided"
  | .missingArgument => "a required argument was not provided"
  | .missingValue => "a value is required for an option but none was supplied"
  | .invalidValue => "an option has an invalid value"
  | .repeated => "an option cannot be used multiple times"
  | .unneededValue => "an option takes no value"
  | .noArguments | .help | .version => helpText

/-- Prints what a refused command line asks for, or says why it is refused. -/
def reportUsage (f : UsageFault) : IO UInt32 := do
  match f with
  | .help => IO.println helpText; return 0
  | .version => IO.println "seriesql 0.1.0"; return 0
  | .noArguments => IO.eprintln helpText; return 2
  | f => IO.eprintln ("error: " ++ usageMessage f); return 2

/-- The text of the first of some files that can be read. -/
def firstText? : List String → IO (Option String)
  | [] => return none
  | path :: paths => do
    try
      return some (← IO.FS.readFile path)
    catch _ => firstText? paths

/-- Where a settings file is looked for: in the directory at hand and those above it. -/
def places (directory path : String) : List String :=
  if path.startsWith "/" then [path]
  else
    let levels := directory.toList.count '/'
    (List.range (levels + 1)).map fun n => String.join (List.replicate n "../") ++ path

/-- The variables of the environment. -/
def environment : IO (List (String × String)) := do
  let text := (← firstText? ["/proc/self/environ"]).getD ""
  return (text.splitOn "\x00").filterMap fun entry =>
    match splitEquals entry.toList with
    | (name, some value) => some (name, value)
    | (_, none) => none

/-- The time in milliseconds. -/
def now : IO Int64 := do
  let time ← Std.Time.Timestamp.now
  return TimeRange.clamp time.toMillisecondsSinceUnixEpoch.val

def report (fault : CommandFault) : IO UInt32 := do
  IO.eprintln ("Error: " ++ fault.message)
  for cause in fault.causes do
    IO.eprintln ("  caused by: " ++ cause)
  return 1

end SeriesQuery.Main

open SeriesQuery.Main in
def main (arguments : List String) : IO UInt32 := do
  match Invocation.ofArguments? arguments with
  | .error fault => reportUsage fault
  | .ok invocation =>
    let directory := toString (← IO.currentDir)
    let file ← firstText? (places directory (invocation.settingsFile.getD "seriesql.toml"))
    match invocation.run file (← environment) (← now) with
    | .ok printed => IO.print printed; return 0
    | .error fault => report fault
