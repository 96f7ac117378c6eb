/-
Command lines. `Invocation.ofArguments?` says what the arguments ask for:
a settings file, and a command with its arguments.
-/
import SeriesQuery.CommandLine.Grammar

namespace SeriesQuery.CommandLine

/-- What the commands about requests have in common. -/
structure RequestArguments where
  query : String
  kind : RequestKind
  /-- The bounds of the range, both or none. -/
  bounds : Option (Int64 × Int64)
  limit : Option Nat
  bindings : List String

inductive Command
  | tokens (query : String)
  | render (query : String) (json : Bool)
  | eval (query : String) (bindings : List String) (json : Bool)
  | compile (arguments : RequestArguments)
  /-- A request to a store that some series are written to first. -/
  | run (arguments : RequestArguments) (series : List String)
  | config (json : Bool)
  | validate
  | version

structure Invocation where
  settingsFile : Option String
  command : Command

/-! ## The levels -/

/-- Options of every level. -/
def commonOptions : List Opt :=
  [⟨"config", none, .value false Value.ofPath⟩, ⟨"verbose", some 'v', .flag⟩,
   ⟨"quiet", some 'q', .flag⟩, ⟨"help", some 'h', .help⟩]

def jsonOption : Opt := ⟨"json", none, .flag⟩

def bindOption : Opt := ⟨"bind", none, .value true Value.ofText⟩

def requestOptions : List Opt :=
  [⟨"request", none, .value false Value.ofKind⟩, ⟨"start", none, .value false Value.ofTime⟩,
   ⟨"end", none, .value false Value.ofTime⟩, ⟨"limit", none, .value false Value.ofCount⟩,
   bindOption]

def seriesOption : Opt := ⟨"series", none, .value true Value.ofText⟩

def commandNames : List String :=
  ["tokens", "render", "eval", "compile", "run", "config", "validate", "version"]

def root : Level :=
  ⟨⟨"version", some 'V', .version⟩ :: commonOptions, false, "help" :: commandNames⟩

/-- The level of a command: its options, and whether it has a query. -/
def levelOf (name : String) : Level :=
  let options :=
    match name with
    | "render" => [jsonOption]
    | "eval" => [bindOption, jsonOption]
    | "compile" => requestOptions
    | "run" => seriesOption :: requestOptions
    | "config" => [jsonOption]
    | _ => []
  ⟨options ++ commonOptions, ["tokens", "render", "eval", "compile", "run"].contains name, []⟩

/-! ## From readings to commands -/

def required {α : Type} (a : Option α) : Except UsageFault α :=
  match a with
  | some a => .ok a
  | none => .error .missingArgument

def texts (r : Reading) (name : String) : List String := (r.values name).filterMap Value.text?

/-- The bounds of a range: both or none. -/
def boundsOf (r : Reading) : Except UsageFault (Option (Int64 × Int64)) :=
  match (r.value? "start").bind Value.time?, (r.value? "end").bind Value.time? with
  | some start, some stop => .ok (some (start, stop))
  | none, none => .ok none
  | _, _ => .error .missingArgument

def requestArguments (r : Reading) : Except UsageFault RequestArguments := do
  let query ← required r.argument
  let kind ← required ((r.value? "request").bind Value.kind?)
  let bounds ← boundsOf r
  .ok ⟨query, kind, bounds, (r.value? "limit").bind Value.count?, texts r "bind"⟩

/-- The command of a name, given what was read on its level. -/
def commandOf (name : String) (r : Reading) : Except UsageFault Command :=
  match name with
  | "tokens" => do .ok (.tokens (← required r.argument))
  | "render" => do .ok (.render (← required r.argument) (r.has "json"))
  | "eval" => do .ok (.eval (← required r.argument) (texts r "bind") (r.has "json"))
  | "compile" => do .ok (.compile (← requestArguments r))
  | "run" => do .ok (.run (← requestArguments r) (texts r "series"))
  | "config" => .ok (.config (r.has "json"))
  | "validate" => .ok .validate
  | "version" => .ok .version
  | _ => .error .unknownCommand

/-- Help about a command: at most one is named, and there is one. -/
def helpAbout : List String → UsageFault
  | [] => .help
  | [name] => if ("help" :: commandNames).contains name then .help else .unknownCommand
  | _ => .unknownCommand

/-- The fault of a command line without a command. -/
def withoutCommand (r : Reading) : UsageFault :=
  if r.given.isEmpty then .noArguments else .missingCommand

/-- What a command line asks for. Options of every level may stand before the command and behind
it; a settings file given behind it counts. -/
def Invocation.ofArguments? (arguments : List String) : Except UsageFault Invocation := do
  let (above, command) ← readLevel root .empty arguments
  match command with
  | none =>
    let above ← above.resolve
    .error (withoutCommand above)
  | some ("help", rest) => .error (helpAbout rest)
  | some (name, rest) =>
    let (below, _) ← readLevel (levelOf name) .empty rest
    let below ← below.resolve
    let command ← commandOf name below
    let above ← above.resolve
    let file := (below.value? "config").or (above.value? "config")
    .ok ⟨file.bind Value.text?, command⟩

end SeriesQuery.CommandLine
