/-
Carrying out commands. The settings are loaded first, whatever the command;
`Invocation.run` gives the text to print, or what went wrong. Bindings are
evaluated in the order given, each in the scope of those before it.
-/
import SeriesQuery.CommandLine.Invocation
import SeriesQuery.Expr.Request
import SeriesQuery.Json.Pretty
import SeriesQuery.Settings
import SeriesQuery.Store

namespace SeriesQuery.CommandLine

variable [PatternEngine] [Digest]

/-- Why a command failed. -/
inductive CommandFault
  | settings
  | unusable (fault : Settings.Fault)
  | binding (text : String)
  | bindingName (name : String)
  /-- A failure of a query. -/
  | query (source : String) (failure : Failure)
  | range (start stop : Int64)
  /-- A series that cannot be written first. -/
  | series (text : String) (fault : SeriesFault)
  | request (fault : SeriesFault)

namespace CommandFault

def message : CommandFault → String
  | settings => "Failed to load configuration"
  | unusable fault => fault.message
  | binding text => s!"Invalid binding '{text}', expected NAME=EXPR"
  | bindingName name => s!"Invalid binding name '{name}'"
  | query source failure => failure.report source
  | range start stop => TimeRange.invalidRange start stop
  | series text _ => s!"Failed to write series {text}"
  | request _ => "Metadata request failed"

/-- The messages of the faults behind this one. -/
def causes : CommandFault → List String
  | series _ fault => [fault.message]
  | request fault => [fault.message]
  | _ => []

end CommandFault

def inQuery {α : Type} (source : String) (r : Except Failure α) : Except CommandFault α :=
  r.mapError (.query source)

/-- The name and the expression that a binding's text gives. -/
def splitBinding (text : String) : Except CommandFault (String × String) :=
  match splitEquals text.toList with
  | (_, none) => .error (.binding text)
  | (name, some source) =>
    if isName (trim name) then .ok (trim name, source) else .error (.bindingName (trim name))

def bindNext (limits : Limits) (scope : Scope) (text : String) : Except CommandFault Scope := do
  let (name, source) ← splitBinding text
  let v ← inQuery source do
    let e ← Expr.parse limits source
    e.eval scope
  .ok (scope.define name (.value v))

/-- The scope of some bindings. -/
def scopeOf (limits : Limits) (bindings : List String) : Except CommandFault Scope :=
  bindings.foldlM (bindNext limits) .empty

/-- One token a line: its place, then the token. -/
def tokenLines (source : String) : Except CommandFault String := do
  let tokens ← inQuery source ((tokenize source).mapM id)
  .ok (String.intercalate "\n" (tokens.map fun t => t.span.text ++ "\t" ++ t.kind.describe))

def render (s : Settings) (source : String) (json : Bool) : Except CommandFault String := do
  let e ← inQuery source (Expr.parse s.limits source)
  .ok (if json then e.toJson.pretty else e.text)

def eval (s : Settings) (source : String) (bindings : List String) (json : Bool) :
    Except CommandFault String := do
  let scope ← scopeOf s.limits bindings
  let v ← inQuery source do
    let e ← Expr.parse s.limits source
    e.eval scope
  .ok (if json then v.toJson.pretty else v.text)

/-- The range asked for, or the one that ends now. -/
def rangeOf (s : Settings) (now : Int64) (a : RequestArguments) : Except CommandFault TimeRange :=
  match a.bounds with
  | none => .ok (.endingAt now (TimeRange.clamp s.lookback.milliseconds))
  | some (start, stop) =>
    match TimeRange.ofBounds? start stop with
    | some range => .ok range
    | none => .error (.range start stop)

/-- The request a query describes. -/
def requestOf (s : Settings) (a : RequestArguments) (scope : Scope) (range : TimeRange) :
    Except CommandFault Request :=
  inQuery a.query do
    let e ← Expr.parse s.limits a.query
    e.request scope a.kind range (a.limit.or s.defaultLimit)

def compile (s : Settings) (now : Int64) (a : RequestArguments) : Except CommandFault String := do
  let scope ← scopeOf s.limits a.bindings
  let range ← rangeOf s now a
  let request ← requestOf s a scope range
  .ok request.toJson.pretty

/-- The store with the series of one selector written to it. -/
def writeFirst (s : Settings) (scope : Scope) (range : TimeRange) (store : Store) (text : String) :
    Except CommandFault Store := do
  let series ← inQuery text do
    let e ← Expr.parse s.limits text
    e.series scope
  match store.perform (.write series range) with
  | (store, .ok _) => .ok store
  | (_, .error fault) => .error (.series text fault)

def run (s : Settings) (now : Int64) (a : RequestArguments) (series : List String) :
    Except CommandFault String := do
  let scope ← scopeOf s.limits a.bindings
  let range ← rangeOf s now a
  let store ← series.foldlM (writeFirst s scope range) Store.empty
  let request ← requestOf s a scope range
  match store.perform request with
  | (_, .ok response) => .ok response.toJson.pretty
  | (_, .error fault) => .error (.request fault)

def versionText : String := "common 0.1.0 (1.85.0)"

/-- What a command prints, as lines. -/
def perform (s : Settings) (now : Int64) : Command → Except CommandFault String
  | .tokens query => do .ok ((← tokenLines query) ++ "\n")
  | .render query json => do .ok ((← render s query json) ++ "\n")
  | .eval query bindings json => do .ok ((← eval s query bindings json) ++ "\n")
  | .compile a => do .ok ((← compile s now a) ++ "\n")
  | .run a series => do .ok ((← run s now a series) ++ "\n")
  | .config json => .ok ((if json then s.toJson.pretty else s.text) ++ "\n")
  | .validate =>
    match s.fault? with
    | some fault => .error (.unusable fault)
    | none => .ok ""
  | .version => .ok (versionText ++ "\n")

/-- Carries out a command, given the text of the settings file if there is one, the environment,
and the time in milliseconds. -/
def Invocation.run (i : Invocation) (file : Option String) (environment : List (String × String))
    (now : Int64) : Except CommandFault String :=
  match Settings.load? file environment with
  | none => .error .settings
  | some s => perform s now i.command

end SeriesQuery.CommandLine
