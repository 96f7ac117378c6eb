/-
How arguments are divided among a command's options, its one positional
argument and a command below it. A value is taken for its option only when
the next option or the end is reached, so the first fault found is the one
reported.
-/
import SeriesQuery.Decimal.Read
import SeriesQuery.Request

namespace SeriesQuery.CommandLine

/-- Why a command line is not carried out; asking for help or the version is one way. -/
inductive UsageFault
  | unknownArgument
  | unknownCommand
  | missingCommand
  | noArguments
  | missingArgument
  /-- An option without its value. -/
  | missingValue
  /-- A value that is not of the option's kind. -/
  | invalidValue
  /-- An option given twice. -/
  | repeated
  /-- A value for an option that takes none. -/
  | unneededValue
  | help
  | version
  deriving DecidableEq, Repr

/-- The value of an option. -/
inductive Value
  | text (s : String)
  | time (n : Int64)
  | count (n : Nat)
  | kind (k : RequestKind)

namespace Value

def text? : Value → Option String
  | text s => some s
  | _ => none

def time? : Value → Option Int64
  | time n => some n
  | _ => none

def count? : Value → Option Nat
  | count n => some n
  | _ => none

def kind? : Value → Option RequestKind
  | kind k => some k
  | _ => none

def ofText (s : String) : Except UsageFault Value := .ok (text s)

/-- A path is not empty. -/
def ofPath (s : String) : Except UsageFault Value :=
  if s.isEmpty then .error .missingValue else .ok (text s)

def orInvalid (v : Option Value) : Except UsageFault Value :=
  match v with
  | some v => .ok v
  | none => .error .invalidValue

def ofTime (s : String) : Except UsageFault Value := orInvalid ((Decimal.int64? s.toList).map time)

def ofCount (s : String) : Except UsageFault Value :=
  orInvalid ((Decimal.count? s.toList).map count)

def ofKind (s : String) : Except UsageFault Value := orInvalid ((RequestKind.ofName? s).map kind)

end Value

/-- What an option does. -/
inductive Action
  | help
  | version
  | flag
  /-- Takes a value, once or any number of times. -/
  | value (many : Bool) (read : String → Except UsageFault Value)

structure Opt where
  long : String
  short : Option Char
  action : Action

/-- What may stand on one level of the command line. -/
structure Level where
  options : List Opt
  /-- Whether there is a positional argument. -/
  positional : Bool
  /-- The commands below. -/
  commands : List String

/-- What has been read on a level. -/
structure Reading where
  /-- The options given, by their long names, and their values; a flag has an empty text. -/
  given : List (String × Value)
  argument : Option String
  /-- An option that takes a value, and its value as far as it was given. -/
  pending : Option (Opt × Option String)
  /-- Whether two dashes have ended the options. -/
  ended : Bool

namespace Reading

def empty : Reading := ⟨[], none, none, false⟩

def has (r : Reading) (name : String) : Bool := r.given.any fun g => g.1 == name

/-- The first value of an option. -/
def value? (r : Reading) (name : String) : Option Value := r.given.lookup name

/-- All values of an option. -/
def values (r : Reading) (name : String) : List Value :=
  (r.given.filter fun g => g.1 == name).map (·.2)

def give (r : Reading) (name : String) (v : Value) : Reading :=
  { r with given := r.given ++ [(name, v)] }

/-- Takes the value of the pending option. -/
def resolve (r : Reading) : Except UsageFault Reading :=
  match r.pending with
  | none => .ok r
  | some (_, none) => .error .missingValue
  | some (o, some s) =>
    match o.action with
    | .value many read =>
      if !many && r.has o.long then .error .repeated
      else do
        let v ← read s
        .ok ({ r with pending := none }.give o.long v)
    | _ => .ok { r with pending := none }

/-- Whether the next argument is the value of the pending option. -/
def awaits (r : Reading) : Bool :=
  match r.pending with
  | some (_, none) => true
  | _ => false

/-- An option without a value of its own in the argument. -/
def apply (r : Reading) (o : Opt) : Except UsageFault Reading := do
  let r ← r.resolve
  match o.action with
  | .help => .error .help
  | .version => .error .version
  | .flag => if r.has o.long then .error .repeated else .ok (r.give o.long (.text ""))
  | .value _ _ => .ok { r with pending := some (o, none) }

/-- An option with a value behind an equals sign. -/
def applyWith (r : Reading) (o : Opt) (s : String) : Except UsageFault Reading :=
  match o.action with
  | .value _ _ => do
    let r ← r.resolve
    resolve { r with pending := some (o, some s) }
  | _ => .error .unneededValue

/-- An option by its long name. -/
def long (level : Level) (r : Reading) (name : String) (attached : Option String) :
    Except UsageFault Reading :=
  match level.options.find? fun o => o.long == name with
  | none => .error .unknownArgument
  | some o =>
    match attached with
    | some s => r.applyWith o s
    | none => r.apply o

/-- Options by their letters, one after the other. -/
def letters (level : Level) (r : Reading) : List Char → Except UsageFault Reading
  | [] => .ok r
  | c :: cs =>
    match level.options.find? fun o => o.short == some c with
    | none => .error .unknownArgument
    | some o => do
      let r ← r.apply o
      letters level r cs

/-- An argument that is neither an option nor the value of one. -/
def word (level : Level) (r : Reading) (s : String) : Except UsageFault Reading :=
  if level.positional && r.argument.isNone then do
    let r ← r.resolve
    .ok { r with argument := some s }
  else if level.commands.isEmpty || (r.ended && level.commands.contains s) then
    .error .unknownArgument
  else .error .unknownCommand

end Reading

/-- How an argument looks. -/
inductive Shape
  | dashes
  | long (name : String) (attached : Option String)
  | letters (cs : List Char)
  | word

/-- The text before an equals sign, and the text behind it if there is one. -/
def splitEquals (cs : List Char) : String × Option String :=
  match cs.span (· ≠ '=') with
  | (name, _ :: value) => (String.ofList name, some (String.ofList value))
  | (name, []) => (String.ofList name, none)

def shape (s : String) : Shape :=
  match s.toList with
  | ['-', '-'] => .dashes
  | '-' :: '-' :: cs =>
    let (name, attached) := splitEquals cs
    .long name attached
  | ['-'] => .word
  | '-' :: cs => .letters cs
  | _ => .word

/-- What an argument adds to a level's reading, as long as it does not name a command below. -/
def readOne (level : Level) (r : Reading) (s : String) : Except UsageFault Reading :=
  if r.ended then r.word level s
  else
    match shape s with
    | .dashes => .ok { r with ended := true }
    | .long name attached => r.long level name attached
    | .letters cs => r.letters level cs
    | .word =>
      match r.pending with
      | some (o, none) => .ok { r with pending := some (o, some s) }
      | _ => r.word level s

/-- Reads the arguments of a level up to their end, or to the command below and its arguments. -/
def readLevel (level : Level) (r : Reading) :
    List String → Except UsageFault (Reading × Option (String × List String))
  | [] => .ok (r, none)
  | s :: rest =>
    if !r.ended && !r.awaits && level.commands.contains s then .ok (r, some (s, rest))
    else do
      let r ← readOne level r s
      readLevel level r rest

end SeriesQuery.CommandLine
