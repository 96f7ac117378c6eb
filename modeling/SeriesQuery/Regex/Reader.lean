/-
Reading a pattern. `parse` gives the tree of a text that is a pattern and
nothing for any other; what is wrong with the text is not told.

Flags in effect are part of the reader's state: they decide how the text is
read (`x`) and what it means (the others). A group restores them at its end.
Outside Unicode mode (`(?-u)`) a pattern may not describe part of a
character, so negated classes, the dot and bytes past ASCII are refused
there.
-/
import SeriesQuery.Regex.Node
import SeriesQuery.Regex.Property
import SeriesQuery.Text.Blank
import SeriesQuery.Decimal.Read

namespace SeriesQuery.Regex

/-- The flags in effect. Greed makes no difference to whether a text matches, so `U` is not kept. -/
structure Flags where
  caseless : Bool
  multiLine : Bool
  dotAll : Bool
  crlf : Bool
  unicode : Bool
  verbose : Bool
  deriving DecidableEq, Repr

def Flags.initial : Flags := ⟨false, false, false, false, true, false⟩

/-- The flags after a letter of a flag group is turned on or off. -/
def Flags.set (flags : Flags) (letter : Char) (on : Bool) : Flags :=
  match letter with
  | 'i' => { flags with caseless := on }
  | 'm' => { flags with multiLine := on }
  | 's' => { flags with dotAll := on }
  | 'R' => { flags with crlf := on }
  | 'u' => { flags with unicode := on }
  | 'x' => { flags with verbose := on }
  | _ => flags

/-- The text after blanks and comments. A comment starts with `#` and ends with its line. -/
def skipBlanks : Bool → List Char → List Char
  | _, [] => []
  | false, c :: cs =>
    if isBlank c then skipBlanks false cs
    else if c == '#' then skipBlanks true cs
    else c :: cs
  | true, c :: cs => if c == '\n' then skipBlanks false cs else skipBlanks true cs

/-- In verbose mode blanks and comments do not count. -/
def Flags.skip (flags : Flags) (cs : List Char) : List Char :=
  if flags.verbose then skipBlanks false cs else cs

/-- The text after a skip, none at the end of the pattern. -/
def Flags.more? (flags : Flags) (cs : List Char) : Option (List Char) :=
  match flags.skip cs with
  | [] => none
  | rest => some rest

/-! ## Escapes and other single items -/

inductive Perl
  | digit | space | word
  deriving DecidableEq, Repr

/-- The items that stand for one character, one class or one position. -/
inductive Item
  /-- A character; `byte` when it was given as two hexadecimal digits. -/
  | literal (c : Char) (byte : Bool)
  | dot
  | look (condition : Look)
  | perl (kind : Perl) (negated : Bool)
  | property (cls : Option CharClass) (negated : Bool)

/-- Characters that mean something in a pattern and may always be escaped. -/
def isMeta (c : Char) : Bool := "\\.+*?()|[]\x7b\x7d^$#&-~".toList.contains c

/-- Characters that may be escaped to stand for themselves: ASCII, no letter or digit, no angle. -/
def isEscapable (c : Char) : Bool :=
  isMeta c || (c.toNat < 128 && !c.isAlphanum && c != '<' && c != '>')

def isHexDigit (c : Char) : Bool :=
  c.isDigit || ('a' ≤ c && c ≤ 'f') || ('A' ≤ c && c ≤ 'F')

/-- The character with the code point the digits spell. -/
def charOfHex? (digits : List Char) : Option Char :=
  let code := Unicode.hexValue digits
  if h : code.isValidChar then some (Char.ofNatAux code h) else none

/-- Exactly `n` hexadecimal digits, the last one followed by what may be skipped. -/
def hexDigits? (flags : Flags) : Nat → List Char → Option (List Char × List Char)
  | 0, cs => some ([], cs)
  | n + 1, c :: cs => do
    let rest ← if n = 0 then some (flags.skip cs) else flags.more? cs
    if isHexDigit c then
      let (digits, rest) ← hexDigits? flags n rest
      some (c :: digits, rest)
    else none
  | _ + 1, [] => none

/-- The text up to a closing brace, skipping what may be skipped before each character. -/
def upToBrace? (flags : Flags) : Nat → List Char → Option (List Char × List Char)
  | 0, _ => none
  | fuel + 1, cs => do
    match ← flags.more? cs with
    | [] => none
    | c :: rest =>
      if c == '\x7d' then some ([], rest)
      else
        let (inner, rest) ← upToBrace? flags fuel rest
        some (c :: inner, rest)

/-- A character given by its code point: `digits` of them, or any number in braces. -/
def hexLiteral? (flags : Flags) (digits : Nat) (cs : List Char) : Option (Item × List Char) := do
  match ← flags.more? cs with
  | [] => none
  | c :: rest =>
    if c == '\x7b' then
      let (inner, rest) ← upToBrace? flags (rest.length + 1) rest
      if inner.isEmpty || !inner.all isHexDigit then none
      else
        let c ← charOfHex? inner
        some (.literal c false, flags.skip rest)
    else
      let (inner, rest) ← hexDigits? flags digits (c :: rest)
      let c ← charOfHex? inner
      some (.literal c (digits == 2), rest)

/-- The property after `\p` or `\P`. -/
def propertyItem? (flags : Flags) (negated : Bool) (cs : List Char) :
    Option (Item × List Char) := do
  match ← flags.more? cs with
  | [] => none
  | c :: rest =>
    if c == '\x7b' then
      let (inner, rest) ← upToBrace? flags (rest.length + 1) rest
      match described? inner with
      | some (cls, flip) => some (.property (some cls) (negated != flip), rest)
      | none => some (.property none negated, rest)
    else if c == '\\' then none
    else some (.property (property? (String.ofList [c])) negated, flags.skip rest)

def isBoundaryNameChar (c : Char) : Bool := c.isAlpha || c == '-'

/-- A name in braces, each character followed by what may be skipped. -/
def boundaryName (flags : Flags) : Nat → List Char → List Char × List Char
  | 0, cs => ([], cs)
  | _ + 1, [] => ([], [])
  | fuel + 1, c :: cs =>
    if isBoundaryNameChar c then
      let (name, rest) := boundaryName flags fuel (flags.skip cs)
      (c :: name, rest)
    else ([], c :: cs)

/-- The condition after `\b`, which a name in braces may refine. A brace that does not start a
name is left for a repetition. -/
def boundary? (flags : Flags) (cs : List Char) : Option (Item × List Char) :=
  let ascii := !flags.unicode
  match cs with
  | '\x7b' :: rest => do
    match ← flags.more? rest with
    | [] => none
    | c :: inner =>
      if !isBoundaryNameChar c then some (.look (.wordBoundary ascii), cs)
      else
        match boundaryName flags (inner.length + 1) (c :: inner) with
        | (name, '\x7d' :: rest) =>
          match String.ofList name with
          | "start" => some (.look (.wordStart ascii), rest)
          | "end" => some (.look (.wordEnd ascii), rest)
          | "start-half" => some (.look (.wordStartHalf ascii), rest)
          | "end-half" => some (.look (.wordEndHalf ascii), rest)
          | _ => none
        | _ => none
  | _ => some (.look (.wordBoundary ascii), cs)

/-- The item after a backslash. -/
def escape? (flags : Flags) : List Char → Option (Item × List Char)
  | [] => none
  | c :: cs =>
    let ascii := !flags.unicode
    match c with
    | 'x' => hexLiteral? flags 2 cs
    | 'u' => hexLiteral? flags 4 cs
    | 'U' => hexLiteral? flags 8 cs
    | 'p' => propertyItem? flags false cs
    | 'P' => propertyItem? flags true cs
    | 'd' => some (.perl .digit false, cs)
    | 'D' => some (.perl .digit true, cs)
    | 's' => some (.perl .space false, cs)
    | 'S' => some (.perl .space true, cs)
    | 'w' => some (.perl .word false, cs)
    | 'W' => some (.perl .word true, cs)
    | 'a' => some (.literal '\x07' false, cs)
    | 'f' => some (.literal '\x0c' false, cs)
    | 't' => some (.literal '\t' false, cs)
    | 'n' => some (.literal '\n' false, cs)
    | 'r' => some (.literal '\r' false, cs)
    | 'v' => some (.literal '\x0b' false, cs)
    | 'A' => some (.look .textStart, cs)
    | 'z' => some (.look .textEnd, cs)
    | 'b' => boundary? flags cs
    | 'B' => some (.look (.noWordBoundary ascii), cs)
    | '<' => some (.look (.wordStart ascii), cs)
    | '>' => some (.look (.wordEnd ascii), cs)
    | c => if isEscapable c then some (.literal c false, cs) else none

/-! ## What items mean -/

def Flags.fold (flags : Flags) (cls : CharClass) : CharClass :=
  if !flags.caseless then cls else if flags.unicode then .fold cls else .foldAscii cls

/-- The complement, which only Unicode mode has. -/
def Flags.negate? (flags : Flags) (negated : Bool) (cls : CharClass) : Option CharClass :=
  if !negated then some cls else if flags.unicode then some (.complement cls) else none

def posixClass (name : String) : CharClass := (posixClasses.lookup name).getD .nothing

def Flags.perl? (flags : Flags) (kind : Perl) (negated : Bool) : Option CharClass :=
  flags.negate? negated <|
    match kind, flags.unicode with
    | .digit, true => .digit
    | .space, true => .space
    | .word, true => .word
    | .digit, false => posixClass "digit"
    | .space, false => posixClass "space"
    | .word, false => posixClass "word"

def Flags.property? (flags : Flags) (cls : Option CharClass) (negated : Bool) : Option CharClass :=
  if flags.unicode then cls.bind fun cls => flags.negate? negated (flags.fold cls) else none

/-- A character outside brackets. -/
def Flags.literal? (flags : Flags) (c : Char) (byte : Bool) : Option CharClass :=
  if flags.unicode then some (flags.fold (.single c))
  else if byte && 0x7F < c.toNat then none
  else some (flags.fold (.single c))

/-- A character inside brackets. -/
def Flags.member? (flags : Flags) (c : Char) : Option Char :=
  if flags.unicode || c.toNat ≤ 0x7F then some c else none

def Flags.dot? (flags : Flags) : Option CharClass :=
  if !flags.unicode then none
  else if flags.dotAll then some .any
  else if flags.crlf then some (.complement (.union (.single '\r') (.single '\n')))
  else some (.complement (.single '\n'))

def Flags.start (flags : Flags) : Look :=
  if !flags.multiLine then .textStart else if flags.crlf then .lineStartCrlf else .lineStart

def Flags.stop (flags : Flags) : Look :=
  if !flags.multiLine then .textEnd else if flags.crlf then .lineEndCrlf else .lineEnd

/-- The pattern an item is by itself. -/
def Flags.node? (flags : Flags) : Item → Option Node
  | .literal c byte => (flags.literal? c byte).map .one
  | .dot => flags.dot?.map .one
  | .look condition => some (.look condition)
  | .perl kind negated => (flags.perl? kind negated).map .one
  | .property cls negated => (flags.property? cls negated).map .one

/-- The class an item is inside brackets. -/
def Flags.class? (flags : Flags) : Item → Option CharClass
  | .literal c _ => (flags.member? c).map .single
  | .perl kind negated => flags.perl? kind negated
  | .property cls negated => flags.property? cls negated
  | .dot => none
  | .look _ => none

/-! ## Bracketed classes -/

/-- The members read so far of a bracketed class, their number, and how deep they are nested. -/
structure Members where
  cls : CharClass
  count : Nat
  depth : Nat

def Members.none : Members := ⟨.nothing, 0, 0⟩

def Members.add (ms : Members) (cls : CharClass) (depth : Nat) : Members :=
  ⟨if ms.count = 0 then cls else .union ms.cls cls, ms.count + 1, max ms.depth depth⟩

/-- Members side by side count as one more level. -/
def Members.height (ms : Members) : Nat := if ms.count ≤ 1 then ms.depth else ms.depth + 1

inductive SetOp
  | intersection | difference | symmetricDifference
  deriving DecidableEq, Repr

def SetOp.apply (op : SetOp) (a b : CharClass) : CharClass :=
  match op with
  | intersection => .intersection a b
  | difference => .difference a b
  | symmetricDifference => .symmetricDifference a b

/-- What stands left of the operation being read, with its depth. -/
abbrev Pending := Option (CharClass × Nat × SetOp)

/-- The pending operation with its right side. -/
def finish (flags : Flags) (pending : Pending) (ms : Members) : CharClass × Nat :=
  match pending with
  | none => (ms.cls, ms.height)
  | some (left, depth, op) =>
    (op.apply (flags.fold left) (flags.fold ms.cls), max depth ms.height + 1)

/-- A class in brackets by name, the text being what follows the bracket. -/
def posix? (cs : List Char) : Option ((String × Bool) × List Char) :=
  match cs with
  | ':' :: rest =>
    let (negated, rest) := match rest with
      | '^' :: rest => (true, rest)
      | rest => (false, rest)
    let (name, rest) := rest.span (· != ':')
    match rest with
    | ':' :: ']' :: rest =>
      let name := String.ofList name
      if (posixClasses.lookup name).isSome then some ((name, negated), rest) else none
    | _ => none
  | _ => none

/-- The hyphens at the start of a class, which stand for themselves. -/
def leadingHyphens (flags : Flags) : Nat → Members → List Char → Option (Members × List Char)
  | 0, _, _ => none
  | fuel + 1, ms, '-' :: rest => do
    leadingHyphens flags fuel (ms.add (.single '-') 0) (← flags.more? rest)
  | _ + 1, ms, cs => some (ms, cs)

/-- What follows an opening bracket: whether the class is negated, and the hyphens or the bracket
that stand for themselves because they come first. -/
def openClass? (flags : Flags) (cs : List Char) : Option ((Bool × Members) × List Char) := do
  let cs ← flags.more? cs
  let (negated, cs) ← match cs with
    | '^' :: rest => (flags.more? rest).map (true, ·)
    | cs => some (false, cs)
  let (ms, cs) ← leadingHyphens flags (cs.length + 1) .none cs
  match cs with
  | ']' :: rest =>
    if ms.count = 0 then
      let rest ← flags.more? rest
      some ((negated, ms.add (.single ']') 0), rest)
    else some ((negated, ms), cs)
  | cs => some ((negated, ms), cs)

/-- The character after blanks and one comment sign, looked at to tell a range from a hyphen. -/
def peekPast : Bool → List Char → Option Char
  | _, [] => none
  | comment, c :: cs =>
    if isBlank c then peekPast comment cs
    else if !comment && c == '#' then peekPast true cs
    else some c

/-- The character that follows the hyphen of a possible range. -/
def Flags.peek (flags : Flags) (cs : List Char) : Option Char :=
  if flags.verbose then (peekPast false cs).or cs.head? else cs.head?

/-- One character or escape inside brackets. -/
def bracketItem? (flags : Flags) : List Char → Option (Item × List Char)
  | [] => none
  | '\\' :: cs => escape? flags cs
  | c :: cs => some (.literal c false, cs)

/-- One member of a class: an item, or a range between two characters. -/
def member? (flags : Flags) (cs : List Char) : Option (CharClass × List Char) := do
  let (first, rest) ← bracketItem? flags cs
  match ← flags.more? rest with
  | '-' :: after =>
    if flags.peek after == some ']' || flags.peek after == some '-' then
      (flags.class? first).map (·, '-' :: after)
    else
      let (second, rest) ← bracketItem? flags (← flags.more? after)
      match first, second with
      | .literal lo _, .literal hi _ =>
        let lo ← flags.member? lo
        let hi ← flags.member? hi
        if lo ≤ hi then some (.range lo.toNat hi.toNat, rest) else none
      | _, _ => none
  | rest => (flags.class? first).map (·, rest)

/-- A bracketed class from after its opening bracket, with its depth. -/
def brackets? (flags : Flags) : Nat → Bool → Pending → Members → List Char →
    Option ((CharClass × Nat) × List Char)
  | 0, _, _, _, _ => none
  | fuel + 1, negated, pending, ms, cs =>
    let operator (op : SetOp) (rest : List Char) :=
      let (left, depth) := finish flags pending ms
      brackets? flags fuel negated (some (left, depth, op)) .none rest
    match flags.skip cs with
    | [] => none
    | '[' :: rest =>
      match posix? rest with
      | some ((name, not), rest) => do
        let cls ← flags.negate? not (flags.fold (posixClass name))
        brackets? flags fuel negated pending (ms.add cls 0) rest
      | none => do
        let ((not, inner), rest) ← openClass? flags rest
        let ((cls, depth), rest) ← brackets? flags fuel not none inner rest
        brackets? flags fuel negated pending (ms.add cls (depth + 1)) rest
    | ']' :: rest => do
      let (cls, depth) := finish flags pending ms
      let cls ← flags.negate? negated (flags.fold cls)
      some ((cls, depth), rest)
    | '&' :: '&' :: rest => operator .intersection rest
    | '-' :: '-' :: rest => operator .difference rest
    | '~' :: '~' :: rest => operator .symmetricDifference rest
    | cs => do
      let (cls, rest) ← member? flags cs
      brackets? flags fuel negated pending (ms.add cls 0) rest

/-! ## Groups and repetitions -/

/-- A part of a pattern, with how deep it is nested. -/
structure Part where
  node : Node
  depth : Nat

/-- What stands in a sequence: a part, or a change of flags, which cannot be repeated. -/
abbrev Element := Option Part

/-- The sequence of the elements, given last first. -/
def sequence (elements : List Element) : Part :=
  match elements with
  | [] => ⟨.empty, 0⟩
  | [some part] => part
  | [none] => ⟨.empty, 0⟩
  | elements =>
    let parts := elements.filterMap id
    ⟨parts.foldl (fun node part => .seq part.node node) .empty,
     parts.foldl (fun depth part => max depth part.depth) 0 + 1⟩

/-- The choice between branches, given last first. -/
def choice (last : Part) (branches : List Part) : Part :=
  match branches with
  | [] => last
  | branches =>
    ⟨branches.foldl (fun node branch => .alt branch.node node) last.node,
     branches.foldl (fun depth branch => max depth branch.depth) last.depth + 1⟩

/-- The last element repeated; nothing when there is none or it is a change of flags. -/
def repeatLast (least : Nat) (most : Option Nat) : List Element → Option (List Element)
  | some part :: before => some (some ⟨.repeated part.node least most, part.depth + 1⟩ :: before)
  | _ => none

/-- Drops the mark of a repetition that takes as little as it can. -/
def dropLazy : List Char → List Char
  | '?' :: cs => cs
  | cs => cs

/-- The digits of a count, each followed by what may be skipped. -/
def countDigits (flags : Flags) : Nat → List Char → List Char × List Char
  | 0, cs => ([], cs)
  | _ + 1, [] => ([], [])
  | fuel + 1, c :: cs =>
    if c.isDigit then
      let (ds, rest) := countDigits flags fuel (flags.skip cs)
      (c :: ds, rest)
    else ([], c :: cs)

/-- The blanks after a count, which do not count in any mode. -/
def blanksAfter (flags : Flags) : Nat → List Char → List Char
  | 0, cs => cs
  | _ + 1, [] => []
  | fuel + 1, c :: cs => if isBlank c then blanksAfter flags fuel (flags.skip cs) else c :: cs

/-- A count of a repetition, none inside when no digit is there. -/
def count? (flags : Flags) (cs : List Char) : Option (Option Nat × List Char) :=
  let (ds, rest) := countDigits flags (cs.length + 1) (cs.dropWhile isBlank)
  let rest := blanksAfter flags (rest.length + 1) rest
  if ds.isEmpty then some (none, rest)
  else
    let n := Decimal.digitsValue ds
    if n < 4294967296 then some (some n, rest) else none

/-- The bounds of a counted repetition, from after its opening brace. -/
def bounds? (flags : Flags) (cs : List Char) : Option ((Nat × Option Nat) × List Char) := do
  let (first, rest) ← count? flags (← flags.more? cs)
  let (bounds, rest) ← match rest with
    | ',' :: rest => do
      match ← flags.more? rest with
      | '\x7d' :: rest => some ((first, none), '\x7d' :: rest)
      | rest =>
        let (second, rest) ← count? flags rest
        let second ← second
        some ((first, some second), rest)
    | rest => some ((first, first), rest)
  match bounds, rest with
  | (some least, most), '\x7d' :: rest =>
    if least ≤ most.getD least then some ((least, most), dropLazy (flags.skip rest)) else none
  | _, _ => none

/-- The letters of a flag group up to its end, with whether each is turned on. The flag says
whether a minus was read, and the letters read so far must not come again. -/
def flagLetters? : Bool → List Char → List Char → Option (List (Char × Bool) × List Char)
  | _, _, [] => none
  | negated, seen, c :: cs =>
    if c == ':' || c == ')' then
      if seen.head? == some '-' then none else some ([], c :: cs)
    else if c == '-' then
      if negated then none else flagLetters? true ('-' :: seen) cs
    else if "imsURux".toList.contains c && !seen.contains c then
      (flagLetters? negated (c :: seen) cs).map fun (letters, rest) =>
        ((c, !negated) :: letters, rest)
    else none

def Flags.setAll (flags : Flags) (letters : List (Char × Bool)) : Flags :=
  letters.foldl (fun flags (letter, on) => flags.set letter on) flags

def isNameStart (c : Char) : Bool := c == '_' || Unicode.isAlphabetic c.toNat

def isNameChar (c : Char) : Bool :=
  c == '_' || c == '.' || c == '[' || c == ']' || Unicode.isAlphanumeric c.toNat

/-- A group's name up to its closing angle. -/
def groupName? (cs : List Char) : Option (String × List Char) :=
  let (name, rest) := cs.span (· != '>')
  match name, rest with
  | c :: name, _ :: rest =>
    if isNameStart c && name.all isNameChar then some (String.ofList (c :: name), rest) else none
  | _, _ => none

/-- How a group opens: with flags for what follows, or with a body, which may have flags of its
own and a name. -/
inductive Opening
  | change (letters : List (Char × Bool))
  | body (letters : List (Char × Bool)) (name : Option String)

/-- The opening of a group, from after its parenthesis. Looking around is not supported. -/
def opening? (cs : List Char) : Option (Opening × List Char) :=
  match cs with
  | '?' :: '=' :: _ => none
  | '?' :: '!' :: _ => none
  | '?' :: '<' :: '=' :: _ => none
  | '?' :: '<' :: '!' :: _ => none
  | '?' :: 'P' :: '<' :: rest => (groupName? rest).map fun (name, rest) => (.body [] name, rest)
  | '?' :: '<' :: rest => (groupName? rest).map fun (name, rest) => (.body [] name, rest)
  | '?' :: rest => do
    let (letters, rest) ← flagLetters? false [] rest
    match rest with
    | ')' :: rest => if letters.isEmpty then none else some (.change letters, rest)
    | rest => some (.body letters none, rest.tail)
  | cs => some (.body [] none, cs)

/-! ## Whole patterns -/

/-- Where the reader is: the text left, the flags in effect, and the group names given. -/
structure State where
  rest : List Char
  flags : Flags
  names : List String

/-- One item outside brackets. -/
def item? (flags : Flags) : List Char → Option (Item × List Char)
  | [] => none
  | '\\' :: cs => escape? flags cs
  | '.' :: cs => some (.dot, cs)
  | '^' :: cs => some (.look flags.start, cs)
  | '$' :: cs => some (.look flags.stop, cs)
  | c :: cs => some (.literal c false, cs)

/-- Reads branches up to the end of the text or a closing parenthesis. The branches before and the
elements of the current one are given last first. -/
def read? : Nat → State → List Part → List Element → Option (Part × State)
  | 0, _, _, _ => none
  | fuel + 1, state, branches, elements =>
    let flags := state.flags
    let repetition (least : Nat) (most : Option Nat) (rest : List Char) := do
      let elements ← repeatLast least most elements
      read? fuel { state with rest } branches elements
    match flags.skip state.rest with
    | [] => some (choice (sequence elements) branches, { state with rest := [] })
    | ')' :: rest => some (choice (sequence elements) branches, { state with rest := ')' :: rest })
    | '|' :: rest => read? fuel { state with rest } (sequence elements :: branches) []
    | '(' :: rest => do
      match ← opening? (flags.skip rest) with
      | (.change letters, rest) =>
        read? fuel { state with rest, flags := flags.setAll letters } branches (none :: elements)
      | (.body letters name, rest) =>
        let names ← match name with
          | none => some state.names
          | some name => if state.names.contains name then none else some (name :: state.names)
        let (part, inner) ← read? fuel ⟨rest, flags.setAll letters, names⟩ [] []
        match inner.rest with
        | ')' :: rest =>
          read? fuel ⟨rest, flags, inner.names⟩ branches
            (some ⟨part.node, part.depth + 1⟩ :: elements)
        | _ => none
    | '[' :: rest => do
      let ((negated, members), rest) ← openClass? flags rest
      let ((cls, depth), rest) ← brackets? flags (rest.length + 1) negated none members rest
      read? fuel { state with rest } branches (some ⟨.one cls, depth + 1⟩ :: elements)
    | '?' :: rest => repetition 0 (some 1) (dropLazy rest)
    | '*' :: rest => repetition 0 none (dropLazy rest)
    | '+' :: rest => repetition 1 none (dropLazy rest)
    | '\x7b' :: rest => do
      let ((least, most), rest) ← bounds? flags rest
      repetition least most rest
    | cs => do
      let (item, rest) ← item? flags cs
      let node ← flags.node? item
      read? fuel { state with rest } branches (some ⟨node, 0⟩ :: elements)

/-- How deep a pattern may be nested. -/
def maxDepth : Nat := 250

/-- The pattern a text is, if it is one. -/
def parse (text : String) : Option Node := do
  let chars := text.toList
  let (part, state) ← read? (chars.length + 1) ⟨chars, .initial, []⟩ [] []
  if state.rest.isEmpty && part.depth ≤ maxDepth then some part.node else none

end SeriesQuery.Regex
