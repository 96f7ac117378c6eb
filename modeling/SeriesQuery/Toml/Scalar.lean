/-
The scalars of TOML: strings in quotes, numbers, truth values, dates and
times. Each reader gives a value and the text after it, or nothing. Dates
are kept as texts, in a record of their own.
-/
import SeriesQuery.Decimal.Read
import SeriesQuery.Json

namespace SeriesQuery.Toml

/-- What a comment or a string may hold: no control character but the tab. -/
def isPlain (c : Char) : Bool := c = '\t' || (32 ≤ c.toNat && c.toNat ≠ 127)

def isBlank (c : Char) : Bool := c = ' ' || c = '\t'

def blanks (cs : List Char) : List Char := cs.dropWhile isBlank

/-- The text after a line end. -/
def newline? : List Char → Option (List Char)
  | '\n' :: cs => some cs
  | '\r' :: '\n' :: cs => some cs
  | _ => none

/-! ## Strings -/

def isHexDigit (c : Char) : Bool :=
  c.isDigit || ('a' ≤ c && c ≤ 'f') || ('A' ≤ c && c ≤ 'F')

def isOctalDigit (c : Char) : Bool := '0' ≤ c && c ≤ '7'

def isBinaryDigit (c : Char) : Bool := c = '0' || c = '1'

def digitValue (c : Char) : Nat :=
  if c.isDigit then c.toNat - 48 else if 'a' ≤ c then c.toNat - 87 else c.toNat - 55

/-- The number the digits spell in some base. -/
def numberIn (base : Nat) (ds : List Char) : Nat := ds.foldl (fun n c => base * n + digitValue c) 0

/-- A character by its code point, written in exactly `n` hexadecimal digits. -/
def code? (n : Nat) (cs : List Char) : Option (Char × List Char) :=
  let ds := cs.take n
  let code := numberIn 16 ds
  if ds.length = n ∧ ds.all isHexDigit ∧ Nat.isValidChar code then some (Char.ofNat code, cs.drop n)
  else none

/-- The character an escape stands for, given the text after its backslash. -/
def escape? : List Char → Option (Char × List Char)
  | 'b' :: cs => some ('\x08', cs)
  | 't' :: cs => some ('\t', cs)
  | 'n' :: cs => some ('\n', cs)
  | 'f' :: cs => some ('\x0c', cs)
  | 'r' :: cs => some ('\r', cs)
  | '"' :: cs => some ('"', cs)
  | '\\' :: cs => some ('\\', cs)
  | 'u' :: cs => code? 4 cs
  | 'U' :: cs => code? 8 cs
  | _ => none

/-- A string on one line, from behind its opening quote. -/
def basic : Nat → List Char → Option (List Char × List Char)
  | 0, _ => none
  | _, [] => none
  | _ + 1, '"' :: cs => some ([], cs)
  | fuel + 1, '\\' :: cs => do
    let (c, cs) ← escape? cs
    let (s, cs) ← basic fuel cs
    some (c :: s, cs)
  | fuel + 1, c :: cs => do
    if !isPlain c then none
    let (s, cs) ← basic fuel cs
    some (c :: s, cs)

/-- A string without escapes on one line, from behind its opening quote. -/
def raw (cs : List Char) : Option (List Char × List Char) :=
  let (s, rest) := cs.span fun c => isPlain c && c ≠ '\''
  match rest with
  | '\'' :: cs => some (s, cs)
  | _ => none

/-- Blanks and line ends, all of them. -/
def allBlanks : Nat → List Char → List Char
  | 0, cs => cs
  | fuel + 1, cs =>
    match newline? (blanks cs) with
    | some cs => allBlanks fuel cs
    | none => blanks cs

/-- A string over several lines, from behind its opening quotes. Three quotes close it, and up to
two before them belong to it. A backslash at the end of a line takes the line end and the blanks
after it away. -/
def lines (quote : Char) (escapes : Bool) : Nat → List Char → Option (List Char × List Char)
  | 0, _ => none
  | fuel + 1, cs =>
    let (quotes, rest) := cs.span (· = quote)
    if 3 ≤ quotes.length then
      if quotes.length ≤ 5 then some (quotes.drop 3, rest) else none
    else if !quotes.isEmpty then do
      let (s, cs) ← lines quote escapes fuel rest
      some (quotes ++ s, cs)
    else
      match newline? cs with
      | some cs => do
        let (s, cs) ← lines quote escapes fuel cs
        some ('\n' :: s, cs)
      | none =>
        match cs with
        | [] => none
        | c :: cs =>
          if escapes && c = '\\' then
            match newline? (blanks cs) with
            | some cs => lines quote escapes fuel (allBlanks cs.length cs)
            | none => do
              let (c, cs) ← escape? cs
              let (s, cs) ← lines quote escapes fuel cs
              some (c :: s, cs)
          else do
            if !isPlain c then none
            let (s, cs) ← lines quote escapes fuel cs
            some (c :: s, cs)

/-- A string over several lines; a line end right behind the opening quotes is not part of it. -/
def block (quote : Char) (escapes : Bool) (cs : List Char) : Option (List Char × List Char) :=
  let cs := (newline? cs).getD cs
  lines quote escapes (cs.length + 1) cs

/-- A string on one line, as keys and values may be written. -/
def line? : List Char → Option (String × List Char)
  | '"' :: cs => (basic (cs.length + 1) cs).map fun (s, cs) => (String.ofList s, cs)
  | '\'' :: cs => (raw cs).map fun (s, cs) => (String.ofList s, cs)
  | _ => none

def string? : List Char → Option (String × List Char)
  | '"' :: '"' :: '"' :: cs => (block '"' true cs).map fun (s, cs) => (String.ofList s, cs)
  | '\'' :: '\'' :: '\'' :: cs => (block '\'' false cs).map fun (s, cs) => (String.ofList s, cs)
  | cs => line? cs

/-! ## Numbers -/

/-- The digits behind a digit; an underscore may stand between two. -/
def moreDigits (isDigit : Char → Bool) : List Char → List Char × List Char
  | '_' :: c :: cs =>
    if isDigit c then
      let (ds, rest) := moreDigits isDigit cs
      (c :: ds, rest)
    else ([], '_' :: c :: cs)
  | c :: cs =>
    if isDigit c then
      let (ds, rest) := moreDigits isDigit cs
      (c :: ds, rest)
    else ([], c :: cs)
  | [] => ([], [])

def digits? (isDigit : Char → Bool) : List Char → Option (List Char × List Char)
  | c :: cs =>
    if isDigit c then
      let (ds, rest) := moreDigits isDigit cs
      some (c :: ds, rest)
    else none
  | [] => none

/-- Digits that do not start with a zero, or a zero alone. -/
def whole? : List Char → Option (List Char × List Char)
  | '0' :: cs => some (['0'], cs)
  | cs => digits? Char.isDigit cs

/-- The digits behind a point. -/
def fraction? : List Char → Option (Option (List Char) × List Char)
  | '.' :: cs => (digits? Char.isDigit cs).map fun (ds, cs) => (some ds, cs)
  | cs => some (none, cs)

/-- The value of an exponent. -/
def exponent? : List Char → Option (Option Int × List Char)
  | c :: cs =>
    if c = 'e' || c = 'E' then
      let (negative, cs) := Decimal.splitSign cs
      (digits? Char.isDigit cs).map fun (ds, cs) =>
        let n : Int := Decimal.digitsValue ds
        (some (if negative then -n else n), cs)
    else some (none, c :: cs)
  | [] => some (none, [])

def inBase? (base : Nat) (isDigit : Char → Bool) (cs : List Char) : Option (Json × List Char) := do
  let (ds, cs) ← digits? isDigit cs
  let n ← int64OfInt? (numberIn base ds)
  some (.integer n.toInt, cs)

/-- A decimal number without its sign: a double when it has a point or an exponent. -/
def decimal? (negative : Bool) (cs : List Char) : Option (Json × List Char) := do
  let (whole, cs) ← whole? cs
  let (fraction, cs) ← fraction? cs
  let (exponent, cs) ← exponent? cs
  if fraction.isNone && exponent.isNone then
    let size : Int := Decimal.digitsValue whole
    let n ← int64OfInt? (if negative then -size else size)
    some (.integer n.toInt, cs)
  else
    let x := Decimal.ofParts whole (fraction.getD []) (exponent.getD 0)
    if x.isInf then none else some (.double (if negative then -x else x), cs)

def number? : List Char → Option (Json × List Char)
  | '0' :: 'x' :: cs => inBase? 16 isHexDigit cs
  | '0' :: 'o' :: cs => inBase? 8 isOctalDigit cs
  | '0' :: 'b' :: cs => inBase? 2 isBinaryDigit cs
  | cs =>
    let (negative, cs) := Decimal.splitSign cs
    match cs with
    | 'i' :: 'n' :: 'f' :: cs => some (.double (if negative then -1.0 / 0.0 else 1.0 / 0.0), cs)
    | 'n' :: 'a' :: 'n' :: cs => some (.double (0.0 / 0.0), cs)
    | cs => decimal? negative cs

/-! ## Dates and times -/

/-- A number of exactly `n` digits between two bounds. -/
def field? (n lo hi : Nat) (cs : List Char) : Option (Nat × List Char) :=
  let ds := cs.take n
  let value := Decimal.digitsValue ds
  if ds.length = n ∧ ds.all Char.isDigit ∧ lo ≤ value ∧ value ≤ hi then some (value, cs.drop n)
  else none

def expect? (c : Char) : List Char → Option (List Char)
  | d :: cs => if c = d then some cs else none
  | [] => none

def daysOf (year month : Nat) : Nat :=
  if month = 2 then
    if (year % 4 = 0 ∧ year % 100 ≠ 0) ∨ year % 400 = 0 then 29 else 28
  else if month = 4 ∨ month = 6 ∨ month = 9 ∨ month = 11 then 30
  else 31

/-- The text after a date. -/
def date? (cs : List Char) : Option (List Char) := do
  let (year, cs) ← field? 4 0 9999 cs
  let cs ← expect? '-' cs
  let (month, cs) ← field? 2 1 12 cs
  let cs ← expect? '-' cs
  let (_, cs) ← field? 2 1 (daysOf year month) cs
  some cs

/-- The text after a time of day. -/
def time? (cs : List Char) : Option (List Char) := do
  let (_, cs) ← field? 2 0 23 cs
  let cs ← expect? ':' cs
  let (_, cs) ← field? 2 0 59 cs
  let cs ← expect? ':' cs
  let (_, cs) ← field? 2 0 60 cs
  match cs with
  | '.' :: d :: cs => if d.isDigit then some (cs.dropWhile Char.isDigit) else none
  | '.' :: [] => none
  | cs => some cs

/-- The text after a distance from universal time, if there is one. -/
def offset? : List Char → Option (List Char)
  | [] => some []
  | c :: cs =>
    if c = 'Z' || c = 'z' then some cs
    else if c = '+' || c = '-' then do
      let (_, cs) ← field? 2 0 23 cs
      let cs ← expect? ':' cs
      let (_, cs) ← field? 2 0 59 cs
      some cs
    else some (c :: cs)

/-- The text after a date that a time may follow. -/
def dateTime? (cs : List Char) : Option (List Char) := do
  let cs ← date? cs
  match cs with
  | [] => some []
  | c :: rest =>
    if c = 'T' || c = 't' || c = ' ' then
      match time? rest with
      | some rest => offset? rest
      | none => some cs
    else some cs

/-- A date, a time, or both. -/
def moment? (cs : List Char) : Option (Json × List Char) :=
  let shown (rest : List Char) : Json × List Char :=
    (.object [("datetime", .string (String.ofList (cs.take (cs.length - rest.length))))], rest)
  ((dateTime? cs).or (time? cs)).map shown

def scalar? (cs : List Char) : Option (Json × List Char) :=
  match cs with
  | 't' :: 'r' :: 'u' :: 'e' :: cs => some (.boolean true, cs)
  | 'f' :: 'a' :: 'l' :: 's' :: 'e' :: cs => some (.boolean false, cs)
  | cs => ((string? cs).map fun (s, cs) => (.string s, cs)).or ((moment? cs).or (number? cs))

end SeriesQuery.Toml
