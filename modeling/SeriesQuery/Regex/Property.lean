/-
Named character properties, as in `\p{Greek}`. Names are matched loosely:
case, blanks, hyphens and underscores do not count, and neither does a
leading `is`.
-/
import SeriesQuery.Regex.Break
import SeriesQuery.Unicode.Version

namespace SeriesQuery.Regex

/-- The characters of a property name that count. -/
def looseChars (cs : List Char) : List Char :=
  (cs.filter fun c => c.toNat < 128 && c != ' ' && c != '_' && c != '-').map Char.toLower

/-- A property name as the tables spell it. `isc` is a name of its own. -/
def looseName (name : String) : String :=
  match name.toList with
  | i :: s :: rest =>
    if i.toLower == 'i' && s.toLower == 's' then
      let tail := looseChars rest
      if tail = ['c'] then "isc" else String.ofList tail
    else String.ofList (looseChars (i :: s :: rest))
  | cs => String.ofList (looseChars cs)

open Unicode Category in
/-- The names of the general categories and of their groups. Surrogates are no characters, so their
category has no name. -/
def categoryNames : List (List String × List Category) :=
  [(["c", "other"], others), (["cc", "control", "cntrl"], [cc]), (["cf", "format"], [cf]),
   (["cn", "unassigned"], [cn]), (["co", "privateuse"], [co]),
   (["l", "letter"], letters), (["lc", "casedletter"], [lu, ll, lt]),
   (["ll", "lowercaseletter"], [ll]), (["lm", "modifierletter"], [lm]),
   (["lo", "otherletter"], [lo]), (["lt", "titlecaseletter"], [lt]),
   (["lu", "uppercaseletter"], [lu]), (["m", "mark", "combiningmark"], marks),
   (["mc", "spacingmark"], [mc]), (["me", "enclosingmark"], [me]),
   (["mn", "nonspacingmark"], [mn]), (["n", "number"], numbers),
   (["nd", "decimalnumber", "digit"], [nd]), (["nl", "letternumber"], [nl]),
   (["no", "othernumber"], [no]), (["p", "punctuation", "punct"], punctuation),
   (["pc", "connectorpunctuation"], [pc]), (["pd", "dashpunctuation"], [pd]),
   (["pe", "closepunctuation"], [pe]), (["pf", "finalpunctuation"], [pf]),
   (["pi", "initialpunctuation"], [pi]), (["po", "otherpunctuation"], [po]),
   (["ps", "openpunctuation"], [ps]), (["s", "symbol"], symbols), (["sc", "currencysymbol"], [sc]),
   (["sk", "modifiersymbol"], [sk]), (["sm", "mathsymbol"], [sm]), (["so", "othersymbol"], [so]),
   (["z", "separator"], separators), (["zl", "lineseparator"], [zl]),
   (["zp", "paragraphseparator"], [zp]), (["zs", "spaceseparator"], [zs])]

/-- The entry of a table that has the name. -/
def named? {α : Type} (table : List (List String × α)) (name : String) : Option α :=
  (table.find? fun entry => entry.1.contains name).map (·.2)

def category? (name : String) : Option CharClass :=
  if name = "any" then some .any
  else if name = "ascii" then some (.range 0 0x7F)
  else if name = "assigned" then some (.complement (.ofCategories [.cn]))
  else (named? categoryNames name).map .ofCategories

open Unicode.Category in
/-- Properties of the characters that another property has besides those of its categories. -/
def remainders : List (List String × CharClass) :=
  [(["otheralphabetic", "oalpha"],
    .difference (.codes .alphabetic) (.ofCategories (nl :: letters))),
   (["otherdefaultignorablecodepoint", "odi"],
    CharClass.without (.codes .defaultIgnorableCodePoint)
      [.ofCategories [cf], .codes .variationSelector]),
   (["othergraphemeextend", "ogrext"],
    .difference (.codes .graphemeExtend) (.ofCategories [mn, me])),
   (["otherlowercase", "olower"], .difference (.codes .lowercase) (.ofCategories [ll])),
   (["othermath", "omath"], .difference (.codes .math) (.ofCategories [sm])),
   (["otheruppercase", "oupper"], .difference (.codes .uppercase) (.ofCategories [lu]))]

/-- The class of a property that a character has or has not. -/
def binary? (name : String) : Option CharClass :=
  ((named? Unicode.binaryProperties name).map .codes).or (named? remainders name)

/-- The characters that a version of Unicode has. -/
def age? (version : String) : Option CharClass :=
  (Unicode.Version.characters version Unicode.Version.all).map fun ranges => .codes ⟨[], ranges, []⟩

/-- The names that mean a category although a property has them too. -/
def categoryFirst : List String := ["cf", "sc", "lc"]

/-- The class of a name alone: a binary property, a general category or a script. -/
def property? (name : String) : Option CharClass :=
  let name := looseName name
  let binary := if categoryFirst.contains name then none else binary? name
  binary.or ((category? name).or ((Unicode.script? name).map .script))

/-- The properties that have a value. -/
def valuedProperties : List (List String × (String → Option CharClass)) :=
  [(["generalcategory", "gc"], category?),
   (["script", "sc"], fun value => (Unicode.script? value).map .script),
   (["scriptextensions", "scx"], fun value => (Unicode.script? value).map .extensions),
   (["age"], age?),
   (["graphemeclusterbreak", "gcb"], named? graphemeBreaks),
   (["wordbreak", "wb"], named? wordBreaks),
   (["sentencebreak", "sb"], named? sentenceBreaks)]

/-- The class of a property with a value, such as `sc=Greek`. -/
def propertyValue? (name value : String) : Option CharClass := do
  let valued ← named? valuedProperties (looseName name)
  valued (looseName value)

/-- A description split at the first occurrence of a separator. -/
def splitAt (separator : List Char) : List Char → Option (List Char × List Char)
  | [] => none
  | c :: cs =>
    if separator.isPrefixOf (c :: cs) then some ([], (c :: cs).drop separator.length)
    else (splitAt separator cs).map fun (before, after) => (c :: before, after)

/-- What a description in braces means, and whether it is negated. -/
def described? (description : List Char) : Option (CharClass × Bool) :=
  let valued := fun (name, value) => propertyValue? (String.ofList name) (String.ofList value)
  match splitAt ['!', '='] description with
  | some parts => (valued parts).map (·, true)
  | none =>
    match (splitAt [':'] description).or (splitAt ['='] description) with
    | some parts => (valued parts).map (·, false)
    | none => (property? (String.ofList description)).map (·, false)

end SeriesQuery.Regex
