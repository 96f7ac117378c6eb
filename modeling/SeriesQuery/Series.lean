/-
Series: a key and tags, each tag a name with a value. The identity of a
series is the digest of its fields, every field preceded by its length, so
that no two series spell the same bytes.
-/
import SeriesQuery.SortedMap
import SeriesQuery.Digest
import SeriesQuery.Json
import SeriesQuery.Text.Quoted

namespace SeriesQuery

structure Series where
  key : String
  tags : SortedMap String
  deriving DecidableEq

/-- Why a series cannot be stored. -/
inductive SeriesFault
  | emptyKey
  | emptyTagName (value : String)
  deriving DecidableEq, Repr

def SeriesFault.message : SeriesFault → String
  | emptyKey => "Invalid series: series key cannot be empty"
  | emptyTagName value => s!"Invalid series: tag name cannot be empty (value {quote value})"

namespace Series

def ofKey (key : String) : Series := ⟨key, .empty⟩

/-- The series with a tag added, or given another value. -/
def withTag (s : Series) (name value : String) : Series :=
  { s with tags := s.tags.insert name value }

def tag? (s : Series) (name : String) : Option String := s.tags.get? name

def utf8 (s : String) : List UInt8 := s.toList.flatMap String.utf8EncodeChar

/-- The length of a field in eight bytes, then its text. -/
def field (s : String) : List UInt8 := Word.bigEndian 8 (utf8 s).length ++ utf8 s

/-- What the identity is the digest of: the key, then names and values in order of the names. -/
def bytes (s : Series) : List UInt8 :=
  field s.key ++ s.tags.toList.flatMap fun (name, value) => field name ++ field value

def id [Digest] (s : Series) : String := Digest.digest s.bytes

/-- What keeps a series from being stored: an empty key, else a tag without a name. -/
def fault? (s : Series) : Option SeriesFault :=
  if s.key = "" then some .emptyKey else (s.tags.get? "").map .emptyTagName

def text (s : Series) : String :=
  let tags := s.tags.toList.map fun (name, value) => s!"{name} = {quote value}"
  s.key ++ "\x7b" ++ String.intercalate ", " tags ++ "\x7d"

def textMap (m : SortedMap String) : Json :=
  .object (m.toList.map fun (name, value) => (name, .string value))

def toJson (s : Series) : Json := .object [("key", .string s.key), ("tags", textMap s.tags)]

/-- A map of texts: an object whose values are all strings. -/
def textMap? (j : Json) : Option (SortedMap String) := do
  let fields ← j.object?
  let entries ← fields.mapM fun (name, value) => value.string?.map (name, ·)
  some (.ofList entries)

/-- Reads a series. Tags may be missing. -/
def ofJson? (j : Json) : Option Series := do
  match ← j.record? ["key", "tags"] with
  | [some key, tags] =>
    let key ← key.string?
    match tags with
    | none => some (ofKey key)
    | some tags => some ⟨key, ← textMap? tags⟩
  | _ => none

end Series

end SeriesQuery
