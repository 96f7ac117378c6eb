/-
Answers of a store, one for each kind of request, with counters beside
them. As JSON an answer is a record tagged by the kind of its request.
-/
import SeriesQuery.Counters
import SeriesQuery.Request

namespace SeriesQuery

inductive Answer
  | written (id : String)
  /-- The values each tag has in the selected series, and how many series there were. -/
  | tags (tags : SortedMap SortedSet) (size : Nat)
  | series (series : List Series) (limited : Bool)
  | ids (ids : SortedSet) (limited : Bool)
  | count (count : Nat) (limited : Bool)
  /-- How many series were deleted, and how many were gone already. -/
  | deleted (deleted failed : Nat)
  /-- The keys of the selected series, how many series there were, and how many of them had a key
  seen before. -/
  | keys (keys : SortedSet) (size duplicates : Nat)

structure Response where
  answer : Answer
  statistics : Counters

namespace SortedSet

def toJson (s : SortedSet) : Json := .strings s.keys

/-- Reads an array of texts, in any order and with any repetition. -/
def ofJson? (j : Json) : Option SortedSet := do
  let items ← j.array?
  let keys ← items.mapM Json.string?
  some (ofKeys keys)

end SortedSet

namespace Answer

/-- The kind of request that is answered. -/
def kind : Answer → RequestKind
  | written _ => .write
  | tags _ _ => .findTags
  | series _ _ => .findSeries
  | ids _ _ => .findSeriesIds
  | count _ _ => .countSeries
  | deleted _ _ => .deleteSeries
  | keys _ _ _ => .findKeys

def jsonFields : Answer → List (String × Json)
  | written id => [("id", .string id)]
  | tags m size =>
    [("tags", .object (m.toList.map fun (name, values) => (name, values.toJson))),
     ("size", .natural size)]
  | series list limited =>
    [("series", .array (list.map Series.toJson)), ("limited", .boolean limited)]
  | ids set limited => [("ids", set.toJson), ("limited", .boolean limited)]
  | count n limited => [("count", .natural n), ("limited", .boolean limited)]
  | deleted n failed => [("deleted", .natural n), ("failed", .natural failed)]
  | keys set size duplicates =>
    [("keys", set.toJson), ("size", .natural size), ("duplicates", .natural duplicates)]

/-- Reads a map from texts to sets of texts. -/
def tagSets? (j : Json) : Option (SortedMap SortedSet) := do
  let fields ← j.object?
  let entries ← fields.mapM fun (name, v) => (SortedSet.ofJson? v).map (name, ·)
  some (SortedMap.ofList entries)

/-- The names of the fields of an answer. -/
def fieldNames : RequestKind → List String
  | .write => ["id"]
  | .findTags => ["tags", "size"]
  | .findSeries => ["series", "limited"]
  | .findSeriesIds => ["ids", "limited"]
  | .countSeries => ["count", "limited"]
  | .deleteSeries => ["deleted", "failed"]
  | .findKeys => ["keys", "size", "duplicates"]

/-- Reads an answer from the values of its fields. -/
def ofFields? : RequestKind → List Json → Option Answer
  | .write, [id] => do some (written (← id.string?))
  | .findTags, [m, size] => do some (tags (← tagSets? m) (← size.count?))
  | .findSeries, [list, limited] => do
    some (series (← (← list.array?).mapM Series.ofJson?) (← limited.boolean?))
  | .findSeriesIds, [set, limited] => do some (ids (← SortedSet.ofJson? set) (← limited.boolean?))
  | .countSeries, [n, limited] => do some (count (← n.count?) (← limited.boolean?))
  | .deleteSeries, [n, failed] => do some (deleted (← n.count?) (← failed.count?))
  | .findKeys, [set, size, duplicates] => do
    some (keys (← SortedSet.ofJson? set) (← size.count?) (← duplicates.count?))
  | _, _ => none

end Answer

namespace Response

def ofAnswer (answer : Answer) : Response := ⟨answer, .empty⟩

def toJson (r : Response) : Json :=
  .object (("response", .string r.answer.kind.name) :: r.answer.jsonFields
    ++ [("statistics", r.statistics.toJson)])

/-- Reads a response. The counters may be missing, no other field may. -/
def ofJson? (j : Json) : Option Response := do
  let (label, rest) ← j.tagged? "response"
  let kind ← RequestKind.ofName? (← label.string?)
  let names := Answer.fieldNames kind
  let values ← rest.record? (names ++ ["statistics"])
  let fields ← (values.take names.length).mapM id
  let answer ← Answer.ofFields? kind fields
  let statistics ← Counters.optional? (values.drop names.length).head?.join
  some ⟨answer, statistics⟩

end Response

end SeriesQuery
