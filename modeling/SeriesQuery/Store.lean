/-
A store of series. It keeps each series once, under its identity, with the
least range that covers all its writes; `perform` carries out a request.
Requests see the stored series in order of their identities. A series that
cannot be stored is refused, and the store stays as it was.
-/
import SeriesQuery.Response

namespace SeriesQuery

variable [PatternEngine] [Digest]

structure Entry where
  series : Series
  range : TimeRange

structure Store where
  /-- The stored series by identity. -/
  entries : SortedMap Entry

namespace Store

def empty : Store := ⟨.empty⟩

/-- The number of series. -/
def size (s : Store) : Nat := s.entries.size

def statistics (s : Store) : Counters := .single "series" s.size

/-- Whether a selection means the entry: its range overlaps, and the filter passes it. -/
def selects (selection : Selection) (entry : Entry) : Bool :=
  entry.range.overlaps selection.range && selection.filter.holds entry.series

/-- The entries a selection means, whatever its limit. -/
def found (s : Store) (selection : Selection) : List (String × Entry) :=
  s.entries.toList.filter fun e => selects selection e.2

/-- The first items up to the limit, and whether any are left out. -/
def cut {α : Type} (limit : Option Nat) (items : List α) : List α × Bool :=
  match limit with
  | some n => (items.take n, n < items.length)
  | none => (items, false)

/-- The entries a selection means, up to its limit. -/
def select (s : Store) (selection : Selection) : List (String × Entry) × Bool :=
  cut selection.limit (s.found selection)

def put (s : Store) (id : String) (entry : Entry) : Store := ⟨s.entries.insert id entry⟩

/-- The store with a series written to it. -/
def write (s : Store) (series : Series) (range : TimeRange) : Store :=
  let written :=
    match s.entries.get? series.id with
    | some old => old.range.join range
    | none => range
  s.put series.id ⟨series, written⟩

/-- The values of each tag, with those of one more series. -/
def addTags (m : SortedMap SortedSet) (s : Series) : SortedMap SortedSet :=
  s.tags.toList.foldl (fun m (name, value) =>
    m.insert name (((m.get? name).getD .empty).add value)) m

def tagsOf (list : List Series) : SortedMap SortedSet := list.foldl addTags .empty

/-- The keys of some series, and how many series had a key seen before. -/
def keysOf (list : List Series) : SortedSet × Nat :=
  list.foldl (fun (keys, duplicates) s =>
    (keys.add s.key, if keys.contains s.key then duplicates + 1 else duplicates)) (.empty, 0)

/-- The store without one series; how many were deleted and how many not there. -/
def deleteOne (state : Store × Nat × Nat) (id : String) : Store × Nat × Nat :=
  let (s, deleted, failed) := state
  if s.entries.contains id then (⟨s.entries.erase id⟩, deleted + 1, failed)
  else (s, deleted, failed + 1)

def deleteAll (s : Store) (ids : List String) : Store × Nat × Nat := ids.foldl deleteOne (s, 0, 0)

/-- Carries out a request: the store after it, and the answer. -/
def perform (s : Store) : Request → Store × Except SeriesFault Response
  | .write series range =>
    match series.fault? with
    | some fault => (s, .error fault)
    | none => (s.write series range, .ok ⟨.written series.id, .single "written" 1⟩)
  | .findTags selection =>
    let (matched, _) := s.select selection
    (s, .ok (.ofAnswer (.tags (tagsOf (matched.map (·.2.series))) matched.length)))
  | .findSeries selection =>
    let (matched, limited) := s.select selection
    (s, .ok (.ofAnswer (.series (matched.map (·.2.series)) limited)))
  | .findSeriesIds selection =>
    let (matched, limited) := s.select selection
    (s, .ok (.ofAnswer (.ids (.ofKeys (matched.map (·.1))) limited)))
  | .countSeries selection =>
    let (matched, limited) := s.select selection
    (s, .ok (.ofAnswer (.count matched.length limited)))
  | .deleteSeries selection =>
    let (matched, _) := s.select selection
    let (s, deleted, failed) := s.deleteAll (matched.map (·.1))
    (s, .ok (.ofAnswer (.deleted deleted failed)))
  | .findKeys selection =>
    let (matched, _) := s.select selection
    let (keys, duplicates) := keysOf (matched.map (·.2.series))
    (s, .ok (.ofAnswer (.keys keys matched.length duplicates)))

end Store

end SeriesQuery
