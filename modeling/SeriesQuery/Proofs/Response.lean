/-
What goes over the wire is read back from its JSON: filters, series, ranges,
requests and responses, whatever texts they hold, as long as their counts
fit a machine word.
-/
import SeriesQuery.Proofs.Filter.Json
import SeriesQuery.Regex.Engine
import SeriesQuery.Response

namespace SeriesQuery

open Json

/-! ## Series, ranges, sets and counters -/

theorem Series.textMap?_textMap (m : SortedMap String) : textMap? (textMap m) = some m :=
  ofList_entries Json.string Json.string? fun _ _ => rfl

theorem Series.ofJson?_toJson (s : Series) : ofJson? s.toJson = some s := by
  have hstep : ofJson? s.toJson = (textMap? (textMap s.tags)).bind fun tags => some ⟨s.key, tags⟩ :=
    rfl
  rw [hstep, textMap?_textMap, Option.bind_some]

theorem TimeRange.ofJson?_toJson (r : TimeRange) : ofJson? r.toJson = some r := by
  have hstep : ofJson? r.toJson = (integer r.start.toInt).int64?.bind fun start =>
    (integer r.stop.toInt).int64?.bind fun stop => some ⟨start, stop⟩ := rfl
  rw [hstep, int64?_integer, Option.bind_some, int64?_integer, Option.bind_some]

theorem SortedSet.ofJson?_toJson (s : SortedSet) : ofJson? s.toJson = some s := by
  have hstep : ofJson? s.toJson =
    ((s.keys.map Json.string).mapM Json.string?).bind fun keys => some (ofKeys keys) := rfl
  rw [hstep, mapM_string?, Option.bind_some, ofKeys_keys]

/-- Every count fits a machine word. -/
def Counters.Fits (c : Counters) : Prop := ∀ e ∈ c.toList, e.2 < Word.size

theorem Counters.ofJson?_toJson {c : Counters} (h : c.Fits) : ofJson? c.toJson = some c :=
  ofList_entries natural count? fun e he => count?_natural (h e he)

/-! ## Responses -/

theorem RequestKind.ofName?_name (k : RequestKind) : ofName? k.name = some k := by
  cases k <;> decide

namespace Answer

def Fits : Answer → Prop
  | written _ | series _ _ | ids _ _ => True
  | tags _ size => size < Word.size
  | count n _ => n < Word.size
  | deleted n failed => n < Word.size ∧ failed < Word.size
  | keys _ size duplicates => size < Word.size ∧ duplicates < Word.size

/-- The tags of an answer, as JSON. -/
theorem tagSets?_tags (m : SortedMap SortedSet) :
    tagSets? (.object (m.toList.map fun e => (e.1, e.2.toJson))) = some m :=
  ofList_entries SortedSet.toJson SortedSet.ofJson? fun e _ => SortedSet.ofJson?_toJson e.2

theorem ofFields?_jsonFields {a : Answer} (h : a.Fits) :
    ofFields? a.kind (a.jsonFields.map (·.2)) = some a := by
  cases a with
  | written id => rfl
  | tags m size =>
    have hstep : ofFields? .findTags ((tags m size).jsonFields.map (·.2)) =
      (tagSets? (.object (m.toList.map fun e => (e.1, e.2.toJson)))).bind
        fun m => (natural size).count?.bind fun size => some (tags m size) := rfl
    rw [kind, hstep, tagSets?_tags, Option.bind_some, count?_natural h, Option.bind_some]
  | series list limited =>
    have hlist := mapM_map_of_mem (l := list) fun s _ => Series.ofJson?_toJson s
    have hstep : ofFields? .findSeries ((series list limited).jsonFields.map (·.2)) =
      ((list.map Series.toJson).mapM Series.ofJson?).bind fun list => some (series list limited) :=
      rfl
    rw [kind, hstep, hlist, Option.bind_some]
  | ids set limited =>
    have hstep : ofFields? .findSeriesIds ((ids set limited).jsonFields.map (·.2)) =
      (SortedSet.ofJson? set.toJson).bind fun set => some (ids set limited) := rfl
    rw [kind, hstep, SortedSet.ofJson?_toJson, Option.bind_some]
  | count n limited =>
    have hstep : ofFields? .countSeries ((count n limited).jsonFields.map (·.2)) =
      (natural n).count?.bind fun n => some (count n limited) := rfl
    rw [kind, hstep, count?_natural h, Option.bind_some]
  | deleted n failed =>
    have hstep : ofFields? .deleteSeries ((deleted n failed).jsonFields.map (·.2)) =
      (natural n).count?.bind fun n => (natural failed).count?.bind fun failed =>
        some (deleted n failed) := rfl
    rw [kind, hstep, count?_natural h.1, Option.bind_some, count?_natural h.2, Option.bind_some]
  | keys set size duplicates =>
    have hstep : ofFields? .findKeys ((keys set size duplicates).jsonFields.map (·.2)) =
      (SortedSet.ofJson? set.toJson).bind fun set => (natural size).count?.bind fun size =>
        (natural duplicates).count?.bind fun duplicates => some (keys set size duplicates) := rfl
    rw [kind, hstep, SortedSet.ofJson?_toJson, Option.bind_some, count?_natural h.1,
      Option.bind_some, count?_natural h.2, Option.bind_some]

theorem map_jsonFields (a : Answer) : a.jsonFields.map (·.1) = fieldNames a.kind := by
  cases a <;> rfl

/-- The names of a response's fields are different from each other and from its tag. -/
theorem fieldNames_apart (k : RequestKind) : (fieldNames k ++ ["statistics"]).Nodup ∧
    "response" ∉ fieldNames k ++ ["statistics"] := by
  cases k <;> decide

end Answer

namespace Response

structure Fits (r : Response) : Prop where
  answer : r.answer.Fits
  statistics : r.statistics.Fits

theorem ofJson?_toJson {r : Response} (h : r.Fits) : ofJson? r.toJson = some r := by
  obtain ⟨answer, statistics⟩ := r
  let fields := answer.jsonFields ++ [("statistics", statistics.toJson)]
  have hnames : fields.map (·.1) = Answer.fieldNames answer.kind ++ ["statistics"] := by
    rw [List.map_append, Answer.map_jsonFields]
    rfl
  have htag : (toJson ⟨answer, statistics⟩).tagged? "response" =
      some (.string answer.kind.name, .object fields) :=
    tagged?_cons (hnames ▸ (Answer.fieldNames_apart answer.kind).2) _
  have hrecord : (object fields).record? (Answer.fieldNames answer.kind ++ ["statistics"]) =
      some (answer.jsonFields.map (fun f => some f.2) ++ [some statistics.toJson]) := by
    rw [← hnames, record?_names (hnames ▸ (Answer.fieldNames_apart answer.kind).1),
      List.map_append]
    rfl
  have hlength : (Answer.fieldNames answer.kind).length =
      (answer.jsonFields.map fun f => some f.2).length := by
    rw [← Answer.map_jsonFields, List.length_map, List.length_map]
  have hanswer : (answer.jsonFields.map fun f => some f.2).mapM id =
      some (answer.jsonFields.map (·.2)) := by
    have hsome : answer.jsonFields.map (fun f => some f.2) =
      (answer.jsonFields.map (·.2)).map some := List.map_map.symm
    rw [hsome]
    exact mapM_map_of_mem fun _ _ => rfl
  simp only [ofJson?, htag, string?, Option.bind_eq_bind, Option.bind_some,
    RequestKind.ofName?_name, hrecord, hlength, List.take_left, List.drop_left, hanswer,
    Answer.ofFields?_jsonFields h.answer, List.head?_cons, Option.join_some,
    Counters.optional?, Counters.ofJson?_toJson h.statistics]

end Response

/-! ## Requests -/

section Requests

variable [PatternEngine]

def Selection.Fits (s : Selection) : Prop := ∀ n, s.limit = some n → n < Word.size

theorem Selection.ofJson?_jsonFields {s : Selection} (h : s.Fits) :
    ofJson? (.object s.jsonFields) = some s := by
  obtain ⟨filter, range, limit⟩ := s
  have hlimit : optionalCount? (limit.map natural) = some limit := by
    cases limit with
    | none => rfl
    | some n =>
      have hcount := count?_natural (h n rfl)
      calc optionalCount? (some (natural n)) = (natural n).count?.map some := rfl
        _ = some (some n) := by rw [hcount, Option.map_some]
  have hstep : ofJson? (.object (Selection.jsonFields ⟨filter, range, limit⟩)) =
      (Filter.ofJson? true filter.toJson).bind fun filter => (TimeRange.ofJson? range.toJson).bind
        fun range => (optionalCount? (limit.map natural)).bind fun limit =>
          some ⟨filter, range, limit⟩ := by
    cases limit <;> rfl
  rw [hstep, Filter.ofJson?_toJson, Option.bind_some, TimeRange.ofJson?_toJson, Option.bind_some,
    hlimit, Option.bind_some]

namespace Request

def Fits : Request → Prop
  | write _ _ => True
  | findTags s | findSeries s | findSeriesIds s | countSeries s | deleteSeries s | findKeys s =>
    s.Fits

theorem writeOfJson?_jsonFields (s : Series) (range : TimeRange) :
    writeOfJson? (.object (write s range).jsonFields) = some (write s range) := by
  have hstep : writeOfJson? (.object (write s range).jsonFields) =
    (Series.ofJson? s.toJson).bind fun s => (TimeRange.ofJson? range.toJson).bind fun range =>
      some (write s range) := rfl
  rw [hstep, Series.ofJson?_toJson, Option.bind_some, TimeRange.ofJson?_toJson, Option.bind_some]

theorem tagged?_toJson (r : Request) :
    r.toJson.tagged? "request" = some (.string r.kind.name, .object r.jsonFields) := by
  cases r with
  | write s range => rfl
  | _ s =>
    obtain ⟨filter, range, limit⟩ := s
    cases limit <;> rfl

theorem ofJson?_toJson {r : Request} (h : r.Fits) : ofJson? r.toJson = some r := by
  simp only [ofJson?, tagged?_toJson, string?, Option.bind_eq_bind, Option.bind_some,
    RequestKind.ofName?_name]
  cases r with
  | write s range => exact writeOfJson?_jsonFields s range
  | _ s => simp only [kind, jsonFields, Selection.ofJson?_jsonFields h, Option.map_some]

end Request

/-- Filters, series, ranges, requests and responses are read back from their JSON, the counts in
them being machine words. No filter is read from JSON with a refused pattern at any depth. -/
theorem json_round_trip :
    (∀ nested f, Filter.ofJson? nested f.toJson = some f) ∧
    (∀ s : Series, Series.ofJson? s.toJson = some s) ∧
    (∀ r : TimeRange, TimeRange.ofJson? r.toJson = some r) ∧
    (∀ r : Request, r.Fits → Request.ofJson? r.toJson = some r) ∧
    (∀ r : Response, r.Fits → Response.ofJson? r.toJson = some r) ∧
    ∀ nested j, Filter.Refused nested j → Filter.ofJson? nested j = none :=
  ⟨Filter.ofJson?_toJson, Series.ofJson?_toJson, TimeRange.ofJson?_toJson,
    fun _ => Request.ofJson?_toJson, fun _ => Response.ofJson?_toJson,
    fun _ _ => Filter.Refused.ofJson?_eq_none⟩

end Requests

open scoped Regex

/-- A request with the greatest limit, a response with counters, and a text that is no pattern,
three filters deep, in the second of two fields of one name. -/
theorem json_round_trip_refused :
    (∃ r : Request, r.Fits ∧ Request.ofJson? r.toJson = some r ∧
      r = .findKeys ⟨.all [.not (.tag "dc" "\"e\"")], ⟨-1, 0⟩, some 18446744073709551615⟩) ∧
    (∃ r : Response, r.Fits ∧ Response.ofJson? r.toJson = some r ∧
      r = ⟨.deleted 3 0, .single "series" 7⟩) ∧
    ∃ j, Filter.Refused false j ∧ Filter.ofJson? false j = none ∧
      j = .object [("filters", .array [.object [("type", .string "true")],
        .object [("type", .string "not"), ("filter", .object [("type", .string "true")]),
          ("filter", .object [("pattern", .string "a("), ("type", .string "regex"),
            ("tag", .string "dc")])]]), ("type", .string "or")] := by
  obtain ⟨-, -, -, hrequest, hresponse, hrefused⟩ := json_round_trip
  have hlimit : Request.Fits (.findKeys
      ⟨.all [.not (.tag "dc" "\"e\"")], ⟨-1, 0⟩, some 18446744073709551615⟩) := by
    intro n hn
    obtain rfl := Option.some.inj hn
    decide
  have hcounters : Counters.Fits (.single "series" 7) := by
    intro e he
    obtain rfl := List.mem_singleton.mp he
    decide
  have hfits : Response.Fits ⟨.deleted 3 0, .single "series" 7⟩ :=
    ⟨⟨by decide, by decide⟩, hcounters⟩
  have hpattern : Pattern.ofText? "a(" = .error Regex.notAPattern :=
    Pattern.ofText?_eq_error_iff.mpr (by rfl)
  have hregex : Filter.Refused true (.object [("pattern", .string "a("), ("type", .string "regex"),
      ("tag", .string "dc")]) :=
    .regex ⟨_, .named (.tail _ (.head _)), rfl⟩ (.named (.head _)) hpattern
  have hnot : Filter.Refused true (.object [("type", .string "not"),
      ("filter", .object [("type", .string "true")]), ("filter", .object
        [("pattern", .string "a("), ("type", .string "regex"), ("tag", .string "dc")])]) :=
    .part (.denied ⟨_, .named (.head _), rfl⟩ (.named (.tail _ (.tail _ (.head _))))) hregex
  have hnone : ∀ {j}, Filter.Refused false j →
      ∃ j', Filter.Refused false j' ∧ Filter.ofJson? false j' = none ∧ j' = j :=
    fun h => ⟨_, h, hrefused _ _ h, rfl⟩
  exact ⟨⟨_, hlimit, hrequest _ hlimit, rfl⟩, ⟨_, hfits, hresponse _ hfits, rfl⟩,
    hnone (.part (.joined (.inr rfl) ⟨_, .named (.tail _ (.head _)), rfl⟩ (.named (.head _))
      (.tail _ (.head _))) hnot)⟩

end SeriesQuery
