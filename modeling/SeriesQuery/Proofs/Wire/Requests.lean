import SeriesQuery.Proofs.Json.Decoders
import SeriesQuery.Proofs.Plan.Words
import SeriesQuery.Proofs.SortedMap
import SeriesQuery.Wire.Labels
import SeriesQuery.Wire.Request
/-!
Series keys and requests without a threshold, written as JSON and read back. Main statement: the
text of each is read as the value it was written for, and so is every other object that says the
same as the request's own.
-/
namespace SeriesQuery

open Json (Decoder Record)

namespace Json

/-- Values that hold no others. -/
def IsScalar : Json → Prop
  | array _ => False
  | object _ => False
  | _ => True

namespace Decoder

theorem instant_draft {value : Int} (fits : Word.Fits value) :
    instant (Json.integer value).draft = .ok value :=
  integer_draft fits.1 fits.2

theorem natural_draft {value : Nat} (small : value < UInt64.size) :
    natural (Json.integer value).draft = .ok value := by
  rw [natural, integer_draft (Int.natCast_nonneg _) (by omega)]
  rfl

end Decoder

end Json

theorem Labels.decoder_draft (labels : Labels) : decoder labels.toJson.draft = .ok labels := by
  rw [decoder, toJson]
  have written := Decoder.entries_draft Decoder.string_draft labels.entries
  rw [written]
  exact congrArg Except.ok (SortedMap.ofList_entries labels)

theorem SeriesKey.prints (key : SeriesKey) :
    record.Prints [("metric_name", (Json.string key.metric).draft),
      ("labels", key.labels.toJson.draft)] key :=
  (Record.prints_constant SeriesKey.mk)
    |>.required "metric_name" rfl (Decoder.string_draft key.metric)
    |>.required "labels" rfl (Labels.decoder_draft key.labels)

namespace Request

variable {request : Request Float}

/-- The entries of a request without a threshold, those about its time limit apart. -/
def plainFields (request : Request Float) : List (String × Json) :=
  [("metric_name", .string request.metric), ("start_ms", .integer request.start),
    ("end_ms", .integer request.stop), ("step_seconds", .integer request.stepSeconds),
    ("time_aggregation", .string request.timeReducer),
    ("space_aggregation", .string request.spaceReducer),
    ("filter_expression", .string request.filter),
    ("group_by", .array (request.groupBy.map .string)),
    ("comparison_space_aggregation", .null)]

def fields (request : Request Float) : List (String × Json) :=
  request.plainFields ++ match request.timeout with
    | some milliseconds => [("timeout_ms", .integer milliseconds)]
    | none => []

theorem toJson_eq (plain : request.threshold = none) : request.toJson = .object request.fields := by
  rw [toJson, plain]
  rfl

theorem prints (plain : request.threshold = none) (words : request.InWords)
    (limited : ∀ milliseconds ∈ request.timeout, milliseconds < UInt64.size) :
    record.Prints (request.fields.map Json.drafted) request := by
  rcases request with ⟨metric, start, stop, step, time, space, filter, group, threshold, timeout⟩
  obtain rfl : threshold = none := plain
  have none : (Decoder.nullable (ThresholdRequest.record (V := Float)).decode) Json.null.draft =
      .ok none := rfl
  have filtered : "filter_expression" ∈ ["filter_expression", "label_filter_expression"] :=
    List.mem_cons_self
  have nine := (Record.prints_constant (Request.mk (V := Float)))
    |>.required "metric_name" rfl (Decoder.string_draft metric)
    |>.required "start_ms" rfl (Decoder.instant_draft words.start)
    |>.required "end_ms" rfl (Decoder.instant_draft words.stop)
    |>.required "step_seconds" rfl (Decoder.instant_draft words.stepSeconds)
    |>.required "time_aggregation" rfl (Decoder.string_draft time)
    |>.required "space_aggregation" rfl (Decoder.string_draft space)
    |>.field (.ok "") rfl filtered (Decoder.string_draft filter)
    |>.field (.ok []) rfl (List.mem_singleton_self "group_by")
      (Decoder.list_draft Decoder.string_draft group)
    |>.field (.ok Option.none) rfl (List.mem_singleton_self "comparison_space_aggregation") none
  cases timeout with
  | none =>
    exact nine.missing (Decoder.nullable Decoder.natural) rfl
      (List.mem_singleton_self "timeout_ms") rfl
  | some milliseconds =>
    have given : Decoder.nullable Decoder.natural (Json.integer milliseconds).draft =
        .ok (some milliseconds) :=
      map_eq_ok_iff.mpr ⟨_, Decoder.natural_draft (limited milliseconds rfl), rfl⟩
    exact nine.field (.ok Option.none) rfl (List.mem_singleton_self "timeout_ms") given

/-- The names that an entry of a request may have. -/
def knownNames : List String :=
  ["metric_name", "start_ms", "end_ms", "step_seconds", "time_aggregation", "space_aggregation",
    "filter_expression", "label_filter_expression", "group_by", "comparison_space_aggregation",
    "timeout_ms"]

/-- Entries that say what is taken without them. -/
def defaults : List (String × Json) :=
  [("filter_expression", .string ""), ("group_by", .array []),
    ("comparison_space_aggregation", .null)]

/-- Objects that say the same as the request's own. -/
inductive Respelling (request : Request Float) : List (String × Json) → Prop where
  | own {fields : List (String × Json)} (printed : request.toJson = .object fields) :
      Respelling request fields
  | permuted {fields fields' : List (String × Json)} (spelling : Respelling request fields)
      (perm : fields.Perm fields') : Respelling request fields'
  | extended {name : String} {value : Json} {fields : List (String × Json)}
      (spelling : Respelling request fields) (unknown : name ∉ knownNames)
      (simple : value.IsScalar) : Respelling request ((name, value) :: fields)
  | renamed {value : Json} {fields : List (String × Json)}
      (spelling : Respelling request (("filter_expression", value) :: fields)) :
      Respelling request (("label_filter_expression", value) :: fields)
  | dropped {entry : String × Json} {fields : List (String × Json)}
      (spelling : Respelling request (entry :: fields)) (implied : entry ∈ defaults) :
      Respelling request fields

theorem owner?_of_unknown {name : String} (unknown : name ∉ knownNames) :
    Record.owner? (record (V := Float)).fields name = none := by
  refine List.find?_eq_none.mpr fun field member called => unknown ?_
  have known : (record (V := Float)).fields.flatMap (·.names) = knownNames := rfl
  rw [← known]
  exact List.mem_flatMap.mpr ⟨field, member, of_decide_eq_true called⟩

/-- The fields that a request has to have. -/
def requiredRecord : Record (String → List String → Option (ThresholdRequest Float) → Option Nat →
    Request Float) :=
  (Record.constant Request.mk)
    |>.required "metric_name" Decoder.string
    |>.required "start_ms" Decoder.instant
    |>.required "end_ms" Decoder.instant
    |>.required "step_seconds" Decoder.instant
    |>.required "time_aggregation" Decoder.string
    |>.required "space_aggregation" Decoder.string

theorem local_requiredRecord : requiredRecord.Local :=
  (Record.local_constant _).optional.optional.optional.optional.optional.optional

/-- Each default is what its decoder makes of the entry that says so. -/
theorem omits_of_implied {entry : String × Json} (implied : entry ∈ defaults) :
    ∃ field, Record.owner? (record (V := Float)).fields entry.1 = some field ∧
      (record (V := Float)).Omits field.names entry.2.draft := by
  have base := local_requiredRecord
  rw [defaults, List.mem_cons, List.mem_cons, List.mem_singleton] at implied
  rcases implied with rfl | rfl | rfl
  · exact ⟨_, rfl, Record.Omits.optional_self base rfl List.mem_cons_self rfl
      |>.optional (by decide) |>.optional (by decide) |>.optional (by decide)⟩
  · exact ⟨_, rfl, Record.Omits.optional_self base.optional rfl (List.mem_singleton_self _) rfl
      |>.optional (by decide) |>.optional (by decide)⟩
  · exact ⟨_, rfl, Record.Omits.optional_self base.optional.optional rfl
      (List.mem_singleton_self _) rfl |>.optional (by decide)⟩

theorem Respelling.decodes (plain : request.threshold = none) (words : request.InWords)
    (limited : ∀ milliseconds ∈ request.timeout, milliseconds < UInt64.size)
    {fields : List (String × Json)} (spelling : Respelling request fields) :
    record.Decodes (fields.map Json.drafted) request := by
  have prints := prints plain words limited
  induction spelling with
  | own printed =>
      rw [toJson_eq plain] at printed
      cases printed
      exact prints.decodes
  | permuted spelling perm ih => exact ih.perm prints.isLocal (perm.map _)
  | extended spelling unknown simple ih =>
      exact ih.extended (owner?_of_unknown unknown) (Json.isIntact_draft _)
  | renamed spelling ih => exact ih.renamed rfl rfl
  | dropped spelling implied ih =>
      obtain ⟨field, owned, omits⟩ := omits_of_implied implied
      exact ih.dropped owned omits

/-- What is written is read as what it was written for, and so is each respelling of a request. -/
theorem respellings_read_back (key : SeriesKey) (request : Request Float)
    (plain : request.threshold = none) (words : request.InWords)
    (limited : ∀ milliseconds ∈ request.timeout, milliseconds < UInt64.size) :
    Decoder.ofText SeriesKey.record.decode key.toJson.render = .ok key ∧
      Decoder.ofText record.decode request.toJson.render = .ok request ∧
      ∀ fields, Respelling request fields →
        Decoder.ofText record.decode (Json.object fields).render = .ok request := by
  have respelled (fields : List (String × Json)) (spelling : Respelling request fields) :
      Decoder.ofText record.decode (Json.object fields).render = .ok request :=
    Decoder.ofText_object.mpr (spelling.decodes plain words limited)
  refine ⟨Decoder.ofText_object.mpr key.prints.decodes, ?_, respelled⟩
  rw [toJson_eq plain]
  exact respelled request.fields (.own (toJson_eq plain))

/-- The ends of the ranges of numbers, and marks of the syntax in the texts. -/
def extreme : Request Float where
  metric := "\"\\\x01\n/é日"
  start := Instant.least
  stop := Instant.greatest
  stepSeconds := -1
  timeReducer := ""
  spaceReducer := ",:[]"
  filter := "a = \"\\\""
  groupBy := []
  threshold := none
  timeout := some 18446744073709551615

def extremeKey : SeriesKey := ⟨"\"", SortedMap.ofList [("\\", "\x1f"), ("", "\"é\"")]⟩

/-- The filter under its other name, an entry that means nothing, and what is implied left out. -/
def extremeFields : List (String × Json) :=
  [("zone", .string "\"\\"), ("label_filter_expression", .string extreme.filter),
    ("timeout_ms", .integer 18446744073709551615), ("metric_name", .string extreme.metric),
    ("start_ms", .integer Instant.least), ("end_ms", .integer Instant.greatest),
    ("step_seconds", .integer (-1)), ("time_aggregation", .string ""),
    ("space_aggregation", .string ",:[]")]

theorem respelling_extreme : Respelling extreme extremeFields := by
  have implied : ("group_by", Json.array []) ∈ defaults := List.mem_cons_of_mem _ List.mem_cons_self
  have implied' : ("comparison_space_aggregation", Json.null) ∈ defaults :=
    List.mem_cons_of_mem _ (List.mem_cons_of_mem _ List.mem_cons_self)
  have own : Respelling extreme (extreme.fields.take 7 ++ extreme.fields.drop 7) := .own rfl
  have turned : Respelling extreme (extreme.fields.drop 7 ++ extreme.fields.take 7) :=
    own.permuted List.perm_append_comm
  have short : Respelling extreme (extreme.fields.drop 9 ++ extreme.fields.take 7) :=
    .dropped (.dropped turned implied) implied'
  have filtered := short.permuted (List.perm_append_singleton
    ("filter_expression", Json.string extreme.filter)
    (extreme.fields.drop 9 ++ extreme.fields.take 6))
  exact .extended (.renamed filtered) (by decide) trivial

/-- Reading the extreme request and key, and the request in other words. -/
theorem respellings_read_back_extreme :
    extreme.threshold = none ∧ extreme.InWords ∧
      (∀ milliseconds ∈ extreme.timeout, milliseconds < UInt64.size) ∧
        Respelling extreme extremeFields ∧
          Decoder.ofText SeriesKey.record.decode extremeKey.toJson.render = .ok extremeKey ∧
          Decoder.ofText record.decode extreme.toJson.render = .ok extreme ∧
          Decoder.ofText record.decode (Json.object extremeFields).render = .ok extreme := by
  have words : extreme.InWords := ⟨by decide, by decide, by decide⟩
  have limited : ∀ milliseconds ∈ extreme.timeout, milliseconds < UInt64.size := by
    rintro _ ⟨⟩
    decide
  obtain ⟨key, own, others⟩ := respellings_read_back extremeKey extreme rfl words limited
  exact ⟨rfl, words, limited, respelling_extreme, key, own,
    others extremeFields respelling_extreme⟩

end Request

end SeriesQuery
