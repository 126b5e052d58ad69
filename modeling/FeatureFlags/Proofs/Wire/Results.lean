import FeatureFlags.Proofs.Wire.Records

/-!
# Results and events that are read back

Errors, the details of events, answers and results are written with all their fields, those that are
absent as `null`.  Read back they are the same, with what is absent told from what is empty, and
every scalar of the kind it had: a flag value that is valid for its own type is never taken for one
of another type, because the JSON data of an object flag is an array or an object then, and those
are no scalars.

## Main definitions

* `FlagValue.hasFloat`, `FlagMetadata.hasFloat` — whether a float stands in a value.
* `EvaluationError.fields`, `EventDetails.fields`, `Resolution.fields`, `EvaluationDetails.fields` —
  records as they are written.

## Main results

* `FlagValue.ofDocument?_written`, `FlagMetadata.decode?_written` — values keep their kinds.
* `results_read_back` — **errors, the details of events, answers and results are read as they
  were.**
-/

namespace FeatureFlags

open Json (depthMembers)

/-! ### Scalars by name -/

def MetadataValue.isFloat : MetadataValue → Bool
  | .float _ => true
  | _ => false

/-- A scalar keeps its kind. -/
theorem MetadataValue.ofDocument?_written (v : MetadataValue) (h : v.isFloat = false) :
    ofDocument? v.toJson.written = some v := by
  cases v with
  | bool b => rfl
  | int i =>
    change (NumberText.ofInt (Json.Integer.ofInt64 i).val).value?.map ofNumber = _
    rw [NumberText.value?_ofInt, Option.map_some, ofNumber, Json.Integer.toInt64?_ofInt64]
  | float x => exact absurd h.symm Bool.false_ne_true
  | string s =>
    change (StringText.ofString s).value?.map string = _
    rw [StringText.value?_ofString]
    rfl

theorem MetadataValue.hasFloat_toJson {v : MetadataValue} (h : v.isFloat = false) :
    v.toJson.hasFloat = false := by
  cases v with
  | bool | int | string => rfl
  | float x => exact absurd h.symm Bool.false_ne_true

theorem MetadataValue.depth_toJson (v : MetadataValue) : v.toJson.depth = 0 := by
  cases v with
  | bool | int | string => rfl
  | float x =>
    rw [toJson, Json.ofBinary64]
    split <;> rfl

namespace FlagMetadata

/-- Whether a float is among the scalars. -/
def hasFloat (metadata : FlagMetadata) : Bool := metadata.entries.any fun e => e.2.isFloat

variable {metadata : FlagMetadata}

theorem isFloat_of_mem (h : hasFloat metadata = false) {e : String × MetadataValue}
    (he : e ∈ metadata.entries) : e.2.isFloat = false :=
  Bool.eq_false_iff.mpr (List.any_eq_false.mp h e he)

/-- **Scalars by name are read as they were.** -/
theorem decode?_written (h : hasFloat metadata = false) :
    decode? (toJson metadata).written = some metadata := by
  have hscalars : ∀ e ∈ metadata.entries,
      MetadataValue.ofDocument? e.2.toJson.written = some (id e.2) :=
    fun e he => MetadataValue.ofDocument?_written e.2 (isFloat_of_mem h he)
  have hread : decode? (toJson metadata).written = some (.ofList (metadata.entries.map id)) :=
    Document.toMap?_written hscalars
  rw [hread, List.map_id, SortedMap.ofList_entries]

theorem hasFloat_toJson (h : hasFloat metadata = false) : (toJson metadata).hasFloat = false := by
  rw [toJson, Json.hasFloat, Json.hasFloatMembers_eq_false_iff]
  refine List.forall_mem_map.mpr fun e he => ?_
  exact MetadataValue.hasFloat_toJson (isFloat_of_mem h he)

/-- Scalars by name spend one level on themselves. -/
theorem depth_toJson (metadata : FlagMetadata) : (toJson metadata).depth = 1 := by
  have hscalars : depthMembers (metadata.mapValues MetadataValue.toJson).entries ≤ 0 :=
    Json.depthMembers_le_iff.mpr
      (List.forall_mem_map.mpr fun e _ => Nat.le_of_eq (MetadataValue.depth_toJson e.2))
  rw [toJson, Json.depth]
  omega

end FlagMetadata

/-! ### Flag values -/

namespace FlagValue

/-- Whether a float stands in a value, at any depth. -/
def hasFloat : FlagValue → Bool
  | float _ => true
  | object j => j.hasFloat
  | _ => false

/-- The members of every object in the value are in order. -/
def Canonical : FlagValue → Prop
  | object j => j.Canonical
  | _ => True

theorem hasFloat_toJson {v : FlagValue} (h : v.hasFloat = false) : v.toJson.hasFloat = false := by
  cases v with
  | bool | int | string => rfl
  | float x => exact absurd h.symm Bool.false_ne_true
  | object j => exact h

/-- **A value that is valid for its own type is read as it was.** -/
theorem ofDocument?_written {v : FlagValue} (hvalid : v.check v.type = .ok ())
    (hfloat : v.hasFloat = false) (hcanonical : v.Canonical) :
    ofDocument? v.toJson.written = some v := by
  cases v with
  | bool b => rfl
  | int i =>
    change (NumberText.ofInt (Json.Integer.ofInt64 i).val).value?.map ofNumber = _
    rw [NumberText.value?_ofInt, Option.map_some, ofNumber, Json.Integer.toInt64?_ofInt64]
  | float x => exact absurd hfloat.symm Bool.false_ne_true
  | string s =>
    change (StringText.ofString s).value?.map string = _
    rw [StringText.value?_ofString]
    rfl
  | object j =>
    have hread : j.written.toJson?.map object = some (object j) := by
      rw [j.toJson?_written hfloat hcanonical]
      rfl
    -- an array or an object is never read as a scalar
    cases j with
    | array items => exact hread
    | object members => exact hread
    | null | bool | number | string => cases hvalid

theorem decode?_written {v : FlagValue} (hvalid : v.check v.type = .ok ())
    (hfloat : v.hasFloat = false) (hcanonical : v.Canonical) (levels : Nat) :
    decode? levels v.toJson.written = if v.toJson.depth ≤ levels then some v else none := by
  rw [decode?, ofDocument?_written hvalid hfloat hcanonical]
  simp only [Json.readable_written v.toJson (hasFloat_toJson hfloat)]

end FlagValue

/-! ### Names -/

theorem ErrorCode.ofName?_name (code : ErrorCode) : ofName? code.name = some code := by
  cases code <;> decide

theorem Reason.ofName?_name (reason : Reason) : ofName? reason.name = some reason := by
  cases reason <;> decide

/-! ### Errors -/

namespace EvaluationError

/-- An error as it is written. -/
def fields (e : EvaluationError) : List (String × Json) :=
  [("code", .string e.code.name), ("message", .ofText? e.message)]

/-- **An error is read as it was.** -/
theorem decode?_written (e : EvaluationError) : decode? e.toJson.written = some e := by
  have hnodup : (e.fields.map (·.1)).Nodup := (by decide : ["code", "message"].Nodup)
  have hrecord : Record.ofDocument? ["code", "message"] e.toJson.written =
    some (.written e.fields) := Record.ofDocument?_written rfl hnodup
  have hcode : (Record.written e.fields).required? "code" (decodeName? ErrorCode.ofName?) =
      some e.code := by
    rw [Record.required?_written hnodup List.mem_cons_self,
      decodeName?_written ErrorCode.ofName?_name]
  have hmessage : (Record.written e.fields).optional? "message" Document.toText? =
      some e.message :=
    Record.optional?_text hnodup (List.mem_cons_of_mem _ List.mem_cons_self)
  rw [decode?, hrecord]
  simp only [Option.bind_eq_bind, Option.bind_some, hcode, hmessage]

theorem hasFloat_toJson (e : EvaluationError) : e.toJson.hasFloat = false := by
  simp [toJson, Json.hasFloat, Json.hasFloatMembers]

end EvaluationError

/-! ### Details of events -/

namespace EventDetails

/-- The details of an event as they are written. -/
def fields (d : EventDetails) : List (String × Json) :=
  [("provider_name", .string d.providerName),
    ("flags_changed", .array (d.flagsChanged.map .string)),
    ("message", .ofText? d.message),
    ("error_code", .ofText? (d.errorCode.map ErrorCode.name)),
    ("metadata", d.metadata.toJson)]

/-- **The details of an event are read as they were.** -/
theorem decode?_written {d : EventDetails} (hfloat : d.metadata.hasFloat = false) :
    decode? d.toJson.written = some d := by
  have hnodup : (d.fields.map (·.1)).Nodup :=
    (by decide : ["provider_name", "flags_changed", "message", "error_code", "metadata"].Nodup)
  have hrecord : Record.ofDocument?
      ["provider_name", "flags_changed", "message", "error_code", "metadata"] d.toJson.written =
    some (.written d.fields) := Record.ofDocument?_written rfl hnodup
  have hprovider : (Record.written d.fields).defaulted? "provider_name" "" Document.toText? =
      some d.providerName := by
    rw [Record.defaulted?_written (j := .string d.providerName) hnodup (by simp [fields]),
      Document.toText?_written]
  have hflags : (Record.written d.fields).defaulted? "flags_changed" []
      (Document.toList? Document.toText?) = some d.flagsChanged := by
    rw [Record.defaulted?_written (j := .array (d.flagsChanged.map .string)) hnodup
      (by simp [fields]), Document.toList?_written fun s _ => Document.toText?_written s]
  have hmessage : (Record.written d.fields).optional? "message" Document.toText? =
    some d.message := Record.optional?_text hnodup (by simp [fields])
  have hcode : (Record.written d.fields).optional? "error_code" (decodeName? ErrorCode.ofName?) =
    some d.errorCode := Record.optional?_name hnodup ErrorCode.ofName?_name (by simp [fields])
  have hmetadata : (Record.written d.fields).defaulted? "metadata" .empty FlagMetadata.decode? =
      some d.metadata := by
    rw [Record.defaulted?_written (j := d.metadata.toJson) hnodup (by simp [fields]),
      FlagMetadata.decode?_written hfloat]
  rw [decode?, hrecord]
  simp only [Option.bind_eq_bind, Option.bind_some, hprovider, hflags, hmessage, hcode, hmetadata]

theorem hasFloat_toJson {d : EventDetails} (hfloat : d.metadata.hasFloat = false) :
    d.toJson.hasFloat = false := by
  have hmetadata := FlagMetadata.hasFloat_toJson hfloat
  simp [toJson, Json.hasFloat, Json.hasFloatMembers, hmetadata]

end EventDetails

/-! ### Answers and results -/

namespace Resolution

variable {r : Resolution FlagValue} {members : List (String × Json)}

/-- An answer as it is written. -/
def fields (r : Resolution FlagValue) : List (String × Json) :=
  [("value", r.value.toJson),
    ("variant", .ofText? r.variant),
    ("reason", .ofText? (r.reason.map Reason.name)),
    ("flag_metadata", r.metadata.toJson),
    ("error_code", .ofText? (r.errorCode.map ErrorCode.name)),
    ("error_message", .ofText? r.errorMessage)]

/-- A record in which the fields of an answer stand has them all when it is read; its value is
there unless it is nested too deep. -/
structure ReadFrom (record : Record) (levels : Nat) (r : Resolution FlagValue) : Prop where
  value : record.required? "value" (FlagValue.decode? levels) =
    if r.value.toJson.depth ≤ levels then some r.value else none
  variant : record.optional? "variant" Document.toText? = some r.variant
  reason : record.optional? "reason" (decodeName? Reason.ofName?) = some r.reason
  metadata : record.defaulted? "flag_metadata" .empty FlagMetadata.decode? = some r.metadata
  errorCode : record.optional? "error_code" (decodeName? ErrorCode.ofName?) = some r.errorCode
  errorMessage : record.optional? "error_message" Document.toText? = some r.errorMessage

theorem readFrom_written (hkeys : (members.map (·.1)).Nodup) (hfields : r.fields ⊆ members)
    (hvalid : r.value.check r.value.type = .ok ()) (hcanonical : r.value.Canonical)
    (hvalue : r.value.hasFloat = false) (hmetadata : r.metadata.hasFloat = false) (levels : Nat) :
    ReadFrom (.written members) levels r where
  value := by
    rw [Record.required?_written hkeys (hfields List.mem_cons_self),
      FlagValue.decode?_written hvalid hvalue hcanonical]
  variant := Record.optional?_text hkeys (hfields (by simp [fields]))
  reason := Record.optional?_name hkeys Reason.ofName?_name (hfields (by simp [fields]))
  metadata := by
    rw [Record.defaulted?_written (j := r.metadata.toJson) hkeys (hfields (by simp [fields])),
      FlagMetadata.decode?_written hmetadata]
  errorCode := Record.optional?_name hkeys ErrorCode.ofName?_name (hfields (by simp [fields]))
  errorMessage := Record.optional?_text hkeys (hfields (by simp [fields]))

/-- An answer spends one level on itself. -/
theorem depth_toJson (r : Resolution FlagValue) :
    r.toJson.depth = max r.value.toJson.depth 1 + 1 := by
  simp [toJson, Json.depth, depthMembers, FlagMetadata.depth_toJson]

theorem hasFloat_toJson (hvalue : r.value.hasFloat = false)
    (hmetadata : r.metadata.hasFloat = false) : r.toJson.hasFloat = false := by
  simp [toJson, Json.hasFloat, Json.hasFloatMembers, FlagValue.hasFloat_toJson hvalue,
    FlagMetadata.hasFloat_toJson hmetadata]

/-- **An answer is read as it was**, unless its value is nested too deep. -/
theorem decode?_written (hvalid : r.value.check r.value.type = .ok ())
    (hcanonical : r.value.Canonical) (hvalue : r.value.hasFloat = false)
    (hmetadata : r.metadata.hasFloat = false) {levels : Nat} (hlevels : 2 ≤ levels) :
    decode? FlagValue.decode? levels r.toJson.written =
      if r.toJson.depth ≤ levels then some r else none := by
  have hnodup : (r.fields.map (·.1)).Nodup := (by decide :
    ["value", "variant", "reason", "flag_metadata", "error_code", "error_message"].Nodup)
  have hrecord : Record.ofDocument?
      ["value", "variant", "reason", "flag_metadata", "error_code", "error_message"]
      r.toJson.written = some (.written r.fields) := Record.ofDocument?_written rfl hnodup
  have hread := readFrom_written hnodup (List.Subset.refl _) hvalid hcanonical hvalue hmetadata
    (levels - 1)
  rw [decode?, hrecord]
  simp only [Option.bind_eq_bind, Option.bind_some, hread.value, hread.variant, hread.reason,
    hread.metadata, hread.errorCode, hread.errorMessage, depth_toJson]
  exact bind_within (by omega) _ _

end Resolution

namespace EvaluationDetails

variable {d : EvaluationDetails FlagValue}

/-- The answer that a result was made from. -/
def answer (d : EvaluationDetails FlagValue) : Resolution FlagValue :=
  ⟨d.value, d.variant, d.reason, d.metadata, d.errorCode, d.errorMessage⟩

/-- A result as it is written. -/
def fields (d : EvaluationDetails FlagValue) : List (String × Json) :=
  [("flag_key", .string d.flagKey),
    ("value", d.value.toJson),
    ("variant", .ofText? d.variant),
    ("flag_metadata", d.metadata.toJson),
    ("reason", .ofText? (d.reason.map Reason.name)),
    ("error_code", .ofText? (d.errorCode.map ErrorCode.name)),
    ("error_message", .ofText? d.errorMessage)]

theorem fields_answer (d : EvaluationDetails FlagValue) : d.answer.fields ⊆ d.fields := by
  intro e he
  simp only [Resolution.fields, answer, List.mem_cons, List.not_mem_nil, or_false] at he
  simp only [fields, List.mem_cons, List.not_mem_nil, or_false]
  tauto

/-- A result is nested as deep as the answer. -/
theorem depth_toJson (d : EvaluationDetails FlagValue) :
    d.toJson.depth = d.answer.toJson.depth := by
  simp [toJson, answer, Json.depth, depthMembers, FlagMetadata.depth_toJson,
    Resolution.depth_toJson]

theorem hasFloat_toJson (hvalue : d.value.hasFloat = false)
    (hmetadata : d.metadata.hasFloat = false) : d.toJson.hasFloat = false := by
  simp [toJson, Json.hasFloat, Json.hasFloatMembers, FlagValue.hasFloat_toJson hvalue,
    FlagMetadata.hasFloat_toJson hmetadata]

/-- **A result is read as it was**, unless its value is nested too deep. -/
theorem decode?_written (hvalid : d.value.check d.value.type = .ok ())
    (hcanonical : d.value.Canonical) (hvalue : d.value.hasFloat = false)
    (hmetadata : d.metadata.hasFloat = false) {levels : Nat} (hlevels : 2 ≤ levels) :
    decode? FlagValue.decode? levels d.toJson.written =
      if d.toJson.depth ≤ levels then some d else none := by
  have hnodup : (d.fields.map (·.1)).Nodup := (by decide :
    ["flag_key", "value", "variant", "flag_metadata", "reason", "error_code",
      "error_message"].Nodup)
  have hrecord : Record.ofDocument?
      ["flag_key", "value", "variant", "flag_metadata", "reason", "error_code", "error_message"]
      d.toJson.written = some (.written d.fields) := Record.ofDocument?_written rfl hnodup
  have hkey : (Record.written d.fields).required? "flag_key" Document.toText? = some d.flagKey := by
    rw [Record.required?_written hnodup List.mem_cons_self, Document.toText?_written]
  have hread := Resolution.readFrom_written hnodup d.fields_answer hvalid hcanonical hvalue
    hmetadata (levels - 1)
  rw [decode?, hrecord]
  simp only [Option.bind_eq_bind, Option.bind_some, hkey, hread.value, hread.variant, hread.reason,
    hread.metadata, hread.errorCode, hread.errorMessage, depth_toJson, Resolution.depth_toJson]
  exact bind_within (by omega) _ _

end EvaluationDetails

/-! ### Whole texts -/

/-- **Errors, the details of events, answers and results are read as they were.**  A flag value has
to be valid for its own type, and the objects in it in order; no float may stand anywhere.  Answers
and results are read exactly if they are not nested too deep; errors and the details of events never
are. -/
theorem results_read_back :
    (∀ d : EventDetails, d.metadata.hasFloat = false →
      decodeText? (fun _ => EventDetails.decode?) d.toJson.render = some d) ∧
    (∀ e : EvaluationError,
      decodeText? (fun _ => EvaluationError.decode?) e.toJson.render = some e) ∧
    (∀ r : Resolution FlagValue, r.value.check r.value.type = .ok () → r.value.Canonical →
      r.value.hasFloat = false → r.metadata.hasFloat = false →
      decodeText? (Resolution.decode? FlagValue.decode?) r.toJson.render =
        if r.toJson.depth ≤ Json.maxNesting then some r else none) ∧
    (∀ d : EvaluationDetails FlagValue, d.value.check d.value.type = .ok () → d.value.Canonical →
      d.value.hasFloat = false → d.metadata.hasFloat = false →
      decodeText? (EvaluationDetails.decode? FlagValue.decode?) d.toJson.render =
        if d.toJson.depth ≤ Json.maxNesting then some d else none) := by
  refine ⟨fun d hfloat => ?_, fun e => ?_, fun r hvalid hcanonical hvalue hmetadata => ?_,
    fun d hvalid hcanonical hvalue hmetadata => ?_⟩
  · rw [decodeText?_render _ (EventDetails.hasFloat_toJson hfloat)]
    exact EventDetails.decode?_written hfloat
  · rw [decodeText?_render _ (EvaluationError.hasFloat_toJson e)]
    exact EvaluationError.decode?_written e
  · rw [decodeText?_render _ (Resolution.hasFloat_toJson hvalue hmetadata)]
    exact Resolution.decode?_written hvalid hcanonical hvalue hmetadata (by decide)
  · rw [decodeText?_render _ (EvaluationDetails.hasFloat_toJson hvalue hmetadata)]
    exact EvaluationDetails.decode?_written hvalid hcanonical hvalue hmetadata (by decide)

/-- An event, an answer and its result with what is easily lost: an integer beyond the signed range,
a null inside an object value, an empty variant and no message, and a text that looks like a
number. -/
theorem read_back_when_delicate :
    let metadata : FlagMetadata := .ofList [("n", .int (-1)), ("s", .string "-1")]
    let d : EventDetails := ⟨"", [], some "", none, metadata⟩
    let largest : Json := .number (.integer ⟨0xFFFFFFFFFFFFFFFF, by decide, by decide⟩)
    let r : Resolution FlagValue :=
      ⟨.object (.array [largest, .null, .object []]), some "", none, metadata, some .general, none⟩
    decodeText? (fun _ => EventDetails.decode?) d.toJson.render = some d ∧
      decodeText? (Resolution.decode? FlagValue.decode?) r.toJson.render = some r ∧
      decodeText? (EvaluationDetails.decode? FlagValue.decode?)
        (EvaluationDetails.ofResolution "f" r).toJson.render =
          some (EvaluationDetails.ofResolution "f" r) := by
  intro metadata d largest r
  obtain ⟨hevent, -, hanswer, hresult⟩ := results_read_back
  have hvalid : r.value.check r.value.type = .ok () := rfl
  have hcanonical : r.value.Canonical :=
    ⟨trivial, trivial, ⟨List.Pairwise.nil, trivial⟩, trivial⟩
  have hvalue : r.value.hasFloat = false := rfl
  have hmetadata : metadata.hasFloat = false := by decide
  refine ⟨hevent d hmetadata, ?_, ?_⟩
  · rw [hanswer r hvalid hcanonical hvalue hmetadata, if_pos (by decide)]
  · rw [hresult (.ofResolution "f" r) hvalid hcanonical hvalue hmetadata, if_pos (by decide)]

end FeatureFlags
