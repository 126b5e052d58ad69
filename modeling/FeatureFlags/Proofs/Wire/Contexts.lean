import FeatureFlags.Proofs.Context.Scalars
import FeatureFlags.Proofs.Wire.Records

/-!
# Contexts that are read back

A bare value does not say of which kind it is, so what is read is of the first kind that fits.
For every value without floats that is the kind it was written from, with one exception: nothing is
read as a point in time, which comes back as the text it was written as.

## Main definitions

* `ContextValue.asRead`, `EvaluationContext.asRead` — points in time replaced by their texts.

## Main results

* `ContextValue.ofDocument?_written` — a value without floats is read as it was, up to points in
  time.
* `EvaluationContext.read_back` — **so is a context**, if it is not nested too deep.
-/

namespace FeatureFlags

open Json (depthMembers hasFloatItems hasFloatMembers writtenItems writtenMembers)

namespace ContextValue

/-! ### What is lost -/

def isFloat : ContextValue → Bool
  | float _ => true
  | _ => false

def isTimestamp : ContextValue → Bool
  | timestamp _ => true
  | _ => false

mutual

/-- A value as it is read back: points in time are replaced by their texts. -/
def asRead : ContextValue → ContextValue
  | timestamp t => string t.render
  | list items => list (asReadItems items)
  | struct fields => struct (asReadFields fields)
  | scalar => scalar

def asReadItems : List ContextValue → List ContextValue
  | [] => []
  | item :: rest => asRead item :: asReadItems rest

def asReadFields : List (String × ContextValue) → List (String × ContextValue)
  | [] => []
  | (name, value) :: rest => (name, asRead value) :: asReadFields rest

end

mutual

/-- A value without points in time is read as it is. -/
theorem asRead_of_no_timestamp (v : ContextValue) (h : v.hasScalar isTimestamp = false) :
    v.asRead = v := by
  cases v with
  | bool | int | float | string => rfl
  | timestamp t => exact absurd h.symm Bool.false_ne_true
  | list items => rw [asRead, asReadItems_of_no_timestamp items h]
  | struct fields => rw [asRead, asReadFields_of_no_timestamp fields h]

theorem asReadItems_of_no_timestamp (items : List ContextValue)
    (h : hasScalarItems isTimestamp items = false) : asReadItems items = items := by
  cases items with
  | nil => rfl
  | cons item rest =>
    obtain ⟨hitem, hrest⟩ := Bool.or_eq_false_iff.mp h
    rw [asReadItems, asRead_of_no_timestamp item hitem, asReadItems_of_no_timestamp rest hrest]

theorem asReadFields_of_no_timestamp (fields : List (String × ContextValue))
    (h : hasScalarFields isTimestamp fields = false) : asReadFields fields = fields := by
  cases fields with
  | nil => rfl
  | cons field rest =>
    obtain ⟨name, value⟩ := field
    obtain ⟨hvalue, hrest⟩ := Bool.or_eq_false_iff.mp h
    rw [asReadFields, asRead_of_no_timestamp value hvalue, asReadFields_of_no_timestamp rest hrest]

end

mutual

/-- What is read back is written as before. -/
theorem toJson_asRead (v : ContextValue) : v.asRead.toJson = v.toJson := by
  cases v with
  | bool | int | float | string | timestamp => rfl
  | list items => rw [asRead, toJson, toJson, itemsToJson_asRead items]
  | struct fields => rw [asRead, toJson, toJson, fieldsToJson_asRead fields]

theorem itemsToJson_asRead (items : List ContextValue) :
    itemsToJson (asReadItems items) = itemsToJson items := by
  cases items with
  | nil => rfl
  | cons item rest =>
    rw [asReadItems, itemsToJson, itemsToJson, toJson_asRead item, itemsToJson_asRead rest]

theorem fieldsToJson_asRead (fields : List (String × ContextValue)) :
    fieldsToJson (asReadFields fields) = fieldsToJson fields := by
  cases fields with
  | nil => rfl
  | cons field rest =>
    obtain ⟨name, value⟩ := field
    rw [asReadFields, fieldsToJson, fieldsToJson, toJson_asRead value, fieldsToJson_asRead rest]

end

theorem asReadFields_eq_map (fields : List (String × ContextValue)) :
    asReadFields fields = fields.map fun e => (e.1, e.2.asRead) := by
  induction fields with
  | nil => rfl
  | cons field rest ih => rw [List.map_cons, ← ih, asReadFields]

theorem fieldsToJson_eq_map (fields : List (String × ContextValue)) :
    fieldsToJson fields = fields.map fun e => (e.1, e.2.toJson) := by
  induction fields with
  | nil => rfl
  | cons field rest ih => rw [List.map_cons, ← ih, fieldsToJson]

/-! ### What is read -/

mutual

/-- A value without floats is written without floats. -/
theorem hasFloat_toJson (v : ContextValue) (h : v.hasScalar isFloat = false) :
    v.toJson.hasFloat = false := by
  cases v with
  | bool | int | string | timestamp => rfl
  | float x => exact absurd h.symm Bool.false_ne_true
  | list items => exact hasFloat_itemsToJson items h
  | struct fields => exact hasFloat_fieldsToJson fields h

theorem hasFloat_itemsToJson (items : List ContextValue)
    (h : hasScalarItems isFloat items = false) :
    hasFloatItems (itemsToJson items) = false := by
  cases items with
  | nil => rfl
  | cons item rest =>
    obtain ⟨hitem, hrest⟩ := Bool.or_eq_false_iff.mp h
    rw [itemsToJson, hasFloatItems, hasFloat_toJson item hitem, hasFloat_itemsToJson rest hrest]
    rfl

theorem hasFloat_fieldsToJson (fields : List (String × ContextValue))
    (h : hasScalarFields isFloat fields = false) :
    hasFloatMembers (fieldsToJson fields) = false := by
  cases fields with
  | nil => rfl
  | cons field rest =>
    obtain ⟨name, value⟩ := field
    obtain ⟨hvalue, hrest⟩ := Bool.or_eq_false_iff.mp h
    rw [fieldsToJson, hasFloatMembers, hasFloat_toJson value hvalue,
      hasFloat_fieldsToJson rest hrest]
    rfl

end

/-- Fields that are read keep their order. -/
theorem sorted_asReadFields {fields : List (String × ContextValue)} (h : Entries.Sorted fields) :
    Entries.Sorted (asReadFields fields) := by
  rw [asReadFields_eq_map, Entries.Sorted, List.pairwise_map]
  exact h

mutual

/-- **A value without floats is read as it was, up to points in time.** -/
theorem ofDocument?_written (v : ContextValue) (hfloat : v.hasScalar isFloat = false)
    (hcanonical : v.Canonical) : ofDocument? v.toJson.written = some v.asRead := by
  cases v with
  | bool b => rfl
  | int i =>
    change ((NumberText.ofInt (Json.Integer.ofInt64 i).val).value?.map ofNumber) = _
    rw [NumberText.value?_ofInt, Option.map_some, ofNumber, Json.Integer.toInt64?_ofInt64]
    rfl
  | float x => exact absurd hfloat.symm Bool.false_ne_true
  | string s =>
    change (StringText.ofString s).value?.map string = _
    rw [StringText.value?_ofString]
    rfl
  | timestamp t =>
    change (StringText.ofString t.render).value?.map string = _
    rw [StringText.value?_ofString]
    rfl
  | list items =>
    rw [toJson, Json.written, ofDocument?, ofItems?_written items hfloat hcanonical]
    rfl
  | struct fields =>
    rw [toJson, Json.written, ofDocument?, ofMembers?_written fields hfloat hcanonical.2,
      Option.map_some, Entries.nil_union (sorted_asReadFields hcanonical.1)]
    rfl

theorem ofItems?_written (items : List ContextValue)
    (hfloat : hasScalarItems isFloat items = false) (hcanonical : CanonicalItems items) :
    ofItems? (writtenItems (itemsToJson items)) = some (asReadItems items) := by
  cases items with
  | nil => rfl
  | cons item rest =>
    obtain ⟨hitem, hrest⟩ := Bool.or_eq_false_iff.mp hfloat
    rw [itemsToJson, writtenItems, ofItems?, ofDocument?_written item hitem hcanonical.1,
      ofItems?_written rest hrest hcanonical.2]
    rfl

theorem ofMembers?_written (fields : List (String × ContextValue))
    (hfloat : hasScalarFields isFloat fields = false) (hcanonical : CanonicalFields fields) :
    ofMembers? (writtenMembers (fieldsToJson fields)) = some (asReadFields fields) := by
  cases fields with
  | nil => rfl
  | cons field rest =>
    obtain ⟨name, value⟩ := field
    obtain ⟨hvalue, hrest⟩ := Bool.or_eq_false_iff.mp hfloat
    rw [fieldsToJson, writtenMembers, ofMembers?, StringText.value?_ofString,
      ofDocument?_written value hvalue hcanonical.1, ofMembers?_written rest hrest hcanonical.2]
    rfl

end

/-- Within a bound on nesting a value is read exactly if it is not nested deeper. -/
theorem decode?_written (v : ContextValue) (hfloat : v.hasScalar isFloat = false)
    (hcanonical : v.Canonical) (levels : Nat) :
    decode? levels v.toJson.written = if v.toJson.depth ≤ levels then some v.asRead else none := by
  rw [decode?, ofDocument?_written v hfloat hcanonical]
  simp only [Json.readable_written v.toJson (hasFloat_toJson v hfloat)]

/-- What holds of fields holds of each of them. -/
theorem of_mem_fields {fields : List (String × ContextValue)}
    (hfloat : hasScalarFields isFloat fields = false) (hcanonical : CanonicalFields fields)
    {e : String × ContextValue} (he : e ∈ fields) :
    e.2.hasScalar isFloat = false ∧ e.2.Canonical := by
  induction fields with
  | nil => exact absurd he List.not_mem_nil
  | cons field rest ih =>
    obtain ⟨hvalue, hrest⟩ := Bool.or_eq_false_iff.mp hfloat
    rcases List.mem_cons.mp he with rfl | hlater
    · exact ⟨hvalue, hcanonical.1⟩
    · exact ih hrest hcanonical.2 hlater

end ContextValue

namespace EvaluationContext

open ContextValue (fieldsToJson isFloat isTimestamp)

/-! ### Contexts -/

/-- The fields of every structure are in order; the attributes are anyway. -/
def Canonical (ctx : EvaluationContext) : Prop :=
  ContextValue.CanonicalFields ctx.attributes.entries

/-- A context as it is read back. -/
def asRead (ctx : EvaluationContext) : EvaluationContext :=
  { ctx with attributes := ctx.attributes.mapValues ContextValue.asRead }

/-- The fields of a context as they are written. -/
def fields (ctx : EvaluationContext) : List (String × Json) :=
  [("targeting_key", .ofText? ctx.targetingKey),
    ("attributes", .object (fieldsToJson ctx.attributes.entries))]

theorem entries_asRead (ctx : EvaluationContext) :
    ctx.asRead.attributes.entries = ContextValue.asReadFields ctx.attributes.entries :=
  (ContextValue.asReadFields_eq_map _).symm

/-- A context without points in time is read as it is. -/
theorem asRead_of_no_timestamp {ctx : EvaluationContext} (h : ctx.hasScalar isTimestamp = false) :
    ctx.asRead = ctx := by
  have hattributes : ctx.asRead.attributes = ctx.attributes := by
    apply SortedMap.ext
    rw [entries_asRead, ContextValue.asReadFields_of_no_timestamp _ h]
  exact congrArg (EvaluationContext.mk ctx.targetingKey) hattributes

/-- What is read back is written as before. -/
theorem toJson_asRead (ctx : EvaluationContext) : ctx.asRead.toJson = ctx.toJson := by
  rw [toJson, entries_asRead, ContextValue.fieldsToJson_asRead]
  rfl

theorem hasFloat_toJson {ctx : EvaluationContext} (h : ctx.hasScalar isFloat = false) :
    ctx.toJson.hasFloat = false := by
  have hattributes := ContextValue.hasFloat_fieldsToJson _ h
  rw [toJson, Json.hasFloat, Json.hasFloatMembers_eq_false_iff]
  simp [Json.hasFloat, hattributes]

/-- A context spends one level on itself and one on its attributes. -/
theorem depth_toJson (ctx : EvaluationContext) :
    ctx.toJson.depth = depthMembers (fieldsToJson ctx.attributes.entries) + 2 := by
  rw [toJson, Json.depth, depthMembers, depthMembers, depthMembers, Json.depth]
  simp

/-- The attributes are read within a bound exactly if none of them is nested deeper. -/
theorem attributes_written {ctx : EvaluationContext} (hfloat : ctx.hasScalar isFloat = false)
    (hcanonical : ctx.Canonical) (levels : Nat) :
    Document.toMap? (ContextValue.decode? levels)
        (Json.object (fieldsToJson ctx.attributes.entries)).written =
      if depthMembers (fieldsToJson ctx.attributes.entries) ≤ levels then
        some ctx.asRead.attributes else none := by
  have hread : ∀ e ∈ ctx.attributes.entries, ContextValue.decode? levels e.2.toJson.written =
      if e.2.toJson.depth ≤ levels then some e.2.asRead else none := by
    intro e he
    obtain ⟨hvalue, hordered⟩ := ContextValue.of_mem_fields hfloat hcanonical he
    exact ContextValue.decode?_written e.2 hvalue hordered levels
  rw [ContextValue.fieldsToJson_eq_map]
  split
  next hdepth =>
    rw [Json.depthMembers_le_iff, List.forall_mem_map] at hdepth
    rw [Document.toMap?_written fun e he => (hread e he).trans (if_pos (hdepth e he))]
    exact congrArg some (SortedMap.ofList_entries ctx.asRead.attributes)
  next hdepth =>
    rw [Json.depthMembers_le_iff, List.forall_mem_map] at hdepth
    obtain ⟨e, he⟩ := not_forall.mp hdepth
    obtain ⟨hmem, hdeep⟩ := Classical.not_imp.mp he
    exact Document.toMap?_eq_none (List.mem_map_of_mem hmem) ((hread e hmem).trans (if_neg hdeep))

/-- Within a bound on nesting a context is read exactly if it is not nested deeper. -/
theorem decode?_written {ctx : EvaluationContext} (hfloat : ctx.hasScalar isFloat = false)
    (hcanonical : ctx.Canonical) {levels : Nat} (hlevels : 2 ≤ levels) :
    decode? levels ctx.toJson.written =
      if ctx.toJson.depth ≤ levels then some ctx.asRead else none := by
  have hnodup : (ctx.fields.map (·.1)).Nodup := (by decide : ["targeting_key", "attributes"].Nodup)
  have hrecord : Record.ofDocument? ["targeting_key", "attributes"] ctx.toJson.written =
    some (.written ctx.fields) := Record.ofDocument?_written rfl hnodup
  have hkey : (Record.written ctx.fields).optional? "targeting_key" Document.toText? =
    some ctx.targetingKey := Record.optional?_text hnodup List.mem_cons_self
  have hattributes := Record.defaulted?_written hnodup
    (List.mem_cons_of_mem _ List.mem_cons_self) .empty
    (Document.toMap? (ContextValue.decode? (levels - 2)))
  rw [attributes_written hfloat hcanonical] at hattributes
  rw [decode?, hrecord]
  simp only [Option.bind_eq_bind, Option.bind_some, hkey, hattributes, depth_toJson]
  exact bind_within (by omega) _ _

/-- **A context without floats is read as it was, up to points in time**, unless it is nested too
deep. -/
theorem read_back (ctx : EvaluationContext) (hfloat : ctx.hasScalar isFloat = false)
    (hcanonical : ctx.Canonical) :
    decodeText? decode? ctx.toJson.render =
        (if ctx.toJson.depth ≤ Json.maxNesting then some ctx.asRead else none) ∧
      (ctx.hasScalar isTimestamp = false → ctx.asRead = ctx) ∧
      ctx.asRead.toJson.render = ctx.toJson.render := by
  refine ⟨?_, asRead_of_no_timestamp, by rw [toJson_asRead]⟩
  rw [decodeText?_render _ (hasFloat_toJson hfloat)]
  exact decode?_written hfloat hcanonical (by decide)

/-- A context with an empty targeting key, and with a point in time in a structure in a list: only
the point in time is changed, and what is read is written as before. -/
theorem read_back_when_nested :
    let ctx (value : ContextValue) : EvaluationContext :=
      ⟨some "", .ofList [("when", .list [.struct [("t", value)]]), ("n", .int (-7))]⟩
    let dated := ctx (.timestamp ⟨0, 0, by decide⟩)
    dated.hasScalar isFloat = false ∧ dated.Canonical ∧
      decodeText? decode? dated.toJson.render = some (ctx (.string "1970-01-01T00:00:00Z")) ∧
      dated.asRead.toJson.render = dated.toJson.render := by
  intro ctx dated
  have hfloat : dated.hasScalar isFloat = false := by decide
  have hcanonical : dated.Canonical :=
    ⟨trivial, ⟨⟨List.pairwise_singleton _ _, trivial, trivial⟩, trivial⟩, trivial⟩
  obtain ⟨hread, -, hsame⟩ := read_back dated hfloat hcanonical
  refine ⟨hfloat, hcanonical, ?_, hsame⟩
  rw [hread, if_pos (by decide)]
  rfl

end EvaluationContext

end FeatureFlags
