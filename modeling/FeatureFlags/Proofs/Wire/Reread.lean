import FeatureFlags.Proofs.Wire.Results
import FeatureFlags.Proofs.Wire.Untagged

/-!
# Values that have been read or built

The names in an object, and those in a structure, are in order however the value came about.  A
value that is read puts them in order itself, and a value that is built has its fields from a map,
which keeps them so.  What has been read is not nested deeper than it was allowed to be, either, and
holds no points in time; so it can be written and read again as it is.

## Main definitions

* `Json.Regular`, `ContextValue.Regular` — what is known of a value that has been read.

## Main results

* `Json.canonical_object`, `ContextValue.canonical_struct` — what is made of a map is in order.
* `EvaluationContext.canonical_withAttribute`, `EvaluationContext.canonical_merge`,
  `EvaluationContext.canonical_mergeAll` — **a context stays in order** while it is built.
* `Document.toJson?_regular`, `ContextValue.ofDocument?_regular` — **what is read is in order.**
* `EvaluationContext.reread`, `Resolution.reread`, `EvaluationDetails.reread` — **what has been read
  is read back as it is.**
-/

namespace FeatureFlags

open Json (depthItems depthMembers)

/-- Whatever is in a map that was made of entries is one of them. -/
theorem SortedMap.mem_ofList {α : Type} {entries : List (String × α)} {e : String × α}
    (h : e ∈ (SortedMap.ofList entries).entries) : e ∈ entries :=
  (Entries.mem_union h).resolve_left List.not_mem_nil

/-! ### Values that are built -/

namespace Json

theorem canonicalItems_iff {items : List Json} :
    CanonicalItems items ↔ ∀ item ∈ items, item.Canonical := by
  induction items with
  | nil => simp [CanonicalItems]
  | cons item rest ih => rw [CanonicalItems, ih, List.forall_mem_cons]

theorem canonicalMembers_iff {members : List (String × Json)} :
    CanonicalMembers members ↔ ∀ e ∈ members, e.2.Canonical := by
  induction members with
  | nil => simp [CanonicalMembers]
  | cons e rest ih => rw [CanonicalMembers, ih, List.forall_mem_cons]

theorem depthItems_le_iff {items : List Json} {levels : Nat} :
    depthItems items ≤ levels ↔ ∀ item ∈ items, item.depth ≤ levels := by
  induction items with
  | nil => simp [depthItems]
  | cons item rest ih => rw [depthItems, Nat.max_le, ih, List.forall_mem_cons]

/-- **An object that is made of a map is in order** if the values in the map are. -/
theorem canonical_object {map : SortedMap Json} (h : ∀ e ∈ map.entries, e.2.Canonical) :
    (Json.object map.entries).Canonical :=
  ⟨map.sorted, canonicalMembers_iff.mpr h⟩

end Json

namespace ContextValue

theorem canonicalItems_iff {items : List ContextValue} :
    CanonicalItems items ↔ ∀ item ∈ items, item.Canonical := by
  induction items with
  | nil => simp [CanonicalItems]
  | cons item rest ih => rw [CanonicalItems, ih, List.forall_mem_cons]

theorem canonicalFields_iff {fields : List (String × ContextValue)} :
    CanonicalFields fields ↔ ∀ e ∈ fields, e.2.Canonical := by
  induction fields with
  | nil => simp [CanonicalFields]
  | cons e rest ih => rw [CanonicalFields, ih, List.forall_mem_cons]

/-- **A structure that is made of a map is in order** if the values in the map are. -/
theorem canonical_struct {map : SortedMap ContextValue}
    (h : ∀ e ∈ map.entries, e.2.Canonical) : (struct map.entries).Canonical :=
  ⟨map.sorted, canonicalFields_iff.mpr h⟩

end ContextValue

namespace EvaluationContext

open ContextValue (canonicalFields_iff)

variable {ctx other : EvaluationContext}

theorem canonical_empty : Canonical empty := trivial

theorem canonical_ofKey (key : String) : Canonical (ofKey key) := trivial

theorem canonical_withTargetingKey (h : ctx.Canonical) (key : String) :
    (ctx.withTargetingKey key).Canonical := h

/-- A context stays in order when a value is put in that is. -/
theorem canonical_withAttribute (h : ctx.Canonical) (name : String) {value : ContextValue}
    (hvalue : value.Canonical) : (ctx.withAttribute name value).Canonical := by
  have hattributes := canonicalFields_iff.mp h
  refine canonicalFields_iff.mpr fun e he => ?_
  rcases Entries.mem_insert he with rfl | hold
  · exact hvalue
  · exact hattributes e hold

/-- Contexts that are in order are so when they are laid over each other. -/
theorem canonical_merge (h : ctx.Canonical) (hother : other.Canonical) :
    (ctx.merge other).Canonical := by
  have hbelow := canonicalFields_iff.mp h
  have habove := canonicalFields_iff.mp hother
  refine canonicalFields_iff.mpr fun e he => ?_
  rcases Entries.mem_union he with hmem | hmem
  · exact hbelow e hmem
  · exact habove e hmem

theorem canonical_mergeAll {contexts : List EvaluationContext}
    (h : ∀ ctx ∈ contexts, ctx.Canonical) : (mergeAll contexts).Canonical := by
  suffices hlaid : ∀ ground : EvaluationContext, ground.Canonical →
      (contexts.foldl merge ground).Canonical from hlaid empty canonical_empty
  induction contexts with
  | nil =>
    intro ground hground
    exact hground
  | cons first rest ih =>
    intro ground hground
    obtain ⟨hfirst, hrest⟩ := List.forall_mem_cons.mp h
    exact ih hrest _ (canonical_merge hground hfirst)

end EvaluationContext

/-! ### JSON data that is read -/

/-- JSON data as it is read within a bound on nesting. -/
structure Json.Regular (levels : Nat) (j : Json) : Prop where
  canonical : j.Canonical
  shallow : j.depth ≤ levels

namespace Document

open Json (Regular)

mutual

/-- **JSON data that is read is in order**, and it is not nested too deep. -/
theorem toJson?_regular (d : Document) {levels : Nat} (hreadable : d.readable levels = true)
    {j : Json} (h : d.toJson? = some j) : Regular levels j := by
  cases d with
  | null =>
    cases h
    exact ⟨trivial, Nat.zero_le _⟩
  | bool b =>
    cases h
    exact ⟨trivial, Nat.zero_le _⟩
  | number t =>
    obtain ⟨n, -, rfl⟩ := Option.map_eq_some_iff.mp h
    exact ⟨trivial, Nat.zero_le _⟩
  | string t =>
    obtain ⟨s, -, rfl⟩ := Option.map_eq_some_iff.mp h
    exact ⟨trivial, Nat.zero_le _⟩
  | array items =>
    obtain ⟨js, hjs, rfl⟩ := Option.map_eq_some_iff.mp h
    obtain ⟨hlevels, hitems⟩ := Bool.and_eq_true_iff.mp hreadable
    have hregular := toItems?_regular items hitems hjs
    refine ⟨Json.canonicalItems_iff.mpr fun j hj => (hregular j hj).canonical, ?_⟩
    have hdepth := Json.depthItems_le_iff.mpr fun j hj => (hregular j hj).shallow
    rw [Json.depth]
    have hpos := bne_iff_ne.mp hlevels
    omega
  | object members =>
    obtain ⟨ms, hms, rfl⟩ := Option.map_eq_some_iff.mp h
    obtain ⟨hlevels, hmembers⟩ := Bool.and_eq_true_iff.mp hreadable
    -- a repeated name keeps one of its values, so nothing is new in the map
    have hregular : ∀ e ∈ (SortedMap.ofList ms).entries, Regular (levels - 1) e.2 :=
      fun e he => toMembers?_regular members hmembers hms e (SortedMap.mem_ofList he)
    refine ⟨Json.canonical_object fun e he => (hregular e he).canonical, ?_⟩
    have hdepth : depthMembers (SortedMap.ofList ms).entries ≤ levels - 1 :=
      Json.depthMembers_le_iff.mpr fun e he => (hregular e he).shallow
    have hpos := bne_iff_ne.mp hlevels
    change depthMembers (SortedMap.ofList ms).entries + 1 ≤ levels
    omega

theorem toItems?_regular (items : List Document) {levels : Nat}
    (hreadable : readableItems levels items = true) {js : List Json}
    (h : toItems? items = some js) : ∀ j ∈ js, Regular levels j := by
  cases items with
  | nil =>
    cases h
    exact fun _ hj => absurd hj List.not_mem_nil
  | cons item rest =>
    obtain ⟨hitem, hrest⟩ := Bool.and_eq_true_iff.mp hreadable
    rw [toItems?] at h
    split at h
    next j js' hj hjs =>
      cases h
      exact List.forall_mem_cons.mpr
        ⟨toJson?_regular item hitem hj, toItems?_regular rest hrest hjs⟩
    next => cases h

theorem toMembers?_regular (members : List (StringText × Document)) {levels : Nat}
    (hreadable : readableMembers levels members = true) {ms : List (String × Json)}
    (h : toMembers? members = some ms) : ∀ e ∈ ms, Regular levels e.2 := by
  cases members with
  | nil =>
    cases h
    exact fun _ he => absurd he List.not_mem_nil
  | cons member rest =>
    obtain ⟨key, value⟩ := member
    obtain ⟨hfirst, hrest⟩ := Bool.and_eq_true_iff.mp hreadable
    obtain ⟨-, hvalue⟩ := Bool.and_eq_true_iff.mp hfirst
    rw [toMembers?] at h
    split at h
    next k j ms' hk hj hms =>
      cases h
      exact List.forall_mem_cons.mpr
        ⟨toJson?_regular value hvalue hj, toMembers?_regular rest hrest hms⟩
    next => cases h

end

end Document

/-- JSON data that a reader gives is in order. -/
theorem Json.decode?_regular {levels : Nat} {d : Document} {j : Json}
    (h : Json.decode? levels d = some j) : j.Regular levels := by
  rw [Json.decode?, Option.ite_none_right_eq_some] at h
  exact Document.toJson?_regular d h.1 h.2

@[simp] theorem Json.depth_ofBinary64 (x : Binary64) : (ofBinary64 x).depth = 0 := by
  rw [ofBinary64]
  split <;> rfl

/-! ### Context values that are read -/

namespace ContextValue

/-- A value as it is read within a bound on nesting. -/
structure Regular (levels : Nat) (v : ContextValue) : Prop where
  canonical : v.Canonical
  shallow : v.toJson.depth ≤ levels

theorem regular_ofNumber (levels : Nat) (n : Json.Number) : (ofNumber n).Regular levels := by
  cases n with
  | float x => exact ⟨trivial, by simp [ofNumber, toJson]⟩
  | integer i =>
    rw [ofNumber]
    cases i.toInt64? with
    | some i => exact ⟨trivial, Nat.zero_le _⟩
    | none => exact ⟨trivial, by simp [toJson]⟩

theorem itemsToJson_eq_map (items : List ContextValue) : itemsToJson items = items.map toJson := by
  induction items with
  | nil => rfl
  | cons item rest ih => rw [List.map_cons, ← ih, itemsToJson]

mutual

/-- **A value that is read is in order**, and it is not nested too deep. -/
theorem ofDocument?_regular (d : Document) {levels : Nat} (hreadable : d.readable levels = true)
    {v : ContextValue} (h : ofDocument? d = some v) : v.Regular levels := by
  cases d with
  | null => cases h
  | bool b =>
    cases h
    exact ⟨trivial, Nat.zero_le _⟩
  | number t =>
    obtain ⟨n, -, rfl⟩ := Option.map_eq_some_iff.mp h
    exact regular_ofNumber levels n
  | string t =>
    obtain ⟨s, -, rfl⟩ := Option.map_eq_some_iff.mp h
    exact ⟨trivial, Nat.zero_le _⟩
  | array items =>
    obtain ⟨vs, hvs, rfl⟩ := Option.map_eq_some_iff.mp h
    obtain ⟨hlevels, hitems⟩ := Bool.and_eq_true_iff.mp hreadable
    have hregular := ofItems?_regular items hitems hvs
    refine ⟨canonicalItems_iff.mpr fun v hv => (hregular v hv).canonical, ?_⟩
    have hdepth : depthItems (vs.map toJson) ≤ levels - 1 :=
      Json.depthItems_le_iff.mpr (List.forall_mem_map.mpr fun v hv => (hregular v hv).shallow)
    have hpos := bne_iff_ne.mp hlevels
    rw [toJson, Json.depth, itemsToJson_eq_map]
    omega
  | object members =>
    obtain ⟨fields, hfields, rfl⟩ := Option.map_eq_some_iff.mp h
    obtain ⟨hlevels, hmembers⟩ := Bool.and_eq_true_iff.mp hreadable
    have hregular : ∀ e ∈ (SortedMap.ofList fields).entries, Regular (levels - 1) e.2 :=
      fun e he => ofMembers?_regular members hmembers hfields e (SortedMap.mem_ofList he)
    refine ⟨canonical_struct fun e he => (hregular e he).canonical, ?_⟩
    have hdepth : depthMembers ((SortedMap.ofList fields).entries.map fun e => (e.1, e.2.toJson)) ≤
        levels - 1 :=
      Json.depthMembers_le_iff.mpr (List.forall_mem_map.mpr fun e he => (hregular e he).shallow)
    have hpos := bne_iff_ne.mp hlevels
    rw [toJson, Json.depth, fieldsToJson_eq_map]
    change depthMembers ((SortedMap.ofList fields).entries.map _) + 1 ≤ levels
    omega

theorem ofItems?_regular (items : List Document) {levels : Nat}
    (hreadable : Document.readableItems levels items = true) {vs : List ContextValue}
    (h : ofItems? items = some vs) : ∀ v ∈ vs, v.Regular levels := by
  cases items with
  | nil =>
    cases h
    exact fun _ hv => absurd hv List.not_mem_nil
  | cons item rest =>
    obtain ⟨hitem, hrest⟩ := Bool.and_eq_true_iff.mp hreadable
    rw [ofItems?] at h
    split at h
    next v vs' hv hvs =>
      cases h
      exact List.forall_mem_cons.mpr
        ⟨ofDocument?_regular item hitem hv, ofItems?_regular rest hrest hvs⟩
    next => cases h

theorem ofMembers?_regular (members : List (StringText × Document)) {levels : Nat}
    (hreadable : Document.readableMembers levels members = true)
    {fields : List (String × ContextValue)} (h : ofMembers? members = some fields) :
    ∀ e ∈ fields, e.2.Regular levels := by
  cases members with
  | nil =>
    cases h
    exact fun _ he => absurd he List.not_mem_nil
  | cons member rest =>
    obtain ⟨key, value⟩ := member
    obtain ⟨hfirst, hrest⟩ := Bool.and_eq_true_iff.mp hreadable
    obtain ⟨-, hvalue⟩ := Bool.and_eq_true_iff.mp hfirst
    rw [ofMembers?] at h
    split at h
    next k v fields' hk hv hfields =>
      cases h
      exact List.forall_mem_cons.mpr
        ⟨ofDocument?_regular value hvalue hv, ofMembers?_regular rest hrest hfields⟩
    next => cases h

end

theorem decode?_regular {levels : Nat} {d : Document} {v : ContextValue}
    (h : decode? levels d = some v) : v.Regular levels := by
  rw [decode?, Option.ite_none_right_eq_some] at h
  exact ofDocument?_regular d h.1 h.2

end ContextValue

/-! ### Contexts that are read -/

/-- What comes of a list of readings comes of one of them. -/
theorem exists_of_mapM {α β : Type} {f : α → Option β} {items : List α} {results : List β}
    (h : items.mapM f = some results) {b : β} (hb : b ∈ results) : ∃ a, f a = some b := by
  induction items generalizing results with
  | nil =>
    rw [List.mapM_nil] at h
    cases h
    exact absurd hb List.not_mem_nil
  | cons a rest ih =>
    simp only [List.mapM_cons, Option.bind_eq_bind, Option.bind_eq_some_iff, Option.pure_def,
      Option.some.injEq] at h
    obtain ⟨first, hfirst, later, hlater, rfl⟩ := h
    rcases List.mem_cons.mp hb with rfl | hrest
    · exact ⟨a, hfirst⟩
    · exact ih hlater hrest

/-- Whatever is in a map that has been read has been read itself. -/
theorem Document.exists_of_toMap? {α : Type} {read : Document → Option α} {d : Document}
    {map : SortedMap α} (h : toMap? read d = some map) {e : String × α} (he : e ∈ map.entries) :
    ∃ value, read value = some e.2 := by
  cases d with
  | object members =>
    obtain ⟨entries, hentries, rfl⟩ := Option.map_eq_some_iff.mp h
    obtain ⟨member, hmember⟩ := exists_of_mapM hentries (SortedMap.mem_ofList he)
    simp only [Option.bind_eq_bind, Option.bind_eq_some_iff, Option.some.injEq] at hmember
    obtain ⟨key, -, value, hvalue, rfl⟩ := hmember
    exact ⟨member.2, hvalue⟩
  | null | bool | number | string | array => cases h

namespace EvaluationContext

variable {ctx : EvaluationContext}

/-- Each attribute of a context that has been read has been read itself. -/
theorem exists_of_decode? {levels : Nat} {d : Document} (h : decode? levels d = some ctx)
    {e : String × ContextValue} (he : e ∈ ctx.attributes.entries) :
    ∃ value, ContextValue.decode? (levels - 2) value = some e.2 := by
  simp only [decode?, Option.bind_eq_bind, Option.bind_eq_some_iff, Option.some.injEq] at h
  obtain ⟨r, -, targetingKey, -, attributes, hattributes, rfl⟩ := h
  rw [Record.defaulted?] at hattributes
  split at hattributes
  · cases hattributes
    exact absurd he List.not_mem_nil
  · exact Document.exists_of_toMap? hattributes he

/-- **A context that has been read is in order.** -/
theorem canonical_of_decode? {levels : Nat} {d : Document} (h : decode? levels d = some ctx) :
    ctx.Canonical := by
  refine ContextValue.canonicalFields_iff.mpr fun e he => ?_
  obtain ⟨value, hvalue⟩ := exists_of_decode? h he
  exact (ContextValue.decode?_regular hvalue).canonical

/-- **A context that has been read is read back as it is**, if no float stands in it. -/
theorem reread {text : String} (h : decodeText? decode? text = some ctx)
    (hfloat : ctx.hasScalar ContextValue.isFloat = false) :
    decodeText? decode? ctx.toJson.render = some ctx := by
  obtain ⟨d, -, hread⟩ := Option.bind_eq_some_iff.mp h
  have hregular : ∀ e ∈ ctx.attributes.entries, e.2.Regular (Json.maxNesting - 2) := by
    intro e he
    obtain ⟨value, hvalue⟩ := exists_of_decode? hread he
    exact ContextValue.decode?_regular hvalue
  have hdepth : ctx.toJson.depth ≤ Json.maxNesting := by
    have hattributes : depthMembers (ContextValue.fieldsToJson ctx.attributes.entries) ≤
        Json.maxNesting - 2 := by
      rw [ContextValue.fieldsToJson_eq_map]
      exact Json.depthMembers_le_iff.mpr
        (List.forall_mem_map.mpr fun e he => (hregular e he).shallow)
    rw [depth_toJson]
    exact Nat.add_le_of_le_sub (by decide) hattributes
  have hundated : ctx.hasScalar ContextValue.isTimestamp = false := by
    refine ContextValue.hasScalarFields_eq_false_iff.mpr fun e he => ?_
    obtain ⟨value, hvalue⟩ := exists_of_decode? hread he
    rw [ContextValue.decode?, Option.ite_none_right_eq_some] at hvalue
    exact ContextValue.no_timestamp_of_ofDocument? value hvalue.2
  rw [decodeText?_render _ (hasFloat_toJson hfloat),
    decode?_written hfloat (canonical_of_decode? hread) (by decide), if_pos hdepth,
    asRead_of_no_timestamp hundated]

end EvaluationContext

/-! ### Answers and results that are read -/

namespace FlagValue

theorem depth_ofNumber (n : Json.Number) : (ofNumber n).toJson.depth = 0 := by
  cases n with
  | float x => exact Json.depth_ofBinary64 x
  | integer i =>
    rw [ofNumber]
    cases i.toInt64? with
    | some i => rfl
    | none => exact Json.depth_ofBinary64 _

theorem canonical_ofNumber (n : Json.Number) : (ofNumber n).Canonical := by
  cases n with
  | float x => trivial
  | integer i =>
    rw [ofNumber]
    cases i.toInt64? <;> trivial

/-- **A flag value that is read is in order**, and it is not nested too deep. -/
theorem decode?_regular {levels : Nat} {d : Document} {v : FlagValue}
    (h : decode? levels d = some v) : v.Canonical ∧ v.toJson.depth ≤ levels := by
  rw [decode?, Option.ite_none_right_eq_some] at h
  obtain ⟨hreadable, hread⟩ := h
  have hobject : d.toJson?.map object = some v → v.Canonical ∧ v.toJson.depth ≤ levels := by
    intro hjson
    obtain ⟨j, hj, rfl⟩ := Option.map_eq_some_iff.mp hjson
    have hregular := Document.toJson?_regular d hreadable hj
    exact ⟨hregular.canonical, hregular.shallow⟩
  cases d with
  | bool b =>
    cases hread
    exact ⟨trivial, Nat.zero_le _⟩
  | number t =>
    obtain ⟨n, -, rfl⟩ := Option.map_eq_some_iff.mp hread
    exact ⟨canonical_ofNumber n, by simp [depth_ofNumber]⟩
  | string t =>
    obtain ⟨s, -, rfl⟩ := Option.map_eq_some_iff.mp hread
    exact ⟨trivial, Nat.zero_le _⟩
  | null | array | object => exact hobject hread

end FlagValue

/-- A field that must be there has been read. -/
theorem Record.exists_of_required? {α : Type} {r : Record} {name : String}
    {read : Document → Option α} {a : α} (h : r.required? name read = some a) :
    ∃ d, read d = some a := by
  obtain ⟨d, -, hread⟩ := Option.bind_eq_some_iff.mp h
  exact ⟨d, hread⟩

namespace Resolution

variable {r : Resolution FlagValue}

/-- The value of an answer that has been read has been read itself. -/
theorem exists_of_decode? {levels : Nat} {d : Document}
    (h : decode? FlagValue.decode? levels d = some r) :
    ∃ value, FlagValue.decode? (levels - 1) value = some r.value := by
  simp only [decode?, Option.bind_eq_bind, Option.bind_eq_some_iff, Option.some.injEq] at h
  obtain ⟨record, -, value, hvalue, -, -, -, -, -, -, -, -, -, -, rfl⟩ := h
  exact Record.exists_of_required? hvalue

/-- **An answer that has been read is read back as it is**, if its value is valid for its own type
and no float stands in it. -/
theorem reread {text : String} (h : decodeText? (decode? FlagValue.decode?) text = some r)
    (hvalid : r.value.check r.value.type = .ok ()) (hvalue : r.value.hasFloat = false)
    (hmetadata : r.metadata.hasFloat = false) :
    decodeText? (decode? FlagValue.decode?) r.toJson.render = some r := by
  obtain ⟨d, -, hread⟩ := Option.bind_eq_some_iff.mp h
  obtain ⟨value, hfield⟩ := exists_of_decode? hread
  obtain ⟨hcanonical, hshallow⟩ := FlagValue.decode?_regular hfield
  have hdepth : r.toJson.depth ≤ Json.maxNesting := by
    rw [depth_toJson]
    exact Nat.add_le_of_le_sub (by decide) (Nat.max_le.mpr ⟨hshallow, by decide⟩)
  rw [decodeText?_render _ (hasFloat_toJson hvalue hmetadata),
    decode?_written hvalid hcanonical hvalue hmetadata (by decide), if_pos hdepth]

end Resolution

namespace EvaluationDetails

variable {d : EvaluationDetails FlagValue}

/-- The value of a result that has been read has been read itself. -/
theorem exists_of_decode? {levels : Nat} {document : Document}
    (h : decode? FlagValue.decode? levels document = some d) :
    ∃ value, FlagValue.decode? (levels - 1) value = some d.value := by
  simp only [decode?, Option.bind_eq_bind, Option.bind_eq_some_iff, Option.some.injEq] at h
  obtain ⟨record, -, flagKey, -, value, hvalue, -, -, -, -, -, -, -, -, -, -, rfl⟩ := h
  exact Record.exists_of_required? hvalue

/-- **A result that has been read is read back as it is**, if its value is valid for its own type
and no float stands in it. -/
theorem reread {text : String} (h : decodeText? (decode? FlagValue.decode?) text = some d)
    (hvalid : d.value.check d.value.type = .ok ()) (hvalue : d.value.hasFloat = false)
    (hmetadata : d.metadata.hasFloat = false) :
    decodeText? (decode? FlagValue.decode?) d.toJson.render = some d := by
  obtain ⟨document, -, hread⟩ := Option.bind_eq_some_iff.mp h
  obtain ⟨value, hfield⟩ := exists_of_decode? hread
  obtain ⟨hcanonical, hshallow⟩ := FlagValue.decode?_regular hfield
  have hdepth : d.toJson.depth ≤ Json.maxNesting := by
    rw [depth_toJson, Resolution.depth_toJson]
    exact Nat.add_le_of_le_sub (by decide) (Nat.max_le.mpr ⟨hshallow, by decide⟩)
  rw [decodeText?_render _ (hasFloat_toJson hvalue hmetadata),
    decode?_written hvalid hcanonical hvalue hmetadata (by decide), if_pos hdepth]

end EvaluationDetails

end FeatureFlags
