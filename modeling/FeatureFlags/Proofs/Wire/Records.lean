import FeatureFlags.Proofs.Json.Written
import FeatureFlags.Wire.Decode
import FeatureFlags.Wire.Encode

/-!
# Records that are read back

A record is written as an object of its fields.  When it is read, every field is found again, as
it was written; what each kind of field makes of that is said once and for all kinds of records.

## Main results

* `decodeText?_render` — what is written is parsed before anything is made of it.
* `Record.ofDocument?_written` — the fields of a record are those that were written.
* `Record.optional?_text`, `Record.optional?_name` — a field that may be absent, and absent is told
  from empty.
* `Document.toList?_written`, `Document.toMap?_written` — fields of several values.
-/

namespace FeatureFlags

open Json (depthMembers hasFloatItems hasFloatMembers writtenItems writtenMembers)

/-! ### Fields -/

/-- A signed 64-bit word is one again when it is read. -/
@[simp] theorem Json.Integer.toInt64?_ofInt64 (i : Int64) : (ofInt64 i).toInt64? = some i := by
  have hupper : (ofInt64 i).val < 0x8000000000000000 := i.toInt_lt
  rw [toInt64?, if_pos hupper]
  exact congrArg some (Int64.ofInt_toInt i)

/-- A reader is applied to what was written. -/
theorem decodeText?_render {α : Type} (read : Nat → Document → Option α) {j : Json}
    (h : j.hasFloat = false) : decodeText? read j.render = read Json.maxNesting j.written := by
  rw [decodeText?, Json.parseDocument?_render j h, Option.bind_some]

/-- A text is read as it was. -/
theorem Document.toText?_written (s : String) : toText? (Json.string s).written = some s := by
  rw [Json.written, toText?, StringText.value?_ofString]

/-- A member of a closed set is read by its name. -/
theorem decodeName?_written {α : Type} {nameOf : α → String} {ofName? : String → Option α}
    (hnames : ∀ a, ofName? (nameOf a) = some a) (a : α) :
    decodeName? ofName? (Json.string (nameOf a)).written = some a := by
  rw [Json.written, decodeName?, StringText.value?_ofString, Option.bind_some, hnames]

namespace Record

variable {names : List String} {members : List (String × Json)} {name : String} {α : Type}

/-- The fields that were written, each with its name. -/
def written (members : List (String × Json)) : Record :=
  ⟨true, members.map fun e => (e.1, e.2.written)⟩

theorem select?_written (hknown : ∀ e ∈ members, e.1 ∈ names)
    (hkeys : (members.map (·.1)).Nodup) :
    select? names (writtenMembers members) =
      some (members.map fun e => (e.1, e.2.written)) := by
  induction members with
  | nil => rfl
  | cons e members ih =>
    obtain ⟨hfirst, hkeys⟩ := List.nodup_cons.mp hkeys
    obtain ⟨hname, hknown⟩ := List.forall_mem_cons.mp hknown
    have hnew : (members.map fun e => (e.1, e.2.written)).any (·.1 == e.1) = false := by
      rw [List.any_eq_false]
      rintro f hf heq
      obtain ⟨other, hother, rfl⟩ := List.mem_map.mp hf
      exact hfirst (List.mem_map.mpr ⟨other, hother, beq_iff_eq.mp heq⟩)
    rw [writtenMembers, select?, StringText.value?_ofString, ih hknown hkeys]
    dsimp only
    rw [if_pos (List.contains_iff_mem.mpr hname), hnew]
    rfl

/-- **The fields of a record are those that were written.** -/
theorem ofDocument?_written (hnames : members.map (·.1) = names) (hnodup : names.Nodup) :
    ofDocument? names (Json.object members).written = some (written members) := by
  subst hnames
  rw [Json.written, ofDocument?, select?_written (fun e he => List.mem_map_of_mem he) hnodup]
  rfl

section Fields

variable {j : Json} (hkeys : (members.map (·.1)).Nodup)
include hkeys

/-- A field is found as it was written. -/
theorem find?_written (hmem : (name, j) ∈ members) :
    (written members).find? name = some j.written := by
  rw [find?, written]
  dsimp only
  induction members with
  | nil => exact absurd hmem List.not_mem_nil
  | cons e members ih =>
    obtain ⟨hfirst, hkeys⟩ := List.nodup_cons.mp hkeys
    rw [List.map_cons, List.find?_cons]
    rcases List.mem_cons.mp hmem with rfl | hlater
    · simp
    · have hother : (e.1 == name) = false := by
        rw [beq_eq_false_iff_ne]
        intro heq
        exact hfirst (List.mem_map.mpr ⟨(name, j), hlater, heq.symm⟩)
      rw [hother]
      exact ih hkeys hlater

theorem required?_written (hmem : (name, j) ∈ members) (read : Document → Option α) :
    (written members).required? name read = read j.written := by
  rw [required?, find?_written hkeys hmem, Option.bind_some]

theorem defaulted?_written (hmem : (name, j) ∈ members) (fallback : α)
    (read : Document → Option α) :
    (written members).defaulted? name fallback read = read j.written := by
  rw [defaulted?, find?_written hkeys hmem]

/-- A text that may be absent; an absent one is not an empty one. -/
theorem optional?_text {o : Option String} (hmem : (name, .ofText? o) ∈ members) :
    (written members).optional? name Document.toText? = some o := by
  rw [optional?, find?_written hkeys hmem]
  cases o with
  | none => rfl
  | some s =>
    change (Document.toText? (Json.string s).written).map some = _
    rw [Document.toText?_written]
    rfl

/-- A member of a closed set that may be absent. -/
theorem optional?_name {nameOf : α → String} {ofName? : String → Option α}
    (hnames : ∀ a, ofName? (nameOf a) = some a) {o : Option α}
    (hmem : (name, .ofText? (o.map nameOf)) ∈ members) :
    (written members).optional? name (decodeName? ofName?) = some o := by
  rw [optional?, find?_written hkeys hmem]
  cases o with
  | none => rfl
  | some a =>
    change (decodeName? ofName? (Json.string (nameOf a)).written).map some = _
    rw [decodeName?_written hnames]
    rfl

end Fields

end Record

/-! ### Fields of several values -/

namespace Document

variable {α β : Type}

/-- Items that are each read as what they were written from. -/
theorem toList?_written {read : Document → Option α} {encode : α → Json} {items : List α}
    (h : ∀ a ∈ items, read (encode a).written = some a) :
    toList? read (Json.array (items.map encode)).written = some items := by
  rw [Json.written, toList?]
  induction items with
  | nil => rfl
  | cons a items ih =>
    obtain ⟨ha, hrest⟩ := List.forall_mem_cons.mp h
    rw [List.map_cons, writtenItems, List.mapM_cons, ha, ih hrest]
    rfl

/-- The members of an object, each read as something. -/
theorem toMap?_written {read : Document → Option β} {encode : α → Json} {back : α → β}
    {entries : List (String × α)} (h : ∀ e ∈ entries, read (encode e.2).written = some (back e.2)) :
    toMap? read (Json.object (entries.map fun e => (e.1, encode e.2))).written =
      some (.ofList (entries.map fun e => (e.1, back e.2))) := by
  rw [Json.written, toMap?]
  suffices hread : ((writtenMembers (entries.map fun e => (e.1, encode e.2))).mapM
      fun (member : StringText × Document) => do
        let key ← member.1.value?
        let value ← read member.2
        some (key, value)) = some (entries.map fun e => (e.1, back e.2)) by
    rw [hread]
    rfl
  induction entries with
  | nil => rfl
  | cons e entries ih =>
    obtain ⟨he, hrest⟩ := List.forall_mem_cons.mp h
    rw [List.map_cons, writtenMembers, List.mapM_cons, ih hrest, StringText.value?_ofString, he]
    rfl

/-- An object is not read if one of its members is not. -/
theorem toMap?_eq_none {read : Document → Option β} {members : List (String × Json)}
    {e : String × Json} (hmem : e ∈ members) (h : read e.2.written = none) :
    toMap? read (Json.object members).written = none := by
  rw [Json.written, toMap?, Option.map_eq_none_iff]
  induction members with
  | nil => exact absurd hmem List.not_mem_nil
  | cons first members ih =>
    rw [writtenMembers, List.mapM_cons, StringText.value?_ofString]
    rcases List.mem_cons.mp hmem with rfl | hlater
    · rw [h]
      rfl
    · rw [ih hlater]
      cases read first.2.written <;> rfl

end Document

/-! ### Depth and floats of members -/

/-- What is made of a part is there exactly if the part is. -/
theorem bind_within {α β : Type} {p q : Prop} [Decidable p] [Decidable q] (h : p ↔ q) (part : α)
    (make : α → Option β) :
    (if p then some part else none).bind make = if q then make part else none := by
  by_cases hp : p
  · rw [if_pos hp, if_pos (h.mp hp), Option.bind_some]
  · rw [if_neg hp, if_neg (mt h.mpr hp), Option.bind_none]

@[simp] theorem Json.hasFloat_ofText? (o : Option String) : (ofText? o).hasFloat = false := by
  cases o <;> rfl

/-- No float is among texts. -/
@[simp] theorem Json.hasFloatItems_texts (texts : List String) :
    hasFloatItems (texts.map .string) = false := by
  induction texts with
  | nil => rfl
  | cons s texts ih => rw [List.map_cons, hasFloatItems, ih]; rfl

@[simp] theorem Json.depth_ofText? (o : Option String) : (ofText? o).depth = 0 := by
  cases o <;> rfl

theorem Json.depthMembers_le_iff {members : List (String × Json)} {levels : Nat} :
    depthMembers members ≤ levels ↔ ∀ e ∈ members, e.2.depth ≤ levels := by
  induction members with
  | nil => simp [depthMembers]
  | cons e members ih => rw [depthMembers, Nat.max_le, ih, List.forall_mem_cons]

theorem Json.hasFloatMembers_eq_false_iff {members : List (String × Json)} :
    hasFloatMembers members = false ↔ ∀ e ∈ members, e.2.hasFloat = false := by
  induction members with
  | nil => simp [hasFloatMembers]
  | cons e members ih => rw [hasFloatMembers, Bool.or_eq_false_iff, ih, List.forall_mem_cons]

end FeatureFlags
