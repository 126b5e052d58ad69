import FeatureFlags.Proofs.Wire.Contexts

/-!
# Which texts are bare values

A bare value does not say of which kind it is.  Its kinds are tried in order, and the first one that
fits is taken; for JSON data, which comes last among flag values, everything fits that has a
meaning at all.  Context values have no such kind, and so a single `null`, at any depth and also
under a key that is repeated later, keeps a text from being one.

Where a text is both, a scalar is the same scalar in both.

## Main definitions

* `Document.hasNull` — whether a `null` is written in a document, at any depth.
* `FlagValue.firstFit?`, `ContextValue.firstFit?` — the kinds in the order in which they are tried.
* `FlagValue.Agrees` — a flag value and a context value of the same kind, and the same if they are
  scalars.
* `NumberText.IsWhole`, `NumberText.toInt` — numbers that are written as integers.
* `Document.Accepted` — what the parser takes a text for.

## Main results

* `FlagValue.ofDocument?_eq_firstFit?`, `ContextValue.ofDocument?_eq_firstFit?` — **the first kind
  that fits is taken.**
* `bare_values` — **which texts are flag values and which are context values**, and how the two
  go together.
-/

namespace FeatureFlags

open Json (maxNesting)

/-! ### Nulls -/

namespace Document

mutual

/-- Whether a `null` is written in a document, at any depth. -/
def hasNull : Document → Bool
  | null => true
  | array items => hasNullItems items
  | object members => hasNullMembers members
  | _ => false

def hasNullItems : List Document → Bool
  | [] => false
  | item :: rest => hasNull item || hasNullItems rest

/-- All members count, also those whose key is repeated later. -/
def hasNullMembers : List (StringText × Document) → Bool
  | [] => false
  | (_, value) :: rest => hasNull value || hasNullMembers rest

end

/-! ### What can be read is JSON data -/

variable {levels : Nat}

theorem readable_array {items : List Document} (h : (array items).readable levels = true) :
    readableItems (levels - 1) items = true :=
  (Bool.and_eq_true_iff.mp h).2

theorem readable_object {members : List (StringText × Document)}
    (h : (object members).readable levels = true) :
    readableMembers (levels - 1) members = true :=
  (Bool.and_eq_true_iff.mp h).2

mutual

/-- Whatever can be read is JSON data. -/
theorem exists_toJson? (d : Document) {levels : Nat} (h : d.readable levels = true) :
    ∃ j, d.toJson? = some j := by
  cases d with
  | null => exact ⟨_, rfl⟩
  | bool b => exact ⟨_, rfl⟩
  | number t =>
    obtain ⟨n, hn⟩ := Option.isSome_iff_exists.mp h
    exact ⟨.number n, by rw [toJson?, hn]; rfl⟩
  | string t =>
    obtain ⟨s, hs⟩ := Option.isSome_iff_exists.mp h
    exact ⟨.string s, by rw [toJson?, hs]; rfl⟩
  | array items =>
    obtain ⟨js, hjs⟩ := exists_toItems? items (readable_array h)
    exact ⟨.array js, by rw [toJson?, hjs]; rfl⟩
  | object members =>
    obtain ⟨js, hjs⟩ := exists_toMembers? members (readable_object h)
    exact ⟨.object (Entries.union [] js), by rw [toJson?, hjs]; rfl⟩

theorem exists_toItems? (items : List Document) {levels : Nat}
    (h : readableItems levels items = true) : ∃ js, toItems? items = some js := by
  cases items with
  | nil => exact ⟨[], rfl⟩
  | cons item rest =>
    obtain ⟨hitem, hrest⟩ := Bool.and_eq_true_iff.mp h
    obtain ⟨j, hj⟩ := exists_toJson? item hitem
    obtain ⟨js, hjs⟩ := exists_toItems? rest hrest
    exact ⟨j :: js, by rw [toItems?, hj, hjs]⟩

theorem exists_toMembers? (members : List (StringText × Document)) {levels : Nat}
    (h : readableMembers levels members = true) : ∃ js, toMembers? members = some js := by
  cases members with
  | nil => exact ⟨[], rfl⟩
  | cons member rest =>
    obtain ⟨key, value⟩ := member
    obtain ⟨hmember, hrest⟩ := Bool.and_eq_true_iff.mp h
    obtain ⟨hkey, hvalue⟩ := Bool.and_eq_true_iff.mp hmember
    obtain ⟨k, hk⟩ := Option.isSome_iff_exists.mp hkey
    obtain ⟨j, hj⟩ := exists_toJson? value hvalue
    obtain ⟨js, hjs⟩ := exists_toMembers? rest hrest
    exact ⟨(k, j) :: js, by rw [toMembers?, hk, hj, hjs]⟩

end

end Document

/-! ### Context values -/

namespace ContextValue

open Document (hasNull hasNullItems hasNullMembers)

mutual

/-- Of what can be read exactly that is a context value which has no `null` in it. -/
theorem isSome_ofDocument? (d : Document) {levels : Nat} (h : d.readable levels = true) :
    (ofDocument? d).isSome = !d.hasNull := by
  cases d with
  | null => rfl
  | bool b => rfl
  | number t =>
    rw [ofDocument?, Option.isSome_map]
    exact h
  | string t =>
    rw [ofDocument?, Option.isSome_map]
    exact h
  | array items =>
    rw [ofDocument?, Option.isSome_map]
    exact isSome_ofItems? items (Document.readable_array h)
  | object members =>
    rw [ofDocument?, Option.isSome_map]
    exact isSome_ofMembers? members (Document.readable_object h)

theorem isSome_ofItems? (items : List Document) {levels : Nat}
    (h : Document.readableItems levels items = true) :
    (ofItems? items).isSome = !hasNullItems items := by
  cases items with
  | nil => rfl
  | cons item rest =>
    obtain ⟨hitem, hrest⟩ := Bool.and_eq_true_iff.mp h
    have hone := isSome_ofDocument? item hitem
    have hmore := isSome_ofItems? rest hrest
    rw [ofItems?, hasNullItems, Bool.not_or, ← hone, ← hmore]
    cases ofDocument? item <;> cases ofItems? rest <;> rfl

theorem isSome_ofMembers? (members : List (StringText × Document)) {levels : Nat}
    (h : Document.readableMembers levels members = true) :
    (ofMembers? members).isSome = !hasNullMembers members := by
  cases members with
  | nil => rfl
  | cons member rest =>
    obtain ⟨key, value⟩ := member
    obtain ⟨hmember, hrest⟩ := Bool.and_eq_true_iff.mp h
    obtain ⟨hkey, hvalue⟩ := Bool.and_eq_true_iff.mp hmember
    obtain ⟨k, hk⟩ := Option.isSome_iff_exists.mp hkey
    have hone := isSome_ofDocument? value hvalue
    have hmore := isSome_ofMembers? rest hrest
    rw [ofMembers?, hasNullMembers, Bool.not_or, ← hone, ← hmore, hk]
    cases ofDocument? value <;> cases ofMembers? rest <;> rfl

end

/-- No number is a point in time. -/
theorem isTimestamp_ofNumber (n : Json.Number) : (ofNumber n).hasScalar isTimestamp = false := by
  cases n with
  | float x => rfl
  | integer i =>
    rw [ofNumber]
    cases i.toInt64? with
    | none => rfl
    | some i => rfl

mutual

/-- Nothing that is read has a point in time in it. -/
theorem no_timestamp_of_ofDocument? (d : Document) {c : ContextValue} (h : ofDocument? d = some c) :
    c.hasScalar isTimestamp = false := by
  cases d with
  | null => exact absurd h (by simp [ofDocument?])
  | bool b =>
    rw [← Option.some.inj h]
    rfl
  | number t =>
    obtain ⟨n, -, rfl⟩ := Option.map_eq_some_iff.mp h
    exact isTimestamp_ofNumber n
  | string t =>
    obtain ⟨s, -, rfl⟩ := Option.map_eq_some_iff.mp h
    rfl
  | array items =>
    obtain ⟨values, hvalues, rfl⟩ := Option.map_eq_some_iff.mp h
    exact no_timestamp_of_ofItems? items hvalues
  | object members =>
    obtain ⟨fields, hfields, rfl⟩ := Option.map_eq_some_iff.mp h
    have hall := hasScalarFields_eq_false_iff.mp (no_timestamp_of_ofMembers? members hfields)
    exact hasScalarFields_eq_false_iff.mpr fun e he =>
      hall e ((Entries.mem_union he).resolve_left List.not_mem_nil)

theorem no_timestamp_of_ofItems? (items : List Document) {values : List ContextValue}
    (h : ofItems? items = some values) : hasScalarItems isTimestamp values = false := by
  cases items with
  | nil =>
    rw [← Option.some.inj h]
    rfl
  | cons item rest =>
    rw [ofItems?] at h
    cases hitem : ofDocument? item with
    | none => simp [hitem] at h
    | some v =>
      cases hrest : ofItems? rest with
      | none => simp [hrest] at h
      | some vs =>
        rw [hitem, hrest] at h
        rw [← Option.some.inj h, hasScalarItems, no_timestamp_of_ofDocument? item hitem,
          no_timestamp_of_ofItems? rest hrest]
        rfl

theorem no_timestamp_of_ofMembers? (members : List (StringText × Document))
    {fields : List (String × ContextValue)} (h : ofMembers? members = some fields) :
    hasScalarFields isTimestamp fields = false := by
  cases members with
  | nil =>
    rw [← Option.some.inj h]
    rfl
  | cons member rest =>
    obtain ⟨key, value⟩ := member
    rw [ofMembers?] at h
    cases hkey : key.value? with
    | none => simp [hkey] at h
    | some k =>
      cases hvalue : ofDocument? value with
      | none => simp [hvalue] at h
      | some v =>
        cases hrest : ofMembers? rest with
        | none => simp [hrest] at h
        | some vs =>
          rw [hkey, hvalue, hrest] at h
          rw [← Option.some.inj h, hasScalarFields, no_timestamp_of_ofDocument? value hvalue,
            no_timestamp_of_ofMembers? rest hrest]
          rfl

end

end ContextValue

/-! ### Kinds that are tried in order -/

/-- A number is taken for an integer if it fits one, and rounded otherwise. -/
theorem Document.number_first {α : Type} (t : NumberText) (int : Int64 → α) (float : Binary64 → α) :
    ((number t).toInt64?.map int <|> (number t).toBinary64?.map float) =
      t.value?.map fun
        | .integer i => (i.toInt64?.map int).getD (float i.toBinary64)
        | .float x => float x := by
  cases ht : t.value? with
  | none => simp [toInt64?, toBinary64?, ht]
  | some n =>
    cases n with
    | float x => simp [toInt64?, toBinary64?, ht]
    | integer i => cases hi : i.toInt64? <;> simp [toInt64?, toBinary64?, ht, hi]

namespace FlagValue

/-- The kinds of flag values tried in order. -/
def firstFit? (d : Document) : Option FlagValue :=
  d.toBool?.map bool <|> (d.toInt64?.map int <|> d.toBinary64?.map float) <|>
    d.toText?.map string <|> d.toJson?.map object

/-- **A flag value is of the first kind that fits.** -/
theorem ofDocument?_eq_firstFit? (d : Document) : ofDocument? d = firstFit? d := by
  cases d with
  | number t =>
    rw [firstFit?, Document.number_first, ofDocument?]
    cases ht : t.value? with
    | none => simp [Document.toBool?, Document.toText?, Document.toJson?, ht]
    | some n =>
      cases n with
      | float x => simp [ofNumber, Document.toBool?]
      | integer i => cases hi : i.toInt64? <;> simp [ofNumber, Document.toBool?, hi]
  | string t =>
    cases ht : t.value? <;>
      simp [ofDocument?, firstFit?, Document.toBool?, Document.toInt64?, Document.toBinary64?,
        Document.toText?, Document.toJson?, ht]
  | null | bool | array | object =>
    simp [ofDocument?, firstFit?, Document.toBool?, Document.toInt64?, Document.toBinary64?,
      Document.toText?, Document.toJson?]

end FlagValue

namespace ContextValue

/-- The kinds of context values tried in order, with any way to read points in time. -/
def firstFit? (timestamp? : String → Option Timestamp) (d : Document) : Option ContextValue :=
  d.toBool?.map bool <|> (d.toInt64?.map int <|> d.toBinary64?.map float) <|>
    d.toText?.map string <|> (d.toText?.bind timestamp?).map timestamp <|>
    (d.toList? ofDocument?).map list <|>
    (d.toMap? ofDocument?).map fun fields => struct fields.entries

theorem ofItems?_eq_mapM (items : List Document) : ofItems? items = items.mapM ofDocument? := by
  induction items with
  | nil => rfl
  | cons item rest ih =>
    rw [ofItems?, ih, List.mapM_cons]
    cases ofDocument? item <;> cases rest.mapM ofDocument? <;> rfl

theorem ofMembers?_eq_mapM (members : List (StringText × Document)) :
    ofMembers? members = (members.mapM fun member => do
      let key ← member.1.value?
      let value ← ofDocument? member.2
      some (key, value)) := by
  induction members with
  | nil => rfl
  | cons member rest ih =>
    obtain ⟨key, value⟩ := member
    rw [ofMembers?, ih, List.mapM_cons]
    cases key.value? with
    | none => rfl
    | some k =>
      cases ofDocument? value with
      | none => rfl
      | some v => cases List.mapM (m := Option) _ rest <;> rfl

/-- **A context value is of the first kind that fits**, and a text never gets as far as being read
as a point in time. -/
theorem ofDocument?_eq_firstFit? (timestamp? : String → Option Timestamp) (d : Document) :
    ofDocument? d = firstFit? timestamp? d := by
  cases d with
  | number t =>
    rw [firstFit?, Document.number_first, ofDocument?]
    cases ht : t.value? with
    | none => simp [Document.toBool?, Document.toText?, Document.toList?, Document.toMap?]
    | some n =>
      cases n with
      | float x => simp [ofNumber, Document.toBool?]
      | integer i => cases hi : i.toInt64? <;> simp [ofNumber, Document.toBool?, hi]
  | string t =>
    cases ht : t.value? <;>
      simp [ofDocument?, firstFit?, Document.toBool?, Document.toInt64?, Document.toBinary64?,
        Document.toText?, Document.toList?, Document.toMap?, ht]
  | array items =>
    simp [ofDocument?, ofItems?_eq_mapM, firstFit?, Document.toBool?, Document.toInt64?,
      Document.toBinary64?, Document.toText?, Document.toList?, Document.toMap?]
  | object members =>
    have hmap : (Document.object members).toMap? ofDocument? =
        (ofMembers? members).map SortedMap.ofList := by
      rw [ofMembers?_eq_mapM, Document.toMap?]
    have hentries (fields : List (String × ContextValue)) :
        (SortedMap.ofList fields).entries = Entries.union [] fields := rfl
    rw [firstFit?, hmap, ofDocument?]
    cases ofMembers? members <;>
      simp [Document.toBool?, Document.toInt64?, Document.toBinary64?, Document.toText?,
        Document.toList?, hentries]
  | null | bool =>
    simp [ofDocument?, firstFit?, Document.toBool?, Document.toInt64?, Document.toBinary64?,
      Document.toText?, Document.toList?, Document.toMap?]

end ContextValue

/-! ### Numbers that are integers -/

/-- The integer that the digits before the point stand for, with the sign. -/
def NumberText.toInt (t : NumberText) : Int :=
  if t.negative then -(ofDigits t.whole : Int) else ofDigits t.whole

/-- A number is written as an integer: it has no fraction and no exponent, and is not `-0`. -/
def NumberText.IsWhole (t : NumberText) : Prop :=
  t.fraction = none ∧ t.exponent = none ∧ ¬ (t.negative = true ∧ ofDigits t.whole = 0)

namespace Json.Integer

theorem ofInt?_eq_some_iff {z : Int} {i : Json.Integer} : ofInt? z = some i ↔ z = i.val := by
  unfold ofInt?
  constructor
  · intro h
    split at h
    · rw [← Option.some.inj h]
    · exact absurd h (by simp)
  · rintro rfl
    rw [dif_pos ⟨i.lower, i.upper⟩]

/-- The words that integers are taken for are the same integers. -/
theorem toInt64?_eq_some_iff {i : Json.Integer} {w : Int64} :
    i.toInt64? = some w ↔ i.val = w.toInt := by
  have hlower := i.lower
  have hle := w.le_toInt
  have hlt := w.toInt_lt
  unfold toInt64?
  constructor
  · intro h
    split at h
    next hupper => rw [← Option.some.inj h, Int64.toInt_ofInt_of_le (by omega) (by omega)]
    · exact absurd h (by simp)
  · intro h
    rw [if_pos (by omega), h, Int64.ofInt_toInt]

end Json.Integer

/-- A number is read as an integer exactly if it is written as that integer. -/
theorem NumberText.value?_eq_integer_iff {t : NumberText} {i : Json.Integer} :
    t.value? = some (.integer i) ↔ t.IsWhole ∧ t.toInt = i.val := by
  have hwhole : (t.fraction.isNone ∧ t.exponent.isNone ∧ ¬(t.negative ∧ ofDigits t.whole = 0)) ↔
      t.IsWhole := by simp [IsWhole]
  have hsigned : (if t.negative then -(ofDigits t.whole : Int) else ofDigits t.whole) =
      t.toInt := rfl
  rw [value?, hsigned, ← Json.Integer.ofInt?_eq_some_iff]
  by_cases h : t.IsWhole
  · rw [if_pos (hwhole.mpr h)]
    cases Json.Integer.ofInt? t.toInt <;> simp [h]
  · rw [if_neg (mt hwhole.mp h)]
    simp [h]

/-! ### Scalars -/

namespace FlagValue

/-- A flag value and a context value are of the same kind, and the same if they are scalars. -/
def Agrees : FlagValue → ContextValue → Prop
  | bool a, .bool b => a = b
  | int a, .int b => a = b
  | float a, .float b => a = b
  | string a, .string b => a = b
  | object (.array _), .list _ => True
  | object (.object _), .struct _ => True
  | _, _ => False

theorem agrees_ofNumber (n : Json.Number) : (ofNumber n).Agrees (.ofNumber n) := by
  cases n with
  | float x => rfl
  | integer i =>
    rw [ofNumber, ContextValue.ofNumber]
    cases i.toInt64? with
    | none => rfl
    | some i => rfl

/-- Whatever is JSON data is a flag value, and nothing else. -/
theorem isSome_ofDocument? (d : Document) : (ofDocument? d).isSome = d.toJson?.isSome := by
  cases d <;> simp [ofDocument?, Document.toJson?]

variable {d : Document} {v : FlagValue}

/-- A document that is a flag value and a context value is of the same kind as either. -/
theorem agrees_of_ofDocument? {c : ContextValue} (hv : ofDocument? d = some v)
    (hc : ContextValue.ofDocument? d = some c) : v.Agrees c := by
  cases d with
  | null => exact absurd hc (by simp [ContextValue.ofDocument?])
  | bool b =>
    rw [← Option.some.inj hv, ← Option.some.inj hc]
    rfl
  | number t =>
    obtain ⟨n, hn, rfl⟩ := Option.map_eq_some_iff.mp hv
    obtain ⟨n', hn', rfl⟩ := Option.map_eq_some_iff.mp hc
    obtain rfl := Option.some.inj (hn.symm.trans hn')
    exact agrees_ofNumber n
  | string t =>
    obtain ⟨s, hs, rfl⟩ := Option.map_eq_some_iff.mp hv
    obtain ⟨s', hs', rfl⟩ := Option.map_eq_some_iff.mp hc
    exact Option.some.inj (hs.symm.trans hs')
  | array items =>
    obtain ⟨_, hj, rfl⟩ := Option.map_eq_some_iff.mp hv
    obtain ⟨js, -, rfl⟩ := Option.map_eq_some_iff.mp hj
    obtain ⟨cs, -, rfl⟩ := Option.map_eq_some_iff.mp hc
    trivial
  | object members =>
    obtain ⟨_, hj, rfl⟩ := Option.map_eq_some_iff.mp hv
    obtain ⟨js, -, rfl⟩ := Option.map_eq_some_iff.mp hj
    obtain ⟨cs, -, rfl⟩ := Option.map_eq_some_iff.mp hc
    trivial

/-- A flag value is a valid one of its own kind unless it is `null`, so JSON data other than `null`
is an array or an object. -/
theorem valid_of_ofDocument? (hv : ofDocument? d = some v) :
    (v.check v.type = .ok () ↔ d.toJson? ≠ some .null) ∧
      ∀ j, v = object j → j = .null ∨ j.isContainer = true := by
  cases d with
  | null =>
    rw [← Option.some.inj hv]
    simp [check, isValidFor, Json.isContainer, Document.toJson?, type]
  | bool b =>
    rw [← Option.some.inj hv]
    simp [check, isValidFor, Document.toJson?, type]
  | number t =>
    obtain ⟨n, hn, rfl⟩ := Option.map_eq_some_iff.mp hv
    cases n with
    | float x => simp [ofNumber, check, isValidFor, Document.toJson?, type, hn]
    | integer i =>
      rw [ofNumber]
      cases i.toInt64? <;> simp [check, isValidFor, Document.toJson?, type, hn]
  | string t =>
    obtain ⟨s, hs, rfl⟩ := Option.map_eq_some_iff.mp hv
    simp [check, isValidFor, Document.toJson?, type, hs]
  | array items =>
    obtain ⟨_, hj, rfl⟩ := Option.map_eq_some_iff.mp hv
    obtain ⟨js, -, rfl⟩ := Option.map_eq_some_iff.mp hj
    simp [check, isValidFor, Json.isContainer, type, hj]
  | object members =>
    obtain ⟨_, hj, rfl⟩ := Option.map_eq_some_iff.mp hv
    obtain ⟨js, -, rfl⟩ := Option.map_eq_some_iff.mp hj
    simp [check, isValidFor, Json.isContainer, type, hj]

variable {t : NumberText}

/-- A number is an integer exactly if it is written as one that a word holds. -/
theorem eq_int_iff (hv : ofDocument? (.number t) = some v) (w : Int64) :
    v = int w ↔ t.IsWhole ∧ t.toInt = w.toInt := by
  obtain ⟨n, hn, rfl⟩ := Option.map_eq_some_iff.mp hv
  constructor
  · intro hw
    cases n with
    | float x => exact absurd hw (by simp [ofNumber])
    | integer i =>
      obtain ⟨hwhole, hi⟩ := NumberText.value?_eq_integer_iff.mp hn
      rw [ofNumber] at hw
      cases hword : i.toInt64? with
      | none => simp [hword] at hw
      | some w' =>
        rw [hword] at hw
        obtain rfl : w' = w := by simpa using hw
        exact ⟨hwhole, hi.trans (Json.Integer.toInt64?_eq_some_iff.mp hword)⟩
  · rintro ⟨hwhole, hw⟩
    have hvalue : t.value? = some (.integer (.ofInt64 w)) :=
      NumberText.value?_eq_integer_iff.mpr ⟨hwhole, hw⟩
    obtain rfl := Option.some.inj (hn.symm.trans hvalue)
    rw [ofNumber, Json.Integer.toInt64?_ofInt64]

theorem exists_eq_int_iff (hv : ofDocument? (.number t) = some v) :
    (∃ w, v = int w) ↔
      t.IsWhole ∧ -0x8000000000000000 ≤ t.toInt ∧ t.toInt < 0x8000000000000000 := by
  simp only [eq_int_iff hv]
  constructor
  · rintro ⟨w, hwhole, hw⟩
    rw [hw]
    exact ⟨hwhole, w.le_toInt, w.toInt_lt⟩
  · rintro ⟨hwhole, hlower, hupper⟩
    exact ⟨.ofInt t.toInt, hwhole, (Int64.toInt_ofInt_of_le hlower hupper).symm⟩

end FlagValue

/-! ### Texts -/

/-- The parser accepts a text, and this is what it is taken apart into. -/
def Document.Accepted (text : String) (d : Document) : Prop :=
  parse? text = some d ∧ d.readable maxNesting = true

/-- A reader that asks for what the parser accepts. -/
theorem decodeText?_of_accepted {α : Type} {text : String} {d : Document}
    (h : Document.Accepted text d) (read : Document → Option α) :
    decodeText? (fun levels d => if d.readable levels then read d else none) text = read d := by
  rw [decodeText?, h.1, Option.bind_some, if_pos h.2]

theorem decodeText?_eq_none {α : Type} {text : String} (h : ∀ d, ¬ Document.Accepted text d)
    (read : Document → Option α) :
    decodeText? (fun levels d => if d.readable levels then read d else none) text = none := by
  rw [decodeText?]
  cases hparse : Document.parse? text with
  | none => rfl
  | some d => exact if_neg fun hreadable => h d ⟨hparse, hreadable⟩

open ContextValue (isTimestamp) in
/-- **Which texts are bare values.**  A text is a flag value exactly if the parser accepts it, and
it is a valid one of its own kind exactly if it is not `null`, so that an object value is an array,
an object or `null`.  It is a context value exactly if the parser accepts it and no `null` is
written in it.  Where it is both, it is of the same kind in both, and the same scalar; it has no
point in time in it; and a number is an integer exactly if it is written as one, other than `-0`,
that a signed 64-bit word holds. -/
theorem bare_values (text : String) :
    ((decodeText? FlagValue.decode? text).isSome ↔ (Json.parse? text).isSome) ∧
    (∀ v, decodeText? FlagValue.decode? text = some v →
      (v.check v.type = .ok () ↔ Json.parse? text ≠ some .null) ∧
      ∀ j, v = .object j → j = .null ∨ j.isContainer = true) ∧
    ((decodeText? ContextValue.decode? text).isSome ↔
      (Json.parse? text).isSome ∧ ∀ d, Document.parse? text = some d → d.hasNull = false) ∧
    ∀ v c, decodeText? FlagValue.decode? text = some v →
      decodeText? ContextValue.decode? text = some c →
      v.Agrees c ∧ c.hasScalar isTimestamp = false ∧
      ∀ t, Document.parse? text = some (.number t) →
        ((∃ w, v = .int w) ↔
          t.IsWhole ∧ -0x8000000000000000 ≤ t.toInt ∧ t.toInt < 0x8000000000000000) ∧
        ∀ w, v = .int w → w.toInt = t.toInt := by
  by_cases haccepted : ∃ d, Document.Accepted text d
  · obtain ⟨d, hd⟩ := haccepted
    have hflag : decodeText? FlagValue.decode? text = FlagValue.ofDocument? d :=
      decodeText?_of_accepted hd FlagValue.ofDocument?
    have hcontext : decodeText? ContextValue.decode? text = ContextValue.ofDocument? d :=
      decodeText?_of_accepted hd ContextValue.ofDocument?
    have hjson : Json.parse? text = d.toJson? := decodeText?_of_accepted hd Document.toJson?
    have hparse : ∀ d', Document.parse? text = some d' ↔ d = d' := by simp [hd.1]
    obtain ⟨j, hj⟩ := Document.exists_toJson? d hd.2
    rw [hflag, hcontext, hjson]
    simp only [hparse]
    refine ⟨?_, fun v hv => FlagValue.valid_of_ofDocument? hv, ?_, ?_⟩
    · rw [FlagValue.isSome_ofDocument?]
    · rw [ContextValue.isSome_ofDocument? d hd.2, hj]
      simp
    · rintro v c hv hc
      refine ⟨FlagValue.agrees_of_ofDocument? hv hc,
        ContextValue.no_timestamp_of_ofDocument? d hc, ?_⟩
      rintro t rfl
      exact ⟨FlagValue.exists_eq_int_iff hv, fun w hw => ((FlagValue.eq_int_iff hv w).mp hw).2.symm⟩
  · have hnot : ∀ d, ¬ Document.Accepted text d := not_exists.mp haccepted
    have hflag : decodeText? FlagValue.decode? text = none :=
      decodeText?_eq_none hnot FlagValue.ofDocument?
    have hcontext : decodeText? ContextValue.decode? text = none :=
      decodeText?_eq_none hnot ContextValue.ofDocument?
    have hjson : Json.parse? text = none := decodeText?_eq_none hnot Document.toJson?
    rw [hflag, hcontext, hjson]
    simp

/-- A `null` under a key that is repeated later is skipped by a flag value and refused by a context
value. -/
example :
    (decodeText? FlagValue.decode? "\x7b\"a\":null,\"a\":1\x7d").isSome ∧
      (decodeText? ContextValue.decode? "\x7b\"a\":null,\"a\":1\x7d").isNone := by
  decide +kernel

end FeatureFlags
