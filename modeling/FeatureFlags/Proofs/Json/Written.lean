import FeatureFlags.Proofs.Json.Tokens
import FeatureFlags.Proofs.SortedMap.Lookup

/-!
# JSON text that is read back

The text of a document is taken apart into the document as it was written, and that means the
document again.  Floats are left out: how many digits of one have to be written for the same one
to be read is a question of its own.

The reader is given as many calls as there are characters, and each call on the way down is paid
for by a character of its own: a bracket, a comma or a quote.

## Main definitions

* `Json.hasFloat`, `Json.depth` — whether a float stands in a document, and how deep arrays and
  objects are nested in it.
* `Json.written` — a document as it is written.

## Main results

* `Json.scan?_render` — the text of a document, followed by what may follow it, is taken apart
  into what was written.
* `Json.readable_written` — what was written is readable within a bound exactly if the document is
  not nested deeper.
* `Json.toJson?_written` — what was written means the document.
* `Json.parse?_render` — **the text of a document is read as the document.**
-/

namespace FeatureFlags

namespace Json

/-! ### Documents as they are written -/

mutual

/-- Whether a float stands in a document, at any depth. -/
def hasFloat : Json → Bool
  | .number (.float _) => true
  | .array items => hasFloatItems items
  | .object members => hasFloatMembers members
  | _ => false

def hasFloatItems : List Json → Bool
  | [] => false
  | item :: rest => hasFloat item || hasFloatItems rest

def hasFloatMembers : List (String × Json) → Bool
  | [] => false
  | (_, value) :: rest => hasFloat value || hasFloatMembers rest

end

mutual

/-- How many arrays and objects stand inside each other, at most. -/
def depth : Json → Nat
  | .array items => depthItems items + 1
  | .object members => depthMembers members + 1
  | _ => 0

def depthItems : List Json → Nat
  | [] => 0
  | item :: rest => max (depth item) (depthItems rest)

def depthMembers : List (String × Json) → Nat
  | [] => 0
  | (_, value) :: rest => max (depth value) (depthMembers rest)

end

/-- A number as it is written. -/
def Number.written : Number → NumberText
  | .integer i => .ofInt i.val
  | .float x => ((scanNumber? (NumberLayout.json.render x).toList).map (·.1)).getD default

mutual

/-- A document as it is written. -/
def written : Json → Document
  | .null => .null
  | .bool b => .bool b
  | .number n => .number n.written
  | .string s => .string (.ofString s)
  | .array items => .array (writtenItems items)
  | .object members => .object (writtenMembers members)

def writtenItems : List Json → List Document
  | [] => []
  | item :: rest => written item :: writtenItems rest

def writtenMembers : List (String × Json) → List (StringText × Document)
  | [] => []
  | (key, value) :: rest => (.ofString key, written value) :: writtenMembers rest

end

/-! ### The texts -/

@[simp] theorem toList_quote (s : String) :
    (quote s).toList = '"' :: (s.toList.flatMap quoteChar ++ ['"']) := by
  rw [quote, String.toList_ofList, quoteChars, List.cons_append]

theorem toList_render_array (item : Json) (rest : List Json) :
    (render (.array (item :: rest))).toList =
      '[' :: (item.render.toList ++ ((renderItems rest).toList ++ [']'])) := by
  rw [render, String.toList_append, String.toList_append, String.toList_append, List.append_assoc,
    List.append_assoc]
  rfl

theorem toList_renderItems (item : Json) (rest : List Json) :
    (renderItems (item :: rest)).toList =
      ',' :: (item.render.toList ++ (renderItems rest).toList) := by
  rw [renderItems, String.toList_append, String.toList_append, List.append_assoc]
  rfl

/-- The text of one member, followed by something. -/
def memberChars (key : String) (value : Json) (cs : List Char) : List Char :=
  (quote key).toList ++ ':' :: (value.render.toList ++ cs)

theorem toList_render_object (key : String) (value : Json) (rest : List (String × Json)) :
    (render (.object ((key, value) :: rest))).toList =
      '\x7b' :: memberChars key value ((renderMembers rest).toList ++ ['\x7d']) := by
  rw [render, String.toList_append, String.toList_append, String.toList_append,
    String.toList_append, String.toList_append, memberChars]
  simp only [List.append_assoc]
  rfl

theorem toList_renderMembers (key : String) (value : Json) (rest : List (String × Json)) :
    (renderMembers ((key, value) :: rest)).toList =
      ',' :: memberChars key value (renderMembers rest).toList := by
  rw [renderMembers, String.toList_append, String.toList_append, String.toList_append,
    String.toList_append, memberChars]
  simp only [List.append_assoc]
  rfl

/-- The characters that a number may begin with. -/
def OpensNumber (c : Char) : Prop := c = '-' ∨ c.isDigit = true

/-- The characters that a document may begin with. -/
def OpensDocument (c : Char) : Prop :=
  c ∈ ['n', 't', 'f', '"', '[', '\x7b'] ∨ OpensNumber c

instance (c : Char) : Decidable (OpensNumber c) :=
  inferInstanceAs (Decidable (c = '-' ∨ c.isDigit = true))

instance (c : Char) : Decidable (OpensDocument c) :=
  inferInstanceAs (Decidable (c ∈ _ ∨ OpensNumber c))

theorem OpensDocument.isBlank_eq_false {c : Char} (h : OpensDocument c) : isBlank c = false := by
  rw [Bool.eq_false_iff]
  intro hblank
  simp only [isBlank, Bool.or_eq_true, beq_iff_eq] at hblank
  rcases hblank with ((rfl | rfl) | rfl) | rfl <;> exact absurd h (by decide)

/-- The text of an integer begins as a number does. -/
theorem exists_opener_toString (i : Int) :
    ∃ c cs, (toString i).toList = c :: cs ∧ OpensNumber c := by
  rw [toList_toString_int]
  by_cases hneg : i < 0
  · rw [if_pos hneg]
    exact ⟨'-', _, rfl, .inl rfl⟩
  · obtain ⟨first, digits, hn⟩ :=
      List.exists_cons_of_ne_nil (Nat.toDigits_ne_nil (n := i.natAbs) (b := 10))
    rw [if_neg hneg, List.nil_append, hn]
    exact ⟨first, digits, rfl, .inr (isDigit_of_mem_toDigits (hn ▸ List.mem_cons_self))⟩

/-- The text of a document begins with a character that is neither a blank nor a closing
bracket. -/
theorem exists_opener {j : Json} (h : j.hasFloat = false) :
    ∃ c cs, j.render.toList = c :: cs ∧ OpensDocument c := by
  match j with
  | .null => exact ⟨_, _, rfl, .inl (by decide)⟩
  | .bool true => exact ⟨_, _, rfl, .inl (by decide)⟩
  | .bool false => exact ⟨_, _, rfl, .inl (by decide)⟩
  | .number (.integer i) =>
    obtain ⟨c, cs, heq, hc⟩ := exists_opener_toString i.val
    exact ⟨c, cs, heq, .inr hc⟩
  | .number (.float x) => exact absurd h.symm Bool.false_ne_true
  | .string s => exact ⟨_, _, toList_quote s, .inl (by decide)⟩
  | .array [] => exact ⟨_, _, rfl, .inl (by decide)⟩
  | .array (item :: rest) => exact ⟨_, _, toList_render_array item rest, .inl (by decide)⟩
  | .object [] => exact ⟨_, _, rfl, .inl (by decide)⟩
  | .object ((key, value) :: rest) =>
    exact ⟨_, _, toList_render_object key value rest, .inl (by decide)⟩

end Json

/-! ### Steps of the reader -/

namespace Document

open Json (EndsNumber OpensDocument OpensNumber isBlank scanNumber? scanString? skipBlanks)

variable {fuel : Nat} {cs rest : List Char}

theorem skipBlanks_cons {c : Char} (h : isBlank c = false) (cs : List Char) :
    skipBlanks (c :: cs) = c :: cs := by
  rw [skipBlanks, List.dropWhile_cons_of_neg (by rw [h]; exact Bool.false_ne_true)]

theorem scan?_string (fuel : Nat) (s : String) (rest : List Char) :
    scan? (fuel + 1) ((Json.quote s).toList ++ rest) = some (.string (.ofString s), rest) := by
  rw [Json.toList_quote, List.cons_append, List.append_assoc, scan?, skipBlanks_cons (by decide)]
  change (scanString? _).map _ = _
  rw [List.singleton_append, Json.scanString?_quoteChars]
  rfl

/-- What begins as a number does is read as a number. -/
theorem scan?_number {c : Char} (hc : OpensNumber c) (fuel : Nat) (cs : List Char) :
    scan? (fuel + 1) (c :: cs) =
      (scanNumber? (c :: cs)).map fun (t, rest) => (.number t, rest) := by
  have hopens : OpensDocument c := .inr hc
  rw [scan?, skipBlanks_cons hopens.isBlank_eq_false]
  split
  case h_7 => rfl
  all_goals
    next heq =>
      rw [(List.cons.inj heq).1] at hc
      exact absurd hc (by decide)

/-- What begins as a document does behind a bracket is read as items. -/
theorem scan?_array {c : Char} (hc : OpensDocument c) (fuel : Nat) (cs : List Char) :
    scan? (fuel + 1) ('[' :: c :: cs) =
      (scanItems? fuel (c :: cs)).map fun (items, rest) => (.array items, rest) := by
  have hbracket : c ≠ ']' := by
    rintro rfl
    exact absurd hc (by decide)
  rw [scan?, skipBlanks_cons (by decide)]
  simp only [skipBlanks_cons hc.isBlank_eq_false]
  split
  next heq => exact absurd (List.cons.inj heq).1 hbracket
  next => rfl

/-- What begins with a key behind a brace is read as members. -/
theorem scan?_object (fuel : Nat) (cs : List Char) :
    scan? (fuel + 1) ('\x7b' :: '"' :: cs) =
      (scanMembers? fuel ('"' :: cs)).map fun (members, rest) => (.object members, rest) := by
  rw [scan?, skipBlanks_cons (by decide)]
  rfl

/-- Behind a comma the items go on, and behind a bracket they end. -/
theorem scanItems?_more {item : Document} (h : scan? fuel cs = some (item, ',' :: rest)) :
    scanItems? (fuel + 1) cs =
      (scanItems? fuel rest).map fun (items, rest) => (item :: items, rest) := by
  rw [scanItems?, h]
  change ((scanItems? fuel rest).bind fun (items, rest) => some (item :: items, rest)) = _
  rw [Option.map_eq_bind]
  rfl

theorem scanItems?_last {item : Document} (h : scan? fuel cs = some (item, ']' :: rest)) :
    scanItems? (fuel + 1) cs = some ([item], rest) := by
  rw [scanItems?, h]
  rfl

/-- What follows a member: a comma and the members after it, or the closing brace. -/
def scanBehind? (fuel : Nat) (member : StringText × Document) (cs : List Char) :
    Option (List (StringText × Document) × List Char) :=
  match skipBlanks cs with
  | ',' :: rest => do
    let (members, rest) ← scanMembers? fuel rest
    some (member :: members, rest)
  | '\x7d' :: rest => some ([member], rest)
  | _ => none

/-- A member is read up to the end of its value. -/
theorem scanMembers?_member {key : String} {value : Document}
    (h : scan? fuel cs = some (value, rest)) :
    scanMembers? (fuel + 1) ((Json.quote key).toList ++ ':' :: cs) =
      scanBehind? fuel (.ofString key, value) rest := by
  rw [scanMembers?, Json.toList_quote, List.cons_append, List.append_assoc,
    skipBlanks_cons (by decide)]
  change ((scanString? _).bind fun _ => _) = _
  rw [List.singleton_append, Json.scanString?_quoteChars, Option.bind_some]
  change ((scan? fuel cs).bind fun _ => _) = _
  rw [h, Option.bind_some]
  rfl

theorem scanMembers?_more {key : String} {value : Document}
    (h : scan? fuel cs = some (value, ',' :: rest)) :
    scanMembers? (fuel + 1) ((Json.quote key).toList ++ ':' :: cs) =
      (scanMembers? fuel rest).map fun (members, rest) =>
        ((.ofString key, value) :: members, rest) := by
  rw [scanMembers?_member h, scanBehind?, skipBlanks_cons (by decide), Option.map_eq_bind]
  rfl

theorem scanMembers?_last {key : String} {value : Document}
    (h : scan? fuel cs = some (value, '\x7d' :: rest)) :
    scanMembers? (fuel + 1) ((Json.quote key).toList ++ ':' :: cs) =
      some ([(.ofString key, value)], rest) := by
  rw [scanMembers?_member h, scanBehind?, skipBlanks_cons (by decide)]
  rfl

end Document

/-! ### Texts are read -/

namespace Json

open Document (scan? scanItems? scanMembers?)

theorem endsNumber_renderItems (items : List Json) (rest : List Char) :
    EndsNumber ((renderItems items).toList ++ ']' :: rest) := by
  cases items with
  | nil => exact endsNumber_cons (by decide)
  | cons item items =>
    rw [toList_renderItems]
    exact endsNumber_cons (by decide)

theorem endsNumber_renderMembers (members : List (String × Json)) (rest : List Char) :
    EndsNumber ((renderMembers members).toList ++ '\x7d' :: rest) := by
  match members with
  | [] => exact endsNumber_cons (by decide)
  | (key, value) :: members =>
    rw [toList_renderMembers]
    exact endsNumber_cons (by decide)

/-- The text of an integer is read as a number. -/
theorem scan?_render_integer (i : Integer) (fuel : Nat) {rest : List Char}
    (hrest : EndsNumber rest) :
    scan? (fuel + 1) ((render (.number (.integer i))).toList ++ rest) =
      some (.number (.ofInt i.val), rest) := by
  obtain ⟨c, cs, htext, hc⟩ := exists_opener_toString i.val
  have hscan := scanNumber?_toString i.val hrest
  change scan? _ ((toString i.val).toList ++ rest) = _
  rw [htext, List.cons_append] at hscan ⊢
  rw [Document.scan?_number hc, hscan]
  rfl

/-- The text of an array is read if those of its items are. -/
theorem scan?_render_array {item : Json} (hitem : item.hasFloat = false) {items : List Json}
    {fuel : Nat} {rest : List Char} {read : List Document}
    (h : scanItems? fuel (item.render.toList ++ ((renderItems items).toList ++ ']' :: rest)) =
      some (read, rest)) :
    scan? (fuel + 1) ((render (.array (item :: items))).toList ++ rest) =
      some (.array read, rest) := by
  obtain ⟨c, cs, htext, hc⟩ := exists_opener hitem
  rw [toList_render_array]
  simp only [List.cons_append, List.append_assoc, List.nil_append, htext] at h ⊢
  rw [Document.scan?_array hc, h]
  rfl

/-- The text of an object is read if those of its members are. -/
theorem scan?_render_object {key : String} {value : Json} {members : List (String × Json)}
    {fuel : Nat} {rest : List Char} {read : List (StringText × Document)}
    (h : scanMembers? fuel
        (memberChars key value ((renderMembers members).toList ++ '\x7d' :: rest)) =
      some (read, rest)) :
    scan? (fuel + 1) ((render (.object ((key, value) :: members))).toList ++ rest) =
      some (.object read, rest) := by
  rw [toList_render_object]
  simp only [memberChars, List.cons_append, List.append_assoc, List.nil_append, toList_quote]
    at h ⊢
  rw [Document.scan?_object, h]
  rfl

mutual

/-- **The text of a document is taken apart into what was written**, whatever follows that no
number goes on with. -/
theorem scan?_render (j : Json) (hfloat : j.hasFloat = false) {fuel : Nat} {rest : List Char}
    (hfuel : j.render.toList.length < fuel) (hrest : EndsNumber rest) :
    scan? fuel (j.render.toList ++ rest) = some (j.written, rest) := by
  obtain ⟨fuel, rfl⟩ := Nat.exists_eq_add_one_of_ne_zero (Nat.ne_zero_of_lt hfuel)
  cases j with
  | null => rfl
  | bool b =>
    cases b with
    | true => rfl
    | false => rfl
  | number n =>
    cases n with
    | integer i => exact scan?_render_integer i fuel hrest
    | float x => exact absurd hfloat.symm Bool.false_ne_true
  | string s => exact Document.scan?_string fuel s rest
  | array items =>
    cases items with
    | nil => rfl
    | cons item items =>
      obtain ⟨hitem, hitems⟩ := Bool.or_eq_false_iff.mp hfloat
      rw [toList_render_array] at hfuel
      simp only [List.length_cons, List.length_append, List.length_nil] at hfuel
      obtain ⟨fuel, rfl⟩ := Nat.exists_eq_add_one_of_ne_zero (n := fuel) (by omega)
      refine scan?_render_array hitem (scanItems?_renderItems items hitems (by omega) ?_)
      exact scan?_render item hitem (by omega) (endsNumber_renderItems items rest)
  | object members =>
    cases members with
    | nil => rfl
    | cons member members =>
      obtain ⟨key, value⟩ := member
      obtain ⟨hvalue, hmembers⟩ := Bool.or_eq_false_iff.mp hfloat
      rw [toList_render_object, memberChars] at hfuel
      simp only [List.length_cons, List.length_append, List.length_nil] at hfuel
      obtain ⟨fuel, rfl⟩ := Nat.exists_eq_add_one_of_ne_zero (n := fuel) (by omega)
      refine scan?_render_object (scanMembers?_renderMembers members hmembers (by omega) ?_)
      exact scan?_render value hvalue (by omega) (endsNumber_renderMembers members rest)

/-- The text of the items after the first one is read behind it. -/
theorem scanItems?_renderItems (items : List Json) (hfloat : hasFloatItems items = false)
    {fuel : Nat} {cs rest : List Char} {first : Document}
    (hfuel : (renderItems items).toList.length < fuel)
    (hfirst : scan? fuel cs = some (first, (renderItems items).toList ++ ']' :: rest)) :
    scanItems? (fuel + 1) cs = some (first :: writtenItems items, rest) := by
  cases items with
  | nil => exact Document.scanItems?_last hfirst
  | cons item items =>
    obtain ⟨hitem, hitems⟩ := Bool.or_eq_false_iff.mp hfloat
    rw [toList_renderItems] at hfuel hfirst
    simp only [List.length_cons, List.length_append] at hfuel
    simp only [List.cons_append, List.append_assoc] at hfirst
    obtain ⟨fuel, rfl⟩ := Nat.exists_eq_add_one_of_ne_zero (n := fuel) (by omega)
    have hnext : scan? fuel (item.render.toList ++ ((renderItems items).toList ++ ']' :: rest)) =
        some (item.written, (renderItems items).toList ++ ']' :: rest) :=
      scan?_render item hitem (by omega) (endsNumber_renderItems items rest)
    rw [Document.scanItems?_more hfirst, scanItems?_renderItems items hitems (by omega) hnext]
    rfl

/-- The text of the members after the first one is read behind it. -/
theorem scanMembers?_renderMembers (members : List (String × Json))
    (hfloat : hasFloatMembers members = false) {fuel : Nat} {cs rest : List Char} {key : String}
    {first : Document} (hfuel : (renderMembers members).toList.length < fuel)
    (hfirst : scan? fuel cs = some (first, (renderMembers members).toList ++ '\x7d' :: rest)) :
    scanMembers? (fuel + 1) ((quote key).toList ++ ':' :: cs) =
      some ((.ofString key, first) :: writtenMembers members, rest) := by
  cases members with
  | nil => exact Document.scanMembers?_last hfirst
  | cons member members =>
    obtain ⟨next, value⟩ := member
    obtain ⟨hvalue, hmembers⟩ := Bool.or_eq_false_iff.mp hfloat
    rw [toList_renderMembers, memberChars] at hfuel hfirst
    simp only [List.length_cons, List.length_append] at hfuel
    simp only [List.cons_append, List.append_assoc] at hfirst
    obtain ⟨fuel, rfl⟩ := Nat.exists_eq_add_one_of_ne_zero (n := fuel) (by omega)
    have hnext : scan? fuel
          (value.render.toList ++ ((renderMembers members).toList ++ '\x7d' :: rest)) =
        some (value.written, (renderMembers members).toList ++ '\x7d' :: rest) :=
      scan?_render value hvalue (by omega) (endsNumber_renderMembers members rest)
    rw [Document.scanMembers?_more hfirst,
      scanMembers?_renderMembers members hmembers (by omega) hnext]
    rfl

end

/-- **A whole text is taken apart into what was written.** -/
theorem parseDocument?_render (j : Json) (hfloat : j.hasFloat = false) :
    Document.parse? j.render = some j.written := by
  have hlength : j.render.toList.length < j.render.length + 1 := by
    rw [String.length_toList]
    exact Nat.lt_add_one _
  have hscan := scan?_render j hfloat hlength endsNumber_nil
  rw [List.append_nil] at hscan
  rw [Document.parse?, hscan]
  rfl

/-! ### What was written means the document -/

mutual

/-- What was written is readable within a bound exactly if the document is not nested deeper. -/
theorem readable_written (j : Json) (hfloat : j.hasFloat = false) (levels : Nat) :
    j.written.readable levels = true ↔ j.depth ≤ levels := by
  cases j with
  | null | bool => simp [written, Document.readable, depth]
  | number n =>
    cases n with
    | integer i =>
      simp [written, Number.written, Document.readable, depth, NumberText.value?_ofInt]
    | float x => exact absurd hfloat.symm Bool.false_ne_true
  | string s => simp [written, Document.readable, depth]
  | array items =>
    rw [written, Document.readable, depth, Bool.and_eq_true, bne_iff_ne,
      readableItems_written items hfloat]
    omega
  | object members =>
    rw [written, Document.readable, depth, Bool.and_eq_true, bne_iff_ne,
      readableMembers_written members hfloat]
    omega

theorem readableItems_written (items : List Json) (hfloat : hasFloatItems items = false)
    (levels : Nat) :
    Document.readableItems levels (writtenItems items) = true ↔ depthItems items ≤ levels := by
  cases items with
  | nil => simp [writtenItems, Document.readableItems, depthItems]
  | cons item items =>
    obtain ⟨hitem, hitems⟩ := Bool.or_eq_false_iff.mp hfloat
    rw [writtenItems, Document.readableItems, depthItems, Bool.and_eq_true,
      readable_written item hitem, readableItems_written items hitems]
    omega

theorem readableMembers_written (members : List (String × Json))
    (hfloat : hasFloatMembers members = false) (levels : Nat) :
    Document.readableMembers levels (writtenMembers members) = true ↔
      depthMembers members ≤ levels := by
  cases members with
  | nil => simp [writtenMembers, Document.readableMembers, depthMembers]
  | cons member members =>
    obtain ⟨key, value⟩ := member
    obtain ⟨hvalue, hmembers⟩ := Bool.or_eq_false_iff.mp hfloat
    rw [writtenMembers, Document.readableMembers, depthMembers, StringText.value?_ofString,
      Option.isSome_some, Bool.true_and, Bool.and_eq_true, readable_written value hvalue,
      readableMembers_written members hmembers]
    omega

end

mutual

/-- **What was written means the document**, if its objects are in order. -/
theorem toJson?_written (j : Json) (hfloat : j.hasFloat = false) (hcanonical : j.Canonical) :
    j.written.toJson? = some j := by
  cases j with
  | null | bool => rfl
  | number n =>
    cases n with
    | integer i => rw [written, Number.written, Document.toJson?, NumberText.value?_ofInt]; rfl
    | float x => exact absurd hfloat.symm Bool.false_ne_true
  | string s => rw [written, Document.toJson?, StringText.value?_ofString]; rfl
  | array items =>
    rw [written, Document.toJson?, toItems?_written items hfloat hcanonical]
    rfl
  | object members =>
    rw [written, Document.toJson?, toMembers?_written members hfloat hcanonical.2, Option.map_some,
      Entries.nil_union hcanonical.1]

theorem toItems?_written (items : List Json) (hfloat : hasFloatItems items = false)
    (hcanonical : CanonicalItems items) :
    Document.toItems? (writtenItems items) = some items := by
  cases items with
  | nil => rfl
  | cons item items =>
    obtain ⟨hitem, hitems⟩ := Bool.or_eq_false_iff.mp hfloat
    rw [writtenItems, Document.toItems?, toJson?_written item hitem hcanonical.1,
      toItems?_written items hitems hcanonical.2]

theorem toMembers?_written (members : List (String × Json))
    (hfloat : hasFloatMembers members = false) (hcanonical : CanonicalMembers members) :
    Document.toMembers? (writtenMembers members) = some members := by
  cases members with
  | nil => rfl
  | cons member members =>
    obtain ⟨key, value⟩ := member
    obtain ⟨hvalue, hmembers⟩ := Bool.or_eq_false_iff.mp hfloat
    rw [writtenMembers, Document.toMembers?, StringText.value?_ofString,
      toJson?_written value hvalue hcanonical.1, toMembers?_written members hmembers hcanonical.2]

end

/-- **The text of a document is read as the document**, unless that is nested too deep. -/
theorem parse?_render (j : Json) (hfloat : j.hasFloat = false) (hcanonical : j.Canonical) :
    parse? j.render = if j.depth ≤ maxNesting then some j else none := by
  rw [parse?, parseDocument?_render j hfloat]
  change (if j.written.readable maxNesting then j.written.toJson? else none) = _
  simp only [readable_written j hfloat, toJson?_written j hfloat hcanonical]

end Json

end FeatureFlags
