/-!
# Maps sorted by their keys

A finite map from strings, kept as the list of its entries in strictly ascending key
order (by code point, which is also the order of the UTF-8 bytes).  Two maps with the
same entries are equal, and the list is the order in which a map is written.

The operations on bare entry lists are stated on their own, because a recursive data
type whose values hold such maps has to spell the list out.

## Main definitions

* `Entries.insert`, `Entries.find?`, `Entries.erase`, `Entries.union` — on entry lists.
* `Entries.Sorted` — strictly ascending keys.
* `SortedMap` — an entry list with the proof that it is sorted.

## Main results

* `Entries.sorted_insert`, `Entries.sorted_erase` — the operations keep the order.
* `Entries.find?_insert_self`, `Entries.find?_insert_of_ne` — what a lookup finds.
-/

namespace FeatureFlags

universe u v

variable {α : Type u} {β : Type v}

namespace Entries

/-- Adds an entry in key order, replacing the one under the same key. -/
def insert (key : String) (value : α) : List (String × α) → List (String × α)
  | [] => [(key, value)]
  | (k, v) :: rest =>
    if key < k then (key, value) :: (k, v) :: rest
    else if key = k then (key, value) :: rest
    else (k, v) :: insert key value rest

/-- The value under a key. -/
def find? (key : String) : List (String × α) → Option α
  | [] => none
  | (k, v) :: rest => if k = key then some v else find? key rest

/-- The entries under other keys. -/
def erase (key : String) : List (String × α) → List (String × α)
  | [] => []
  | (k, v) :: rest => if k = key then erase key rest else (k, v) :: erase key rest

/-- Adds the entries one after the other, a later one replacing an earlier one. -/
def union (entries : List (String × α)) : List (String × α) → List (String × α)
  | [] => entries
  | (k, v) :: rest => union (insert k v entries) rest

/-- Strictly ascending keys. -/
def Sorted (entries : List (String × α)) : Prop := entries.Pairwise fun a b => a.1 < b.1

instance (entries : List (String × α)) : Decidable (Sorted entries) :=
  inferInstanceAs (Decidable (List.Pairwise _ _))

@[simp] theorem find?_nil (key : String) : find? key ([] : List (String × α)) = none := rfl

@[simp] theorem union_nil (entries : List (String × α)) : union entries [] = entries := rfl

@[simp] theorem union_cons (entries rest : List (String × α)) (k : String) (v : α) :
    union entries ((k, v) :: rest) = union (insert k v entries) rest := rfl

theorem sorted_nil : Sorted ([] : List (String × α)) := List.Pairwise.nil

theorem mem_insert {key : String} {value : α} {e : String × α} {entries : List (String × α)}
    (h : e ∈ insert key value entries) : e = (key, value) ∨ e ∈ entries := by
  induction entries with
  | nil => simpa [insert] using h
  | cons head rest ih => grind [insert]

theorem mem_erase {key : String} {e : String × α} {entries : List (String × α)}
    (h : e ∈ erase key entries) : e ∈ entries := by
  induction entries with
  | nil => simp [erase] at h
  | cons head rest ih => grind [erase]

theorem sorted_insert (key : String) (value : α) {entries : List (String × α)}
    (h : Sorted entries) : Sorted (insert key value entries) := by
  induction entries with
  | nil => simp [insert, Sorted]
  | cons head rest ih =>
    obtain ⟨hhead, hrest⟩ := List.pairwise_cons.1 h
    unfold insert
    split
    · rename_i hlt
      refine List.pairwise_cons.2 ⟨fun e he => ?_, h⟩
      rcases List.mem_cons.1 he with rfl | he
      · exact hlt
      · exact String.lt_trans hlt (hhead e he)
    · rename_i hlt
      split
      · rename_i heq
        exact List.pairwise_cons.2 ⟨fun e he => heq ▸ hhead e he, hrest⟩
      · rename_i hne
        refine List.pairwise_cons.2 ⟨fun e he => ?_, ih hrest⟩
        rcases mem_insert he with rfl | he
        · exact Std.lt_of_le_of_ne (String.not_lt.1 hlt) fun h => hne h.symm
        · exact hhead e he

theorem sorted_erase (key : String) {entries : List (String × α)} (h : Sorted entries) :
    Sorted (erase key entries) := by
  induction entries with
  | nil => exact h
  | cons head rest ih =>
    obtain ⟨hhead, hrest⟩ := List.pairwise_cons.1 h
    unfold erase
    split
    · exact ih hrest
    · exact List.pairwise_cons.2 ⟨fun e he => hhead e (mem_erase he), ih hrest⟩

theorem sorted_union {entries : List (String × α)} (h : Sorted entries)
    (more : List (String × α)) : Sorted (union entries more) := by
  induction more generalizing entries with
  | nil => exact h
  | cons head rest ih => exact ih (sorted_insert head.1 head.2 h)

theorem find?_insert_self (key : String) (value : α) (entries : List (String × α)) :
    find? key (insert key value entries) = some value := by
  induction entries with
  | nil => simp [insert, find?]
  | cons head rest ih => grind [insert, find?]

theorem find?_insert_of_ne {key other : String} (h : key ≠ other) (value : α)
    (entries : List (String × α)) :
    find? other (insert key value entries) = find? other entries := by
  induction entries with
  | nil => simp [insert, find?, h]
  | cons head rest ih => grind [insert, find?]

end Entries

/-- A map from strings: its entries in strictly ascending key order. -/
structure SortedMap (α : Type u) where
  entries : List (String × α)
  sorted : Entries.Sorted entries

namespace SortedMap

theorem ext {a b : SortedMap α} (h : a.entries = b.entries) : a = b := by
  cases a; cases b; cases h; rfl

instance [DecidableEq α] : DecidableEq (SortedMap α) := fun a b =>
  decidable_of_iff (a.entries = b.entries) ⟨ext, fun h => h ▸ rfl⟩

/-- The map without entries. -/
def empty : SortedMap α := ⟨[], Entries.sorted_nil⟩

instance : EmptyCollection (SortedMap α) := ⟨empty⟩

instance : Inhabited (SortedMap α) := ⟨empty⟩

/-- Adds an entry, replacing the one under the same key. -/
def insert (map : SortedMap α) (key : String) (value : α) : SortedMap α :=
  ⟨Entries.insert key value map.entries, Entries.sorted_insert key value map.sorted⟩

/-- The value under a key. -/
def find? (map : SortedMap α) (key : String) : Option α := Entries.find? key map.entries

def contains (map : SortedMap α) (key : String) : Bool := (map.find? key).isSome

/-- The map without the entry under a key. -/
def erase (map : SortedMap α) (key : String) : SortedMap α :=
  ⟨Entries.erase key map.entries, Entries.sorted_erase key map.sorted⟩

/-- Adds entries one after the other, a later one replacing an earlier one. -/
def insertAll (map : SortedMap α) (entries : List (String × α)) : SortedMap α :=
  ⟨Entries.union map.entries entries, Entries.sorted_union map.sorted entries⟩

/-- Both maps together, the entries of the second winning. -/
def union (map other : SortedMap α) : SortedMap α := map.insertAll other.entries

/-- The map of a list of entries, the last one under a key winning. -/
def ofList (entries : List (String × α)) : SortedMap α := empty.insertAll entries

/-- The keys, ascending. -/
def keys (map : SortedMap α) : List String := map.entries.map (·.1)

def size (map : SortedMap α) : Nat := map.entries.length

def isEmpty (map : SortedMap α) : Bool := map.entries.isEmpty

/-- The values changed one by one under their keys. -/
def mapValues (f : α → β) (map : SortedMap α) : SortedMap β :=
  ⟨map.entries.map fun e => (e.1, f e.2), by
    simpa [Entries.Sorted, List.pairwise_map] using map.sorted⟩

@[simp] theorem find?_empty (key : String) : (empty : SortedMap α).find? key = none := rfl

@[simp] theorem find?_insert_self (map : SortedMap α) (key : String) (value : α) :
    (map.insert key value).find? key = some value :=
  Entries.find?_insert_self key value map.entries

theorem find?_insert_of_ne (map : SortedMap α) {key other : String} (h : key ≠ other)
    (value : α) : (map.insert key value).find? other = map.find? other :=
  Entries.find?_insert_of_ne h value map.entries

end SortedMap

end FeatureFlags
