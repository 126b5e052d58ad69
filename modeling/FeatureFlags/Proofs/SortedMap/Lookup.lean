import FeatureFlags.SortedMap
import Mathlib.Data.List.Perm.Lattice
import Mathlib.Data.List.Perm.Basic

/-!
# Lookups in sorted maps

A sorted map is determined by what its lookups find, so an equation between maps is an
equation between lookups.  What a union finds under a key is what its second map has there,
and what its first map has where the second has nothing; that unions may be regrouped is
then the associativity of taking the first value there is.

## Main results

* `Entries.find?_eq_some_iff` — the value under a key is the one of its only entry.
* `Entries.nil_union`, `SortedMap.ofList_entries` — a map is made up by its entries.
* `SortedMap.ext_find?` — maps with equal lookups are equal.
* `SortedMap.find?_union`, `SortedMap.find?_mapValues` — a lookup in a union, and among changed
  values.
* `SortedMap.union_assoc` — unions may be regrouped.
-/

namespace FeatureFlags

universe u v

variable {α : Type u}

/-! ### Entry lists -/

namespace Entries

variable {key : String} {value : α} {entries more : List (String × α)}

/-- In a sorted list the value under a key is the one of its only entry. -/
theorem find?_eq_some_iff (h : Sorted entries) :
    find? key entries = some value ↔ (key, value) ∈ entries := by
  induction entries with
  | nil => simp
  | cons head rest ih =>
    obtain ⟨k, v⟩ := head
    obtain ⟨hhead, hrest⟩ := List.pairwise_cons.1 h
    rw [find?, List.mem_cons]
    by_cases hk : k = key
    · subst hk
      rw [if_pos rfl]
      constructor
      · intro hv
        exact .inl (by rw [Option.some.inj hv])
      · rintro (heq | hmem)
        · rw [(Prod.mk.inj heq).2]
        · exact absurd (hhead _ hmem) (String.lt_irrefl k)
    · rw [if_neg hk, ih hrest]
      constructor
      · exact .inr
      · rintro (heq | hmem)
        · exact absurd (Prod.mk.inj heq).1.symm hk
        · exact hmem

/-- Every entry of a union is one of the two lists'. -/
theorem mem_union {e : String × α} (h : e ∈ union entries more) : e ∈ entries ∨ e ∈ more := by
  induction more generalizing entries with
  | nil => exact .inl h
  | cons head rest ih =>
    rcases ih h with hinsert | hrest
    · rcases mem_insert hinsert with rfl | hentries
      · exact .inr List.mem_cons_self
      · exact .inl hentries
    · exact .inr (List.mem_cons_of_mem _ hrest)

/-- A sorted list has no entry twice. -/
theorem Sorted.nodup (h : Sorted entries) : entries.Nodup := by
  refine List.Pairwise.imp ?_ h
  rintro a _ hlt rfl
  exact String.lt_irrefl a.1 hlt

/-- Behind its first key a sorted list does not have that key again. -/
theorem find?_rest_eq_none (h : Sorted ((key, value) :: entries)) : find? key entries = none := by
  obtain ⟨hhead, hrest⟩ := List.pairwise_cons.1 h
  rw [Option.eq_none_iff_forall_ne_some]
  intro v hv
  have hmem : (key, v) ∈ entries := (find?_eq_some_iff hrest).mp hv
  exact String.lt_irrefl key (hhead (key, v) hmem)

/-- Sorted lists with equal lookups are equal: they have the same entries, and there is one
order only to have them in. -/
theorem Sorted.eq_of_find? (h : Sorted entries) (hmore : Sorted more)
    (hfind : ∀ key, find? key entries = find? key more) : entries = more := by
  have hmem : ∀ e, e ∈ entries ↔ e ∈ more := by
    rintro ⟨key, value⟩
    rw [← find?_eq_some_iff h, ← find?_eq_some_iff hmore, hfind key]
  have hperm : entries.Perm more := (List.perm_ext_iff_of_nodup h.nodup hmore.nodup).mpr hmem
  refine hperm.eq_of_pairwise ?_ h hmore
  intro a b _ _ hab hba
  exact absurd hba (String.lt_asymm hab)

/-- What is found after entries have been added: their own value under the key, or else what
was there before. -/
theorem find?_union (hmore : Sorted more) (key : String) (entries : List (String × α)) :
    find? key (union entries more) = (find? key more).or (find? key entries) := by
  induction more generalizing entries with
  | nil => simp
  | cons head rest ih =>
    obtain ⟨k, v⟩ := head
    obtain ⟨_, hrest⟩ := List.pairwise_cons.1 hmore
    rw [union_cons, ih hrest (insert k v entries)]
    by_cases hk : k = key
    · subst hk
      -- no later entry replaces the one just added
      rw [find?_rest_eq_none hmore, find?_insert_self, find?, if_pos rfl]
      rfl
    · rw [find?_insert_of_ne hk, find?, if_neg hk]

/-- A sorted list is the one that its entries make up. -/
theorem nil_union (h : Sorted entries) : union [] entries = entries := by
  refine (sorted_union sorted_nil entries).eq_of_find? h fun key => ?_
  rw [find?_union h, find?_nil, Option.or_none]

theorem find?_map {β : Type v} (f : α → β) (key : String) (entries : List (String × α)) :
    find? key (entries.map fun e => (e.1, f e.2)) = (find? key entries).map f := by
  induction entries with
  | nil => rfl
  | cons head rest ih =>
    obtain ⟨k, value⟩ := head
    rw [List.map_cons, find?, find?, ih]
    split <;> rfl

end Entries

/-! ### Maps -/

namespace SortedMap

variable {a b c : SortedMap α}

/-- Maps with equal lookups are equal. -/
theorem ext_find? (h : ∀ key, a.find? key = b.find? key) : a = b :=
  ext (a.sorted.eq_of_find? b.sorted h)

/-- A union finds what its second map has, and what the first has where the second has
nothing. -/
@[simp] theorem find?_union (a b : SortedMap α) (key : String) :
    (a.union b).find? key = (b.find? key).or (a.find? key) :=
  Entries.find?_union b.sorted key a.entries

/-- A map is the one that its entries make up. -/
@[simp] theorem ofList_entries (a : SortedMap α) : ofList a.entries = a :=
  ext (Entries.nil_union a.sorted)

@[simp] theorem union_empty (a : SortedMap α) : a.union .empty = a := rfl

/-- Unions may be regrouped. -/
theorem union_assoc (a b c : SortedMap α) : (a.union b).union c = a.union (b.union c) := by
  apply ext_find?
  intro key
  simp only [find?_union, Option.or_assoc]

/-- A value that was changed is found where the value was. -/
@[simp] theorem find?_mapValues {β : Type v} (f : α → β) (a : SortedMap α) (key : String) :
    (a.mapValues f).find? key = (a.find? key).map f :=
  Entries.find?_map f key a.entries

end SortedMap

end FeatureFlags
