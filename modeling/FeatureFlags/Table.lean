/-!
# Tables by key

A list of entries, looked up by key.  Putting an entry under a key that is there already
leaves it in its place.
-/

namespace FeatureFlags

variable {κ α : Type} [DecidableEq κ]

/-- A list of entries, looked up by key. -/
abbrev Table (κ α : Type) := List (κ × α)

namespace Table

/-- The value under a key. -/
def find? (key : κ) : Table κ α → Option α
  | [] => none
  | (k, v) :: rest => if k = key then some v else find? key rest

/-- Puts a value under a key, in place of the one there or at the end. -/
def put (key : κ) (value : α) : Table κ α → Table κ α
  | [] => [(key, value)]
  | (k, v) :: rest => if k = key then (key, value) :: rest else (k, v) :: put key value rest

/-- The entries under other keys. -/
def erase (key : κ) (table : Table κ α) : Table κ α := table.filter fun e => e.1 ≠ key

/-- The keys in order. -/
def keys (table : Table κ α) : List κ := table.map (·.1)

@[simp] theorem find?_nil (key : κ) : find? key ([] : Table κ α) = none := rfl

theorem find?_put_self (key : κ) (value : α) (table : Table κ α) :
    find? key (put key value table) = some value := by
  induction table with
  | nil => simp [put, find?]
  | cons head rest ih => grind [put, find?]

theorem find?_put_of_ne {key other : κ} (h : key ≠ other) (value : α) (table : Table κ α) :
    find? other (put key value table) = find? other table := by
  induction table with
  | nil => simp [put, find?, h]
  | cons head rest ih => grind [put, find?]

theorem find?_erase_self (key : κ) (table : Table κ α) : find? key (erase key table) = none := by
  induction table with
  | nil => rfl
  | cons head rest ih => grind [erase, find?]

theorem find?_erase_of_ne {key other : κ} (h : key ≠ other) (table : Table κ α) :
    find? other (erase key table) = find? other table := by
  induction table with
  | nil => rfl
  | cons head rest ih => grind [erase, find?]

/-! ### Entries of a table -/

/-- An entry stands somewhere, and another value is put in its place. -/
theorem exists_put_of_mem_keys {key : κ} {table : Table κ α} (h : key ∈ keys table) :
    ∃ before old after, find? key table = some old ∧ table = before ++ (key, old) :: after ∧
      ∀ value, put key value table = before ++ (key, value) :: after := by
  induction table with
  | nil => exact absurd h List.not_mem_nil
  | cons head rest ih =>
    obtain ⟨k, v⟩ := head
    by_cases hk : k = key
    · subst hk
      exact ⟨[], v, rest, by simp [find?], rfl, fun value => by simp [put]⟩
    · have hrest : key ∈ keys rest := by
        rcases List.mem_cons.mp h with heq | hmem
        · exact absurd heq.symm hk
        · exact hmem
      obtain ⟨before, old, after, hfind, htable, hput⟩ := ih hrest
      refine ⟨(k, v) :: before, old, after, ?_, ?_, fun value => ?_⟩
      · rw [find?, if_neg hk, hfind]
      · rw [htable, List.cons_append]
      · rw [put, if_neg hk, hput, List.cons_append]

/-- A value that is found is one of the table. -/
theorem mem_values_of_find? {key : κ} {value : α} {table : Table κ α}
    (h : find? key table = some value) : value ∈ table.map (·.2) := by
  induction table with
  | nil => exact absurd h (Option.some_ne_none value).symm
  | cons head rest ih =>
    obtain ⟨k, v⟩ := head
    rw [find?] at h
    split at h
    · rw [Option.some.inj h]
      exact List.mem_cons_self
    · exact List.mem_cons_of_mem _ (ih h)

theorem mem_put {key : κ} {value : α} {table : Table κ α} (hkeys : (keys table).Nodup)
    {e : κ × α} (he : e ∈ put key value table) :
    e = (key, value) ∨ e ∈ table ∧ e.1 ≠ key := by
  induction table with
  | nil => exact .inl (List.mem_singleton.mp he)
  | cons head rest ih =>
    obtain ⟨k, v⟩ := head
    obtain ⟨hk, hrest⟩ := List.nodup_cons.mp hkeys
    rw [put] at he
    split at he
    next heq =>
      rcases List.mem_cons.mp he with rfl | hmem
      · exact .inl rfl
      · refine .inr ⟨List.mem_cons_of_mem _ hmem, fun hkey => hk ?_⟩
        have hkeyed : e.1 ∈ keys rest := List.mem_map_of_mem hmem
        rwa [hkey, ← heq] at hkeyed
    next hne =>
      rcases List.mem_cons.mp he with rfl | hmem
      · exact .inr ⟨List.mem_cons_self, hne⟩
      rcases ih hrest hmem with heq | ⟨hmem, hkey⟩
      · exact .inl heq
      · exact .inr ⟨List.mem_cons_of_mem _ hmem, hkey⟩

/-- Behind entries under other keys, a value is put in the place of the one there. -/
theorem put_append_cons {key : κ} {before : Table κ α} (h : key ∉ keys before) (old value : α)
    (after : Table κ α) :
    put key value (before ++ (key, old) :: after) = before ++ (key, value) :: after := by
  induction before with
  | nil => rw [List.nil_append, put, if_pos rfl, List.nil_append]
  | cons head rest ih =>
    obtain ⟨k, v⟩ := head
    have hk : k ≠ key := fun heq => h (heq ▸ List.mem_cons_self)
    have hrest : key ∉ keys rest := fun hmem => h (List.mem_cons_of_mem _ hmem)
    rw [List.cons_append, put, if_neg hk, ih hrest, List.cons_append]

theorem put_ne_nil (key : κ) (value : α) (table : Table κ α) : put key value table ≠ [] := by
  cases table with
  | nil => exact List.cons_ne_nil _ _
  | cons head rest =>
    rw [put]
    split <;> exact List.cons_ne_nil _ _

theorem mem_keys_put {key other : κ} {value : α} {table : Table κ α} :
    other ∈ keys (put key value table) ↔ other = key ∨ other ∈ keys table := by
  induction table with
  | nil => simp [put, keys]
  | cons head rest ih => grind [put, keys]

theorem mem_keys_erase {key other : κ} {table : Table κ α} :
    other ∈ keys (erase key table) ↔ other ∈ keys table ∧ other ≠ key := by
  induction table with
  | nil => simp [erase, keys]
  | cons head rest ih => grind [erase, keys]

theorem nodup_put {table : Table κ α} (h : (keys table).Nodup) (key : κ) (value : α) :
    (keys (put key value table)).Nodup := by
  induction table with
  | nil => exact List.pairwise_singleton _ key
  | cons head rest ih =>
    obtain ⟨k, v⟩ := head
    obtain ⟨hk, hrest⟩ := List.nodup_cons.mp h
    rw [put]
    split
    next heq => exact heq ▸ List.nodup_cons.mpr ⟨hk, hrest⟩
    next hne =>
      refine List.nodup_cons.mpr ⟨fun hmem => ?_, ih hrest⟩
      rcases mem_keys_put.mp hmem with heq | hmem
      · exact hne heq
      · exact hk hmem

theorem nodup_erase {table : Table κ α} (h : (keys table).Nodup) (key : κ) :
    (keys (erase key table)).Nodup :=
  h.sublist (List.filter_sublist.map _)

end Table

end FeatureFlags
