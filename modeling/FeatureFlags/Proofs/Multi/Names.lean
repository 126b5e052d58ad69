import FeatureFlags.Provider.Multi
import Mathlib.Data.List.Induction
import Mathlib.Data.List.Nodup
import Mathlib.Data.List.Perm.Subperm

/-!
# Names of sub-providers are unique

A multi-provider is put together unless two of its entries were given the same name.  The names
that were given are all taken before the first entry is named, and every name that an entry gets
is taken for the entries behind it.  So a name that is made up is new when it is made up, wherever
the names that look like it come from.

The search for a number ends because the numbered names of a base are pairwise different: among
one more number than there are names taken, one is free.

## Main definitions

* `Multi.FirstRepeat` — the first of some names that repeats an earlier one.
* `Multi.IsNextFree` — the least number above another whose name is not taken.
* `Multi.NamedBy` — the rules by which an entry is named after the entries before it.

## Main results

* `Multi.firstFree_isNextFree` — the search finds the next free number.
* `Multi.assignFrom_nodup` — **no name is assigned twice.**
* `Multi.assignFrom_namedBy` — every name is assigned by the rules.
* `MultiProvider.build_names` — **what a multi-provider is put together with.**
-/

namespace FeatureFlags

namespace Multi

/-! ### Numbers behind names -/

theorem numbered_injective (base : String) : Function.Injective (numbered base) := by
  intro m n h
  have htext : toString m = toString n := (String.append_right_inj _).mp h
  rw [Nat.toString_eq_ofList_toDigits, Nat.toString_eq_ofList_toDigits] at htext
  have hdigits : Nat.toDigits 10 m = Nat.toDigits 10 n := String.ofList_injective htext
  rw [← Nat.ofDigitChars_ten_toDigits (n := m), hdigits, Nat.ofDigitChars_ten_toDigits]

/-- A number is the least one above `last` whose name is not taken. -/
structure IsNextFree (taken : List String) (base : String) (last n : Nat) : Prop where
  above : last < n
  free : numbered base n ∉ taken
  least : ∀ k, last < k → k < n → numbered base k ∈ taken

variable {taken : List String} {base : String} {last : Nat}

theorem IsNextFree.congr {taken' : List String} {n : Nat} (h : IsNextFree taken base last n)
    (htaken : ∀ name, name ∈ taken ↔ name ∈ taken') : IsNextFree taken' base last n where
  above := h.above
  free hmem := h.free ((htaken _).mpr hmem)
  least k hlast hn := (htaken _).mp (h.least k hlast hn)

/-- Among one more number than there are names taken, one is free. -/
theorem exists_free (taken : List String) (base : String) (last : Nat) :
    ∃ n ∈ List.range' (last + 1) (taken.length + 1), numbered base n ∉ taken := by
  by_contra hnone
  push Not at hnone
  have hnames : ((List.range' (last + 1) (taken.length + 1)).map (numbered base)).Nodup :=
    (List.nodup_range' 1).map (numbered_injective base)
  have hsub : (List.range' (last + 1) (taken.length + 1)).map (numbered base) ⊆ taken := by
    intro name hname
    obtain ⟨n, hn, rfl⟩ := List.mem_map.mp hname
    exact hnone n hn
  have hlength := (hnames.subperm hsub).length_le
  rw [List.length_map, List.length_range'] at hlength
  omega

/-- **The search finds the next free number.** -/
theorem firstFree_isNextFree (taken : List String) (base : String) (last : Nat) :
    IsNextFree taken base last (firstFree taken base last) := by
  obtain ⟨free, hfree, hnot⟩ := exists_free taken base last
  have hsome : ((List.range' (last + 1) (taken.length + 1)).find? fun n =>
      !taken.contains (numbered base n)).isSome := by
    rw [List.find?_isSome]
    exact ⟨free, hfree, by simpa using hnot⟩
  obtain ⟨n, hn⟩ := Option.isSome_iff_exists.mp hsome
  rw [firstFree, hn, Option.getD_some]
  obtain ⟨hfree, hrange, hleast⟩ := List.find?_range'_eq_some.mp hn
  refine ⟨(List.mem_range'_1.mp hrange).1, by simpa using hfree, fun k hlast hk => ?_⟩
  simpa using hleast k hlast hk

/-! ### Names that were given -/

/-- The names that were given, in the order of the entries. -/
def givenNames (requests : List NameRequest) : List String := requests.filterMap (·.given)

/-- A name is the first of some that repeats an earlier one. -/
def FirstRepeat (names : List String) (name : String) : Prop :=
  ∃ earlier later, names = earlier ++ name :: later ∧ earlier.Nodup ∧ name ∈ earlier

theorem not_nodup_of_mem {earlier later : List String} {name : String} (h : name ∈ earlier) :
    ¬(earlier ++ name :: later).Nodup :=
  fun hnodup => (List.nodup_append.mp hnodup).2.2 name h name List.mem_cons_self rfl

theorem FirstRepeat.not_nodup {names : List String} {name : String} (h : FirstRepeat names name) :
    ¬names.Nodup := by
  obtain ⟨earlier, later, rfl, -, hmem⟩ := h
  exact not_nodup_of_mem hmem

/-- There is one first repeat. -/
theorem FirstRepeat.unique {names : List String} {name other : String} (h : FirstRepeat names name)
    (h' : FirstRepeat names other) : name = other := by
  obtain ⟨earlier, later, rfl, hnodup, hmem⟩ := h
  obtain ⟨earlier', later', heq, hnodup', hmem'⟩ := h'
  rcases List.append_eq_append_iff.mp heq with ⟨between, rfl, hlater⟩ | ⟨between, rfl, hlater⟩
  · cases between with
    | nil => exact (List.cons.inj hlater).1
    | cons x between =>
      obtain ⟨rfl, -⟩ := List.cons.inj hlater
      exact absurd hnodup' (not_nodup_of_mem hmem)
  · cases between with
    | nil => exact (List.cons.inj hlater).1.symm
    | cons x between =>
      obtain ⟨rfl, -⟩ := List.cons.inj hlater
      exact absurd hnodup (not_nodup_of_mem hmem')

/-- The search through the entries, with some names seen before. -/
theorem repeatedName?_from (requests : List NameRequest) (seen : List String)
    (hseen : seen.reverse.Nodup) :
    match repeatedName? seen requests with
    | none => (seen.reverse ++ givenNames requests).Nodup
    | some name => ∃ earlier later, givenNames requests = earlier ++ name :: later ∧
        (seen.reverse ++ earlier).Nodup ∧ name ∈ seen.reverse ++ earlier := by
  induction requests generalizing seen with
  | nil => simpa [repeatedName?, givenNames] using hseen
  | cons request rest ih =>
    cases hgiven : request.given with
    | none =>
      have hnames : givenNames (request :: rest) = givenNames rest :=
        List.filterMap_cons_none hgiven
      rw [repeatedName?, hgiven, hnames]
      exact ih seen hseen
    | some given =>
      have hnames : givenNames (request :: rest) = given :: givenNames rest :=
        List.filterMap_cons_some hgiven
      rw [repeatedName?, hgiven, hnames]
      dsimp only
      by_cases hmem : given ∈ seen
      · rw [if_pos (List.contains_iff_mem.mpr hmem)]
        exact ⟨[], givenNames rest, rfl, by simpa using hseen, by simpa using hmem⟩
      · rw [if_neg (mt List.contains_iff_mem.mp hmem)]
        have hnext : (given :: seen).reverse.Nodup := by
          rw [List.nodup_reverse] at hseen ⊢
          exact List.nodup_cons.mpr ⟨hmem, hseen⟩
        have hrest := ih (given :: seen) hnext
        -- the name has been seen from here on
        simp only [List.reverse_cons, List.append_assoc, List.singleton_append] at hrest
        split at hrest
        · exact hrest
        · obtain ⟨earlier, later, heq, hnodup, hname⟩ := hrest
          exact ⟨given :: earlier, later, by rw [heq, List.cons_append], hnodup, hname⟩

/-- **The name that is reported** is the first that repeats an earlier one. -/
theorem repeatedName?_eq_some_iff {requests : List NameRequest} {name : String} :
    repeatedName? [] requests = some name ↔ FirstRepeat (givenNames requests) name := by
  have hsearch := repeatedName?_from requests [] List.nodup_nil
  constructor
  · intro h
    rw [h] at hsearch
    exact hsearch
  · intro h
    cases hfound : repeatedName? [] requests with
    | none =>
      rw [hfound] at hsearch
      exact absurd hsearch h.not_nodup
    | some other =>
      rw [hfound] at hsearch
      exact congrArg some (FirstRepeat.unique hsearch h)

theorem repeatedName?_eq_none_iff {requests : List NameRequest} :
    repeatedName? [] requests = none ↔ (givenNames requests).Nodup := by
  have hsearch := repeatedName?_from requests [] List.nodup_nil
  constructor
  · intro h
    rw [h] at hsearch
    exact hsearch
  · intro hnodup
    rw [Option.eq_none_iff_forall_ne_some]
    exact fun name h => (repeatedName?_eq_some_iff.mp h).not_nodup hnodup

/-! ### Naming the entries -/

/-- An entry that was given no name and whose provider goes by one. -/
def GoesBy (base : String) (request : NameRequest) : Prop :=
  request.given = none ∧ request.ownName = base

/-- The last number put behind a name, among some entries with the names they got: that of the last
entry that goes by it, and zero if there is none. -/
def IsLastNumber (base : String) (earlier : List (NameRequest × String)) (last : Nat) : Prop :=
  (last = 0 ∧ ∀ e ∈ earlier, ¬GoesBy base e.1) ∨
    ∃ before request after, earlier = before ++ (request, numbered base last) :: after ∧
      GoesBy base request ∧ ∀ e ∈ after, ¬GoesBy base e.1

/-- The names that an entry must not be given unless they were given to it: those given to any
entry and those that the entries before it got. -/
def takenBefore (all : List NameRequest) (earlier : List (NameRequest × String)) : List String :=
  givenNames all ++ earlier.map (·.2)

/-- How an entry is named, after the entries before it have got their names. -/
inductive NamedBy (all : List NameRequest) (earlier : List (NameRequest × String)) :
    NameRequest → String → Prop where
  /-- A name that was given is kept. -/
  | kept {request : NameRequest} {name : String} (h : request.given = some name) :
      NamedBy all earlier request name
  /-- The name the provider goes by, if no other entry goes by it and it is not taken. -/
  | own {request : NameRequest} (h : request.given = none)
      (hsole : occurrences request.ownName all = 1)
      (hfree : request.ownName ∉ takenBefore all earlier) :
      NamedBy all earlier request request.ownName
  /-- Otherwise that name with the next number behind it that makes a name not taken. -/
  | numbered {request : NameRequest} {last n : Nat} (h : request.given = none)
      (hshared : occurrences request.ownName all ≠ 1 ∨
        request.ownName ∈ takenBefore all earlier)
      (hlast : IsLastNumber request.ownName earlier last)
      (hnext : IsNextFree (takenBefore all earlier) request.ownName last n) :
      NamedBy all earlier request (numbered request.ownName n)

section Assign

variable {all requests : List NameRequest} {lasts : String → Nat}
  {earlier : List (NameRequest × String)} {request : NameRequest} {name : String}

theorem occurrences_append (base : String) (requests more : List NameRequest) :
    occurrences base (requests ++ more) = occurrences base requests + occurrences base more :=
  List.countP_append ..

theorem occurrences_pos {base : String} (h : ∃ r ∈ requests, GoesBy base r) :
    0 < occurrences base requests := by
  obtain ⟨r, hr, hnone, hbase⟩ := h
  exact List.countP_pos_iff.mpr ⟨r, hr, by simp [hnone, hbase]⟩

theorem length_assignFrom (all : List NameRequest) (taken : List String) (lasts : String → Nat)
    (requests : List NameRequest) :
    (assignFrom all taken lasts requests).length = requests.length := by
  induction requests generalizing taken lasts with
  | nil => rfl
  | cons request rest ih =>
    rw [assignFrom]
    split
    · rw [List.length_cons, List.length_cons, ih]
    · dsimp only
      split <;> rw [List.length_cons, List.length_cons, ih]

/-- An entry without a given name gets one that is not taken. -/
theorem assignFrom_cons_of_none (hgiven : request.given = none) (all : List NameRequest)
    (taken : List String) (lasts : String → Nat) (rest : List NameRequest) :
    ∃ name lasts', name ∉ taken ∧
      assignFrom all taken lasts (request :: rest) =
        name :: assignFrom all (name :: taken) lasts' rest := by
  rw [assignFrom, hgiven]
  dsimp only
  split
  · exact ⟨_, _, (firstFree_isNextFree _ _ _).free, rfl⟩
  next hown =>
    rw [not_or] at hown
    exact ⟨_, lasts, by simpa using hown.2, rfl⟩

/-- **No name is assigned twice**: an entry gets a name that was taken before only if the name was
given to it. -/
theorem assignFrom_nodup (hnodup : (givenNames requests).Nodup)
    (htaken : givenNames requests ⊆ taken) (lasts : String → Nat) :
    (assignFrom all taken lasts requests).Nodup ∧
      ∀ name ∈ assignFrom all taken lasts requests,
        name ∈ taken → name ∈ givenNames requests := by
  induction requests generalizing taken lasts with
  | nil => exact ⟨List.nodup_nil, fun _ h => absurd h List.not_mem_nil⟩
  | cons request rest ih =>
    cases hgiven : request.given with
    | none =>
      have hnames : givenNames (request :: rest) = givenNames rest :=
        List.filterMap_cons_none hgiven
      rw [hnames] at hnodup htaken ⊢
      obtain ⟨name, lasts', hfree, hassign⟩ :=
        assignFrom_cons_of_none hgiven all taken lasts rest
      rw [hassign]
      obtain ⟨hrest, hkept⟩ := ih hnodup (List.subset_cons_of_subset name htaken) lasts'
      refine ⟨List.nodup_cons.mpr ⟨fun hmem => ?_, hrest⟩, fun other hother htaken' => ?_⟩
      · exact hfree (htaken (hkept name hmem List.mem_cons_self))
      · rcases List.mem_cons.mp hother with rfl | hlater
        · exact absurd htaken' hfree
        · exact hkept other hlater (List.mem_cons_of_mem _ htaken')
    | some given =>
      have hnames : givenNames (request :: rest) = given :: givenNames rest :=
        List.filterMap_cons_some hgiven
      rw [hnames] at hnodup htaken ⊢
      obtain ⟨hnot, hnodup⟩ := List.nodup_cons.mp hnodup
      obtain ⟨hmem, htaken⟩ := List.cons_subset.mp htaken
      rw [assignFrom, hgiven]
      dsimp only
      obtain ⟨hrest, hkept⟩ := ih hnodup (List.subset_cons_of_subset given htaken) lasts
      refine ⟨List.nodup_cons.mpr ⟨fun hlater => ?_, hrest⟩, fun other hother htaken' => ?_⟩
      · exact hnot (hkept given hlater List.mem_cons_self)
      · rcases List.mem_cons.mp hother with rfl | hlater
        · exact List.mem_cons_self
        · exact List.mem_cons_of_mem _ (hkept other hlater (List.mem_cons_of_mem _ htaken'))

/-! ### By the rules -/

theorem mem_takenBefore_concat {taken : List String}
    (h : ∀ other, other ∈ taken ↔ other ∈ takenBefore all earlier) (other : String) :
    other ∈ name :: taken ↔ other ∈ takenBefore all (earlier ++ [(request, name)]) := by
  have hconcat : takenBefore all (earlier ++ [(request, name)]) =
      takenBefore all earlier ++ [name] := by
    rw [takenBefore, takenBefore, List.map_append, List.append_assoc]
    rfl
  rw [hconcat, List.mem_append, List.mem_cons, h, List.mem_singleton, or_comm]

theorem IsLastNumber.skip {base : String} {last : Nat} (h : IsLastNumber base earlier last)
    (hrequest : ¬GoesBy base request) (name : String) :
    IsLastNumber base (earlier ++ [(request, name)]) last := by
  have hnew : ∀ e ∈ [(request, name)], ¬GoesBy base e.1 := by
    intro e he
    rw [List.mem_singleton.mp he]
    exact hrequest
  rcases h with ⟨hzero, hnone⟩ | ⟨before, other, after, rfl, hother, hafter⟩
  · refine .inl ⟨hzero, fun e he => ?_⟩
    exact (List.mem_append.mp he).elim (hnone e) (hnew e)
  · refine .inr ⟨before, other, after ++ [(request, name)], by simp, hother, fun e he => ?_⟩
    exact (List.mem_append.mp he).elim (hafter e) (hnew e)

theorem isLastNumber_concat {base : String} (h : GoesBy base request) (n : Nat) :
    IsLastNumber base (earlier ++ [(request, numbered base n)]) n :=
  .inr ⟨earlier, request, [], rfl, h, fun _ hmem => absurd hmem List.not_mem_nil⟩

/-- The numbers are in step with the entries named so far: of every name that an entry to come goes
by, the last number is known. -/
def Tracks (lasts : String → Nat) (earlier : List (NameRequest × String))
    (coming : List NameRequest) : Prop :=
  ∀ base, (∃ r ∈ coming, GoesBy base r) → IsLastNumber base earlier (lasts base)

theorem Tracks.skip {base : String} (h : Tracks lasts earlier (request :: requests))
    (hcoming : ∃ r ∈ requests, GoesBy base r) (hrequest : ¬GoesBy base request) (name : String) :
    IsLastNumber base (earlier ++ [(request, name)]) (lasts base) := by
  obtain ⟨r, hr, hbase⟩ := hcoming
  exact (h base ⟨r, List.mem_cons_of_mem _ hr, hbase⟩).skip hrequest name

/-- The numbers stay in step when a number is put behind a name. -/
theorem Tracks.numbered (h : Tracks lasts earlier (request :: requests))
    (hgiven : request.given = none) (n : Nat) :
    Tracks (fun base => if base = request.ownName then n else lasts base)
      (earlier ++ [(request, numbered request.ownName n)]) requests := by
  intro base hcoming
  dsimp only
  by_cases hbase : base = request.ownName
  · subst hbase
    rw [if_pos rfl]
    exact isLastNumber_concat ⟨hgiven, rfl⟩ n
  · rw [if_neg hbase]
    exact h.skip hcoming (fun hgoes => hbase hgoes.2.symm) _

/-- One entry is named by the rules, and the numbers stay in step. -/
theorem assignFrom_cons {taken : List String}
    (hall : all = earlier.map (·.1) ++ request :: requests)
    (htaken : ∀ other, other ∈ taken ↔ other ∈ takenBefore all earlier)
    (hlasts : Tracks lasts earlier (request :: requests)) :
    ∃ name lasts', assignFrom all taken lasts (request :: requests) =
        name :: assignFrom all (name :: taken) lasts' requests ∧
      NamedBy all earlier request name ∧ Tracks lasts' (earlier ++ [(request, name)]) requests := by
  cases hgiven : request.given with
  | some given =>
    refine ⟨given, lasts, by rw [assignFrom, hgiven], .kept hgiven, fun base hcoming => ?_⟩
    refine hlasts.skip hcoming (fun hbase => ?_) given
    exact Option.some_ne_none given (hgiven.symm.trans hbase.1)
  | none =>
    have hgoes : GoesBy request.ownName request := ⟨hgiven, rfl⟩
    have hcount : occurrences request.ownName all =
        occurrences request.ownName (earlier.map (·.1)) +
          (occurrences request.ownName [request] + occurrences request.ownName requests) := by
      rw [hall, ← List.singleton_append, occurrences_append, occurrences_append]
    have hone : 0 < occurrences request.ownName [request] :=
      occurrences_pos ⟨request, List.mem_cons_self, hgoes⟩
    rw [assignFrom, hgiven]
    dsimp only
    by_cases hshared : 1 < occurrences request.ownName all ∨ taken.contains request.ownName
    · rw [if_pos hshared]
      refine ⟨_, _, rfl, .numbered hgiven ?_ (hlasts _ ⟨request, List.mem_cons_self, hgoes⟩)
        ((firstFree_isNextFree _ _ _).congr htaken), hlasts.numbered hgiven _⟩
      refine hshared.imp (fun hmany => by omega) fun hmem => ?_
      exact (htaken _).mp (List.contains_iff_mem.mp hmem)
    · rw [if_neg hshared]
      rw [not_or] at hshared
      refine ⟨_, lasts, rfl, .own hgiven (by omega) ?_, fun base hcoming => ?_⟩
      · exact fun hmem => hshared.2 (List.contains_iff_mem.mpr ((htaken _).mpr hmem))
      · refine hlasts.skip hcoming (fun hgoes' => ?_) _
        -- nobody else goes by the name of this entry
        obtain rfl := hgoes'.2
        have hmore := occurrences_pos hcoming
        omega

/-- **Every name is assigned by the rules**, after the names of the entries before. -/
theorem assignFrom_namedBy {taken : List String} (hall : all = earlier.map (·.1) ++ requests)
    (htaken : ∀ other, other ∈ taken ↔ other ∈ takenBefore all earlier)
    (hlasts : Tracks lasts earlier requests) {before after : List (NameRequest × String)}
    (hsplit : requests.zip (assignFrom all taken lasts requests) =
      before ++ (request, name) :: after) :
    NamedBy all (earlier ++ before) request name := by
  induction requests generalizing earlier taken lasts before with
  | nil => exact absurd hsplit.symm (by simp)
  | cons first rest ih =>
    obtain ⟨given, lasts', hassign, hnamed, hlasts'⟩ := assignFrom_cons hall htaken hlasts
    rw [hassign, List.zip_cons_cons] at hsplit
    cases before with
    | nil =>
      obtain ⟨hentry, -⟩ := List.cons.inj hsplit
      obtain ⟨rfl, rfl⟩ := Prod.mk.inj hentry
      rwa [List.append_nil]
    | cons e before =>
      obtain ⟨rfl, hrest⟩ := List.cons.inj hsplit
      have hall' : all = (earlier ++ [(first, given)]).map (·.1) ++ rest := by
        rw [hall]
        simp
      have hlater := ih hall' (mem_takenBefore_concat htaken) hlasts' hrest
      rwa [List.append_assoc, List.singleton_append] at hlater

end Assign

-- `x_1` is given to an entry behind, and `x_2` is made up before an entry that goes by it
example : assignNames [⟨none, "x"⟩, ⟨none, "x"⟩, ⟨none, "x_2"⟩, ⟨some "x_1", "y"⟩, ⟨some "x", "y"⟩] =
    .ok ["x_2", "x_3", "x_2_1", "x_1", "x"] := by
  decide +kernel

end Multi

/-! ### Putting a multi-provider together -/

namespace MultiProvider

open Multi (Entry FirstRepeat IsLastNumber NamedBy NameRequest Strategy SubProvider Tracks assignFrom
  assignFrom_namedBy assignFrom_nodup assignNames givenNames length_assignFrom repeatedName?
  repeatedName?_eq_none_iff repeatedName?_eq_some_iff takenBefore)

variable {σ : Type} {id : ProviderId} {entries : List (Entry σ)} {strategy : Strategy σ}
  {m : MultiProvider σ}

/-- The names that were given to entries, in their order. -/
theorem givenNames_request (entries : List (Entry σ)) :
    givenNames (entries.map Entry.request) = entries.filterMap (·.given) := by
  rw [givenNames, List.filterMap_map]
  rfl

/-- It is put together unless a given name repeats an earlier one. -/
theorem build_eq_error_iff {e : UsageError} :
    build id entries strategy = .error e ↔
      ∃ name, FirstRepeat (entries.filterMap (·.given)) name ∧ e = .duplicateProviderName name := by
  rw [← givenNames_request, build, assignNames]
  cases hfound : repeatedName? [] (entries.map Entry.request) with
  | some name =>
    have hfirst := repeatedName?_eq_some_iff.mp hfound
    constructor
    · exact fun h => ⟨name, hfirst, (Except.error.inj h).symm⟩
    · rintro ⟨other, hother, rfl⟩
      rw [hother.unique hfirst]
      rfl
  | none =>
    constructor
    · exact nofun
    · rintro ⟨name, hname, -⟩
      exact absurd (repeatedName?_eq_none_iff.mp hfound) hname.not_nodup

/-- What a multi-provider is put together from. -/
theorem exists_of_build (h : build id entries strategy = .ok m) :
    (entries.filterMap (·.given)).Nodup ∧
      m = { id
            subs := List.zipWith SubProvider.mk
              (assignFrom (entries.map Entry.request) (givenNames (entries.map Entry.request))
                (fun _ => 0) (entries.map Entry.request))
              (entries.map (·.provider))
            strategy
            hooks := entries.flatMap (·.provider.hooks) } := by
  rw [build, assignNames] at h
  rw [← givenNames_request]
  cases hfound : repeatedName? [] (entries.map Entry.request) with
  | some name =>
    rw [hfound] at h
    exact absurd h nofun
  | none =>
    rw [hfound] at h
    exact ⟨repeatedName?_eq_none_iff.mp hfound, (Except.ok.inj h).symm⟩

theorem strategy_of_build (h : build id entries strategy = .ok m) : m.strategy = strategy := by
  rw [(exists_of_build h).2]

theorem hooks_of_build (h : build id entries strategy = .ok m) :
    m.hooks = entries.flatMap (·.provider.hooks) := by
  rw [(exists_of_build h).2]

/-- One name for each entry, in their order. -/
theorem map_name_of_build (h : build id entries strategy = .ok m) :
    m.subs.map (·.name) =
      assignFrom (entries.map Entry.request) (givenNames (entries.map Entry.request))
        (fun _ => 0) (entries.map Entry.request) := by
  rw [(exists_of_build h).2, ← List.map_uncurry_zip_eq_zipWith, List.map_map]
  refine List.map_fst_zip (Nat.le_of_eq ?_)
  rw [length_assignFrom, List.length_map, List.length_map]

theorem map_provider_of_build (h : build id entries strategy = .ok m) :
    m.subs.map (·.provider) = entries.map (·.provider) := by
  rw [(exists_of_build h).2, ← List.map_uncurry_zip_eq_zipWith, List.map_map]
  refine List.map_snd_zip (Nat.le_of_eq ?_)
  rw [length_assignFrom, List.length_map, List.length_map]

/-- The names of a multi-provider are pairwise different. -/
theorem nodup_of_build (h : build id entries strategy = .ok m) : (m.subs.map (·.name)).Nodup := by
  rw [map_name_of_build h]
  have hnodup := (exists_of_build h).1
  rw [← givenNames_request] at hnodup
  exact (assignFrom_nodup hnodup (List.Subset.refl _) _).1

/-- **What a multi-provider is put together with**, from any entries.

It is put together unless two entries were given the same name, and then the first given name that
repeats an earlier one is reported.  Otherwise it has the providers of the entries in their order,
each under one name: no two names are the same, and every entry is named by the rules, after the
names of the entries before it. -/
theorem build_names (id : ProviderId) (entries : List (Entry σ)) (strategy : Strategy σ) :
    (∀ e, build id entries strategy = .error e ↔
      ∃ name, FirstRepeat (entries.filterMap (·.given)) name ∧ e = .duplicateProviderName name) ∧
    ((∃ m, build id entries strategy = .ok m) ↔ (entries.filterMap (·.given)).Nodup) ∧
    ∀ m, build id entries strategy = .ok m →
      let names := m.subs.map (·.name)
      m.subs.map (·.provider) = entries.map (·.provider) ∧
      names.length = entries.length ∧ names.Nodup ∧
      ∀ earlier request name later,
        (entries.map Entry.request).zip names = earlier ++ (request, name) :: later →
          NamedBy (entries.map Entry.request) earlier request name := by
  refine ⟨fun e => build_eq_error_iff, ⟨?_, fun hnodup => ?_⟩, fun m h => ⟨?_, ?_, ?_, ?_⟩⟩
  · rintro ⟨m, h⟩
    exact (exists_of_build h).1
  · cases hbuild : build id entries strategy with
    | ok m => exact ⟨m, rfl⟩
    | error e =>
      obtain ⟨name, hname, -⟩ := build_eq_error_iff.mp hbuild
      exact absurd hnodup hname.not_nodup
  · exact map_provider_of_build h
  · rw [map_name_of_build h, length_assignFrom, List.length_map]
  · exact nodup_of_build h
  · intro earlier request name later hsplit
    rw [map_name_of_build h] at hsplit
    have htaken : ∀ other, other ∈ givenNames (entries.map Entry.request) ↔
        other ∈ takenBefore (entries.map Entry.request) [] := by
      intro other
      rw [takenBefore, List.map_nil, List.append_nil]
    have hlasts : Tracks (fun _ => 0) [] (entries.map Entry.request) :=
      fun _ _ => .inl ⟨rfl, fun _ hmem => absurd hmem List.not_mem_nil⟩
    exact assignFrom_namedBy rfl htaken hlasts hsplit

end MultiProvider

end FeatureFlags
