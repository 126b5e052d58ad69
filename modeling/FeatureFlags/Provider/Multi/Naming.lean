import FeatureFlags.EvaluationError

/-!
# Names of sub-providers

Every entry of a multi-provider gets a name of its own.  A name that was given is kept; an
entry without one takes the name its provider goes by, with a number behind it when that
name is shared with another such entry or taken already.

## Main definitions

* `NameRequest` — what is known about the name of one entry.
* `firstFree` — the next number whose name is not taken.
* `assignNames` — one name for each entry, or the given name that was repeated.
-/

namespace FeatureFlags

namespace Multi

/-- What is known about the name of one entry. -/
structure NameRequest where
  /-- The name that was given. -/
  given : Option String
  /-- The name the provider goes by. -/
  ownName : String
deriving DecidableEq, Inhabited

/-- A name with a number behind it. -/
def numbered (base : String) (n : Nat) : String := base ++ "_" ++ toString n

/-- The least number above `last` whose name is not taken.  Among one more number than
there are names taken, one is free. -/
def firstFree (taken : List String) (base : String) (last : Nat) : Nat :=
  ((List.range' (last + 1) (taken.length + 1)).find? fun n =>
    !taken.contains (numbered base n)).getD (last + 1)

/-- The first given name that repeats an earlier one. -/
def repeatedName? (seen : List String) : List NameRequest → Option String
  | [] => none
  | request :: rest =>
    match request.given with
    | none => repeatedName? seen rest
    | some name => if seen.contains name then some name else repeatedName? (name :: seen) rest

/-- How many entries without a given name go by a name. -/
def occurrences (name : String) (requests : List NameRequest) : Nat :=
  requests.countP fun r => r.given.isNone && r.ownName == name

/-- Names the entries in order.  `taken` holds the given names of all entries and the names
of the entries before; `last` gives the number last put behind a name. -/
def assignFrom (all : List NameRequest) (taken : List String) (last : String → Nat) :
    List NameRequest → List String
  | [] => []
  | request :: rest =>
    match request.given with
    | some name => name :: assignFrom all (name :: taken) last rest
    | none =>
      let base := request.ownName
      if 1 < occurrences base all ∨ taken.contains base then
        let n := firstFree taken base (last base)
        let name := numbered base n
        name :: assignFrom all (name :: taken) (fun b => if b = base then n else last b) rest
      else base :: assignFrom all (base :: taken) last rest

/-- One name for each entry, in order. -/
def assignNames (requests : List NameRequest) : Except UsageError (List String) :=
  match repeatedName? [] requests with
  | some name => .error (.duplicateProviderName name)
  | none => .ok (assignFrom requests (requests.filterMap (·.given)) (fun _ => 0) requests)

end Multi

end FeatureFlags
