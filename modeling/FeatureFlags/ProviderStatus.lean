import FeatureFlags.ProviderEvent

/-!
# Provider status

The status of a provider is a fold over its events.  A fatal provider stays fatal, and a
change of configuration changes no status.

## Main definitions

* `ProviderStatus.onEvent` — the status after an event.
* `ProviderStatus.matchingEvent?` — the event that a status stands for.
* `ProviderStatus.shortCircuitCode?` — the error of an evaluation that does not start.
* `ProviderStatus.severity`, `ProviderStatus.worst` — several statuses as one.
-/

namespace FeatureFlags

/-- Where a provider is in its life. -/
inductive ProviderStatus where
  | notReady
  | ready
  | error
  | stale
  | fatal
deriving DecidableEq, Inhabited

namespace ProviderStatus

/-- The name on the wire. -/
def name : ProviderStatus → String
  | notReady => "NOT_READY"
  | ready => "READY"
  | error => "ERROR"
  | stale => "STALE"
  | fatal => "FATAL"

def all : List ProviderStatus := [notReady, ready, error, stale, fatal]

/-- The status with a name. -/
def ofName? (s : String) : Option ProviderStatus := all.find? (·.name == s)

/-- The status of a provider that has announced an event; an error event is fatal if its
code says so. -/
def onEvent (status : ProviderStatus) (event : ProviderEvent) (code : Option ErrorCode) :
    ProviderStatus :=
  match status, event with
  | fatal, _ => fatal
  | _, .ready => ready
  | _, .stale => stale
  | _, .error => if code = some .providerFatal then fatal else error
  | _, .configurationChanged => status

/-- The event whose handlers run at once when they are added in this status. -/
def matchingEvent? : ProviderStatus → Option ProviderEvent
  | ready => some .ready
  | error => some .error
  | fatal => some .error
  | stale => some .stale
  | notReady => none

/-- The error code of an evaluation that is not started in this status. -/
def shortCircuitCode? : ProviderStatus → Option ErrorCode
  | notReady => some .providerNotReady
  | fatal => some .providerFatal
  | _ => none

@[simp] theorem onEvent_fatal (event : ProviderEvent) (code : Option ErrorCode) :
    fatal.onEvent event code = fatal := by cases event <;> rfl

@[simp] theorem onEvent_configurationChanged (status : ProviderStatus)
    (code : Option ErrorCode) : status.onEvent .configurationChanged code = status := by
  cases status <;> rfl

/-! ### Several statuses as one -/

/-- How bad a status is. -/
def severity : ProviderStatus → Nat
  | ready => 0
  | stale => 1
  | error => 2
  | notReady => 3
  | fatal => 4

/-- The worse of two statuses. -/
def worse (a b : ProviderStatus) : ProviderStatus := if a.severity ≤ b.severity then b else a

/-- The worst of several statuses; nothing is worse than ready if there are none. -/
def worst (statuses : List ProviderStatus) : ProviderStatus := statuses.foldl worse ready

theorem severity_injective {a b : ProviderStatus} (h : a.severity = b.severity) : a = b := by
  cases a <;> cases b <;> first | rfl | exact absurd h (by decide)

end ProviderStatus

end FeatureFlags
