import ModEspManifests.PyDict
import Mathlib.Data.List.Sort

/-! `ManifestValidator` of `tools/manifest_validator.py`. A validator object keeps four
publisher/subscriber tables and the provider table between calls; `validate_all` clears
only `issues`, folds `collect_manifest_data` over the manifests, runs the event, state and
dependency rules and sorts the issues stably by severity. Manifests are the dicts the
validator reads, with the sections it tests by `in`; a missing entry is `none`. The report's
icons are the characters the source holds, emoji whose UTF-8 bytes were read as Mac Roman,
written here with escapes. -/
namespace ManifestValidation

open PyDict

structure PubSub where
  publishes : Option (List String) := none
  subscribes : Option (List String) := none
  deriving DecidableEq, Repr

structure ApiEntry where
  method : Option String := none
  deriving DecidableEq, Repr

structure ApiSection where
  static : Option (List ApiEntry) := none
  dynamic : Option (List ApiEntry) := none
  deriving DecidableEq, Repr

structure ModuleSection where
  name : String
  dependencies : Option (List String) := none
  deriving DecidableEq, Repr

structure Manifest where
  module : ModuleSection
  event_bus : Option PubSub := none
  shared_state : Option PubSub := none
  apis : Option ApiSection := none
  deriving DecidableEq, Repr

inductive Severity where
  | ERROR
  | WARNING
  | INFO
  deriving DecidableEq, Repr

def Severity.rank : Severity → Nat
  | .ERROR => 0
  | .WARNING => 1
  | .INFO => 2

inductive Category where
  | EVENT
  | STATE
  | DEPENDENCY
  deriving DecidableEq, Repr

structure ValidationIssue where
  severity : Severity
  category : Category
  message : String
  source_module : String := ""
  target : String := ""
  deriving DecidableEq, Repr

/-- The fields of a validator object; `api_consumers` is never read and is left out. -/
structure ManifestValidator where
  issues : List ValidationIssue
  event_publishers : Dict String (List String)
  event_subscribers : Dict String (List String)
  state_publishers : Dict String (List String)
  state_subscribers : Dict String (List String)
  api_providers : Dict String String

def ManifestValidator.new : ManifestValidator := ⟨[], .empty, .empty, .empty, .empty, .empty⟩

/-- One `for key in section[...]` loop of `collect_manifest_data`, skipped when the entry is
missing. -/
def record (d : Dict String (List String)) (module_name : String)
    (keys : Option (List String)) : Dict String (List String) :=
  (keys.getD []).foldl (fun d k => d.appendAt k module_name) d

def provide (d : Dict String String) (module_name : String)
    (apis : Option (List ApiEntry)) : Dict String String :=
  (apis.getD []).foldl (fun d api =>
    let method := api.method.getD ""
    if method ≠ "" then d.setAt method module_name else d) d

def collectManifestData (v : ManifestValidator) (module_name : String) (manifest : Manifest) :
    ManifestValidator :=
  let v := match manifest.event_bus with
    | some eb => { v with
        event_publishers := record v.event_publishers module_name eb.publishes
        event_subscribers := record v.event_subscribers module_name eb.subscribes }
    | none => v
  let v := match manifest.shared_state with
    | some ss => { v with
        state_publishers := record v.state_publishers module_name ss.publishes
        state_subscribers := record v.state_subscribers module_name ss.subscribes }
    | none => v
  match manifest.apis with
  | some a => { v with
      api_providers := provide (provide v.api_providers module_name a.static) module_name a.dynamic }
  | none => v

def noEntries (d : Dict String (List String)) (key : String) : Bool :=
  ((d.entries.lookup key).getD []).isEmpty

structure RuleTexts where
  orphan : String → String
  missing : String → String
  many : String → String

/-- The three loops that `validate_events` and `validate_shared_state` share: published
and never subscribed, subscribed and never published, published more than once. -/
def pubSubIssues (category : Category) (multiple : Severity) (texts : RuleTexts)
    (publishers subscribers : Dict String (List String)) : List ValidationIssue :=
  publishers.entries.filterMap (fun (key, pubs) => if noEntries subscribers key then
      some ⟨.WARNING, category, texts.orphan key, ", ".intercalate pubs, key⟩ else none) ++
  subscribers.entries.filterMap (fun (key, subs) => if noEntries publishers key then
      some ⟨.ERROR, category, texts.missing key, ", ".intercalate subs, key⟩ else none) ++
  publishers.entries.filterMap (fun (key, pubs) => if 1 < pubs.length then
      some ⟨multiple, category, texts.many key, ", ".intercalate pubs, key⟩ else none)

def eventTexts : RuleTexts where
  orphan e := "Event '" ++ e ++ "' is published but has no subscribers"
  missing e := "Event '" ++ e ++ "' has subscribers but no publisher"
  many e := "Event '" ++ e ++ "' is published by multiple modules"

def stateTexts : RuleTexts where
  orphan s := "State '" ++ s ++ "' is written but never read"
  missing s := "State '" ++ s ++ "' is read but never written"
  many s := "State '" ++ s ++ "' is written by multiple modules - potential conflict"

def validateEvents (v : ManifestValidator) : ManifestValidator :=
  { v with
    issues := v.issues ++
      pubSubIssues .EVENT .INFO eventTexts v.event_publishers v.event_subscribers }

def validateSharedState (v : ManifestValidator) : ManifestValidator :=
  { v with
    issues := v.issues ++
      pubSubIssues .STATE .WARNING stateTexts v.state_publishers v.state_subscribers }

def systemDependencies : List String := ["ESPhal", "SharedState", "EventBus", "ConfigManager"]

def dependencyText (dep : String) : String :=
  "Module depends on non-existent module '" ++ dep ++ "'"

def dependencyIssues (module_names : List String) (m : Manifest) : List ValidationIssue :=
  (m.module.dependencies.getD []).filterMap fun dep =>
    if dep ∈ systemDependencies then none
    else if dep ∉ module_names then
      some ⟨.ERROR, .DEPENDENCY, dependencyText dep, m.module.name, dep⟩
    else none

def validateDependencies (v : ManifestValidator) (modules : List Manifest) : ManifestValidator :=
  { v with
    issues := v.issues ++ modules.flatMap
      (dependencyIssues (modules.map (·.module.name))) }

def rankLE (a b : ValidationIssue) : Prop := a.severity.rank ≤ b.severity.rank

instance : DecidableRel rankLE := fun a b =>
  inferInstanceAs (Decidable (a.severity.rank ≤ b.severity.rank))

/-- `issues.sort(key=severity_order)`: Python's sort is stable, as insertion sort is. -/
def sortIssues (issues : List ValidationIssue) : List ValidationIssue :=
  issues.insertionSort rankLE

/-- `validate_all` returns `(not has_errors, issues)` and the validator it leaves. -/
def validateAll (v : ManifestValidator) (modules : List Manifest) :
    (Bool × List ValidationIssue) × ManifestValidator :=
  let v := { v with issues := [] }
  let v := modules.foldl (fun v m => collectManifestData v m.module.name m) v
  let v := validateDependencies (validateSharedState (validateEvents v)) modules
  let v := { v with issues := sortIssues v.issues }
  ((!v.issues.any (·.severity == .ERROR), v.issues), v)

section Lemmas

variable (v : ManifestValidator) (n : String) (m : Manifest)

@[simp] theorem collect_issues : (collectManifestData v n m).issues = v.issues := by
  rcases m with ⟨_, _ | _, _ | _, _ | _⟩ <;> rfl

@[simp] theorem collect_event_publishers : (collectManifestData v n m).event_publishers =
    record v.event_publishers n (m.event_bus.bind PubSub.publishes) := by
  rcases m with ⟨_, _ | _, _ | _, _ | _⟩ <;> rfl

@[simp] theorem collect_event_subscribers : (collectManifestData v n m).event_subscribers =
    record v.event_subscribers n (m.event_bus.bind PubSub.subscribes) := by
  rcases m with ⟨_, _ | _, _ | _, _ | _⟩ <;> rfl

@[simp] theorem collect_state_publishers : (collectManifestData v n m).state_publishers =
    record v.state_publishers n (m.shared_state.bind PubSub.publishes) := by
  rcases m with ⟨_, _ | _, _ | _, _ | _⟩ <;> rfl

@[simp] theorem collect_state_subscribers : (collectManifestData v n m).state_subscribers =
    record v.state_subscribers n (m.shared_state.bind PubSub.subscribes) := by
  rcases m with ⟨_, _ | _, _ | _, _ | _⟩ <;> rfl

end Lemmas

instance : IsTotal ValidationIssue rankLE := ⟨fun _ _ => Nat.le_total _ _⟩

instance : IsTrans ValidationIssue rankLE := ⟨fun _ _ _ => Nat.le_trans⟩

end ManifestValidation
