import ModEspManifests.Validator

/-! What `validate_all` computes. The four tables of a validator object are `groupBy` of the
`(key, module.name)` entries of every manifest it has collected, over all calls so far
(`Collected`); the event and state rules read those tables, the dependency rule reads the
manifests of the current call only. From a new validator this gives the expected issue list
(`expectedIssues`). The report of `generate_validation_report` groups the sorted issues by
category, so each section keeps the severity order. -/
namespace ManifestValidation

open PyDict

namespace Manifest

def eventPublishes (m : Manifest) : List String := (m.event_bus.bind PubSub.publishes).getD []

def eventSubscribes (m : Manifest) : List String := (m.event_bus.bind PubSub.subscribes).getD []

def statePublishes (m : Manifest) : List String := (m.shared_state.bind PubSub.publishes).getD []

def stateSubscribes (m : Manifest) : List String :=
  (m.shared_state.bind PubSub.subscribes).getD []

end Manifest

def entries (sel : Manifest → List String) (ms : List Manifest) : List (String × String) :=
  ms.flatMap fun m => (sel m).map (·, m.module.name)

/-- The four tables hold exactly what `collect_manifest_data` records for `ms`. -/
structure Collected (v : ManifestValidator) (ms : List Manifest) : Prop where
  event_publishers : v.event_publishers = groupBy (entries Manifest.eventPublishes ms)
  event_subscribers : v.event_subscribers = groupBy (entries Manifest.eventSubscribes ms)
  state_publishers : v.state_publishers = groupBy (entries Manifest.statePublishes ms)
  state_subscribers : v.state_subscribers = groupBy (entries Manifest.stateSubscribes ms)

theorem record_groupBy (es : List (String × String)) (n : String) (keys : Option (List String)) :
    record (groupBy es) n keys = groupBy (es ++ (keys.getD []).map (·, n)) := by
  exact foldl_appendAt_const es _ n

@[simp] theorem entries_nil (sel : Manifest → List String) : entries sel [] = [] := rfl

theorem entries_append (sel : Manifest → List String) (ms ms' : List Manifest) :
    entries sel (ms ++ ms') = entries sel ms ++ entries sel ms' := by
  simp [entries]

@[simp] theorem entries_singleton (sel : Manifest → List String) (m : Manifest) :
    entries sel [m] = (sel m).map (·, m.module.name) := by
  simp [entries]

theorem collected_new : Collected ManifestValidator.new [] := ⟨rfl, rfl, rfl, rfl⟩

theorem Collected.collect {v : ManifestValidator} {ms : List Manifest} (h : Collected v ms)
    (m : Manifest) : Collected (collectManifestData v m.module.name m) (ms ++ [m]) := by
  obtain ⟨h1, h2, h3, h4⟩ := h
  constructor <;>
    simp only [collect_event_publishers, collect_event_subscribers, collect_state_publishers,
      collect_state_subscribers, h1, h2, h3, h4, record_groupBy, entries_append,
      entries_singleton] <;> rfl

theorem Collected.foldl {v : ManifestValidator} {ms : List Manifest} (h : Collected v ms)
    (ms' : List Manifest) :
    Collected (ms'.foldl (fun v m => collectManifestData v m.module.name m) v) (ms ++ ms') := by
  induction ms' generalizing v ms with
  | nil => simpa using h
  | cons m ms' ih => simpa using ih (h.collect m)

theorem foldl_collect_issues (v : ManifestValidator) (ms : List Manifest) :
    (ms.foldl (fun v m => collectManifestData v m.module.name m) v).issues = v.issues := by
  induction ms generalizing v with
  | nil => rfl
  | cons m ms ih => simp [ih]

def ruleIssues (seen ms : List Manifest) : List ValidationIssue :=
  pubSubIssues .EVENT .INFO eventTexts (groupBy (entries Manifest.eventPublishes seen))
    (groupBy (entries Manifest.eventSubscribes seen)) ++
  pubSubIssues .STATE .WARNING stateTexts (groupBy (entries Manifest.statePublishes seen))
    (groupBy (entries Manifest.stateSubscribes seen)) ++
  ms.flatMap (dependencyIssues (ms.map (·.module.name)))

/-- Spec lemma: from a validator whose tables hold `seen`, the tables then hold `seen ++ ms`,
and the event and state rules read all of it. -/
theorem validateAll_spec {v : ManifestValidator} {seen : List Manifest} (h : Collected v seen)
    (ms : List Manifest) :
    Collected (validateAll v ms).2 (seen ++ ms) ∧
    (validateAll v ms).1 =
      (!(sortIssues (ruleIssues (seen ++ ms) ms)).any (·.severity == .ERROR),
        sortIssues (ruleIssues (seen ++ ms) ms)) := by
  have hc := Collected.foldl (v := { v with issues := [] }) ⟨h.1, h.2, h.3, h.4⟩ ms
  have hi := foldl_collect_issues { v with issues := [] } ms
  refine ⟨⟨hc.1, hc.2, hc.3, hc.4⟩, ?_⟩
  simp only [validateAll, validateDependencies, validateSharedState, validateEvents, hi,
    hc.1, hc.2, hc.3, hc.4, ruleIssues, List.nil_append, List.append_assoc]

def declarers (sel : Manifest → List String) (ms : List Manifest) (key : String) : List String :=
  ms.flatMap fun m => ((sel m).filter (· = key)).map fun _ => m.module.name

/-- One section's rules over the distinct keys: published and subscribed by nobody,
subscribed and published by nobody, published by at least two entries. -/
def sectionIssues (category : Category) (multiple : Severity) (texts : RuleTexts)
    (pub sub : Manifest → List String) (ms : List Manifest) : List ValidationIssue :=
  (ms.flatMap pub).dedup.filterMap (fun key => if declarers sub ms key = [] then
      some ⟨.WARNING, category, texts.orphan key, ", ".intercalate (declarers pub ms key), key⟩
    else none) ++
  (ms.flatMap sub).dedup.filterMap (fun key => if declarers pub ms key = [] then
      some ⟨.ERROR, category, texts.missing key, ", ".intercalate (declarers sub ms key), key⟩
    else none) ++
  (ms.flatMap pub).dedup.filterMap (fun key => if 2 ≤ (declarers pub ms key).length then
      some ⟨multiple, category, texts.many key, ", ".intercalate (declarers pub ms key), key⟩
    else none)

def unknownDependencies (ms : List Manifest) : List ValidationIssue :=
  ms.flatMap fun m => (m.module.dependencies.getD []).filterMap fun dep =>
    if dep ∉ ms.map (·.module.name) ∧ dep ∉ systemDependencies then
      some ⟨.ERROR, .DEPENDENCY, dependencyText dep, m.module.name, dep⟩
    else none

def expectedIssues (ms : List Manifest) : List ValidationIssue :=
  sectionIssues .EVENT .INFO eventTexts Manifest.eventPublishes Manifest.eventSubscribes ms ++
  sectionIssues .STATE .WARNING stateTexts Manifest.statePublishes Manifest.stateSubscribes ms ++
  unknownDependencies ms

theorem valuesOf_map_pair (k n : String) (xs : List String) :
    valuesOf k (xs.map (·, n)) = (xs.filter (· = k)).map fun _ => n := by
  induction xs with
  | nil => rfl
  | cons x xs ih => by_cases h : x = k <;> simp [h, ih]

theorem valuesOf_entries (sel : Manifest → List String) (ms : List Manifest) (k : String) :
    valuesOf k (entries sel ms) = declarers sel ms k := by
  induction ms with
  | nil => rfl
  | cons m ms ih =>
    rw [← List.singleton_append, entries_append, valuesOf_append, ih, entries_singleton,
      valuesOf_map_pair]
    simp [declarers]

theorem entries_map_fst (sel : Manifest → List String) (ms : List Manifest) :
    (entries sel ms).map Prod.fst = ms.flatMap sel := by
  simp [entries, List.map_flatMap, Function.comp_def]

theorem lookup_map_pair {β : Type} (g : String → β) (k : String) :
    ∀ ks : List String, (ks.map fun j => (j, g j)).lookup k = if k ∈ ks then some (g k) else none
  | [] => rfl
  | j :: ks => by
    by_cases h : k = j
    · subst h; simp [List.lookup_cons]
    · have hb : (k == j) = false := beq_false_of_ne h
      simp [List.lookup_cons, hb, h, lookup_map_pair g k ks]

theorem noEntries_groupBy (es : List (String × String)) (k : String) :
    noEntries (groupBy es) k = (valuesOf k es).isEmpty := by
  simp only [noEntries, groupBy, lookup_map_pair]
  split
  · rfl
  · simp [valuesOf_eq_nil.2 ‹_›]

theorem filterMap_groupBy_perm {β : Type} (F : String × List String → Option β)
    (es : List (String × String)) :
    ((groupBy es).entries.filterMap F).Perm
      ((es.map Prod.fst).dedup.filterMap fun k => F (k, valuesOf k es)) := by
  simp only [groupBy, List.filterMap_map]
  exact (keysOf_perm_dedup es).filterMap _

theorem pubSubIssues_perm (category : Category) (multiple : Severity) (texts : RuleTexts)
    (pub sub : Manifest → List String) (ms : List Manifest) :
    (pubSubIssues category multiple texts (groupBy (entries pub ms))
      (groupBy (entries sub ms))).Perm (sectionIssues category multiple texts pub sub ms) := by
  refine ((filterMap_groupBy_perm _ _).append (filterMap_groupBy_perm _ _)).append
    (filterMap_groupBy_perm _ _) |>.trans (.of_eq ?_)
  simp only [sectionIssues, entries_map_fst, valuesOf_entries, noEntries_groupBy,
    List.isEmpty_iff, Nat.lt_iff_add_one_le]

theorem flatMap_dependencyIssues (ms : List Manifest) :
    ms.flatMap (dependencyIssues (ms.map (·.module.name))) = unknownDependencies ms := by
  refine List.flatMap_congr fun m _ => List.filterMap_congr fun dep _ => ?_
  by_cases hs : dep ∈ systemDependencies <;> by_cases hn : dep ∈ ms.map (·.module.name) <;>
    simp [hs, hn]

def unknownPairs (services : List String) (ms : List Manifest) : List (String × String) :=
  (ms.flatMap fun m => (m.module.dependencies.getD []).map (m.module.name, ·)).filter
    fun p => p.2 ∉ ms.map (·.module.name) ∧ p.2 ∉ services

theorem filterMap_if_some {α β : Type} {p : α → Prop} [DecidablePred p] (g : α → β)
    (l : List α) : l.filterMap (fun a => if p a then some (g a) else none) = (l.filter (p ·)).map g := by
  rw [← List.filterMap_eq_map, List.filterMap_filter]
  simp

theorem unknownDependencies_eq (ms : List Manifest) :
    unknownDependencies ms = (unknownPairs systemDependencies ms).map fun p =>
      ⟨.ERROR, .DEPENDENCY, dependencyText p.2, p.1, p.2⟩ := by
  simp only [unknownDependencies, unknownPairs, List.filter_flatMap, List.map_flatMap,
    List.filter_map, List.map_map, filterMap_if_some]
  rfl

/-- From a new validator, `validate_all` reports the issues of `expectedIssues`, sorted by
severity rank, and `ok` is false exactly when one of them is an ERROR. -/
theorem validateAll_issues (ms : List Manifest) :
    (validateAll ManifestValidator.new ms).1.2.Perm (expectedIssues ms) ∧
    (validateAll ManifestValidator.new ms).1.2.Sorted rankLE ∧
    ((validateAll ManifestValidator.new ms).1.1 = true ↔
      ∀ i ∈ (validateAll ManifestValidator.new ms).1.2, i.severity ≠ .ERROR) := by
  rw [(validateAll_spec collected_new ms).2, List.nil_append]
  refine ⟨(List.perm_insertionSort _ _).trans ?_, List.sorted_insertionSort _ _, by simp⟩
  exact ((pubSubIssues_perm _ _ _ _ _ ms).append (pubSubIssues_perm _ _ _ _ _ ms)).append
    (.of_eq (flatMap_dependencyIssues ms))

def duplicatePump : List Manifest :=
  [{ module := { name := "Pump" }, apis := some { static := some [{ method := some "pump.start" }] } },
   { module := { name := "Pump" }, apis := some { dynamic := some [{ method := some "pump.start" }] } }]

theorem validateAll_merges_duplicates :
    duplicatePump.map (·.module.name) = ["Pump", "Pump"] ∧
    (validateAll ManifestValidator.new duplicatePump).1 = (true, []) := by
  decide

theorem ruleIssues_without_apis (ms : List Manifest) :
    ruleIssues (ms.map fun m => { m with apis := none }) (ms.map fun m => { m with apis := none }) =
      ruleIssues ms ms := by
  simp only [ruleIssues, entries, List.flatMap_map, List.map_map]
  rfl

theorem ruleIssues_append_bare (ms : List Manifest) (n : String)
    (hn : n ∈ ms.map (·.module.name)) :
    ruleIssues (ms ++ [{ module := { name := n } }]) (ms ++ [{ module := { name := n } }]) =
      ruleIssues ms ms := by
  have hd : dependencyIssues (ms.map (·.module.name) ++ [n]) =
      dependencyIssues (ms.map (·.module.name)) := funext fun m =>
    List.filterMap_congr fun dep _ => by
      by_cases h : dep = n
      · subst h; simp [hn]
      · simp [h]
  simp [ruleIssues, entries_append, hd, dependencyIssues, Manifest.eventPublishes,
    Manifest.eventSubscribes, Manifest.statePublishes, Manifest.stateSubscribes]

/-- `validate_all` has no rule for duplicates: its result does not depend on the `apis`
sections, and a further manifest that only repeats a `module.name` changes nothing. -/
theorem validateAll_no_duplicate_rule (ms : List Manifest) (n : String)
    (hn : n ∈ ms.map (·.module.name)) :
    (validateAll ManifestValidator.new (ms.map fun m => { m with apis := none })).1 =
      (validateAll ManifestValidator.new ms).1 ∧
    (validateAll ManifestValidator.new (ms ++ [{ module := { name := n } }])).1 =
      (validateAll ManifestValidator.new ms).1 := by
  simp only [(validateAll_spec collected_new _).2, List.nil_append, ruleIssues_without_apis,
    ruleIssues_append_bare ms n hn, and_self]

theorem validateAll_no_duplicate_rule_pump :
    "Pump" ∈ duplicatePump.map (·.module.name) ∧
    (validateAll ManifestValidator.new (duplicatePump.map fun m => { m with apis := none })).1 =
      (validateAll ManifestValidator.new duplicatePump).1 ∧
    (validateAll ManifestValidator.new (duplicatePump ++ [{ module := { name := "Pump" } }])).1 =
      (validateAll ManifestValidator.new duplicatePump).1 :=
  ⟨by decide, validateAll_no_duplicate_rule duplicatePump "Pump" (by decide)⟩

def afterCalls (calls : List (List Manifest)) : ManifestValidator :=
  calls.foldl (fun v ms => (validateAll v ms).2) ManifestValidator.new

theorem afterCalls_collected (calls : List (List Manifest)) :
    Collected (afterCalls calls) calls.flatten := by
  suffices ∀ v seen, Collected v seen →
      Collected (calls.foldl (fun v ms => (validateAll v ms).2) v) (seen ++ calls.flatten) from
    by simpa using this _ _ collected_new
  induction calls with
  | nil => intro v seen h; simpa using h
  | cons ms calls ih =>
    intro v seen h
    simpa [List.append_assoc] using ih _ _ (validateAll_spec h ms).1

def sensorsPublishing : Manifest :=
  { module := { name := "Sensors" }, event_bus := some { publishes := some ["sensor.updated"] } }

def displaySubscribing : Manifest :=
  { module := { name := "Display" }, event_bus := some { subscribes := some ["sensor.updated"] } }

/-- After a call with `Sensors`, a call with `Display` alone passes: the stale publisher
hides the missing one that a new validator reports as an ERROR. -/
theorem validateAll_stale_publisher :
    (validateAll (afterCalls [[sensorsPublishing]]) [displaySubscribing]).1 = (true, []) ∧
    (validateAll ManifestValidator.new [displaySubscribing]).1.1 = false := by
  decide

def Resolved (pub sub : Manifest → List String) (ms : List Manifest) : Prop :=
  ∀ m ∈ ms, ∀ k ∈ sub m, ∃ m' ∈ ms, k ∈ pub m'

def DependenciesKnown (ms : List Manifest) : Prop :=
  ∀ m ∈ ms, ∀ d ∈ m.module.dependencies.getD [],
    d ∈ ms.map (·.module.name) ∨ d ∈ systemDependencies

theorem declarers_eq_nil {sel : Manifest → List String} {ms : List Manifest} {k : String} :
    declarers sel ms k = [] ↔ ∀ m ∈ ms, k ∉ sel m := by
  simp [declarers, List.filter_eq_nil_iff, List.forall_mem_ne']

theorem sectionIssues_no_error {category : Category} {multiple : Severity} (texts : RuleTexts)
    (pub sub : Manifest → List String) (ms : List Manifest) (hm : multiple ≠ .ERROR) :
    (∀ i ∈ sectionIssues category multiple texts pub sub ms, i.severity ≠ .ERROR) ↔
      Resolved pub sub ms := by
  simp only [sectionIssues, filterMap_if_some, List.forall_mem_append, List.forall_mem_map,
    List.forall_mem_filter]
  simp only [List.mem_dedup, List.mem_flatMap, declarers_eq_nil, decide_eq_true_eq, ne_eq,
    reduceCtorEq, not_false_eq_true, implies_true, not_true_eq_false, imp_false, not_forall,
    Classical.not_imp, Decidable.not_not, forall_exists_index, and_imp, true_and, hm, and_true, exists_prop,
    Resolved]
  exact ⟨fun h m hm k hk => h k m hm hk, fun h k m hm hk => h m hm k hk⟩

theorem unknownDependencies_no_error (ms : List Manifest) :
    (∀ i ∈ unknownDependencies ms, i.severity ≠ .ERROR) ↔ DependenciesKnown ms := by
  simp only [unknownDependencies, filterMap_if_some, List.forall_mem_flatMap, List.forall_mem_map,
    List.forall_mem_filter, decide_eq_true_eq, ne_eq, not_true_eq_false, imp_false, not_and_or,
    not_not, DependenciesKnown]

theorem validateAll_ok_iff_no_error (v : ManifestValidator) (ms : List Manifest) :
    (validateAll v ms).1.1 = true ↔ ∀ i ∈ (validateAll v ms).1.2, i.severity ≠ .ERROR := by
  simp [validateAll]

theorem validateAll_no_error_iff (calls : List (List Manifest)) (ms : List Manifest) :
    (∀ i ∈ (validateAll (afterCalls calls) ms).1.2, i.severity ≠ .ERROR) ↔
      Resolved Manifest.eventPublishes Manifest.eventSubscribes (calls.flatten ++ ms) ∧
      Resolved Manifest.statePublishes Manifest.stateSubscribes (calls.flatten ++ ms) ∧
      DependenciesKnown ms := by
  have hp : (sortIssues (ruleIssues (calls.flatten ++ ms) ms)).Perm
      (sectionIssues .EVENT .INFO eventTexts Manifest.eventPublishes Manifest.eventSubscribes
          (calls.flatten ++ ms) ++
        sectionIssues .STATE .WARNING stateTexts Manifest.statePublishes Manifest.stateSubscribes
          (calls.flatten ++ ms) ++ unknownDependencies ms) :=
    (List.perm_insertionSort _ _).trans <|
      ((pubSubIssues_perm _ _ _ _ _ _).append (pubSubIssues_perm _ _ _ _ _ _)).append
        (.of_eq (flatMap_dependencyIssues ms))
  rw [(validateAll_spec (afterCalls_collected calls) ms).2]
  simp only [hp.mem_iff, List.forall_mem_append, and_assoc,
    sectionIssues_no_error _ _ _ _ (show Severity.INFO ≠ .ERROR by decide),
    sectionIssues_no_error _ _ _ _ (show Severity.WARNING ≠ .ERROR by decide),
    unknownDependencies_no_error]

/-- On a used validator, `ok` holds exactly when every subscription and state read over all
calls so far has a publisher, and every dependency of this call is known. -/
theorem validateAll_verdict (calls : List (List Manifest)) (ms : List Manifest) :
    (validateAll (afterCalls calls) ms).1.1 = true ↔
      Resolved Manifest.eventPublishes Manifest.eventSubscribes (calls.flatten ++ ms) ∧
      Resolved Manifest.statePublishes Manifest.stateSubscribes (calls.flatten ++ ms) ∧
      DependenciesKnown ms := by
  rw [validateAll_ok_iff_no_error]
  exact validateAll_no_error_iff calls ms

theorem Resolved.perm {pub sub : Manifest → List String} {ms ms' : List Manifest}
    (h : ms.Perm ms') : Resolved pub sub ms ↔ Resolved pub sub ms' := by
  simp only [Resolved, h.mem_iff]

theorem DependenciesKnown.perm {ms ms' : List Manifest} (h : ms.Perm ms') :
    DependenciesKnown ms ↔ DependenciesKnown ms' := by
  simp only [DependenciesKnown, h.mem_iff, (h.map (·.module.name)).mem_iff]

/-- The pass/fail verdict does not depend on the order in which the manifests were discovered,
within this call or over the calls before it; the issue list itself may. -/
theorem validateAll_verdict_perm {calls calls' : List (List Manifest)} {ms ms' : List Manifest}
    (hc : calls.flatten.Perm calls'.flatten) (hm : ms.Perm ms') :
    (validateAll (afterCalls calls) ms).1.1 = (validateAll (afterCalls calls') ms').1.1 := by
  have hs := hc.append hm
  refine Bool.eq_iff_iff.2 ?_
  rw [validateAll_ok_iff_no_error, validateAll_ok_iff_no_error, validateAll_no_error_iff,
    validateAll_no_error_iff, Resolved.perm hs, Resolved.perm hs,
    DependenciesKnown.perm hm]

theorem validateAll_verdict_swap :
    ([] : List (List Manifest)).flatten.Perm ([] : List (List Manifest)).flatten ∧
    [sensorsPublishing, displaySubscribing].Perm [displaySubscribing, sensorsPublishing] ∧
    (validateAll (afterCalls []) [sensorsPublishing, displaySubscribing]).1.1 =
      (validateAll (afterCalls []) [displaySubscribing, sensorsPublishing]).1.1 :=
  ⟨.refl _, .swap _ _ _, validateAll_verdict_perm (.refl _) (.swap _ _ _)⟩

end ManifestValidation
