import ModEspManifests.AdaptiveUi
import ModEspManifests.EventTable
import ModEspManifests.ValidatorLaws

/-! `process_all` of `tools/process_manifests.py`, the warnings of `resolve_dependencies`
next to the validator's dependency rule, and what the order in which the manifests are
discovered changes in the files it writes. `validate_manifest_consistency` rebuilds each
accepted module as a validator manifest and, on the way, reads `module.shared_state`, a
field `ModuleInfo` does not have. -/
namespace ManifestPipeline

open PyJson PyDict ManifestParsing ManifestValidation ManifestGeneration AdaptiveUi

/-- The loop body of `validate_manifest_consistency` for one module: building the dict cannot
fail, and then it reads `module.shared_state`, a field `ModuleInfo` does not have. -/
def consistencyManifest (_ : ModuleInfo) : Except PyErr Manifest :=
  .error (.attributeError "shared_state")

def validateManifestConsistency (s : ManifestProcessor) : Except PyErr Bool := do
  let all_manifests ← s.modules.mapM consistencyManifest
  return (validateAll ManifestValidator.new all_manifests).1.1

abbrev Logging := EStateM PyErr (List (Json × Json))

instance decEqResult {ε σ α : Type} [DecidableEq ε] [DecidableEq σ] [DecidableEq α] :
    DecidableEq (EStateM.Result ε σ α)
  | .ok a s, .ok b t =>
    if h : a = b ∧ s = t then isTrue (h.1 ▸ h.2 ▸ rfl)
    else isFalse (by rintro ⟨⟩; exact h ⟨rfl, rfl⟩)
  | .error a s, .error b t =>
    if h : a = b ∧ s = t then isTrue (h.1 ▸ h.2 ▸ rfl)
    else isFalse (by rintro ⟨⟩; exact h ⟨rfl, rfl⟩)
  | .ok _ _, .error _ _ | .error _ _, .ok _ _ => isFalse (fun h => EStateM.Result.noConfusion h)

def resolvedServices : List String := ["ESPhal", "SharedState", "EventBus"]

def warnIfUnknown (module_names : List Json) (name dep : Json) : Logging Unit := do
  ofExcept dep.hash
  if dep ∉ module_names ∧ dep ∉ resolvedServices.map .str then
    modify (· ++ [(name, dep)])

def warnModule (module_names : List Json) (module : ModuleInfo) : Logging Unit := do
  (← ofExcept module.dependencies.iter).forM (warnIfUnknown module_names module.name)

def resolveDependencies (modules : List ModuleInfo) : Logging Unit := do
  ofExcept (modules.forM fun module => module.name.hash)
  modules.forM (warnModule (modules.map (·.name)))

structure GeneratedCode where
  api_registry : String
  module_info : String
  system_contract : String
  contract_readme : String
  events_doc : String
  states_doc : String
  ui_components : String
  component_factories : String
  deriving DecidableEq

def generateCode (py : PyText) (now : String) (s : ManifestProcessor) :
    Except PyErr GeneratedCode := do
  let api_registry ← generateApiRegistry py now s
  let module_info ← generateModuleInfo py now s
  let system_contract ← generateEventRegistry py now s
  let events_doc ← generateEventsDoc py s
  let states_doc ← generateStatesDoc py s
  let ui ← generateAdaptiveUi py (s.modules.map moduleToDict) s.drivers
  return ⟨joinLines api_registry, joinLines module_info, joinLines system_contract,
    joinLines (generateContractReadme now s), joinLines events_doc, joinLines states_doc, ui.1,
    ui.2⟩

inductive Outcome where
  | exited (code : Nat)
  | raised (e : PyErr)
  | generated (code : GeneratedCode)
  deriving DecidableEq

/-- `process_all` on the manifest files in the order discovery lists them. -/
def processAll (py : PyText) (now : String) (module_schema driver_schema : Schema)
    (module_files driver_files : List ManifestFile) : Outcome :=
  let s := parseManifests module_schema driver_schema .init module_files driver_files
  match validateManifestConsistency s with
  | .error e => .raised e
  | .ok false => .exited 1
  | .ok true =>
    match (resolveDependencies s.modules).run [] with
    | .error e _ => .raised e
    | .ok _ _ =>
      match generateCode py now s with
      | .error e => .raised e
      | .ok code => .generated code

theorem validateManifestConsistency_eq (s : ManifestProcessor) :
    validateManifestConsistency s =
      if s.modules = [] then .ok true else .error (.attributeError "shared_state") := by
  unfold validateManifestConsistency
  cases s.modules with
  | nil => rfl
  | cons m ms => rfl

section Run

variable {py : PyText} {now : String} {ms ds : Schema} {files drivers : List ManifestFile}

theorem processAll_eq :
    processAll py now ms ds files drivers =
      if (parseManifests ms ds .init files drivers).modules = [] then
        match generateCode py now (parseManifests ms ds .init files drivers) with
        | .error e => .raised e
        | .ok code => .generated code
      else .raised (.attributeError "shared_state") := by
  unfold processAll
  by_cases h : (parseManifests ms ds .init files drivers).modules = []
  · simp only [validateManifestConsistency_eq, if_pos h, h]
    rfl
  · simp only [validateManifestConsistency_eq, if_neg h]

theorem processAll_of_modules (h : (parseManifests ms ds .init files drivers).modules ≠ []) :
    processAll py now ms ds files drivers = .raised (.attributeError "shared_state") := by
  rw [processAll_eq, if_neg h]

/-- One module file that the parser accepts on its own ends every run with the
`AttributeError`, wherever discovery lists it and whatever the other files hold. -/
theorem processAll_raises_on_accepted_file {f : ManifestFile} (hf : f ∈ files)
    (ha : (acceptedModule ms f).isSome) :
    processAll py now ms ds files drivers = .raised (.attributeError "shared_state") := by
  apply processAll_of_modules
  rw [(parseManifests_spec ms ds .init files drivers).1]
  obtain ⟨m, hm⟩ := Option.isSome_iff_exists.1 ha
  exact List.ne_nil_of_mem (List.mem_append_right _ (List.mem_filterMap.2 ⟨f, hf, hm⟩))

theorem generateApiRegistry_nil {s : ManifestProcessor} (hm : s.modules = []) :
    generateApiRegistry py now s = .ok (apiRegistryHead now ++ apiRegistryTail) := by
  simp only [generateApiRegistry, hm, List.mapM_nil]; rfl

theorem generateModuleInfo_nil {s : ManifestProcessor} (hm : s.modules = []) :
    generateModuleInfo py now s = .ok (moduleInfoHead now ++ moduleInfoTail 0) := by
  simp only [generateModuleInfo, hm, List.mapM_nil]; rfl

theorem generateCode_without_modules {s : ManifestProcessor} (hm : s.modules = [])
    {code : GeneratedCode} (h : generateCode py now s = .ok code) :
    code.api_registry = joinLines (apiRegistryHead now ++ apiRegistryTail) ∧
      code.module_info = joinLines (moduleInfoHead now ++ moduleInfoTail 0) := by
  have ha : generateApiRegistry py now s = _ := generateApiRegistry_nil hm
  have hi : generateModuleInfo py now s = _ := generateModuleInfo_nil hm
  obtain ⟨_, ha', h⟩ := bind_eq_ok.1 h
  obtain ⟨_, hi', h⟩ := bind_eq_ok.1 h
  obtain ⟨_, -, h⟩ := bind_eq_ok.1 h
  obtain ⟨_, -, h⟩ := bind_eq_ok.1 h
  obtain ⟨_, -, h⟩ := bind_eq_ok.1 h
  obtain ⟨_, -, ⟨⟩⟩ := bind_eq_ok.1 h
  rw [ha] at ha'; rw [hi] at hi'
  cases ha'; cases hi'
  exact ⟨rfl, rfl⟩

theorem generateCode_system_contract {s : ManifestProcessor} {code : GeneratedCode}
    (h : generateCode py now s = .ok code) :
    ∃ lines, generateEventRegistry py now s = .ok lines ∧ code.system_contract = joinLines lines := by
  obtain ⟨_, -, h⟩ := bind_eq_ok.1 h
  obtain ⟨_, -, h⟩ := bind_eq_ok.1 h
  obtain ⟨lines, hl, h⟩ := bind_eq_ok.1 h
  obtain ⟨_, -, h⟩ := bind_eq_ok.1 h
  obtain ⟨_, -, h⟩ := bind_eq_ok.1 h
  obtain ⟨_, -, ⟨⟩⟩ := bind_eq_ok.1 h
  exact ⟨lines, hl, rfl⟩

/-- Every run raises, or writes an API registry and a module table that are empty; none reaches
`sys.exit(1)`. -/
theorem processAll_raises_or_writes_empty_tables :
    (∃ e, processAll py now ms ds files drivers = .raised e) ∨
      ∃ code, processAll py now ms ds files drivers = .generated code ∧
        code.api_registry = joinLines (apiRegistryHead now ++ apiRegistryTail) ∧
        code.module_info = joinLines (moduleInfoHead now ++ moduleInfoTail 0) := by
  rw [processAll_eq]
  split
  · split
    · exact .inl ⟨_, rfl⟩
    · exact .inr ⟨_, rfl, generateCode_without_modules ‹_› ‹_›⟩
  · exact .inl ⟨_, rfl⟩

/-- A run that writes its files declares, each once and in ascending order, exactly the events
of the module files whose parse raised at `configuration`. -/
theorem processAll_generated_events {code : GeneratedCode}
    (h : processAll py now ms ds files drivers = .generated code) :
    ∃ keys : List String, code.system_contract = joinLines (eventRegistryHead now ++
        keys.map (constLine py) ++ statesHead ++ eventRegistryTail) ∧
      keys.Sorted (· < ·) ∧
      ∀ k, k ∈ keys ↔ ∃ f ∈ files, raisesAtConfiguration ms f ∧ k ∈ publishedEvents f := by
  rw [processAll_eq] at h
  split at h
  · rename_i hnil
    have hrej : ∀ f ∈ files, acceptedModule ms f = none := by
      rw [(parseManifests_spec ms ds .init files drivers).1] at hnil
      exact List.filterMap_eq_nil_iff.1 hnil
    cases hg : generateCode py now (parseManifests ms ds .init files drivers) with
    | error e => rw [hg] at h; cases h
    | ok c =>
      rw [hg] at h
      cases h
      obtain ⟨lines, hl, hsc⟩ := generateCode_system_contract hg
      refine ⟨_, hsc.trans (congrArg joinLines (generateEventRegistry_ok py now _ hl)),
        sortKeys_sorted (Dict.nodup _), fun k => ?_⟩
      have hk : (files.flatMap (fileEvents ms)).map Prod.fst =
          files.flatMap fun f => if raisesAtConfiguration ms f then publishedEvents f else [] := by
        rw [List.map_flatMap]
        exact List.flatMap_congr fun f hf => fileEvents_of_rejected (hrej f hf)
      rw [(sortKeys_perm _).mem_iff, parseManifests_events,
        show ManifestProcessor.init.all_events = groupBy [] from rfl, recordEvents_groupBy,
        List.nil_append, keys_groupBy, mem_keysOf, hk, List.mem_flatMap]
      refine exists_congr fun f => and_congr_right fun _ => ?_
      split <;> simp [*]
  · cases h

end Run

def configStringFile : ManifestFile :=
  ⟨"components/sensors/module_manifest.json", some (.obj [("module", .obj [("name", .str "Sensors")]),
    ("event_bus", .obj [("publishes", .obj [("sensor.updated", .obj [])])]),
    ("configuration", .str "sensors_config.json")])⟩

theorem processAll_generated_events_sensors :
    ∃ code, processAll PyText.ascii "" none none [configStringFile] [] = .generated code ∧
      ∃ keys : List String, code.system_contract = joinLines (eventRegistryHead "" ++
          keys.map (constLine PyText.ascii) ++ statesHead ++ eventRegistryTail) ∧
        keys.Sorted (· < ·) ∧
        ∀ k, k ∈ keys ↔ ∃ f ∈ [configStringFile], raisesAtConfiguration none f ∧
          k ∈ publishedEvents f :=
  have h : processAll PyText.ascii "" none none [configStringFile] [] = .generated _ := rfl
  ⟨_, h, processAll_generated_events h⟩

def pumpFile : ManifestFile :=
  ⟨"components/pump/module_manifest.json", some (.obj [("module", .obj [("name", .str "Pump")])])⟩

/-- The module is accepted and declares nothing the validator could object to, yet the run
stops with an `AttributeError` before any code is generated. -/
theorem processAll_raises_on_module :
    (parseManifests none none .init [pumpFile] []).modules.length = 1 ∧
      (validateAll .new [⟨⟨"Pump", none⟩, none, none, none⟩]).1 = (true, []) ∧
      processAll PyText.ascii "" none none [pumpFile] [] = .raised (.attributeError "shared_state") :=
  ⟨by decide, by decide, processAll_of_modules (by decide)⟩

theorem processAll_raises_on_accepted_pump :
    pumpFile ∈ [pumpFile] ∧ (acceptedModule none pumpFile).isSome ∧
      processAll PyText.ascii "" none none [pumpFile] [] =
        .raised (.attributeError "shared_state") :=
  ⟨List.mem_singleton_self _, by decide,
    processAll_raises_on_accepted_file (List.mem_singleton_self _) (by decide)⟩

def Describes (m : ModuleInfo) (man : Manifest) : Prop :=
  m.name = .str man.module.name ∧
    m.dependencies = .arr ((man.module.dependencies.getD []).map .str)

section Logging

variable {α β : Type} {log log' : List (Json × Json)}

theorem run_bind_of_ok {x : Logging α} {g : α → Logging β} {a : α} (h : x.run log = .ok a log') :
    (x >>= g).run log = (g a).run log' := by
  simp only [run_eq, bind, EStateM.bind] at h ⊢
  rw [h]

theorem ofExcept_ok_bind {a : α} {g : α → Logging β} :
    (ofExcept (.ok a) >>= g : Logging β).run log = (g a).run log := rfl

theorem forM_logs {f : α → Logging PUnit} {R : α → β → Prop} (out : β → List (Json × Json))
    (hf : ∀ a b, R a b → ∀ log, (f a).run log = .ok ⟨⟩ (log ++ out b)) :
    ∀ {l : List α} {l' : List β}, List.Forall₂ R l l' →
      ∀ log, (l.forM f).run log = .ok ⟨⟩ (log ++ l'.flatMap out)
  | [], [], .nil, log => by rw [List.flatMap_nil, List.append_nil]; rfl
  | a :: l, b :: l', .cons hab h, log => by
    show (f a >>= fun _ => l.forM f).run log = _
    rw [run_bind_of_ok (hf a b hab log), forM_logs out hf h]
    simp

theorem flatMap_if_singleton {p : α → Prop} [DecidablePred p] (g : α → β) (l : List α) :
    l.flatMap (fun a => if p a then [g a] else []) = (l.filter (p ·)).map g := by
  induction l with
  | nil => rfl
  | cons a l ih => by_cases h : p a <;> simp [h, ih]

theorem warnIfUnknown_str (names : List Json) (name : Json) (d : String) (log) :
    (warnIfUnknown names name (.str d)).run log = .ok ⟨⟩ (log ++
      if Json.str d ∉ names ∧ Json.str d ∉ resolvedServices.map .str then [(name, .str d)]
      else []) := by
  by_cases h : .str d ∉ names ∧ .str d ∉ resolvedServices.map Json.str <;>
    simp only [warnIfUnknown, h, if_true, if_false, List.append_nil] <;> rfl

theorem warnModule_run {names : List String} {m : ModuleInfo} {man : Manifest}
    (hd : Describes m man) (log) :
    (warnModule (names.map .str) m).run log = .ok ⟨⟩ (log ++
      ((((man.module.dependencies.getD []).map (man.module.name, ·)).filter
        fun p => p.2 ∉ names ∧ p.2 ∉ resolvedServices).map fun p => (.str p.1, .str p.2))) := by
  have hl : List.Forall₂ (fun dep d => dep = Json.str d)
      ((man.module.dependencies.getD []).map .str) (man.module.dependencies.getD []) :=
    List.forall₂_map_left_iff.2 (List.forall₂_same.2 fun _ _ => rfl)
  rw [warnModule, hd.2, Json.iter_arr, ofExcept_ok_bind,
    forM_logs (fun d => if Json.str d ∉ names.map .str ∧ Json.str d ∉ resolvedServices.map .str
      then [(m.name, .str d)] else []) (fun _ d hdep log => hdep ▸ warnIfUnknown_str _ _ d log) hl,
    hd.1, flatMap_if_singleton]
  simp [List.filter_map, Function.comp_def]

theorem names_of_describes {modules : List ModuleInfo} {ms : List Manifest}
    (h : List.Forall₂ Describes modules ms) :
    modules.map (·.name) = (ms.map (·.module.name)).map .str := by
  induction h with
  | nil => rfl
  | cons hd _ ih => simp [hd.1, ih]

theorem hash_names_of_describes {modules : List ModuleInfo} {ms : List Manifest}
    (h : List.Forall₂ Describes modules ms) :
    (modules.forM fun module => module.name.hash) = .ok ⟨⟩ := by
  induction h with
  | nil => rfl
  | cons hd _ ih =>
    show (Json.hash _ >>= fun _ => _) = _
    rw [hd.1, ih]
    rfl

theorem resolveDependencies_run {modules : List ModuleInfo} {ms : List Manifest}
    (h : List.Forall₂ Describes modules ms) :
    (resolveDependencies modules).run [] =
      .ok ⟨⟩ ((unknownPairs resolvedServices ms).map fun p => (.str p.1, .str p.2)) := by
  rw [resolveDependencies, hash_names_of_describes h, ofExcept_ok_bind, names_of_describes h,
    forM_logs _ (fun m man (hd : Describes m man) log => warnModule_run hd log) h]
  simp [unknownPairs, List.filter_flatMap, List.map_flatMap]

end Logging

theorem unknownPairs_system (ms : List Manifest) :
    unknownPairs systemDependencies ms =
      (unknownPairs resolvedServices ms).filter (·.2 ≠ "ConfigManager") := by
  simp only [unknownPairs, List.filter_filter]
  refine List.filter_congr fun p _ => ?_
  rw [← Bool.decide_and, decide_eq_decide]
  simp [systemDependencies, resolvedServices]
  tauto

/-- On the same modules `validate_dependencies` reports the pairs `resolve_dependencies` logs,
in order, except those whose dependency is `ConfigManager`. -/
theorem dependency_checks_except_config_manager (v : ManifestValidator)
    {modules : List ModuleInfo} {ms : List Manifest} (h : List.Forall₂ Describes modules ms) :
    (resolveDependencies modules).run [] =
        .ok ⟨⟩ ((unknownPairs resolvedServices ms).map fun p => (.str p.1, .str p.2)) ∧
      (validateDependencies v ms).issues = v.issues ++
        ((unknownPairs resolvedServices ms).filter (·.2 ≠ "ConfigManager")).map fun p =>
          ⟨.ERROR, .DEPENDENCY, dependencyText p.2, p.1, p.2⟩ := by
  refine ⟨resolveDependencies_run h, ?_⟩
  show v.issues ++ _ = _
  rw [flatMap_dependencyIssues, unknownDependencies_eq, unknownPairs_system]

def configClientFile : ManifestFile :=
  ⟨"components/display/module_manifest.json", some (.obj [("module",
    .obj [("name", .str "Display"), ("dependencies", .arr [.str "ConfigManager"])])])⟩

def configClient : Manifest :=
  { module := { name := "Display", dependencies := some ["ConfigManager"] } }

/-- The processor warns that `Display` depends on an unknown module; the validator, on the
same module, reports nothing. -/
theorem resolveDependencies_warns_on_config_manager :
    List.Forall₂ Describes (parseManifests none none .init [configClientFile] []).modules
        [configClient] ∧
      (resolveDependencies (parseManifests none none .init [configClientFile] []).modules).run [] =
        .ok ⟨⟩ [(.str "Display", .str "ConfigManager")] ∧
      (validateDependencies .new [configClient]).issues = [] :=
  have hd : List.Forall₂ Describes (parseManifests none none .init [configClientFile] []).modules
      [configClient] := .cons ⟨rfl, rfl⟩ .nil
  ⟨hd, (dependency_checks_except_config_manager .new hd).1.trans (by decide),
    (dependency_checks_except_config_manager .new hd).2.trans (by decide)⟩

/-- Two runs of a generator write the same blocks, each in its own order. -/
def Reordered {β γ : Type} (render : List β → γ) (o₁ o₂ : Except PyErr γ) : Prop :=
  ∀ out₁, o₁ = .ok out₁ → ∃ b₁ b₂ : List β, b₁.Perm b₂ ∧ out₁ = render b₁ ∧ o₂ = .ok (render b₂)

theorem reordered_mapM {α β γ : Type} {f : α → Except PyErr β} {render : List β → γ}
    {xs ys : List α} (hp : xs.Perm ys) :
    Reordered render (xs.mapM f >>= fun bs => pure (render bs))
      (ys.mapM f >>= fun bs => pure (render bs)) := by
  intro out h
  obtain ⟨rs, hx, ⟨⟩⟩ := bind_eq_ok.1 h
  obtain ⟨rs', hy, hp'⟩ := mapM_perm hp hx
  exact ⟨rs, rs', hp', rfl, bind_eq_ok.2 ⟨rs', hy, rfl⟩⟩

def uiRender (b : List (String × String)) : String × String :=
  (registryHead ++ String.join (b.map Prod.fst) ++ registryTail b.length,
    factoriesHead ++ String.join (b.map Prod.snd) ++ factoriesTail)

section Ui

variable (py : PyText)

theorem generateAdaptiveUi_ok {ms ds : List Json} {out : String × String} :
    generateAdaptiveUi py ms ds = .ok out ↔
      ∃ comps b, collectComponents ms ds = .ok comps ∧
        List.Forall₂ (fun c e => registryEntry py c = .ok e.1 ∧ factoryEntry py c = .ok e.2)
          comps b ∧ out = uiRender b := by
  constructor
  · intro h
    simp only [generateAdaptiveUi, generateComponentRegistry, generateFactoryFunctions,
      bind_eq_ok, pure, Except.pure, Except.ok.injEq] at h
    obtain ⟨comps, hc, _, ⟨regs, hr, rfl⟩, _, ⟨facs, hf, rfl⟩, rfl⟩ := h
    have hr' := mapM_ok_iff.1 hr
    have hf' := mapM_ok_iff.1 hf
    have hl : regs.length = facs.length := hr'.length_eq.symm.trans hf'.length_eq
    refine ⟨comps, regs.zip facs, hc, forall₂_zip_and hr' hf', ?_⟩
    simp [uiRender, List.map_fst_zip, List.map_snd_zip, hl, hr'.length_eq]
  · rintro ⟨comps, b, hc, hb, rfl⟩
    have hr : comps.mapM (registryEntry py) = .ok (b.map Prod.fst) :=
      mapM_ok_iff.2 (List.forall₂_map_right_iff.2 (hb.imp fun _ _ h => h.1))
    have hf : comps.mapM (factoryEntry py) = .ok (b.map Prod.snd) :=
      mapM_ok_iff.2 (List.forall₂_map_right_iff.2 (hb.imp fun _ _ h => h.2))
    simp only [generateAdaptiveUi, generateComponentRegistry, generateFactoryFunctions,
      hc, hr, hf, hb.length_eq, bind, Except.bind, pure, Except.pure]
    rfl

theorem collectComponents_perm {ms ms' ds ds' : List Json} {comps : List Json}
    (hm : ms.Perm ms') (hd : ds.Perm ds') (h : collectComponents ms ds = .ok comps) :
    ∃ comps', collectComponents ms' ds' = .ok comps' ∧ comps.Perm comps' := by
  simp only [collectComponents, bind_eq_ok, pure, Except.pure, Except.ok.injEq] at h
  obtain ⟨a, ha, b, hb, rfl⟩ := h
  obtain ⟨a', ha', hpa⟩ := mapM_perm hm ha
  obtain ⟨b', hb', hpb⟩ := mapM_perm hd hb
  exact ⟨a'.flatten ++ b'.flatten, bind_eq_ok.2 ⟨a', ha', bind_eq_ok.2 ⟨b', hb', rfl⟩⟩,
    hpa.flatten.append hpb.flatten⟩

theorem generateAdaptiveUi_reordered {ms ms' ds ds' : List Json} (hm : ms.Perm ms')
    (hd : ds.Perm ds') :
    Reordered uiRender (generateAdaptiveUi py ms ds) (generateAdaptiveUi py ms' ds') := by
  intro out h
  obtain ⟨comps, b, hc, hb, rfl⟩ := (generateAdaptiveUi_ok py).1 h
  obtain ⟨comps', hc', hp⟩ := collectComponents_perm hm hd hc
  obtain ⟨b', hb', hpb⟩ := List.perm_comp_forall₂ hp.symm hb
  exact ⟨b, b', hpb.symm, rfl, (generateAdaptiveUi_ok py).2 ⟨comps', b', hc', hb', rfl⟩⟩

end Ui

section Generators

variable (py : PyText) (now : String) {s₁ s₂ : ManifestProcessor}

theorem generateEventRegistry_reordered {es₁ es₂ : List (String × Json)} (hp : es₁.Perm es₂)
    (h₁ : s₁.all_events = groupBy es₁) (h₂ : s₂.all_events = groupBy es₂) :
    (generateEventRegistry py now s₁).toOption = (generateEventRegistry py now s₂).toOption := by
  have hk : sortKeys s₁.all_events.keys = sortKeys s₂.all_events.keys := by
    rw [h₁, h₂, keys_groupBy, keys_groupBy]
    exact sortKeys_eq_of_perm (keysOf_perm hp)
  have hok : (∃ g, prefixGroups s₁.all_events = .ok g) ↔ ∃ g, prefixGroups s₂.all_events = .ok g := by
    rw [prefixGroups_ok_iff, prefixGroups_ok_iff, h₁, h₂, forall_groupBy_values,
      forall_groupBy_values]
    exact ⟨fun h e he => h e (hp.mem_iff.2 he), fun h e he => h e (hp.mem_iff.1 he)⟩
  rw [generateEventRegistry_eq, generateEventRegistry_eq, hk]
  cases hx : prefixGroups s₁.all_events <;> cases hy : prefixGroups s₂.all_events <;>
    simp_all [Except.map, Except.toOption]

theorem generateModuleInfo_reordered (hm : s₁.modules.Perm s₂.modules) :
    Reordered (fun b => moduleInfoHead now ++ b.flatten ++ moduleInfoTail b.length)
      (generateModuleInfo py now s₁) (generateModuleInfo py now s₂) := by
  intro out h
  obtain ⟨rs, hx, ⟨⟩⟩ := bind_eq_ok.1 h
  obtain ⟨rs', hy, hp⟩ := mapM_perm hm hx
  refine ⟨rs, rs', hp, by rw [(mapM_ok_iff.1 hx).length_eq], bind_eq_ok.2 ⟨rs', hy, ?_⟩⟩
  rw [(mapM_ok_iff.1 hy).length_eq]
  rfl

structure ReorderLaw (s₁ s₂ : ManifestProcessor) : Prop where
  event_registry :
    (generateEventRegistry py now s₁).toOption = (generateEventRegistry py now s₂).toOption
  events_doc : generateEventsDoc py s₁ = generateEventsDoc py s₂
  states_doc : generateStatesDoc py s₁ = generateStatesDoc py s₂
  api_registry : Reordered (fun b => apiRegistryHead now ++ b.flatten ++ apiRegistryTail)
    (generateApiRegistry py now s₁) (generateApiRegistry py now s₂)
  module_info : Reordered (fun b => moduleInfoHead now ++ b.flatten ++ moduleInfoTail b.length)
    (generateModuleInfo py now s₁) (generateModuleInfo py now s₂)
  adaptive_ui : Reordered uiRender
    (generateAdaptiveUi py (s₁.modules.map moduleToDict) s₁.drivers)
    (generateAdaptiveUi py (s₂.modules.map moduleToDict) s₂.drivers)

/-- Discovering the same module and driver files in another order leaves the header and the
two documents as they were, and reorders the blocks of the API registry, the module table
and the UI files. -/
theorem generators_under_reordering (ms ds : Schema)
    {files files' drivers drivers' : List ManifestFile} (hf : files.Perm files')
    (hd : drivers.Perm drivers') :
    ReorderLaw py now (parseManifests ms ds .init files drivers)
      (parseManifests ms ds .init files' drivers') := by
  obtain ⟨hm₁, hd₁, -⟩ := parseManifests_spec ms ds .init files drivers
  obtain ⟨hm₂, hd₂, -⟩ := parseManifests_spec ms ds .init files' drivers'
  have hm : (parseManifests ms ds .init files drivers).modules.Perm
      (parseManifests ms ds .init files' drivers').modules := by
    rw [hm₁, hm₂]
    exact (hf.filterMap _).append_left _
  have hdr : (parseManifests ms ds .init files drivers).drivers.Perm
      (parseManifests ms ds .init files' drivers').drivers := by
    rw [hd₁, hd₂]
    exact (hd.filterMap _).append_left _
  exact
    { event_registry := generateEventRegistry_reordered py now (hf.flatMap_right (fileEvents ms))
        ((parseManifests_events ms ds .init files drivers).trans (recordEvents_groupBy [] _))
        ((parseManifests_events ms ds .init files' drivers').trans (recordEvents_groupBy [] _))
      events_doc := by rw [generateEventsDoc_eq, generateEventsDoc_eq]
      states_doc := by rw [generateStatesDoc_eq, generateStatesDoc_eq]
      api_registry := reordered_mapM hm
      module_info := generateModuleInfo_reordered py now hm
      adaptive_ui := generateAdaptiveUi_reordered py (hm.map _) hdr }

end Generators

def apiModuleFile (name : String) : ManifestFile :=
  ⟨"components/" ++ name ++ "/module_manifest.json",
    some (.obj [("module", .obj [("name", .str name)]),
      ("apis", .obj [("static",
        .arr [.obj [("method", .str (name ++ ".get")), ("handler", .str (name ++ "_get"))]])]),
      ("event_bus", .obj [("publishes", .obj [(name ++ ".ready", .obj [])])])])⟩

def discoveredModules (names : List String) : ManifestProcessor :=
  parseManifests none none .init (names.map apiModuleFile) []

theorem generators_under_reordering_ab :
    (["a", "b"].map apiModuleFile).Perm (["b", "a"].map apiModuleFile) ∧
      ([] : List ManifestFile).Perm [] ∧
      ReorderLaw PyText.ascii "" (discoveredModules ["a", "b"]) (discoveredModules ["b", "a"]) :=
  ⟨.swap _ _ _, .refl _, generators_under_reordering PyText.ascii "" none none (.swap _ _ _) (.refl _)⟩

theorem generateApiRegistry_follows_discovery :
    generateApiRegistry PyText.ascii "" (discoveredModules ["a", "b"]) ≠
      generateApiRegistry PyText.ascii "" (discoveredModules ["b", "a"]) := by
  decide

end ManifestPipeline
