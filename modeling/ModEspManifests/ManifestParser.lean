import ModEspManifests.PyJson

/-! `parse_manifests` and `parse_module_manifest` of `tools/process_manifests.py`. The parser
writes into the processor's tables (`all_apis`, `all_ui_schemas`, `all_events`) while it
reads a file, and `parse_manifests` catches any exception and drops the file. The model runs
in `EStateM`, where a raise keeps the state reached so far, as Python's mutations do. -/
namespace ManifestParsing

open PyJson PyDict

/-- `ModuleInfo`: the fields hold the JSON values read from the manifest, whatever their type,
with the dataclass defaults. -/
structure ModuleInfo where
  name : Json
  type : Json
  version : Json
  description : Json := .str ""
  priority : Json := .str "NORMAL"
  dependencies : Json := .arr []
  apis : List Json := []
  ui_pages : Json := .arr []
  shared_state_keys : List String := []
  events : List String := []
  config_file : Json := .null
  manifest_path : String := ""
  ui : Json := .obj []
  driver_interface : Json := .null
  deriving DecidableEq, Repr

structure ManifestProcessor where
  modules : List ModuleInfo
  drivers : List Json
  all_apis : List Json
  all_ui_schemas : Dict Json Json
  all_events : Dict String (List Json)

def ManifestProcessor.init : ManifestProcessor := ⟨[], [], [], .empty, .empty⟩

/-- A discovered manifest file: its path, and what `json.load` makes of it (`none` when the
text is not JSON, which raises `JSONDecodeError`). -/
structure ManifestFile where
  path : String
  content : Option Json

/-- `jsonschema.validate` as a predicate; `none` for a schema file holding `{}`, which
`if self.module_schema:` skips. A missing file makes `__init__` raise `AttributeError`:
`_load_schema` logs through `self.logger` before `__init__` sets it. -/
abbrev Schema := Option (Json → Bool)

abbrev Py := EStateM PyErr ManifestProcessor

def lift {α : Type} : Except PyErr α → Py α
  | .ok a => pure a
  | .error e => throw e

def addStaticApis (module : ModuleInfo) : List Json → Py ModuleInfo
  | [] => pure module
  | api :: rest => do
    let api ← lift (api.setItem "module" module.name)
    modify fun s => { s with all_apis := s.all_apis ++ [api] }
    addStaticApis { module with apis := module.apis ++ [api] } rest

def extractApis (manifest : Json) (module : ModuleInfo) : Py ModuleInfo := do
  if ← lift (manifest.contains "apis") then
    let static_apis ← lift ((← lift (manifest.getItem "apis")).get "static" (.arr []))
    addStaticApis module (← lift static_apis.iter)
  else pure module

def extractUi (manifest : Json) (module : ModuleInfo) : Py ModuleInfo := do
  if ← lift (manifest.contains "ui") then
    let ui_data ← lift (manifest.getItem "ui")
    let module := { module with ui := ui_data }
    if ← lift (ui_data.contains "static") then
      if ← lift ((← lift (ui_data.getItem "static")).contains "pages") then
        let pages ← lift ((← lift (ui_data.getItem "static")).getItem "pages")
        let module := { module with ui_pages := pages }
        lift module.name.hash
        modify fun s => { s with all_ui_schemas := s.all_ui_schemas.setAt module.name ui_data }
        pure module
      else pure module
    else pure module
  else pure module

def extractSharedState (manifest : Json) (module : ModuleInfo) : Py ModuleInfo := do
  if ← lift (manifest.contains "shared_state") then
    let publishes ← lift ((← lift (manifest.getItem "shared_state")).get "publishes" (.obj []))
    let keys ← lift publishes.keys
    pure { module with shared_state_keys := module.shared_state_keys ++ keys }
  else pure module

def extractEvents (manifest : Json) (module : ModuleInfo) : Py ModuleInfo := do
  if ← lift (manifest.contains "event_bus") then
    let publishes ← lift ((← lift (manifest.getItem "event_bus")).get "publishes" (.obj []))
    let keys ← lift publishes.keys
    let module := { module with events := module.events ++ keys }
    modify fun s =>
      { s with all_events := keys.foldl (fun d e => d.appendAt e module.name) s.all_events }
    pure module
  else pure module

def extractConfiguration (manifest : Json) (module : ModuleInfo) : Py ModuleInfo := do
  if ← lift (manifest.contains "configuration") then
    let config_file ← lift ((← lift (manifest.getItem "configuration")).get "config_file" .null)
    pure { module with config_file := config_file }
  else pure module

/-- `parse_module_manifest` after the schema check: build `ModuleInfo` from `module`, then
the sections in source order. -/
def extractModule (manifest : Json) (path : String) : Py ModuleInfo := do
  let module_data ← lift (manifest.get "module" (.obj []))
  let name ← lift (module_data.get "name" (.str ""))
  let type ← lift (module_data.get "type" (.str "STANDARD"))
  let version ← lift (module_data.get "version" (.str "0.0.0"))
  let description ← lift (module_data.get "description" (.str ""))
  let priority ← lift (module_data.get "priority" (.str "NORMAL"))
  let dependencies ← lift (module_data.get "dependencies" (.arr []))
  let driver_interface ← lift (module_data.get "driver_interface" .null)
  let module : ModuleInfo :=
    { name := name, type := type, version := version, description := description,
      priority := priority, dependencies := dependencies, manifest_path := path,
      driver_interface := driver_interface }
  let module ← extractApis manifest module
  let module ← extractUi manifest module
  let module ← extractSharedState manifest module
  let module ← extractEvents manifest module
  extractConfiguration manifest module

def schemaRejects (schema : Schema) (manifest : Json) : Bool :=
  match schema with
  | some valid => !valid manifest
  | none => false

def parseModuleManifest (module_schema : Schema) (f : ManifestFile) : Py (Option ModuleInfo) := do
  let some manifest := f.content | throw .jsonDecodeError
  if schemaRejects module_schema manifest then return none
  return some (← extractModule manifest f.path)

def parseDriverManifest (driver_schema : Schema) (f : ManifestFile) :
    Except PyErr (Option Json) := do
  let some manifest := f.content | throw .jsonDecodeError
  if schemaRejects driver_schema manifest then return none
  let driver_data ← manifest.get "driver" (.obj [])
  let driver_data ← driver_data.setItem "manifest_path" (.str f.path)
  let specific ← (← manifest.get "apis" (.obj [])).get "specific" (.arr [])
  let driver_data ← driver_data.setItem "apis" specific
  return some driver_data

/-- One iteration of the module loop of `parse_manifests`: an exception is logged and the
file skipped, with whatever the failed parse had written kept. -/
def parseModuleStep (module_schema : Schema) (s : ManifestProcessor) (f : ManifestFile) :
    ManifestProcessor :=
  match (parseModuleManifest module_schema f).run s with
  | .ok (some m) s' => { s' with modules := s'.modules ++ [m] }
  | .ok none s' => s'
  | .error _ s' => s'

def parseDriverStep (driver_schema : Schema) (s : ManifestProcessor) (f : ManifestFile) :
    ManifestProcessor :=
  match parseDriverManifest driver_schema f with
  | .ok (some d) => if d.truthy then { s with drivers := s.drivers ++ [d] } else s
  | _ => s

def parseManifests (module_schema driver_schema : Schema) (s : ManifestProcessor)
    (module_files driver_files : List ManifestFile) : ManifestProcessor :=
  driver_files.foldl (parseDriverStep driver_schema)
    (module_files.foldl (parseModuleStep module_schema) s)

section Run

variable {α β : Type} {s s' : ManifestProcessor}

theorem run_eq {ε σ : Type} (x : EStateM ε σ α) (s : σ) : x.run s = x s := rfl

theorem bind_ok {x : Py α} {f : α → Py β} {b : β} :
    (x >>= f).run s = .ok b s' ↔ ∃ a s₁, x.run s = .ok a s₁ ∧ (f a).run s₁ = .ok b s' := by
  simp only [run_eq, bind, EStateM.bind]
  split <;> rename_i h
  · exact ⟨fun hf => ⟨_, _, by rw [h], hf⟩,
      fun ⟨_, _, he, hf⟩ => by rw [h] at he; cases he; exact hf⟩
  · simp [h]

@[simp] theorem lift_ok {e : Except PyErr α} {a : α} :
    (lift e).run s = .ok a s' ↔ e = .ok a ∧ s' = s := by
  cases e <;> simp [lift, run_eq, pure, EStateM.pure, throw, throwThe, MonadExceptOf.throw,
    EStateM.throw, eq_comm]

theorem lift_bind_ok {e : Except PyErr α} {f : α → Py β} {b : β} :
    (lift e >>= f).run s = .ok b s' ↔ ∃ a, e = .ok a ∧ (f a).run s = .ok b s' := by
  cases e <;> simp [lift, bind, EStateM.bind, run_eq, pure, EStateM.pure, throw, throwThe,
    MonadExceptOf.throw, EStateM.throw]

@[simp] theorem pure_ok {a b : α} : (pure a : Py α).run s = .ok b s' ↔ a = b ∧ s' = s := by
  simp [run_eq, pure, EStateM.pure, eq_comm]

@[simp] theorem throw_ok {e : PyErr} {a : α} : (throw e : Py α).run s = .ok a s' ↔ False := by
  simp [run_eq, throw, throwThe, MonadExceptOf.throw, EStateM.throw]

@[simp] theorem modify_ok {g : ManifestProcessor → ManifestProcessor} {u : PUnit} :
    (modify g : Py PUnit).run s = .ok u s' ↔ s' = g s := by
  simp [run_eq, modify, modifyGet, MonadStateOf.modifyGet, EStateM.modifyGet, eq_comm]

end Run

structure Extends (s₀ : ManifestProcessor) (E₀ : List (String × Json)) (m : ModuleInfo)
    (s : ManifestProcessor) : Prop where
  modules : s.modules = s₀.modules
  all_apis : s.all_apis = s₀.all_apis ++ m.apis
  all_events : s.all_events = groupBy (E₀ ++ m.events.map (·, m.name))
  all_ui_schemas : ∀ k ∈ s.all_ui_schemas.keys, k ∈ s₀.all_ui_schemas.keys ∨ k = m.name

section Sections

variable {s₀ s s' : ManifestProcessor} {E₀ : List (String × Json)} {m m' : ModuleInfo}
  {manifest : Json}

theorem addStaticApis_extends (xs : List Json) (h : Extends s₀ E₀ m s)
    (hr : (addStaticApis m xs).run s = .ok m' s') : Extends s₀ E₀ m' s' := by
  induction xs generalizing m s with
  | nil =>
    simp only [addStaticApis, pure_ok] at hr
    obtain ⟨rfl, rfl⟩ := hr
    exact h
  | cons x xs ih =>
    simp only [addStaticApis, lift_bind_ok] at hr
    simp only [bind_ok, modify_ok] at hr
    obtain ⟨api, -, _, _, rfl, hr⟩ := hr
    refine ih ?_ hr
    exact ⟨h.1, by simp [h.2], h.3, h.4⟩

theorem extractApis_extends (h : Extends s₀ E₀ m s)
    (hr : (extractApis manifest m).run s = .ok m' s') : Extends s₀ E₀ m' s' := by
  simp only [extractApis, lift_bind_ok] at hr
  obtain ⟨_, -, hr⟩ := hr
  split at hr
  · simp only [lift_bind_ok] at hr
    obtain ⟨_, -, _, -, _, -, hr⟩ := hr
    exact addStaticApis_extends _ h hr
  · obtain ⟨rfl, rfl⟩ := pure_ok.1 hr
    exact h

theorem extractUi_extends (h : Extends s₀ E₀ m s)
    (hr : (extractUi manifest m).run s = .ok m' s') : Extends s₀ E₀ m' s' := by
  simp only [extractUi, lift_bind_ok] at hr
  obtain ⟨_, -, hr⟩ := hr
  split at hr
  · simp only [lift_bind_ok] at hr
    obtain ⟨ui, -, _, -, hr⟩ := hr
    split at hr
    · simp only [lift_bind_ok] at hr
      obtain ⟨_, -, _, -, hr⟩ := hr
      split at hr
      · simp only [lift_bind_ok] at hr
        simp only [bind_ok, modify_ok] at hr
        obtain ⟨_, -, _, -, _, -, _, _, rfl, hr⟩ := hr
        obtain ⟨rfl, rfl⟩ := pure_ok.1 hr
        exact ⟨h.1, h.2, h.3, fun k hk => (Dict.mem_keys_setAt hk).elim (h.4 k) .inr⟩
      · obtain ⟨rfl, rfl⟩ := pure_ok.1 hr; exact ⟨h.1, h.2, h.3, h.4⟩
    · obtain ⟨rfl, rfl⟩ := pure_ok.1 hr; exact ⟨h.1, h.2, h.3, h.4⟩
  · obtain ⟨rfl, rfl⟩ := pure_ok.1 hr; exact ⟨h.1, h.2, h.3, h.4⟩

theorem extractSharedState_extends (h : Extends s₀ E₀ m s)
    (hr : (extractSharedState manifest m).run s = .ok m' s') : Extends s₀ E₀ m' s' := by
  simp only [extractSharedState, lift_bind_ok] at hr
  obtain ⟨_, -, hr⟩ := hr
  split at hr
  · simp only [lift_bind_ok] at hr
    obtain ⟨_, -, _, -, _, -, hr⟩ := hr
    obtain ⟨rfl, rfl⟩ := pure_ok.1 hr
    exact ⟨h.1, h.2, h.3, h.4⟩
  · obtain ⟨rfl, rfl⟩ := pure_ok.1 hr
    exact h

theorem extractEvents_extends (h : Extends s₀ E₀ m s)
    (hr : (extractEvents manifest m).run s = .ok m' s') : Extends s₀ E₀ m' s' := by
  simp only [extractEvents, lift_bind_ok] at hr
  obtain ⟨_, -, hr⟩ := hr
  split at hr
  · simp only [lift_bind_ok] at hr
    simp only [bind_ok, modify_ok] at hr
    obtain ⟨_, -, _, -, keys, -, _, _, rfl, hr⟩ := hr
    obtain ⟨rfl, rfl⟩ := pure_ok.1 hr
    exact ⟨h.1, h.2, by simp [h.3, foldl_appendAt_const], h.4⟩
  · obtain ⟨rfl, rfl⟩ := pure_ok.1 hr
    exact h

theorem extractConfiguration_extends (h : Extends s₀ E₀ m s)
    (hr : (extractConfiguration manifest m).run s = .ok m' s') : Extends s₀ E₀ m' s' := by
  simp only [extractConfiguration, lift_bind_ok] at hr
  obtain ⟨_, -, hr⟩ := hr
  split at hr
  · simp only [lift_bind_ok] at hr
    obtain ⟨_, -, _, -, hr⟩ := hr
    obtain ⟨rfl, rfl⟩ := pure_ok.1 hr
    exact ⟨h.1, h.2, h.3, h.4⟩
  · obtain ⟨rfl, rfl⟩ := pure_ok.1 hr
    exact h

theorem extractModule_extends {path : String} (h : s.all_events = groupBy E₀)
    (hr : (extractModule manifest path).run s = .ok m' s') : Extends s E₀ m' s' := by
  have h₀ : ∀ m₀ : ModuleInfo, m₀.apis = [] → m₀.events = [] → Extends s E₀ m₀ s :=
    fun m₀ ha he => ⟨rfl, by simp [ha], by simpa [he] using h, fun k hk => .inl hk⟩
  simp only [extractModule, lift_bind_ok] at hr
  simp only [bind_ok] at hr
  obtain ⟨_, -, _, -, _, -, _, -, _, -, _, -, _, -, _, -,
    _, _, h₁, _, _, h₂, _, _, h₃, _, _, h₄, h₅⟩ := hr
  exact extractConfiguration_extends (extractEvents_extends (extractSharedState_extends
    (extractUi_extends (extractApis_extends (h₀ _ rfl rfl) h₁) h₂) h₃) h₄) h₅

end Sections

theorem parseModuleManifest_ok {sch : Schema} {f : ManifestFile} {s s' : ManifestProcessor}
    {r : Option ModuleInfo} (hr : (parseModuleManifest sch f).run s = .ok r s') :
    (r = none ∧ s' = s) ∨
      ∃ manifest m, r = some m ∧ (extractModule manifest f.path).run s = .ok m s' := by
  unfold parseModuleManifest at hr
  split at hr
  · split at hr
    · exact .inl ⟨(pure_ok.1 hr).1.symm, (pure_ok.1 hr).2⟩
    · simp only [bind_ok, pure_ok] at hr
      obtain ⟨_, _, ⟨-, rfl⟩, m, _, hm, rfl, rfl⟩ := hr
      exact .inr ⟨_, m, rfl, hm⟩
  · simp at hr

/-- The tables say what the accepted modules say: `all_events` groups their events, `all_apis`
joins their `apis`, and each UI schema key is one of their names. -/
structure TablesAgree (s : ManifestProcessor) : Prop where
  all_events : s.all_events = groupBy (s.modules.flatMap fun m => m.events.map (·, m.name))
  all_apis : s.all_apis = s.modules.flatMap (·.apis)
  all_ui_schemas : ∀ k ∈ s.all_ui_schemas.keys, ∃ m ∈ s.modules, m.name = k

def FailsCleanly (sch : Schema) (f : ManifestFile) : Prop :=
  ∀ s e s', (parseModuleManifest sch f).run s = .error e s' → s' = s

theorem tablesAgree_init : TablesAgree ManifestProcessor.init :=
  ⟨rfl, rfl, by simp [ManifestProcessor.init, Dict.empty, Dict.keys]⟩

theorem TablesAgree.module_step {sch : Schema} {s : ManifestProcessor} {f : ManifestFile}
    (h : TablesAgree s) (hf : FailsCleanly sch f) : TablesAgree (parseModuleStep sch s f) := by
  unfold parseModuleStep
  split
  · rename_i m s' hr
    obtain ⟨⟨⟩, -⟩ | ⟨_, m', ⟨⟩, hm⟩ := parseModuleManifest_ok hr
    have he := extractModule_extends h.1 hm
    refine ⟨?_, ?_, fun k hk => ?_⟩
    · simp [he.3, he.1]
    · simp [he.2, he.1, h.2]
    · rcases he.4 k hk with hk | rfl
      · obtain ⟨m, hm, rfl⟩ := h.3 k hk
        exact ⟨m, by simp [he.1, hm], rfl⟩
      · exact ⟨_, by simp, rfl⟩
  · rename_i s' hr
    obtain ⟨-, rfl⟩ | ⟨_, _, ⟨⟩, _⟩ := parseModuleManifest_ok hr
    exact h
  · rename_i s' hr
    rw [hf _ _ _ hr]
    exact h

theorem TablesAgree.driver_step {sch : Schema} {s : ManifestProcessor} {f : ManifestFile}
    (h : TablesAgree s) : TablesAgree (parseDriverStep sch s f) := by
  unfold parseDriverStep
  split
  · split
    · exact ⟨h.1, h.2, h.3⟩
    · exact h
  · exact h

/-- If every file that raises does so before writing anything, `parse_manifests` leaves
tables that agree with the accepted modules. -/
theorem parseManifests_tables_agree (ms ds : Schema) (files drivers : List ManifestFile)
    (hf : ∀ f ∈ files, FailsCleanly ms f) :
    TablesAgree (parseManifests ms ds ManifestProcessor.init files drivers) := by
  have hm : ∀ s, TablesAgree s → TablesAgree (files.foldl (parseModuleStep ms) s) := by
    induction files with
    | nil => exact fun _ h => h
    | cons f files ih =>
      exact fun s h => ih (fun g hg => hf g (.tail _ hg)) _
        (h.module_step (hf f (.head _)))
  have hd : ∀ s, TablesAgree s → TablesAgree (drivers.foldl (parseDriverStep ds) s) := by
    induction drivers with
    | nil => exact fun _ h => h
    | cons f drivers ih => exact fun s h => ih _ h.driver_step
  exact hd _ (hm _ tablesAgree_init)

def sensorsFile : ManifestFile :=
  ⟨"components/sensors/module_manifest.json", some (.obj [("module", .obj [("name", .str "Sensors")]),
    ("event_bus", .obj [("publishes", .obj [("sensor.updated", .obj [])])])])⟩

def brokenFile : ManifestFile := ⟨"components/broken/module_manifest.json", none⟩

theorem parseManifests_tables_agree_sensors :
    (∀ f ∈ [sensorsFile, brokenFile], FailsCleanly none f) ∧
    TablesAgree (parseManifests none none ManifestProcessor.init [sensorsFile, brokenFile] []) := by
  have h₁ : FailsCleanly none sensorsFile := fun _ _ _ h => nomatch h
  have h₂ : FailsCleanly none brokenFile := fun _ _ _ h => by cases h; rfl
  have hc : ∀ f ∈ [sensorsFile, brokenFile], FailsCleanly none f := by
    intro f hf
    rcases List.mem_pair.1 hf with rfl | rfl
    exacts [h₁, h₂]
  exact ⟨hc, parseManifests_tables_agree none none _ [] hc⟩

def fanFile : ManifestFile :=
  ⟨"components/fan/module_manifest.json", some (.obj [("module", .obj [("name", .str "Fan")]),
    ("event_bus", .obj [("publishes", .obj [("fan.started", .obj [])])]),
    ("configuration", .arr [])])⟩

theorem parseManifests_keeps_skipped_events :
    (parseManifests none none ManifestProcessor.init [fanFile] []).modules = [] ∧
    (parseManifests none none ManifestProcessor.init [fanFile] []).all_events.entries =
      [("fan.started", [.str "Fan"])] := by
  decide

end ManifestParsing
