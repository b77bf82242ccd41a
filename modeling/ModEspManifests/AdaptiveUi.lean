import ModEspManifests.Emitters
import ModEspManifests.ManifestShape

/-! `tools/adaptive_ui_generator.py`. `_collect_components` takes the UI components of each
`MANAGER` module and of each driver record, tags each with its owner's name in `source`,
and the registry header and the factory source then have one entry per component, in the
order collected. The driver records are those `parse_driver_manifest` returns: the
`driver` section of the manifest with `manifest_path` and `apis` added. -/
namespace AdaptiveUi

open PyJson PyDict CppLiteral ManifestParsing

def textOf (lines : List String) : String := String.join (lines.map (· ++ "\n"))

def moduleComponents (module : Json) : Except PyErr (List Json) := do
  let type ← (← module.get "module" (.obj [])).get "type" .null
  if type = .str "MANAGER" then
    let ui_adaptive ← (← module.get "ui" (.obj [])).get "adaptive" (.obj [])
    let components ← ui_adaptive.get "components" (.arr [])
    (← components.iter).mapM fun comp => do
      comp.setItem "source" (← (← module.getItem "module").getItem "name")
  else pure []

def driverComponents (driver : Json) : Except PyErr (List Json) := do
  let ui_ext ← driver.get "ui_extensions" (.obj [])
  let components ← ui_ext.get "components" (.arr [])
  (← components.iter).mapM fun comp => do
    comp.setItem "source" (← (← driver.getItem "driver").getItem "name")

def collectComponents (modules drivers : List Json) : Except PyErr (List Json) := do
  let from_modules ← modules.mapM moduleComponents
  let from_drivers ← drivers.mapM driverComponents
  return from_modules.flatten ++ from_drivers.flatten

section Generators

variable (py : PyText)

def registryHead : String :=
  textOf ["// generated_ui_components.h", "// AUTO-GENERATED - DO NOT EDIT", "#pragma once", "",
    "#include \"ui_component_base.h\"", "#include <array>", "", "namespace ModESP::UI \x7b", "",
    "// Component metadata", "struct ComponentInfo \x7b", "    const char* id;",
    "    ComponentType type;", "    const char* condition;", "    AccessLevel min_access;",
    "    Priority priority;", "    bool lazy_loadable;", "    const char* source;", "\x7d;", "",
    "// All possible components", "constexpr ComponentInfo ALL_COMPONENTS[] = \x7b"]

def registryEntry (comp : Json) : Except PyErr String := do
  let id ← comp.getItem "id"
  let type ← (← comp.getItem "type").asStr "upper"
  let condition ← comp.get "condition" (.str "always")
  let access_level ← (← comp.get "access_level" (.str "user")).asStr "upper"
  let priority ← (← comp.get "priority" (.str "medium")).asStr "upper"
  let lazy_load ← comp.get "lazy_load" (.bool true)
  let source ← comp.getItem "source"
  return textOf ["    \x7b",
    "        " ++ quoted (py.str id) ++ ",",
    "        ComponentType::" ++ py.upper type ++ ",",
    "        " ++ quoted (py.str condition) ++ ",",
    "        AccessLevel::" ++ py.upper access_level ++ ",",
    "        Priority::" ++ py.upper priority ++ ",",
    "        " ++ py.lower (py.str lazy_load) ++ ",",
    "        " ++ quoted (py.str source),
    "    \x7d,"]

def registryTail (count : Nat) : String :=
  textOf ["", "\x7d;", "", "constexpr size_t COMPONENT_COUNT = " ++ toString count ++ ";", "",
    "\x7d // namespace ModESP::UI"]

def generateComponentRegistry (all_components : List Json) : Except PyErr String := do
  let entries ← all_components.mapM (registryEntry py)
  return registryHead ++ String.join entries ++ registryTail all_components.length

def componentClasses : List (String × String) :=
  [("text", "TextComponent"), ("slider", "SliderComponent"), ("dropdown", "DropdownComponent"),
    ("button", "ButtonComponent"), ("toggle", "ToggleComponent"), ("chart", "ChartComponent")]

def getComponentClass (comp : Json) : Except PyErr String := do
  let type ← comp.getItem "type"
  type.hash
  return match type with
    | .str t => (componentClasses.lookup t).getD "TextComponent"
    | _ => "TextComponent"

def factoryEntry (comp : Json) : Except PyErr String := do
  let id ← comp.getItem "id"
  let source ← comp.getItem "source"
  let component_class ← getComponentClass comp
  let label ← comp.get "label" id
  return textOf ["",
    "    // " ++ py.str id ++ " from " ++ py.str source,
    "    loader.registerComponentFactory(" ++ quoted (py.str id) ++ ", []() \x7b",
    "        return std::make_unique<" ++ component_class ++ ">(",
    "            " ++ quoted (py.str id) ++ ", ",
    "            " ++ quoted (py.str label),
    "        );",
    "    \x7d);"]

def factoriesHead : String :=
  textOf ["// generated_component_factories.cpp", "// AUTO-GENERATED - DO NOT EDIT", "",
    "#include \"lazy_component_loader.h\"", "#include \"ui_component_base.h\"", "",
    "namespace ModESP::UI \x7b", "",
    "void registerAllComponentFactories(LazyComponentLoader& loader) \x7b"]

def factoriesTail : String := textOf ["", "\x7d", "", "\x7d // namespace ModESP::UI"]

def generateFactoryFunctions (all_components : List Json) : Except PyErr String := do
  let entries ← all_components.mapM (factoryEntry py)
  return factoriesHead ++ String.join entries ++ factoriesTail

/-- The registry header and the factory source; `generate_all_components` renders both, and the
files get the same renderings. -/
def generateAdaptiveUi (modules drivers : List Json) : Except PyErr (String × String) := do
  let all_components ← collectComponents modules drivers
  let registry ← generateComponentRegistry py all_components
  let factories ← generateFactoryFunctions py all_components
  return (registry, factories)

end Generators

/-- The components of a driver record are those its manifest's `driver` section gives by
itself: the manifest's other top-level keys are never read. -/
theorem driverComponents_record {schema : Schema} {path : String}
    {kvs drv : List (String × Json)} {d : Json} (hdrv : kvs.lookup "driver" = some (.obj drv))
    (h : parseDriverManifest schema ⟨path, some (.obj kvs)⟩ = .ok (some d)) :
    driverComponents d = driverComponents (.obj drv) := by
  unfold parseDriverManifest at h
  by_cases hs : schemaRejects schema (.obj kvs)
  · simp [hs, pure, Except.pure] at h
  · simp only [hs, Bool.false_eq_true, if_false, bind, Except.bind, pure, Except.pure,
      Json.get_obj, hdrv, Option.getD_some, Json.setItem] at h
    split at h
    · cases h
    · cases h
      simp [driverComponents, Json.getItem, lookup_setEntry_ne]

theorem driverComponents_without_ui_extensions {drv : List (String × Json)}
    (h : drv.lookup "ui_extensions" = none) : driverComponents (.obj drv) = .ok [] := by
  simp [driverComponents, h]
  rfl

def relayFile (nested : Bool) : ManifestFile :=
  let ui_extensions := ("ui_extensions",
    Json.obj [("components", .arr [.obj [("id", .str "relay_state"), ("type", .str "toggle")]])])
  if nested then
    ⟨"components/relay/relay_driver_manifest.json",
      some (.obj [("driver", .obj [("name", .str "relay"), ui_extensions])])⟩
  else
    ⟨"components/relay/relay_driver_manifest.json",
      some (.obj [("driver", .obj [("name", .str "relay")]), ui_extensions])⟩

/-- The driver is accepted, yet its component is never registered: at the top level it is
dropped with the rest of the manifest, and inside `driver` the lookup of
`driver['driver']` raises. -/
theorem generateAdaptiveUi_drops_driver_components :
    (parseManifests none none .init [] [relayFile false]).drivers.length = 1 ∧
      generateAdaptiveUi PyText.ascii [] (parseManifests none none .init [] [relayFile false]).drivers =
        .ok (registryHead ++ registryTail 0, factoriesHead ++ factoriesTail) ∧
      generateAdaptiveUi PyText.ascii [] (parseManifests none none .init [] [relayFile true]).drivers =
        .error (.keyError "driver") := by
  have h₁ : collectComponents [] (parseManifests none none .init [] [relayFile false]).drivers =
      .ok [] := by
    obtain ⟨d, hd, hds⟩ : ∃ d, parseDriverManifest none (relayFile false) = .ok (some d) ∧
        (parseManifests none none .init [] [relayFile false]).drivers = [d] := ⟨_, rfl, rfl⟩
    have hc := (driverComponents_record (by rfl) hd).trans
      (driverComponents_without_ui_extensions (by rfl))
    rw [hds, collectComponents, List.mapM_cons, hc]
    rfl
  have h₂ : collectComponents [] (parseManifests none none .init [] [relayFile true]).drivers =
      .error (.keyError "driver") := by decide
  refine ⟨by decide, ?_, by rw [generateAdaptiveUi, h₂]; rfl⟩
  rw [generateAdaptiveUi, h₁]
  show Except.ok (registryHead ++ "" ++ registryTail 0, factoriesHead ++ "" ++ factoriesTail) = _
  simp only [String.append_empty]

def ownerName (sec : String) (owner : Json) : Option Json :=
  (do (← owner.getItem sec).getItem "name").toOption

def moduleType (module : Json) : Option Json :=
  (do (← module.get "module" (.obj [])).get "type" .null).toOption

theorem mapM_tag_sources {owner : Json} {sec : String} :
    ∀ {xs cs : List Json},
      xs.mapM (fun comp => do comp.setItem "source" (← (← owner.getItem sec).getItem "name")) =
        .ok cs →
      ∀ c ∈ cs, ∃ kvs src, c = .obj kvs ∧ kvs.lookup "source" = some src ∧
        ownerName sec owner = some src := by
  intro xs cs h
  induction mapM_ok_iff.1 h with
  | nil => simp
  | @cons x c xs cs hx _ ih =>
    intro c' hc'
    rcases List.mem_cons.1 hc' with rfl | hc'
    · obtain ⟨o, ho, h⟩ := bind_eq_ok.1 hx
      obtain ⟨n, hn, h⟩ := bind_eq_ok.1 h
      cases x with
      | obj kvs =>
        cases h
        exact ⟨_, n, rfl, lookup_setEntry_self _ _ kvs, by simp [ownerName, ho, hn, bind, Except.bind,
          Except.toOption]⟩
      | _ => cases h
    · exact ih (mapM_ok_iff.2 ‹_›) c' hc'

theorem moduleComponents_sources {module : Json} {cs : List Json}
    (h : moduleComponents module = .ok cs) :
    ∀ c ∈ cs, ∃ kvs src, c = .obj kvs ∧ kvs.lookup "source" = some src ∧
      moduleType module = some (.str "MANAGER") ∧ ownerName "module" module = some src := by
  unfold moduleComponents at h
  obtain ⟨md, hmd, h⟩ := bind_eq_ok.1 h
  obtain ⟨ty, hty, h⟩ := bind_eq_ok.1 h
  split at h
  · rename_i hm
    obtain ⟨_, -, h⟩ := bind_eq_ok.1 h
    obtain ⟨_, -, h⟩ := bind_eq_ok.1 h
    obtain ⟨_, -, h⟩ := bind_eq_ok.1 h
    obtain ⟨_, -, h⟩ := bind_eq_ok.1 h
    intro c hc
    obtain ⟨kvs, src, hc, hs, hn⟩ := mapM_tag_sources h c hc
    refine ⟨kvs, src, hc, hs, ?_, hn⟩
    simp [moduleType, hmd, hty, hm, bind, Except.bind, Except.toOption]
  · cases h
    simp

theorem driverComponents_sources {driver : Json} {cs : List Json}
    (h : driverComponents driver = .ok cs) :
    ∀ c ∈ cs, ∃ kvs src, c = .obj kvs ∧ kvs.lookup "source" = some src ∧
      ownerName "driver" driver = some src := by
  unfold driverComponents at h
  obtain ⟨_, -, h⟩ := bind_eq_ok.1 h
  obtain ⟨_, -, h⟩ := bind_eq_ok.1 h
  obtain ⟨_, -, h⟩ := bind_eq_ok.1 h
  exact mapM_tag_sources h

/-- `_collect_components` returns one block of components per `MANAGER` module and then one
per driver record, in order, and every component of a block is a dict whose `source` is the
name of that block's owner. -/
theorem collectComponents_sources {modules drivers comps : List Json}
    (h : collectComponents modules drivers = .ok comps) :
    ∃ fromModules fromDrivers : List (List Json),
      comps = fromModules.flatten ++ fromDrivers.flatten ∧
      List.Forall₂ (fun m cs => ∀ c ∈ cs, ∃ kvs src, c = .obj kvs ∧
          kvs.lookup "source" = some src ∧ moduleType m = some (.str "MANAGER") ∧
          ownerName "module" m = some src) modules fromModules ∧
      List.Forall₂ (fun d cs => ∀ c ∈ cs, ∃ kvs src, c = .obj kvs ∧
          kvs.lookup "source" = some src ∧ ownerName "driver" d = some src) drivers fromDrivers := by
  obtain ⟨fm, hfm, h⟩ := bind_eq_ok.1 h
  obtain ⟨fd, hfd, h⟩ := bind_eq_ok.1 h
  cases h
  exact ⟨fm, fd, rfl, (mapM_ok_iff.1 hfm).imp fun _ _ => moduleComponents_sources,
    (mapM_ok_iff.1 hfd).imp fun _ _ => driverComponents_sources⟩

def fanManager : Json :=
  .obj [("module", .obj [("name", .str "Fan"), ("type", .str "MANAGER")]),
    ("ui", .obj [("adaptive", .obj [("components", .arr [.obj [("id", .str "fan_speed")]])])])]

theorem collectComponents_sources_fan :
    collectComponents [fanManager] [] =
      .ok [.obj [("id", .str "fan_speed"), ("source", .str "Fan")]] ∧
    ∃ fromModules fromDrivers : List (List Json),
      [Json.obj [("id", .str "fan_speed"), ("source", .str "Fan")]] =
        fromModules.flatten ++ fromDrivers.flatten ∧
      List.Forall₂ (fun m cs => ∀ c ∈ cs, ∃ kvs src, c = .obj kvs ∧
          kvs.lookup "source" = some src ∧ moduleType m = some (.str "MANAGER") ∧
          ownerName "module" m = some src) [fanManager] fromModules ∧
      List.Forall₂ (fun d cs => ∀ c ∈ cs, ∃ kvs src, c = .obj kvs ∧
          kvs.lookup "source" = some src ∧ ownerName "driver" d = some src) [] fromDrivers :=
  have h : collectComponents [fanManager] [] =
      .ok [.obj [("id", .str "fan_speed"), ("source", .str "Fan")]] := by decide
  ⟨h, collectComponents_sources h⟩

def tagsOk (sec : String) (owner components : Json) : Bool :=
  match components.iter with
  | .ok items => items.isEmpty || ((ownerName sec owner).isSome && items.all isDict)
  | .error _ => false

/-- What `_collect_components` reads of a module: a dict with a dict `module` section, and for a
`MANAGER` dicts `ui` and `ui.adaptive` with components it can tag. -/
def moduleCollectable : Json → Bool
  | .obj kvs =>
    match (kvs.lookup "module").getD (.obj []) with
    | .obj md =>
      if (md.lookup "type").getD .null = .str "MANAGER" then
        match (kvs.lookup "ui").getD (.obj []) with
        | .obj ui =>
          match (ui.lookup "adaptive").getD (.obj []) with
          | .obj ad => tagsOk "module" (.obj kvs) ((ad.lookup "components").getD (.arr []))
          | _ => false
        | _ => false
      else true
    | _ => false
  | _ => false

def driverCollectable : Json → Bool
  | .obj kvs =>
    match (kvs.lookup "ui_extensions").getD (.obj []) with
    | .obj ue => tagsOk "driver" (.obj kvs) ((ue.lookup "components").getD (.arr []))
    | _ => false
  | _ => false

theorem setItem_returns (comp : Json) (k : String) (v : Json) :
    (∃ r, comp.setItem k v = .ok r) ↔ isDict comp = true := by
  cases comp <;> simp [Json.setItem, isDict]

theorem ownerName_isSome (sec : String) (owner : Json) :
    (ownerName sec owner).isSome ↔
      ∃ o, owner.getItem sec = .ok o ∧ ∃ n, o.getItem "name" = .ok n := by
  unfold ownerName
  rcases owner.getItem sec with _ | o
  · simp [bind, Except.bind, Except.toOption]
  · simp only [Except.ok.injEq, exists_eq_left']
    show (o.getItem "name").toOption.isSome ↔ _
    rcases o.getItem "name" with _ | n <;> simp [Except.toOption]

theorem tag_returns (sec : String) (owner comp : Json) :
    (∃ r, (do comp.setItem "source" (← (← owner.getItem sec).getItem "name")) = .ok r) ↔
      (ownerName sec owner).isSome ∧ isDict comp = true := by
  simp only [bind_returns_iff, setItem_returns, ownerName_isSome]
  exact ⟨fun ⟨o, ho, n, hn, hc⟩ => ⟨⟨o, ho, n, hn⟩, hc⟩,
    fun ⟨⟨o, ho, n, hn⟩, hc⟩ => ⟨o, ho, n, hn, hc⟩⟩

theorem tags_returns (sec : String) (owner components : Json) :
    (∃ items, components.iter = .ok items ∧ ∃ cs, items.mapM (fun comp => do
        comp.setItem "source" (← (← owner.getItem sec).getItem "name")) = .ok cs) ↔
      tagsOk sec owner components := by
  unfold tagsOk
  rcases components.iter with _ | items
  · simp
  · simp only [Except.ok.injEq, exists_eq_left', mapM_returns_iff, tag_returns]
    cases items with
    | nil => simp
    | cons c cs =>
      simp only [List.mem_cons, forall_eq_or_imp, List.isEmpty_cons, List.all_cons,
        Bool.false_or, Bool.and_eq_true, List.all_eq_true]
      exact ⟨fun ⟨⟨ho, hc⟩, h⟩ => ⟨ho, hc, fun a ha => (h a ha).2⟩,
        fun ⟨ho, hc, h⟩ => ⟨⟨ho, hc⟩, fun a ha => ⟨ho, h a ha⟩⟩⟩

theorem driverComponents_returns (driver : Json) :
    (∃ cs, driverComponents driver = .ok cs) ↔ driverCollectable driver := by
  cases driver with
  | obj kvs =>
    simp only [driverComponents, Json.get_obj, bind_returns_iff, Except.ok.injEq,
      exists_eq_left', driverCollectable]
    cases (kvs.lookup "ui_extensions").getD (.obj []) with
    | obj ue =>
      simp only [Json.get_obj, Except.ok.injEq, exists_eq_left']
      exact tags_returns "driver" (.obj kvs) _
    | _ => exact iff_of_false (fun ⟨_, h, _⟩ => by cases h) Bool.false_ne_true
  | _ => exact iff_of_false (fun ⟨_, h⟩ => by cases h) Bool.false_ne_true

theorem moduleComponents_returns (module : Json) :
    (∃ cs, moduleComponents module = .ok cs) ↔ moduleCollectable module := by
  cases module with
  | obj kvs =>
    simp only [moduleComponents, Json.get_obj, bind_returns_iff, Except.ok.injEq,
      exists_eq_left', moduleCollectable]
    cases (kvs.lookup "module").getD (.obj []) with
    | obj md =>
      simp only [Json.get_obj, Except.ok.injEq, exists_eq_left']
      split
      · simp only [bind_returns_iff, Json.get_obj, Except.ok.injEq, exists_eq_left']
        cases (kvs.lookup "ui").getD (.obj []) with
        | obj ui =>
          simp only [Json.get_obj, Except.ok.injEq, exists_eq_left']
          cases (ui.lookup "adaptive").getD (.obj []) with
          | obj ad =>
            simp only [Json.get_obj, Except.ok.injEq, exists_eq_left']
            exact tags_returns "module" (.obj kvs) _
          | _ => exact iff_of_false (fun ⟨_, h, _⟩ => by cases h) Bool.false_ne_true
        | _ => exact iff_of_false (fun ⟨_, h, _⟩ => by cases h) Bool.false_ne_true
      · simp [pure, Except.pure]
    | _ => exact iff_of_false (fun ⟨_, h, _⟩ => by cases h) Bool.false_ne_true
  | _ => exact iff_of_false (fun ⟨_, h⟩ => by cases h) Bool.false_ne_true

/-- `_collect_components` raises nothing exactly when it can read every module and every
driver record down to its components, and tag each component with its owner's name. -/
theorem collectComponents_returns (modules drivers : List Json) :
    (∃ comps, collectComponents modules drivers = .ok comps) ↔
      (∀ m ∈ modules, moduleCollectable m) ∧ ∀ d ∈ drivers, driverCollectable d := by
  unfold collectComponents
  simp only [bind_returns_iff, pure, Except.pure, Except.ok.injEq, exists_eq', and_true,
    exists_and_right]
  simp only [mapM_returns_iff, moduleComponents_returns, driverComponents_returns]

section Rendering

variable (py : PyText)

end Rendering

end AdaptiveUi
