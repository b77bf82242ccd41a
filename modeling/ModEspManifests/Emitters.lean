import ModEspManifests.ManifestParser
import ModEspManifests.CppLiteral
import ModEspManifests.Validator
import Mathlib.Data.String.Basic

/-! The generators of `tools/process_manifests.py` that read the processor's tables:
`generate_api_registry`, `generate_module_info`, `generate_event_registry` and the two
contract documents. Each builds the list of lines it writes joined by new-lines. Values are
formatted with `str()` and written between quotes as they are, with no escaping. The class
defines the document generators four times over, with the same text each time; Python
keeps the last definition. `_module_to_dict` has the keys `module`, `ui` and `apis` only, so
the state block of the header and both documents, which look for `shared_state` or
`event_bus` in it, find nothing. -/
namespace ManifestGeneration

open PyJson PyDict ManifestParsing CppLiteral

def joinLines (code : List String) : String := "\n".intercalate code

def generatedBy (now : String) : String := "// Generated by process_manifests.py on " ++ now

def constName (upper : String → String) (key : String) : String :=
  ⟨(upper key).data.map fun c => if c = '.' then '_' else c⟩

/-- Python's order on strings, by code point, on the character lists so that a sort evaluates. -/
def keyLE (a b : String) : Prop := ¬ b.data < a.data

instance : DecidableRel keyLE := fun a b => inferInstanceAs (Decidable (¬ b.data < a.data))

theorem keyLE_iff {a b : String} : keyLE a b ↔ a ≤ b := by
  rw [keyLE, String.le_iff_toList_le, ← not_lt]
  rfl

instance : IsTotal String keyLE := ⟨fun a b => (le_total a b).imp keyLE_iff.2 keyLE_iff.2⟩

instance : IsTrans String keyLE :=
  ⟨fun _ _ _ h h' => keyLE_iff.2 (le_trans (keyLE_iff.1 h) (keyLE_iff.1 h'))⟩

instance : IsAntisymm String keyLE :=
  ⟨fun _ _ h h' => le_antisymm (keyLE_iff.1 h) (keyLE_iff.1 h')⟩

def sortKeys (keys : List String) : List String := keys.insertionSort keyLE

/-- `_module_to_dict`: the dict handed to the adaptive-UI generator, which the state block
and the contract documents read back. -/
def moduleToDict (module : ModuleInfo) : Json :=
  .obj [("module", .obj [("name", module.name), ("type", module.type),
      ("version", module.version), ("description", module.description),
      ("priority", module.priority), ("driver_interface", module.driver_interface)]),
    ("ui", module.ui), ("apis", .arr module.apis)]

def publishedSection (manifest : Json) (part : String) : Except PyErr (Option Json) := do
  if ← manifest.contains part then
    let sec ← manifest.getItem part
    if ← sec.contains "publishes" then return some (← sec.getItem "publishes")
    else return none
  else return none

section Generators

variable (py : PyText) (now : String)

def apiLine (api : Json) : Except PyErr String := do
  let method ← api.get "method" (.str "")
  let handler ← api.get "handler" (.str "")
  let access_level ← api.get "access_level" (.str "user")
  let level ← access_level.asStr "upper"
  return "    rpc.register_method(" ++ quoted (py.str method) ++ ", &" ++ py.str handler ++
    ", AccessLevel::" ++ py.upper level ++ ");"

def apiBlock (module : ModuleInfo) : Except PyErr (List String) :=
  if module.apis.isEmpty then pure []
  else do
    let lines ← module.apis.mapM (apiLine py)
    return ("    // APIs from " ++ py.str module.name) :: lines ++ [""]

def apiRegistryHead : List String :=
  ["// AUTO-GENERATED FILE - DO NOT EDIT", generatedBy now, "",
    "#include \"generated_api_registry.h\"", "#include \"json_rpc_interface.h\"", "",
    "namespace ModESP \x7b", "", "void register_generated_apis(JsonRpcInterface& rpc) \x7b"]

def apiRegistryTail : List String := ["\x7d", "", "\x7d // namespace ModESP"]

def generateApiRegistry (s : ManifestProcessor) : Except PyErr (List String) := do
  let blocks ← s.modules.mapM (apiBlock py)
  return apiRegistryHead now ++ blocks.flatten ++ apiRegistryTail

def moduleEntry (module : ModuleInfo) : Except PyErr (List String) := do
  let deps ← module.dependencies.iter
  let deps_str := ", ".intercalate (deps.map fun dep => quoted (py.str dep))
  let config_str :=
    if module.config_file.truthy then quoted (py.str module.config_file) else "nullptr"
  return ["    \x7b",
    "        .name = " ++ quoted (py.str module.name) ++ ",",
    "        .type = ModuleType::" ++ py.str module.type ++ ",",
    "        .version = " ++ quoted (py.str module.version) ++ ",",
    "        .description = " ++ quoted (py.str module.description) ++ ",",
    "        .priority = Priority::" ++ py.str module.priority ++ ",",
    "        .dependencies = \x7b" ++ deps_str ++ "\x7d,",
    "        .config_file = " ++ config_str ++ ",",
    "    \x7d,"]

def moduleInfoHead : List String :=
  ["// AUTO-GENERATED FILE - DO NOT EDIT", generatedBy now, "",
    "#include \"generated_module_info.h\"", "", "namespace ModESP \x7b", "",
    "const ModuleInfo generated_modules[] = \x7b"]

def moduleInfoTail (count : Nat) : List String :=
  ["\x7d;", "", "const size_t generated_module_count = " ++ toString count ++ ";", "",
    "\x7d // namespace ModESP"]

def generateModuleInfo (s : ManifestProcessor) : Except PyErr (List String) := do
  let entries ← s.modules.mapM (moduleEntry py)
  return moduleInfoHead now ++ entries.flatten ++ moduleInfoTail s.modules.length

def addPrefix (groups : Dict String (List Json)) (event : Json) :
    Except PyErr (Dict String (List Json)) := do
  if ← event.contains "." then
    let name ← event.asStr "split"
    return groups.appendAt ((name.splitOn ".").headD "") event
  else return groups

/-- The `events_by_module` loop over the publisher names in `all_events`; nothing reads its result. -/
def prefixGroups (all_events : Dict String (List Json)) :
    Except PyErr (Dict String (List Json)) :=
  all_events.entries.foldlM (fun groups entry => entry.2.foldlM addPrefix groups) .empty

/-- `all_states`, read from each module's `_module_to_dict` image. -/
def collectStates (modules : List ModuleInfo) : Except PyErr (Dict String Json) :=
  modules.foldlM (fun all_states module => do
    match ← publishedSection (moduleToDict module) "shared_state" with
    | some publishes => return (← publishes.items).foldl (fun d kv => d.setAt kv.1 kv.2) all_states
    | none => return all_states) .empty

def constLine (key : String) : String :=
  "    constexpr const char* " ++ constName py.upper key ++ " = " ++ quoted key ++ ";"

def eventRegistryHead : List String :=
  ["// AUTO-GENERATED FILE - DO NOT EDIT", generatedBy now,
    "// For detailed documentation see: components/system_contract/", "", "#pragma once", "",
    "namespace ModESP \x7b", "", "namespace Events \x7b",
    "    // Event name constants for compile-time checking"]

def statesHead : List String :=
  ["\x7d // namespace Events", "", "namespace States \x7b", "    // SharedState key constants"]

def eventRegistryTail : List String := ["\x7d // namespace States", "", "\x7d // namespace ModESP"]

def generateEventRegistry (s : ManifestProcessor) : Except PyErr (List String) := do
  let _ ← prefixGroups s.all_events
  let all_states ← collectStates s.modules
  return eventRegistryHead now ++ (sortKeys s.all_events.keys).map (constLine py) ++
    statesHead ++ (sortKeys all_states.keys).map (constLine py) ++ eventRegistryTail

def sortedByName (items : List (Json × Json)) : Except PyErr (List (String × Json)) := do
  let named ← items.mapM fun kv => match kv.1 with
    | .str n => pure (n, kv.2)
    | _ => throw .typeError
  return named.insertionSort fun a b => keyLE a.1 b.1

def sortedItems (d : Json) : Except PyErr (List (String × Json)) := do
  return (← d.items).insertionSort fun a b => keyLE a.1 b.1

def publishedByModule (part : String) (modules : List ModuleInfo) :
    Except PyErr (Dict Json Json) :=
  modules.foldlM (fun by_module module => do
    match ← publishedSection (moduleToDict module) part with
    | some publishes => do
      module.name.hash
      return by_module.setAt module.name publishes
    | none => return by_module) .empty

def eventDoc (event_name : String) (event_info : Json) : Except PyErr (List String) := do
  let const_name := constName py.upper event_name
  let description ← if ← event_info.contains "description" then
      pure ["**Description**: " ++ py.str (← event_info.getItem "description"), ""]
    else pure []
  let payload ← if ← event_info.contains "payload" then do
      let fields ← (← event_info.getItem "payload").items
      let lines ← fields.mapM fun field => do
        let field_type ← field.2.get "type" (.str "unknown")
        let field_desc ← field.2.get "description" (.str "")
        pure ("- `" ++ field.1 ++ "` (" ++ py.str field_type ++ "): " ++ py.str field_desc)
      pure ("**Payload**:" :: lines ++ [""])
    else pure []
  let usage ← if ← event_info.contains "payload" then do
      let fields ← (← event_info.getItem "payload").keys
      pure ((fields.take 2).map fun field => "    \x7b\"" ++ field ++ "\", value\x7d,")
    else pure []
  return ["### `" ++ event_name ++ "`", "**Constant**: `Events::" ++ const_name ++ "`", ""] ++
    description ++ payload ++
    ["**Example**:", "```cpp", "EventBus::publish(Events::" ++ const_name ++ ", \x7b"] ++
    usage ++ ["\x7d);", "```", ""]

def stateDoc (state_key : String) (state_info : Json) : Except PyErr (List String) := do
  let const_name := constName py.upper state_key
  let type ← state_info.get "type" (.str "unknown")
  let description ← if ← state_info.contains "description" then
      pure ["**Description**: " ++ py.str (← state_info.getItem "description")]
    else pure []
  let rate ← if ← state_info.contains "update_rate_ms" then
      pure ["**Update Rate**: " ++ py.str (← state_info.getItem "update_rate_ms") ++ "ms"]
    else pure []
  let state_type ← state_info.get "type" (.str "auto")
  let usage :=
    if state_type = .str "float" ∨ state_type = .str "number" then
      "float value = SharedState::get<float>(States::" ++ const_name ++ ");"
    else if state_type = .str "boolean" then
      "bool value = SharedState::get<bool>(States::" ++ const_name ++ ");"
    else "auto value = SharedState::get(States::" ++ const_name ++ ");"
  return ["### `" ++ state_key ++ "`", "**Constant**: `States::" ++ const_name ++ "`", "",
    "**Type**: `" ++ py.str type ++ "`"] ++ description ++ rate ++
    ["", "**Example**:", "```cpp", usage, "```", ""]

def moduleSection (doc : String → Json → Except PyErr (List String))
    (entry : String × Json) : Except PyErr (List String) := do
  let docs ← (← sortedItems entry.2).mapM fun kv => doc kv.1 kv.2
  return ["## " ++ entry.1, ""] ++ docs.flatten

def eventsDocHead : List String :=
  ["# System Events Documentation", "",
    "Complete reference of all events in the ModESP system.", ""]

def statesDocHead : List String :=
  ["# SharedState Keys Documentation", "",
    "Complete reference of all SharedState keys in the ModESP system.", ""]

def generateContractReadme (s : ManifestProcessor) : List String :=
  ["# System Contract Documentation", "",
    "This directory contains the complete contract documentation for inter-module communication in ModESP.",
    "", "## 📚 Contents", "",
    "- **[events.md](events.md)** - All system events with payload structures",
    "- **[states.md](states.md)** - All SharedState keys with types and update rates",
    "- **[examples/](examples/)** - Usage examples for common scenarios", "",
    "## 🎯 Quick Reference", "", "### Using Events", "```cpp",
    "#include \"generated_system_contract.h\"", "", "// Subscribe to sensor updates",
    "EventBus::subscribe(Events::SENSOR_READING_UPDATED, handler);", "", "// Publish error",
    "EventBus::publish(Events::SENSOR_ERROR, \x7b\x7b\"message\", \"Timeout\"\x7d\x7d);", "```", "",
    "### Using SharedState", "```cpp", "// Read temperature",
    "float temp = SharedState::get<float>(States::TEMP_EVAPORATOR);", "", "// Update state",
    "SharedState::set(States::CLIMATE_MODE, \"cooling\");", "```", "",
    "Generated on: " ++ now, "Total events: " ++ toString s.all_events.entries.length,
    "Total modules: " ++ toString s.modules.length]

def generateEventsDoc (s : ManifestProcessor) : Except PyErr (List String) := do
  let events_by_module ← publishedByModule "event_bus" s.modules
  let sections ← (← sortedByName events_by_module.entries).mapM (moduleSection (eventDoc py))
  return eventsDocHead ++ sections.flatten

def generateStatesDoc (s : ManifestProcessor) : Except PyErr (List String) := do
  let states_by_module ← publishedByModule "shared_state" s.modules
  let sections ← (← sortedByName states_by_module.entries).mapM (moduleSection (stateDoc py))
  return statesDocHead ++ sections.flatten

end Generators

theorem publishedSection_moduleToDict (module : ModuleInfo) {part : String}
    (h : part ∉ ["module", "ui", "apis"]) : publishedSection (moduleToDict module) part = .ok none := by
  have : (moduleToDict module).contains part = .ok false := by
    simpa [moduleToDict] using h
  rw [publishedSection, this]
  rfl

theorem collectStates_eq (modules : List ModuleInfo) : collectStates modules = .ok .empty :=
  foldlM_ok (fun _ m => by
    rw [publishedSection_moduleToDict m (by decide)]; rfl) modules _

theorem publishedByModule_eq {part : String} (h : part ∉ ["module", "ui", "apis"])
    (modules : List ModuleInfo) : publishedByModule part modules = .ok .empty :=
  foldlM_ok (fun _ m => by
    rw [publishedSection_moduleToDict m h]; rfl) modules _

def prefixOk : Json → Prop
  | .str _ => True
  | .arr xs => .str "." ∉ xs
  | .obj kvs => "." ∉ kvs.map Prod.fst
  | _ => False

theorem addPrefix_ok (groups : Dict String (List Json)) (event : Json) :
    (∃ g, addPrefix groups event = .ok g) ↔ prefixOk event := by
  cases event with
  | str s =>
    simp only [addPrefix, Json.contains, Json.asStr, bind, Except.bind, pure, Except.pure, prefixOk,
      iff_true]
    split <;> exact ⟨_, rfl⟩
  | arr xs =>
    by_cases h : Json.str "." ∈ xs <;>
      simp [addPrefix, Json.contains, Json.asStr, bind, Except.bind, pure, Except.pure, prefixOk, h]
  | obj kvs =>
    by_cases h : "." ∈ kvs.map Prod.fst <;>
      simp [addPrefix, Json.contains, Json.asStr, bind, Except.bind, pure, Except.pure, prefixOk,
        -List.mem_map, h]
  | _ => simp [addPrefix, Json.contains, bind, Except.bind, prefixOk]

theorem prefixGroups_ok_iff (d : Dict String (List Json)) :
    (∃ g, prefixGroups d = .ok g) ↔ ∀ e ∈ d.entries, ∀ n ∈ e.2, prefixOk n := by
  unfold prefixGroups
  exact foldlM_ok_iff (fun b e => foldlM_ok_iff addPrefix_ok e.2 b) d.entries .empty

section Generators

variable (py : PyText) (now : String) (s : ManifestProcessor)

theorem generateEventRegistry_eq :
    generateEventRegistry py now s = (prefixGroups s.all_events).map fun _ =>
      eventRegistryHead now ++ (sortKeys s.all_events.keys).map (constLine py) ++ statesHead ++
        eventRegistryTail := by
  unfold generateEventRegistry
  rw [collectStates_eq]
  cases prefixGroups s.all_events
  · rfl
  · simp [Except.map, bind, Except.bind, pure, Except.pure, sortKeys, Dict.empty, Dict.keys]

theorem generateEventsDoc_eq : generateEventsDoc py s = .ok eventsDocHead := by
  unfold generateEventsDoc
  rw [publishedByModule_eq (by decide)]
  rfl

theorem generateStatesDoc_eq : generateStatesDoc py s = .ok statesDocHead := by
  unfold generateStatesDoc
  rw [publishedByModule_eq (by decide)]
  rfl

/-- For every processor, `events.md` and `states.md` hold only their fixed heading: no module,
event or state key is ever documented. -/
theorem contract_docs_document_nothing :
    generateEventsDoc py s = .ok eventsDocHead ∧ generateStatesDoc py s = .ok statesDocHead :=
  ⟨generateEventsDoc_eq py s, generateStatesDoc_eq py s⟩

theorem sortKeys_perm (keys : List String) : (sortKeys keys).Perm keys :=
  List.perm_insertionSort _ _

theorem sortKeys_eq_of_perm {keys keys' : List String} (h : keys.Perm keys') :
    sortKeys keys = sortKeys keys' :=
  List.eq_of_perm_of_sorted ((sortKeys_perm _).trans (h.trans (sortKeys_perm _).symm))
    (List.sorted_insertionSort _ _) (List.sorted_insertionSort _ _)

theorem sortKeys_sorted {keys : List String} (h : keys.Nodup) : (sortKeys keys).Sorted (· < ·) :=
  List.Sorted.lt_of_le ((List.sorted_insertionSort keyLE keys).imp keyLE_iff.1)
    ((sortKeys_perm keys).nodup_iff.2 h)

theorem constNames_nodup_iff (upper : String → String) {keys : List String} (h : keys.Nodup) :
    ((sortKeys keys).map (constName upper)).Nodup ↔
      ∀ a ∈ keys, ∀ b ∈ keys, constName upper a = constName upper b → a = b :=
  ((sortKeys_perm keys).map _).nodup_iff.trans (List.nodup_map_iff_inj_on h)

theorem generateEventRegistry_ok {lines : List String}
    (h : generateEventRegistry py now s = .ok lines) :
    lines = eventRegistryHead now ++ (sortKeys s.all_events.keys).map (constLine py) ++
      statesHead ++ eventRegistryTail := by
  rw [generateEventRegistry_eq] at h
  cases hp : prefixGroups s.all_events with
  | error e => rw [hp] at h; cases h
  | ok g => rw [hp] at h; cases h; rfl

/-- The `Events` namespace of a generated header declares each key of `all_events` once, in
ascending order, whatever the `States` namespace after it holds: two of its constants have
the same name exactly when two keys collide under `upper().replace('.', '_')`. -/
theorem generateEventRegistry_identifiers {lines : List String}
    (h : generateEventRegistry py now s = .ok lines) :
    ∃ keys states : List String,
      lines = eventRegistryHead now ++ keys.map (constLine py) ++ statesHead ++ states ∧
      keys.Perm s.all_events.keys ∧ keys.Sorted (· < ·) ∧
      ((keys.map (constName py.upper)).Nodup ↔
        ∀ a ∈ s.all_events.keys, ∀ b ∈ s.all_events.keys,
          constName py.upper a = constName py.upper b → a = b) :=
  ⟨_, _, generateEventRegistry_ok py now s h, sortKeys_perm _,
    sortKeys_sorted s.all_events.nodup, constNames_nodup_iff _ s.all_events.nodup⟩

/-- When `all_events` groups the modules' events, the header declares, in ascending order,
exactly the event keys the modules publish. -/
theorem generateEventRegistry_published
    (ha : s.all_events = groupBy (s.modules.flatMap fun m => m.events.map (·, m.name)))
    {lines : List String}
    (h : generateEventRegistry py now s = .ok lines) :
    ∃ keys : List String, lines = eventRegistryHead now ++ keys.map (constLine py) ++ statesHead ++
        eventRegistryTail ∧
      keys.Sorted (· < ·) ∧ ∀ k, k ∈ keys ↔ ∃ m ∈ s.modules, k ∈ m.events := by
  refine ⟨_, generateEventRegistry_ok py now s h, sortKeys_sorted s.all_events.nodup, fun k => ?_⟩
  rw [(sortKeys_perm _).mem_iff, ha, keys_groupBy, mem_keysOf]
  simp only [List.mem_map, List.mem_flatMap, Prod.exists]
  constructor
  · rintro ⟨_, _, ⟨m, hm, e, he, ⟨⟩⟩, rfl⟩
    exact ⟨m, hm, he⟩
  · rintro ⟨m, hm, he⟩
    exact ⟨k, m.name, ⟨m, hm, k, he, rfl⟩, rfl⟩

def apiRenders : Json → Bool
  | .obj kvs => ((kvs.lookup "access_level").getD (.str "user")).isStr
  | _ => false

theorem apiLine_returns (api : Json) : (∃ l, apiLine py api = .ok l) ↔ apiRenders api := by
  cases api with
  | obj kvs =>
    simp only [apiLine, Json.get_obj, bind_returns_iff, pure, Except.pure, Except.ok.injEq,
      exists_eq_left', exists_eq', and_true, Json.asStr_returns, apiRenders]
  | _ => simp [apiLine, Json.get, bind, Except.bind, apiRenders]

theorem apiBlock_returns (m : ModuleInfo) :
    (∃ ls, apiBlock py m = .ok ls) ↔ ∀ api ∈ m.apis, apiRenders api := by
  unfold apiBlock
  split
  · rename_i h
    exact iff_of_true ⟨[], rfl⟩ (by simp [List.isEmpty_iff.1 h])
  · rw [bind_pure_returns, mapM_returns_iff]
    simp only [apiLine_returns]

/-- The API registry is written exactly when every API entry of every accepted module is a
dict whose access level is a string. -/
theorem generateApiRegistry_returns :
    (∃ lines, generateApiRegistry py now s = .ok lines) ↔
      ∀ m ∈ s.modules, ∀ api ∈ m.apis, apiRenders api := by
  unfold generateApiRegistry
  rw [bind_pure_returns, mapM_returns_iff]
  simp only [apiBlock_returns]

theorem moduleEntry_returns (m : ModuleInfo) :
    (∃ ls, moduleEntry py m = .ok ls) ↔ m.dependencies.iterable := by
  unfold moduleEntry
  simp only [bind_pure_returns, Json.iter_returns]

/-- The module table is written exactly when every accepted module's `dependencies` is
something a `for` loop runs over. -/
theorem generateModuleInfo_returns :
    (∃ lines, generateModuleInfo py now s = .ok lines) ↔
      ∀ m ∈ s.modules, m.dependencies.iterable := by
  unfold generateModuleInfo
  rw [bind_pure_returns, mapM_returns_iff]
  simp only [moduleEntry_returns]

end Generators

def collidingManifest : Json :=
  .obj [("module", .obj [("name", .str "A")]),
    ("event_bus", .obj [("publishes", .obj [("a.b", .obj []), ("a_b", .obj [])])])]

def collidingProcessor : ManifestProcessor :=
  parseManifests none none .init [⟨"components/a/module_manifest.json", some collidingManifest⟩] []

theorem generateEventRegistry_identifiers_colliding :
    ∃ lines, generateEventRegistry PyText.ascii "" collidingProcessor = .ok lines ∧
      ∃ keys states : List String,
        lines = eventRegistryHead "" ++ keys.map (constLine PyText.ascii) ++ statesHead ++ states ∧
        keys.Perm collidingProcessor.all_events.keys ∧ keys.Sorted (· < ·) ∧
        ((keys.map (constName PyText.ascii.upper)).Nodup ↔
          ∀ a ∈ collidingProcessor.all_events.keys, ∀ b ∈ collidingProcessor.all_events.keys,
            constName PyText.ascii.upper a = constName PyText.ascii.upper b → a = b) :=
  ⟨_, rfl, generateEventRegistry_identifiers PyText.ascii "" collidingProcessor rfl⟩

theorem generateEventRegistry_published_colliding :
    collidingProcessor.all_events =
        groupBy (collidingProcessor.modules.flatMap fun m => m.events.map (·, m.name)) ∧
      ∃ lines, generateEventRegistry PyText.ascii "" collidingProcessor = .ok lines ∧
        ∃ keys : List String, lines = eventRegistryHead "" ++ keys.map (constLine PyText.ascii) ++
            statesHead ++ eventRegistryTail ∧
          keys.Sorted (· < ·) ∧ ∀ k, k ∈ keys ↔ ∃ m ∈ collidingProcessor.modules, k ∈ m.events :=
  have ha : collidingProcessor.all_events =
      groupBy (collidingProcessor.modules.flatMap fun m => m.events.map (·, m.name)) := rfl
  ⟨ha, _, rfl, generateEventRegistry_published PyText.ascii "" collidingProcessor ha rfl⟩

/-- The validator passes a publisher of the events `a.b` and `a_b` and of the state keys
`Temp.x` and `temp.x`, read by another module, and the header declares `A_B` twice. -/
theorem validateAll_passes_colliding_keys :
    (ManifestValidation.validateAll .new
        [⟨⟨"A", none⟩, some ⟨some ["a.b", "a_b"], none⟩, some ⟨some ["Temp.x", "temp.x"], none⟩,
            none⟩,
          ⟨⟨"B", none⟩, some ⟨none, some ["a.b", "a_b"]⟩, some ⟨none, some ["Temp.x", "temp.x"]⟩,
            none⟩]).1 = (true, []) ∧
      generateEventRegistry PyText.ascii "" collidingProcessor =
        .ok (eventRegistryHead "" ++ [constLine PyText.ascii "a.b", constLine PyText.ascii "a_b"] ++
          statesHead ++ eventRegistryTail) ∧
      constName PyText.ascii.upper "a.b" = "A_B" ∧ constName PyText.ascii.upper "a_b" = "A_B" ∧
      constName PyText.ascii.upper "Temp.x" = constName PyText.ascii.upper "temp.x" := by
  decide

theorem constLine_data (py : PyText) (key : String) :
    (constLine py key).data =
      ("    constexpr const char* " ++ constName py.upper key ++ " = ").data ++ (quoted key).data ++
        [';'] := rfl

/-- A key holding a quote: the literal of its constant ends inside the key, and the rest of
the key is left as C++ code. -/
theorem constLine_quote_in_key :
    (constLine PyText.ascii "a\"b").data =
        "    constexpr const char* A\"B = ".data ++ (quoted "a\"b").data ++ [';'] ∧
      readLiteral ((quoted "a\"b").data ++ [';']) = some ("a", "b\";".data) :=
  ⟨constLine_data _ _, by simp [quoted, readLiteral, readBody]⟩

def statePublisherManifest : Json :=
  .obj [("module", .obj [("name", .str "Sensors")]),
    ("event_bus", .obj [("publishes", .obj [("sensor.updated", .obj [])])]),
    ("shared_state", .obj [("publishes", .obj [("temp.x", .obj [])])])]

def statePublisher : ManifestProcessor :=
  parseManifests none none .init
    [⟨"components/sensors/module_manifest.json", some statePublisherManifest⟩] []

/-- The parsed module keeps its state key, yet the header declares no state constant and
neither document mentions the module. -/
theorem generateEventRegistry_drops_state_keys :
    statePublisher.modules.map (·.shared_state_keys) = [["temp.x"]] ∧
      generateEventRegistry PyText.ascii "" statePublisher =
        .ok (eventRegistryHead "" ++ [constLine PyText.ascii "sensor.updated"] ++ statesHead ++
          eventRegistryTail) ∧
      generateEventsDoc PyText.ascii statePublisher = .ok eventsDocHead ∧
      generateStatesDoc PyText.ascii statePublisher = .ok statesDocHead :=
  ⟨by decide, by decide, generateEventsDoc_eq _ _, generateStatesDoc_eq _ _⟩

end ManifestGeneration
