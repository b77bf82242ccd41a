import ModEspManifests.ManifestParser

/-! What a run of `parse_manifests` does, whatever its files hold. The sections of
`parse_module_manifest` write to the processor's tables and never read them: each has an
outcome fixed by the file, and changes the state by one function that only appends to the
tables (`WriteOnly`). So a file is accepted, with the module it gives, or skipped exactly as
it would be on a fresh processor, whatever the files before it wrote; and no file, accepted
or skipped, takes anything out of the tables. -/
namespace ManifestParsing

open PyJson PyDict

/-- The tables of `s'` keep those of `s`: the API list, the key order of both dicts and the
publishers of each event are only appended to; a UI schema can be replaced under its key. -/
structure TablesKept (s s' : ManifestProcessor) : Prop where
  all_apis : s.all_apis <+: s'.all_apis
  ui_schema_keys : s.all_ui_schemas.keys <+: s'.all_ui_schemas.keys
  event_keys : s.all_events.keys <+: s'.all_events.keys
  publishers : ∀ k, (s.all_events.entries.lookup k).getD [] <+:
    (s'.all_events.entries.lookup k).getD []

theorem TablesKept.refl (s : ManifestProcessor) : TablesKept s s :=
  ⟨List.prefix_refl _, List.prefix_refl _, List.prefix_refl _, fun _ => List.prefix_refl _⟩

theorem TablesKept.trans {s₁ s₂ s₃ : ManifestProcessor} (h : TablesKept s₁ s₂)
    (h' : TablesKept s₂ s₃) : TablesKept s₁ s₃ :=
  ⟨h.1.trans h'.1, h.2.trans h'.2, h.3.trans h'.3, fun k => (h.4 k).trans (h'.4 k)⟩

structure TablesGrow (s s' : ManifestProcessor) extends TablesKept s s' : Prop where
  modules : s'.modules = s.modules
  drivers : s'.drivers = s.drivers

theorem TablesGrow.refl (s : ManifestProcessor) : TablesGrow s s := ⟨.refl s, rfl, rfl⟩

theorem TablesGrow.trans {s₁ s₂ s₃ : ManifestProcessor} (h : TablesGrow s₁ s₂)
    (h' : TablesGrow s₂ s₃) : TablesGrow s₁ s₃ :=
  ⟨h.1.trans h'.1, h'.modules.trans h.modules, h'.drivers.trans h.drivers⟩

theorem grow_all_apis (s : ManifestProcessor) (api : Json) :
    TablesGrow s { s with all_apis := s.all_apis ++ [api] } :=
  ⟨⟨List.prefix_append _ _, List.prefix_refl _, List.prefix_refl _, fun _ => List.prefix_refl _⟩,
    rfl, rfl⟩

theorem grow_ui_schemas (s : ManifestProcessor) (k v : Json) :
    TablesGrow s { s with all_ui_schemas := s.all_ui_schemas.setAt k v } :=
  ⟨⟨List.prefix_refl _, Dict.keys_prefix_setAt _ _ _, List.prefix_refl _,
    fun _ => List.prefix_refl _⟩, rfl, rfl⟩

theorem foldl_appendAt_grows (name : Json) :
    ∀ (keys : List String) (d : Dict String (List Json)),
      d.keys <+: (keys.foldl (fun d e => d.appendAt e name) d).keys ∧
      ∀ k, (d.entries.lookup k).getD [] <+:
        ((keys.foldl (fun d e => d.appendAt e name) d).entries.lookup k).getD []
  | [], _ => ⟨List.prefix_refl _, fun _ => List.prefix_refl _⟩
  | e :: keys, d => by
    obtain ⟨hk, hl⟩ := foldl_appendAt_grows name keys (d.appendAt e name)
    exact ⟨(Dict.keys_prefix_appendAt d e name).trans hk,
      fun k => (lookup_appendEntry_grows e k name d.entries).trans (hl k)⟩

theorem grow_events (s : ManifestProcessor) (keys : List String) (name : Json) :
    TablesGrow s { s with all_events := keys.foldl (fun d e => d.appendAt e name) s.all_events } :=
  ⟨⟨List.prefix_refl _, List.prefix_refl _, (foldl_appendAt_grows name keys _).1,
    (foldl_appendAt_grows name keys _).2⟩, rfl, rfl⟩

def resultOf {α : Type} (r : Except PyErr α) (s : ManifestProcessor) :
    EStateM.Result PyErr ManifestProcessor α :=
  match r with
  | .ok a => .ok a s
  | .error e => .error e s

/-- A program that never reads the processor: its outcome `r` is the same from every state,
and it changes the state by one function `w` that only adds to the tables. -/
def WriteOnly {α : Type} (x : Py α) : Prop :=
  ∃ (r : Except PyErr α) (w : ManifestProcessor → ManifestProcessor),
    (∀ s, TablesGrow s (w s)) ∧ ∀ s, x.run s = resultOf r (w s)

namespace WriteOnly

variable {α β : Type}

theorem pure (a : α) : WriteOnly (pure a : Py α) :=
  ⟨.ok a, id, TablesGrow.refl, fun _ => rfl⟩

theorem lift (e : Except PyErr α) : WriteOnly (lift e) :=
  ⟨e, id, TablesGrow.refl, fun _ => by cases e <;> rfl⟩

theorem throw (e : PyErr) : WriteOnly (throw e : Py α) :=
  ⟨.error e, id, TablesGrow.refl, fun _ => rfl⟩

theorem modify {g : ManifestProcessor → ManifestProcessor} (hg : ∀ s, TablesGrow s (g s)) :
    WriteOnly (modify g) :=
  ⟨.ok ⟨⟩, g, hg, fun _ => rfl⟩

theorem bind {x : Py α} {f : α → Py β} (hx : WriteOnly x) (hf : ∀ a, WriteOnly (f a)) :
    WriteOnly (x >>= f) := by
  obtain ⟨r, w, hw, hx⟩ := hx
  cases r with
  | ok a =>
    obtain ⟨r', w', hw', hf⟩ := hf a
    refine ⟨r', w' ∘ w, fun s => (hw s).trans (hw' _), fun s => ?_⟩
    have h : x.run s = .ok a (w s) := hx s
    simp only [run_eq, Bind.bind, EStateM.bind] at h ⊢
    rw [h]
    exact hf _
  | error e =>
    refine ⟨.error e, w, hw, fun s => ?_⟩
    have h : x.run s = .error e (w s) := hx s
    simp only [run_eq, Bind.bind, EStateM.bind] at h ⊢
    rw [h]
    rfl

theorem ite {c : Prop} [Decidable c] {x y : Py α} (hx : WriteOnly x) (hy : WriteOnly y) :
    WriteOnly (if c then x else y) := by
  split
  · exact hx
  · exact hy

end WriteOnly

theorem addStaticApis_writeOnly : ∀ (module : ModuleInfo) (xs : List Json),
    WriteOnly (addStaticApis module xs)
  | module, [] => WriteOnly.pure module
  | module, api :: rest => by
    rw [addStaticApis]
    exact .bind (.lift _) fun api => .bind (.modify fun s => grow_all_apis s api) fun _ =>
      addStaticApis_writeOnly _ rest

theorem extractApis_writeOnly (manifest : Json) (module : ModuleInfo) :
    WriteOnly (extractApis manifest module) := by
  unfold extractApis
  repeat first
    | apply WriteOnly.bind
    | apply WriteOnly.lift
    | apply WriteOnly.pure
    | apply WriteOnly.ite
    | apply addStaticApis_writeOnly
    | intro

theorem extractUi_writeOnly (manifest : Json) (module : ModuleInfo) :
    WriteOnly (extractUi manifest module) := by
  unfold extractUi
  repeat first
    | apply WriteOnly.bind
    | apply WriteOnly.lift
    | apply WriteOnly.pure
    | apply WriteOnly.ite
    | exact .modify fun s => grow_ui_schemas s _ _
    | intro

theorem extractSharedState_writeOnly (manifest : Json) (module : ModuleInfo) :
    WriteOnly (extractSharedState manifest module) := by
  unfold extractSharedState
  repeat first
    | apply WriteOnly.bind
    | apply WriteOnly.lift
    | apply WriteOnly.pure
    | apply WriteOnly.ite
    | intro

theorem extractEvents_writeOnly (manifest : Json) (module : ModuleInfo) :
    WriteOnly (extractEvents manifest module) := by
  unfold extractEvents
  repeat first
    | apply WriteOnly.bind
    | apply WriteOnly.lift
    | apply WriteOnly.pure
    | apply WriteOnly.ite
    | exact .modify fun s => grow_events s _ _
    | intro

theorem extractConfiguration_writeOnly (manifest : Json) (module : ModuleInfo) :
    WriteOnly (extractConfiguration manifest module) := by
  unfold extractConfiguration
  repeat first
    | apply WriteOnly.bind
    | apply WriteOnly.lift
    | apply WriteOnly.pure
    | apply WriteOnly.ite
    | intro

theorem extractModule_writeOnly (manifest : Json) (path : String) :
    WriteOnly (extractModule manifest path) :=
  .bind (.lift _) fun _ => .bind (.lift _) fun _ => .bind (.lift _) fun _ =>
  .bind (.lift _) fun _ => .bind (.lift _) fun _ => .bind (.lift _) fun _ =>
  .bind (.lift _) fun _ => .bind (.lift _) fun _ =>
  .bind (extractApis_writeOnly _ _) fun _ => .bind (extractUi_writeOnly _ _) fun _ =>
  .bind (extractSharedState_writeOnly _ _) fun _ => .bind (extractEvents_writeOnly _ _) fun _ =>
  extractConfiguration_writeOnly _ _

theorem parseModuleManifest_writeOnly (sch : Schema) (f : ManifestFile) :
    WriteOnly (parseModuleManifest sch f) := by
  unfold parseModuleManifest
  repeat first
    | apply extractModule_writeOnly
    | apply WriteOnly.bind
    | apply WriteOnly.pure
    | apply WriteOnly.throw
    | apply WriteOnly.ite
    | split
    | intro

/-- The module `parse_module_manifest` gives for `f` on a fresh processor, when it accepts
the file. -/
def acceptedModule (sch : Schema) (f : ManifestFile) : Option ModuleInfo :=
  match (parseModuleManifest sch f).run .init with
  | .ok m _ => m
  | .error _ _ => none

def acceptedDriver (sch : Schema) (f : ManifestFile) : Option Json :=
  match parseDriverManifest sch f with
  | .ok (some d) => if d.truthy then some d else none
  | _ => none

theorem parseModuleStep_spec (sch : Schema) (s : ManifestProcessor) (f : ManifestFile) :
    (parseModuleStep sch s f).modules = s.modules ++ (acceptedModule sch f).toList ∧
    (parseModuleStep sch s f).drivers = s.drivers ∧ TablesKept s (parseModuleStep sch s f) := by
  obtain ⟨r, w, hw, hx⟩ := parseModuleManifest_writeOnly sch f
  obtain ⟨ht, hm, hd⟩ := hw s
  unfold parseModuleStep acceptedModule
  rw [hx, hx]
  cases r with
  | error e => exact ⟨by simp [resultOf, hm], hd, ht⟩
  | ok m =>
    cases m with
    | none => exact ⟨by simp [resultOf, hm], hd, ht⟩
    | some m => exact ⟨by simp [resultOf, hm], hd, ⟨ht.1, ht.2, ht.3, ht.4⟩⟩

theorem parseDriverStep_eq (sch : Schema) (s : ManifestProcessor) (f : ManifestFile) :
    parseDriverStep sch s f = { s with drivers := s.drivers ++ (acceptedDriver sch f).toList } := by
  unfold parseDriverStep acceptedDriver
  rcases parseDriverManifest sch f with _ | _ | d
  · simp
  · simp
  · by_cases h : d.truthy <;> simp [h]

theorem parseManifests_spec (ms ds : Schema) (s : ManifestProcessor)
    (files drivers : List ManifestFile) :
    (parseManifests ms ds s files drivers).modules = s.modules ++ files.filterMap (acceptedModule ms) ∧
    (parseManifests ms ds s files drivers).drivers =
      s.drivers ++ drivers.filterMap (acceptedDriver ds) ∧
    TablesKept s (parseManifests ms ds s files drivers) := by
  have hm : ∀ (files : List ManifestFile) (s : ManifestProcessor),
      (files.foldl (parseModuleStep ms) s).modules = s.modules ++ files.filterMap (acceptedModule ms) ∧
      (files.foldl (parseModuleStep ms) s).drivers = s.drivers ∧
      TablesKept s (files.foldl (parseModuleStep ms) s) := by
    intro files
    induction files with
    | nil => exact fun s => ⟨by simp, rfl, .refl s⟩
    | cons f files ih =>
      intro s
      obtain ⟨hm, hd, ht⟩ := parseModuleStep_spec ms s f
      obtain ⟨hm', hd', ht'⟩ := ih (parseModuleStep ms s f)
      refine ⟨?_, hd'.trans hd, ht.trans ht'⟩
      rw [List.foldl_cons, hm', hm, List.filterMap_cons]
      cases acceptedModule ms f <;> simp
  have hd : ∀ (drivers : List ManifestFile) (s : ManifestProcessor),
      drivers.foldl (parseDriverStep ds) s =
        { s with drivers := s.drivers ++ drivers.filterMap (acceptedDriver ds) } := by
    intro drivers
    induction drivers with
    | nil => exact fun s => by simp
    | cons f drivers ih =>
      intro s
      rw [List.foldl_cons, ih, parseDriverStep_eq, List.filterMap_cons]
      cases acceptedDriver ds f <;> simp
  obtain ⟨h₁, h₂, h₃⟩ := hm files s
  rw [parseManifests, hd]
  exact ⟨h₁, by simp [h₂], ⟨h₃.1, h₃.2, h₃.3, h₃.4⟩⟩

/-- Whether a file is accepted, and what it adds, never depends on the files read before
it: the modules and drivers a run collects are those each file gives on its own. -/
theorem parseManifests_accepts_each_file_alone (ms ds : Schema) (s : ManifestProcessor)
    (files drivers : List ManifestFile) :
    (parseManifests ms ds s files drivers).modules = s.modules ++ files.filterMap (acceptedModule ms) ∧
    (parseManifests ms ds s files drivers).drivers =
      s.drivers ++ drivers.filterMap (acceptedDriver ds) :=
  ⟨(parseManifests_spec ms ds s files drivers).1, (parseManifests_spec ms ds s files drivers).2.1⟩

/-- No file, accepted or skipped after a raise, takes anything out of the collected tables:
the API list and event lists only grow at their ends, and every schema key stays. -/
theorem parseManifests_keeps_tables (ms ds : Schema) (s : ManifestProcessor)
    (files drivers : List ManifestFile) :
    TablesKept s (parseManifests ms ds s files drivers) :=
  (parseManifests_spec ms ds s files drivers).2.2

/-- Another discovery order of the same files gives the same modules and drivers, in the
other order. -/
theorem parseManifests_discovery_order_perm (ms ds : Schema) (s : ManifestProcessor)
    {files files' drivers drivers' : List ManifestFile}
    (hf : files.Perm files') (hd : drivers.Perm drivers') :
    (parseManifests ms ds s files drivers).modules.Perm
      (parseManifests ms ds s files' drivers').modules ∧
    (parseManifests ms ds s files drivers).drivers.Perm
      (parseManifests ms ds s files' drivers').drivers := by
  obtain ⟨hm, hd₁, -⟩ := parseManifests_spec ms ds s files drivers
  obtain ⟨hm', hd₁', -⟩ := parseManifests_spec ms ds s files' drivers'
  rw [hm, hm', hd₁, hd₁']
  exact ⟨(hf.filterMap _).append_left _, (hd.filterMap _).append_left _⟩

def namedModuleFile (name : String) : ManifestFile :=
  ⟨"components/" ++ name ++ "/module_manifest.json",
    some (.obj [("module", .obj [("name", .str name)])])⟩

theorem parseManifests_discovery_order_swap :
    [namedModuleFile "A", namedModuleFile "B"].Perm [namedModuleFile "B", namedModuleFile "A"] ∧
    ([] : List ManifestFile).Perm [] ∧
    ((parseManifests none none .init [namedModuleFile "A", namedModuleFile "B"] []).modules.Perm
      (parseManifests none none .init [namedModuleFile "B", namedModuleFile "A"] []).modules ∧
    (parseManifests none none .init [namedModuleFile "A", namedModuleFile "B"] []).drivers.Perm
      (parseManifests none none .init [namedModuleFile "B", namedModuleFile "A"] []).drivers) :=
  ⟨.swap _ _ _, .nil, parseManifests_discovery_order_perm none none .init (.swap _ _ _) .nil⟩

end ManifestParsing
