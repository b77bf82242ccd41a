import ModEspManifests.ManifestShape

/-! Only `# Extract events` writes `all_events`, and it writes once the module, API, UI and
shared-state sections have read through. A file whose parse then raises at `configuration`
loses its module but leaves its events in the table. What a file appends depends on the file
alone, so the table after `parse_manifests` is the grouping of every file's pairs, in
discovery order. It groups the accepted modules' events, as the emitters assume, exactly when
no file that raises at `configuration` publishes one. -/
namespace ManifestParsing

open PyJson PyDict

def endState {α : Type} : EStateM.Result PyErr ManifestProcessor α → ManifestProcessor
  | .ok _ s => s
  | .error _ s => s

/-- `all_events[event].append(name)` for each pair, in order. -/
def recordEvents (d : Dict String (List Json)) (ps : List (String × Json)) :
    Dict String (List Json) :=
  ps.foldl (fun d p => d.appendAt p.1 p.2) d

@[simp] theorem recordEvents_nil (d : Dict String (List Json)) : recordEvents d [] = d := rfl

theorem recordEvents_append (d : Dict String (List Json)) (ps qs : List (String × Json)) :
    recordEvents d (ps ++ qs) = recordEvents (recordEvents d ps) qs :=
  List.foldl_append _ _ _ _

theorem recordEvents_groupBy (es ps : List (String × Json)) :
    recordEvents (groupBy es) ps = groupBy (es ++ ps) :=
  foldl_appendAt_groupBy es ps

/-- A program that leaves `all_events` as it finds it, whether it returns or raises. -/
def KeepsEvents {α : Type} (x : Py α) : Prop :=
  ∀ s, (endState (x.run s)).all_events = s.all_events

section Bind

variable {α β : Type}

theorem endState_bind {x : Py α} {f : α → Py β} (s : ManifestProcessor) :
    endState ((x >>= f).run s) = match x.run s with
      | .ok a s₁ => endState ((f a).run s₁)
      | .error _ s₁ => s₁ := by
  simp only [run_eq, Bind.bind, EStateM.bind]
  cases x s <;> rfl

theorem run_lift_bind_ok {a : α} {f : α → Py β} (s : ManifestProcessor) :
    (lift (.ok a) >>= f).run s = (f a).run s := rfl

theorem run_lift_bind_error {e : PyErr} {f : α → Py β} (s : ManifestProcessor) :
    (lift (.error e) >>= f).run s = .error e s := rfl

end Bind

namespace KeepsEvents

variable {α β : Type}

theorem pure (a : α) : KeepsEvents (pure a : Py α) := fun _ => rfl

theorem lift (e : Except PyErr α) : KeepsEvents (lift e) := fun _ => by cases e <;> rfl

theorem modify {g : ManifestProcessor → ManifestProcessor}
    (hg : ∀ s, (g s).all_events = s.all_events) : KeepsEvents (modify g) := hg

theorem bind {x : Py α} {f : α → Py β} (hx : KeepsEvents x) (hf : ∀ a, KeepsEvents (f a)) :
    KeepsEvents (x >>= f) := fun s => by
  rw [endState_bind]
  have h := hx s
  cases hr : x.run s with
  | ok a s₁ => rw [hr] at h; exact (hf a s₁).trans h
  | error e s₁ => rw [hr] at h; exact h

theorem ite {c : Prop} [Decidable c] {x y : Py α} (hx : KeepsEvents x) (hy : KeepsEvents y) :
    KeepsEvents (if c then x else y) := by
  split
  · exact hx
  · exact hy

end KeepsEvents

theorem addStaticApis_keepsEvents : ∀ (module : ModuleInfo) (xs : List Json),
    KeepsEvents (addStaticApis module xs)
  | module, [] => KeepsEvents.pure module
  | module, _ :: rest => by
    rw [addStaticApis]
    exact .bind (.lift _) fun _ => .bind (.modify fun _ => rfl) fun _ =>
      addStaticApis_keepsEvents _ rest

theorem extractApis_keepsEvents (manifest : Json) (module : ModuleInfo) :
    KeepsEvents (extractApis manifest module) := by
  unfold extractApis
  repeat first
    | apply KeepsEvents.bind
    | apply KeepsEvents.lift
    | apply KeepsEvents.pure
    | apply KeepsEvents.ite
    | apply addStaticApis_keepsEvents
    | intro

theorem extractUi_keepsEvents (manifest : Json) (module : ModuleInfo) :
    KeepsEvents (extractUi manifest module) := by
  unfold extractUi
  repeat first
    | apply KeepsEvents.bind
    | apply KeepsEvents.lift
    | apply KeepsEvents.pure
    | apply KeepsEvents.ite
    | exact .modify fun _ => rfl
    | intro

theorem extractSharedState_keepsEvents (manifest : Json) (module : ModuleInfo) :
    KeepsEvents (extractSharedState manifest module) := by
  unfold extractSharedState
  repeat first
    | apply KeepsEvents.bind
    | apply KeepsEvents.lift
    | apply KeepsEvents.pure
    | apply KeepsEvents.ite
    | intro

theorem extractConfiguration_keepsEvents (manifest : Json) (module : ModuleInfo) :
    KeepsEvents (extractConfiguration manifest module) := by
  unfold extractConfiguration
  repeat first
    | apply KeepsEvents.bind
    | apply KeepsEvents.lift
    | apply KeepsEvents.pure
    | apply KeepsEvents.ite
    | intro

theorem extractEvents_run (kvs : List (String × Json)) (m : ModuleInfo) (s : ManifestProcessor) :
    (extractEvents (.obj kvs) m).run s = match kvs.lookup "event_bus" with
      | none => .ok m s
      | some v => match v.get "publishes" (.obj []) >>= Json.keys with
        | .ok keys => .ok { m with events := m.events ++ keys }
            { s with all_events := keys.foldl (fun d e => d.appendAt e m.name) s.all_events }
        | .error e => .error e s := by
  unfold extractEvents
  rw [contains_obj_lookup]
  cases h : kvs.lookup "event_bus" with
  | none => rfl
  | some v =>
    dsimp only
    rw [Option.isSome_some, run_lift_bind_ok, if_pos rfl, Json.getItem_obj kvs _ v h,
      run_lift_bind_ok]
    cases v.get "publishes" (.obj []) with
    | error e => rfl
    | ok p =>
      rw [run_lift_bind_ok]
      cases hk : p.keys <;> simp only [bind, Except.bind, hk] <;> rfl

theorem extractEvents_events (kvs : List (String × Json)) (m : ModuleInfo) (s : ManifestProcessor) :
    (endState ((extractEvents (.obj kvs) m).run s)).all_events =
      if publishesOk (kvs.lookup "event_bus") then
        recordEvents s.all_events ((publishedKeys (kvs.lookup "event_bus")).map (·, m.name))
      else s.all_events := by
  rw [extractEvents_run]
  cases h : kvs.lookup "event_bus" with
  | none => simp [endState, publishesOk, publishedKeys]
  | some v =>
    dsimp only
    cases hk : v.get "publishes" (.obj []) >>= Json.keys with
    | ok keys =>
      obtain ⟨p, hp, hpk⟩ := bind_eq_ok.1 hk
      have hkeys : keys = publishedKeys (some v) := by rw [← h]; exact publishedKeys_of_keys h hp hpk
      rw [← (publishes_keys_returns v).1 ⟨p, hp, keys, hpk⟩, if_pos rfl, ← hkeys, recordEvents,
        List.foldl_map]
      rfl
    | error e =>
      have hno : publishesOk (some v) = false := by
        refine Bool.eq_false_iff.2 fun hok => ?_
        obtain ⟨p, hp, keys, hpk⟩ := (publishes_keys_returns v).2 hok
        rw [bind_eq_ok.2 ⟨p, hp, hpk⟩] at hk
        cases hk
      rw [hno, if_neg Bool.false_ne_true]
      rfl

theorem events_bind {α β : Type} {x : Py α} {f : α → Py β} (hx : KeepsEvents x) {b : Bool}
    {s : ManifestProcessor} (hb : (∃ a s', x.run s = .ok a s') ↔ b = true)
    {ps : List (String × Json)}
    (hf : ∀ a s', x.run s = .ok a s' → (endState ((f a).run s')).all_events =
      recordEvents s'.all_events ps) :
    (endState ((x >>= f).run s)).all_events = recordEvents s.all_events (if b then ps else []) := by
  rw [endState_bind]
  have h := hx s
  cases hr : x.run s with
  | ok a s₁ =>
    rw [hr] at h
    rw [if_pos (hb.1 ⟨a, s₁, hr⟩), ← h]
    exact hf a s₁ hr
  | error e s₁ =>
    rw [hr] at h
    cases b with
    | false => exact h
    | true => obtain ⟨_, _, h'⟩ := hb.2 rfl; rw [hr] at h'; cases h'

theorem events_bind_keeps {α β : Type} {x : Py α} {f : α → Py β} (hf : ∀ a, KeepsEvents (f a))
    (s : ManifestProcessor) :
    (endState ((x >>= f).run s)).all_events = (endState (x.run s)).all_events := by
  rw [endState_bind]
  cases x.run s with
  | ok a s₁ => exact hf a s₁
  | error e s₁ => rfl

def readableToEvents (kvs : List (String × Json)) : Bool :=
  dictOrAbsent (kvs.lookup "module") && apisOk (kvs.lookup "apis") &&
    uiOk (moduleField kvs "name" (.str "")) (kvs.lookup "ui") &&
    publishesOk (kvs.lookup "shared_state") && publishesOk (kvs.lookup "event_bus")

theorem readable_obj (kvs : List (String × Json)) :
    readable (.obj kvs) = (readableToEvents kvs && dictOrAbsent (kvs.lookup "configuration")) :=
  rfl

def eventPairs (kvs : List (String × Json)) : List (String × Json) :=
  if readableToEvents kvs then
    (publishedKeys (kvs.lookup "event_bus")).map (·, moduleField kvs "name" (.str ""))
  else []

theorem extractModule_events (kvs : List (String × Json)) (path : String) (s : ManifestProcessor) :
    (endState ((extractModule (.obj kvs) path).run s)).all_events =
      recordEvents s.all_events (eventPairs kvs) := by
  cases hd : isDict ((kvs.lookup "module").getD (.obj [])) with
  | false =>
    simp only [extractModule, Json.get_obj, get_not_dict hd, run_lift_bind_ok, run_lift_bind_error]
    simp [endState, eventPairs, readableToEvents, dictOrAbsent_eq, hd]
  | true =>
    obtain ⟨mkvs, hmd⟩ := eq_obj_of_isDict hd
    have he : eventPairs kvs =
        if apisOk (kvs.lookup "apis") then
          if uiOk ((mkvs.lookup "name").getD (.str "")) (kvs.lookup "ui") then
            if publishesOk (kvs.lookup "shared_state") then
              if publishesOk (kvs.lookup "event_bus") then
                (publishedKeys (kvs.lookup "event_bus")).map (·, (mkvs.lookup "name").getD (.str ""))
              else []
            else []
          else []
        else [] := by
      simp only [eventPairs, readableToEvents, moduleField, dictOrAbsent_eq, hmd, isDict,
        Bool.true_and]
      cases apisOk (kvs.lookup "apis") <;>
        cases uiOk ((mkvs.lookup "name").getD (.str "")) (kvs.lookup "ui") <;>
        cases publishesOk (kvs.lookup "shared_state") <;>
        cases publishesOk (kvs.lookup "event_bus") <;> rfl
    simp only [extractModule, Json.get_obj, hmd, run_lift_bind_ok]
    rw [he]
    refine events_bind (extractApis_keepsEvents _ _) extractApis_returns fun m₁ s₁ h₁ => ?_
    obtain rfl := extractApis_value h₁
    refine events_bind (extractUi_keepsEvents _ _) extractUi_returns fun m₂ s₂ h₂ => ?_
    obtain ⟨_, _, rfl⟩ := extractUi_value h₂
    refine events_bind (extractSharedState_keepsEvents _ _) extractSharedState_returns
      fun m₃ s₃ h₃ => ?_
    obtain rfl := extractSharedState_value h₃
    rw [events_bind_keeps (fun _ => extractConfiguration_keepsEvents _ _), extractEvents_events]
    split <;> rfl

/-- The pairs parsing a module file records: none unless it is a dict manifest the schema passes. -/
def fileEvents (sch : Schema) (f : ManifestFile) : List (String × Json) :=
  match f.content with
  | some (.obj kvs) => if schemaRejects sch (.obj kvs) then [] else eventPairs kvs
  | _ => []

theorem parseModuleManifest_events (sch : Schema) (f : ManifestFile) (s : ManifestProcessor) :
    (endState ((parseModuleManifest sch f).run s)).all_events =
      recordEvents s.all_events (fileEvents sch f) := by
  rcases f with ⟨path, _ | j⟩
  · rfl
  · by_cases hs : schemaRejects sch j
    · have hf : fileEvents sch ⟨path, some j⟩ = [] := by
        cases j <;> simp only [fileEvents, hs, if_true]
      simp only [parseModuleManifest, hs, if_true, hf]
      rfl
    · simp only [parseModuleManifest, hs, Bool.false_eq_true, if_false, pure_bind]
      rw [events_bind_keeps fun _ => KeepsEvents.pure _]
      cases j with
      | obj kvs => simp only [extractModule_events, fileEvents, hs, Bool.false_eq_true, if_false]
      | _ => rfl

theorem parseModuleStep_events (sch : Schema) (s : ManifestProcessor) (f : ManifestFile) :
    (parseModuleStep sch s f).all_events = recordEvents s.all_events (fileEvents sch f) := by
  rw [← parseModuleManifest_events]
  unfold parseModuleStep
  rcases (parseModuleManifest sch f).run s with (_ | _) | _ <;> rfl

theorem parseManifests_events (ms ds : Schema) (s : ManifestProcessor)
    (files drivers : List ManifestFile) :
    (parseManifests ms ds s files drivers).all_events =
      recordEvents s.all_events (files.flatMap (fileEvents ms)) := by
  have hd : ∀ (ds' : List ManifestFile) (t : ManifestProcessor),
      (ds'.foldl (parseDriverStep ds) t).all_events = t.all_events := by
    intro ds'
    induction ds' with
    | nil => exact fun _ => rfl
    | cons d ds' ih => intro t; rw [List.foldl_cons, ih, parseDriverStep_eq]
  have hm : ∀ (fs : List ManifestFile) (t : ManifestProcessor),
      (fs.foldl (parseModuleStep ms) t).all_events =
        recordEvents t.all_events (fs.flatMap (fileEvents ms)) := by
    intro fs
    induction fs with
    | nil => exact fun _ => rfl
    | cons f fs ih =>
      intro t
      rw [List.foldl_cons, ih, parseModuleStep_events, List.flatMap_cons, recordEvents_append]
  rw [parseManifests, hd, hm]

/-- From a fresh processor, `all_events` groups the pairs of every module file that reads through
its event section, in discovery order, whether its parse then returns or raises. -/
theorem parseManifests_all_events (ms ds : Schema) (files drivers : List ManifestFile) :
    (parseManifests ms ds .init files drivers).all_events =
      groupBy (files.flatMap (fileEvents ms)) := by
  rw [parseManifests_events]
  exact recordEvents_groupBy [] _

/-- A file whose parse records its events and then raises at a `configuration` that is not a dict. -/
def raisesAtConfiguration (sch : Schema) (f : ManifestFile) : Bool :=
  match f.content with
  | some (.obj kvs) => !schemaRejects sch (.obj kvs) && readableToEvents kvs &&
      !dictOrAbsent (kvs.lookup "configuration")
  | _ => false

def publishedEvents (f : ManifestFile) : List String :=
  match f.content with
  | some (.obj kvs) => publishedKeys (kvs.lookup "event_bus")
  | _ => []

theorem fileEvents_of_rejected {sch : Schema} {f : ManifestFile}
    (h : acceptedModule sch f = none) :
    (fileEvents sch f).map Prod.fst =
      if raisesAtConfiguration sch f then publishedEvents f else [] := by
  rcases f with ⟨path, _ | (_ | _ | _ | _ | _ | kvs)⟩ <;> try rfl
  have hr := acceptedModule_json_isSome sch path (.obj kvs)
  rw [h, Option.isSome_none, readable_obj] at hr
  simp only [fileEvents, eventPairs, raisesAtConfiguration, publishedEvents]
  cases hs : schemaRejects sch (.obj kvs) <;> cases he : readableToEvents kvs <;>
    cases hc : dictOrAbsent (kvs.lookup "configuration") <;> simp_all [Function.comp_def]

theorem fileEvents_of_accepted {sch : Schema} {f : ManifestFile} {m : ModuleInfo}
    (h : acceptedModule sch f = some m) : fileEvents sch f = m.events.map (·, m.name) := by
  rcases f with ⟨path, _ | j⟩
  · cases h
  · have hr := (acceptedModule_json_isSome sch path j).symm
    rw [h, Option.isSome_some] at hr
    obtain ⟨_, hm⟩ := extractModule_of_accepted h
    cases j with
    | obj kvs =>
      obtain ⟨_, _, _, rfl⟩ := extractModule_value hm
      simp only [readable_obj, Bool.and_eq_true, Bool.not_eq_true'] at hr
      simp [fileEvents, eventPairs, hr.1, hr.2.1]
    | _ => simp [readable] at hr

theorem fileEvents_eq_nil_of_rejected {sch : Schema} {f : ManifestFile}
    (h : acceptedModule sch f = none) :
    fileEvents sch f = [] ↔ (raisesAtConfiguration sch f = true → publishedEvents f = []) := by
  rw [← List.map_eq_nil_iff (f := Prod.fst), fileEvents_of_rejected h]
  split <;> simp [*]

theorem acceptedModule_of_raises {sch : Schema} {f : ManifestFile}
    (h : raisesAtConfiguration sch f = true) : acceptedModule sch f = none := by
  rcases f with ⟨path, _ | (_ | _ | _ | _ | _ | kvs)⟩ <;>
    simp only [raisesAtConfiguration, Bool.false_eq_true, Bool.and_eq_true, Bool.not_eq_true'] at h
  rw [← Option.not_isSome_iff_eq_none, acceptedModule_json_isSome]
  simp [readable_obj, h.2]

theorem length_flatMap_fileEvents (sch : Schema) (files : List ManifestFile) :
    (files.flatMap (fileEvents sch)).length =
      ((files.filterMap (acceptedModule sch)).flatMap fun m => m.events.map (·, m.name)).length +
        ((files.filter fun f => (acceptedModule sch f).isNone).flatMap
          (fileEvents sch)).length := by
  induction files with
  | nil => rfl
  | cons f files ih =>
    simp only [List.flatMap_cons, List.filterMap_cons, List.filter_cons, List.length_append, ih]
    cases hacc : acceptedModule sch f with
    | some m =>
      simp only [fileEvents_of_accepted hacc, Option.isNone_some, Bool.false_eq_true, if_false,
        List.flatMap_cons, List.length_append]
      omega
    | none =>
      simp only [Option.isNone_none, if_true, List.flatMap_cons, List.length_append]
      omega

theorem flatMap_fileEvents_of_quiet {sch : Schema} :
    ∀ {files : List ManifestFile}, (∀ f ∈ files, raisesAtConfiguration sch f = true →
      publishedEvents f = []) →
      files.flatMap (fileEvents sch) =
        (files.filterMap (acceptedModule sch)).flatMap fun m => m.events.map (·, m.name)
  | [], _ => rfl
  | f :: files, h => by
    rw [List.flatMap_cons, List.filterMap_cons,
      flatMap_fileEvents_of_quiet fun g hg => h g (.tail _ hg)]
    cases hacc : acceptedModule sch f with
    | some m => rw [fileEvents_of_accepted hacc]; rfl
    | none => rw [(fileEvents_eq_nil_of_rejected hacc).2 (h f (.head _)), List.nil_append]

/-- From a fresh processor, `all_events` groups the accepted modules' events exactly when no
file that raises at `configuration` publishes an event. -/
theorem parseManifests_events_agree_iff (ms ds : Schema) (files drivers : List ManifestFile) :
    (parseManifests ms ds .init files drivers).all_events =
        groupBy ((parseManifests ms ds .init files drivers).modules.flatMap
          fun m => m.events.map (·, m.name)) ↔
      ∀ f ∈ files, raisesAtConfiguration ms f = true → publishedEvents f = [] := by
  have he : (parseManifests ms ds .init files drivers).all_events =
      groupBy (files.flatMap (fileEvents ms)) := by
    rw [parseManifests_events]
    exact recordEvents_groupBy [] _
  have hm : (parseManifests ms ds .init files drivers).modules =
      files.filterMap (acceptedModule ms) :=
    (parseManifests_spec ms ds .init files drivers).1.trans (List.nil_append _)
  rw [he, hm]
  refine ⟨fun h f hf hr => ?_, fun h => congrArg groupBy (flatMap_fileEvents_of_quiet h)⟩
  have hlen := congrArg (fun d => (d.entries.flatMap (·.2)).length) h
  dsimp only at hlen
  rw [length_groupBy_values, length_groupBy_values, length_flatMap_fileEvents] at hlen
  have hnil :
      (files.filter fun f => (acceptedModule ms f).isNone).flatMap (fileEvents ms) = [] :=
    List.eq_nil_of_length_eq_zero (by omega)
  have hacc := acceptedModule_of_raises hr
  refine (fileEvents_eq_nil_of_rejected hacc).1 ?_ hr
  exact List.flatMap_eq_nil_iff.1 hnil f (List.mem_filter.2 ⟨hf, by simp [hacc]⟩)

end ManifestParsing
