import ModEspManifests.ParserRuns

/-! Which module manifests `parse_module_manifest` accepts. After the schema check the parser
reads the manifest with `.get`, `in`, `[...]`, `.keys()` and a loop that assigns into each API
entry, and each of these raises on a value of another type. A manifest is accepted exactly
when every section it has is of the type it is read with (`readable`); the predicate speaks
of the manifest alone, not of the order of the parser's steps. -/
namespace ManifestParsing

open PyJson PyDict

def isDict : Json → Bool
  | .obj _ => true
  | _ => false

@[simp] theorem isDict_str (t : String) : isDict (.str t) = false := rfl

theorem eq_obj_of_isDict {v : Json} (hv : isDict v = true) : ∃ kvs, v = .obj kvs := by
  cases v <;> first | exact ⟨_, rfl⟩ | cases hv

theorem get_not_dict {v : Json} (hv : isDict v = false) (k : String) (d : Json) :
    v.get k d = .error (.attributeError "get") := by
  cases v <;> first | rfl | cases hv

def dictOrAbsent : Option Json → Bool
  | some v => isDict v
  | none => true

def staticApisOk : Json → Bool
  | .arr xs => xs.all isDict
  | .obj kvs => kvs.isEmpty
  | .str s => s.data.isEmpty
  | _ => false

/-- `key in v`, then `v[key]` read by `next` when the test holds. -/
def inThenGetOk (key : String) (next : Json → Bool) : Json → Bool
  | .obj kvs => (kvs.lookup key).all next
  | .arr xs => !decide (.str key ∈ xs)
  | .str s => !decide (key.data <:+: s.data)
  | _ => false

def apisOk : Option Json → Bool
  | some (.obj a) => staticApisOk ((a.lookup "static").getD (.arr []))
  | some _ => false
  | none => true

def publishesOk : Option Json → Bool
  | some (.obj p) => dictOrAbsent (p.lookup "publishes")
  | some _ => false
  | none => true

def moduleField (kvs : List (String × Json)) (key : String) (default : Json) : Json :=
  match (kvs.lookup "module").getD (.obj []) with
  | .obj mkvs => (mkvs.lookup key).getD default
  | _ => default

/-- `'static' in ui and 'pages' in ui['static']`, and the schema stored under the module's name,
which must then be hashable. -/
def uiOk (name : Json) : Option Json → Bool
  | some ui => inThenGetOk "static" (inThenGetOk "pages" fun _ => name.hashable) ui
  | none => true

/-- The manifests that `parse_module_manifest` reads through without raising. -/
def readable : Json → Bool
  | .obj kvs => dictOrAbsent (kvs.lookup "module") && apisOk (kvs.lookup "apis") &&
      uiOk (moduleField kvs "name" (.str "")) (kvs.lookup "ui") && publishesOk (kvs.lookup "shared_state") &&
      publishesOk (kvs.lookup "event_bus") && dictOrAbsent (kvs.lookup "configuration")
  | _ => false

theorem dictOrAbsent_eq (v : Option Json) : dictOrAbsent v = isDict (v.getD (.obj [])) := by
  cases v <;> rfl

theorem contains_arr (xs : List Json) (k : String) :
    (Json.arr xs).contains k = .ok (decide (.str k ∈ xs)) := rfl

theorem contains_str (t k : String) :
    (Json.str t).contains k = .ok (decide (k.data <:+: t.data)) := rfl

theorem getItem_arr (xs : List Json) (k : String) : (Json.arr xs).getItem k = .error .typeError := rfl

theorem getItem_str (t k : String) : (Json.str t).getItem k = .error .typeError := rfl

theorem contains_obj_lookup (kvs : List (String × Json)) (k : String) :
    (Json.obj kvs).contains k = .ok (kvs.lookup k).isSome := by
  rw [Json.contains_obj]
  congr 1
  refine Bool.eq_iff_iff.2 ?_
  simp only [List.lookup_isSome_iff, decide_eq_true_eq, List.mem_map, beq_iff_eq]
  exact ⟨fun ⟨p, hp, h⟩ => ⟨p, hp, h.symm⟩, fun ⟨p, hp, h⟩ => ⟨p, hp, h.symm⟩⟩

section Sections

variable {s : ManifestProcessor} {m : ModuleInfo} {kvs : List (String × Json)}

theorem bind_returns {α β : Type} {x : Py α} {f : α → Py β}
    (hx : ∃ a s', x.run s = .ok a s') (hf : ∀ a s', x.run s = .ok a s' → ∃ b s'', (f a).run s' = .ok b s'') :
    ∃ b s', (x >>= f).run s = .ok b s' := by
  obtain ⟨a, s', h⟩ := hx
  obtain ⟨b, s'', h'⟩ := hf a s' h
  exact ⟨b, s'', bind_ok.2 ⟨a, s', h, h'⟩⟩

theorem publishes_keys_returns (v : Json) :
    (∃ p, v.get "publishes" (.obj []) = .ok p ∧ ∃ keys, p.keys = .ok keys) ↔
      publishesOk (some v) = true := by
  cases v with
  | obj p =>
    simp only [Json.get_obj, Except.ok.injEq, exists_eq_left', publishesOk, dictOrAbsent_eq]
    cases (p.lookup "publishes").getD (.obj []) <;> simp [Json.keys, isDict]
  | _ => simp [Json.get, publishesOk]

theorem extractSharedState_returns :
    (∃ m' s', (extractSharedState (.obj kvs) m).run s = .ok m' s') ↔
      publishesOk (kvs.lookup "shared_state") = true := by
  simp only [extractSharedState, lift_bind_ok, contains_obj_lookup, Except.ok.injEq,
    exists_eq_left']
  cases h : kvs.lookup "shared_state" with
  | none => simp [publishesOk]
  | some v =>
    simp only [Option.isSome_some, if_true, Json.getItem_obj kvs _ v h, lift_bind_ok,
      Except.ok.injEq, exists_eq_left', pure_ok, ← publishes_keys_returns]
    exact ⟨fun ⟨_, _, p, hp, k, hk, _⟩ => ⟨p, hp, k, hk⟩,
      fun ⟨p, hp, k, hk⟩ => ⟨_, _, p, hp, k, hk, rfl, rfl⟩⟩

theorem extractEvents_returns :
    (∃ m' s', (extractEvents (.obj kvs) m).run s = .ok m' s') ↔
      publishesOk (kvs.lookup "event_bus") = true := by
  simp only [extractEvents, lift_bind_ok, contains_obj_lookup, Except.ok.injEq, exists_eq_left']
  cases h : kvs.lookup "event_bus" with
  | none => simp [publishesOk]
  | some v =>
    simp only [Option.isSome_some, if_true, Json.getItem_obj kvs _ v h, lift_bind_ok,
      Except.ok.injEq, exists_eq_left', ← publishes_keys_returns]
    simp only [bind_ok, modify_ok, pure_ok]
    exact ⟨fun ⟨_, _, p, hp, k, hk, _⟩ => ⟨p, hp, k, hk⟩,
      fun ⟨p, hp, k, hk⟩ => ⟨_, _, p, hp, k, hk, ⟨⟩, _, rfl, rfl, rfl⟩⟩

theorem extractConfiguration_returns :
    (∃ m' s', (extractConfiguration (.obj kvs) m).run s = .ok m' s') ↔
      dictOrAbsent (kvs.lookup "configuration") = true := by
  simp only [extractConfiguration, lift_bind_ok, contains_obj_lookup, Except.ok.injEq,
    exists_eq_left']
  cases h : kvs.lookup "configuration" with
  | none => simp [dictOrAbsent]
  | some v =>
    simp only [Option.isSome_some, if_true, Json.getItem_obj kvs _ v h, lift_bind_ok,
      Except.ok.injEq, exists_eq_left']
    cases v <;> simp [Json.get, dictOrAbsent, isDict]

theorem inThenGet_nondict_returns {α : Type} {v : Json} (hv : isDict v = false) {key : String}
    {t : Py α} {a : α} {next : Json → Bool}
    (ht : ∀ r s', t.run s = .ok r s' → ∃ w, v.getItem key = .ok w) :
    (∃ r s' c, v.contains key = .ok c ∧ (if c then t else pure a).run s = .ok r s') ↔
      inThenGetOk key next v = true := by
  have hf : ∀ r s', t.run s ≠ .ok r s' := fun r s' h => by
    obtain ⟨w, hw⟩ := ht r s' h
    cases v with
    | obj _ => cases hv
    | _ => simp [Json.getItem] at hw
  cases v with
  | obj _ => cases hv
  | arr xs =>
    simp only [contains_arr, Except.ok.injEq, exists_eq_left', inThenGetOk]
    cases decide (Json.str key ∈ xs) <;> simp [hf]
  | str t' =>
    simp only [contains_str, Except.ok.injEq, exists_eq_left', inThenGetOk]
    cases decide (key.data <:+: t'.data) <;> simp [hf]
  | _ => simp [Json.contains, inThenGetOk]

theorem extractUi_returns :
    (∃ m' s', (extractUi (.obj kvs) m).run s = .ok m' s') ↔
      uiOk m.name (kvs.lookup "ui") = true := by
  simp only [extractUi, lift_bind_ok, contains_obj_lookup, Except.ok.injEq, exists_eq_left']
  cases h : kvs.lookup "ui" with
  | none => simp [uiOk]
  | some ui =>
    simp only [Option.isSome_some, if_true, Json.getItem_obj kvs _ ui h, lift_bind_ok,
      Except.ok.injEq, exists_eq_left', uiOk]
    cases hu : isDict ui with
    | false =>
      exact inThenGet_nondict_returns hu fun _ _ h => (lift_bind_ok.1 h).imp fun _ h => h.1
    | true =>
      obtain ⟨u, rfl⟩ := eq_obj_of_isDict hu
      simp only [contains_obj_lookup, lift_bind_ok, Except.ok.injEq, exists_eq_left', inThenGetOk]
      cases hs : u.lookup "static" with
      | none => simp
      | some st =>
        simp only [Option.isSome_some, if_true, Json.getItem_obj u _ st hs, lift_bind_ok,
          Except.ok.injEq, exists_eq_left', Option.all_some]
        cases hst : isDict st with
        | false =>
          refine inThenGet_nondict_returns hst fun _ _ h => ?_
          obtain ⟨_, ⟨⟩, h⟩ := lift_bind_ok.1 h
          exact (lift_bind_ok.1 h).imp fun _ h => h.1
        | true =>
          obtain ⟨sp, rfl⟩ := eq_obj_of_isDict hst
          simp only [contains_obj_lookup, lift_bind_ok, Except.ok.injEq, exists_eq_left',
            inThenGetOk]
          cases hp : sp.lookup "pages" with
          | none => simp
          | some pg =>
            simp only [Option.isSome_some, if_true, Json.getItem_obj sp _ pg hp, lift_bind_ok,
              Except.ok.injEq, exists_eq_left', bind_ok, modify_ok, pure_ok, Option.all_some]
            simp [Json.hash, Json.getItem, hp, and_assoc]

theorem addStaticApis_returns : ∀ (xs : List Json) (m : ModuleInfo) (s : ManifestProcessor),
    (∃ m' s', (addStaticApis m xs).run s = .ok m' s') ↔ xs.all isDict = true
  | [], m, s => by simp [addStaticApis]
  | x :: xs, m, s => by
    cases x with
    | obj kv =>
      simp only [addStaticApis, Json.setItem, bind_ok, lift_ok, modify_ok, Except.ok.injEq,
        and_assoc, exists_and_left, exists_eq_left', List.all_cons, isDict, Bool.true_and]
      constructor
      · rintro ⟨m', s', _, rfl, _, _, rfl, h⟩
        exact (addStaticApis_returns xs _ _).1 ⟨m', s', h⟩
      · intro h
        obtain ⟨m', s', h⟩ := (addStaticApis_returns xs _ _).2 h
        exact ⟨m', s', s, rfl, (), _, rfl, h⟩
    | _ => simp [addStaticApis, Json.setItem, lift_bind_ok, isDict]

theorem iter_dicts_returns (v : Json) :
    (∃ xs, v.iter = .ok xs ∧ xs.all isDict) ↔ staticApisOk v = true := by
  cases v with
  | arr xs => exact ⟨fun ⟨_, h, hd⟩ => by cases h; exact hd, fun hd => ⟨xs, rfl, hd⟩⟩
  | obj kvs =>
    cases kvs with
    | nil => exact iff_of_true ⟨[], rfl, rfl⟩ rfl
    | cons => exact iff_of_false (fun ⟨_, h, hd⟩ => by cases h; cases hd) Bool.false_ne_true
  | str t =>
    rcases t with ⟨_ | _⟩
    · exact iff_of_true ⟨[], rfl, rfl⟩ rfl
    · exact iff_of_false (fun ⟨_, h, hd⟩ => by cases h; cases hd) Bool.false_ne_true
  | _ => exact iff_of_false (fun ⟨_, h, _⟩ => by cases h) Bool.false_ne_true

theorem extractApis_returns :
    (∃ m' s', (extractApis (.obj kvs) m).run s = .ok m' s') ↔
      apisOk (kvs.lookup "apis") = true := by
  simp only [extractApis, lift_bind_ok, contains_obj_lookup, Except.ok.injEq, exists_eq_left']
  cases h : kvs.lookup "apis" with
  | none => simp [apisOk]
  | some v =>
    simp only [Option.isSome_some, if_true, Json.getItem_obj kvs _ v h, lift_bind_ok,
      Except.ok.injEq, exists_eq_left']
    cases v with
    | obj a =>
      simp only [apisOk, Json.get_obj, lift_bind_ok, Except.ok.injEq, exists_eq_left',
        ← iter_dicts_returns]
      exact ⟨fun ⟨m', s', xs, hx, h⟩ => ⟨xs, hx, (addStaticApis_returns xs m s).1 ⟨m', s', h⟩⟩,
        fun ⟨xs, hx, hd⟩ =>
          let ⟨m', s', h⟩ := (addStaticApis_returns xs m s).2 hd
          ⟨m', s', xs, hx, h⟩⟩
    | _ => simp [Json.get, apisOk]

def tagApi (name : Json) : Json → Json
  | .obj kvs => .obj (setEntry kvs "module" name)
  | v => v

def listItems : Json → List Json
  | .arr xs => xs
  | _ => []

def staticEntries : Option Json → List Json
  | some (.obj a) => listItems ((a.lookup "static").getD (.arr []))
  | _ => []

theorem iter_of_dicts {v : Json} {xs : List Json} (hv : v.iter = .ok xs) (hd : xs.all isDict) :
    xs = listItems v := by
  cases v with
  | arr ys => cases hv; rfl
  | obj kvs => cases hv; cases kvs <;> simp_all [isDict, listItems]
  | str t => cases hv; rcases t with ⟨_ | _⟩ <;> simp_all [isDict, listItems]
  | _ => cases hv

theorem addStaticApis_value : ∀ (xs : List Json) (m : ModuleInfo) (s : ManifestProcessor)
    {m' : ModuleInfo} {s' : ManifestProcessor}, (addStaticApis m xs).run s = .ok m' s' →
      m' = { m with apis := m.apis ++ xs.map (tagApi m.name) }
  | [], m, s, m', s', h => by rw [← (pure_ok.1 h).1, List.map_nil, List.append_nil]
  | x :: xs, m, s, m', s', h => by
    simp only [addStaticApis, lift_bind_ok] at h
    simp only [bind_ok, modify_ok] at h
    obtain ⟨_, ha, _, _, -, h⟩ := h
    rw [addStaticApis_value xs _ _ h]
    cases x with
    | obj kv => cases ha; simp [tagApi]
    | _ => cases ha

theorem extractApis_value {m' : ModuleInfo} {s' : ManifestProcessor}
    (h : (extractApis (.obj kvs) m).run s = .ok m' s') :
    m' = { m with apis := m.apis ++ (staticEntries (kvs.lookup "apis")).map (tagApi m.name) } := by
  simp only [extractApis, lift_bind_ok, contains_obj_lookup, Except.ok.injEq, exists_eq_left'] at h
  cases hv : kvs.lookup "apis" with
  | none =>
    simp only [hv, Option.isSome_none, Bool.false_eq_true, if_false, pure_ok] at h
    simp [staticEntries, ← h.1]
  | some v =>
    simp only [hv, Option.isSome_some, if_true, Json.getItem_obj kvs _ v hv, lift_bind_ok,
      Except.ok.injEq, exists_eq_left'] at h
    cases v with
    | obj a =>
      obtain ⟨_, ha, xs, hxs, h⟩ := h
      cases ha
      rw [addStaticApis_value xs m s h, iter_of_dicts hxs ((addStaticApis_returns xs m s).1 ⟨_, _, h⟩)]
      rfl
    | _ => simp [Json.get] at h

theorem extractUi_value {j : Json} {m' : ModuleInfo} {s' : ManifestProcessor}
    (h : (extractUi j m).run s = .ok m' s') : ∃ u p, m' = { m with ui := u, ui_pages := p } := by
  simp only [extractUi, lift_bind_ok] at h
  obtain ⟨_, -, h⟩ := h
  split at h
  · simp only [lift_bind_ok] at h
    obtain ⟨ui, -, _, -, h⟩ := h
    split at h
    · simp only [lift_bind_ok] at h
      obtain ⟨_, -, _, -, h⟩ := h
      split at h
      · simp only [lift_bind_ok] at h
        simp only [bind_ok, modify_ok] at h
        obtain ⟨_, -, pages, -, _, -, _, _, -, h⟩ := h
        exact ⟨ui, pages, (pure_ok.1 h).1.symm⟩
      · exact ⟨ui, m.ui_pages, (pure_ok.1 h).1.symm⟩
    · exact ⟨ui, m.ui_pages, (pure_ok.1 h).1.symm⟩
  · exact ⟨m.ui, m.ui_pages, (pure_ok.1 h).1.symm⟩

theorem extractConfiguration_value {j : Json} {m' : ModuleInfo} {s' : ManifestProcessor}
    (h : (extractConfiguration j m).run s = .ok m' s') : ∃ c, m' = { m with config_file := c } := by
  simp only [extractConfiguration, lift_bind_ok] at h
  obtain ⟨_, -, h⟩ := h
  split at h
  · simp only [lift_bind_ok] at h
    obtain ⟨_, -, c, -, h⟩ := h
    exact ⟨c, (pure_ok.1 h).1.symm⟩
  · exact ⟨m.config_file, (pure_ok.1 h).1.symm⟩

def publishedKeys : Option Json → List String
  | some (.obj p) =>
    match (p.lookup "publishes").getD (.obj []) with
    | .obj q => q.map Prod.fst
    | _ => []
  | _ => []

theorem publishedKeys_of_keys {sec : String} {v p : Json} {keys : List String}
    (hv : kvs.lookup sec = some v) (hp : v.get "publishes" (.obj []) = .ok p)
    (hk : p.keys = .ok keys) : keys = publishedKeys (kvs.lookup sec) := by
  rw [hv]
  cases v with
  | obj p₀ =>
    simp only [Json.get_obj, Except.ok.injEq] at hp
    subst hp
    simp only [publishedKeys]
    cases hq : (p₀.lookup "publishes").getD (.obj []) with
    | obj q => rw [hq, Json.keys_obj, Except.ok.injEq] at hk; exact hk.symm
    | _ => rw [hq] at hk; cases hk
  | _ => cases hp

theorem extractSharedState_value {m' : ModuleInfo} {s' : ManifestProcessor}
    (h : (extractSharedState (.obj kvs) m).run s = .ok m' s') :
    m' = { m with shared_state_keys :=
      m.shared_state_keys ++ publishedKeys (kvs.lookup "shared_state") } := by
  simp only [extractSharedState, lift_bind_ok, contains_obj_lookup, Except.ok.injEq,
    exists_eq_left'] at h
  cases hv : kvs.lookup "shared_state" with
  | none =>
    simp only [hv, Option.isSome_none, Bool.false_eq_true, if_false, pure_ok] at h
    simp [publishedKeys, ← h.1]
  | some v =>
    simp only [hv, Option.isSome_some, if_true, Json.getItem_obj kvs _ v hv, lift_bind_ok,
      Except.ok.injEq, exists_eq_left'] at h
    obtain ⟨_, hp, _, hk, h⟩ := h
    rw [← hv, ← publishedKeys_of_keys hv hp hk, (pure_ok.1 h).1]

theorem extractEvents_value {m' : ModuleInfo} {s' : ManifestProcessor}
    (h : (extractEvents (.obj kvs) m).run s = .ok m' s') :
    m' = { m with events := m.events ++ publishedKeys (kvs.lookup "event_bus") } := by
  simp only [extractEvents, lift_bind_ok, contains_obj_lookup, Except.ok.injEq,
    exists_eq_left'] at h
  cases hv : kvs.lookup "event_bus" with
  | none =>
    simp only [hv, Option.isSome_none, Bool.false_eq_true, if_false, pure_ok] at h
    simp [publishedKeys, ← h.1]
  | some v =>
    simp only [hv, Option.isSome_some, if_true, Json.getItem_obj kvs _ v hv, lift_bind_ok,
      Except.ok.injEq, exists_eq_left'] at h
    simp only [bind_ok, modify_ok] at h
    obtain ⟨_, hp, _, hk, _, _, -, h⟩ := h
    rw [← hv, ← publishedKeys_of_keys hv hp hk, (pure_ok.1 h).1]

end Sections

theorem extractModule_returns {s : ManifestProcessor} (j : Json) (path : String) :
    (∃ m' s', (extractModule j path).run s = .ok m' s') ↔ readable j = true := by
  cases hj : isDict j with
  | false =>
    have hr : readable j = false := by cases j <;> first | rfl | cases hj
    simp only [extractModule, lift_bind_ok, get_not_dict hj, reduceCtorEq, false_and, exists_false,
      hr, Bool.false_eq_true]
  | true =>
    obtain ⟨kvs, rfl⟩ := eq_obj_of_isDict hj
    simp only [readable, dictOrAbsent_eq (kvs.lookup "module"), moduleField]
    cases hd : isDict ((kvs.lookup "module").getD (.obj [])) with
    | false =>
      simp only [extractModule, lift_bind_ok, Json.get_obj, Except.ok.injEq, exists_eq_left',
        get_not_dict hd, reduceCtorEq, false_and, exists_false, Bool.false_and, Bool.false_eq_true]
    | true =>
      obtain ⟨mkvs, hmd⟩ := eq_obj_of_isDict hd
      simp only [extractModule, lift_bind_ok, Json.get_obj, hmd, Except.ok.injEq, exists_eq_left']
      simp only [Bool.and_eq_true, and_assoc, isDict, true_and]
      constructor
      · intro h
        simp only [bind_ok] at h
        obtain ⟨_, _, m₁, _, h₁, _, _, h₂, _, _, h₃, _, _, h₄, h₅⟩ := h
        have hui := extractUi_returns.1 ⟨_, _, h₂⟩
        obtain rfl := extractApis_value h₁
        exact ⟨extractApis_returns.1 ⟨_, _, h₁⟩, hui, extractSharedState_returns.1 ⟨_, _, h₃⟩,
          extractEvents_returns.1 ⟨_, _, h₄⟩, extractConfiguration_returns.1 ⟨_, _, h₅⟩⟩
      · rintro ⟨c₁, c₂, c₃, c₄, c₅⟩
        exact bind_returns (extractApis_returns.2 c₁) fun _ _ h₁ =>
          bind_returns (extractUi_returns.2 (by obtain rfl := extractApis_value h₁; exact c₂))
            fun _ _ _ =>
          bind_returns (extractSharedState_returns.2 c₃) fun _ _ _ =>
          bind_returns (extractEvents_returns.2 c₄) fun _ _ _ => extractConfiguration_returns.2 c₅

/-- What `extractModule` returns for a dict: the `module` fields with their defaults, the static
API entries tagged with the module's name, and the published keys. -/
theorem extractModule_value {s : ManifestProcessor} {kvs : List (String × Json)} {path : String}
    {m : ModuleInfo} {s' : ManifestProcessor} (h : (extractModule (.obj kvs) path).run s = .ok m s') :
    ∃ u p c, m =
      { name := moduleField kvs "name" (.str ""), type := moduleField kvs "type" (.str "STANDARD"),
        version := moduleField kvs "version" (.str "0.0.0"),
        description := moduleField kvs "description" (.str ""),
        priority := moduleField kvs "priority" (.str "NORMAL"),
        dependencies := moduleField kvs "dependencies" (.arr []), manifest_path := path,
        driver_interface := moduleField kvs "driver_interface" .null,
        apis := (staticEntries (kvs.lookup "apis")).map (tagApi (moduleField kvs "name" (.str ""))),
        events := publishedKeys (kvs.lookup "event_bus"),
        shared_state_keys := publishedKeys (kvs.lookup "shared_state"),
        ui := u, ui_pages := p, config_file := c } := by
  cases hd : isDict ((kvs.lookup "module").getD (.obj [])) with
  | false =>
    simp only [extractModule, lift_bind_ok, Json.get_obj, Except.ok.injEq, exists_eq_left',
      get_not_dict hd, reduceCtorEq, false_and, exists_false] at h
  | true =>
    obtain ⟨mkvs, hmd⟩ := eq_obj_of_isDict hd
    simp only [extractModule, lift_bind_ok, Json.get_obj, hmd, Except.ok.injEq,
      exists_eq_left'] at h
    simp only [bind_ok] at h
    obtain ⟨_, _, h₁, _, _, h₂, _, _, h₃, _, _, h₄, h₅⟩ := h
    obtain rfl := extractApis_value h₁
    obtain ⟨u, p, rfl⟩ := extractUi_value h₂
    obtain rfl := extractSharedState_value h₃
    obtain rfl := extractEvents_value h₄
    obtain ⟨c, rfl⟩ := extractConfiguration_value h₅
    exact ⟨u, p, c, by simp [moduleField, hmd]⟩

theorem acceptedModule_some (sch : Schema) (path : String) (j : Json) :
    acceptedModule sch ⟨path, some j⟩ =
      if schemaRejects sch j then none
      else match (extractModule j path).run .init with
        | .ok m _ => some m
        | .error _ _ => none := by
  by_cases hs : schemaRejects sch j
  · simp [acceptedModule, parseModuleManifest, hs, run_eq, pure, EStateM.pure]
  · simp only [acceptedModule, parseModuleManifest, hs, Bool.false_eq_true, if_false, run_eq,
      bind, EStateM.bind, pure, EStateM.pure]
    cases extractModule j path .init <;> rfl

theorem extractModule_of_accepted {sch : Schema} {path : String} {j : Json} {m : ModuleInfo}
    (h : acceptedModule sch ⟨path, some j⟩ = some m) :
    ∃ s', (extractModule j path).run .init = .ok m s' := by
  rw [acceptedModule_some] at h
  split at h
  · cases h
  split at h
  · cases h; exact ⟨_, ‹_›⟩
  · cases h

theorem acceptedModule_json_isSome (sch : Schema) (path : String) (j : Json) :
    (acceptedModule sch ⟨path, some j⟩).isSome = (!schemaRejects sch j && readable j) := by
  rw [acceptedModule_some]
  by_cases hs : schemaRejects sch j
  · simp [hs]
  · simp only [hs, Bool.false_eq_true, if_false, Bool.not_false, Bool.true_and]
    refine Bool.eq_iff_iff.2 (Iff.trans ?_ (@extractModule_returns .init j path))
    cases (extractModule j path).run .init <;> simp

/-- `parse_manifests` accepts a module file exactly when its text is JSON, the schema, if any,
passes it, and it is `readable`; every other file raises or is rejected by the schema. -/
theorem acceptedModule_isSome (sch : Schema) (f : ManifestFile) :
    (acceptedModule sch f).isSome = f.content.any fun j => !schemaRejects sch j && readable j := by
  rcases f with ⟨path, _ | j⟩
  · rfl
  · exact acceptedModule_json_isSome sch path j

/-- An accepted module holds its manifest's `module` fields, with the dataclass defaults, its
published event and state keys, and the file's path. -/
theorem acceptedModule_fields {sch : Schema} {path : String} {kvs : List (String × Json)}
    {m : ModuleInfo} (h : acceptedModule sch ⟨path, some (.obj kvs)⟩ = some m) :
    m.name = moduleField kvs "name" (.str "") ∧
    m.type = moduleField kvs "type" (.str "STANDARD") ∧
    m.version = moduleField kvs "version" (.str "0.0.0") ∧
    m.description = moduleField kvs "description" (.str "") ∧
    m.priority = moduleField kvs "priority" (.str "NORMAL") ∧
    m.dependencies = moduleField kvs "dependencies" (.arr []) ∧
    m.events = publishedKeys (kvs.lookup "event_bus") ∧
    m.shared_state_keys = publishedKeys (kvs.lookup "shared_state") ∧
    m.manifest_path = path := by
  obtain ⟨s', h⟩ := extractModule_of_accepted h
  obtain ⟨_, _, _, rfl⟩ := extractModule_value h
  exact ⟨rfl, rfl, rfl, rfl, rfl, rfl, rfl, rfl, rfl⟩

/-- The API entries of an accepted module are those of its manifest's `apis.static` list, in
order, each with `module` set to the module's name. -/
theorem acceptedModule_apis {sch : Schema} {path : String} {kvs : List (String × Json)}
    {m : ModuleInfo} (h : acceptedModule sch ⟨path, some (.obj kvs)⟩ = some m) :
    m.apis = (staticEntries (kvs.lookup "apis")).map (tagApi m.name) := by
  obtain ⟨s', h⟩ := extractModule_of_accepted h
  obtain ⟨_, _, _, rfl⟩ := extractModule_value h
  rfl

def pumpFields : List (String × Json) :=
  [("module", .obj [("name", .str "Pump")]),
    ("event_bus", .obj [("publishes", .obj [("pump.started", .obj [])])])]

def pumpModule : ModuleInfo :=
  { name := .str "Pump", type := .str "STANDARD", version := .str "0.0.0",
    events := ["pump.started"], manifest_path := "pump.json" }

theorem acceptedModule_fields_pump :
    acceptedModule none ⟨"pump.json", some (.obj pumpFields)⟩ = some pumpModule ∧
    pumpModule.name = moduleField pumpFields "name" (.str "") ∧
    pumpModule.type = moduleField pumpFields "type" (.str "STANDARD") ∧
    pumpModule.version = moduleField pumpFields "version" (.str "0.0.0") ∧
    pumpModule.description = moduleField pumpFields "description" (.str "") ∧
    pumpModule.priority = moduleField pumpFields "priority" (.str "NORMAL") ∧
    pumpModule.dependencies = moduleField pumpFields "dependencies" (.arr []) ∧
    pumpModule.events = publishedKeys (pumpFields.lookup "event_bus") ∧
    pumpModule.shared_state_keys = publishedKeys (pumpFields.lookup "shared_state") ∧
    pumpModule.manifest_path = "pump.json" :=
  have h : acceptedModule none ⟨"pump.json", some (.obj pumpFields)⟩ = some pumpModule := by
    decide
  ⟨h, acceptedModule_fields h⟩

def fanFields : List (String × Json) :=
  [("module", .obj [("name", .str "Fan")]),
    ("apis", .obj [("static", .arr [.obj [("method", .str "fan.set_speed")]])])]

def fanModule : ModuleInfo :=
  { name := .str "Fan", type := .str "STANDARD", version := .str "0.0.0",
    apis := [.obj [("method", .str "fan.set_speed"), ("module", .str "Fan")]],
    manifest_path := "fan.json" }

theorem acceptedModule_apis_fan :
    acceptedModule none ⟨"fan.json", some (.obj fanFields)⟩ = some fanModule ∧
      fanModule.apis = (staticEntries (fanFields.lookup "apis")).map (tagApi fanModule.name) :=
  have h : acceptedModule none ⟨"fan.json", some (.obj fanFields)⟩ = some fanModule := by decide
  ⟨h, acceptedModule_apis h⟩

/-- The driver manifests `parse_driver_manifest` reads through without raising: a dict whose
`driver` and `apis` sections are dicts when present. -/
def driverReadable : Json → Bool
  | .obj kvs => dictOrAbsent (kvs.lookup "driver") && dictOrAbsent (kvs.lookup "apis")
  | _ => false

theorem setEntry_ne_nil (d : List (String × Json)) (k : String) (v : Json) :
    setEntry d k v ≠ [] := by
  cases d with
  | nil => simp [setEntry]
  | cons p d => unfold setEntry; split <;> simp

/-- A driver record, once built, always has the keys `manifest_path` and `apis`, so the
`if driver:` test never drops it: a driver file is kept exactly when it is JSON, the schema,
if any, passes it, and it is `driverReadable`. -/
theorem acceptedDriver_isSome (sch : Schema) (f : ManifestFile) :
    (acceptedDriver sch f).isSome =
      f.content.any fun j => !schemaRejects sch j && driverReadable j := by
  rcases f with ⟨path, _ | j⟩
  · rfl
  · by_cases hs : schemaRejects sch j
    · simp [acceptedDriver, parseDriverManifest, hs, pure, Except.pure]
    · simp only [acceptedDriver, parseDriverManifest, hs, Option.any_some, Bool.not_false,
        Bool.true_and, Bool.false_eq_true, if_false]
      cases j with
      | obj kvs =>
        simp only [Json.get_obj, driverReadable, dictOrAbsent_eq]
        cases (kvs.lookup "driver").getD (.obj []) with
        | obj dk =>
          cases (kvs.lookup "apis").getD (.obj []) with
          | obj ak => simp [Json.setItem, bind, Except.bind, pure, Except.pure, Json.truthy,
              setEntry_ne_nil, isDict]
          | _ => simp [Json.setItem, Json.get, bind, Except.bind, pure, Except.pure, isDict]
        | _ => simp [Json.setItem, bind, Except.bind, pure, Except.pure, isDict]
      | _ => simp [Json.get, bind, Except.bind, pure, Except.pure, driverReadable]

end ManifestParsing
