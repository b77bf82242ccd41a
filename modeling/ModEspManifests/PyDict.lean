import Mathlib.Data.List.Dedup
import Mathlib.Data.List.Sort

/-! Python dictionaries: entries in insertion order, each key once. Every table of the
manifest tools is built with one idiom, `if k not in d: d[k] = []` followed by
`d[k].append(v)`. `appendAt` is that idiom, and `groupBy` says what a run of it leaves
behind: each key once, in first-insertion order, with all its values. -/
namespace PyDict

variable {κ α : Type}

/-- A dict; the keys of its entries are distinct, as Python's are. -/
structure Dict (κ α : Type) where
  entries : List (κ × α)
  nodup : (entries.map Prod.fst).Nodup
  deriving DecidableEq

namespace Dict

@[ext] theorem ext {d d' : Dict κ α} (h : d.entries = d'.entries) : d = d' := by
  cases d; cases d'; cases h; rfl

def empty : Dict κ α := ⟨[], List.nodup_nil⟩

def keys (d : Dict κ α) : List κ := d.entries.map Prod.fst

end Dict

variable [DecidableEq κ]

def setEntry : List (κ × α) → κ → α → List (κ × α)
  | [], k, v => [(k, v)]
  | (k', v') :: d, k, v => if k' = k then (k', v) :: d else (k', v') :: setEntry d k v

def appendEntry : List (κ × List α) → κ → α → List (κ × List α)
  | [], k, v => [(k, [v])]
  | (k', vs) :: d, k, v =>
    if k' = k then (k', vs ++ [v]) :: d else (k', vs) :: appendEntry d k v

theorem keys_setEntry (k : κ) (v : α) : ∀ d : List (κ × α),
    (setEntry d k v).map Prod.fst = if k ∈ d.map Prod.fst then d.map Prod.fst
      else d.map Prod.fst ++ [k]
  | [] => by simp [setEntry]
  | (k', v') :: d => by
    unfold setEntry
    by_cases h : k' = k
    · subst h; simp
    · by_cases hk : k ∈ d.map Prod.fst <;> simp [h, Ne.symm h, keys_setEntry k v d, hk]

theorem lookup_setEntry_ne {k k' : κ} (v : α) (h : k ≠ k') :
    ∀ d : List (κ × α), (setEntry d k' v).lookup k = d.lookup k
  | [] => by simp [setEntry, List.lookup_cons, beq_false_of_ne h]
  | (j, w) :: d => by
    unfold setEntry
    split
    · subst j; simp [List.lookup_cons, beq_false_of_ne h]
    · simp only [List.lookup_cons]
      rw [lookup_setEntry_ne v h d]

theorem lookup_setEntry_self (k : κ) (v : α) :
    ∀ d : List (κ × α), (setEntry d k v).lookup k = some v
  | [] => by simp [setEntry, List.lookup_cons]
  | (j, w) :: d => by
    unfold setEntry
    split
    · subst j; simp [List.lookup_cons]
    · rename_i h
      simp only [List.lookup_cons, beq_false_of_ne (Ne.symm h), lookup_setEntry_self k v d]

theorem keys_appendEntry (k : κ) (v : α) : ∀ d : List (κ × List α),
    (appendEntry d k v).map Prod.fst = if k ∈ d.map Prod.fst then d.map Prod.fst
      else d.map Prod.fst ++ [k]
  | [] => by simp [appendEntry]
  | (k', vs) :: d => by
    unfold appendEntry
    by_cases h : k' = k
    · subst h; simp
    · by_cases hk : k ∈ d.map Prod.fst <;> simp [h, Ne.symm h, keys_appendEntry k v d, hk]

theorem nodup_if_append {l : List κ} (hl : l.Nodup) (k : κ) :
    (if k ∈ l then l else l ++ [k]).Nodup := by
  split
  · exact hl
  · exact hl.append (List.nodup_singleton k) (by simpa)

namespace Dict

def setAt (d : Dict κ α) (k : κ) (v : α) : Dict κ α :=
  ⟨setEntry d.entries k v, by rw [keys_setEntry]; exact nodup_if_append d.nodup k⟩

/-- `if k not in d: d[k] = []` then `d[k].append(v)`. -/
def appendAt (d : Dict κ (List α)) (k : κ) (v : α) : Dict κ (List α) :=
  ⟨appendEntry d.entries k v, by rw [keys_appendEntry]; exact nodup_if_append d.nodup k⟩

theorem mem_keys_setAt {d : Dict κ α} {k k' : κ} {v : α} (h : k ∈ (d.setAt k' v).keys) :
    k ∈ d.keys ∨ k = k' := by
  simp only [keys, setAt, keys_setEntry] at h
  split at h
  · exact .inl h
  · exact (List.mem_append.1 h).imp id List.mem_singleton.1

end Dict

theorem prefix_if_append (l : List κ) (k : κ) : l <+: (if k ∈ l then l else l ++ [k]) := by
  split
  · exact List.prefix_refl l
  · exact List.prefix_append l [k]

theorem lookup_appendEntry_grows (k j : κ) (v : α) :
    ∀ d : List (κ × List α), (d.lookup j).getD [] <+: ((appendEntry d k v).lookup j).getD []
  | [] => by by_cases h : j = k <;> simp [appendEntry, List.lookup_cons, h, beq_false_of_ne]
  | (k', vs) :: d => by
    unfold appendEntry
    split
    · subst k'
      by_cases h : j = k <;> simp [List.lookup_cons, h, beq_false_of_ne]
    · by_cases h : j = k' <;>
        simp [List.lookup_cons, h, beq_false_of_ne, lookup_appendEntry_grows k j v d]

namespace Dict

theorem keys_prefix_setAt (d : Dict κ α) (k : κ) (v : α) : d.keys <+: (d.setAt k v).keys := by
  simp only [keys, setAt, keys_setEntry]
  exact prefix_if_append _ k

theorem keys_prefix_appendAt (d : Dict κ (List α)) (k : κ) (v : α) :
    d.keys <+: (d.appendAt k v).keys := by
  simp only [keys, appendAt, keys_appendEntry]
  exact prefix_if_append _ k

end Dict

/-- The keys of a list of entries, each once, in order of first occurrence. -/
def keysOf : List (κ × α) → List κ
  | [] => []
  | (k, _) :: es => k :: (keysOf es).filter (· ≠ k)

def valuesOf (k : κ) (es : List (κ × α)) : List α :=
  es.filterMap fun e => if e.1 = k then some e.2 else none

theorem nodup_keysOf : ∀ es : List (κ × α), (keysOf es).Nodup
  | [] => List.nodup_nil
  | (k, _) :: es => List.nodup_cons.2 ⟨by simp, (nodup_keysOf es).filter _⟩

/-- The dict that folding `appendAt` over `es` builds from `{}`. -/
def groupBy (es : List (κ × α)) : Dict κ (List α) :=
  ⟨(keysOf es).map fun k => (k, valuesOf k es), by simpa [Function.comp_def] using nodup_keysOf es⟩

@[simp] theorem valuesOf_nil (k : κ) : valuesOf k ([] : List (κ × α)) = [] := rfl

@[simp] theorem valuesOf_append (k : κ) (es es' : List (κ × α)) :
    valuesOf k (es ++ es') = valuesOf k es ++ valuesOf k es' := by
  simp [valuesOf, List.filterMap_append]

@[simp] theorem valuesOf_cons (k k' : κ) (v : α) (es : List (κ × α)) :
    valuesOf k ((k', v) :: es) = if k' = k then v :: valuesOf k es else valuesOf k es := by
  by_cases h : k' = k <;> simp [valuesOf, h]

theorem mem_keysOf {k : κ} : ∀ {es : List (κ × α)}, k ∈ keysOf es ↔ k ∈ es.map Prod.fst
  | [] => by simp [keysOf]
  | (k', _) :: es => by
    by_cases h : k = k' <;> simp [keysOf, h, mem_keysOf]

theorem valuesOf_eq_nil {k : κ} {es : List (κ × α)} :
    valuesOf k es = [] ↔ k ∉ keysOf es := by
  induction es with
  | nil => simp [keysOf]
  | cons e es ih =>
    obtain ⟨k', v⟩ := e
    by_cases h : k' = k
    · subst h; simp [keysOf]
    · simp [keysOf, h, Ne.symm h, ih]

theorem keysOf_perm_dedup (es : List (κ × α)) : (keysOf es).Perm (es.map Prod.fst).dedup :=
  (List.perm_ext_iff_of_nodup (nodup_keysOf es) (List.nodup_dedup _)).2
    fun _ => by rw [mem_keysOf, List.mem_dedup]

theorem keysOf_perm {es es' : List (κ × α)} (h : es.Perm es') : (keysOf es).Perm (keysOf es') :=
  (keysOf_perm_dedup es).trans ((h.map _).dedup.trans (keysOf_perm_dedup es').symm)

theorem forall_groupBy_values {P : α → Prop} {es : List (κ × α)} :
    (∀ e ∈ (groupBy es).entries, ∀ v ∈ e.2, P v) ↔ ∀ e ∈ es, P e.2 := by
  constructor
  · intro h e he
    refine h (e.1, valuesOf e.1 es) ?_ e.2 (List.mem_filterMap.2 ⟨e, he, by simp⟩)
    exact List.mem_map.2 ⟨e.1, mem_keysOf.2 (List.mem_map_of_mem _ he), rfl⟩
  · intro h e' he' v hv
    obtain ⟨k, -, rfl⟩ := List.mem_map.1 he'
    obtain ⟨e, he, hv⟩ := List.mem_filterMap.1 hv
    split at hv <;> cases hv
    exact h e he

@[simp] theorem keys_groupBy (es : List (κ × α)) : (groupBy es).keys = keysOf es := by
  simp [groupBy, Dict.keys, Function.comp_def]

theorem keysOf_append_singleton (es : List (κ × α)) (k : κ) (v : α) :
    keysOf (es ++ [(k, v)]) = if k ∈ keysOf es then keysOf es else keysOf es ++ [k] := by
  induction es with
  | nil => simp [keysOf]
  | cons e es ih =>
    obtain ⟨k', v'⟩ := e
    by_cases h : k = k'
    · subst h
      have e : keysOf ((k, v') :: es ++ [(k, v)]) = k :: (keysOf (es ++ [(k, v)])).filter (· ≠ k) :=
        rfl
      rw [e, ih]
      split <;> simp [keysOf, List.filter_append]
    · by_cases hk : k ∈ keysOf es <;> simp [keysOf, ih, hk, h, List.filter_append]

theorem appendEntry_map (g : κ → List α) (k : κ) (v : α) :
    ∀ {ks : List κ}, ks.Nodup →
      appendEntry (ks.map fun j => (j, g j)) k v =
        if k ∈ ks then ks.map (fun j => (j, if j = k then g j ++ [v] else g j))
        else ks.map (fun j => (j, g j)) ++ [(k, [v])]
  | [], _ => by simp [appendEntry]
  | j :: ks, hnd => by
    have ih := appendEntry_map g k v (List.nodup_cons.1 hnd).2
    by_cases h : j = k
    · subst h
      have hm : j ∉ ks := (List.nodup_cons.1 hnd).1
      simp only [List.map_cons, appendEntry, if_pos rfl, List.mem_cons, true_or, ite_true]
      congr 1
      exact (List.map_congr_left fun x hx => by rw [if_neg (ne_of_mem_of_not_mem hx hm)]).symm
    · simp only [List.map_cons, appendEntry, h, ite_false, ih, List.mem_cons, Ne.symm h, false_or]
      split <;> simp [h]

theorem appendAt_groupBy (es : List (κ × α)) (k : κ) (v : α) :
    (groupBy es).appendAt k v = groupBy (es ++ [(k, v)]) := by
  ext1
  simp only [Dict.appendAt, groupBy]
  rw [appendEntry_map _ k v (nodup_keysOf es), keysOf_append_singleton]
  by_cases hk : k ∈ keysOf es
  · simp only [hk, ite_true, valuesOf_append, valuesOf_cons, valuesOf_nil]
    exact List.map_congr_left fun j _ => by
      by_cases h : j = k
      · simp [h]
      · simp [h, Ne.symm h]
  · have hnil : valuesOf k es = [] := valuesOf_eq_nil.2 hk
    simp only [hk, ite_false, List.map_append, List.map_cons, List.map_nil, valuesOf_append,
      valuesOf_cons, valuesOf_nil, hnil, ite_true, List.nil_append]
    congr 1
    exact List.map_congr_left fun j hj => by
      rw [if_neg (ne_of_mem_of_not_mem hj hk).symm, List.append_nil]

/-- Folding the idiom over `es'` from the table of `es` gives the table of `es ++ es'`. -/
theorem foldl_appendAt_groupBy (es es' : List (κ × α)) :
    es'.foldl (fun d e => d.appendAt e.1 e.2) (groupBy es) = groupBy (es ++ es') := by
  induction es' generalizing es with
  | nil => simp
  | cons e es' ih =>
    rw [List.foldl_cons, appendAt_groupBy, ih, List.append_assoc, List.singleton_append]

theorem foldl_appendAt_const (es : List (κ × α)) (keys : List κ) (v : α) :
    keys.foldl (fun d k => d.appendAt k v) (groupBy es) = groupBy (es ++ keys.map (·, v)) := by
  rw [← foldl_appendAt_groupBy, List.foldl_map]

/-- Splitting `l` by `f` over distinct keys that cover every `f a` keeps each element once. -/
theorem flatMap_filter_perm (f : α → κ) :
    ∀ {ks : List κ} {l : List α}, ks.Nodup → (∀ a ∈ l, f a ∈ ks) →
      (ks.flatMap fun k => l.filter (f · = k)).Perm l
  | [], [], _, _ => .nil
  | [], a :: _, _, hl => absurd (hl a (.head _)) (List.not_mem_nil _)
  | k :: ks, l, hnd, hl => by
    obtain ⟨hk, hnd⟩ := List.nodup_cons.1 hnd
    have ih := flatMap_filter_perm f hnd (l := l.filter (f · ≠ k)) fun a ha => by
      simp only [List.mem_filter, decide_eq_true_eq] at ha
      exact (List.mem_cons.1 (hl a ha.1)).resolve_left ha.2
    have hc : (ks.flatMap fun j => l.filter (f · = j)) =
        ks.flatMap fun j => (l.filter (f · ≠ k)).filter (f · = j) :=
      List.flatMap_congr fun j hj => by
        rw [List.filter_filter]
        exact List.filter_congr fun a _ => by
          by_cases h : f a = j
          · simp [h, ne_of_mem_of_not_mem hj hk]
          · simp [h]
    rw [List.flatMap_cons, hc]
    refine (ih.append_left _).trans ?_
    simpa using List.filter_append_perm (fun a => decide (f a = k)) l

theorem valuesOf_eq_filter (k : κ) (es : List (κ × α)) :
    valuesOf k es = (es.filter (·.1 = k)).map Prod.snd := by
  induction es with
  | nil => rfl
  | cons e es ih => by_cases h : e.1 = k <;> simp [valuesOf, List.filter_cons, h, ← ih]

/-- The values of `groupBy es`, taken together, are those of `es` regrouped by key. -/
theorem groupBy_values_perm (es : List (κ × α)) :
    ((groupBy es).entries.flatMap (·.2)).Perm (es.map Prod.snd) := by
  have h : (groupBy es).entries.flatMap (·.2) =
      ((keysOf es).flatMap fun k => es.filter (·.1 = k)).map Prod.snd := by
    simp [groupBy, valuesOf_eq_filter, List.map_flatMap, List.flatMap_map]
  rw [h]
  exact (flatMap_filter_perm Prod.fst (nodup_keysOf es)
    fun e he => mem_keysOf.2 (List.mem_map_of_mem _ he)).map _
theorem length_groupBy_values (es : List (κ × α)) :
    ((groupBy es).entries.flatMap (·.2)).length = es.length :=
  (groupBy_values_perm es).length_eq.trans (List.length_map _ _)

@[simp] theorem groupBy_nil : groupBy ([] : List (κ × α)) = Dict.empty := rfl

end PyDict
