import ModEspManifests.PyDict
import Mathlib.Data.List.Infix
import Mathlib.Data.List.Perm.Basic
import Mathlib.Data.List.Forall2

/-! JSON values as `json.load` returns them, and the Python operations the manifest tools
apply to them. Each operation fails as Python does: `.get` on a non-dict is an
`AttributeError`, a missing key a `KeyError`, iterating a number a `TypeError`.
Objects list each key once, as the dicts of `json.load` do.

A string is a Lean `String`, a sequence of Unicode scalar values. `json.load` also yields
lone surrogates, from an escaped `\ud800`, and the generators' UTF-8 file writes raise on
them; the model holds no such string, so its results are about manifests without one.
Numbers are integers. -/
namespace PyJson

inductive Json where
  | null
  | bool (b : Bool)
  | num (n : Int)
  | str (s : String)
  | arr (xs : List Json)
  | obj (kvs : List (String × Json))
  deriving Repr, Inhabited

mutual
def Json.decEq : (a b : Json) → Decidable (a = b)
  | .null, .null => isTrue rfl
  | .bool a, .bool b => if h : a = b then isTrue (h ▸ rfl) else isFalse (by rintro ⟨⟩; exact h rfl)
  | .num a, .num b => if h : a = b then isTrue (h ▸ rfl) else isFalse (by rintro ⟨⟩; exact h rfl)
  | .str a, .str b => if h : a = b then isTrue (h ▸ rfl) else isFalse (by rintro ⟨⟩; exact h rfl)
  | .arr a, .arr b => match Json.decEqList a b with
    | isTrue h => isTrue (h ▸ rfl)
    | isFalse h => isFalse (by rintro ⟨⟩; exact h rfl)
  | .obj a, .obj b => match Json.decEqFields a b with
    | isTrue h => isTrue (h ▸ rfl)
    | isFalse h => isFalse (by rintro ⟨⟩; exact h rfl)
  | .null, .bool _ | .null, .num _ | .null, .str _ | .null, .arr _ | .null, .obj _
  | .bool _, .null | .bool _, .num _ | .bool _, .str _ | .bool _, .arr _ | .bool _, .obj _
  | .num _, .null | .num _, .bool _ | .num _, .str _ | .num _, .arr _ | .num _, .obj _
  | .str _, .null | .str _, .bool _ | .str _, .num _ | .str _, .arr _ | .str _, .obj _
  | .arr _, .null | .arr _, .bool _ | .arr _, .num _ | .arr _, .str _ | .arr _, .obj _
  | .obj _, .null | .obj _, .bool _ | .obj _, .num _ | .obj _, .str _ | .obj _, .arr _ =>
    isFalse (fun h => Json.noConfusion h)
def Json.decEqList : (a b : List Json) → Decidable (a = b)
  | [], [] => isTrue rfl
  | [], _ :: _ | _ :: _, [] => isFalse (fun h => List.noConfusion h)
  | x :: xs, y :: ys => match Json.decEq x y, Json.decEqList xs ys with
    | isTrue h, isTrue h' => isTrue (h ▸ h' ▸ rfl)
    | isFalse h, _ => isFalse (by rintro ⟨⟩; exact h rfl)
    | _, isFalse h => isFalse (by rintro ⟨⟩; exact h rfl)
def Json.decEqFields : (a b : List (String × Json)) → Decidable (a = b)
  | [], [] => isTrue rfl
  | [], _ :: _ | _ :: _, [] => isFalse (fun h => List.noConfusion h)
  | (k, x) :: xs, (l, y) :: ys =>
    if hk : k = l then match Json.decEq x y, Json.decEqFields xs ys with
    | isTrue h, isTrue h' => isTrue (hk ▸ h ▸ h' ▸ rfl)
    | isFalse h, _ => isFalse (by rintro ⟨⟩; exact h rfl)
    | _, isFalse h => isFalse (by rintro ⟨⟩; exact h rfl)
    else isFalse (by rintro ⟨⟩; exact hk rfl)
end

instance : DecidableEq Json := Json.decEq

/-- The exceptions the modelled code can raise, by Python class. -/
inductive PyErr where
  | jsonDecodeError
  | attributeError (attr : String)
  | keyError (key : String)
  | typeError
  deriving DecidableEq, Repr

instance decEqExcept {ε α : Type} [DecidableEq ε] [DecidableEq α] : DecidableEq (Except ε α)
  | .ok a, .ok b => if h : a = b then isTrue (h ▸ rfl) else isFalse (by rintro ⟨⟩; exact h rfl)
  | .error a, .error b =>
    if h : a = b then isTrue (h ▸ rfl) else isFalse (by rintro ⟨⟩; exact h rfl)
  | .ok _, .error _ | .error _, .ok _ => isFalse (fun h => Except.noConfusion h)

namespace Json

/-- `d.get(k, default)`. -/
def get : Json → String → Json → Except PyErr Json
  | .obj kvs, k, dflt => .ok ((kvs.lookup k).getD dflt)
  | _, _, _ => .error (.attributeError "get")

/-- `d[k]` with a string key. -/
def getItem : Json → String → Except PyErr Json
  | .obj kvs, k => match kvs.lookup k with
    | some v => .ok v
    | none => .error (.keyError k)
  | _, _ => .error .typeError

def setItem : Json → String → Json → Except PyErr Json
  | .obj kvs, k, v => .ok (.obj (PyDict.setEntry kvs k v))
  | _, _, _ => .error .typeError

/-- `k in x`: a key of a dict, an element of a list, a substring of a string. -/
def contains : Json → String → Except PyErr Bool
  | .obj kvs, k => .ok (decide (k ∈ kvs.map Prod.fst))
  | .arr xs, k => .ok (decide (.str k ∈ xs))
  | .str s, k => .ok (decide (k.data <:+: s.data))
  | _, _ => .error .typeError

/-- The values a `for` loop over `x` visits. -/
def iter : Json → Except PyErr (List Json)
  | .arr xs => .ok xs
  | .obj kvs => .ok (kvs.map fun kv => .str kv.1)
  | .str s => .ok (s.data.map fun c => .str (String.singleton c))
  | _ => .error .typeError

def keys : Json → Except PyErr (List String)
  | .obj kvs => .ok (kvs.map Prod.fst)
  | _ => .error (.attributeError "keys")

def items : Json → Except PyErr (List (String × Json))
  | .obj kvs => .ok kvs
  | _ => .error (.attributeError "items")

def asStr (method : String) : Json → Except PyErr String
  | .str s => .ok s
  | _ => .error (.attributeError method)

def truthy : Json → Bool
  | .null => false
  | .bool b => b
  | .num n => n ≠ 0
  | .str s => !s.data.isEmpty
  | .arr xs => !xs.isEmpty
  | .obj kvs => !kvs.isEmpty

def isList : Json → Bool
  | .arr _ => true
  | _ => false

def hashable : Json → Bool
  | .arr _ | .obj _ => false
  | _ => true

def isStr : Json → Bool
  | .str _ => true
  | _ => false

def iterable : Json → Bool
  | .arr _ | .obj _ | .str _ => true
  | _ => false

/-- `hash(x)`, which a dict key or set member needs. -/
def hash (x : Json) : Except PyErr Unit :=
  if x.hashable then .ok () else .error .typeError

@[simp] theorem get_obj (kvs : List (String × Json)) (k : String) (d : Json) :
    (obj kvs).get k d = .ok ((kvs.lookup k).getD d) := rfl

@[simp] theorem contains_obj (kvs : List (String × Json)) (k : String) :
    (obj kvs).contains k = .ok (decide (k ∈ kvs.map Prod.fst)) := rfl

@[simp] theorem iter_arr (xs : List Json) : (arr xs).iter = .ok xs := rfl

@[simp] theorem keys_obj (kvs : List (String × Json)) : (obj kvs).keys = .ok (kvs.map Prod.fst) :=
  rfl

theorem asStr_returns (method : String) (x : Json) :
    (∃ s, x.asStr method = .ok s) ↔ x.isStr := by
  cases x <;> simp [asStr, isStr]

theorem iter_returns (x : Json) : (∃ xs, x.iter = .ok xs) ↔ x.iterable := by
  cases x <;> simp [iter, iterable]

theorem getItem_obj (kvs : List (String × Json)) (k : String) (v : Json)
    (h : kvs.lookup k = some v) : (obj kvs).getItem k = .ok v := by
  simp [getItem, h]

end Json

def reprAscii (s : String) : String :=
  let q := if '\'' ∈ s.data ∧ '"' ∉ s.data then '"' else '\''
  let hex (n : Nat) : Char := if n < 10 then Char.ofNat (48 + n) else Char.ofNat (87 + n)
  let esc (c : Char) : List Char :=
    if c = '\\' then ['\\', '\\'] else if c = q then ['\\', q]
    else if c = '\n' then ['\\', 'n'] else if c = '\r' then ['\\', 'r']
    else if c = '\t' then ['\\', 't']
    else if c.toNat < 32 ∨ c.toNat = 127 then ['\\', 'x', hex (c.toNat / 16), hex (c.toNat % 16)]
    else [c]
  ⟨q :: s.data.flatMap esc ++ [q]⟩

mutual
/-- Python's `str()` of a `json.load` value with ASCII strings; in a container a string shows its `repr`. -/
def renderAscii : Json → String
  | .null => "None"
  | .bool b => if b then "True" else "False"
  | .num n => toString n
  | .str s => s
  | .arr xs => "[" ++ ", ".intercalate (renderItems xs) ++ "]"
  | .obj kvs => "\x7b" ++ ", ".intercalate (renderFields kvs) ++ "\x7d"
def renderItems : List Json → List String
  | [] => []
  | .str s :: vs => reprAscii s :: renderItems vs
  | v :: vs => renderAscii v :: renderItems vs
def renderFields : List (String × Json) → List String
  | [] => []
  | (k, .str s) :: kvs => (reprAscii k ++ ": " ++ reprAscii s) :: renderFields kvs
  | (k, v) :: kvs => (reprAscii k ++ ": " ++ renderAscii v) :: renderFields kvs
end

/-- The text primitives the generators call: `str()`, `str.upper` and `str.lower`. Python maps
case by the Unicode tables, so they stay parameters. -/
structure PyText where
  str : Json → String
  upper : String → String
  lower : String → String
  str_str : ∀ s, str (.str s) = s

def PyText.ascii : PyText where
  str := renderAscii
  upper s := ⟨s.data.map Char.toUpper⟩
  lower s := ⟨s.data.map Char.toLower⟩
  str_str _ := rfl

section Loops

variable {α β γ ε : Type}

theorem bind_eq_ok {x : Except ε α} {f : α → Except ε β} {b : β} :
    x >>= f = .ok b ↔ ∃ a, x = .ok a ∧ f a = .ok b := by
  cases x <;> simp [bind, Except.bind]

theorem foldlM_ok {f : β → α → Except ε β} (hf : ∀ b a, f b a = .ok b) :
    ∀ (l : List α) (b : β), l.foldlM f b = .ok b
  | [], _ => rfl
  | a :: l, b => by rw [List.foldlM_cons, hf]; exact foldlM_ok hf l b

theorem foldlM_ok_iff {f : β → α → Except ε β} {p : α → Prop}
    (hf : ∀ b a, (∃ b', f b a = .ok b') ↔ p a) :
    ∀ (l : List α) (b : β), (∃ r, l.foldlM f b = .ok r) ↔ ∀ a ∈ l, p a
  | [], b => by simp [pure, Except.pure]
  | a :: l, b => by
    have ha := hf b a
    rw [List.foldlM_cons]
    cases h : f b a with
    | error e =>
      rw [h] at ha
      simp only [bind, Except.bind, reduceCtorEq, exists_false, false_iff, List.mem_cons,
        forall_eq_or_imp, not_and] at ha ⊢
      exact fun hp => absurd hp ha
    | ok b' =>
      rw [h] at ha
      simp only [bind, Except.bind, foldlM_ok_iff hf l b', List.mem_cons, forall_eq_or_imp]
      exact ⟨fun hl => ⟨ha.1 ⟨b', rfl⟩, hl⟩, fun hl => hl.2⟩

theorem mapM_ok_iff {f : α → Except ε β} {xs : List α} :
    ∀ {rs : List β}, xs.mapM f = .ok rs ↔ List.Forall₂ (fun x r => f x = .ok r) xs rs := by
  induction xs with
  | nil =>
    intro rs
    rw [List.mapM_nil]
    cases rs
    · exact iff_of_true rfl .nil
    · exact iff_of_false (fun h => by cases h) (by simp)
  | cons x xs ih =>
    intro rs
    rw [List.mapM_cons]
    cases rs <;> cases hx : f x <;> cases hxs : xs.mapM f <;>
      simp only [hx, hxs, bind, Except.bind, pure, Except.pure, List.forall₂_cons, ← ih,
        reduceCtorEq, false_and, and_false, Except.ok.injEq, List.cons.injEq,
        List.forall₂_nil_right_iff, false_iff, not_false_eq_true]

theorem ok_bind {a : α} {f : α → Except ε β} : (Except.ok a >>= f) = f a := rfl

theorem bind_returns_iff {x : Except ε α} {f : α → Except ε β} :
    (∃ b, (x >>= f) = .ok b) ↔ ∃ a, x = .ok a ∧ ∃ b, f a = .ok b := by
  cases x <;> simp [bind, Except.bind]

theorem bind_pure_returns {x : Except ε α} {g : α → β} :
    (∃ r, (x >>= fun a => pure (g a)) = .ok r) ↔ ∃ a, x = .ok a := by
  cases x <;> simp [bind, Except.bind, pure, Except.pure]

theorem mapM_returns_iff {f : α → Except ε β} :
    ∀ {xs : List α}, (∃ rs, xs.mapM f = .ok rs) ↔ ∀ x ∈ xs, ∃ r, f x = .ok r
  | [] => iff_of_true ⟨[], rfl⟩ fun _ h => absurd h (List.not_mem_nil _)
  | x :: xs => by
    rw [List.mapM_cons, List.forall_mem_cons, ← mapM_returns_iff]
    simp only [bind_eq_ok, pure, Except.pure, Except.ok.injEq]
    constructor
    · rintro ⟨_, a, ha, as, has, -⟩
      exact ⟨⟨a, ha⟩, as, has⟩
    · rintro ⟨⟨a, ha⟩, as, has⟩
      exact ⟨_, a, ha, as, has, rfl⟩

theorem mapM_perm {f : α → Except ε β} {xs ys : List α} {rs : List β} (hp : xs.Perm ys)
    (h : xs.mapM f = .ok rs) : ∃ rs', ys.mapM f = .ok rs' ∧ rs.Perm rs' := by
  obtain ⟨w, hw, hwr⟩ := List.perm_comp_forall₂ hp.symm (mapM_ok_iff.1 h)
  exact ⟨w, mapM_ok_iff.2 hw, hwr.symm⟩

theorem forall₂_zip_and {R : α → β → Prop} {S : α → γ → Prop} :
    ∀ {l : List α} {u : List β} {v : List γ}, List.Forall₂ R l u → List.Forall₂ S l v →
      List.Forall₂ (fun a p => R a p.1 ∧ S a p.2) l (u.zip v)
  | _, _, _, .nil, .nil => .nil
  | _, _, _, .cons h₁ t₁, .cons h₂ t₂ => .cons ⟨h₁, h₂⟩ (forall₂_zip_and t₁ t₂)

end Loops

end PyJson
