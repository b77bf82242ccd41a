import Mathlib.Order.Basic
import Mathlib.Data.List.Basic

/-! How a C++17 compiler reads the narrow string literals the generators emit ([lex.string]).
Line ends are read as GCC reads them in translation phase 1 (a line feed, a carriage return
and line feed, or a carriage return), a backslash before a line end splices the lines
(phase 2), and C++17 has no trigraphs. Inside a literal a character other than `"`, `\` and
a line end stands for itself, `\` starts an escape sequence, and the first `"` that is not
part of an escape ends the literal. The generators write `f'"{x}"'`, that is `quoted`, with
no escaping. -/
namespace CppLiteral

def simpleEscape (c : Char) : Option Char :=
  if c = '\'' ∨ c = '"' ∨ c = '?' ∨ c = '\\' then some c
  else if c = 'a' then some (Char.ofNat 7) else if c = 'b' then some (Char.ofNat 8)
  else if c = 'f' then some (Char.ofNat 12) else if c = 'n' then some '\n'
  else if c = 'r' then some '\r' else if c = 't' then some '\t'
  else if c = 'v' then some (Char.ofNat 11) else none

def octalDigit (c : Char) : Option Nat :=
  if '0' ≤ c ∧ c ≤ '7' then some (c.toNat - '0'.toNat) else none

def hexDigit (c : Char) : Option Nat :=
  if '0' ≤ c ∧ c ≤ '9' then some (c.toNat - '0'.toNat)
  else if 'a' ≤ c ∧ c ≤ 'f' then some (c.toNat - 'a'.toNat + 10)
  else if 'A' ≤ c ∧ c ≤ 'F' then some (c.toNat - 'A'.toNat + 10) else none

def octalRun : Nat → Nat → List Char → Nat × List Char
  | 0, n, l => (n, l)
  | k + 1, n, c :: l => match octalDigit c with
    | some d => octalRun k (8 * n + d) l
    | none => (n, c :: l)
  | _ + 1, n, [] => (n, [])

def hexRun : Nat → List Char → Nat × List Char
  | n, c :: l => match hexDigit c with
    | some d => hexRun (16 * n + d) l
    | none => (n, c :: l)
  | n, [] => (n, [])

def hexExact : Nat → Nat → List Char → Option (Nat × List Char)
  | 0, n, l => some (n, l)
  | k + 1, n, c :: l => (hexDigit c).bind fun d => hexExact k (16 * n + d) l
  | _ + 1, _, [] => none

theorem octalRun_length : ∀ k n l, (octalRun k n l).2.length ≤ l.length
  | 0, _, _ => le_rfl
  | k + 1, n, c :: l => by
    unfold octalRun
    split
    · exact (octalRun_length k _ l).trans (Nat.le_succ _)
    · exact le_rfl
  | _ + 1, _, [] => le_rfl

theorem hexRun_length : ∀ n l, (hexRun n l).2.length ≤ l.length
  | n, c :: l => by
    unfold hexRun
    split
    · exact (hexRun_length _ l).trans (Nat.le_succ _)
    · exact le_rfl
  | _, [] => le_rfl

theorem hexExact_length : ∀ {k n l r}, hexExact k n l = some r → r.2.length ≤ l.length
  | 0, _, _, _, h => by cases h; exact le_rfl
  | k + 1, n, c :: l, r, h => by
    simp only [hexExact, Option.bind_eq_some] at h
    obtain ⟨d, -, h⟩ := h
    exact (hexExact_length h).trans (Nat.le_succ _)
  | _ + 1, _, [], _, h => by cases h

def narrowChar (r : Nat × List Char) : Option (Char × List Char) :=
  if r.1 < 256 then some (Char.ofNat r.1, r.2) else none

theorem narrowChar_rest {r : Nat × List Char} {r' : Char × List Char}
    (h : narrowChar r = some r') : r'.2 = r.2 := by
  unfold narrowChar at h
  split at h
  · cases h; rfl
  · cases h

def readEscape : List Char → Option (Char × List Char)
  | [] => none
  | c :: l =>
    match simpleEscape c with
    | some e => some (e, l)
    | none =>
      if c = 'x' then
        if (l.head?.bind hexDigit).isSome then narrowChar (hexRun 0 l) else none
      else if c = 'u' then (hexExact 4 0 l).map fun r => (Char.ofNat r.1, r.2)
      else if c = 'U' then (hexExact 8 0 l).map fun r => (Char.ofNat r.1, r.2)
      else (octalDigit c).bind fun d => narrowChar (octalRun 2 d l)

theorem readEscape_length {l : List Char} {r : Char × List Char} (h : readEscape l = some r) :
    r.2.length < l.length := by
  cases l with
  | nil => cases h
  | cons c l =>
    simp only [readEscape] at h
    cases hs : simpleEscape c with
    | some e => rw [hs] at h; cases h; simp
    | none =>
      simp only [hs] at h
      split_ifs at h
      · rw [narrowChar_rest h]; exact Nat.lt_succ_of_le (hexRun_length 0 l)
      · obtain ⟨r', h', rfl⟩ := Option.map_eq_some'.1 h
        exact Nat.lt_succ_of_le (hexExact_length h')
      · obtain ⟨r', h', rfl⟩ := Option.map_eq_some'.1 h
        exact Nat.lt_succ_of_le (hexExact_length h')
      · obtain ⟨d, -, h⟩ := Option.bind_eq_some.1 h
        rw [narrowChar_rest h]; exact Nat.lt_succ_of_le (octalRun_length 2 d l)

/-- The text after a line end at the head of `l`. -/
def lineEnd : List Char → Option (List Char)
  | [] => none
  | c :: l =>
    if c = '\n' then some l
    else if c = '\r' then some (if l.head? = some '\n' then l.tail else l)
    else none

theorem lineEnd_length {l l' : List Char} (h : lineEnd l = some l') : l'.length < l.length := by
  cases l with
  | nil => cases h
  | cons c l =>
    simp only [lineEnd] at h
    split_ifs at h <;> cases h <;> (simp only [List.length_cons, List.length_tail]; omega)

/-- The literal after its opening `"`: the characters it denotes and the text after its
closing `"`, or `none` when that text is not a well-formed literal. -/
def readBody : List Char → Option (List Char × List Char)
  | [] => none
  | c :: l =>
    if c = '"' then some ([], l)
    else if c = '\n' ∨ c = '\r' then none
    else if c = '\\' then
      match hs : lineEnd l with
      | some l' =>
        have : l'.length < l.length := lineEnd_length hs
        readBody l'
      | none =>
        match he : readEscape l with
        | some (e, l') =>
          have : l'.length < l.length := readEscape_length he
          (readBody l').map fun r => (e :: r.1, r.2)
        | none => none
    else (readBody l).map fun r => (c :: r.1, r.2)
termination_by l => l.length

def readLiteral : List Char → Option (String × List Char)
  | '"' :: l => (readBody l).map fun r => (⟨r.1⟩, r.2)
  | _ => none

/-- What `f'"{x}"'` writes around `x`. -/
def quoted (s : String) : String := "\"" ++ s ++ "\""

/-- No quote, backslash or line end: every character reads as itself in a literal. -/
def Plain (s : List Char) : Prop := '"' ∉ s ∧ '\\' ∉ s ∧ '\n' ∉ s ∧ '\r' ∉ s

theorem readBody_backslash {l out rest : List Char} (h : readBody ('\\' :: l) = some (out, rest)) :
    ∃ l' out', l'.length < l.length ∧ readBody l' = some (out', rest) ∧
      out.length ≤ out'.length + 1 := by
  rw [readBody, if_neg (by decide), if_neg (by decide), if_pos rfl] at h
  split at h
  · exact ⟨_, out, lineEnd_length ‹_›, h, Nat.le_succ _⟩
  · split at h
    · obtain ⟨⟨out', rest'⟩, h', ⟨⟩⟩ := Option.map_eq_some'.1 h
      exact ⟨_, out', readEscape_length ‹_›, h', le_rfl⟩
    · cases h

theorem readBody_cons {c : Char} {l : List Char} (hb : c ≠ '\\') :
    readBody (c :: l) = if c = '"' then some ([], l) else if c = '\n' ∨ c = '\r' then none
      else (readBody l).map fun r => (c :: r.1, r.2) := by
  rw [readBody]
  split_ifs <;> rfl

theorem readBody_length {l out rest : List Char} (h : readBody l = some (out, rest)) :
    out.length + rest.length < l.length := by
  induction' hn : l.length using Nat.strong_induction_on with n ih generalizing l out rest
  subst hn
  cases l with
  | nil => simp [readBody] at h
  | cons c l =>
    by_cases hb : c = '\\'
    · subst hb
      obtain ⟨l₁, out₁, hl, h₁, hout⟩ := readBody_backslash h
      have := ih _ (Nat.lt_succ_of_lt hl) h₁ rfl
      simp only [List.length_cons]
      omega
    · rw [readBody_cons hb] at h
      split_ifs at h
      · cases h; simp
      · obtain ⟨⟨out', rest'⟩, h', ⟨⟩⟩ := Option.map_eq_some'.1 h
        have := ih _ (Nat.lt_succ_self _) h' rfl
        simp only [List.length_cons]
        omega

theorem plain_cons {c : Char} {s : List Char} :
    Plain (c :: s) ↔ (c ≠ '"' ∧ c ≠ '\\' ∧ c ≠ '\n' ∧ c ≠ '\r') ∧ Plain s := by
  simp only [Plain, List.mem_cons, not_or, @eq_comm _ _ c]
  tauto

theorem readBody_append_quote {rest : List Char} :
    ∀ {s : List Char}, readBody (s ++ '"' :: rest) = some (s, rest) ↔ Plain s
  | [] => by simp [readBody, Plain]
  | c :: s => by
    rw [List.cons_append]
    by_cases hb : c = '\\'
    · subst hb
      refine iff_of_false (fun h => ?_) (by simp [plain_cons])
      obtain ⟨l₁, out₁, hl, h₁, hout⟩ := readBody_backslash h
      have := readBody_length h₁
      simp only [List.length_append, List.length_cons] at hl hout
      omega
    rw [readBody_cons hb]
    split_ifs with hq hn
    · simp [plain_cons, hq]
    · simp only [reduceCtorEq, false_iff, plain_cons]
      tauto
    · rw [plain_cons, ← readBody_append_quote]
      simp only [not_or] at hn
      rcases readBody (s ++ '"' :: rest) with _ | ⟨o, r⟩ <;> simp [hq, hb, hn]

/-- A literal written as `quoted s` reads back as `s`, with the text after it untouched,
exactly when `s` holds no quote, backslash, line feed or carriage return. -/
theorem readLiteral_quoted (s : String) (rest : List Char) :
    readLiteral ((quoted s).data ++ rest) = some (s, rest) ↔ Plain s.data := by
  have : (quoted s).data ++ rest = '"' :: (s.data ++ '"' :: rest) := by simp [quoted]
  rw [this, readLiteral, ← readBody_append_quote]
  constructor
  · intro h
    obtain ⟨⟨s', r'⟩, h', hr⟩ := Option.map_eq_some'.1 h
    simp only [Prod.mk.injEq] at hr
    obtain ⟨rfl, rfl⟩ := hr
    exact h'
  · intro h
    rw [h]
    rfl

end CppLiteral
