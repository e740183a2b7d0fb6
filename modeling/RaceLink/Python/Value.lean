import Mathlib.Data.List.Nodup
import Mathlib.Data.Rat.Defs
import RaceLink.Python.Text

/-! Python values as `json.load` makes them, and what the host does with one:
`bool(x)`, `int(x)`, `d.get(k)`, `dict(x)`, and the way through a file
(`json.dump` turns every key of a dict into a string).

Errors keep the exception class, which `except` clauses tell apart, and for the
errors the host raises itself the text with its arguments. -/
namespace RaceLink.Python

/-- A `float`: a finite one by its value, an infinity or NaN. -/
inductive PyFloat where
  | finite (q : ℚ)
  | inf (negative : Bool)
  | nan
deriving DecidableEq, Repr

/-- A dict key. `json.load` only makes strings; `dict(pairs)` can make the others. -/
inductive Key where
  | str (s : String)
  | null
  | bool (b : Bool)
  | int (n : Int)
  | float (x : PyFloat)
deriving DecidableEq, Repr

inductive Json where
  | null
  | bool (b : Bool)
  | int (n : Int)
  | float (x : PyFloat)
  | str (s : String)
  | arr (items : List Json)
  | obj (fields : List (Key × Json))
deriving Repr

/-- A dict in insertion order. -/
abbrev Dict := List (Key × Json)

/-- The exceptions of the modelled code. The text has a `%r` or `%s` for each
argument, as the f-string it stands for. -/
inductive PyError where
  | valueError (text : String) (args : List Json)
  | runtimeError (text : String) (args : List Json)
  | assertionError (text : String) (args : List Json)
  | typeError
  | overflowError
  | attributeError
  | osError
deriving Repr

namespace Json

mutual
def decEq : (a b : Json) → Decidable (a = b)
  | .null, .null => isTrue rfl
  | .bool a, .bool b => if h : a = b then isTrue (h ▸ rfl) else isFalse fun e => h (by cases e; rfl)
  | .int a, .int b => if h : a = b then isTrue (h ▸ rfl) else isFalse fun e => h (by cases e; rfl)
  | .float a, .float b => if h : a = b then isTrue (h ▸ rfl) else isFalse fun e => h (by cases e; rfl)
  | .str a, .str b => if h : a = b then isTrue (h ▸ rfl) else isFalse fun e => h (by cases e; rfl)
  | .arr a, .arr b =>
    match decEqItems a b with
    | isTrue h => isTrue (h ▸ rfl)
    | isFalse h => isFalse fun e => h (by cases e; rfl)
  | .obj a, .obj b =>
    match decEqFields a b with
    | isTrue h => isTrue (h ▸ rfl)
    | isFalse h => isFalse fun e => h (by cases e; rfl)
  | .null, .bool _ | .null, .int _ | .null, .float _ | .null, .str _ | .null, .arr _
  | .null, .obj _ | .bool _, .null | .bool _, .int _ | .bool _, .float _ | .bool _, .str _
  | .bool _, .arr _ | .bool _, .obj _ | .int _, .null | .int _, .bool _ | .int _, .float _
  | .int _, .str _ | .int _, .arr _ | .int _, .obj _ | .float _, .null | .float _, .bool _
  | .float _, .int _ | .float _, .str _ | .float _, .arr _ | .float _, .obj _ | .str _, .null
  | .str _, .bool _ | .str _, .int _ | .str _, .float _ | .str _, .arr _ | .str _, .obj _
  | .arr _, .null | .arr _, .bool _ | .arr _, .int _ | .arr _, .float _ | .arr _, .str _
  | .arr _, .obj _ | .obj _, .null | .obj _, .bool _ | .obj _, .int _ | .obj _, .float _
  | .obj _, .str _ | .obj _, .arr _ => isFalse fun e => by cases e

def decEqItems : (a b : List Json) → Decidable (a = b)
  | [], [] => isTrue rfl
  | [], _ :: _ => isFalse fun e => by cases e
  | _ :: _, [] => isFalse fun e => by cases e
  | x :: xs, y :: ys =>
    match decEq x y, decEqItems xs ys with
    | isTrue h, isTrue hs => isTrue (h ▸ hs ▸ rfl)
    | isFalse h, _ => isFalse fun e => h (by cases e; rfl)
    | _, isFalse hs => isFalse fun e => hs (by cases e; rfl)

def decEqFields : (a b : List (Key × Json)) → Decidable (a = b)
  | [], [] => isTrue rfl
  | [], _ :: _ => isFalse fun e => by cases e
  | _ :: _, [] => isFalse fun e => by cases e
  | (k, x) :: xs, (l, y) :: ys =>
    if hk : k = l then
      match decEq x y, decEqFields xs ys with
      | isTrue h, isTrue hs => isTrue (hk ▸ h ▸ hs ▸ rfl)
      | isFalse h, _ => isFalse fun e => h (by cases e; rfl)
      | _, isFalse hs => isFalse fun e => hs (by cases e; rfl)
    else isFalse fun e => hk (by cases e; rfl)
end

instance : DecidableEq Json := decEq

end Json

deriving instance DecidableEq for PyError

/-! ### Dicts -/

namespace Dict

/-- `d.get(k)` with `None` told from a missing key. -/
def get? (d : Dict) (k : String) : Option Json := d.lookup (.str k)

@[simp] theorem get?_nil (k : String) : get? [] k = none := rfl

@[simp] theorem get?_cons (l : String) (v : Json) (rest : Dict) (k : String) :
    get? ((.str l, v) :: rest) k = if k = l then some v else get? rest k := by
  by_cases h : k = l
  · simp [get?, h]
  · have hne : (Key.str k == Key.str l) = false := beq_eq_false_iff_ne.mpr (by simpa using h)
    simp [get?, List.lookup_cons, hne, h]

/-- `d.get(k)`: a missing key reads as `None`. -/
def get (d : Dict) (k : String) : Json := (d.get? k).getD .null

/-- `d.get(k, default)`. -/
def getD (d : Dict) (k : String) (default : Json) : Json := (d.get? k).getD default

/-- `k in d`. -/
def has (d : Dict) (k : String) : Bool := (d.get? k).isSome

/-- The integer a key compares equal to, as in `1 == True == 1.0`. -/
def number? : Key → Option ℚ
  | .bool b => some (if b then 1 else 0)
  | .int n => some n
  | .float (.finite q) => some q
  | _ => none

/-- `==` between keys. -/
def sameKey (k l : Key) : Bool :=
  match number? k, number? l with
  | some q, some r => q == r
  | none, none => k == l && k != .float .nan
  | _, _ => false

/-- `d[k] = v`: an existing key keeps its place. -/
def set (d : Dict) (k : Key) (v : Json) : Dict :=
  match d with
  | [] => [(k, v)]
  | (l, w) :: rest => if sameKey l k then (l, v) :: rest else (l, w) :: set rest k v

/-- A dict of pairs in the order they come; a repeated key takes the last value. -/
def ofPairs (pairs : List (Key × Json)) : Dict := pairs.foldl (fun d e => d.set e.1 e.2) []

/-- Every key is a string, as `json.load` makes them. -/
def StrKeys (d : Dict) : Prop := ∀ e ∈ d, ∃ s, e.1 = .str s

theorem sameKey_str (k : Key) (s : String) : sameKey k (.str s) = true ↔ k = .str s := by
  cases k with
  | float x => cases x <;> simp [sameKey, number?]
  | _ => simp [sameKey, number?]

theorem set_strKeys {d : Dict} (hd : d.StrKeys) (s : String) (v : Json) :
    (d.set (.str s) v).StrKeys := by
  induction d with
  | nil => simp [set, StrKeys]
  | cons e rest ih =>
    have hrest : Dict.StrKeys rest := fun f hf => hd f (List.mem_cons_of_mem _ hf)
    have he : ∃ t, e.1 = .str t := hd e (List.mem_cons_self ..)
    unfold set
    split <;> intro f hf <;> rcases List.mem_cons.mp hf with rfl | hf
    · exact he
    · exact hrest f hf
    · exact he
    · exact ih hrest f hf

theorem mem_keys_set {d : Dict} {s : String} {v : Json} {k : Key}
    (h : k ∈ (d.set (.str s) v).map Prod.fst) : k = .str s ∨ k ∈ d.map Prod.fst := by
  induction d with
  | nil => simpa [set] using h
  | cons e rest ih =>
    unfold set at h
    split at h
    · exact .inr h
    · rcases List.mem_cons.mp h with h | h
      · exact .inr (List.mem_cons.mpr (.inl h))
      · exact (ih h).imp_right (List.mem_cons_of_mem _)

theorem set_nodup {d : Dict} (hd : (d.map Prod.fst).Nodup) (s : String) (v : Json) :
    ((d.set (.str s) v).map Prod.fst).Nodup := by
  induction d with
  | nil => simp [set]
  | cons e rest ih =>
    obtain ⟨he, hrest⟩ := List.nodup_cons.mp hd
    unfold set
    split
    case isTrue => exact hd
    case isFalse hne =>
      refine List.nodup_cons.mpr ⟨fun hmem => ?_, ih hrest⟩
      rcases mem_keys_set hmem with h | h
      · exact hne ((sameKey_str _ _).mpr h)
      · exact he h

theorem set_of_not_mem {d : Dict} {s : String} (h : .str s ∉ d.map Prod.fst) (v : Json) :
    d.set (.str s) v = d ++ [(.str s, v)] := by
  induction d with
  | nil => rfl
  | cons e rest ih =>
    have he : sameKey e.1 (.str s) ≠ true := fun heq =>
      h (List.mem_cons.mpr (.inl ((sameKey_str _ _).mp heq).symm))
    have hrest := ih fun hmem => h (List.mem_cons_of_mem _ hmem)
    simp [set, he, hrest]

theorem foldl_set_nodup {pairs : List (Key × Json)} (hp : StrKeys pairs) {d : Dict}
    (hd : (d.map Prod.fst).Nodup) :
    ((pairs.foldl (fun d e => d.set e.1 e.2) d).map Prod.fst).Nodup := by
  induction pairs generalizing d with
  | nil => exact hd
  | cons e rest ih =>
    obtain ⟨k, v⟩ := e
    obtain ⟨s, rfl⟩ : ∃ s, k = .str s := hp (k, v) (List.mem_cons_self ..)
    exact ih (fun f hf => hp f (List.mem_cons_of_mem _ hf)) (set_nodup hd s v)

theorem foldl_set_strKeys {pairs : List (Key × Json)} (hp : StrKeys pairs) {d : Dict}
    (hd : d.StrKeys) : StrKeys (pairs.foldl (fun d e => d.set e.1 e.2) d) := by
  induction pairs generalizing d with
  | nil => exact hd
  | cons e rest ih =>
    obtain ⟨k, v⟩ := e
    obtain ⟨s, rfl⟩ : ∃ s, k = .str s := hp (k, v) (List.mem_cons_self ..)
    exact ih (fun f hf => hp f (List.mem_cons_of_mem _ hf)) (set_strKeys hd s v)

theorem foldl_set_of_nodup {pairs : List (Key × Json)} (hp : StrKeys pairs) {d : Dict}
    (h : ((d ++ pairs).map Prod.fst).Nodup) :
    pairs.foldl (fun d e => d.set e.1 e.2) d = d ++ pairs := by
  induction pairs generalizing d with
  | nil => simp
  | cons e rest ih =>
    obtain ⟨s, hs⟩ := hp e (List.mem_cons_self ..)
    have hfresh : Key.str s ∉ d.map Prod.fst := fun hmem => by
      rw [List.map_append, List.map_cons, hs] at h
      exact (List.nodup_append.mp h).2.2 _ hmem _ (List.mem_cons_self ..) rfl
    have hset : d.set e.1 e.2 = d ++ [e] := by
      rw [hs, set_of_not_mem hfresh, ← hs]
    rw [List.foldl_cons, hset, ih fun f hf => hp f (List.mem_cons_of_mem _ hf)]
    · simp
    · simpa using h

theorem get?_set (d : Dict) (k l : String) (v : Json) :
    get? (d.set (.str k) v) l = if l = k then some v else d.get? l := by
  induction d with
  | nil => exact get?_cons k v [] l
  | cons e rest ih =>
    obtain ⟨m, w⟩ := e
    rw [set]
    by_cases hm : m = .str k
    · rw [if_pos ((sameKey_str m k).mpr hm), hm, get?_cons, get?_cons]
      split <;> rfl
    · rw [if_neg (mt (sameKey_str m k).mp hm)]
      by_cases hl : Key.str l = m
      · subst hl
        rw [get?_cons, get?_cons, if_pos rfl, if_pos rfl, if_neg fun h => hm (congrArg Key.str h)]
      · have hcons : ∀ tail : Dict, get? ((m, w) :: tail) l = get? tail l := fun tail => by
          have hne : (Key.str l == m) = false := beq_eq_false_iff_ne.mpr hl
          rw [get?, List.lookup_cons, hne]
          rfl
        rw [hcons, hcons, ih]

/-- `d.pop(k, None)`: what is left. -/
def pop (d : Dict) (k : String) : Dict := d.filter fun e => e.1 != .str k

theorem get?_pop (d : Dict) (k l : String) : get? (d.pop k) l = if l = k then none else d.get? l := by
  induction d with
  | nil => simp [pop]
  | cons e rest ih =>
    obtain ⟨m, w⟩ := e
    have hcons : ∀ tail : Dict, get? ((m, w) :: tail) l = if Key.str l = m then some w else get? tail l := by
      intro tail
      by_cases hl : Key.str l = m
      · simp [get?, hl]
      · have hne : (Key.str l == m) = false := beq_eq_false_iff_ne.mpr hl
        simp [get?, List.lookup_cons, hne, hl]
    by_cases hm : m = .str k
    · have hpop : pop ((m, w) :: rest) k = pop rest k := by simp [pop, hm]
      rw [hpop, ih, hcons, hm]
      by_cases hl : l = k <;> simp [hl]
    · have hpop : pop ((m, w) :: rest) k = (m, w) :: pop rest k := by simp [pop, hm]
      rw [hpop, hcons, hcons, ih]
      by_cases hl : Key.str l = m
      · have hlk : l ≠ k := fun h => hm (by rw [← hl, h])
        rw [if_pos hl, if_neg hlk, if_pos hl]
      · rw [if_neg hl, if_neg hl]

theorem ofPairs_nodup {pairs : List (Key × Json)} (hp : StrKeys pairs) :
    ((ofPairs pairs).map Prod.fst).Nodup := foldl_set_nodup hp (d := []) List.nodup_nil

/-- A dict with string keys is one that its own pairs make. -/
theorem ofPairs_eq_self {d : Dict} (hd : d.StrKeys) :
    ofPairs d = d ↔ (d.map Prod.fst).Nodup := by
  constructor
  · intro h
    rw [← h]
    exact ofPairs_nodup hd
  · intro h
    exact foldl_set_of_nodup hd h

end Dict

/-- A dict literal. -/
def dict (fields : List (String × Json)) : Json := .obj (fields.map fun e => (.str e.1, e.2))

namespace Json

/-- `x.get(k)`, which only a dict has. -/
def attrGet (x : Json) (k : String) : Except PyError Json :=
  match x with
  | .obj fields => .ok (Dict.get fields k)
  | _ => .error .attributeError

/-- `bool(x)`. -/
def truthy : Json → Bool
  | .null => false
  | .bool b => b
  | .int n => n != 0
  | .float (.finite q) => q != 0
  | .float _ => true
  | .str s => s != ""
  | .arr items => !items.isEmpty
  | .obj fields => !fields.isEmpty

/-- `x or y`. -/
def orElse (x y : Json) : Json := if x.truthy then x else y

/-- `x == n` for an integer `n`. -/
def eqInt (x : Json) (n : Int) : Bool :=
  match x with
  | .bool b => (if b then 1 else 0) == n
  | .int m => m == n
  | .float (.finite q) => q == n
  | _ => false

/-- `int(x)`. Floats are cut towards zero. -/
def toInt : Json → Except PyError Int
  | .bool b => .ok (if b then 1 else 0)
  | .int n => .ok n
  | .float (.finite q) => .ok (q.num.tdiv q.den)
  | .float (.inf _) => .error .overflowError
  | .float .nan => .error (.valueError "cannot convert float NaN to integer" [])
  | .str s =>
    match intOfStr s with
    | some n => .ok n
    | none => .error (.valueError "invalid literal for int() with base 10: %r" [.str s])
  | _ => .error .typeError

/-- `int(x)` under `except (TypeError, ValueError)`, which raises `err` instead. -/
def toIntOr (err : PyError) (x : Json) : Except PyError Int :=
  match x.toInt with
  | .ok n => .ok n
  | .error .overflowError => .error .overflowError
  | .error _ => .error err

/-- A dict key made of a value; lists and dicts are not hashable. -/
def toKey : Json → Except PyError Key
  | .null => .ok .null
  | .bool b => .ok (.bool b)
  | .int n => .ok (.int n)
  | .float x => .ok (.float x)
  | .str s => .ok (.str s)
  | _ => .error .typeError

/-- A key seen as a value again, when a dict is iterated over. -/
def ofKey : Key → Json
  | .str s => .str s
  | .null => .null
  | .bool b => .bool b
  | .int n => .int n
  | .float x => .float x

/-- `list(x)`: the elements of a list, the characters of a string, the keys of a dict. -/
def toList : Json → Except PyError (List Json)
  | .arr items => .ok items
  | .str s => .ok (s.toList.map fun c => .str (String.singleton c))
  | .obj fields => .ok (fields.map fun e => ofKey e.1)
  | _ => .error .typeError

/-- The two halves of an element of the argument of `dict`. -/
def toPair (x : Json) : Except PyError (Json × Json) := do
  match ← x.toList with
  | [k, v] => .ok (k, v)
  | _ => .error (.valueError "dictionary update sequence element has the wrong length" [])

def dictOfPairs (d : Dict) : List Json → Except PyError Dict
  | [] => .ok d
  | x :: rest => do
    let (k, v) ← x.toPair
    dictOfPairs (d.set (← k.toKey) v) rest

/-- `dict(x)`: a copy of a dict, or a dict of an iterable of pairs. -/
def toDict : Json → Except PyError Dict
  | .obj fields => .ok fields
  | x => do dictOfPairs [] (← x.toList)

/-! ### Through a file -/

section File
variable (keyText : Key → String)

/-- The string `json.dump` writes for a key; `keyText` writes the keys that are none. -/
def dumpKey : Key → Key
  | .str s => .str s
  | k => .str (keyText k)

mutual
/-- What `json.load` reads back after `json.dump` wrote the value. -/
def dump : Json → Json
  | .arr items => .arr (dumpItems items)
  | .obj fields => .obj (Dict.ofPairs (dumpFields fields))
  | x => x

def dumpItems : List Json → List Json
  | [] => []
  | x :: rest => dump x :: dumpItems rest

def dumpFields : List (Key × Json) → List (Key × Json)
  | [] => []
  | (k, x) :: rest => (dumpKey keyText k, dump x) :: dumpFields rest
end

end File

mutual
/-- Every dict of the value has string keys only, which a file keeps as they are. -/
def Textual : Json → Prop
  | .arr items => TextualItems items
  | .obj fields => (fields.map Prod.fst).Nodup ∧ TextualFields fields
  | _ => True

def TextualItems : List Json → Prop
  | [] => True
  | x :: rest => Textual x ∧ TextualItems rest

def TextualFields : List (Key × Json) → Prop
  | [] => True
  | (k, x) :: rest => (∃ s, k = .str s) ∧ Textual x ∧ TextualFields rest
end

theorem dumpKey_eq_self (keyText : Key → String) (k : Key) :
    dumpKey keyText k = k ↔ ∃ s, k = .str s := by
  cases k <;> simp [dumpKey]

theorem dumpFields_strKeys (keyText : Key → String) (fields : List (Key × Json)) :
    Dict.StrKeys (dumpFields keyText fields) := by
  induction fields with
  | nil => simp [dumpFields, Dict.StrKeys]
  | cons e rest ih =>
    intro f hf
    rcases List.mem_cons.mp hf with rfl | hf
    · cases e.1 <;> simp [dumpKey]
    · exact ih f hf

/-- What comes back has string keys, so it has the keys that went in only if these were strings. -/
theorem dumpFields_of_strKeys (keyText : Key → String) {fields : List (Key × Json)}
    (h : Dict.StrKeys fields) :
    (dumpFields keyText fields).map Prod.fst = fields.map Prod.fst := by
  induction fields with
  | nil => rfl
  | cons e rest ih =>
    have he : dumpKey keyText e.1 = e.1 := (dumpKey_eq_self _ _).mpr (h e (List.mem_cons_self ..))
    have hrest := ih fun f hf => h f (List.mem_cons_of_mem _ hf)
    simp [dumpFields, he, hrest]

theorem ofPairs_dumpFields (keyText : Key → String) (fields : List (Key × Json)) :
    Dict.ofPairs (dumpFields keyText fields) = fields ↔
      (fields.map Prod.fst).Nodup ∧ dumpFields keyText fields = fields := by
  have hstr := dumpFields_strKeys keyText fields
  constructor
  · intro h
    have hfields : Dict.StrKeys fields := by
      rw [← h]
      exact Dict.foldl_set_strKeys hstr (by simp [Dict.StrKeys])
    have hnodup : (fields.map Prod.fst).Nodup := by
      rw [← h]
      exact Dict.ofPairs_nodup hstr
    refine ⟨hnodup, ?_⟩
    rw [← dumpFields_of_strKeys keyText hfields] at hnodup
    rw [← (Dict.ofPairs_eq_self hstr).mpr hnodup, h]
  · rintro ⟨hnodup, h⟩
    rw [h] at hstr ⊢
    exact (Dict.ofPairs_eq_self hstr).mpr hnodup

mutual
/-- A value comes back from the file as it was exactly when its keys are strings. -/
theorem dump_eq_self (keyText : Key → String) : (x : Json) → (dump keyText x = x ↔ x.Textual)
  | .arr items => by simp [dump, Textual, dumpItems_eq_self keyText items]
  | .obj fields => by
    simp [dump, Textual, ofPairs_dumpFields, dumpFields_eq_self keyText fields]
  | .null | .bool _ | .int _ | .float _ | .str _ => by simp [dump, Textual]

theorem dumpItems_eq_self (keyText : Key → String) :
    (items : List Json) → (dumpItems keyText items = items ↔ TextualItems items)
  | [] => by simp [dumpItems, TextualItems]
  | x :: rest => by
    simp [dumpItems, TextualItems, dump_eq_self keyText x, dumpItems_eq_self keyText rest]

theorem dumpFields_eq_self (keyText : Key → String) :
    (fields : List (Key × Json)) → (dumpFields keyText fields = fields ↔ TextualFields fields)
  | [] => by simp [dumpFields, TextualFields]
  | (k, x) :: rest => by
    simp [dumpFields, TextualFields, dumpKey_eq_self, dump_eq_self keyText x,
      dumpFields_eq_self keyText rest, and_assoc]
end

theorem dumpFields_strs (keyText : Key → String) (fields : List (String × Json)) :
    dumpFields keyText (fields.map fun e => (.str e.1, e.2)) =
      fields.map fun e => (.str e.1, dump keyText e.2) := by
  induction fields with
  | nil => rfl
  | cons e rest ih => simp [dumpFields, dumpKey, ih]

/-- A dict literal comes back with its fields as they come back. -/
theorem dump_dict (keyText : Key → String) {fields : List (String × Json)}
    (h : (fields.map Prod.fst).Nodup) :
    dump keyText (dict fields) = dict (fields.map fun e => (e.1, dump keyText e.2)) := by
  have hstr : Dict.StrKeys (fields.map fun e => (Key.str e.1, dump keyText e.2)) := by
    intro e he
    obtain ⟨f, -, rfl⟩ := List.mem_map.mp he
    exact ⟨f.1, rfl⟩
  have hnodup : ((fields.map fun e => (Key.str e.1, dump keyText e.2)).map Prod.fst).Nodup := by
    have hkeys := List.Nodup.map (f := Key.str) (fun _ _ => Key.str.inj) h
    simpa [Function.comp_def] using hkeys
  rw [dict, dump, dumpFields_strs, (Dict.ofPairs_eq_self hstr).mpr hnodup, dict, List.map_map]
  rfl

theorem dumpItems_eq_map (keyText : Key → String) (items : List Json) :
    dumpItems keyText items = items.map (dump keyText) := by
  induction items with
  | nil => rfl
  | cons x rest ih => rw [dumpItems, ih, List.map_cons]

theorem dump_arr (keyText : Key → String) (items : List Json) :
    dump keyText (.arr items) = .arr (items.map (dump keyText)) := by
  rw [dump, dumpItems_eq_map]

theorem textualFields_iff (fields : List (Key × Json)) :
    TextualFields fields ↔ ∀ e ∈ fields, (∃ s, e.1 = .str s) ∧ e.2.Textual := by
  induction fields with
  | nil => simp [TextualFields]
  | cons e rest ih =>
    obtain ⟨k, x⟩ := e
    simp [TextualFields, ih, and_assoc]

/-- An update of a dict brings in nothing but its own entry. -/
theorem mem_set {d : Dict} {k : Key} {v : Json} {e : Key × Json} (h : e ∈ d.set k v) :
    e = (k, v) ∨ (e.1 ∈ d.map Prod.fst ∧ e.2 = v) ∨ e ∈ d := by
  induction d with
  | nil => exact .inl (List.mem_singleton.mp h)
  | cons first rest ih =>
    unfold Dict.set at h
    split at h
    · rcases List.mem_cons.mp h with rfl | h
      · exact .inr (.inl ⟨List.mem_cons_self .., rfl⟩)
      · exact .inr (.inr (List.mem_cons_of_mem _ h))
    · rcases List.mem_cons.mp h with rfl | h
      · exact .inr (.inr (List.mem_cons_self ..))
      · rcases ih h with heq | ⟨hkey, hvalue⟩ | hmem
        · exact .inl heq
        · exact .inr (.inl ⟨List.mem_cons_of_mem _ hkey, hvalue⟩)
        · exact .inr (.inr (List.mem_cons_of_mem _ hmem))

theorem textualFields_set {d : Dict} {s : String} {v : Json} (hd : TextualFields d) (hv : v.Textual) :
    TextualFields (d.set (.str s) v) := by
  rw [textualFields_iff] at hd ⊢
  intro e he
  rcases mem_set he with rfl | ⟨hkey, hvalue⟩ | hmem
  · exact ⟨⟨s, rfl⟩, hv⟩
  · obtain ⟨e', he', hfst⟩ := List.mem_map.mp hkey
    exact ⟨hfst ▸ (hd e' he').1, hvalue ▸ hv⟩
  · exact hd e hmem

theorem textualFields_ofPairs {pairs : List (Key × Json)} (h : TextualFields pairs) :
    TextualFields (Dict.ofPairs pairs) := by
  have hfold : ∀ (pairs : List (Key × Json)) (d : Dict), TextualFields pairs → TextualFields d →
      TextualFields (pairs.foldl (fun d e => Dict.set d e.1 e.2) d) := by
    intro pairs
    induction pairs with
    | nil => exact fun d _ hd => hd
    | cons e rest ih =>
      intro d h hd
      obtain ⟨k, v⟩ := e
      obtain ⟨⟨s, rfl⟩, hv, hrest⟩ := h
      exact ih _ hrest (textualFields_set hd hv)
  exact hfold pairs [] h trivial

mutual
/-- What a file gives back has string keys only. -/
theorem dump_textual (keyText : Key → String) : (x : Json) → (dump keyText x).Textual
  | .arr items => dumpItems_textual keyText items
  | .obj fields =>
    ⟨Dict.ofPairs_nodup (dumpFields_strKeys keyText fields),
      textualFields_ofPairs (dumpFields_textual keyText fields)⟩
  | .null | .bool _ | .int _ | .float _ | .str _ => trivial

theorem dumpItems_textual (keyText : Key → String) :
    (items : List Json) → TextualItems (dumpItems keyText items)
  | [] => trivial
  | x :: rest => ⟨dump_textual keyText x, dumpItems_textual keyText rest⟩

theorem dumpFields_textual (keyText : Key → String) :
    (fields : List (Key × Json)) → TextualFields (dumpFields keyText fields)
  | [] => trivial
  | (k, x) :: rest => ⟨by cases k <;> exact ⟨_, rfl⟩, dump_textual keyText x, dumpFields_textual keyText rest⟩
end

/-- The second time a file changes nothing. -/
theorem dump_dump (keyText : Key → String) (x : Json) : (x.dump keyText).dump keyText = x.dump keyText :=
  (dump_eq_self keyText _).mpr (dump_textual keyText x)

end Json

end RaceLink.Python
