import RaceLink.Library.Except
import RaceLink.Python.Value

/-! The values of device options (`services/specials_service.py`): checked as they come from the browser, packed
into the four data bytes of an OPC_CONFIG, read back from these, and kept among the specials of the device.

The specials hold 16 bits of a number. That is as wide as an option of the schema gets, but not as wide as the
packer goes. -/
namespace RaceLink.Web
open Python Library

/-! ### Options -/

structure OptionField where
  name : String
  min : Option Int
  max : Option Int
deriving DecidableEq, Repr

/-- An entry of the schema, by what these functions read. -/
structure OptionInfo where
  key : String
  shape : Option String := none
  bytes : Option Int := none
  min : Option Int := none
  max : Option Int := none
  fields : List OptionField := []
deriving DecidableEq, Repr

/-- An exception of `PyError`, or a `KeyError`. -/
inductive OptionError where
  | raised (e : PyError)
  | keyError (name : String)
deriving DecidableEq, Repr

namespace OptionInfo

def isPair (o : OptionInfo) : Bool := o.shape = some "uint16-pair"

/-- `int(option_info.get("bytes", 1) or 1)`. -/
def width (o : OptionInfo) : Int :=
  match o.bytes with
  | none => 1
  | some n => if n = 0 then 1 else n

end OptionInfo

/-! ### The check -/

/-- The bounds, each if it is given; the texts name what is checked. -/
def checkBounds (what : String) (min max : Option Int) (n : Int) : Except PyError Unit :=
  match min.filter (n < ·), max.filter (n > ·) with
  | some lo, _ => .error (.valueError "%s must be >= %s" [.str what, .int lo])
  | none, some hi => .error (.valueError "%s must be <= %s" [.str what, .int hi])
  | none, none => .ok ()

def checkField (value : Dict) (field : OptionField) : Except PyError Unit :=
  if field.name = "" then .ok ()
  else match value.get? field.name with
    | none => .error (.valueError "missing field %r" [.str field.name])
    | some raw => do
      let sub ← raw.toIntOr (.valueError "invalid value for %r" [.str field.name])
      checkBounds field.name field.min field.max sub

/-- `validate_option_value`. -/
def validateOptionValue (o : OptionInfo) (value : Json) : Except PyError Unit :=
  if o.isPair then
    match value with
    | .obj value => o.fields.forM (checkField value)
    | _ => .error (.valueError "value must be an object with start/stop" [])
  else do
    let n ← value.toIntOr (.valueError "value must be an integer" [])
    checkBounds "value" o.min o.max n

/-! ### The data bytes -/

/-- `int(value[name])`. -/
def intField (value : Dict) (name : String) : Except OptionError Int :=
  match value.get? name with
  | none => .error (.keyError name)
  | some raw => raw.toInt.mapError .raised

/-- `pack_option_value`. -/
def packOptionValue (o : OptionInfo) (value : Json) : Except OptionError (Int × Int × Int × Int) :=
  if o.isPair then
    match o.fields, value with
    | [first, second], .obj value => do
      let a := (← intField value first.name) % 65536
      let b := (← intField value second.name) % 65536
      return (a % 256, a / 256 % 256, b % 256, b / 256 % 256)
    | _, _ => .error (.raised (.valueError "uint16-pair requires \x7bstart, stop\x7d" []))
  else do
    let n ← (value.toIntOr (.valueError "value must be an integer" [])).mapError .raised
    if o.width = 1 then return (n % 256, 0, 0, 0)
    else if o.width = 2 then return (n % 256, n / 256 % 256, 0, 0)
    else return (n % 256, n / 256 % 256, n / 65536 % 256, n / 16777216 % 256)

/-- `unpack_option_value`. The bytes do not overlap, so `|` is `+`. -/
def unpackOptionValue (o : OptionInfo) (data0 data1 data2 data3 : Int) : Except OptionError Json :=
  let low := data0 % 256 + data1 % 256 * 256
  if o.isPair then
    match o.fields with
    | [first, second] =>
      let b := data2 % 256 + data3 % 256 * 256
      .ok (.obj (Dict.ofPairs [(.str first.name, .int low), (.str second.name, .int b)]))
    | _ => .error (.raised (.valueError "uint16-pair requires exactly two fields" []))
  else if o.width = 1 then .ok (.int (data0 % 256))
  else if o.width = 2 then .ok (.int low)
  else .ok (.int (low + data2 % 256 * 65536 + data3 % 256 * 16777216))

/-! ### The specials -/

def flatKey (key name : String) : String := key ++ "_" ++ name

/-- `specials_keys_for_option`. -/
def specialsKeysForOption (o : OptionInfo) : List String :=
  if o.key = "" then []
  else if o.isPair then (o.fields.filter fun f => f.name ≠ "").map fun f => flatKey o.key f.name
  else [o.key]

/-- The loop of `write_specials` over the fields of a pair: what was written before a field raises stays. -/
def writeFields (key : String) (value : Json) : List OptionField → List String → Dict →
    Except OptionError (List String) × Dict
  | [], written, specials => (.ok written, specials)
  | field :: rest, written, specials =>
    if field.name = "" then writeFields key value rest written specials
    else
      let sub := match value with
        | .obj value => intField value field.name
        | _ => .error (.raised .typeError)
      match sub with
      | .error e => (.error e, specials)
      | .ok n =>
        writeFields key value rest (written ++ [flatKey key field.name])
          (specials.set (.str (flatKey key field.name)) (.int (n % 65536)))

/-- `write_specials`: the keys it wrote, and the specials then. -/
def writeSpecials (specials : Dict) (o : OptionInfo) (value : Json) : Except OptionError (List String) × Dict :=
  if o.isPair then writeFields o.key value o.fields [] specials
  else if o.key = "" then (.ok [], specials)
  else match value.toInt with
    | .error e => (.error (.raised e), specials)
    | .ok n => (.ok [o.key], specials.set (.str o.key) (.int (n % 65536)))

/-- The loop of `stored_value_from_specials` over the fields of a pair. -/
def storedFields (key : String) (specials : Dict) : List OptionField → Dict → Option Dict
  | [], out => some out
  | field :: rest, out =>
    if field.name = "" then storedFields key specials rest out
    else match (specials.get? (flatKey key field.name)).map Json.toInt with
      | some (.ok n) => storedFields key specials rest (out.set (.str field.name) (.int n))
      | _ => none

/-- `stored_value_from_specials`. -/
def storedValueFromSpecials (o : OptionInfo) (specials : Dict) : Option Json :=
  if o.isPair then (storedFields o.key specials o.fields []).map .obj
  else if o.key = "" then none
  else match (specials.get? o.key).map Json.toInt with
    | some (.ok n) => some (.int n)
    | _ => none

/-! ### Layouts -/

/-- Bounds within the numbers below a capacity. -/
def Bounded (min max : Option Int) (capacity : Int) : Prop := ∃ lo hi, min = some lo ∧ max = some hi ∧ 0 ≤ lo ∧ hi < capacity

/-- How many values the data bytes of a number can tell apart. -/
def capacity (o : OptionInfo) : Int := if o.width = 1 then 256 else if o.width = 2 then 65536 else 4294967296

/-- An option with a key whose bounds fit its layout: a number, or a pair of named numbers. -/
structure Fits (o : OptionInfo) : Prop where
  key : o.key ≠ ""
  number : o.isPair = false → Bounded o.min o.max (capacity o)
  pair : o.isPair = true → ∃ first second, o.fields = [first, second] ∧
    ∀ f ∈ o.fields, f.name ≠ "" ∧ Bounded f.min f.max 65536

/-- A number of more than two bytes. -/
def Wide (o : OptionInfo) : Prop := o.isPair = false ∧ o.width ≠ 1 ∧ o.width ≠ 2

/-- The value with integers for what `int` reads as such. -/
def coercedValue (o : OptionInfo) (value : Json) : Option Json :=
  if o.isPair then
    match o.fields, value with
    | [first, second], .obj value => do
      let a ← (intField value first.name).toOption
      let b ← (intField value second.name).toOption
      return .obj (Dict.ofPairs [(.str first.name, .int a), (.str second.name, .int b)])
    | _, _ => none
  else value.toInt.toOption.map .int

/-! ### Accepted values -/

theorem checkBounds_ok {what : String} {min max : Option Int} {n : Int} :
    checkBounds what min max n = .ok () ↔ (∀ lo ∈ min, lo ≤ n) ∧ ∀ hi ∈ max, n ≤ hi := by
  unfold checkBounds
  have hlow : min.filter (n < ·) = none ↔ ∀ lo ∈ min, lo ≤ n := by
    rw [Option.filter_eq_none_iff]
    simp
  have hhigh : max.filter (n > ·) = none ↔ ∀ hi ∈ max, n ≤ hi := by
    rw [Option.filter_eq_none_iff]
    simp
  rw [← hlow, ← hhigh]
  cases min.filter (n < ·) <;> cases max.filter (n > ·) <;> simp

theorem Bounded.holds {what : String} {min max : Option Int} {capacity n : Int} (h : Bounded min max capacity)
    (hn : checkBounds what min max n = .ok ()) : 0 ≤ n ∧ n < capacity := by
  obtain ⟨lo, hi, rfl, rfl, hlo, hhi⟩ := h
  obtain ⟨hle, hge⟩ := checkBounds_ok.mp hn
  have hlow := hle lo rfl
  have hhigh := hge hi rfl
  omega

theorem toIntOr_ok {e : PyError} {value : Json} {n : Int} : value.toIntOr e = .ok n ↔ value.toInt = .ok n := by
  unfold Json.toIntOr
  cases value.toInt with
  | ok m => rfl
  | error err => cases err <;> simp

/-- A field that passes its check reads as a number within its bounds. -/
theorem checkField_ok {value : Dict} {field : OptionField} (hname : field.name ≠ "") (hbounds : Bounded field.min field.max 65536)
    (h : checkField value field = .ok ()) : ∃ n, intField value field.name = .ok n ∧ 0 ≤ n ∧ n < 65536 := by
  rw [checkField, if_neg hname] at h
  unfold intField
  cases hraw : value.get? field.name with
  | none =>
    rw [hraw] at h
    cases h
  | some raw =>
    rw [hraw] at h
    obtain ⟨n, hn, hchecked⟩ := bind_ok.mp h
    refine ⟨n, ?_, hbounds.holds hchecked⟩
    show raw.toInt.mapError _ = _
    rw [toIntOr_ok.mp hn]
    rfl

/-- A pair that is accepted is a dict with a number for each of the two fields. -/
theorem pair_accepted {o : OptionInfo} (hfits : Fits o) (hpair : o.isPair = true) {value : Json}
    (h : validateOptionValue o value = .ok ()) :
    ∃ first second fields a b, o.fields = [first, second] ∧ first.name ≠ "" ∧ second.name ≠ "" ∧ value = .obj fields ∧
      intField fields first.name = .ok a ∧ intField fields second.name = .ok b ∧
      (0 ≤ a ∧ a < 65536) ∧ 0 ≤ b ∧ b < 65536 := by
  obtain ⟨first, second, hfields, hall⟩ := hfits.pair hpair
  rw [hfields] at hall
  obtain ⟨hfirst, hsecond⟩ : (first.name ≠ "" ∧ Bounded first.min first.max 65536) ∧
      second.name ≠ "" ∧ Bounded second.min second.max 65536 := by
    simpa using hall
  unfold validateOptionValue at h
  rw [if_pos hpair] at h
  split at h
  · next fields =>
    rw [hfields] at h
    obtain ⟨⟨⟩, hcheck, h⟩ := bind_ok.mp h
    obtain ⟨⟨⟩, hcheck', _⟩ := bind_ok.mp h
    obtain ⟨a, ha, harange⟩ := checkField_ok hfirst.1 hfirst.2 hcheck
    obtain ⟨b, hb, hbrange⟩ := checkField_ok hsecond.1 hsecond.2 hcheck'
    exact ⟨first, second, fields, a, b, hfields, hfirst.1, hsecond.1, rfl, ha, hb, harange, hbrange⟩
  · cases h

/-- A number that is accepted is one within the capacity. -/
theorem number_accepted {o : OptionInfo} (hfits : Fits o) (hpair : o.isPair = false) {value : Json}
    (h : validateOptionValue o value = .ok ()) : ∃ n, value.toInt = .ok n ∧ 0 ≤ n ∧ n < capacity o := by
  simp only [validateOptionValue, hpair, Bool.false_eq_true, if_false] at h
  obtain ⟨n, hn, hchecked⟩ := bind_ok.mp h
  exact ⟨n, toIntOr_ok.mp hn, (hfits.number hpair).holds hchecked⟩

/-! ### There and back -/

/-- The four bytes of a packed value. -/
def Bytewise (data : Int × Int × Int × Int) : Prop :=
  (0 ≤ data.1 ∧ data.1 ≤ 255) ∧ (0 ≤ data.2.1 ∧ data.2.1 ≤ 255) ∧ (0 ≤ data.2.2.1 ∧ data.2.2.1 ≤ 255) ∧
    0 ≤ data.2.2.2 ∧ data.2.2.2 ≤ 255

theorem packOptionValue_bytes {o : OptionInfo} {value : Json} {data : Int × Int × Int × Int}
    (h : packOptionValue o value = .ok data) : Bytewise data := by
  unfold packOptionValue at h
  split at h
  · split at h
    · obtain ⟨a, _, h⟩ := bind_ok.mp h
      obtain ⟨b, _, h⟩ := bind_ok.mp h
      obtain rfl := Except.ok.inj h
      simp only [Bytewise]
      omega
    · cases h
  · obtain ⟨n, _, h⟩ := bind_ok.mp h
    split at h
    · obtain rfl := Except.ok.inj h
      simp only [Bytewise]
      omega
    · split at h
      · obtain rfl := Except.ok.inj h
        simp only [Bytewise]
        omega
      · obtain rfl := Except.ok.inj h
        simp only [Bytewise]
        omega

/-- An accepted value is unpacked from its bytes as the integers it reads as. -/
theorem unpack_packOptionValue {o : OptionInfo} (hfits : Fits o) {value : Json} (h : validateOptionValue o value = .ok ()) :
    ∃ v data, coercedValue o value = some v ∧ packOptionValue o value = .ok data ∧
      unpackOptionValue o data.1 data.2.1 data.2.2.1 data.2.2.2 = .ok v := by
  cases hpair : o.isPair with
  | true =>
    obtain ⟨first, second, fields, a, b, hfields, _, _, rfl, ha, hb, harange, hbrange⟩ := pair_accepted hfits hpair h
    refine ⟨.obj (Dict.ofPairs [(.str first.name, .int a), (.str second.name, .int b)]),
      (a % 65536 % 256, a % 65536 / 256 % 256, b % 65536 % 256, b % 65536 / 256 % 256), ?_, ?_, ?_⟩
    · simp [coercedValue, hpair, hfields, ha, hb, Except.toOption]
    · simp [packOptionValue, hpair, hfields, ha, hb]
    · have hlow : a % 65536 % 256 % 256 + a % 65536 / 256 % 256 % 256 * 256 = a := by omega
      have hhigh : b % 65536 % 256 % 256 + b % 65536 / 256 % 256 % 256 * 256 = b := by omega
      simp only [unpackOptionValue, hpair, hfields, if_true, hlow, hhigh]
  | false =>
    obtain ⟨n, hn, hrange⟩ := number_accepted hfits hpair h
    have hread : value.toIntOr (.valueError "value must be an integer" []) = .ok n := toIntOr_ok.mpr hn
    have hcoerced : coercedValue o value = some (.int n) := by
      simp [coercedValue, hpair, hn, Except.toOption]
    refine ⟨.int n, ?_⟩
    unfold packOptionValue unpackOptionValue
    simp only [hcoerced, hpair, hread, Bool.false_eq_true, if_false, Except.mapError, ok_bind, true_and]
    unfold capacity at hrange
    by_cases hone : o.width = 1
    · refine ⟨(n % 256, 0, 0, 0), if_pos hone, ?_⟩
      rw [if_pos hone] at hrange ⊢
      rw [show n % 256 % 256 = n by omega]
    · by_cases htwo : o.width = 2
      · refine ⟨(n % 256, n / 256 % 256, 0, 0), by rw [if_neg hone, if_pos htwo]; rfl, ?_⟩
        rw [if_neg hone, if_pos htwo] at hrange ⊢
        rw [show n % 256 % 256 + n / 256 % 256 % 256 * 256 = n by omega]
      · refine ⟨(n % 256, n / 256 % 256, n / 65536 % 256, n / 16777216 % 256), by rw [if_neg hone, if_neg htwo]; rfl, ?_⟩
        rw [if_neg hone, if_neg htwo] at hrange ⊢
        have hback : n % 256 % 256 + n / 256 % 256 % 256 * 256 + n / 65536 % 256 % 256 * 65536 +
            n / 16777216 % 256 % 256 * 16777216 = n := by omega
        simp only [hback]

/-! ### Kept in the specials -/

theorem flatKey_inj {key name name' : String} (h : flatKey key name = flatKey key name') : name = name' := by
  have hchars := congrArg String.toList h
  simp only [flatKey, String.toList_append] at hchars
  exact String.toList_injective (List.append_cancel_left hchars)

theorem writeFields_frame {key : String} {value : Json} {fields : List OptionField} {k : String}
    (hk : k ∉ (fields.filter fun f => f.name ≠ "").map fun f => flatKey key f.name) (written : List String) (specials : Dict) :
    (writeFields key value fields written specials).2.get? k = specials.get? k := by
  induction fields generalizing written specials with
  | nil => rfl
  | cons field rest ih =>
    unfold writeFields
    by_cases hname : field.name = ""
    · rw [if_pos hname]
      exact ih (by simpa [hname] using hk) written specials
    · obtain ⟨hne, hrest⟩ : k ≠ flatKey key field.name ∧
          k ∉ (rest.filter fun f => f.name ≠ "").map fun f => flatKey key f.name := by
        simpa [hname] using hk
      rw [if_neg hname]
      dsimp only
      split
      · rfl
      · rw [ih hrest, Dict.get?_set, if_neg hne]

/-- Only the keys that an option names are written, whatever the value is. -/
theorem writeSpecials_frame {o : OptionInfo} (hkey : o.key ≠ "") (value : Json) (specials : Dict) {k : String}
    (hk : k ∉ specialsKeysForOption o) : (writeSpecials specials o value).2.get? k = specials.get? k := by
  rw [specialsKeysForOption, if_neg hkey] at hk
  unfold writeSpecials
  cases hpair : o.isPair with
  | true =>
    rw [hpair, if_pos rfl] at hk
    exact writeFields_frame hk [] specials
  | false =>
    rw [hpair, if_neg (by decide), List.mem_singleton] at hk
    rw [if_neg (by decide), if_neg hkey]
    split
    · rfl
    · rw [Dict.get?_set, if_neg hk]

/-- An accepted value is written under the keys of its option. -/
theorem writeSpecials_keys {o : OptionInfo} (hfits : Fits o) {value : Json} (h : validateOptionValue o value = .ok ())
    (specials : Dict) : (writeSpecials specials o value).1 = .ok (specialsKeysForOption o) := by
  unfold writeSpecials specialsKeysForOption
  cases hpair : o.isPair with
  | true =>
    obtain ⟨first, second, fields, a, b, hfields, hfirst, hsecond, rfl, ha, hb, _⟩ := pair_accepted hfits hpair h
    simp [hfields, writeFields, hfirst, hsecond, ha, hb, hfits.key]
  | false =>
    obtain ⟨n, hn, _⟩ := number_accepted hfits hpair h
    simp [hn, hfits.key]

/-- What is read from the specials after an accepted value was written, unless it is a wide number. -/
theorem stored_writeSpecials {o : OptionInfo} (hfits : Fits o) (hwide : ¬ Wide o) {value : Json}
    (h : validateOptionValue o value = .ok ()) (specials : Dict) :
    storedValueFromSpecials o (writeSpecials specials o value).2 = coercedValue o value := by
  have hint : ∀ n, (Json.int n).toInt = .ok n := fun _ => rfl
  unfold storedValueFromSpecials writeSpecials coercedValue
  cases hpair : o.isPair with
  | true =>
    obtain ⟨first, second, fields, a, b, hfields, hfirst, hsecond, rfl, ha, hb, harange, hbrange⟩ :=
      pair_accepted hfits hpair h
    have hmasked : a % 65536 = a ∧ b % 65536 = b := by omega
    -- One name for both fields: then they were read from the same place.
    have hsame : flatKey o.key first.name = flatKey o.key second.name → a = b := by
      intro heq
      rw [flatKey_inj heq] at ha
      exact Except.ok.inj (ha.symm.trans hb)
    by_cases heq : flatKey o.key first.name = flatKey o.key second.name
    · obtain rfl := hsame heq
      simp [hfields, writeFields, storedFields, hfirst, hsecond, ha, hb, hmasked, heq, Dict.get?_set, hint,
        Dict.ofPairs, Except.toOption]
    · simp [hfields, writeFields, storedFields, hfirst, hsecond, ha, hb, hmasked, heq, Dict.get?_set, hint,
        Dict.ofPairs, Except.toOption]
  | false =>
    obtain ⟨n, hn, hrange⟩ := number_accepted hfits hpair h
    have hmasked : n % 65536 = n := by
      unfold capacity at hrange
      by_cases hone : o.width = 1
      · rw [if_pos hone] at hrange
        omega
      · by_cases htwo : o.width = 2
        · rw [if_neg hone, if_pos htwo] at hrange
          omega
        · exact absurd ⟨hpair, hone, htwo⟩ hwide
    simp [hn, hmasked, hfits.key, Dict.get?_set, hint, Except.toOption]

/-- What packing, unpacking and the specials have in common for an accepted value. -/
structure OptionRoundTrip (o : OptionInfo) (value : Json) (specials : Dict) (v : Json) (data : Int × Int × Int × Int) :
    Prop where
  coerced : coercedValue o value = some v
  packed : packOptionValue o value = .ok data
  bytes : Bytewise data
  unpacked : unpackOptionValue o data.1 data.2.1 data.2.2.1 data.2.2.2 = .ok v
  stored : ¬ Wide o → storedValueFromSpecials o (writeSpecials specials o value).2 = some v
  written : (writeSpecials specials o value).1 = .ok (specialsKeysForOption o)
  others : ∀ k ∉ specialsKeysForOption o, (writeSpecials specials o value).2.get? k = specials.get? k

/-- **An accepted value comes back from its bytes, and from the specials unless it is a number of more than two
bytes.** -/
theorem option_round_trip {o : OptionInfo} (hfits : Fits o) {value : Json} (h : validateOptionValue o value = .ok ())
    (specials : Dict) : ∃ v data, OptionRoundTrip o value specials v data := by
  obtain ⟨v, data, hcoerced, hpacked, hunpacked⟩ := unpack_packOptionValue hfits h
  exact ⟨v, data, hcoerced, hpacked, packOptionValue_bytes hpacked, hunpacked,
    fun hwide => (stored_writeSpecials hfits hwide h specials).trans hcoerced, writeSpecials_keys hfits h specials,
    fun _ hk => writeSpecials_frame hfits.key value specials hk⟩

/-- `wled_seg0`. -/
def segment0 : OptionInfo where
  key := "wled_seg0"
  shape := some "uint16-pair"
  bytes := some 4
  fields := [⟨"start", some 0, some 65535⟩, ⟨"stop", some 0, some 65535⟩]

theorem option_round_trip_segment : ∃ v data, OptionRoundTrip segment0
    (dict [("start", .str "3"), ("stop", .int 300)]) [] v data :=
  option_round_trip (o := segment0)
    ⟨by decide, fun h => absurd h (by decide), fun _ => ⟨_, _, rfl, by
      simp only [segment0, List.forall_mem_cons]
      exact ⟨⟨by decide, 0, 65535, rfl, rfl, by decide, by decide⟩, ⟨by decide, 0, 65535, rfl, rfl, by decide, by decide⟩,
        nofun⟩⟩⟩ (by decide +kernel) []

/-- A number of four bytes. -/
def fourBytes : OptionInfo where
  key := "wled_delay_us"
  bytes := some 4
  min := some 0
  max := some 4294967295

theorem wide_option_cut : Fits fourBytes ∧ validateOptionValue fourBytes (.int 65536) = .ok () ∧
    packOptionValue fourBytes (.int 65536) = .ok (0, 0, 1, 0) ∧ unpackOptionValue fourBytes 0 0 1 0 = .ok (.int 65536) ∧
    storedValueFromSpecials fourBytes (writeSpecials [] fourBytes (.int 65536)).2 = some (.int 0) :=
  ⟨⟨by decide, fun _ => ⟨0, 4294967295, rfl, rfl, by decide, by decide⟩, fun h => absurd h (by decide)⟩, by decide +kernel,
    by decide +kernel, by decide +kernel, by decide +kernel⟩

end RaceLink.Web
