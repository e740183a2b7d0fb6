import Mathlib.Data.List.Induction
import RaceLink.Domain.Devices
import RaceLink.Routing.Senders

/-! The addresses of a node that is updated (`services/ota_service.py`): its MAC as the node itself
reports it, the three bytes the radio knows it by, and the BSSID its access point is expected to have.

The access point is taken to come one above the MAC, modulo 2^48. So no two nodes are expected behind
one BSSID, and none behind its own MAC. -/
namespace RaceLink.Update
open Python Library Domain Routing

/-- A Python exception: `str(ex)` and `type(ex).__name__`. -/
structure Raised where
  text : String
  kind : String
deriving DecidableEq, Repr

/-- `str(ex) or type(ex).__name__`. -/
def Raised.message (ex : Raised) : String := if ex.text = "" then ex.kind else ex.text

def runtimeError (text : String) : Raised := ⟨text, "RuntimeError"⟩

/-- `norm_hex`: the hex digits, in lower case. -/
def normHex (value : String) : List Char :=
  (value.toList.filter fun c => (hexValue c).isSome).flatMap lowerChar

/-- The last `n` characters, if there are as many. -/
def lastDigits (n : Nat) (hx : List Char) : List Char := if hx.length < n then [] else hx.drop (hx.length - n)

/-- `expected_mac_hex`. -/
def expectedMacHex (addr : String) : List Char := lastDigits 12 (normHex addr)

/-- `expected_last3_hex`. -/
def expectedLast3Hex (addr : String) : List Char := lastDigits 6 (normHex addr)

/-- `recv3_bytes_from_addr`. -/
def recv3BytesFromAddr (addr : String) : Except Raised Bytes :=
  if (expectedLast3Hex addr).length ≠ 6 then .error ⟨"invalid addr", "ValueError"⟩
  else match fromhex (expectedLast3Hex addr) with
    | some recv3 => .ok recv3
    | none => .error ⟨"non-hexadecimal number found in fromhex() arg", "ValueError"⟩

/-- `int(text, 16)` for hex digits. -/
def hexNat (digits : List Char) : Nat := digits.foldl (fun n c => 16 * n + (hexValue c).getD 0) 0

/-- The last `width` digits of a number, upper case: `f"{n:012X}"` for a number that fits. -/
def hexText (n : Nat) : Nat → List Char
  | 0 => []
  | width + 1 => hexText (n / 16) width ++ [hexDigit (n % 16)]

/-- `":".join` over pairs of digits. -/
def colons : List Char → List Char
  | a :: b :: c :: rest => a :: b :: ':' :: colons (c :: rest)
  | rest => rest

/-- `expected_softap_bssid`. -/
def expectedSoftapBssid (addr : String) : String :=
  let macHex := expectedMacHex addr
  if macHex.length ≠ 12 then ""
  else String.ofList (colons (hexText ((hexNat macHex + 1) % 2 ^ 48) 12))

/-- A device as the lookup reads it: `str(dev.addr or "")` and `int(dev.groupId or 0)`. -/
structure Known where
  addr : String
  groupId : Int
deriving DecidableEq, Repr

/-- `lookup_group_id_for_addr`. -/
def lookupGroupIdForAddr (addr : String) (devices : List Known) : Int :=
  let want := expectedMacHex addr
  if want = [] then 0
  else match devices.find? fun dev => decide (expectedMacHex dev.addr ≠ [] ∧ expectedMacHex dev.addr = want) with
    | some dev => dev.groupId
    | none => 0

/-! ### Digits -/

/-- A digit as `norm_hex` leaves it. -/
def IsDigit (c : Char) : Prop := ('0' ≤ c ∧ c ≤ '9') ∨ ('a' ≤ c ∧ c ≤ 'f')

instance : DecidablePred IsDigit := fun c =>
  inferInstanceAs (Decidable (('0' ≤ c ∧ c ≤ '9') ∨ ('a' ≤ c ∧ c ≤ 'f')))

/-- A character of a range is one of those from its first on. -/
theorem char_cases {P : Char → Prop} {c : Char} {first last : Nat} (hfirst : first ≤ c.toNat) (hlast : c.toNat ≤ last)
    (h : ∀ k < last + 1 - first, P (Char.ofNat (first + k))) : P c := by
  have hc := h (c.toNat - first) (by omega)
  rwa [Nat.add_sub_cancel' hfirst, Char.ofNat_toNat] at hc

/-- What holds of all 22 hex digits holds of every character with a value. -/
theorem hex_cases {P : Char → Prop} {c : Char} (h : (hexValue c).isSome = true)
    (hdigit : ∀ k < 10, P (Char.ofNat (48 + k))) (hupper : ∀ k < 6, P (Char.ofNat (65 + k)))
    (hlower : ∀ k < 6, P (Char.ofNat (97 + k))) : P c := by
  unfold hexValue at h
  split at h
  · next hc => exact char_cases hc.1 hc.2 hdigit
  · split at h
    · next hc => exact char_cases hc.1 hc.2 hupper
    · split at h
      · next hc => exact char_cases hc.1 hc.2 hlower
      · cases h

/-- What holds of all 16 digits of `norm_hex` holds of each. -/
theorem digit_cases {P : Char → Prop} {c : Char} (h : IsDigit c) (hdigit : ∀ k < 10, P (Char.ofNat (48 + k)))
    (hlower : ∀ k < 6, P (Char.ofNat (97 + k))) : P c := by
  rcases h with hc | hc
  · exact char_cases hc.1 hc.2 hdigit
  · exact char_cases hc.1 hc.2 hlower

/-- A hex digit in lower case is one digit of the same value. -/
theorem lowerChar_hex {c : Char} (h : (hexValue c).isSome = true) :
    ∃ d, lowerChar c = [d] ∧ IsDigit d ∧ hexValue d = hexValue c := by
  let d := (lowerChar c).headD ' '
  have hhead : lowerChar c = [d] ∧ IsDigit d ∧ hexValue d = hexValue c := by
    apply hex_cases (P := fun c => lowerChar c = [(lowerChar c).headD ' '] ∧ IsDigit ((lowerChar c).headD ' ') ∧
      hexValue ((lowerChar c).headD ' ') = hexValue c) h
    all_goals decide
  exact ⟨d, hhead⟩

theorem hexDigit_value : ∀ n : Fin 16, hexValue (hexDigit n) = some (n : Nat) := by decide

/-- The digits of a text, each with its value. -/
theorem digits_values {cs : List Char} (h : ∀ c ∈ cs, (hexValue c).isSome = true) :
    (∀ d ∈ cs.flatMap lowerChar, IsDigit d) ∧ (cs.flatMap lowerChar).length = cs.length ∧
      (cs.flatMap lowerChar).map hexValue = cs.map hexValue := by
  induction cs with
  | nil => simp
  | cons c rest ih =>
    obtain ⟨hc, hrest⟩ := List.forall_mem_cons.mp h
    obtain ⟨d, hd, hdigit, hvalue⟩ := lowerChar_hex hc
    obtain ⟨ihdigits, ihlength, ihvalues⟩ := ih hrest
    rw [List.flatMap_cons, hd]
    refine ⟨List.forall_mem_cons.mpr ⟨hdigit, ihdigits⟩, ?_, ?_⟩
    · simpa using ihlength
    · simp only [List.singleton_append, List.map_cons, hvalue, ihvalues]

theorem normHex_digits (value : String) : ∀ d ∈ normHex value, IsDigit d :=
  (digits_values fun _ hc => (List.mem_filter.mp hc).2).1

theorem lastDigits_subset {n : Nat} {hx : List Char} {c : Char} (h : c ∈ lastDigits n hx) : c ∈ hx := by
  unfold lastDigits at h
  split at h
  · cases h
  · exact List.mem_of_mem_drop h

theorem lastDigits_of_length {n : Nat} {hx : List Char} (h : hx.length = n) : lastDigits n hx = hx := by
  simp [lastDigits, h]

theorem expectedMacHex_digits (addr : String) : ∀ d ∈ expectedMacHex addr, IsDigit d :=
  fun _ hd => normHex_digits addr _ (lastDigits_subset hd)

/-! ### Numbers -/

theorem hexNat_append (xs : List Char) (c : Char) :
    hexNat (xs ++ [c]) = 16 * hexNat xs + (hexValue c).getD 0 := by
  simp [hexNat]

theorem hexNat_congr {xs ys : List Char} (h : xs.map hexValue = ys.map hexValue) : hexNat xs = hexNat ys := by
  have hfold : ∀ zs : List Char, hexNat zs = (zs.map hexValue).foldl (fun n v => 16 * n + v.getD 0) 0 := by
    intro zs
    rw [hexNat, List.foldl_map]
  rw [hfold, hfold, h]

theorem hexText_length (n width : Nat) : (hexText n width).length = width := by
  induction width generalizing n with
  | zero => rfl
  | succ width ih => rw [hexText, List.length_append, ih, List.length_singleton]

/-- A number written out is read back, up to the digits there was room for. -/
theorem hexNat_hexText (n width : Nat) : hexNat (hexText n width) = n % 16 ^ width := by
  induction width generalizing n with
  | zero => simp [hexText, hexNat, Nat.mod_one]
  | succ width ih =>
    have hdigit := hexDigit_value ⟨n % 16, Nat.mod_lt _ (by omega)⟩
    rw [hexText, hexNat_append, ih, hdigit, Option.getD_some, Nat.pow_succ, Nat.mul_comm (16 ^ width),
      Nat.mod_mul]
    show 16 * (n / 16 % 16 ^ width) + n % 16 = n % 16 + 16 * (n / 16 % 16 ^ width)
    omega

theorem hexText_hex (n width : Nat) : ∀ c ∈ hexText n width, (hexValue c).isSome = true := by
  induction width generalizing n with
  | zero => intro c hc; cases hc
  | succ width ih =>
    intro c hc
    rw [hexText] at hc
    rcases List.mem_append.mp hc with hc | hc
    · exact ih _ c hc
    · rw [List.mem_singleton.mp hc, hexDigit_value ⟨n % 16, Nat.mod_lt _ (by omega)⟩]
      rfl

theorem digit_value {c : Char} (h : IsDigit c) : ∃ v < 16, hexValue c = some v := by
  have hvalue : ∃ v ∈ hexValue c, v < 16 := by
    apply digit_cases (P := fun c => ∃ v ∈ hexValue c, v < 16) h
    all_goals decide
  obtain ⟨v, hv, hlt⟩ := hvalue
  exact ⟨v, hlt, hv⟩

/-- A digit of `norm_hex` is told by its value. -/
theorem digit_of_value {c : Char} (h : IsDigit c) :
    lowerChar (hexDigit ((hexValue c).getD 0)) = [c] := by
  apply digit_cases (P := fun c => lowerChar (hexDigit ((hexValue c).getD 0)) = [c]) h
  all_goals decide

theorem digit_inj {c d : Char} (hc : IsDigit c) (hd : IsDigit d) (h : hexValue c = hexValue d) : c = d := by
  have hchars := digit_of_value hc
  rw [h, digit_of_value hd] at hchars
  exact (List.singleton_injective hchars).symm

theorem hexNat_lt {xs : List Char} (h : ∀ c ∈ xs, IsDigit c) : hexNat xs < 16 ^ xs.length := by
  induction xs using List.reverseRecOn with
  | nil => simp [hexNat]
  | append_singleton xs c ih =>
    obtain ⟨v, hv, hvalue⟩ := digit_value (h c (by simp))
    have hxs := ih fun d hd => h d (List.mem_append_left _ hd)
    rw [hexNat_append, hvalue, Option.getD_some, List.length_append, List.length_singleton, Nat.pow_succ]
    omega

/-- As many digits with the same number are the same digits. -/
theorem hexNat_inj {xs ys : List Char} (hxs : ∀ c ∈ xs, IsDigit c) (hys : ∀ c ∈ ys, IsDigit c)
    (hlength : xs.length = ys.length) (h : hexNat xs = hexNat ys) : xs = ys := by
  induction xs using List.reverseRecOn generalizing ys with
  | nil => exact (List.eq_nil_of_length_eq_zero hlength.symm).symm
  | append_singleton xs c ih =>
    obtain rfl | ⟨ys, d, rfl⟩ := List.eq_nil_or_concat' ys
    · simp at hlength
    · obtain ⟨v, hv, hvalue⟩ := digit_value (hxs c (by simp))
      obtain ⟨w, hw, hvalue'⟩ := digit_value (hys d (by simp))
      rw [hexNat_append, hexNat_append, hvalue, hvalue', Option.getD_some, Option.getD_some] at h
      have hlast : v = w := by omega
      have hfront := ih (fun e he => hxs e (List.mem_append_left _ he))
        (fun e he => hys e (List.mem_append_left _ he)) (by simpa using hlength) (by omega)
      rw [hfront, digit_inj (hxs c (by simp)) (hys d (by simp)) (by rw [hvalue, hvalue', hlast])]

/-! ### The access point -/

theorem filter_colons {cs : List Char} (h : ∀ c ∈ cs, (hexValue c).isSome = true) :
    (colons cs).filter (fun c => (hexValue c).isSome) = cs := by
  induction cs using colons.induct with
  | case1 a b c rest ih =>
    have ha := h a (by simp)
    have hb := h b (by simp)
    have hrest := ih fun d hd => h d (by simp_all)
    have hcolon : (hexValue ':').isSome = false := by decide
    rw [colons, List.filter_cons, List.filter_cons, List.filter_cons, if_pos ha, if_pos hb,
      if_neg (by simp [hcolon]), hrest]
  | case2 rest hshort =>
    rw [colons, List.filter_eq_self]
    · exact h
    · exact hshort

/-- The MAC the expected access point has, one above the node's. -/
theorem expectedMacHex_softap {addr : String} (h : (expectedMacHex addr).length = 12) :
    (expectedMacHex (expectedSoftapBssid addr)).length = 12 ∧
      hexNat (expectedMacHex (expectedSoftapBssid addr)) = (hexNat (expectedMacHex addr) + 1) % 2 ^ 48 := by
  have hhex := hexText_hex ((hexNat (expectedMacHex addr) + 1) % 2 ^ 48) 12
  obtain ⟨-, hlength, hvalues⟩ := digits_values hhex
  have hnorm : normHex (expectedSoftapBssid addr) =
      (hexText ((hexNat (expectedMacHex addr) + 1) % 2 ^ 48) 12).flatMap lowerChar := by
    rw [expectedSoftapBssid, if_neg (by simp [h]), normHex, String.toList_ofList, filter_colons hhex]
  rw [hexText_length] at hlength
  rw [expectedMacHex, hnorm, lastDigits_of_length hlength]
  refine ⟨hlength, ?_⟩
  rw [hexNat_congr hvalues, hexNat_hexText]
  omega

/-- Two nodes are expected behind one access point only if they have one MAC, and no node behind an access
point with its own. -/
theorem expectedSoftapBssid_inj {a b : String} (ha : (expectedMacHex a).length = 12)
    (hb : (expectedMacHex b).length = 12) :
    (expectedSoftapBssid a = expectedSoftapBssid b ↔ expectedMacHex a = expectedMacHex b) ∧
      expectedMacHex (expectedSoftapBssid a) ≠ expectedMacHex a := by
  obtain ⟨-, hvalue⟩ := expectedMacHex_softap ha
  obtain ⟨-, hvalue'⟩ := expectedMacHex_softap hb
  have hlt := hexNat_lt (expectedMacHex_digits a)
  have hlt' := hexNat_lt (expectedMacHex_digits b)
  rw [ha] at hlt
  rw [hb] at hlt'
  refine ⟨⟨fun h => ?_, fun h => by simp only [expectedSoftapBssid, h]⟩, fun h => ?_⟩
  · rw [h, hvalue'] at hvalue
    refine hexNat_inj (expectedMacHex_digits a) (expectedMacHex_digits b) (by rw [ha, hb]) ?_
    omega
  · rw [h] at hvalue
    omega

theorem expectedSoftapBssid_inj_last : (expectedSoftapBssid "FF:FF:FF:FF:FF:FF" = expectedSoftapBssid "000000000000" ↔
      expectedMacHex "FF:FF:FF:FF:FF:FF" = expectedMacHex "000000000000") ∧
    expectedMacHex (expectedSoftapBssid "FF:FF:FF:FF:FF:FF") ≠ expectedMacHex "FF:FF:FF:FF:FF:FF" :=
  expectedSoftapBssid_inj (by decide) (by decide)

end RaceLink.Update
