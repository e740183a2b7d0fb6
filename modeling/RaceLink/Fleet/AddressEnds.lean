import RaceLink.Fleet.Polling
import RaceLink.Routing.Addresses

/-! The ends of addresses. A reply has the last three bytes of its sender, which name a device when no other address
ends alike. -/
namespace RaceLink.Fleet.Polling
open Python Library Domain Routing Pending Scenes

variable {h : Host} {i : Nat}

theorem hexDigit_value {c : Char} (hc : ('0' ≤ c ∧ c ≤ '9') ∨ ('A' ≤ c ∧ c ≤ 'F')) :
    ∃ n < 16, hexValue c = some n ∧ hexDigit n = c := by
  have hn : (48 ≤ c.toNat ∧ c.toNat ≤ 57) ∨ (65 ≤ c.toNat ∧ c.toNat ≤ 70) := hc
  rcases hn with hn | hn
  · have hdigit : '0' ≤ c ∧ c ≤ '9' := hn
    refine ⟨c.toNat - 48, by omega, by rw [hexValue, if_pos hdigit], ?_⟩
    rw [hexDigit, if_pos (by omega), Nat.add_sub_cancel' hn.1, Char.ofNat_toNat]
  · have hletter : 'A' ≤ c ∧ c ≤ 'F' := hn
    have hnot : ¬ ('0' ≤ c ∧ c ≤ '9') := fun hd => by
      have : c.toNat ≤ 57 := hd.2
      omega
    refine ⟨c.toNat - 55, by omega, by rw [hexValue, if_neg hnot, if_pos hletter], ?_⟩
    rw [hexDigit, if_neg (by omega), Nat.add_sub_cancel' (by omega), Char.ofNat_toNat]

/-- Bytes that were read from digits are written with them. -/
theorem hexUpper_fromhex {cs : List Char} {bytes : Bytes}
    (hcs : ∀ c ∈ cs, ('0' ≤ c ∧ c ≤ '9') ∨ ('A' ≤ c ∧ c ≤ 'F')) (hbytes : fromhex cs = some bytes) :
    hexUpper bytes = String.ofList cs := by
  fun_induction fromhex cs generalizing bytes with
  | case1 =>
    cases hbytes
    rfl
  | case2 c rest hspace ih =>
    have hn : (48 ≤ c.toNat ∧ c.toNat ≤ 57) ∨ (65 ≤ c.toNat ∧ c.toNat ≤ 70) := hcs c (List.mem_cons_self ..)
    rcases hspace with rfl | hspace
    · exact absurd hn (by decide)
    · omega
  | case3 c hspace => cases hbytes
  | case4 c hspace d rest ih =>
    obtain ⟨high, hhigh, hc, hchar⟩ := hexDigit_value (hcs c (List.mem_cons_self ..))
    obtain ⟨low, hlow, hd, hdchar⟩ := hexDigit_value (hcs d (List.mem_cons_of_mem _ (List.mem_cons_self ..)))
    simp only [hc, hd, Option.bind_eq_bind, Option.bind_some, Option.pure_def, Option.bind_eq_some_iff,
      Option.some.injEq] at hbytes
    obtain ⟨rest', hrest, rfl⟩ := hbytes
    have hih := ih (fun e he => hcs e (List.mem_cons_of_mem _ (List.mem_cons_of_mem _ he))) hrest
    have hnat : (UInt8.ofNat (16 * high + low)).toNat = 16 * high + low := by
      rw [UInt8.toNat_ofNat', Nat.mod_eq_of_lt (by omega)]
    have hlist := congrArg String.toList hih
    rw [hexUpper, String.toList_ofList, String.toList_ofList] at hlist
    rw [hexUpper, List.flatMap_cons, hlist, hnat]
    have hdiv : (16 * high + low) / 16 = high := by omega
    have hmod : (16 * high + low) % 16 = low := by omega
    rw [hdiv, hmod, hchar, hdchar]
    rfl

theorem mac12_digits {addr : String} (hmac : isMac12 addr = true) :
    ∀ c ∈ addr.toList, ('0' ≤ c ∧ c ≤ '9') ∨ ('A' ≤ c ∧ c ≤ 'F') := by
  intro c hc
  simp only [isMac12, Bool.and_eq_true, List.all_eq_true, Bool.or_eq_true, decide_eq_true_eq] at hmac
  exact hmac.2 c hc

theorem upper_mac {addr : String} (hmac : isMac12 addr = true) : upper addr = addr := by
  rw [← mac12_fixed hmac, Gateways.upper_upper]

/-- The last three bytes of a MAC. -/
theorem hexUpper_last3 {addr : String} {recv3 : Bytes} (hmac : isMac12 addr = true)
    (hrecv : macLast3FromHex addr = .ok recv3) : hexUpper recv3 = lastSix (upper addr) := by
  have hdigits := mac12_digits hmac
  have hlength : addr.toList.length = 12 := by
    rw [String.length_toList]
    exact mac12_length hmac
  have hupper := upper_mac hmac
  have hstrip : stripChars addr.toList = addr.toList := stripChars_of_trimmed
    ⟨fun c hc => (hexDigit_fixed (hdigits c (List.mem_of_mem_head? hc))).1,
      fun c hc => (hexDigit_fixed (hdigits c (List.mem_of_mem_getLast? hc))).1⟩
  have hcolon : addr.toList.filter (· ≠ ':') = addr.toList := by
    refine List.filter_eq_self.mpr fun c hc => decide_eq_true fun heq => ?_
    have := hdigits c hc
    rw [heq] at this
    revert this
    decide
  have hflat : addr.toList.flatMap upperChar = addr.toList := by
    have hlist := congrArg String.toList hupper
    rwa [upper, String.toList_ofList] at hlist
  rw [macLast3FromHex, hstrip, hcolon, hflat, hlength] at hrecv
  simp only [show ¬ (12 < 6) by omega, if_false] at hrecv
  have hlast : lastSix (upper addr) = String.ofList (addr.toList.drop (12 - 6)) := by
    rw [hupper, lastSix, ← String.length_toList, hlength]
  rw [hlast]
  split at hrecv
  · next bytes hbytes =>
    cases hrecv
    exact hexUpper_fromhex (fun c hc => hdigits c (List.mem_of_mem_drop hc)) hbytes
  · cases hrecv

theorem endsWith_iff (s t : String) : s.endsWith t = true ↔ t.toList <:+ s.toList := by
  have hslice : s.toSlice.endsWith t = true ↔ t.toList <:+ s.toSlice.copy.toList := String.Slice.endsWith_string_iff
  simpa using hslice

theorem endsWith_six {s x : String} (hx : x.toList.length = 6) :
    s.endsWith x = true ↔ lastSix s = x := by
  rw [endsWith_iff, List.suffix_iff_eq_drop, hx, lastSix, ← String.length_toList]
  constructor
  · intro heq
    rw [← heq, String.ofList_toList]
  · intro heq
    rw [← heq, String.toList_ofList]

theorem mac_length (hmacs : ∀ d ∈ h.devices, isMac12 d.addr = true) {d : Device} (hd : h.devices[i]? = some d) :
    (mac h i).toList.length = 12 := by
  have hmac := hmacs d (List.mem_of_getElem? hd)
  rw [mac, hd]
  show (upper d.addr).toList.length = 12
  rw [upper_mac hmac, String.length_toList]
  exact mac12_length hmac

/-- A reply is written into the record that it names, if no other one ends alike. -/
theorem position_eq {d : Device} (hd : h.devices[i]? = some d)
    (hends : ∀ j, lastSix (mac h j) = lastSix (mac h i) → j = i) {sender3 : Bytes} (hlength : sender3.length = 3)
    (hname : hexUpper sender3 = lastSix (mac h i)) : position h (hexUpper sender3) = some i := by
  have hsix : (hexUpper sender3).toList.length = 6 := by
    rw [hexUpper_length, hlength]
  have hfixed : upper (strip (hexUpper sender3)) = hexUpper sender3 := by
    have hchars : ∀ c ∈ (hexUpper sender3).toList, isSpace c = false ∧ upperChar c = [c] :=
      fun c hc => hexDigit_fixed (hexUpper_digits hc)
    rw [strip_of_no_space fun c hc => (hchars c hc).1, upper_of_fixed fun c hc => (hchars c hc).2]
  have hshort : (hexUpper sender3).length = 6 := by
    rw [← String.length_toList]
    exact hsix
  have hnot : (hexUpper sender3).length ≠ 12 := by omega
  have hne : hexUpper sender3 ≠ "" := by
    intro heq
    rw [heq] at hsix
    cases hsix
  have hlookup : h.getDeviceFromAddress (hexUpper sender3) =
      h.devices.find? fun d => (upper d.addr).endsWith (hexUpper sender3) := by
    rw [Host.getDeviceFromAddress, if_neg hne]
    dsimp only
    rw [hfixed, if_neg hnot, if_pos hshort, Host.deviceByAddr, hfixed, if_neg hnot, if_pos hshort]
  have hat : ∀ {j : Nat} {d : Device}, h.devices[j]? = some d →
      ((upper d.addr).endsWith (hexUpper sender3) = true ↔ lastSix (mac h j) = hexUpper sender3) := by
    intro j d hd
    have hmac : mac h j = upper d.addr := by
      rw [mac, hd]
      rfl
    rw [hmac]
    exact endsWith_six hsix
  have hsome : (h.devices.find? fun d => (upper d.addr).endsWith (hexUpper sender3)).isSome = true :=
    List.find?_isSome.mpr ⟨d, List.mem_of_getElem? hd, (hat hd).mpr hname.symm⟩
  obtain ⟨d', hd'⟩ := Option.isSome_iff_exists.mp hsome
  have hmem := List.mem_of_find?_eq_some hd'
  have hfound : h.devices[h.devices.idxOf d']? = some d' := List.getElem?_idxOf hmem
  have hsuffix := List.find?_some hd'
  rw [position, hlookup, hd', Option.map_some]
  exact congrArg some (hends _ (((hat hfound).mp hsuffix).trans hname))

end RaceLink.Fleet.Polling
