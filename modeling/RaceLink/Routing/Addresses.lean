import RaceLink.Gateways.State
import RaceLink.Scenes.CanonicalProofs

/-! How the host finds a device by its address, when the addresses are MACs. -/
namespace RaceLink.Routing
open Python Domain Scenes Gateways

/-- The characters that are spaces stay what they are in upper case. -/
theorem upperChar_space {c : Char} (hc : isSpace c = true) : upperChar c = [c] := by
  have hn : c.toNat < 97 ∨ 122 < c.toNat := by
    simp [isSpace] at hc
    omega
  have hlow : ¬ ('a' ≤ c ∧ c ≤ 'z') := fun hl => by
    have h1 : 97 ≤ c.toNat := hl.1
    have h2 : c.toNat ≤ 122 := hl.2
    omega
  have hff : c.toNat ≠ 0xFB00 := fun h => by
    simp [isSpace, h] at hc
  rw [upperChar, if_neg hlow, if_neg hff]

theorem upperChar_not_space {c d : Char} (hc : isSpace c = false) (hd : d ∈ upperChar c) : isSpace d = false := by
  have hcapital : ∀ n : Fin 26, isSpace (Char.ofNat (65 + n)) = false := by decide
  unfold upperChar at hd
  split at hd
  · next hlow =>
    have h1 : 97 ≤ c.toNat := hlow.1
    have h2 : c.toNat ≤ 122 := hlow.2
    have hn : c.toNat - 32 = 65 + (c.toNat - 97) := by omega
    rw [List.mem_singleton.mp hd, hn]
    exact hcapital ⟨c.toNat - 97, by omega⟩
  · split at hd
    · have hf : d = 'F' := by simpa using hd
      rw [hf]
      decide
    · rwa [List.mem_singleton.mp hd]

theorem upperChar_ne_nil (c : Char) : upperChar c ≠ [] := by
  unfold upperChar
  split
  · simp
  · split <;> simp

/-- Upper case puts no blank around a text. -/
theorem trimmed_upper {cs : List Char} (h : Trimmed cs) : Trimmed (cs.flatMap upperChar) := by
  constructor
  · intro d hd
    cases cs with
    | nil => cases hd
    | cons c rest =>
      rw [List.flatMap_cons, List.head?_append_of_ne_nil _ (upperChar_ne_nil c)] at hd
      exact upperChar_not_space (h.1 c rfl) (List.mem_of_mem_head? hd)
  · intro d hd
    cases hlast : cs.getLast? with
    | none =>
      rw [List.getLast?_eq_none_iff.mp hlast] at hd
      cases hd
    | some c =>
      obtain ⟨front, rfl⟩ := List.getLast?_eq_some_iff.mp hlast
      rw [List.flatMap_append, List.flatMap_singleton,
        List.getLast?_append_of_ne_nil _ (upperChar_ne_nil c)] at hd
      exact upperChar_not_space (h.2 c hlast) (List.mem_of_mem_getLast? hd)

/-- An address that was stripped and put in upper case is as it is looked up. -/
theorem upper_strip_idem (s : String) : upper (strip (upper (strip s))) = upper (strip s) := by
  have htrim : Trimmed (upper (strip s)).toList := by
    rw [upper, String.toList_ofList, strip, String.toList_ofList]
    exact trimmed_upper (stripChars_trimmed s.toList)
  have hstrip : strip (upper (strip s)) = upper (strip s) := by
    rw [strip, stripChars_of_trimmed htrim, String.ofList_toList]
  rw [hstrip, upper_upper]

theorem mac12_length {value : String} (hmac : isMac12 value = true) : value.length = 12 := by
  simp only [isMac12, Bool.and_eq_true, beq_iff_eq] at hmac
  rw [← String.length_toList]
  exact hmac.1

theorem mac12_no_space {value : String} (hmac : isMac12 value = true) :
    ∀ c ∈ value.toList, isSpace c = false := by
  simp only [isMac12, Bool.and_eq_true, List.all_eq_true, Bool.or_eq_true, decide_eq_true_eq] at hmac
  exact fun c hc => (hexDigit_fixed (hmac.2 c hc)).1

/-- An address that reads as a MAC has no blanks around it. -/
theorem strip_of_upper_mac {addr : String} (hmac : isMac12 (upper addr) = true) : strip addr = addr := by
  refine strip_of_no_space fun c hc => Bool.eq_false_iff.mpr fun hspace => ?_
  have hmem : c ∈ (upper addr).toList := by
    rw [upper, String.toList_ofList]
    exact List.mem_flatMap.mpr ⟨c, hc, by rw [upperChar_space hspace]; exact List.mem_singleton_self c⟩
  rw [mac12_no_space hmac c hmem] at hspace
  cases hspace

section Lookup
variable {h : Host}

/-- The lookup of an address that reads as a MAC. -/
theorem getDeviceFromAddress_mac {addr : String} (hmac : isMac12 (upper (strip addr)) = true) :
    h.getDeviceFromAddress addr = h.devices.find? fun d => upper d.addr == upper (strip addr) := by
  have hlength := mac12_length hmac
  have hne : addr ≠ "" := by
    rintro rfl
    exact absurd hlength (by decide)
  rw [Host.getDeviceFromAddress, if_neg hne]
  dsimp only
  rw [if_pos hlength, Host.deviceByAddr, mac12_fixed hmac, if_pos hlength]

/-- A device that a MAC finds is found by its own address too. -/
theorem getDeviceFromAddress_self {value : String} {d : Device} (hmac : isMac12 value = true)
    (hd : h.getDeviceFromAddress value = some d) : h.getDeviceFromAddress d.addr = some d := by
  have hfixed := mac12_fixed hmac
  rw [getDeviceFromAddress_mac (by rwa [hfixed]), hfixed] at hd
  have heq : upper d.addr = value :=
    eq_of_beq (List.find?_some (p := fun d : Device => upper d.addr == value) hd)
  have hstrip : strip d.addr = d.addr := strip_of_upper_mac (by rwa [heq])
  rw [getDeviceFromAddress_mac (by rwa [hstrip, heq]), hstrip, heq, hd]

end Lookup

end RaceLink.Routing
