import RaceLink.Library.Masked
import RaceLink.Protocol.Packets

/-! OPC_CONTROL both ways: the body that `build_control_body` makes, read by the layout of
`racelink_proto.h`. A receiver gets the fields that were given, where the four that share one byte come
together: when one of them is given, the others arrive with their defaults. -/
namespace RaceLink.Protocol
open Python Library

/-! ### The layout -/

/-- The fields of the `fieldMask`, and of the `extMask`. -/
def mainSlots : List Slot := [⟨0, 1⟩, ⟨1, 1⟩, ⟨2, 1⟩, ⟨3, 1⟩, ⟨4, 1⟩, ⟨5, 1⟩, ⟨6, 1⟩]
def extSlots : List Slot := [⟨0, 1⟩, ⟨1, 3⟩, ⟨2, 3⟩, ⟨3, 3⟩]

/-- The bit of `RL_CTRL_F_EXT`. -/
def extBit : Nat := 7

def readByte : Bytes → Int
  | [b] => b.toNat
  | _ => 0

def readRgb (bytes : Bytes) : List Int := bytes.map fun b => (b.toNat : Int)

/-- The main fields: `custom3` is in the bits 0 to 4 of its byte, the checks in the bits 5 to 7. -/
def readMain : List (Option Bytes) → ControlFields
  | [brightness, mode, speed, intensity, custom1, custom2, checks] =>
    { brightness := brightness.map readByte
      mode := mode.map readByte
      speed := speed.map readByte
      intensity := intensity.map readByte
      custom1 := custom1.map readByte
      custom2 := custom2.map readByte
      custom3 := checks.map fun bytes => readByte bytes % 0x20
      check1 := checks.map fun bytes => decide (readByte bytes / 0x20 % 2 = 1)
      check2 := checks.map fun bytes => decide (readByte bytes / 0x40 % 2 = 1)
      check3 := checks.map fun bytes => decide (readByte bytes / 0x80 % 2 = 1) }
  | _ => {}

/-- The extended fields in addition. -/
def readExt (f : ControlFields) : List (Option Bytes) → ControlFields
  | [palette, color1, color2, color3] =>
    {f with
      palette := palette.map readByte
      color1 := color1.map readRgb
      color2 := color2.map readRgb
      color3 := color3.map readRgb}
  | _ => f

/-- A body by the layout of `P_Control`: group, flags and fields. Nothing may be left over. -/
def parseControlBody : Bytes → Option (Int × Int × ControlFields)
  | g :: flags :: mask :: rest =>
    match takeChunks mainSlots mask.toNat rest with
    | none => none
    | some (main, rest) =>
      if mask.toNat.testBit extBit then
        match rest with
        | [] => none
        | ext :: rest =>
          match takeChunks extSlots ext.toNat rest with
          | some (extended, []) => some (g.toNat, flags.toNat, readExt (readMain main) extended)
          | _ => none
      else if rest = [] then some (g.toNat, flags.toNat, readMain main) else none
  | _ => none

/-- The header and the fields that the masks of a body announce. -/
def controlLength : Bytes → Nat
  | _ :: _ :: mask :: rest =>
    3 + announced mainSlots mask.toNat +
      if mask.toNat.testBit extBit then
        1 + announced extSlots (rest.getD (announced mainSlots mask.toNat) 0).toNat
      else 0
  | _ => 0

/-! ### The fields -/

def IsByte (n : Int) : Prop := 0 ≤ n ∧ n ≤ 255

/-- Three bytes. -/
def IsRgb (color : List Int) : Prop := color.length = 3 ∧ ∀ n ∈ color, IsByte n

/-- Every field that is given is in its range. -/
structure ControlFields.InRange (f : ControlFields) : Prop where
  brightness : ∀ n ∈ f.brightness, IsByte n
  mode : ∀ n ∈ f.mode, IsByte n
  speed : ∀ n ∈ f.speed, IsByte n
  intensity : ∀ n ∈ f.intensity, IsByte n
  custom1 : ∀ n ∈ f.custom1, IsByte n
  custom2 : ∀ n ∈ f.custom2, IsByte n
  custom3 : ∀ n ∈ f.custom3, 0 ≤ n ∧ n < 0x20
  palette : ∀ n ∈ f.palette, IsByte n
  color1 : ∀ c ∈ f.color1, IsRgb c
  color2 : ∀ c ∈ f.color2, IsRgb c
  color3 : ∀ c ∈ f.color3, IsRgb c

/-- One of the fields of the packed byte is given. -/
def ControlFields.hasChecks (f : ControlFields) : Bool :=
  f.custom3.isSome || f.check1.isSome || f.check2.isSome || f.check3.isSome

/-- The fields as they arrive: with one of the packed byte, the four of it. -/
def ControlFields.filled (f : ControlFields) : ControlFields :=
  if f.hasChecks then
    {f with
      custom3 := some (f.custom3.getD 0)
      check1 := some (f.check1.getD false)
      check2 := some (f.check2.getD false)
      check3 := some (f.check3.getD false)}
  else f

variable {f f' : ControlFields} {groupId flags : Int}

/-! ### The chunks of a body -/

/-- The byte of `custom3` and the checks. -/
def ControlFields.packed (f : ControlFields) : Int :=
  f.custom3.getD 0 % 0x20 + (if f.check1 = some true then 0x20 else 0) + (if f.check2 = some true then 0x40 else 0) +
    (if f.check3 = some true then 0x80 else 0)

def mainChunks (f : ControlFields) : List (Option Bytes) :=
  [f.brightness.map fun n => [byte n], f.mode.map fun n => [byte n], f.speed.map fun n => [byte n],
    f.intensity.map fun n => [byte n], f.custom1.map fun n => [byte n], f.custom2.map fun n => [byte n],
    if f.hasChecks then some [byte f.packed] else none]

def extChunks (f : ControlFields) : List (Option Bytes) :=
  [f.palette.map fun n => [byte n], f.color1.map (·.map byte), f.color2.map (·.map byte), f.color3.map (·.map byte)]

theorem fieldBytes_eq {α : Type} (bit : Nat) (encode : α → Bytes) (value : Option α) :
    fieldBytes bit encode value = (if (value.map encode).isSome then bit else 0, (value.map encode).getD []) := by
  cases value <;> rfl

/-- **`tail_main` and its mask are made of the main chunks.** -/
theorem mainTail_eq (f : ControlFields) : mainTail f = (maskOf mainSlots (mainChunks f), dataOf (mainChunks f)) := by
  have hchecks : checksByte f = (if (if f.hasChecks then some [byte f.packed] else none : Option Bytes).isSome
      then RL_CTRL_F_CUSTOM3_CHECKS else 0, (if f.hasChecks then some [byte f.packed] else none : Option Bytes).getD []) := by
    unfold checksByte
    show (if f.hasChecks then _ else _) = _
    cases f.hasChecks <;> rfl
  unfold mainTail
  rw [hchecks]
  simp only [fieldBytes_eq]
  rfl

theorem colorBytes_eq (bit : Nat) {color : Option (List Int)} (h : ∀ c ∈ color, IsRgb c) :
    colorBytes bit color = .ok (if (color.map (·.map byte)).isSome then bit else 0, (color.map (·.map byte)).getD []) := by
  cases color with
  | none => rfl
  | some c =>
    match c, (h c rfl).1 with
    | [r, g, b], _ => rfl

/-- **`tail_ext` and its mask are made of the extended chunks.** -/
theorem extTail_eq (h : f.InRange) : extTail f = .ok (maskOf extSlots (extChunks f), dataOf (extChunks f)) := by
  unfold extTail
  rw [colorBytes_eq _ h.color1, ok_bind, colorBytes_eq _ h.color2, ok_bind, colorBytes_eq _ h.color3, ok_bind,
    fieldBytes_eq]
  rfl

theorem fills_map {α : Type} {size : Nat} {value : Option α} {encode : α → Bytes}
    (h : ∀ a ∈ value, (encode a).length = size) : ∀ b ∈ value.map encode, b.length = size := by
  rintro b hb
  obtain ⟨a, ha, rfl⟩ := Option.mem_map.mp hb
  exact h a ha

theorem fills_main (f : ControlFields) : Fills mainSlots (mainChunks f) := by
  have hone : ∀ value : Option Int, ∀ b ∈ value.map fun n => [byte n], b.length = 1 := fun value =>
    fills_map fun _ _ => rfl
  refine .cons (hone _) (.cons (hone _) (.cons (hone _) (.cons (hone _) (.cons (hone _) (.cons (hone _)
    (.cons ?_ .nil))))))
  cases f.hasChecks
  · rintro b ⟨⟩
  · rintro b ⟨⟩
    rfl

theorem fills_ext (h : f.InRange) : Fills extSlots (extChunks f) := by
  have hrgb : ∀ {color : Option (List Int)}, (∀ c ∈ color, IsRgb c) → ∀ b ∈ color.map (·.map byte), b.length = 3 :=
    fun hcolor => fills_map fun c hc => by rw [List.length_map]; exact (hcolor c hc).1
  exact .cons (fills_map fun _ _ => rfl) (.cons (hrgb h.color1) (.cons (hrgb h.color2) (.cons (hrgb h.color3) .nil)))

/-! ### What is read from the chunks -/

theorem read_map {value : Option Int} (h : ∀ n ∈ value, IsByte n) :
    (value.map fun n => [byte n]).map readByte = value := by
  cases value with
  | none => rfl
  | some n => exact congrArg some (byte_fits (h n rfl).1 (h n rfl).2)

theorem read_rgb {color : Option (List Int)} (h : ∀ c ∈ color, IsRgb c) :
    (color.map (·.map byte)).map readRgb = color := by
  cases color with
  | none => rfl
  | some c =>
    refine congrArg some ?_
    rw [readRgb, List.map_map]
    refine (List.map_congr_left fun n hn => ?_).trans (List.map_id c)
    exact byte_fits ((h c rfl).2 n hn).1 ((h c rfl).2 n hn).2

/-- The packed byte is read as it was made. -/
theorem packed_read (h : ∀ n ∈ f.custom3, 0 ≤ n ∧ n < 0x20) :
    readByte [byte f.packed] % 0x20 = f.custom3.getD 0 ∧
      decide (readByte [byte f.packed] / 0x20 % 2 = 1) = f.check1.getD false ∧
      decide (readByte [byte f.packed] / 0x40 % 2 = 1) = f.check2.getD false ∧
      decide (readByte [byte f.packed] / 0x80 % 2 = 1) = f.check3.getD false := by
  have hcustom : 0 ≤ f.custom3.getD 0 ∧ f.custom3.getD 0 < 0x20 := by
    cases hc : f.custom3 with
    | none => decide
    | some n => exact h n (by rw [hc]; rfl)
  have hbit : ∀ check : Option Bool, ∃ k : Int, (k = 0 ∨ k = 1) ∧ check.getD false = decide (k = 1) ∧
      ∀ weight : Int, (if check = some true then weight else 0) = weight * k := by
    intro check
    match check with
    | none => exact ⟨0, .inl rfl, rfl, fun weight => by simp⟩
    | some false => exact ⟨0, .inl rfl, rfl, fun weight => by simp⟩
    | some true => exact ⟨1, .inr rfl, rfl, fun weight => by simp⟩
  obtain ⟨k1, hk1, hcheck1, hweight1⟩ := hbit f.check1
  obtain ⟨k2, hk2, hcheck2, hweight2⟩ := hbit f.check2
  obtain ⟨k3, hk3, hcheck3, hweight3⟩ := hbit f.check3
  have hpacked : f.packed = f.custom3.getD 0 % 0x20 + 0x20 * k1 + 0x40 * k2 + 0x80 * k3 := by
    rw [ControlFields.packed, hweight1, hweight2, hweight3]
  have hread : readByte [byte f.packed] = f.packed := byte_fits (by omega) (by omega)
  rw [hread, hpacked, hcheck1, hcheck2, hcheck3]
  refine ⟨by omega, ?_, ?_, ?_⟩ <;> refine decide_eq_decide.mpr ?_ <;> omega

/-- **The fields that arrive.** -/
theorem read_chunks (h : f.InRange) : readExt (readMain (mainChunks f)) (extChunks f) = f.filled := by
  unfold readMain readExt mainChunks extChunks
  dsimp only
  rw [read_map h.brightness, read_map h.mode, read_map h.speed, read_map h.intensity, read_map h.custom1,
    read_map h.custom2, read_map h.palette, read_rgb h.color1, read_rgb h.color2, read_rgb h.color3]
  obtain ⟨hcustom3, hcheck1, hcheck2, hcheck3⟩ := packed_read h.custom3
  unfold ControlFields.filled
  cases hhas : f.hasChecks with
  | true =>
    simp only [if_pos, Option.map_some, hcustom3, hcheck1, hcheck2, hcheck3]
  | false =>
    have hnone : f.custom3 = none ∧ f.check1 = none ∧ f.check2 = none ∧ f.check3 = none := by
      simpa [ControlFields.hasChecks, and_assoc] using hhas
    simp only [Bool.false_eq_true, if_false, Option.map_none]
    obtain ⟨hcustom3, hcheck1, hcheck2, hcheck3⟩ := hnone
    obtain ⟨brightness, mode, speed, intensity, custom1, custom2, custom3, check1, check2, check3, palette, color1,
      color2, color3⟩ := f
    dsimp only at hcustom3 hcheck1 hcheck2 hcheck3
    rw [hcustom3, hcheck1, hcheck2, hcheck3]

/-! ### The body -/

/-- The body that the chunks make. -/
def chunksBody (groupId flags : Int) (f : ControlFields) : Bytes :=
  let ext := maskOf extSlots (extChunks f)
  let present := ext != 0
  byte groupId :: byte flags ::
    UInt8.ofNat ((if present then 2 ^ extBit else 0) ||| maskOf mainSlots (mainChunks f)) ::
    (dataOf (mainChunks f) ++ if present then UInt8.ofNat ext :: dataOf (extChunks f) else [])

theorem main_mask_lt (f : ControlFields) : maskOf mainSlots (mainChunks f) < 2 ^ 7 :=
  maskOf_lt (by decide)

theorem ext_mask_lt (f : ControlFields) : maskOf extSlots (extChunks f) < 2 ^ 4 :=
  maskOf_lt (by decide)

theorem announces_main (f : ControlFields) (present : Bool) :
    Announces ((if present then 2 ^ extBit else 0) ||| maskOf mainSlots (mainChunks f)) mainSlots (mainChunks f) :=
  (announces_maskOf (by decide) (fills_main f)).or_field (by decide) present

theorem announces_ext (h : f.InRange) : Announces (maskOf extSlots (extChunks f)) extSlots (extChunks f) :=
  announces_maskOf (by decide) (fills_ext h)

/-- The mask byte, as the receiver reads it. -/
theorem mask_read (f : ControlFields) (present : Bool) :
    (UInt8.ofNat ((if present then 2 ^ extBit else 0) ||| maskOf mainSlots (mainChunks f))).toNat =
      (if present then 2 ^ extBit else 0) ||| maskOf mainSlots (mainChunks f) := by
  refine UInt8.toNat_ofNat_of_lt' ?_
  have hmain : maskOf mainSlots (mainChunks f) < 2 ^ 8 := Nat.lt_trans (main_mask_lt f) (by decide)
  exact Nat.or_lt_two_pow (by cases present <;> decide) hmain

theorem ext_bit_read (f : ControlFields) (present : Bool) :
    ((if present then 2 ^ extBit else 0) ||| maskOf mainSlots (mainChunks f)).testBit extBit = present := by
  have hmain : (maskOf mainSlots (mainChunks f)).testBit extBit = false := Nat.testBit_lt_two_pow (main_mask_lt f)
  rw [Nat.testBit_or, testBit_field, decide_eq_true rfl, Bool.and_true, hmain, Bool.or_false]

theorem length_main (f : ControlFields) (present : Bool) : (dataOf (mainChunks f)).length =
    announced mainSlots ((if present then 2 ^ extBit else 0) ||| maskOf mainSlots (mainChunks f)) :=
  length_dataOf (fills_main f) (announces_main f present)

theorem length_chunksBody_le (h : f.InRange) (groupId flags : Int) :
    3 ≤ (chunksBody groupId flags f).length ∧ (chunksBody groupId flags f).length ≤ 21 := by
  have hmain : (dataOf (mainChunks f)).length ≤ 7 := length_main f false ▸ announced_le ..
  have hext : (dataOf (extChunks f)).length ≤ 10 := length_dataOf (fills_ext h) (announces_ext h) ▸ announced_le ..
  unfold chunksBody
  dsimp only
  split <;> simp only [List.length_append, List.length_cons, List.length_nil] <;> omega

/-- **The builder makes the body of the chunks.** -/
theorem buildControlBody_eq (h : f.InRange) (groupId flags : Int) :
    buildControlBody groupId flags f = .ok (chunksBody groupId flags f) := by
  unfold buildControlBody
  rw [extTail_eq h, ok_bind, mainTail_eq]
  dsimp only
  have hbody : (if maskOf extSlots (extChunks f) = 0 then
        [byte groupId, byte flags, UInt8.ofNat (maskOf mainSlots (mainChunks f))] ++ dataOf (mainChunks f)
      else [byte groupId, byte flags, UInt8.ofNat (maskOf mainSlots (mainChunks f) ||| RL_CTRL_F_EXT)] ++
        dataOf (mainChunks f) ++ [UInt8.ofNat (maskOf extSlots (extChunks f))] ++ dataOf (extChunks f)) =
      chunksBody groupId flags f := by
    unfold chunksBody
    dsimp only
    by_cases hext : maskOf extSlots (extChunks f) = 0
    · have hpresent : (maskOf extSlots (extChunks f) != 0) = false := by simpa using hext
      rw [if_pos hext, hpresent, if_neg Bool.false_ne_true, if_neg Bool.false_ne_true, Nat.zero_or, List.append_nil]
      rfl
    · have hpresent : (maskOf extSlots (extChunks f) != 0) = true := by simpa using hext
      rw [if_neg hext, hpresent, if_pos rfl, if_pos rfl, Nat.or_comm, List.append_assoc, List.append_assoc]
      rfl
  rw [hbody, if_pos (Nat.le_trans (length_chunksBody_le h groupId flags).2 (by decide))]

/-- A body that was built starts with the header and the main chunks, whatever the fields were. -/
theorem buildControlBody_starts {body : Bytes} (h : buildControlBody groupId flags f = .ok body) :
    ∃ present : Bool, ∃ rest, body = byte groupId :: byte flags ::
      UInt8.ofNat ((if present then 2 ^ extBit else 0) ||| maskOf mainSlots (mainChunks f)) ::
        (dataOf (mainChunks f) ++ rest) := by
  obtain ⟨ext, -, h⟩ := bind_ok.mp h
  rw [mainTail_eq] at h
  dsimp only at h
  by_cases hext : ext.1 = 0
  · rw [if_pos hext] at h
    split at h
    · rw [← Except.ok.inj h]
      refine ⟨false, [], ?_⟩
      rw [if_neg Bool.false_ne_true, Nat.zero_or, List.append_nil]
      rfl
    · cases h
  · rw [if_neg hext] at h
    split at h
    · rw [← Except.ok.inj h]
      refine ⟨true, [UInt8.ofNat ext.1] ++ ext.2, ?_⟩
      rw [if_pos rfl, Nat.or_comm, List.append_assoc, List.append_assoc]
      rfl
    · cases h

/-- The extended mask, as the receiver reads it. -/
theorem ext_read (f : ControlFields) :
    (UInt8.ofNat (maskOf extSlots (extChunks f))).toNat = maskOf extSlots (extChunks f) :=
  UInt8.toNat_ofNat_of_lt' (Nat.lt_trans (ext_mask_lt f) (by decide))

/-- **The receiver reads the fields that arrive.** -/
theorem parse_chunksBody (h : f.InRange) (hg : IsByte groupId) (hf : IsByte flags) :
    parseControlBody (chunksBody groupId flags f) = some (groupId, flags, f.filled) := by
  have hgroup : ((byte groupId).toNat : Int) = groupId := byte_fits hg.1 hg.2
  have hflags : ((byte flags).toNat : Int) = flags := byte_fits hf.1 hf.2
  have hfields := read_chunks h
  unfold chunksBody parseControlBody
  dsimp only
  rw [mask_read, takeChunks_dataOf (fills_main f) (announces_main f _)]
  dsimp only
  rw [ext_bit_read, hgroup, hflags]
  by_cases hext : maskOf extSlots (extChunks f) = 0
  · have hpresent : (maskOf extSlots (extChunks f) != 0) = false := by simpa using hext
    have hnone : extChunks f = extSlots.map fun _ => none := (hext ▸ announces_ext h).none_of_zero
    rw [hnone] at hfields
    rw [hpresent, if_neg Bool.false_ne_true, if_neg Bool.false_ne_true, if_pos rfl, ← hfields]
    rfl
  · have hpresent : (maskOf extSlots (extChunks f) != 0) = true := by simpa using hext
    have hsplit := takeChunks_dataOf (fills_ext h) (announces_ext h) []
    rw [List.append_nil] at hsplit
    rw [hpresent, if_pos rfl, if_pos rfl]
    dsimp only
    rw [ext_read, hsplit]
    dsimp only
    rw [hfields]

/-- **The length is that of the header and the fields announced.** -/
theorem length_chunksBody (h : f.InRange) (groupId flags : Int) :
    (chunksBody groupId flags f).length = controlLength (chunksBody groupId flags f) := by
  unfold chunksBody controlLength
  dsimp only
  rw [mask_read, ext_bit_read, ← length_main f (maskOf extSlots (extChunks f) != 0)]
  simp only [List.length_cons, List.length_append]
  cases hpresent : maskOf extSlots (extChunks f) != 0 with
  | false =>
    rw [if_neg Bool.false_ne_true, if_neg Bool.false_ne_true, List.length_nil]
    omega
  | true =>
    have hext := length_dataOf (fills_ext h) (announces_ext h)
    rw [if_pos rfl, if_pos rfl, List.length_cons, List.getD_append_right _ _ _ _ (Nat.le_refl _), Nat.sub_self,
      List.getD_cons_zero, ext_read, hext]
    omega

/-- The body depends on the fields that arrive. -/
theorem chunksBody_filled (groupId flags : Int) (f : ControlFields) :
    chunksBody groupId flags f.filled = chunksBody groupId flags f := by
  cases hhas : f.hasChecks with
  | false =>
    have hsame : f.filled = f := by
      unfold ControlFields.filled
      rw [hhas]
      rfl
    rw [hsame]
  | true =>
    have hfilled : f.filled = {f with
        custom3 := some (f.custom3.getD 0)
        check1 := some (f.check1.getD false)
        check2 := some (f.check2.getD false)
        check3 := some (f.check3.getD false)} := by
      unfold ControlFields.filled
      rw [hhas]
      rfl
    have hcheck : ∀ check : Option Bool, (some (check.getD false) = some true) ↔ check = some true := by
      rintro (_ | b) <;> simp
    have hpacked : f.filled.packed = f.packed := by
      rw [hfilled]
      unfold ControlFields.packed
      simp only [hcheck, Option.getD_some]
    have hmain : mainChunks f.filled = mainChunks f := by
      unfold mainChunks
      rw [hpacked, hhas, hfilled]
      rfl
    have hext : extChunks f.filled = extChunks f := by
      rw [hfilled]
      rfl
    unfold chunksBody
    rw [hmain, hext]

/-- **The control codec**: the receiver reads the fields that were given, and with one of the packed byte
the four of it; the length is announced by the masks; and two calls make the same body just when the
same fields arrive. -/
theorem control_codec :
    (∀ groupId flags f, IsByte groupId → IsByte flags → f.InRange → ∃ body,
      buildControlBody groupId flags f = .ok body ∧ parseControlBody body = some (groupId, flags, f.filled) ∧
        body.length = controlLength body ∧ 3 ≤ body.length ∧ body.length ≤ 21) ∧
    ∀ groupId flags f groupId' flags' f', IsByte groupId → IsByte flags → f.InRange →
      IsByte groupId' → IsByte flags' → f'.InRange →
      (buildControlBody groupId flags f = buildControlBody groupId' flags' f' ↔
        groupId = groupId' ∧ flags = flags' ∧ f.filled = f'.filled) := by
  refine ⟨fun groupId flags f hg hf h => ⟨chunksBody groupId flags f, buildControlBody_eq h groupId flags,
    parse_chunksBody h hg hf, length_chunksBody h groupId flags, length_chunksBody_le h groupId flags⟩,
    fun groupId flags f groupId' flags' f' hg hf h hg' hf' h' => ⟨fun hsame => ?_, ?_⟩⟩
  · rw [buildControlBody_eq h, buildControlBody_eq h'] at hsame
    have hread := parse_chunksBody h hg hf
    rw [Except.ok.inj hsame, parse_chunksBody h' hg' hf'] at hread
    simpa [eq_comm] using hread
  · rintro ⟨rfl, rfl, hfilled⟩
    rw [buildControlBody_eq h, buildControlBody_eq h', ← chunksBody_filled, hfilled, chunksBody_filled]

/-! ### A check alone -/

/-- The second check is given, and with it `custom3` or not. -/
def checkOnly : ControlFields := { check2 := some true }
def checkAndCustom : ControlFields := { custom3 := some 0, check2 := some true }

theorem checkOnly_inRange : checkOnly.InRange :=
  ⟨nofun, nofun, nofun, nofun, nofun, nofun, nofun, nofun, nofun, nofun, nofun⟩

theorem checkAndCustom_inRange : checkAndCustom.InRange where
  brightness := nofun
  mode := nofun
  speed := nofun
  intensity := nofun
  custom1 := nofun
  custom2 := nofun
  custom3 n hn := by
    obtain rfl := Option.some.inj hn
    decide
  palette := nofun
  color1 := nofun
  color2 := nofun
  color3 := nofun

theorem control_codec_check :
    (∃ body, buildControlBody 3 1 checkOnly = .ok body ∧ parseControlBody body = some (3, 1, checkOnly.filled) ∧
      body.length = controlLength body ∧ 3 ≤ body.length ∧ body.length ≤ 21) ∧
    (buildControlBody 3 1 checkOnly = buildControlBody 3 1 checkAndCustom ↔
      (3 : Int) = 3 ∧ (1 : Int) = 1 ∧ checkOnly.filled = checkAndCustom.filled) :=
  have hthree : IsByte 3 := by unfold IsByte; decide
  have hone : IsByte 1 := by unfold IsByte; decide
  ⟨control_codec.1 3 1 checkOnly hthree hone checkOnly_inRange,
    control_codec.2 3 1 checkOnly 3 1 checkAndCustom hthree hone checkOnly_inRange hthree hone
      checkAndCustom_inRange⟩

/-- Two calls that differ in `custom3` make the same body, from which it is read that it was given. -/
theorem control_codec_shared :
    buildControlBody 3 1 checkOnly = buildControlBody 3 1 checkAndCustom ∧
      checkOnly.custom3 ≠ checkAndCustom.custom3 ∧
      parseControlBody [3, 1, 0x40, 0x40] =
        some (3, 1, { custom3 := some 0, check1 := some false, check2 := some true, check3 := some false }) ∧
      buildControlBody 3 1 checkOnly = .ok [3, 1, 0x40, 0x40] :=
  ⟨rfl, by decide, by decide +kernel, rfl⟩

end RaceLink.Protocol
