import Mathlib.Data.List.TakeWhile
import RaceLink.Library.Lists
import RaceLink.Library.LittleEndian
import RaceLink.Python.Value

/-! The payload of one start slot (`services/startblock_service.py`): version, slot, two characters of the
channel, and the pilot's name behind its length.

The name is cleaned first. The pattern for the characters that stay ignores case, and so lets four letters
through that are no ASCII; what of them is left in a name is written as a question mark. `upperOf` is
`str.upper` on one character, with the whole Unicode table behind it. -/
namespace RaceLink.Startblock
open Python Library

def STARTBLOCK_VER : UInt8 := 0x01

/-- `_DE_UMLAUT_MAP`, as the file has it: each key is the UTF-8 of a German letter read as another encoding. -/
def deUmlautMap : List ((Char × Char) × List Char) :=
  let key := fun second => (Char.ofNat 0xC3, Char.ofNat second)
  [(key 0xA4, ['a', 'e']), (key 0xB6, ['o', 'e']), (key 0xBC, ['u', 'e']), (key 0x178, ['s', 's']),
    (key 0x201E, ['A', 'E']), (key 0x2013, ['O', 'E']), (key 0x153, ['U', 'E'])]

/-- `str.replace` of two characters. -/
def replacePair (old : Char × Char) (new : List Char) : List Char → List Char
  | c :: d :: rest =>
    if c = old.1 ∧ d = old.2 then new ++ replacePair old new rest else c :: replacePair old new (d :: rest)
  | cs => cs

/-- The letters that `[A-Z]` matches without regard to case, and that are no ASCII. -/
def foldedLetters : List Char := [Char.ofNat 0x130, Char.ofNat 0x131, Char.ofNat 0x17F, Char.ofNat 0x212A]

/-- `_ALLOWED_NAME_RE` leaves a character. -/
def allowedInName (c : Char) : Bool :=
  ('A' ≤ c && c ≤ 'Z') || ('a' ≤ c && c ≤ 'z') || ('0' ≤ c && c ≤ '9') || c ∈ [' ', '_', '-', '.', '+'] ||
    c ∈ foldedLetters

/-- `_ALLOWED_NAME_RE.sub(" ", name)` on a character. -/
def blankOthers (c : Char) : Char := if allowedInName c then c else ' '

/-- `re.sub(r"\s+", " ", name)`. -/
def collapseBlanks : List Char → List Char
  | [] => []
  | c :: rest =>
    if isSpace c then
      if (rest.head?.map isSpace).getD false then collapseBlanks rest else ' ' :: collapseBlanks rest
    else c :: collapseBlanks rest

section Text
variable (upperOf : Char → List Char)

/-- The first lines of `sanitize_pilot_name`: the table, no blanks around, upper case. -/
def upperName (name : List Char) : List Char :=
  (stripChars (deUmlautMap.foldl (fun name entry => replacePair entry.1 entry.2 name) name)).flatMap upperOf

/-- `sanitize_pilot_name`. -/
def sanitizePilotName (name : List Char) (maxLen : Int) : List Char :=
  let name := (upperName upperOf name).map blankOthers
  let name := stripChars (collapseBlanks name)
  if 0 < maxLen then name.take maxLen.toNat else name

/-- `str.encode("ascii", errors="replace")` of one character. -/
def asciiByte (c : Char) : UInt8 := if c.toNat < 128 then UInt8.ofNat c.toNat else 63

/-- `encode_channel_fixed2`. -/
def encodeChannelFixed2 (label : List Char) : Bytes :=
  (((stripChars label).flatMap upperOf ++ ['-', '-']).take 2).map asciiByte

/-- The bytes of a name: UTF-8 if that is asked for, else ASCII. -/
def encodeName (nameEncoding : String) (name : List Char) : Bytes :=
  if lower nameEncoding = "utf-8" then (String.ofList name).toUTF8.toList else name.map asciiByte

/-- `build_startblock_payload_v1`. -/
def buildStartblockPayloadV1 (slot : Int) (channelLabel pilotName : List Char) (maxNameLen : Int)
    (nameEncoding : String) : Bytes :=
  let slotB := max 0 (min 255 slot)
  let chan2 := encodeChannelFixed2 upperOf channelLabel
  let nameBytes := (encodeName nameEncoding (sanitizePilotName upperOf pilotName maxNameLen)).take 255
  STARTBLOCK_VER :: UInt8.ofNat slotB.toNat :: (chan2 ++ UInt8.ofNat nameBytes.length :: nameBytes)

/-- The payload with the defaults of its last two arguments. -/
def startblockPayload (slot : Int) (channelLabel pilotName : List Char) : Bytes :=
  buildStartblockPayloadV1 upperOf slot channelLabel pilotName 32 "ascii"

end Text

/-! ### The layout -/

/-- What a payload says. -/
structure SlotInfo where
  slot : Nat
  channel : List Char
  name : List Char
deriving DecidableEq, Repr

def charsOf (bytes : Bytes) : List Char := bytes.map fun b => Char.ofNat b.toNat

/-- A payload read by its layout, all of it. -/
def readPayload : Bytes → Option SlotInfo
  | version :: slot :: first :: second :: length :: name =>
    if version = STARTBLOCK_VER ∧ name.length = length.toNat then
      some ⟨slot.toNat, charsOf [first, second], charsOf name⟩
    else none
  | _ => none

/-- A character as the wire has it. -/
def shown (c : Char) : Char := if c.toNat < 128 then c else '?'

theorem charsOf_ascii (cs : List Char) : charsOf (cs.map asciiByte) = cs.map shown := by
  rw [charsOf, List.map_map]
  apply List.map_congr_left
  intro c _
  show Char.ofNat (asciiByte c).toNat = shown c
  unfold asciiByte shown
  split
  · next h =>
    have hfits : (UInt8.ofNat c.toNat).toNat = c.toNat := by
      rw [UInt8.toNat_ofNat']
      omega
    rw [hfits, Char.ofNat_toNat]
  · rfl

/-! ### The characters that stay -/

theorem ascii_of_allowed {c : Char} (h : allowedInName c = true) (hfolded : c ∉ foldedLetters) : c.toNat < 128 := by
  have hrange : ∀ {hi : Char}, hi.toNat < 128 → c ≤ hi → c.toNat < 128 := by
    intro hi hhi hle
    have hnat : c.toNat ≤ hi.toNat := hle
    omega
  simp only [allowedInName, Bool.or_eq_true, Bool.and_eq_true, decide_eq_true_eq] at h
  obtain (((h | h) | h) | h) | h := h
  · exact hrange (by decide) h.2
  · exact hrange (by decide) h.2
  · exact hrange (by decide) h.2
  · have hall : ∀ d ∈ [' ', '_', '-', '.', '+'], d.toNat < 128 := List.forall_iff_forall_mem.mp (by decide)
    exact hall c h
  · exact absurd h hfolded

theorem folded_allowed {c : Char} (h : c ∈ foldedLetters) : allowedInName c = true := by
  simp [allowedInName, h]

theorem folded_not_ascii : ∀ c ∈ foldedLetters, ¬ c.toNat < 128 :=
  List.forall_iff_forall_mem.mp (by decide)

theorem folded_not_space : ∀ c ∈ foldedLetters, isSpace c = false :=
  List.forall_iff_forall_mem.mp (by decide)

theorem blankOthers_allowed (c : Char) : allowedInName (blankOthers c) = true := by
  unfold blankOthers
  split
  · assumption
  · decide

/-! ### Blanks -/

theorem mem_collapseBlanks {c : Char} {cs : List Char} (h : c ∈ collapseBlanks cs) : c = ' ' ∨ c ∈ cs := by
  induction cs with
  | nil => exact absurd h (by simp [collapseBlanks])
  | cons d rest ih =>
    have hrest : c ∈ collapseBlanks rest → c = ' ' ∨ c ∈ d :: rest :=
      fun hmem => (ih hmem).imp_right (List.mem_cons_of_mem d)
    unfold collapseBlanks at h
    split at h
    · split at h
      · exact hrest h
      · obtain rfl | h := List.mem_cons.mp h
        · exact .inl rfl
        · exact hrest h
    · obtain rfl | h := List.mem_cons.mp h
      · exact .inr (List.mem_cons_self ..)
      · exact hrest h

/-- A character that is no blank ends the blanks before it. -/
theorem collapseBlanks_append {c : Char} (hc : isSpace c = false) (before after : List Char) :
    collapseBlanks (before ++ c :: after) = collapseBlanks before ++ c :: collapseBlanks after := by
  induction before with
  | nil => simp [collapseBlanks, hc]
  | cons d rest ih =>
    rw [List.cons_append, collapseBlanks, ih, collapseBlanks]
    cases rest with
    | nil => cases isSpace d <;> simp [hc, collapseBlanks]
    | cons e rest =>
      simp only [List.cons_append, List.head?_cons, Option.map_some, Option.getD_some]
      by_cases hd : isSpace d = true <;> by_cases he : isSpace e = true <;> simp [hd, he]

theorem dropWhile_append_cons {α : Type} {p : α → Bool} {x : α} (hx : p x = false) (before after : List α) :
    (before ++ x :: after).dropWhile p = before.dropWhile p ++ x :: after := by
  rw [List.dropWhile_append]
  split
  · next h => simp [List.isEmpty_iff.mp h, hx]
  · rfl

theorem stripChars_append {c : Char} (hc : isSpace c = false) (before after : List Char) :
    ∃ rest, stripChars (before ++ c :: after) = before.dropWhile isSpace ++ c :: rest := by
  refine ⟨(after.reverse.dropWhile isSpace).reverse, ?_⟩
  rw [stripChars, dropWhile_append_cons hc, List.reverse_append, List.reverse_cons, List.append_assoc]
  show ((after.reverse ++ c :: _).dropWhile isSpace).reverse = _
  rw [dropWhile_append_cons hc]
  simp

theorem mem_stripChars {c : Char} {cs : List Char} (h : c ∈ stripChars cs) : c ∈ cs :=
  (trimBy_contiguous isSpace cs).subset h

/-! ### The sanitised name -/

section Name
variable {upperOf : Char → List Char}

theorem sanitizePilotName_length (name : List Char) {maxLen : Int} (h : 0 < maxLen) :
    (sanitizePilotName upperOf name maxLen).length ≤ maxLen.toNat := by
  rw [sanitizePilotName, if_pos h, List.length_take]
  exact min_le_left ..

theorem mem_sanitizePilotName {name : List Char} {maxLen : Int} {c : Char} (h : c ∈ sanitizePilotName upperOf name maxLen) :
    c = ' ' ∨ ∃ d ∈ upperName upperOf name, blankOthers d = c := by
  have hcleaned : c ∈ stripChars (collapseBlanks ((upperName upperOf name).map blankOthers)) := by
    rw [sanitizePilotName] at h
    split at h
    · exact List.mem_of_mem_take h
    · exact h
  exact (mem_collapseBlanks (mem_stripChars hcleaned)).imp_right List.mem_map.mp

theorem sanitizePilotName_allowed {name : List Char} {maxLen : Int} {c : Char}
    (h : c ∈ sanitizePilotName upperOf name maxLen) : allowedInName c = true := by
  obtain rfl | ⟨d, _, rfl⟩ := mem_sanitizePilotName h
  · decide
  · exact blankOthers_allowed d

theorem folded_of_blankOthers {c : Char} (h : blankOthers c ∈ foldedLetters) : c ∈ foldedLetters := by
  unfold blankOthers at h
  split at h
  · exact h
  · exact absurd h (by decide)

/-- What is kept of a text before the first of the letters that are no ASCII. -/
def keptBeforeFolded (text : List Char) : List Char :=
  (collapseBlanks ((text.takeWhile fun c => c ∉ foldedLetters).map blankOthers)).dropWhile isSpace

theorem keptBeforeFolded_plain {text : List Char} {c : Char} (h : c ∈ keptBeforeFolded text) : c ∉ foldedLetters := by
  obtain rfl | hmem := mem_collapseBlanks (List.dropWhile_subset _ h)
  · decide
  · obtain ⟨d, hd, rfl⟩ := List.mem_map.mp hmem
    intro hfolded
    exact absurd (folded_of_blankOthers hfolded) (by simpa using List.mem_takeWhile_imp hd)

theorem exists_first_folded {text : List Char} (h : ∃ c ∈ text, c ∈ foldedLetters) :
    ∃ c rest, c ∈ foldedLetters ∧ text = text.takeWhile (fun c => c ∉ foldedLetters) ++ c :: rest := by
  have hsplit := List.takeWhile_append_dropWhile (p := fun c => decide (c ∉ foldedLetters)) (l := text)
  cases hrest : text.dropWhile fun c => decide (c ∉ foldedLetters) with
  | nil =>
    obtain ⟨c, hc, hfolded⟩ := h
    rw [hrest, List.append_nil] at hsplit
    rw [← hsplit] at hc
    exact absurd hfolded (by simpa using List.mem_takeWhile_imp hc)
  | cons c rest =>
    refine ⟨c, rest, ?_, by rw [← hrest, hsplit]⟩
    simpa using head_dropWhile (fun c => decide (c ∉ foldedLetters)) text c (by rw [hrest]; rfl)

/-- A name keeps a letter that is no ASCII just if its upper case has one, with fewer characters kept
before it than the name may have. -/
theorem sanitizePilotName_folded (name : List Char) {maxLen : Int} (hlen : 0 < maxLen) :
    (∃ c ∈ sanitizePilotName upperOf name maxLen, c ∈ foldedLetters) ↔
      (∃ c ∈ upperName upperOf name, c ∈ foldedLetters) ∧
        (keptBeforeFolded (upperName upperOf name)).length < maxLen.toNat := by
  by_cases hany : ∃ c ∈ upperName upperOf name, c ∈ foldedLetters
  · obtain ⟨c, after, hfolded, htext⟩ := exists_first_folded hany
    have hsame : blankOthers c = c := if_pos (folded_allowed hfolded)
    obtain ⟨rest, hcleaned⟩ : ∃ rest, stripChars (collapseBlanks ((upperName upperOf name).map blankOthers)) =
        keptBeforeFolded (upperName upperOf name) ++ c :: rest := by
      rw [htext, List.map_append, List.map_cons, hsame, collapseBlanks_append (folded_not_space c hfolded), ← htext]
      exact stripChars_append (folded_not_space c hfolded) _ _
    rw [sanitizePilotName, if_pos hlen, hcleaned]
    constructor
    · intro ⟨d, hd, hdfolded⟩
      refine ⟨hany, ?_⟩
      by_contra hlong
      rw [List.take_append_of_le_length (by omega)] at hd
      exact keptBeforeFolded_plain (List.mem_of_mem_take hd) hdfolded
    · intro ⟨_, hshort⟩
      refine ⟨c, ?_, hfolded⟩
      obtain ⟨n, hn⟩ : ∃ n, maxLen.toNat - (keptBeforeFolded (upperName upperOf name)).length = n + 1 :=
        ⟨_, (Nat.succ_pred_eq_of_pos (by omega)).symm⟩
      rw [List.take_append, hn]
      simp
  · refine iff_of_false ?_ fun h => hany h.1
    intro ⟨c, hc, hfolded⟩
    obtain rfl | ⟨d, hd, rfl⟩ := mem_sanitizePilotName hc
    · exact absurd hfolded (by decide)
    · exact hany ⟨d, hd, folded_of_blankOthers hfolded⟩

/-! ### A payload read back -/

/-- The channel as the wire has it. -/
def channelText (upperOf : Char → List Char) (label : List Char) : List Char :=
  (((stripChars label).flatMap upperOf ++ ['-', '-']).take 2).map shown

theorem channelText_length (label : List Char) : (channelText upperOf label).length = 2 := by
  simp [channelText]

theorem encodeName_ascii (name : List Char) : encodeName "ascii" name = name.map asciiByte :=
  if_neg (by decide)

/-- A payload with the defaults, part by part. -/
theorem startblockPayload_eq {slot : Int} (h : 0 ≤ slot) (h' : slot ≤ 255) (label name : List Char) :
    startblockPayload upperOf slot label name = STARTBLOCK_VER :: UInt8.ofNat slot.toNat ::
      (encodeChannelFixed2 upperOf label ++ UInt8.ofNat (sanitizePilotName upperOf name 32).length ::
        (sanitizePilotName upperOf name 32).map asciiByte) := by
  have hlength : (sanitizePilotName upperOf name 32).length ≤ 32 := sanitizePilotName_length name (by omega)
  have hslot : max 0 (min 255 slot) = slot := by omega
  have hname : ((sanitizePilotName upperOf name 32).map asciiByte).take 255 =
      (sanitizePilotName upperOf name 32).map asciiByte := by
    apply List.take_of_length_le
    rw [List.length_map]
    omega
  rw [startblockPayload, buildStartblockPayloadV1, encodeName_ascii, hslot, hname, List.length_map]

theorem startblockPayload_length {slot : Int} (h : 0 ≤ slot) (h' : slot ≤ 255) (label name : List Char) :
    (startblockPayload upperOf slot label name).length ≤ 37 := by
  have hlength : (sanitizePilotName upperOf name 32).length ≤ 32 := sanitizePilotName_length name (by omega)
  rw [startblockPayload_eq h h']
  simp [encodeChannelFixed2]
  omega

/-- A payload says its slot and channel, and the name with question marks for what is no ASCII. -/
theorem readPayload_startblockPayload {slot : Int} (h : 0 ≤ slot) (h' : slot ≤ 255) (label name : List Char) :
    readPayload (startblockPayload upperOf slot label name) =
      some ⟨slot.toNat, channelText upperOf label, (sanitizePilotName upperOf name 32).map shown⟩ := by
  have hlength : (sanitizePilotName upperOf name 32).length ≤ 32 := sanitizePilotName_length name (by omega)
  obtain ⟨first, second, hchannel⟩ : ∃ first second, encodeChannelFixed2 upperOf label = [first, second] := by
    apply List.length_eq_two.mp
    simp [encodeChannelFixed2]
  have htext : channelText upperOf label = charsOf [first, second] := by
    rw [← hchannel, encodeChannelFixed2, charsOf_ascii]
    rfl
  have hsize : ∀ n : Nat, n ≤ 255 → (UInt8.ofNat n).toNat = n := by
    intro n hn
    rw [UInt8.toNat_ofNat']
    omega
  rw [startblockPayload_eq h h', hchannel, htext, ← charsOf_ascii]
  show readPayload (STARTBLOCK_VER :: UInt8.ofNat slot.toNat :: first :: second :: _ :: _) = _
  rw [readPayload, if_pos ⟨rfl, by rw [List.length_map, hsize _ (by omega)]⟩, hsize _ (by omega)]

theorem map_shown_eq {cs : List Char} (h : ∀ c ∈ cs, allowedInName c = true) :
    cs.map shown = cs ↔ ∀ c ∈ cs, c ∉ foldedLetters := by
  rw [map_eq_self]
  refine forall₂_congr fun c hc => ⟨fun hshown hfolded => ?_, fun hplain => if_pos (ascii_of_allowed (h c hc) hplain)⟩
  rw [shown, if_neg (folded_not_ascii c hfolded)] at hshown
  exact absurd hfolded (by rw [← hshown]; decide)

/-- **A payload reads back as what it was made of just if the name keeps no letter that is no ASCII.** -/
theorem readPayload_exact {slot : Int} (h : 0 ≤ slot) (h' : slot ≤ 255) (label name : List Char) :
    readPayload (startblockPayload upperOf slot label name) =
        some ⟨slot.toNat, channelText upperOf label, sanitizePilotName upperOf name 32⟩ ↔
      ∀ c ∈ sanitizePilotName upperOf name 32, c ∉ foldedLetters := by
  rw [readPayload_startblockPayload h h', ← map_shown_eq fun c hc => sanitizePilotName_allowed hc]
  simp

end Name

end RaceLink.Startblock
