import RaceLink.Library.LittleEndian
import Mathlib.Data.Nat.Bitwise

/-! Optional fields that a mask announces.

The fields stand in a fixed order. Each has a bit of the mask and a size in bytes; a field whose bit is
not set takes no room. What was joined so is split again by the mask alone. -/
namespace RaceLink.Library

/-- The bit of a field in the mask, and its size in bytes. -/
structure Slot where
  bit : Nat
  size : Nat

/-- The mask of the fields that are present. -/
def maskOf : List Slot → List (Option Bytes) → Nat
  | slot :: slots, chunk :: chunks => (if chunk.isSome then 2 ^ slot.bit else 0) ||| maskOf slots chunks
  | _, _ => 0

/-- The bytes of the fields that are present. -/
def dataOf (chunks : List (Option Bytes)) : Bytes := chunks.flatMap fun chunk => chunk.getD []

/-- The fields that a mask announces, and the bytes after them. -/
def takeChunks : List Slot → Nat → Bytes → Option (List (Option Bytes) × Bytes)
  | [], _, bytes => some ([], bytes)
  | slot :: slots, mask, bytes =>
    if mask.testBit slot.bit then
      if slot.size ≤ bytes.length then
        (takeChunks slots mask (bytes.drop slot.size)).map fun r => (some (bytes.take slot.size) :: r.1, r.2)
      else none
    else (takeChunks slots mask bytes).map fun r => (none :: r.1, r.2)

/-- How many bytes the fields take that a mask announces. -/
def announced (slots : List Slot) (mask : Nat) : Nat :=
  (slots.map fun slot => if mask.testBit slot.bit then slot.size else 0).sum

/-- A chunk for each slot, of its size if it is there. -/
def Fills : List Slot → List (Option Bytes) → Prop := List.Forall₂ fun slot chunk => ∀ b ∈ chunk, b.length = slot.size

/-- The mask announces just the chunks that are there. -/
def Announces (mask : Nat) : List Slot → List (Option Bytes) → Prop :=
  List.Forall₂ fun slot chunk => mask.testBit slot.bit = chunk.isSome

variable {slots : List Slot} {chunks : List (Option Bytes)} {mask : Nat}

/-! ### The mask -/

theorem testBit_field (present : Bool) (bit i : Nat) :
    (if present then 2 ^ bit else 0 : Nat).testBit i = (present && decide (bit = i)) := by
  cases present
  · simp
  · simp [Nat.testBit_two_pow]

/-- The mask has no bit that belongs to no field. -/
theorem testBit_maskOf_of_not_mem {i : Nat} (h : i ∉ slots.map Slot.bit) : (maskOf slots chunks).testBit i = false := by
  induction slots generalizing chunks with
  | nil => cases chunks <;> exact Nat.zero_testBit i
  | cons slot slots ih =>
    cases chunks with
    | nil => exact Nat.zero_testBit i
    | cons chunk chunks =>
      rw [List.map_cons, List.mem_cons, not_or] at h
      rw [maskOf, Nat.testBit_or, testBit_field, ih h.2, decide_eq_false (Ne.symm h.1), Bool.and_false]
      rfl

theorem Announces.or_field (h : Announces mask slots chunks) {bit : Nat} (hbit : bit ∉ slots.map Slot.bit)
    (present : Bool) : Announces ((if present then 2 ^ bit else 0) ||| mask) slots chunks := by
  induction h with
  | nil => exact .nil
  | cons hhead _ ih =>
    rw [List.map_cons, List.mem_cons, not_or] at hbit
    refine .cons ?_ (ih hbit.2)
    rw [Nat.testBit_or, testBit_field, decide_eq_false hbit.1, Bool.and_false, Bool.false_or]
    exact hhead

/-- **The mask of the fields announces them**, when each has a bit of its own. -/
theorem announces_maskOf (hdistinct : (slots.map Slot.bit).Nodup) (h : Fills slots chunks) :
    Announces (maskOf slots chunks) slots chunks := by
  induction h with
  | nil => exact .nil
  | @cons slot chunk slots chunks _ _ ih =>
    obtain ⟨hnew, hrest⟩ := List.nodup_cons.mp hdistinct
    refine .cons ?_ ((ih hrest).or_field hnew chunk.isSome)
    rw [maskOf, Nat.testBit_or, testBit_field, testBit_maskOf_of_not_mem hnew, decide_eq_true rfl, Bool.and_true,
      Bool.or_false]

theorem maskOf_lt {n : Nat} (h : ∀ slot ∈ slots, slot.bit < n) : maskOf slots chunks < 2 ^ n := by
  refine Nat.lt_pow_two_of_testBit _ fun i hi => testBit_maskOf_of_not_mem fun hmem => ?_
  obtain ⟨slot, hslot, rfl⟩ := List.mem_map.mp hmem
  exact absurd (h slot hslot) (Nat.not_lt.mpr hi)

/-- No field is there when the mask is zero. -/
theorem Announces.none_of_zero (h : Announces 0 slots chunks) : chunks = slots.map fun _ => none := by
  induction h with
  | nil => rfl
  | @cons slot chunk _ _ hhead _ ih =>
    rw [Nat.zero_testBit] at hhead
    have hnone : chunk = none := by simpa using hhead.symm
    rw [List.map_cons, ← ih, hnone]

/-! ### The bytes -/

/-- **What was joined is split again.** -/
theorem takeChunks_dataOf (h : Fills slots chunks) (hmask : Announces mask slots chunks) (rest : Bytes) :
    takeChunks slots mask (dataOf chunks ++ rest) = some (chunks, rest) := by
  induction h with
  | nil => rfl
  | @cons slot chunk slots chunks hhead _ ih =>
    cases hmask with
    | cons hbit htail =>
      cases chunk with
      | none =>
        rw [takeChunks, hbit, if_neg (by simp)]
        show (takeChunks slots mask (dataOf chunks ++ rest)).map _ = _
        rw [ih htail]
        rfl
      | some bytes =>
        have hlength : bytes.length = slot.size := hhead bytes rfl
        have hdata : dataOf (some bytes :: chunks) ++ rest = bytes ++ (dataOf chunks ++ rest) := by
          rw [← List.append_assoc]
          rfl
        rw [takeChunks, hbit, Option.isSome_some, if_pos rfl, hdata, ← hlength, List.take_left, List.drop_left, ih htail,
          if_pos (by rw [List.length_append]; exact Nat.le_add_right ..)]
        rfl

theorem length_dataOf (h : Fills slots chunks) (hmask : Announces mask slots chunks) :
    (dataOf chunks).length = announced slots mask := by
  induction h with
  | nil => rfl
  | @cons slot chunk slots chunks hhead _ ih =>
    cases hmask with
    | cons hbit htail =>
      have hdata : dataOf (chunk :: chunks) = chunk.getD [] ++ dataOf chunks := rfl
      have hsum : announced (slot :: slots) mask = (if mask.testBit slot.bit then slot.size else 0) + announced slots mask :=
        rfl
      rw [hdata, List.length_append, ih htail, hsum, hbit]
      cases chunk with
      | none => rfl
      | some bytes => rw [Option.getD_some, hhead bytes rfl, Option.isSome_some, if_pos rfl]

theorem announced_le (slots : List Slot) (mask : Nat) : announced slots mask ≤ (slots.map Slot.size).sum := by
  induction slots with
  | nil => exact Nat.le_refl _
  | cons slot slots ih =>
    refine Nat.add_le_add ?_ ih
    show (if mask.testBit slot.bit then slot.size else 0) ≤ slot.size
    split
    · exact Nat.le_refl _
    · exact Nat.zero_le _

end RaceLink.Library
