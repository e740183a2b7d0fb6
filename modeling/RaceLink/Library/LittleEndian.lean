import Mathlib.Data.Int.Order.Basic

/-! Integers of one, two and four bytes on the wire, the low byte first.

Writing keeps what fits and masks the rest; reading takes a pair of bytes as an
unsigned or as a signed number. Reading what was written gives a number in range
back. -/
namespace RaceLink.Library

abbrev Bytes := List UInt8

/-- The low byte of an integer. -/
def byte (n : Int) : UInt8 := UInt8.ofNat (n % 256).toNat

theorem byte_toNat (n : Int) : ((byte n).toNat : Int) = n % 256 := by
  have : (n % 256).toNat < 256 := by omega
  rw [byte, UInt8.toNat_ofNat_of_lt' this]
  omega

/-- A byte that fits is read back. -/
theorem byte_fits {n : Int} (h : 0 ≤ n) (h' : n ≤ 255) : ((byte n).toNat : Int) = n := by
  rw [byte_toNat]
  omega

theorem byte_eq_iff {m n : Int} : byte m = byte n ↔ m % 256 = n % 256 := by
  rw [← byte_toNat, ← byte_toNat, ← UInt8.toNat_inj]
  omega

/-- Two bytes, the low one first. -/
def le16 (n : Int) : Bytes := [byte n, byte (n / 256)]

def readU16 (lo hi : UInt8) : Int := lo.toNat + 256 * hi.toNat

def readI16 (lo hi : UInt8) : Int :=
  if readU16 lo hi < 32768 then readU16 lo hi else readU16 lo hi - 65536

theorem readU16_le16 {n : Int} (h : 0 ≤ n) (h' : n ≤ 65535) :
    readU16 (byte n) (byte (n / 256)) = n := by
  rw [readU16, byte_toNat, byte_toNat]
  omega

theorem readI16_le16 {n : Int} (h : -32768 ≤ n) (h' : n ≤ 32767) :
    readI16 (byte n) (byte (n / 256)) = n := by
  rw [readI16, readU16, byte_toNat, byte_toNat]
  split <;> omega

theorem byte_of_toNat (b : UInt8) : byte b.toNat = b := by
  have hb : b.toNat < 256 := b.toNat_lt
  have hread := byte_toNat b.toNat
  refine UInt8.toNat_inj.mp ?_
  omega

theorem readU16_range (lo hi : UInt8) : 0 ≤ readU16 lo hi ∧ readU16 lo hi ≤ 65535 := by
  have hlo : lo.toNat < 256 := lo.toNat_lt
  have hhi : hi.toNat < 256 := hi.toNat_lt
  unfold readU16
  omega

theorem readI16_range (lo hi : UInt8) : -32768 ≤ readI16 lo hi ∧ readI16 lo hi ≤ 32767 := by
  have h := readU16_range lo hi
  unfold readI16
  split <;> omega

/-- What was read is written as it was. -/
theorem le16_of_emod {n : Int} {lo hi : UInt8} (h : n % 65536 = readU16 lo hi) : le16 n = [lo, hi] := by
  have hlo : lo.toNat < 256 := lo.toNat_lt
  have hhi : hi.toNat < 256 := hi.toNat_lt
  unfold readU16 at h
  have hbytes : byte n = lo ∧ byte (n / 256) = hi := by
    rw [← byte_of_toNat lo, ← byte_of_toNat hi, byte_eq_iff, byte_eq_iff]
    omega
  rw [le16, hbytes.1, hbytes.2]

theorem le16_readU16 (lo hi : UInt8) : le16 (readU16 lo hi) = [lo, hi] := by
  have h := readU16_range lo hi
  exact le16_of_emod (by omega)

theorem le16_readI16 (lo hi : UInt8) : le16 (readI16 lo hi) = [lo, hi] := by
  have h := readU16_range lo hi
  refine le16_of_emod ?_
  unfold readI16
  split <;> omega

/-! ### One byte and four -/

/-- A byte as a signed number. -/
def readI8 (b : UInt8) : Int := if b.toNat < 128 then b.toNat else b.toNat - 256

theorem readI8_byte {n : Int} (h : -128 ≤ n) (h' : n ≤ 127) : readI8 (byte n) = n := by
  have hbyte := byte_toNat n
  rw [readI8]
  split <;> omega

/-- Four bytes, the low one first. -/
def le32 (n : Int) : Bytes := [byte n, byte (n / 256), byte (n / 65536), byte (n / 16777216)]

def readU32 (b0 b1 b2 b3 : UInt8) : Int := b0.toNat + 256 * b1.toNat + 65536 * b2.toNat + 16777216 * b3.toNat

theorem readU32_le32 {n : Int} (h : 0 ≤ n) (h' : n ≤ 4294967295) :
    readU32 (byte n) (byte (n / 256)) (byte (n / 65536)) (byte (n / 16777216)) = n := by
  rw [readU32, byte_toNat, byte_toNat, byte_toNat, byte_toNat]
  omega

/-! ### Clamping -/

def clamp (lo hi n : Int) : Int := max lo (min hi n)

theorem clamp_fits {lo hi n : Int} (h : lo ≤ n) (h' : n ≤ hi) : clamp lo hi n = n := by
  rw [clamp]
  omega

theorem clamp_range {lo hi : Int} (h : lo ≤ hi) (n : Int) : lo ≤ clamp lo hi n ∧ clamp lo hi n ≤ hi := by
  rw [clamp]
  omega

end RaceLink.Library
