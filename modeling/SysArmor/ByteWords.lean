import Mathlib.Data.Nat.Basic
import Mathlib.Tactic.Ring

/-! Byte strings with fixed-width big-endian fields, slices and the Castagnoli
checksum, as binary file formats use them. Nothing here refers to a particular format. -/
namespace SysArmor.ByteWords
open List

abbrev Bytes := List UInt8

/-- The low `8 * width` bits of `value`, most significant byte first. Higher bits
are dropped, as a conversion to an unsigned integer of that width drops them. -/
def putBE : Nat → Nat → Bytes
  | 0, _ => []
  | width + 1, value => UInt8.ofNat (value / 256 ^ width) :: putBE width value

def getBE (field : Bytes) : Nat := field.foldl (fun acc byte => acc * 256 + byte.toNat) 0

/-- `field[low:high]`. -/
def slice (field : Bytes) (low high : Nat) : Bytes := (field.take high).drop low

def utf8 (text : String) : Bytes := text.toList.flatMap String.utf8EncodeChar

@[simp] lemma putBE_length (width value : Nat) : (putBE width value).length = width := by
  induction width with
  | zero => rfl
  | succ width ih => simp [putBE,ih]

private lemma foldl_putBE (width value acc : Nat) :
    (putBE width value).foldl (fun acc byte => acc * 256 + byte.toNat) acc = acc * 256 ^ width + value % 256 ^ width := by
  induction width generalizing acc with
  | zero => simp [putBE,Nat.mod_one]
  | succ width ih =>
    have head : (UInt8.ofNat (value / 256 ^ width)).toNat = value / 256 ^ width % 256 := by simp
    have split : value % 256 ^ (width + 1) = value / 256 ^ width % 256 * 256 ^ width + value % 256 ^ width := by
      rw [pow_succ,Nat.mod_mul,Nat.mul_comm,Nat.add_comm]
    rw [putBE,foldl_cons,ih,head,split,pow_succ]
    ring

@[simp] lemma getBE_putBE (width value : Nat) : getBE (putBE width value) = value % 256 ^ width := by
  simp [getBE,foldl_putBE]

lemma getBE_putBE_of_lt (fits : value < 256 ^ width) : getBE (putBE width value) = value := by
  rw [getBE_putBE,Nat.mod_eq_of_lt fits]

lemma slice_middle (front field back : Bytes) (low : front.length = a)
    (high : front.length + field.length = b) : slice (front ++ field ++ back) a b = field := by
  subst low high
  have whole : front.length + field.length = (front ++ field).length := by simp
  rw [slice,whole,take_left,drop_left]

def castagnoliEntry : Nat → BitVec 32 → BitVec 32
  | 0, crc => crc
  | rounds + 1, crc =>
    castagnoliEntry rounds (if crc.getLsbD 0 then (crc >>> 1) ^^^ 0x82F63B78#32 else crc >>> 1)

def castagnoliUpdate (crc : BitVec 32) (byte : UInt8) : BitVec 32 :=
  castagnoliEntry 8 ((crc ^^^ byte.toBitVec.setWidth 32) &&& 0xFF#32) ^^^ (crc >>> 8)

def castagnoli (data : Bytes) : BitVec 32 :=
  ~~~ data.foldl castagnoliUpdate 0xFFFFFFFF#32

lemma castagnoli_stored (data : Bytes) : getBE (putBE 4 (castagnoli data).toNat) = (castagnoli data).toNat :=
  getBE_putBE_of_lt (castagnoli data).isLt

-- The check value of the CRC catalogue for the digits 1 to 9.
example : (castagnoli [0x31,0x32,0x33,0x34,0x35,0x36,0x37,0x38,0x39]).toNat = 0xE3069283 := by
  decide +kernel

end SysArmor.ByteWords
