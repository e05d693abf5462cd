import Mathlib.Data.List.Basic
import Mathlib.Data.Nat.ModEq
import Mathlib.Tactic.Ring

/-! Byte strings, byte arrays of a fixed length and little-endian integers. -/

namespace Foundation

abbrev Bytes := List UInt8

/-- A byte array whose length is part of its type. -/
@[ext] structure Octets (width : Nat) where
  bytes : Bytes
  length_eq : bytes.length = width
  deriving DecidableEq

namespace Octets

attribute [simp] length_eq

def zero (width : Nat) : Octets width := ⟨List.replicate width 0, by simp⟩

def append {m n : Nat} (front : Octets m) (back : Octets n) : Octets (m + n) :=
  ⟨front.bytes ++ back.bytes, by simp⟩

def xor {n : Nat} (left right : Octets n) : Octets n :=
  ⟨List.zipWith (· ^^^ ·) left.bytes right.bytes, by simp⟩

theorem bytes_injective {n : Nat} : Function.Injective (Octets.bytes : Octets n → Bytes) := by
  intro left right same
  exact Octets.ext same

theorem xor_comm {n : Nat} (left right : Octets n) : xor left right = xor right left := by
  apply Octets.ext
  exact List.zipWith_comm_of_comm fun a b => UInt8.xor_comm a b

theorem zipWith_xor_cancel (left right mask : Bytes)
    (hl : left.length = mask.length) (hr : right.length = mask.length)
    (same : List.zipWith (· ^^^ ·) left mask = List.zipWith (· ^^^ ·) right mask) :
    left = right := by
  induction mask generalizing left right with
  | nil => rw [List.length_eq_zero_iff.mp hl, List.length_eq_zero_iff.mp hr]
  | cons bit mask ih =>
      rcases List.exists_of_length_succ left hl with ⟨a, left, rfl⟩
      rcases List.exists_of_length_succ right hr with ⟨b, right, rfl⟩
      simp only [List.zipWith_cons_cons, List.cons.injEq] at same
      have head : a = b := UInt8.xor_left_inj bit |>.mp same.1
      rw [head, ih left right (by simpa using hl) (by simpa using hr) same.2]

theorem xor_left_cancel {n : Nat} {left right mask : Octets n}
    (same : xor left mask = xor right mask) : left = right := by
  apply Octets.ext
  exact zipWith_xor_cancel _ _ mask.bytes (by simp) (by simp) (congrArg Octets.bytes same)

end Octets

/-- `TryInto<[u8; width]>` on a byte vector. -/
def tryInto (width : Nat) (bytes : Bytes) : Option (Octets width) :=
  if h : bytes.length = width then some ⟨bytes, h⟩ else none

theorem tryInto_eq_some {width : Nat} {bytes : Bytes} {array : Octets width} :
    tryInto width bytes = some array ↔ bytes = array.bytes := by
  rw [tryInto]
  split
  · rename_i h
    simp only [Option.some.injEq]
    constructor
    · rintro rfl; rfl
    · intro same; exact Octets.ext same
  · rename_i h
    simp only [reduceCtorEq, false_iff]
    rintro rfl
    exact h array.length_eq

@[simp] theorem tryInto_bytes {width : Nat} (array : Octets width) :
    tryInto width array.bytes = some array := tryInto_eq_some.mpr rfl

/-- The array `bytes[start .. start + width]`, with the bounds check as a proof. -/
def slice (bytes : Bytes) (start width : Nat) (bound : start + width ≤ bytes.length) :
    Octets width :=
  ⟨(bytes.drop start).take width, by simp only [List.length_take, List.length_drop]; omega⟩

theorem slice_of_append {bytes front back : Bytes} {width : Nat} (middle : Octets width)
    {start : Nat} (split : bytes = front ++ (middle.bytes ++ back))
    (at_start : front.length = start) (bound : start + width ≤ bytes.length) :
    slice bytes start width bound = middle := by
  subst split
  subst at_start
  apply Octets.ext
  simp [slice]

theorem drop_eq_slice_append (bytes : Bytes) (start width : Nat)
    (bound : start + width ≤ bytes.length) :
    bytes.drop start = (slice bytes start width bound).bytes ++ bytes.drop (start + width) := by
  rw [slice, ← List.drop_drop, List.take_append_drop]

/-- `width` bytes of an integer, the least significant first. -/
def leBytes : (width : Nat) → Nat → Bytes
  | 0, _ => []
  | width + 1, value => UInt8.ofNat value :: leBytes width (value / 256)

def leValue : Bytes → Nat
  | [] => 0
  | byte :: rest => byte.toNat + 256 * leValue rest

@[simp] theorem length_leBytes (width value : Nat) : (leBytes width value).length = width := by
  induction width generalizing value with
  | zero => rfl
  | succ width ih => simp [leBytes, ih]

theorem leValue_leBytes {width value : Nat} (bound : value < 256 ^ width) :
    leValue (leBytes width value) = value := by
  induction width generalizing value with
  | zero =>
      have none : value = 0 := by simpa using bound
      simp [leBytes, leValue, none]
  | succ width ih =>
      have upper : value / 256 < 256 ^ width := by
        rw [Nat.div_lt_iff_lt_mul (by decide)]
        rwa [Nat.pow_succ] at bound
      have low : (UInt8.ofNat value).toNat = value % 256 := by simp
      rw [leBytes, leValue, ih upper, low]
      exact Nat.mod_add_div value 256

theorem leBytes_injective {width first second : Nat} (hf : first < 256 ^ width)
    (hs : second < 256 ^ width) (same : leBytes width first = leBytes width second) :
    first = second := by
  rw [← leValue_leBytes hf, ← leValue_leBytes hs, same]

theorem leBytes_leValue (bytes : Bytes) : leBytes bytes.length (leValue bytes) = bytes := by
  induction bytes with
  | nil => rfl
  | cons byte rest ih =>
      have small := byte.toNat_lt
      have low : UInt8.ofNat (byte.toNat + 256 * leValue rest) = byte := by
        apply UInt8.toNat_inj.mp
        simp only [UInt8.toNat_ofNat']
        omega
      have high : (byte.toNat + 256 * leValue rest) / 256 = leValue rest := by omega
      simp only [List.length_cons, leBytes, leValue, low, high, ih]

theorem leValue_lt (bytes : Bytes) : leValue bytes < 256 ^ bytes.length := by
  induction bytes with
  | nil => exact Nat.one_pos
  | cons byte rest ih =>
      have small := byte.toNat_lt
      rw [leValue, List.length_cons, Nat.pow_succ]
      omega

/-- `u64::to_le_bytes`. -/
def le64 (value : UInt64) : Octets 8 := ⟨leBytes 8 value.toNat, by simp⟩

theorem le64_injective : Function.Injective le64 := by
  intro first second same
  apply UInt64.toNat_inj.mp
  exact @leBytes_injective 8 _ _ first.toNat_lt second.toNat_lt
    (congrArg Octets.bytes same)

/-- A string as the UTF-8 bytes Rust measures and indexes. -/
def utf8 (text : String) : Bytes := text.toList.flatMap String.utf8EncodeChar

end Foundation
