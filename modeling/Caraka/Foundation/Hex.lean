import Caraka.Foundation.Json

/-! Base 16 text: lower-case encoding, decoding of either case. -/

namespace Foundation.Hex

open Foundation

def digit (nibble : Nat) : Char :=
  if nibble < 10 then Char.ofNat (48 + nibble) else Char.ofNat (87 + nibble)

/-- The value of an ASCII digit of either case. -/
def value (ascii : UInt8) : Option Nat :=
  if 48 ≤ ascii ∧ ascii ≤ 57 then some (ascii.toNat - 48)
  else if 97 ≤ ascii ∧ ascii ≤ 102 then some (ascii.toNat - 87)
  else if 65 ≤ ascii ∧ ascii ≤ 70 then some (ascii.toNat - 55)
  else none

def digits : Bytes → List Char
  | [] => []
  | byte :: rest => digit (byte.toNat / 16) :: digit (byte.toNat % 16) :: digits rest

def encode (bytes : Bytes) : String := String.ofList (digits bytes)

def decodePairs : Bytes → Option Bytes
  | [] => some []
  | [_] => none
  | high :: low :: rest =>
      match value high, value low with
      | some h, some l => (decodePairs rest).map (UInt8.ofNat (16 * h + l) :: ·)
      | _, _ => none

def decode (text : String) : Option Bytes := decodePairs (utf8 text)

def digitByte (nibble : Nat) : UInt8 :=
  if nibble < 10 then UInt8.ofNat (48 + nibble) else UInt8.ofNat (87 + nibble)

theorem utf8_digit (nibble : Fin 16) :
    String.utf8EncodeChar (digit nibble) = [digitByte nibble] := by
  revert nibble
  decide

theorem value_digitByte (nibble : Fin 16) : value (digitByte nibble) = some nibble.val := by
  revert nibble
  decide

theorem utf8_digits (bytes : Bytes) :
    (digits bytes).flatMap String.utf8EncodeChar =
      bytes.flatMap fun byte => [digitByte (byte.toNat / 16), digitByte (byte.toNat % 16)] := by
  induction bytes with
  | nil => rfl
  | cons byte rest ih =>
      have small := byte.toNat_lt
      have high := utf8_digit ⟨byte.toNat / 16, by omega⟩
      have low := utf8_digit ⟨byte.toNat % 16, by omega⟩
      simp only [digits, List.flatMap_cons, high, low, ih, List.cons_append, List.nil_append]

theorem utf8Size_digit (nibble : Fin 16) : (digit nibble).utf8Size = 1 := by
  revert nibble
  decide

theorem utf8Size_digits (bytes : Bytes) : ∀ c ∈ digits bytes, c.utf8Size = 1 := by
  induction bytes with
  | nil => simp [digits]
  | cons byte rest ih =>
      have small := byte.toNat_lt
      simp only [digits, List.forall_mem_cons]
      exact ⟨utf8Size_digit ⟨byte.toNat / 16, by omega⟩,
        utf8Size_digit ⟨byte.toNat % 16, by omega⟩, ih⟩

theorem utf8_encode (bytes : Bytes) :
    utf8 (encode bytes) =
      bytes.flatMap fun byte => [digitByte (byte.toNat / 16), digitByte (byte.toNat % 16)] := by
  rw [utf8, encode, String.toList_ofList, utf8_digits]

theorem decodePairs_encode (bytes : Bytes) :
    decodePairs (bytes.flatMap fun byte =>
      [digitByte (byte.toNat / 16), digitByte (byte.toNat % 16)]) = some bytes := by
  induction bytes with
  | nil => rfl
  | cons byte rest ih =>
      have small := byte.toNat_lt
      have high := value_digitByte ⟨byte.toNat / 16, by omega⟩
      have low := value_digitByte ⟨byte.toNat % 16, by omega⟩
      have joined : UInt8.ofNat (16 * (byte.toNat / 16) + byte.toNat % 16) = byte := by
        rw [Nat.div_add_mod]
        exact UInt8.ofNat_toNat
      simp only [List.flatMap_cons, List.cons_append, List.nil_append, decodePairs, high, low, ih,
        Option.map_some, joined]

@[simp] theorem decode_encode (bytes : Bytes) : decode (encode bytes) = some bytes := by
  rw [decode, utf8_encode, decodePairs_encode]

theorem encode_injective : Function.Injective encode := by
  intro first second same
  have read := decode_encode first
  rw [same, decode_encode] at read
  exact (Option.some.inj read).symm

theorem length_decodePairs {text bytes : Bytes} (read : decodePairs text = some bytes) :
    text.length = 2 * bytes.length := by
  induction text using decodePairs.induct generalizing bytes with
  | case1 =>
      injection read with read
      simp [← read]
  | case2 => cases read
  | case3 high low rest h l vh vl ih =>
      simp only [decodePairs, vh, vl, Option.map_eq_some_iff] at read
      rcases read with ⟨tail, here, rfl⟩
      simp only [List.length_cons, ih here]
      omega
  | case4 high low rest bad =>
      simp only [decodePairs] at read
      cases read

theorem length_decode {text : String} {bytes : Bytes} (read : decode text = some bytes) :
    (utf8 text).length = 2 * bytes.length := length_decodePairs read

theorem value_eq_some_range {ascii : UInt8} (hex : (value ascii).isSome) :
    (48 ≤ ascii.toNat ∧ ascii.toNat ≤ 57) ∨ (97 ≤ ascii.toNat ∧ ascii.toNat ≤ 102) ∨
      (65 ≤ ascii.toNat ∧ ascii.toNat ≤ 70) := by
  unfold value at hex
  simp only [UInt8.le_iff_toNat_le] at hex
  split_ifs at hex with first second third
  · exact .inl first
  · exact .inr (.inl second)
  · exact .inr (.inr third)
  · cases hex

theorem value_of_decodePairs {text bytes : Bytes} (read : decodePairs text = some bytes) :
    ∀ byte ∈ text, (value byte).isSome := by
  induction text using decodePairs.induct generalizing bytes with
  | case1 => simp
  | case2 => cases read
  | case3 high low rest h l vh vl ih =>
      simp only [decodePairs, vh, vl, Option.map_eq_some_iff] at read
      rcases read with ⟨tail, here, -⟩
      simp only [List.forall_mem_cons, vh, vl, Option.isSome_some, true_and]
      exact ih here
  | case4 high low rest bad =>
      simp only [decodePairs] at read
      cases read

theorem code_of_value {c : Char} (hex : ∀ byte ∈ String.utf8EncodeChar c, (value byte).isSome) :
    (48 ≤ c.toNat ∧ c.toNat ≤ 57) ∨ (97 ≤ c.toNat ∧ c.toNat ≤ 102) ∨
      (65 ≤ c.toNat ∧ c.toNat ≤ 70) := by
  have same : c.toNat = c.val.toNat := rfl
  unfold String.utf8EncodeChar at hex
  change ∀ byte ∈ (if c.toNat ≤ 0x7f then _ else _ : Bytes), _ at hex
  split_ifs at hex with one two three
  · have digit := value_eq_some_range (hex _ List.mem_cons_self)
    rw [UInt8.toNat_ofNat', Nat.mod_eq_of_lt (by omega)] at digit
    exact digit
  all_goals
    have lead := value_eq_some_range (hex _ List.mem_cons_self)
    rw [UInt8.toNat_ofNat', Nat.mod_eq_of_lt (by omega)] at lead
    omega

theorem plain_of_code : ∀ code : Fin 128, (48 ≤ code.val ∧ code.val ≤ 57) ∨
    (97 ≤ code.val ∧ code.val ≤ 102) ∨ (65 ≤ code.val ∧ code.val ≤ 70) →
      Json.Plain (Char.ofNat code.val) ∧
        (String.utf8EncodeChar (Char.ofNat code.val)).length = 1 := by
  decide

theorem length_escaped_of_decode {text : String} {bytes : Bytes}
    (read : decode text = some bytes) : (Json.escaped text).length = 2 * bytes.length := by
  have hex := value_of_decodePairs read
  rw [← length_decode read, Json.escaped, utf8, List.length_flatMap, List.length_flatMap]
  congr 1
  apply List.map_congr_left
  intro c member
  have code := code_of_value fun byte inside =>
    hex byte (List.mem_flatMap.mpr ⟨c, member, inside⟩)
  have plain := plain_of_code ⟨c.toNat, by omega⟩ code
  simp only [Char.ofNat_toNat] at plain
  rw [plain.1, plain.2]
  rfl

theorem plain_digit (nibble : Fin 16) : Json.Plain (digit nibble) := by
  revert nibble
  decide

theorem plain_digits (bytes : Bytes) : ∀ c ∈ digits bytes, Json.Plain c := by
  induction bytes with
  | nil => simp [digits]
  | cons byte rest ih =>
      have small := byte.toNat_lt
      simp only [digits, List.forall_mem_cons]
      exact ⟨plain_digit ⟨byte.toNat / 16, by omega⟩, plain_digit ⟨byte.toNat % 16, by omega⟩, ih⟩

@[simp] theorem length_digits (bytes : Bytes) : (digits bytes).length = 2 * bytes.length := by
  induction bytes with
  | nil => rfl
  | cons byte rest ih =>
      simp only [digits, List.length_cons, ih]
      omega

def IsLower (text : String) : Prop := ∀ c ∈ text.toList, c ∈ "0123456789abcdef".toList

instance (text : String) : Decidable (IsLower text) :=
  List.decidableBAll (· ∈ "0123456789abcdef".toList) text.toList

theorem lower_digit (nibble : Fin 16) : digit nibble ∈ "0123456789abcdef".toList := by
  revert nibble
  decide

theorem exists_nibble {c : Char} (lower : c ∈ "0123456789abcdef".toList) :
    ∃ nibble : Fin 16, digit nibble = c := by
  have each : "0123456789abcdef".toList.all
      (fun c => (List.finRange 16).any fun nibble => digit nibble = c) = true := by
    decide
  rcases List.any_eq_true.mp (List.all_eq_true.mp each c lower) with ⟨nibble, -, same⟩
  exact ⟨nibble, of_decide_eq_true same⟩

theorem isLower_digits (bytes : Bytes) :
    ∀ c ∈ digits bytes, c ∈ "0123456789abcdef".toList := by
  induction bytes with
  | nil => simp [digits]
  | cons byte rest ih =>
      have small := byte.toNat_lt
      rw [digits, List.forall_mem_cons, List.forall_mem_cons]
      exact ⟨lower_digit ⟨byte.toNat / 16, by omega⟩, lower_digit ⟨byte.toNat % 16, by omega⟩, ih⟩

theorem exists_digits {chars : List Char} {size : Nat} (length : chars.length = 2 * size)
    (lower : ∀ c ∈ chars, c ∈ "0123456789abcdef".toList) :
    ∃ bytes : Bytes, bytes.length = size ∧ digits bytes = chars := by
  induction size generalizing chars with
  | zero => exact ⟨[], rfl, (List.length_eq_zero_iff.mp length).symm⟩
  | succ size ih =>
      rcases chars with _ | ⟨high, _ | ⟨low, rest⟩⟩
      · cases length
      · rw [List.length_singleton] at length
        omega
      · rw [List.forall_mem_cons, List.forall_mem_cons] at lower
        rcases exists_nibble lower.1 with ⟨first, rfl⟩
        rcases exists_nibble lower.2.1 with ⟨second, rfl⟩
        rw [List.length_cons, List.length_cons] at length
        rcases ih (by omega) lower.2.2 with ⟨bytes, sized, rfl⟩
        have small : 16 * first.val + second.val < 256 := by omega
        have joined : (UInt8.ofNat (16 * first.val + second.val)).toNat =
            16 * first.val + second.val := by
          rw [UInt8.toNat_ofNat', Nat.mod_eq_of_lt small]
        refine ⟨UInt8.ofNat (16 * first.val + second.val) :: bytes, ?_, ?_⟩
        · rw [List.length_cons, sized]
        · rw [digits, joined, Nat.mul_add_div (by decide), Nat.div_eq_of_lt second.isLt,
            Nat.mul_add_mod, Nat.mod_eq_of_lt second.isLt, Nat.add_zero]

theorem encode_surjective {text : String} {size : Nat} :
    (∃ bytes : Bytes, bytes.length = size ∧ encode bytes = text) ↔
      text.toList.length = 2 * size ∧ IsLower text := by
  constructor
  · intro held
    rcases held with ⟨bytes, sized, rfl⟩
    rw [encode, IsLower, String.toList_ofList]
    exact ⟨sized ▸ length_digits bytes, isLower_digits bytes⟩
  · intro held
    rcases held with ⟨length, lower⟩
    rcases exists_digits length lower with ⟨bytes, sized, same⟩
    exact ⟨bytes, sized, by rw [encode, same, String.ofList_toList]⟩

end Foundation.Hex
