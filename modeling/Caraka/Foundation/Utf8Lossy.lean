import Caraka.Foundation.Bytes

/-! Decoding of bytes that may not be UTF-8: every maximal ill-formed part becomes one U+FFFD. -/

namespace Foundation.Utf8

open Foundation

def isContinuation (byte : UInt8) : Bool := byte &&& 0xC0 = 0x80

/-- The range of the byte after a leading byte of a longer sequence, with the length of the
sequence. -/
def secondByte (first : UInt8) : Option (UInt8 × UInt8 × Nat) :=
  if 0xC2 ≤ first ∧ first ≤ 0xDF then some (0x80, 0xBF, 2)
  else if first = 0xE0 then some (0xA0, 0xBF, 3)
  else if first = 0xED then some (0x80, 0x9F, 3)
  else if 0xE1 ≤ first ∧ first ≤ 0xEF then some (0x80, 0xBF, 3)
  else if first = 0xF0 then some (0x90, 0xBF, 4)
  else if 0xF1 ≤ first ∧ first ≤ 0xF3 then some (0x80, 0xBF, 4)
  else if first = 0xF4 then some (0x80, 0x8F, 4)
  else none

def assemble (first : UInt8) (rest : Bytes) : Nat :=
  let lead := match rest.length with
    | 1 => first.toNat % 32
    | 2 => first.toNat % 16
    | _ => first.toNat % 8
  rest.foldl (fun value byte => value * 64 + byte.toNat % 64) lead

def decodeFirst (first : UInt8) (rest : Bytes) : Char × Nat :=
  if first < 0x80 then (Char.ofNat first.toNat, 0)
  else
    match secondByte first with
    | none => ('\uFFFD', 0)
    | some (low, high, length) =>
      match rest with
      | second :: later =>
        if low ≤ second ∧ second ≤ high then
          let tail := second :: (later.takeWhile isContinuation).take (length - 2)
          if tail.length = length - 1 then (Char.ofNat (assemble first tail), length - 1)
          else ('\uFFFD', tail.length)
        else ('\uFFFD', 0)
      | [] => ('\uFFFD', 0)

def lossyFuel : Nat → Bytes → List Char
  | 0, _ => []
  | _, [] => []
  | fuel + 1, first :: rest =>
    let (c, taken) := decodeFirst first rest
    c :: lossyFuel fuel (rest.drop taken)

/-- `String::from_utf8_lossy`. -/
def lossy (bytes : Bytes) : String := String.ofList (lossyFuel bytes.length bytes)

theorem decodeFirst_ascii {first : UInt8} (ascii : first < 0x80) (rest : Bytes) :
    decodeFirst first rest = (Char.ofNat first.toNat, 0) := by
  rw [decodeFirst, if_pos ascii]

theorem lossyFuel_ascii {bytes : Bytes} (ascii : ∀ byte ∈ bytes, byte < 0x80) :
    lossyFuel bytes.length bytes = bytes.map fun byte => Char.ofNat byte.toNat := by
  induction bytes with
  | nil => rfl
  | cons first rest ih =>
      rw [List.length_cons, lossyFuel, decodeFirst_ascii (ascii first List.mem_cons_self)]
      exact congrArg _ (ih fun byte member => ascii byte (List.mem_cons_of_mem _ member))

theorem encode_ascii_fin (byte : Fin 128) :
    String.utf8EncodeChar (Char.ofNat byte.val) = [UInt8.ofNat byte.val] := by
  revert byte
  decide

theorem encode_ascii {byte : UInt8} (ascii : byte < 0x80) :
    String.utf8EncodeChar (Char.ofNat byte.toNat) = [byte] := by
  have encoded := encode_ascii_fin ⟨byte.toNat, UInt8.lt_iff_toNat_lt.mp ascii⟩
  rwa [UInt8.ofNat_toNat] at encoded

theorem utf8_lossy {bytes : Bytes} (ascii : ∀ byte ∈ bytes, byte < 0x80) :
    utf8 (lossy bytes) = bytes := by
  rw [utf8, lossy, String.toList_ofList, lossyFuel_ascii ascii]
  induction bytes with
  | nil => rfl
  | cons first rest ih =>
      rw [List.map_cons, List.flatMap_cons, encode_ascii (ascii first List.mem_cons_self),
        ih fun byte member => ascii byte (List.mem_cons_of_mem _ member)]
      rfl

example : lossy [0x61, 0xC3, 0xA9, 0xE2, 0x82, 0x62, 0xFF] = "aé\uFFFDb\uFFFD" := by
  decide

end Foundation.Utf8
