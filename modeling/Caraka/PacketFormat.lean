import Caraka.Packet

/-! The byte format of packets: which byte strings are accepted, and that no other string stands
for the same packet. -/

namespace Caraka

open Foundation

/-- `&bytes[start..stop]`, or none where Rust panics. -/
def range? (bytes : Bytes) (start stop : Nat) : Option Bytes :=
  if start ≤ stop ∧ stop ≤ bytes.length then some ((bytes.take stop).drop start) else none

/-- `copy_from_slice` into an array, or none where Rust panics. -/
def copy? (width : Nat) (bytes : Bytes) : Option (Octets width) := tryInto width bytes

theorem range?_eq_slice {bytes : Bytes} {start width : Nat}
    (bound : start + width ≤ bytes.length) :
    range? bytes start (start + width) = some (slice bytes start width bound).bytes := by
  have order : start ≤ start + width := Nat.le_add_right ..
  have same : (bytes.take (start + width)).drop start = (bytes.drop start).take width := by
    rw [List.drop_take, Nat.add_sub_cancel_left]
  rw [range?, if_pos ⟨order, bound⟩, same]
  rfl

theorem range?_of_append {bytes front back : Bytes} {width : Nat} {middle : Octets width}
    {start stop : Nat} (split : bytes = front ++ (middle.bytes ++ back))
    (starts : front.length = start) (stops : stop = start + width) :
    range? bytes start stop = some middle.bytes := by
  have bound : start + width ≤ bytes.length := by
    rw [split, List.length_append, List.length_append, middle.length_eq]
    omega
  rw [stops, range?_eq_slice bound, slice_of_append middle split starts bound]

namespace ClampPacket

/-- `decode` with every index and slice checked as Rust checks it; none is a panic. -/
def decodeIndexed (bytes : Bytes) : Option (Except PacketError ClampPacket) :=
  if bytes.length < fixedOverhead then
    some (.error (.tooShort fixedOverhead bytes.length))
  else do
    let front ← range? bytes 0 2
    if front ≠ Caraka.magic.bytes then return .error .invalidMagic
    let version ← bytes[2]?
    if version ≠ protocolVersion then return .error (.unsupportedVersion version)
    let typeByte ← bytes[3]?
    match PacketType.tryFrom typeByte with
    | .error unknown => return .error unknown
    | .ok packetType =>
      let ttl ← bytes[4]?
      let packetId ← (range? bytes 5 13).bind (copy? 8)
      let hopCounter ← bytes[13]?
      let macTag ← (range? bytes 14 30).bind (copy? 16)
      let nonce ← (range? bytes 30 46).bind (copy? 16)
      let total := bytes.length
      if total < 46 + tagSize then return .error (.tooShort (46 + tagSize) total)
      let tagStart := total - tagSize
      let ciphertext ← range? bytes 46 tagStart
      let aeadTag ← (range? bytes tagStart total).bind (copy? 16)
      return .ok {
        header := { magic := Caraka.magic, version, packetType, ttl, packetId }
        hopAuth := { hopCounter, macTag }
        nonce
        ciphertext
        aeadTag }

/-- The byte strings `decode` accepts, by what its checks look at. -/
structure Accepted (bytes : Bytes) : Prop where
  long : 62 ≤ bytes.length
  magic_eq : bytes.take 2 = Caraka.magic.bytes
  version_eq : bytes[2]? = some 1
  type_known : ∃ byte, bytes[3]? = some byte ∧ 1 ≤ byte ∧ byte ≤ 8

theorem copy?_range? {bytes : Bytes} {start stop width : Nat}
    (bound : start + width ≤ bytes.length) (stops : stop = start + width) :
    (range? bytes start stop).bind (copy? width) = some (slice bytes start width bound) := by
  rw [stops, range?_eq_slice bound]
  exact tryInto_bytes _

theorem decodeIndexed_eq (bytes : Bytes) : decodeIndexed bytes = some (decode bytes) := by
  by_cases short : bytes.length < fixedOverhead
  · simp [decodeIndexed, decode, short]
  have long : 62 ≤ bytes.length := Nat.le_of_not_lt short
  have tagged : ¬ bytes.length < 46 + tagSize := Nat.not_lt_of_le long
  have front : range? bytes 0 2 = some (slice bytes 0 2 (by omega)).bytes :=
    @range?_eq_slice bytes 0 2 (by omega)
  have packetId : (range? bytes 5 13).bind (copy? 8) = some (slice bytes 5 8 (by omega)) :=
    copy?_range? _ rfl
  have macTag : (range? bytes 14 30).bind (copy? 16) = some (slice bytes 14 16 (by omega)) :=
    copy?_range? _ rfl
  have nonce : (range? bytes 30 46).bind (copy? 16) = some (slice bytes 30 16 (by omega)) :=
    copy?_range? _ rfl
  have ciphertext : range? bytes 46 (bytes.length - tagSize) =
      some ((bytes.take (bytes.length - 16)).drop 46) :=
    if_pos ⟨by simp only [tagSize]; omega, Nat.sub_le ..⟩
  have aeadTag : (range? bytes (bytes.length - tagSize) bytes.length).bind (copy? 16) =
      some (slice bytes (bytes.length - 16) 16 (by omega)) := by
    apply copy?_range?
    simp only [tagSize]
    omega
  have sameMagic : (slice bytes 0 2 (by omega)).bytes = Caraka.magic.bytes ↔
      slice bytes 0 2 (by omega) = Caraka.magic := Octets.bytes_injective.eq_iff
  have second : bytes[2]? = some bytes[2] := List.getElem?_eq_getElem (by omega)
  have third : bytes[3]? = some bytes[3] := List.getElem?_eq_getElem (by omega)
  have fourth : bytes[4]? = some bytes[4] := List.getElem?_eq_getElem (by omega)
  have thirteenth : bytes[13]? = some bytes[13] := List.getElem?_eq_getElem (by omega)
  rw [decode_eq long]
  simp only [decodeIndexed, if_neg short, front, second, third, Option.bind_eq_bind,
    Option.bind_some, ne_eq, sameMagic]
  by_cases badMagic : ¬ slice bytes 0 2 (by omega) = Caraka.magic
  · rw [if_pos badMagic, if_pos badMagic]
    rfl
  by_cases badVersion : ¬ bytes[2] = protocolVersion
  · rw [if_neg badMagic, if_neg badMagic, if_pos badVersion, if_pos badVersion]
    rfl
  rw [if_neg badMagic, if_neg badMagic, if_neg badVersion, if_neg badVersion]
  cases PacketType.tryFrom bytes[3] with
  | error unknown => rfl
  | ok packetType =>
      simp only [fourth, packetId, thirteenth, macTag, nonce, ciphertext, aeadTag,
        Option.bind_some, if_neg tagged]
      rfl

theorem known_iff {byte : UInt8} :
    (∃ packetType, PacketType.tryFrom byte = .ok packetType) ↔ 1 ≤ byte ∧ byte ≤ 8 := by
  constructor
  · intro known
    rcases known with ⟨packetType, known⟩
    rw [← PacketType.toU8_of_tryFrom known]
    cases packetType <;> decide
  · intro range
    have value : byte.toNat = 1 ∨ byte.toNat = 2 ∨ byte.toNat = 3 ∨ byte.toNat = 4 ∨
        byte.toNat = 5 ∨ byte.toNat = 6 ∨ byte.toNat = 7 ∨ byte.toNat = 8 := by
      have low := UInt8.le_iff_toNat_le.mp range.1
      have high := UInt8.le_iff_toNat_le.mp range.2
      simp only [UInt8.toNat_ofNat] at low high
      omega
    have spelled : byte = UInt8.ofNat byte.toNat := UInt8.ofNat_toNat.symm
    rw [spelled]
    rcases value with h | h | h | h | h | h | h | h
    all_goals
      rw [h]
      exact ⟨_, rfl⟩

theorem accepted_encode {packet : ClampPacket} (genuine : packet.Genuine) :
    Accepted packet.encode where
  long := by
    rw [length_encode]
    exact Nat.le_add_right ..
  magic_eq := by
    rw [encode_eq, genuine.1, List.take_left' Caraka.magic.length_eq]
  version_eq := by
    rw [encode_eq, genuine.1, genuine.2]
    rfl
  type_known := by
    refine ⟨packet.header.packetType.toU8, ?_, ?_⟩
    · rw [encode_eq, genuine.1]
      rfl
    · exact known_iff.mp ⟨_, PacketType.tryFrom_toU8 _⟩

theorem exists_decode_of_accepted {bytes : Bytes} (accepted : Accepted bytes) :
    ∃ packet, decode bytes = .ok packet := by
  have long := accepted.long
  have first : slice bytes 0 2 (by omega) = Caraka.magic :=
    Octets.bytes_injective accepted.magic_eq
  have second : bytes[2] = protocolVersion := by
    have version := accepted.version_eq
    rw [List.getElem?_eq_getElem (by omega), Option.some.injEq] at version
    exact version
  have third : ∃ packetType, PacketType.tryFrom bytes[3] = .ok packetType := by
    rcases accepted.type_known with ⟨byte, read, range⟩
    rw [List.getElem?_eq_getElem (by omega), Option.some.injEq] at read
    rw [read]
    exact known_iff.mpr range
  rcases third with ⟨packetType, known⟩
  rw [decode_eq long, if_neg (not_not.mpr first), if_neg (not_not.mpr second), known]
  exact ⟨_, rfl⟩

/-- Packets and accepted byte strings determine one another, and no byte string makes `decode`
read out of bounds. -/
theorem packet_format_bijective :
    (∀ packet : ClampPacket, packet.Genuine →
      decode packet.encode = .ok packet ∧
        packet.encode.length = 62 + packet.ciphertext.length) ∧
    ∀ bytes : Bytes,
      decodeIndexed bytes = some (decode bytes) ∧
      ((∃ packet, decode bytes = .ok packet) ↔ Accepted bytes) ∧
      (∀ packet, decode bytes = .ok packet → packet.Genuine ∧ packet.encode = bytes) ∧
      ∀ other packet, decode bytes = .ok packet → decode other = .ok packet → bytes = other := by
  constructor
  · intro packet genuine
    exact ⟨decode_encode packet genuine, length_encode packet⟩
  · intro bytes
    refine ⟨decodeIndexed_eq bytes, ⟨?_, exists_decode_of_accepted⟩, ?_, ?_⟩
    · intro read
      rcases read with ⟨packet, read⟩
      rcases decode_eq_ok.mp read with ⟨genuine, same⟩
      rw [← same]
      exact accepted_encode genuine
    · intro packet read
      exact decode_eq_ok.mp read
    · intro other packet read readOther
      exact (decode_eq_ok.mp read).2.symm.trans (decode_eq_ok.mp readOther).2

end ClampPacket

end Caraka
