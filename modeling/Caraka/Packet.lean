import Caraka.Foundation.Bytes

/-! `packet.rs`: the CLAMP packet and its byte format. -/

namespace Caraka

open Foundation

def magic : Octets 2 := ⟨[0xCA, 0x52], rfl⟩

def protocolVersion : UInt8 := 0x01

def ttlMax : UInt8 := 7

def headerSize : Nat := 13

def hopAuthSize : Nat := 17

def nonceSize : Nat := 16

def tagSize : Nat := 16

def fixedOverhead : Nat := headerSize + hopAuthSize + nonceSize + tagSize

inductive PacketType where
  | dm
  | channel
  | syncReq
  | syncResp
  | hello
  | syncData
  | broadcast
  | file
  deriving DecidableEq

inductive PacketError where
  | invalidMagic
  | unsupportedVersion (version : UInt8)
  | tooShort (expected got : Nat)
  | unknownPacketType (byte : UInt8)

def PacketType.toU8 : PacketType → UInt8
  | dm => 0x01
  | channel => 0x02
  | syncReq => 0x03
  | syncResp => 0x04
  | hello => 0x05
  | syncData => 0x06
  | broadcast => 0x07
  | file => 0x08

def PacketType.tryFrom (byte : UInt8) : Except PacketError PacketType :=
  if byte = 0x01 then .ok dm
  else if byte = 0x02 then .ok channel
  else if byte = 0x03 then .ok syncReq
  else if byte = 0x04 then .ok syncResp
  else if byte = 0x05 then .ok hello
  else if byte = 0x06 then .ok syncData
  else if byte = 0x07 then .ok broadcast
  else if byte = 0x08 then .ok file
  else .error (.unknownPacketType byte)

theorem PacketType.tryFrom_toU8 (kind : PacketType) : tryFrom kind.toU8 = .ok kind := by
  cases kind <;> rfl

theorem PacketType.toU8_of_tryFrom {byte : UInt8} {kind : PacketType}
    (known : tryFrom byte = .ok kind) : kind.toU8 = byte := by
  unfold tryFrom at known
  split_ifs at known with h1 h2 h3 h4 h5 h6 h7 h8 <;> cases known <;> simp [toU8, *]

theorem PacketType.toU8_injective : Function.Injective toU8 := by
  intro left right same
  have decoded := tryFrom_toU8 left
  rw [same, tryFrom_toU8 right] at decoded
  exact (Except.ok.inj decoded).symm

structure ClampHeader where
  magic : Octets 2
  version : UInt8
  packetType : PacketType
  ttl : UInt8
  packetId : Octets 8
  deriving DecidableEq

structure HopAuth where
  hopCounter : UInt8
  macTag : Octets 16
  deriving DecidableEq

structure ClampPacket where
  header : ClampHeader
  hopAuth : HopAuth
  nonce : Octets 16
  ciphertext : Bytes
  aeadTag : Octets 16
  deriving DecidableEq

namespace ClampPacket

/-- `generate_packet_id`, given the four bytes drawn from the operating system. -/
def generatePacketId (originNodeId : Octets 32) (random : Octets 4) : Octets 8 :=
  (slice originNodeId.bytes 0 4 (by simp)).append random

def headerBytes (packet : ClampPacket) : Octets headerSize where
  bytes := packet.header.magic.bytes ++ packet.header.version ::
    packet.header.packetType.toU8 :: packet.header.ttl :: packet.header.packetId.bytes
  length_eq := by simp [headerSize]

def encode (packet : ClampPacket) : Bytes :=
  packet.headerBytes.bytes ++ packet.hopAuth.hopCounter :: packet.hopAuth.macTag.bytes ++
    packet.nonce.bytes ++ packet.ciphertext ++ packet.aeadTag.bytes

def decode (bytes : Bytes) : Except PacketError ClampPacket :=
  if short : bytes.length < fixedOverhead then
    .error (.tooShort fixedOverhead bytes.length)
  else
    have long : 62 ≤ bytes.length := Nat.le_of_not_lt short
    if slice bytes 0 2 (by omega) ≠ Caraka.magic then .error .invalidMagic
    else
      let version := bytes[2]
      if version ≠ protocolVersion then .error (.unsupportedVersion version)
      else
        match PacketType.tryFrom bytes[3] with
        | .error unknown => .error unknown
        | .ok packetType =>
          let ttl := bytes[4]
          let packetId := slice bytes 5 8 (by omega)
          let hopCounter := bytes[13]
          let macTag := slice bytes 14 16 (by omega)
          let nonce := slice bytes 30 16 (by omega)
          let total := bytes.length
          if total < 46 + tagSize then .error (.tooShort (46 + tagSize) total)
          else
            let tagStart := total - tagSize
            let ciphertext := (bytes.take tagStart).drop 46
            let aeadTag := slice bytes tagStart 16 (by simp only [tagStart, total, tagSize]; omega)
            .ok {
              header := { magic := Caraka.magic, version, packetType, ttl, packetId }
              hopAuth := { hopCounter, macTag }
              nonce
              ciphertext
              aeadTag }

/-- The magic and version every packet this code builds or accepts carries. -/
def Genuine (packet : ClampPacket) : Prop :=
  packet.header.magic = Caraka.magic ∧ packet.header.version = protocolVersion

@[simp] theorem length_encode (packet : ClampPacket) :
    packet.encode.length = fixedOverhead + packet.ciphertext.length := by
  simp only [encode, List.length_append, Octets.length_eq, List.length_cons, headerSize,
    fixedOverhead, hopAuthSize, nonceSize, tagSize]
  omega

theorem encode_eq (packet : ClampPacket) :
    packet.encode = packet.header.magic.bytes ++ packet.header.version ::
      packet.header.packetType.toU8 :: packet.header.ttl :: (packet.header.packetId.bytes ++
        packet.hopAuth.hopCounter :: (packet.hopAuth.macTag.bytes ++ (packet.nonce.bytes ++
          (packet.ciphertext ++ packet.aeadTag.bytes)))) := by
  simp [encode, headerBytes]

/-- The packet `decode` reads from a byte string long enough, once its checks have passed. -/
def fieldsOf (bytes : Bytes) (long : 62 ≤ bytes.length) (packetType : PacketType) :
    ClampPacket where
  header := {
    magic := Caraka.magic
    version := bytes[2]
    packetType
    ttl := bytes[4]
    packetId := slice bytes 5 8 (by omega) }
  hopAuth := { hopCounter := bytes[13], macTag := slice bytes 14 16 (by omega) }
  nonce := slice bytes 30 16 (by omega)
  ciphertext := (bytes.take (bytes.length - 16)).drop 46
  aeadTag := slice bytes (bytes.length - 16) 16 (by omega)

theorem decode_eq {bytes : Bytes} (long : 62 ≤ bytes.length) :
    decode bytes =
      if slice bytes 0 2 (by omega) ≠ Caraka.magic then .error .invalidMagic
      else if bytes[2] ≠ protocolVersion then .error (.unsupportedVersion bytes[2])
      else (PacketType.tryFrom bytes[3]).map (fieldsOf bytes long) := by
  have enough : ¬ bytes.length < fixedOverhead := Nat.not_lt_of_le long
  have tagged : ¬ bytes.length < 46 + tagSize := Nat.not_lt_of_le long
  simp only [decode, dif_neg enough, if_neg tagged]
  congr 2
  cases PacketType.tryFrom bytes[3] <;> rfl

theorem encode_fieldsOf {bytes : Bytes} (long : 62 ≤ bytes.length) {packetType : PacketType}
    (sameMagic : slice bytes 0 2 (by omega) = Caraka.magic)
    (sameType : packetType.toU8 = bytes[3]) : (fieldsOf bytes long packetType).encode = bytes := by
  have body : (bytes.take (bytes.length - 16)).drop 46 ++ bytes.drop (bytes.length - 16) =
      bytes.drop 46 := by
    have rest : bytes.drop (bytes.length - 16) =
        (bytes.drop 46).drop (bytes.length - 16 - 46) := by
      rw [List.drop_drop]
      congr 1
      omega
    rw [List.drop_take, rest, List.take_append_drop]
  have tag : (slice bytes (bytes.length - 16) 16 (by omega)).bytes =
      bytes.drop (bytes.length - 16) := by
    rw [drop_eq_slice_append bytes _ 16 (by omega), List.drop_of_length_le (by omega),
      List.append_nil]
  have front := drop_eq_slice_append bytes 0 2 (by omega)
  rw [encode_eq]
  simp only [fieldsOf]
  rw [tag, body, sameType, ← sameMagic, ← drop_eq_slice_append, ← drop_eq_slice_append,
    ← List.drop_eq_getElem_cons, ← drop_eq_slice_append, ← List.drop_eq_getElem_cons,
    ← List.drop_eq_getElem_cons, ← List.drop_eq_getElem_cons]
  exact front.symm

theorem encode_injective : Function.Injective encode := by
  intro left right same
  rcases left with
    ⟨⟨magic, version, packetType, ttl, packetId⟩, ⟨hopCounter, macTag⟩, nonce, ciphertext, aeadTag⟩
  rcases right with
    ⟨⟨magic', version', packetType', ttl', packetId'⟩, ⟨hopCounter', macTag'⟩, nonce', ciphertext',
      aeadTag'⟩
  have size := congrArg List.length same
  simp only [length_encode, Nat.add_left_cancel_iff] at size
  rw [encode_eq, encode_eq] at same
  rcases List.append_inj same (by simp) with ⟨magics, same⟩
  simp only [List.cons.injEq] at same
  rcases same with ⟨versions, types, ttls, same⟩
  rcases List.append_inj same (by simp) with ⟨ids, same⟩
  simp only [List.cons.injEq] at same
  rcases same with ⟨hops, same⟩
  rcases List.append_inj same (by simp) with ⟨macs, same⟩
  rcases List.append_inj same (by simp) with ⟨nonces, same⟩
  rcases List.append_inj same size with ⟨texts, tags⟩
  simp only [mk.injEq, ClampHeader.mk.injEq, HopAuth.mk.injEq]
  exact ⟨⟨Octets.ext magics, versions, PacketType.toU8_injective types, ttls, Octets.ext ids⟩,
    ⟨hops, Octets.ext macs⟩, Octets.ext nonces, texts, Octets.ext tags⟩

theorem decode_encode (packet : ClampPacket) (genuine : packet.Genuine) :
    decode packet.encode = .ok packet := by
  have long : 62 ≤ packet.encode.length := by
    rw [length_encode]
    exact Nat.le_add_right ..
  have layout := encode_eq packet
  have first : slice packet.encode 0 2 (by omega) = Caraka.magic := by
    rw [← genuine.1]
    have split : packet.encode = [] ++ (packet.header.magic.bytes ++ _) := layout
    exact slice_of_append packet.header.magic split rfl _
  have second : packet.encode[2] = protocolVersion := by
    rw [← genuine.2]
    exact List.getElem_of_append layout (by simp)
  have third : packet.header.packetType.toU8 = packet.encode[3] := by
    obtain ⟨rest, split⟩ : ∃ rest, packet.encode =
        (packet.header.magic.bytes ++ [packet.header.version]) ++
          packet.header.packetType.toU8 :: rest :=
      ⟨_, by rw [List.append_assoc]; exact layout⟩
    exact (List.getElem_of_append split (by simp)).symm
  rw [decode_eq long, if_neg (not_not.mpr first), if_neg (not_not.mpr second), ← third,
    PacketType.tryFrom_toU8]
  exact congrArg Except.ok (encode_injective (encode_fieldsOf long first third))

theorem decode_eq_ok {bytes : Bytes} {packet : ClampPacket} :
    decode bytes = .ok packet ↔ packet.Genuine ∧ packet.encode = bytes := by
  constructor
  · intro accepted
    by_cases short : bytes.length < fixedOverhead
    · simp [decode, short] at accepted
    have long : 62 ≤ bytes.length := Nat.le_of_not_lt short
    rw [decode_eq long] at accepted
    split_ifs at accepted with badMagic badVersion
    simp only [ne_eq, not_not] at badMagic badVersion
    cases known : PacketType.tryFrom bytes[3] with
    | error unknown => simp [known, Except.map] at accepted
    | ok packetType =>
        simp only [known, Except.map, Except.ok.injEq] at accepted
        subst accepted
        exact ⟨⟨rfl, badVersion⟩, encode_fieldsOf long badMagic (PacketType.toU8_of_tryFrom known)⟩
  · rintro ⟨genuine, rfl⟩
    exact decode_encode packet genuine

end ClampPacket

end Caraka
