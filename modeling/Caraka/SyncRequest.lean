import Caraka.PacketFormat
import Caraka.Foundation.Records

/-! `sync.rs`: the payload of a SYNC_REQ packet. -/

namespace Caraka

open Foundation

/-- The sum of two `usize` on a 64-bit target, or none where it overflows. -/
def usizeAdd? (left right : Nat) : Option Nat :=
  if left + right < 2 ^ 64 then some (left + right) else none

def usizeMul? (left right : Nat) : Option Nat :=
  if left * right < 2 ^ 64 then some (left * right) else none

/-- `Vec::with_capacity` for elements of `width` bytes, or none where Rust panics. -/
def withCapacity? {α : Type} (capacity width : Nat) : Option (List α) :=
  if capacity * width < 2 ^ 63 then some [] else none

def buildSyncReqPayload (myNodeId : Octets 32) (localFps : List (Octets 16)) : Bytes :=
  myNodeId.bytes ++ leBytes 4 (UInt32.ofNat localFps.length).toNat ++ join localFps

/-- The loop of `parse_sync_req_payload` from index `i` on, with `remaining` rounds to go. -/
def readFps (data : Bytes) : (remaining i : Nat) → List (Octets 16) → Option (List (Octets 16))
  | 0, _, fps => some fps
  | remaining + 1, i, fps => do
    let offset ← usizeMul? i 16
    let start ← usizeAdd? 36 offset
    let stop ← usizeAdd? start 16
    let fp ← (range? data start stop).bind (copy? 16)
    readFps data remaining (i + 1) (fps ++ [fp])

/-- `parse_sync_req_payload`; the outer none is a panic. -/
def parseSyncReqPayload (data : Bytes) : Option (Option (Octets 32 × List (Octets 16))) :=
  if data.length < 36 then some none
  else do
    let nodeId ← (range? data 0 32).bind (copy? 32)
    let field ← range? data 32 36
    match tryInto 4 field with
    | none => return none
    | some field =>
      let count := leValue field.bytes
      let size ← usizeMul? count 16
      let size ← usizeAdd? 36 size
      if data.length < size then return none
      else do
        let fps ← withCapacity? count 16
        let fps ← readFps data count 0 fps
        return some (nodeId, fps)

/-- The count in the header of a payload. -/
def fpCount (data : Bytes) : Nat := leValue ((data.drop 32).take 4)

theorem usizeAdd?_eq {left right : Nat} (fits : left + right < 2 ^ 64) :
    usizeAdd? left right = some (left + right) := if_pos fits

theorem usizeMul?_eq {left right : Nat} (fits : left * right < 2 ^ 64) :
    usizeMul? left right = some (left * right) := if_pos fits

theorem readFps_join {data front back : Bytes} {rest fps : List (Octets 16)} {i : Nat}
    (split : data = front ++ (join rest ++ back)) (starts : front.length = 36 + i * 16)
    (few : i + rest.length ≤ 2 ^ 32) : readFps data rest.length i fps = some (fps ++ rest) := by
  induction rest generalizing front fps i with
  | nil => rw [List.append_nil, List.length_nil, readFps]
  | cons fp rest ih =>
      rw [List.length_cons] at few
      have here : data = front ++ (fp.bytes ++ (join rest ++ back)) := by
        rw [split, join_cons, List.append_assoc]
      have later : data = (front ++ fp.bytes) ++ (join rest ++ back) := by
        rw [here, List.append_assoc]
      have starts' : (front ++ fp.bytes).length = 36 + (i + 1) * 16 := by
        rw [List.length_append, fp.length_eq, starts]
        omega
      have read : (range? data (36 + i * 16) (36 + i * 16 + 16)).bind (copy? 16) = some fp := by
        rw [range?_of_append here starts rfl]
        exact tryInto_bytes fp
      rw [List.length_cons, readFps, usizeMul?_eq (by omega)]
      simp only [Option.bind_eq_bind, Option.bind_some]
      rw [usizeAdd?_eq (by omega), Option.bind_some, usizeAdd?_eq (by omega), Option.bind_some,
        read, Option.bind_some, ih later starts' (by omega), List.append_assoc]
      rfl

theorem parse_short {data : Bytes} (short : data.length < 36) :
    parseSyncReqPayload data = some none := if_pos short

theorem parse_header {nodeId : Octets 32} {count : Nat} {rest : Bytes} (small : count < 2 ^ 32) :
    parseSyncReqPayload (nodeId.bytes ++ (leBytes 4 count ++ rest)) =
      if rest.length < count * 16 then some none
      else (readFps (nodeId.bytes ++ (leBytes 4 count ++ rest)) count 0 []).map
        fun fps => some (nodeId, fps) := by
  have size : (nodeId.bytes ++ (leBytes 4 count ++ rest)).length = 36 + rest.length := by
    simp only [List.length_append, Octets.length_eq, length_leBytes]
    omega
  have id : range? (nodeId.bytes ++ (leBytes 4 count ++ rest)) 0 32 = some nodeId.bytes :=
    @range?_of_append _ [] _ _ nodeId 0 32 rfl rfl rfl
  have copied : copy? 32 nodeId.bytes = some nodeId := tryInto_bytes nodeId
  have field : range? (nodeId.bytes ++ (leBytes 4 count ++ rest)) 32 36 =
      some (leBytes 4 count) :=
    @range?_of_append _ _ rest 4 ⟨leBytes 4 count, length_leBytes 4 count⟩ 32 36 rfl
      nodeId.length_eq rfl
  have array : tryInto 4 (leBytes 4 count) = some ⟨leBytes 4 count, length_leBytes 4 count⟩ :=
    tryInto_eq_some.mpr rfl
  have value : leValue (leBytes 4 count) = count := leValue_leBytes small
  have capacity : (withCapacity? count 16 : Option (List (Octets 16))) = some [] :=
    if_pos (by omega)
  rw [parseSyncReqPayload, if_neg (by omega), id, field]
  simp only [Option.bind_eq_bind, Option.bind_some, copied, array, value]
  rw [usizeMul?_eq (by omega), Option.bind_some, usizeAdd?_eq (by omega), Option.bind_some, size,
    capacity, Option.bind_some]
  by_cases short : rest.length < count * 16
  · rw [if_pos short, if_pos (by omega)]
    rfl
  · rw [if_neg short, if_neg (by omega)]
    cases readFps (nodeId.bytes ++ (leBytes 4 count ++ rest)) count 0 [] <;> rfl

theorem parse_join {nodeId : Octets 32} {fps : List (Octets 16)} {back : Bytes}
    (few : fps.length < 2 ^ 32) :
    parseSyncReqPayload (nodeId.bytes ++ (leBytes 4 fps.length ++ (join fps ++ back))) =
      some (some (nodeId, fps)) := by
  have enough : ¬ (join fps ++ back).length < fps.length * 16 := by
    rw [List.length_append, length_join]
    omega
  have header : (nodeId.bytes ++ leBytes 4 fps.length).length = 36 + 0 * 16 := by simp
  have read := @readFps_join (nodeId.bytes ++ (leBytes 4 fps.length ++ (join fps ++ back))) _ back
    fps [] 0 (List.append_assoc ..).symm header (by omega)
  rw [parse_header few, if_neg enough, read]
  rfl

theorem build_eq {nodeId : Octets 32} {fps : List (Octets 16)} (few : fps.length < 2 ^ 32) :
    buildSyncReqPayload nodeId fps = nodeId.bytes ++ (leBytes 4 fps.length ++ join fps) := by
  have same : (UInt32.ofNat fps.length).toNat = fps.length := UInt32.toNat_ofNat_of_lt few
  rw [buildSyncReqPayload, same, List.append_assoc]

theorem parse_build (nodeId : Octets 32) (fps : List (Octets 16)) :
    parseSyncReqPayload (buildSyncReqPayload nodeId fps) =
      some (some (nodeId, fps.take (fps.length % 2 ^ 32))) := by
  have few : fps.length % 2 ^ 32 < 2 ^ 32 := Nat.mod_lt _ (by decide)
  have count : (fps.take (fps.length % 2 ^ 32)).length = fps.length % 2 ^ 32 :=
    List.length_take_of_le (Nat.mod_le ..)
  have spelled : buildSyncReqPayload nodeId fps =
      nodeId.bytes ++ (leBytes 4 (fps.take (fps.length % 2 ^ 32)).length ++
        (join (fps.take (fps.length % 2 ^ 32)) ++ join (fps.drop (fps.length % 2 ^ 32)))) := by
    rw [← join_append, List.take_append_drop, count, buildSyncReqPayload, List.append_assoc]
    rfl
  rw [spelled]
  apply parse_join
  rwa [count]

theorem exists_header {data : Bytes} (long : 36 ≤ data.length) :
    ∃ (nodeId : Octets 32) (rest : Bytes), fpCount data < 2 ^ 32 ∧
      data = nodeId.bytes ++ (leBytes 4 (fpCount data) ++ rest) := by
  have fieldSize : ((data.drop 32).take 4).length = 4 := by
    rw [List.length_take, List.length_drop]
    omega
  have field : leBytes 4 (fpCount data) = (data.drop 32).take 4 := by
    have read := leBytes_leValue ((data.drop 32).take 4)
    rw [fieldSize] at read
    exact read
  have small : fpCount data < 256 ^ 4 := by
    have bound := leValue_lt ((data.drop 32).take 4)
    rw [fieldSize] at bound
    exact bound
  refine ⟨⟨data.take 32, by rw [List.length_take]; omega⟩, data.drop 36, small, ?_⟩
  have behind : (data.drop 32).drop 4 = data.drop 36 := List.drop_drop
  calc
    data = data.take 32 ++ data.drop 32 := (List.take_append_drop 32 data).symm
    _ = data.take 32 ++ ((data.drop 32).take 4 ++ data.drop 36) := by
      rw [← behind, List.take_append_drop 4 (data.drop 32)]
    _ = data.take 32 ++ (leBytes 4 (fpCount data) ++ data.drop 36) := by rw [field]

theorem exists_payload {data : Bytes} (long : 36 ≤ data.length)
    (whole : 36 + 16 * fpCount data ≤ data.length) :
    ∃ nodeId fps, parseSyncReqPayload data = some (some (nodeId, fps)) ∧
      buildSyncReqPayload nodeId fps <+: data := by
  rcases exists_header long with ⟨nodeId, rest, small, split⟩
  have size := congrArg List.length split
  simp only [List.length_append, Octets.length_eq, length_leBytes] at size
  have front : (rest.take (fpCount data * 16)).length = fpCount data * 16 := by
    rw [List.length_take]
    omega
  rcases exists_join front with ⟨fps, many, joined⟩
  have few : fps.length < 2 ^ 32 := by rwa [many]
  have spelled : data = nodeId.bytes ++
      (leBytes 4 fps.length ++ (join fps ++ rest.drop (fpCount data * 16))) := by
    rw [many, joined, List.take_append_drop]
    exact split
  refine ⟨nodeId, fps, ?_, rest.drop (fpCount data * 16), ?_⟩
  · rw [spelled]
    exact parse_join few
  · rw [build_eq few]
    simp only [List.append_assoc]
    exact spelled.symm

theorem parse_cut {data : Bytes} (long : 36 ≤ data.length)
    (cut : data.length < 36 + 16 * fpCount data) : parseSyncReqPayload data = some none := by
  rcases exists_header long with ⟨nodeId, rest, small, split⟩
  have size := congrArg List.length split
  simp only [List.length_append, Octets.length_eq, length_leBytes] at size
  rw [split, parse_header small, if_pos (by omega)]

theorem parse_cases (data : Bytes) :
    ((data.length < 36 ∨ data.length < 36 + 16 * fpCount data) ∧
      parseSyncReqPayload data = some none) ∨
    (¬ (data.length < 36 ∨ data.length < 36 + 16 * fpCount data) ∧
      ∃ nodeId fps, parseSyncReqPayload data = some (some (nodeId, fps)) ∧
        buildSyncReqPayload nodeId fps <+: data) := by
  by_cases short : data.length < 36
  · exact Or.inl ⟨Or.inl short, parse_short short⟩
  have long : 36 ≤ data.length := Nat.le_of_not_lt short
  by_cases cut : data.length < 36 + 16 * fpCount data
  · exact Or.inl ⟨Or.inr cut, parse_cut long cut⟩
  · exact Or.inr ⟨not_or.mpr ⟨short, cut⟩, exists_payload long (Nat.le_of_not_lt cut)⟩

/-- A payload is read back as it was built, and no data makes the reader panic: it answers none
just where the data is too short, and elsewhere what some payload at its front was built from. -/
theorem sync_req_codec :
    (∀ (nodeId : Octets 32) (fps : List (Octets 16)), fps.length < 2 ^ 32 →
      parseSyncReqPayload (buildSyncReqPayload nodeId fps) = some (some (nodeId, fps))) ∧
    ∀ data : Bytes, ∃ parsed, parseSyncReqPayload data = some parsed ∧
      (parsed = none ↔ data.length < 36 ∨ data.length < 36 + 16 * fpCount data) ∧
      ∀ nodeId fps, parsed = some (nodeId, fps) → buildSyncReqPayload nodeId fps <+: data := by
  constructor
  · intro nodeId fps few
    rw [parse_build, Nat.mod_eq_of_lt few, List.take_length]
  · intro data
    rcases parse_cases data with ⟨short, refused⟩ | ⟨whole, nodeId, fps, read, front⟩
    · refine ⟨none, refused, iff_of_true rfl short, ?_⟩
      intro nodeId fps impossible
      cases impossible
    · refine ⟨some (nodeId, fps), read, iff_of_false (Option.some_ne_none _) whole, ?_⟩
      intro nodeId' fps' same
      cases same
      exact front

theorem sync_req_codec_two :
    parseSyncReqPayload (buildSyncReqPayload ⟨List.replicate 32 0xAB, by simp⟩
      [⟨List.replicate 16 1, by simp⟩, ⟨List.replicate 16 2, by simp⟩]) =
      some (some (⟨List.replicate 32 0xAB, by simp⟩,
        [⟨List.replicate 16 1, by simp⟩, ⟨List.replicate 16 2, by simp⟩])) :=
  sync_req_codec.1 _ _ (by decide)

end Caraka
