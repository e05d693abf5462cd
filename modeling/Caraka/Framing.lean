import Caraka.Transport
import Caraka.Foundation.Source

/-! Packets on a stream: what `send_raw_packet` writes and what the readers of
`handle_connection` make of it, however the stream is cut into pieces. -/

namespace Caraka

open Foundation

/-- The buffer of `BufReader::new`. -/
def bufReaderCapacity : Nat := 8192

/-- The bytes `send_raw_packet` writes for one packet after the other. -/
def sendRawPackets : List Bytes → Except String Bytes
  | [] => .ok []
  | data :: rest =>
    match sendRawPacket data with
    | .error e => .error e
    | .ok frame =>
      match sendRawPackets rest with
      | .error e => .error e
      | .ok frames => .ok (frame ++ frames)

section Readers

variable {σ : Type} (source : Source σ)

/-- `recv_packet_from_reader` on any reader; none is an error. -/
def recvPacket (reader : σ) : Option (Bytes × σ) :=
  match source.readExact reader 2 with
  | none => none
  | some (lenBuf, reader) =>
    let len := leValue lenBuf
    if len = 0 ∨ len > maxPacketSize then none
    else source.readExact reader len

theorem recvPacket_some {reader next : σ} {data : Bytes}
    (read : recvPacket source reader = some (data, next)) :
    1 ≤ data.length ∧ data.length ≤ maxPacketSize ∧
      source.pending reader = leBytes 2 data.length ++ data ++ source.pending next := by
  rw [recvPacket] at read
  by_cases enough : 2 ≤ (source.pending reader).length
  · rcases source.readExact_some enough with ⟨middle, prefixed, after⟩
    rw [prefixed] at read
    dsimp only at read
    split_ifs at read with invalid
    by_cases whole : leValue ((source.pending reader).take 2) ≤ (source.pending middle).length
    · rcases source.readExact_some whole with ⟨last, body, rest⟩
      rw [body, Option.some.injEq, Prod.mk.injEq] at read
      have size : data.length = leValue ((source.pending reader).take 2) := by
        rw [← read.1, List.length_take, Nat.min_eq_left whole]
      have front : leBytes 2 data.length = (source.pending reader).take 2 := by
        have two : ((source.pending reader).take 2).length = 2 := by
          rw [List.length_take, Nat.min_eq_left enough]
        have spelled := leBytes_leValue ((source.pending reader).take 2)
        rwa [two, ← size] at spelled
      refine ⟨by omega, by omega, ?_⟩
      rw [front, ← read.1, ← read.2, rest, after, List.append_assoc, List.take_append_drop,
        List.take_append_drop]
    · rw [source.readExact_none (Nat.lt_of_not_le whole)] at read
      cases read
  · rw [source.readExact_none (Nat.lt_of_not_le enough)] at read
    cases read

theorem recvPacket_eq (reader : σ) :
    (recvPacket source reader).map (fun read => (read.1, source.pending read.2)) =
      recvPacketFromReader (source.pending reader) := by
  rw [recvPacket, recvPacketFromReader]
  by_cases short : (source.pending reader).length < 2
  · rw [source.readExact_none short, if_pos short]
    rfl
  · rcases source.readExact_some (Nat.le_of_not_lt short) with ⟨middle, prefixed, after⟩
    rw [prefixed, if_neg short]
    dsimp only
    rw [← after]
    by_cases invalid : leValue ((source.pending reader).take 2) = 0 ∨
        leValue ((source.pending reader).take 2) > maxPacketSize
    · rw [if_pos invalid, if_pos invalid]
      rfl
    · rw [if_neg invalid, if_neg invalid]
      by_cases cut : (source.pending middle).length < leValue ((source.pending reader).take 2)
      · rw [source.readExact_none cut, if_pos cut]
        rfl
      · rcases source.readExact_some (Nat.le_of_not_lt cut) with ⟨last, body, rest⟩
        rw [body, if_neg cut, ← rest]
        rfl

def readerLoop (reader : σ) : List Bytes :=
  match _read : recvPacket source reader with
  | none => []
  | some (data, next) => data :: readerLoop next
termination_by (source.pending reader).length
decreasing_by
  rw [(recvPacket_some source _read).2.2]
  simp only [List.length_append, length_leBytes]
  omega

theorem readerLoop_none {reader : σ} (fails : recvPacket source reader = none) :
    readerLoop source reader = [] := by
  rw [readerLoop]
  split
  · rfl
  · rename_i read
    rw [fails] at read
    cases read

theorem readerLoop_some {reader next : σ} {data : Bytes}
    (reads : recvPacket source reader = some (data, next)) :
    readerLoop source reader = data :: readerLoop source next := by
  rw [readerLoop]
  split
  · rename_i fails
    rw [fails] at reads
    cases reads
  · rename_i read
    rw [read] at reads
    cases reads
    rfl

end Readers

/-- What `handle_connection` reads from a stream: the first packet from the stream itself, the
others through a buffered reader. -/
def connectionPackets (pieces : List Bytes) : List Bytes :=
  match recvPacket stream pieces with
  | none => []
  | some (hello, rest) =>
    hello :: readerLoop (stream.buffered bufReaderCapacity (by decide)) ([], rest)

/-- The packets whose frames lie wholly in the first `count` bytes. -/
def wholePackets : Nat → List Bytes → List Bytes
  | _, [] => []
  | count, data :: rest =>
    if data.length + 2 ≤ count then data :: wholePackets (count - (data.length + 2)) rest else []

theorem wholePackets_all (packets : List Bytes) (count : Nat)
    (enough : (packets.flatMap fun data => leBytes 2 data.length ++ data).length ≤ count) :
    wholePackets count packets = packets := by
  induction packets generalizing count with
  | nil => rfl
  | cons data rest ih =>
      rw [List.flatMap_cons, List.length_append, List.length_append, length_leBytes] at enough
      rw [wholePackets, if_pos (by omega), ih _ (by omega)]

theorem sendRawPackets_eq {packets : List Bytes}
    (sized : ∀ data ∈ packets, 1 ≤ data.length ∧ data.length ≤ maxPacketSize) :
    sendRawPackets packets = .ok (packets.flatMap fun data => leBytes 2 data.length ++ data) := by
  induction packets with
  | nil => rfl
  | cons data rest ih =>
      simp only [List.forall_mem_cons] at sized
      have fits : ¬ data.length > maxPacketSize := Nat.not_lt_of_le sized.1.2
      rw [sendRawPackets, sendRawPacket, if_neg fits, ih sized.2]
      rfl

theorem recv_take {data : Bytes} (rest : Bytes) (count : Nat)
    (sized : 1 ≤ data.length ∧ data.length ≤ maxPacketSize) :
    recvPacketFromReader ((leBytes 2 data.length ++ data ++ rest).take count) =
      if data.length + 2 ≤ count then some (data, rest.take (count - (data.length + 2)))
      else none := by
  have framed : (leBytes 2 data.length ++ data).length = data.length + 2 := by
    rw [List.length_append, length_leBytes, Nat.add_comm]
  by_cases whole : data.length + 2 ≤ count
  · have nonempty : data ≠ [] := List.ne_nil_of_length_pos sized.1
    have sent : sendRawPacket data = .ok (leBytes 2 data.length ++ data) :=
      if_neg (Nat.not_lt_of_le sized.2)
    rw [if_pos whole, List.take_append, List.take_of_length_le (by omega), framed]
    exact recv_sendRawPacket _ nonempty sent
  · rw [if_neg whole, List.take_append_of_le_length (by omega), recvPacketFromReader]
    by_cases short : count < 2
    · rw [if_pos (by rw [List.length_take]; omega)]
    · have size : ((leBytes 2 data.length ++ data).take count).length = count := by
        rw [List.length_take, framed]
        omega
      have prefixed : ((leBytes 2 data.length ++ data).take count).take 2 =
          leBytes 2 data.length := by
        rw [List.take_take, Nat.min_eq_left (by omega), List.take_left' (length_leBytes ..)]
      have value : leValue (leBytes 2 data.length) = data.length := by
        apply leValue_leBytes
        have bound := sized.2
        rw [maxPacketSize] at bound
        omega
      have valid : ¬ (data.length = 0 ∨ data.length > maxPacketSize) := by omega
      have cut : (((leBytes 2 data.length ++ data).take count).drop 2).length < data.length := by
        rw [List.length_drop, size]
        omega
      rw [size, if_neg short, prefixed]
      dsimp only
      rw [value, if_neg valid, if_pos cut]

theorem readerLoop_take {σ : Type} (source : Source σ) {packets : List Bytes} {count : Nat}
    {reader : σ} (sized : ∀ data ∈ packets, 1 ≤ data.length ∧ data.length ≤ maxPacketSize)
    (left : source.pending reader =
      (packets.flatMap fun data => leBytes 2 data.length ++ data).take count) :
    readerLoop source reader = wholePackets count packets := by
  induction packets generalizing count reader with
  | nil =>
      have read := recvPacket_eq source reader
      rw [left, List.flatMap_nil, List.take_nil] at read
      exact readerLoop_none source (Option.map_eq_none_iff.mp read)
  | cons data rest ih =>
      simp only [List.forall_mem_cons] at sized
      have read := recvPacket_eq source reader
      rw [left, List.flatMap_cons, recv_take _ _ sized.1] at read
      rw [wholePackets]
      split_ifs at read ⊢ with whole
      · rcases Option.map_eq_some_iff.mp read with ⟨⟨body, next⟩, reads, same⟩
        simp only [Prod.mk.injEq] at same
        rw [readerLoop_some source reads, same.1, ih sized.2 same.2]
      · exact readerLoop_none source (Option.map_eq_none_iff.mp read)

theorem readerLoop_congr {σ τ : Type} (source : Source σ) (other : Source τ) {reader : σ}
    {reader' : τ} (same : source.pending reader = other.pending reader') :
    readerLoop source reader = readerLoop other reader' := by
  induction size : (source.pending reader).length using Nat.strong_induction_on
    generalizing reader reader' with
  | _ length ih =>
      have read := recvPacket_eq source reader
      have read' := recvPacket_eq other reader'
      rw [← same, ← read] at read'
      cases reads : recvPacket source reader with
      | none =>
          rw [reads] at read'
          rw [readerLoop_none source reads,
            readerLoop_none other (Option.map_eq_none_iff.mp read')]
      | some result =>
          rcases result with ⟨data, next⟩
          rw [reads] at read'
          rcases Option.map_eq_some_iff.mp read' with ⟨⟨data', next'⟩, reads', agree⟩
          simp only [Prod.mk.injEq] at agree
          have taken := (recvPacket_some source reads).2.2
          have shorter : (source.pending next).length < length := by
            rw [← size, taken]
            simp only [List.length_append, length_leBytes]
            omega
          rw [readerLoop_some source reads, readerLoop_some other reads', agree.1,
            ih _ shorter agree.2.symm rfl]

theorem connectionPackets_eq (pieces : List Bytes) :
    connectionPackets pieces = readerLoop stream pieces := by
  rw [connectionPackets]
  cases reads : recvPacket stream pieces with
  | none => exact (readerLoop_none stream reads).symm
  | some result =>
      rw [readerLoop_some stream reads]
      exact congrArg (result.1 :: ·) (readerLoop_congr _ _ rfl)

/-- Packets of any number that fit a frame come out of the stream as they went in; a stream cut
off anywhere yields the packets whose frames it holds whole; and no stream yields a packet that
is empty, too long or not framed by exactly the bytes taken for it. -/
theorem stream_framing_exact :
    (∀ packets : List Bytes, (∀ data ∈ packets, 1 ≤ data.length ∧ data.length ≤ 65535) →
      ∃ written, sendRawPackets packets = .ok written ∧
        (∀ pieces : List Bytes, pieces.flatten = written → connectionPackets pieces = packets) ∧
        ∀ (count : Nat) (pieces : List Bytes), pieces.flatten = written.take count →
          connectionPackets pieces = wholePackets count packets) ∧
    ∀ (σ : Type) (source : Source σ) (reader next : σ) (data : Bytes),
      recvPacket source reader = some (data, next) →
        1 ≤ data.length ∧ data.length ≤ 65535 ∧
          source.pending reader = leBytes 2 data.length ++ data ++ source.pending next := by
  constructor
  · intro packets sized
    have cut : ∀ (count : Nat) (pieces : List Bytes), pieces.flatten =
        (packets.flatMap fun data => leBytes 2 data.length ++ data).take count →
          connectionPackets pieces = wholePackets count packets := by
      intro count pieces arrived
      rw [connectionPackets_eq]
      exact readerLoop_take stream sized arrived
    refine ⟨_, sendRawPackets_eq sized, ?_, cut⟩
    intro pieces arrived
    have whole := wholePackets_all packets _ (Nat.le_refl _)
    rw [← whole]
    apply cut
    rw [arrived, List.take_length]
  · intro σ source reader next data reads
    exact recvPacket_some source reads

end Caraka
