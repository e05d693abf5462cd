import Caraka.Connections
import Caraka.FrameSizes
import Caraka.Sample
import Caraka.Spreading

/-! The handshake of one connection, from the dial to the reader loops of both sides: who sends
which Hello, where each is read, and whom it makes known. -/

namespace Caraka

open Foundation

variable {crates : Crates}

/-- `build_my_hello`, given the four bytes drawn for the packet id. -/
def buildMyHello (node : AppState crates) (random : Octets 4) : Option ClampPacket :=
  (parseNodeId node.identity.nodeIdHex).map fun arr =>
    ClampPacket.buildHello arr node.displayName.val random

inductive Phase where
  /-- The dialer has connected and not yet sent its first Hello. -/
  | calling
  /-- `handle_connection` waits for the first packet. -/
  | awaiting
  /-- The first packet has named the peer. -/
  | met (peerNodeId : String)
  /-- The sender is inserted and the own Hello not yet sent. -/
  | entered (peerNodeId : String)
  /-- The writer task is spawned and the reader loop runs. -/
  | looping (peerNodeId : String)

structure Side (crates : Crates) where
  node : AppState crates
  kind : ConnKind
  phase : Phase
  inbox : List Bytes

inductive SideInput where
  | call (random : Octets 4)
  | meet
  | enter
  | reply (random : Octets 4)
  | write
  | read (env : ReceiveEnv)
  | command (activity : Activity) (asked : activity.IsCommand)

def onStream (packet : Option ClampPacket) : List Bytes :=
  match packet with
  | none => []
  | some packet =>
    match sendRawPacket packet.encode with
    | .error _ => []
    | .ok _ => [packet.encode]

/-- One move of a side, with the packets it puts on the stream to the other; an input that does
not fit the phase does nothing. -/
def Side.move (side : Side crates) : SideInput → Side crates × List Bytes
  | .call random =>
    match side.phase with
    | .calling => ({ side with phase := .awaiting }, onStream (buildMyHello side.node random))
    | .awaiting | .met _ | .entered _ | .looping _ => (side, [])
  | .meet =>
    match side.phase, side.inbox with
    | .awaiting, raw :: rest =>
      ({ side with phase := .met (peerNodeId crates side.kind raw), inbox := rest }, [])
    | _, _ => (side, [])
  | .enter =>
    match side.phase with
    | .met peerId =>
      ({ side with
          node := { side.node with
            peerSenders := side.node.peerSenders.insert peerId Channel.new }
          phase := .entered peerId }, [])
    | .calling | .awaiting | .entered _ | .looping _ => (side, [])
  | .reply random =>
    match side.phase with
    | .entered peerId =>
      ({ side with phase := .looping peerId }, onStream (buildMyHello side.node random))
    | .calling | .awaiting | .met _ | .looping _ => (side, [])
  | .write =>
    match side.phase with
    | .looping peerId =>
      match (side.node.peerSenders.get? peerId).bind Channel.writeNext with
      | none => (side, [])
      | some (channel, sent) =>
        ({ side with
            node := { side.node with
              peerSenders := side.node.peerSenders.modify peerId fun _ => channel } },
          sent.toList)
    | .calling | .awaiting | .met _ | .entered _ => (side, [])
  | .read env =>
    match side.phase, side.inbox with
    | .looping peerId, raw :: rest =>
      ({ side with
          node := (processIncomingPacket side.node env raw peerId side.kind).1
          inbox := rest }, [])
    | _, _ => (side, [])
  | .command activity _ => ({ side with node := side.node.perform activity }, [])

inductive Role where
  | dialer
  | acceptor
  deriving DecidableEq

structure Handshake (crates : Crates) where
  dialer : Side crates
  acceptor : Side crates

namespace Handshake

/-- The connection is made: the dialer is about to send its Hello, the acceptor waits for it. -/
def start (dialer acceptor : AppState crates) (dialed accepted : ConnKind) : Handshake crates where
  dialer := ⟨dialer, dialed, .calling, []⟩
  acceptor := ⟨acceptor, accepted, .awaiting, []⟩

def step (state : Handshake crates) : Role × SideInput → Handshake crates
  | (.dialer, input) =>
    let moved := state.dialer.move input
    ⟨moved.1, { state.acceptor with inbox := state.acceptor.inbox ++ moved.2 }⟩
  | (.acceptor, input) =>
    let moved := state.acceptor.move input
    ⟨{ state.dialer with inbox := state.dialer.inbox ++ moved.2 }, moved.1⟩

end Handshake

inductive Moved (side : Side crates) : Side crates × List Bytes → Prop where
  | idle : Moved side (side, [])
  | called (random : Octets 4) (phase : side.phase = .calling) :
      Moved side ({ side with phase := .awaiting }, onStream (buildMyHello side.node random))
  | met {raw : Bytes} {rest : List Bytes} (phase : side.phase = .awaiting)
      (inbox : side.inbox = raw :: rest) :
      Moved side ({ side with
        phase := .met (peerNodeId crates side.kind raw), inbox := rest }, [])
  | entered {peerId : String} (phase : side.phase = .met peerId) :
      Moved side ({ side with
        node := { side.node with
          peerSenders := side.node.peerSenders.insert peerId Channel.new }
        phase := .entered peerId }, [])
  | replied {peerId : String} (random : Octets 4) (phase : side.phase = .entered peerId) :
      Moved side ({ side with phase := .looping peerId },
        onStream (buildMyHello side.node random))
  | wrote {peerId : String} {channel next : Channel} {sent : Option Bytes}
      (phase : side.phase = .looping peerId)
      (found : side.node.peerSenders.get? peerId = some channel)
      (written : channel.writeNext = some (next, sent)) :
      Moved side ({ side with
        node := { side.node with
          peerSenders := side.node.peerSenders.modify peerId fun _ => next } }, sent.toList)
  | read {peerId : String} {raw : Bytes} {rest : List Bytes} (env : ReceiveEnv)
      (phase : side.phase = .looping peerId) (inbox : side.inbox = raw :: rest) :
      Moved side ({ side with
        node := (processIncomingPacket side.node env raw peerId side.kind).1
        inbox := rest }, [])
  | commanded {activity : Activity} (asked : activity.IsCommand) :
      Moved side ({ side with node := side.node.perform activity }, [])

theorem move_moved (side : Side crates) (input : SideInput) : Moved side (side.move input) := by
  cases input with
  | call random =>
      rw [Side.move]
      split
      · rename_i phase
        exact .called random phase
      all_goals exact .idle
  | meet =>
      rw [Side.move]
      split
      · rename_i raw rest phase inbox
        exact .met phase inbox
      · exact .idle
  | enter =>
      rw [Side.move]
      split
      · rename_i peerId phase
        exact .entered phase
      all_goals exact .idle
  | reply random =>
      rw [Side.move]
      split
      · rename_i peerId phase
        exact .replied random phase
      all_goals exact .idle
  | write =>
      rw [Side.move]
      split
      · rename_i peerId phase
        split
        · exact .idle
        · rename_i channel sent taken
          rcases Option.bind_eq_some_iff.mp taken with ⟨before, found, written⟩
          exact .wrote phase found written
      all_goals exact .idle
  | read env =>
      rw [Side.move]
      split
      · rename_i peerId raw rest phase inbox
        exact .read env phase inbox
      · exact .idle
  | command activity asked => exact .commanded asked

def SameNode (node later : AppState crates) : Prop :=
  later.identity = node.identity ∧ later.displayName = node.displayName

theorem displayName_receive (node : AppState crates) (env : ReceiveEnv) (raw : Bytes)
    (senderKey : String) (kind : ConnKind) :
    (processIncomingPacket node env raw senderKey kind).1.displayName = node.displayName := by
  by_cases greets : Greets raw
  · rcases greets with ⟨packet, read, hello⟩
    rw [processIncomingPacket_hello node read hello]
    rfl
  · exact (keeps_processIncomingPacket node env senderKey kind
      fun packet read hello => greets ⟨packet, read, hello⟩).1.displayName_eq

theorem Moved.sameNode {side : Side crates} {outcome : Side crates × List Bytes}
    (moved : Moved side outcome) : SameNode side.node outcome.1.node := by
  cases moved with
  | idle | called | met | entered | replied | wrote => exact ⟨rfl, rfl⟩
  | read env phase inbox =>
      exact ⟨(evolves_processIncomingPacket ..).1.identity_eq, displayName_receive ..⟩
  | commanded asked =>
      have keeps := keeps_command side.node asked
      exact ⟨keeps.identity_eq, keeps.displayName_eq⟩

theorem Moved.peers {side : Side crates} {outcome : Side crates × List Bytes}
    (moved : Moved side outcome) :
    (∀ peerId, (side.node.store.peers.get? peerId).isSome →
      (outcome.1.node.store.peers.get? peerId).isSome) ∧
    ((∀ raw ∈ side.inbox, ¬ Greets raw) ∨ (∀ peerId, side.phase ≠ .looping peerId) →
      outcome.1.node.store.peers = side.node.store.peers) := by
  cases moved with
  | idle | called | met | entered | replied | wrote =>
      exact ⟨fun _ known => known, fun _ => rfl⟩
  | @read peerId raw rest env phase inbox =>
      refine ⟨(evolves_processIncomingPacket ..).1.peers_kept, ?_⟩
      intro quiet
      rcases quiet with quiet | early
      · have other : ¬ Greets raw := quiet raw (by rw [inbox]; exact List.mem_cons_self)
        exact (keeps_processIncomingPacket side.node env peerId side.kind
          fun packet read hello => other ⟨packet, read, hello⟩).1.peers_eq
      · exact absurd phase (early peerId)
  | commanded asked =>
      have keeps := keeps_command side.node asked
      exact ⟨keeps.evolves.peers_kept, fun _ => keeps.peers_eq⟩

theorem offers_send {node : AppState crates} {outcome : SendOutcome crates}
    (tidy : outcome.Tidy node)
    (built : ∀ packet, outcome.sent = some packet → ¬ Greets packet.encode) :
    Offers (fun data => ¬ Greets data) node.peerSenders outcome.node.peerSenders := by
  rcases tidy with ⟨-, -, -, senders⟩ | ⟨-, packet, -, sent, senders⟩
  · rw [senders]
    exact .nothing
  · rw [senders]
    exact .data packet.encode (built packet sent) fun _ _ => .inr rfl

theorem offers_command (node : AppState crates) {activity : Activity}
    (asked : activity.IsCommand) :
    Offers (fun data => ¬ Greets data) node.peerSenders (node.perform activity).peerSenders := by
  cases activity with
  | receive => cases asked
  | sendDm env recipientId plaintext replyToId replyToText =>
      apply offers_send (tidy_sendDm node env recipientId plaintext replyToId replyToText)
      intro packet sent
      rcases sendDm_sent sent with ⟨peerPub, facts⟩
      apply not_greets_encode facts.encryption.genuine
      rw [facts.encryption.packetType_eq]
      exact fun hello => by cases hello
  | sendFile env recipientId file =>
      apply offers_send (tidy_sendFile node env recipientId file)
      intro packet sent
      rcases sendFile_sent sent with ⟨fileBytes, filename, mimeType, peerPub, facts⟩
      apply not_greets_encode facts.encryption.genuine
      rw [facts.encryption.packetType_eq]
      exact fun hello => by cases hello
  | sendBroadcast env text =>
      apply offers_send (tidy_sendBroadcast node env text)
      intro packet sent
      rw [sendBroadcast] at sent
      split at sent
      · cases sent
      split at sent
      · cases sent
      cases sent
      exact not_greets_encode ⟨rfl, rfl⟩ fun hello => by cases hello
  | tryDecrypt now packetId nonceHex ciphertextHex aeadTagHex =>
      have ended := tryDecryptPacket_end node now packetId nonceHex ciphertextHex aeadTagHex
      rw [AppState.perform]
      generalize tryDecryptPacket node now packetId nonceHex ciphertextHex aeadTagHex = outcome
        at ended ⊢
      cases ended <;> exact .nothing
  | tryDecryptFile now saveReceivedFile packetId nonceHex ciphertextHex aeadTagHex =>
      have ended := tryDecryptFilePacket_end node now saveReceivedFile packetId nonceHex
        ciphertextHex aeadTagHex
      rw [AppState.perform]
      generalize tryDecryptFilePacket node now saveReceivedFile packetId nonceHex ciphertextHex
        aeadTagHex = outcome at ended ⊢
      cases ended <;> exact .nothing
  | getMessages now peerId limit =>
      rw [AppState.perform, getMessages]
      split
      · exact .nothing
      · split <;> exact .nothing

def Side.Quiet (side : Side crates) : Prop :=
  ∀ peerId, side.phase = .entered peerId ∨ side.phase = .looping peerId →
    ∀ channel, side.node.peerSenders.get? peerId = some channel →
      ∀ data ∈ channel.queued, ¬ Greets data

theorem Side.Quiet.offered {side later : Side crates} (quiet : side.Quiet)
    (phase : later.phase = side.phase) {allowed : Bytes → Prop}
    (offers : Offers allowed side.node.peerSenders later.node.peerSenders)
    (fine : ∀ data, allowed data → ¬ Greets data) : later.Quiet := by
  intro peerId inside channel found data member
  rw [phase] at inside
  rcases offers.queued found with ⟨old, held, queued⟩
  rcases queued data member with present | new
  · exact quiet peerId inside old held data present
  · exact fine data new

theorem writeNext_some {channel next : Channel} {sent : Option Bytes}
    (written : channel.writeNext = some (next, sent)) :
    next.queued ⊆ channel.queued ∧ ∀ data ∈ sent, data ∈ channel.queued := by
  rw [Channel.writeNext] at written
  cases queued : channel.queued with
  | nil =>
      rw [queued] at written
      cases written
  | cons data rest =>
      rw [queued] at written
      dsimp only at written
      cases framed : sendRawPacket data with
      | error e =>
          rw [framed] at written
          cases written
          exact ⟨List.nil_subset _, fun _ none => by cases none⟩
      | ok frame =>
          rw [framed] at written
          cases written
          have popped : channel.pop.queued = rest := congrArg List.tail queued
          rw [popped]
          refine ⟨List.subset_cons_self data rest, ?_⟩
          intro other same
          cases same
          exact List.mem_cons_self

theorem Moved.quiet {side : Side crates} {outcome : Side crates × List Bytes}
    (moved : Moved side outcome) (quiet : side.Quiet) : outcome.1.Quiet := by
  cases moved with
  | idle => exact quiet
  | called random phase =>
      intro peerId inside
      rcases inside with inside | inside <;> cases inside
  | met phase inbox =>
      intro peerId inside
      rcases inside with inside | inside <;> cases inside
  | @entered key phase =>
      intro peerId inside channel found data member
      rcases inside with inside | inside
      · cases inside
        rw [AssocMap.get?_insert_self, Option.some.injEq] at found
        rw [← found] at member
        cases member
      · cases inside
  | replied random phase =>
      intro peerId inside channel found
      rcases inside with inside | inside
      · cases inside
      · cases inside
        exact quiet _ (.inl phase) channel found
  | @wrote key channel next sent phase found written =>
      intro peerId inside later held data member
      have same : peerId = key := by
        rcases inside with inside | inside
        · rw [phase] at inside
          cases inside
        · rw [phase] at inside
          cases inside
          rfl
      subst same
      rw [AssocMap.get?_modify_self, found, Option.map_some, Option.some.injEq] at held
      rw [← held] at member
      exact quiet peerId (.inr phase) channel found data ((writeNext_some written).1 member)
  | read env phase inbox =>
      exact quiet.offered rfl (offers_receive ..) fun data fine => fine.2
  | commanded asked => exact quiet.offered rfl (offers_command _ asked) fun data fine => fine

theorem length_buildHello_le (node : AppState crates) (arr : NodePublicKey) (random : Octets 4) :
    (ClampPacket.buildHello arr node.displayName.val random).encode.length ≤ maxPacketSize := by
  have short := node.displayName.property
  have nameLength : escapedLength node.displayName.val ≤ 300 := by
    have grown := Json.length_escaped_le node.displayName.val
    rw [escapedLength]
    omega
  have payload : (ClampPacket.buildHello arr node.displayName.val random).ciphertext.length ≤
      500 := by
    simp (disch := decide) only [ClampPacket.buildHello, Json.length_object,
      List.map_cons, List.map_nil, List.sum_cons, List.sum_nil, List.length_cons,
      List.length_nil, length_jsonString, escapedLength_encode, escapedLength_plain,
      String.reduceToList, Nat.zero_add, Nat.reduceAdd, arr.length_eq]
    omega
  rw [length_encode_eq, maxPacketSize]
  omega

def HelloOf (node : AppState crates) (raw : Bytes) : Prop :=
  ∃ random packet, buildMyHello node random = some packet ∧ raw = packet.encode

theorem buildMyHello_congr {node later : AppState crates} (same : SameNode node later)
    (random : Octets 4) : buildMyHello later random = buildMyHello node random := by
  rw [buildMyHello, buildMyHello, same.1, same.2]

theorem buildMyHello_eq (node : AppState crates) (random : Octets 4) :
    buildMyHello node random =
      some (ClampPacket.buildHello node.identity.myNodeId node.displayName.val random) := by
  rw [buildMyHello, node.identity.nodeIdHex_eq, parseNodeId_encode, Option.map_some]

theorem onStream_buildHello (node : AppState crates) (arr : NodePublicKey) (random : Octets 4) :
    onStream (some (ClampPacket.buildHello arr node.displayName.val random)) =
      [(ClampPacket.buildHello arr node.displayName.val random).encode] := by
  have fits := length_buildHello_le node arr random
  rw [onStream, sendRawPacket, if_neg (Nat.not_lt.mpr fits)]

theorem onStream_hello (node : AppState crates) (random : Octets 4) :
    ∃ raw, HelloOf node raw ∧ onStream (buildMyHello node random) = [raw] := by
  refine ⟨_, ⟨random, _, buildMyHello_eq node random, rfl⟩, ?_⟩
  rw [buildMyHello_eq, onStream_buildHello]

theorem greets_of_hello {node : AppState crates} {raw : Bytes} (hello : HelloOf node raw) :
    Greets raw := by
  rcases hello with ⟨random, packet, built, rfl⟩
  rw [buildMyHello_eq, Option.some.injEq] at built
  subst built
  exact ⟨_, ClampPacket.decode_encode _ ⟨rfl, rfl⟩, rfl⟩

/-- How far the handshake has come: the phase and the stream of the dialer, then those of the
acceptor. The acceptor reads the dialer's first Hello before its loop and the second in it; its own
single Hello is read by the dialer before its loop. -/
inductive Exchange (hello : Bytes → Prop) (known : Prop) :
    Phase → List Bytes → Phase → List Bytes → Prop where
  | calling : Exchange hello known .calling [] .awaiting []
  | called {first : Bytes} (greeting : hello first) :
      Exchange hello known .awaiting [] .awaiting [first]
  | met {caller : String} : Exchange hello known .awaiting [] (.met caller) []
  | entered {caller : String} : Exchange hello known .awaiting [] (.entered caller) []
  | answered {caller : String} {answer : Bytes} {queue : List Bytes}
      (quiet : ∀ raw ∈ queue, ¬ Greets raw) :
      Exchange hello known .awaiting (answer :: queue) (.looping caller) []
  | known {caller called : String} {queue : List Bytes} (quiet : ∀ raw ∈ queue, ¬ Greets raw) :
      Exchange hello known (.met called) queue (.looping caller) []
  | inserted {caller called : String} {queue : List Bytes}
      (quiet : ∀ raw ∈ queue, ¬ Greets raw) :
      Exchange hello known (.entered called) queue (.looping caller) []
  | greeted {caller called : String} {second : Bytes} {queue rest : List Bytes}
      (quiet : ∀ raw ∈ queue, ¬ Greets raw) (greeting : hello second)
      (quiet' : ∀ raw ∈ rest, ¬ Greets raw) :
      Exchange hello known (.looping called) queue (.looping caller) (second :: rest)
  | done {caller called : String} {queue rest : List Bytes}
      (quiet : ∀ raw ∈ queue, ¬ Greets raw) (row : known)
      (quiet' : ∀ raw ∈ rest, ¬ Greets raw) :
      Exchange hello known (.looping called) queue (.looping caller) rest

namespace Exchange

variable {hello : Bytes → Prop} {known known' : Prop} {phase phase' : Phase}
  {inbox inbox' : List Bytes}

theorem mono (exchange : Exchange hello known phase inbox phase' inbox')
    (kept : known → known') : Exchange hello known' phase inbox phase' inbox' := by
  cases exchange with
  | calling => exact .calling
  | called greeting => exact .called greeting
  | met => exact .met
  | entered => exact .entered
  | answered quiet => exact .answered quiet
  | known quiet => exact .known quiet
  | inserted quiet => exact .inserted quiet
  | greeted quiet greeting quiet' => exact .greeted quiet greeting quiet'
  | done quiet row quiet' => exact .done quiet (kept row) quiet'

theorem dialer_quiet (exchange : Exchange hello known phase inbox phase' inbox') :
    (∀ raw ∈ inbox, ¬ Greets raw) ∨ ∀ peerId, phase ≠ .looping peerId := by
  cases exchange with
  | calling | called | met | entered => exact .inl fun _ member => by cases member
  | answered => exact .inr fun _ loops => by cases loops
  | known quiet | inserted quiet | greeted quiet | done quiet => exact .inl quiet

end Exchange

theorem quiet_append {queue : List Bytes} {sent : Option Bytes}
    (quiet : ∀ raw ∈ queue, ¬ Greets raw) (fine : ∀ data ∈ sent, ¬ Greets data) :
    ∀ raw ∈ queue ++ sent.toList, ¬ Greets raw := by
  intro raw member
  rcases List.mem_append.mp member with old | new
  · exact quiet raw old
  · exact fine raw (Option.mem_toList.mp new)

theorem Exchange.dialer {hello : Bytes → Prop} {known : Prop} {side : Side crates}
    {outcome : Side crates × List Bytes} {phase : Phase} {inbox : List Bytes}
    (moved : Moved side outcome) (quiet : side.Quiet)
    (greets : ∀ random, ∃ raw, hello raw ∧ onStream (buildMyHello side.node random) = [raw])
    (exchange : Exchange hello known side.phase side.inbox phase inbox) :
    Exchange hello known outcome.1.phase outcome.1.inbox phase (inbox ++ outcome.2) := by
  cases moved with
  | idle => rwa [List.append_nil]
  | commanded asked => rwa [List.append_nil]
  | called random calling =>
      rcases greets random with ⟨raw, greeting, sent⟩
      rw [calling] at exchange
      dsimp only
      rw [sent]
      generalize side.inbox = own at exchange ⊢
      cases exchange with
      | calling => exact .called greeting
  | @met raw rest awaiting own =>
      rw [awaiting, own] at exchange
      rw [List.append_nil]
      cases exchange with
      | answered quiet' => exact .known quiet'
  | entered met =>
      rw [met] at exchange
      rw [List.append_nil]
      dsimp only
      generalize side.inbox = own at exchange ⊢
      cases exchange with
      | known quiet' => exact .inserted quiet'
  | replied random entered =>
      rcases greets random with ⟨raw, greeting, sent⟩
      rw [entered] at exchange
      dsimp only
      rw [sent]
      generalize side.inbox = own at exchange ⊢
      cases exchange with
      | inserted quiet' => exact .greeted quiet' greeting fun _ member => by cases member
  | @wrote peerId channel next sent looping found written =>
      have fine : ∀ data ∈ sent, ¬ Greets data := fun data member =>
        quiet peerId (.inr looping) channel found data ((writeNext_some written).2 data member)
      dsimp only
      generalize side.phase = own at exchange looping ⊢
      generalize side.inbox = queue at exchange ⊢
      subst looping
      cases exchange with
      | greeted quiet' greeting quiet'' =>
          exact .greeted quiet' greeting (quiet_append quiet'' fine)
      | done quiet' row quiet'' => exact .done quiet' row (quiet_append quiet'' fine)
  | @read peerId raw rest env looping own =>
      rw [List.append_nil]
      dsimp only
      generalize side.phase = phase' at exchange looping ⊢
      rw [own] at exchange
      subst looping
      cases exchange with
      | greeted quiet' greeting quiet'' =>
          exact .greeted (List.forall_mem_cons.mp quiet').2 greeting quiet''
      | done quiet' row quiet'' => exact .done (List.forall_mem_cons.mp quiet').2 row quiet''

/-- The JSON parser reads in a Hello of a node the node id written into it. -/
def ReadsHello (node : AppState crates) : Prop :=
  ∀ random packet, buildMyHello node random = some packet →
    ∃ payload, crates.valueFromSlice packet.ciphertext = some payload ∧
      (payload.member "nodeId").asStr = some node.identity.nodeIdHex

/-- The peers table has a row for another node. -/
def Registered (node other : AppState crates) : Prop :=
  (node.store.peers.get? other.identity.nodeIdHex).isSome

theorem registered_of_hello {node caller : AppState crates} (reads : ReadsHello caller)
    {raw : Bytes} (greeting : HelloOf caller raw) (env : ReceiveEnv) (senderKey : String)
    (kind : ConnKind) :
    Registered (processIncomingPacket node env raw senderKey kind).1 caller := by
  rcases greeting with ⟨random, packet, built, rfl⟩
  rcases reads random packet built with ⟨payload, parsed, named⟩
  rw [buildMyHello_eq, Option.some.injEq] at built
  subst built
  rw [processIncomingPacket_hello node (ClampPacket.decode_encode _ ⟨rfl, rfl⟩) rfl, handleHello,
    parsed]
  simp only [Option.getD_some, named, savePeerFromHello]
  rw [Registered, Store.upsertPeer, AssocMap.get?_insert_self]
  rfl

theorem Exchange.acceptor {caller : AppState crates} {side : Side crates}
    {outcome : Side crates × List Bytes} {phase : Phase} {inbox : List Bytes}
    (moved : Moved side outcome) (quiet : side.Quiet) (reads : ReadsHello caller)
    (exchange : Exchange (HelloOf caller) (Registered side.node caller) phase inbox side.phase
      side.inbox) :
    Exchange (HelloOf caller) (Registered outcome.1.node caller) phase (inbox ++ outcome.2)
      outcome.1.phase outcome.1.inbox := by
  have kept := exchange.mono (moved.peers.1 caller.identity.nodeIdHex)
  cases moved with
  | idle => rwa [List.append_nil]
  | commanded asked => rwa [List.append_nil]
  | called random calling =>
      rw [calling] at exchange
      generalize side.inbox = own at exchange
      cases exchange
  | @met raw rest awaiting own =>
      rw [awaiting, own] at exchange
      rw [List.append_nil]
      cases exchange with
      | called greeting => exact .met
  | entered met =>
      rw [met] at exchange
      rw [List.append_nil]
      dsimp only
      generalize side.inbox = own at exchange ⊢
      cases exchange with
      | met => exact .entered
  | replied random entered =>
      rcases onStream_hello side.node random with ⟨raw, -, sent⟩
      rw [entered] at exchange
      dsimp only
      rw [sent]
      generalize side.inbox = own at exchange ⊢
      cases exchange with
      | entered => exact .answered fun _ member => by cases member
  | @wrote peerId channel next sent looping found written =>
      have fine : ∀ data ∈ sent, ¬ Greets data := fun data member =>
        quiet peerId (.inr looping) channel found data ((writeNext_some written).2 data member)
      dsimp only at kept ⊢
      generalize side.phase = own at kept looping ⊢
      generalize side.inbox = queue at kept ⊢
      subst looping
      cases kept with
      | answered quiet' => exact .answered (quiet_append quiet' fine)
      | known quiet' => exact .known (quiet_append quiet' fine)
      | inserted quiet' => exact .inserted (quiet_append quiet' fine)
      | greeted quiet' greeting quiet'' =>
          exact .greeted (quiet_append quiet' fine) greeting quiet''
      | done quiet' row quiet'' => exact .done (quiet_append quiet' fine) row quiet''
  | @read peerId raw rest env looping own =>
      rw [List.append_nil]
      dsimp only at kept ⊢
      generalize side.phase = phase' at kept looping ⊢
      rw [own] at kept
      subst looping
      cases kept with
      | greeted quiet' greeting quiet'' =>
          exact .done quiet' (registered_of_hello reads greeting env peerId side.kind) quiet''
      | done quiet' row quiet'' => exact .done quiet' row (List.forall_mem_cons.mp quiet'').2

namespace Handshake

structure Sound (dialer acceptor : AppState crates) (state : Handshake crates) : Prop where
  same : SameNode dialer state.dialer.node
  same' : SameNode acceptor state.acceptor.node
  unlearned : state.dialer.node.store.peers = dialer.store.peers
  quiet : state.dialer.Quiet
  quiet' : state.acceptor.Quiet
  exchange : Exchange (HelloOf dialer) (Registered state.acceptor.node dialer) state.dialer.phase
    state.dialer.inbox state.acceptor.phase state.acceptor.inbox

theorem sound_start (dialer acceptor : AppState crates) (dialed accepted : ConnKind) :
    Sound dialer acceptor (start dialer acceptor dialed accepted) where
  same := ⟨rfl, rfl⟩
  same' := ⟨rfl, rfl⟩
  unlearned := rfl
  quiet _ inside := by rcases inside with inside | inside <;> cases inside
  quiet' _ inside := by rcases inside with inside | inside <;> cases inside
  exchange := .calling

theorem sound_step {dialer acceptor : AppState crates} {state : Handshake crates}
    (reads : ReadsHello dialer) (sound : Sound dialer acceptor state) (input : Role × SideInput) :
    Sound dialer acceptor (state.step input) := by
  rcases input with ⟨role, input⟩
  cases role with
  | dialer =>
      have moved := move_moved state.dialer input
      have node := moved.sameNode
      have greets : ∀ random, ∃ raw, HelloOf dialer raw ∧
          onStream (buildMyHello state.dialer.node random) = [raw] := by
        intro random
        rw [buildMyHello_congr sound.same]
        exact onStream_hello dialer random
      exact {
        same := ⟨node.1.trans sound.same.1, node.2.trans sound.same.2⟩
        same' := sound.same'
        unlearned := (moved.peers.2 sound.exchange.dialer_quiet).trans sound.unlearned
        quiet := moved.quiet sound.quiet
        quiet' := sound.quiet'
        exchange := sound.exchange.dialer moved sound.quiet greets }
  | acceptor =>
      have moved := move_moved state.acceptor input
      have node := moved.sameNode
      exact {
        same := sound.same
        same' := ⟨node.1.trans sound.same'.1, node.2.trans sound.same'.2⟩
        unlearned := sound.unlearned
        quiet := sound.quiet
        quiet' := moved.quiet sound.quiet'
        exchange := sound.exchange.acceptor moved sound.quiet' reads }

theorem sound_run {dialer acceptor : AppState crates} {state : Handshake crates}
    (reads : ReadsHello dialer) (sound : Sound dialer acceptor state)
    (inputs : List (Role × SideInput)) : Sound dialer acceptor (run step state inputs) :=
  @run_induction _ _ step (Sound dialer acceptor)
    (fun _ input sound => sound_step reads sound input) state inputs sound

/-- Both sides are in their reader loops and no Hello is left on the way. -/
structure Over (state : Handshake crates) : Prop where
  loops : ∃ peerId, state.dialer.phase = .looping peerId
  loops' : ∃ peerId, state.acceptor.phase = .looping peerId
  consumed : ∀ raw ∈ state.dialer.inbox, ¬ Greets raw
  consumed' : ∀ raw ∈ state.acceptor.inbox, ¬ Greets raw

theorem Sound.registered {dialer acceptor : AppState crates} {state : Handshake crates}
    (sound : Sound dialer acceptor state) (finished : state.Over) :
    Registered state.acceptor.node dialer := by
  rcases finished with ⟨⟨called, loops⟩, ⟨caller, loops'⟩, -, consumed⟩
  have exchange := sound.exchange
  rw [loops, loops'] at exchange
  generalize state.dialer.inbox = queue at exchange
  generalize state.acceptor.inbox = rest at exchange consumed
  cases exchange with
  | greeted quiet greeting quiet' =>
      exact absurd (greets_of_hello greeting) (consumed _ List.mem_cons_self)
  | done quiet row quiet' => exact row

def greetings (random : Octets 4) (env : ReceiveEnv) : List (Role × SideInput) := [
  (.dialer, .call random),
  (.acceptor, .meet),
  (.acceptor, .enter),
  (.acceptor, .reply random),
  (.dialer, .meet),
  (.dialer, .enter),
  (.dialer, .reply random),
  (.acceptor, .read env)]

theorem over_greetings (dialer acceptor : AppState crates) (dialed accepted : ConnKind)
    (random : Octets 4) (env : ReceiveEnv) :
    (run step (start dialer acceptor dialed accepted) (greetings random env)).Over := by
  simp only [greetings, run_cons, run_nil, start, step, Side.move, buildMyHello_eq,
    onStream_buildHello, List.nil_append, List.append_nil]
  exact ⟨⟨_, rfl⟩, ⟨_, rfl⟩, fun _ member => (by cases member), fun _ member => (by cases member)⟩

end Handshake

/-- Once a handshake is over the two nodes know each other exactly where the dialer knew the
acceptor before. -/
theorem handshake_mutual_iff {dialer acceptor : AppState crates} (reads : ReadsHello dialer)
    (dialed accepted : ConnKind) (inputs : List (Role × SideInput))
    (finished : (run Handshake.step (Handshake.start dialer acceptor dialed accepted)
      inputs).Over) :
    (Registered (run Handshake.step (Handshake.start dialer acceptor dialed accepted)
        inputs).dialer.node acceptor ∧
      Registered (run Handshake.step (Handshake.start dialer acceptor dialed accepted)
        inputs).acceptor.node dialer) ↔ Registered dialer acceptor := by
  have sound := Handshake.sound_run reads
    (Handshake.sound_start dialer acceptor dialed accepted) inputs
  have registered := sound.registered finished
  have unlearned : Registered (run Handshake.step
      (Handshake.start dialer acceptor dialed accepted) inputs).dialer.node acceptor ↔
        Registered dialer acceptor := by
    rw [Registered, sound.unlearned, Registered]
  exact ⟨fun both => unlearned.mp both.1, fun known => ⟨unlearned.mpr known, registered⟩⟩

namespace Sample

theorem helloCrates_read (peers : List Nat) : ReadsHello (node helloCrates 1 peers) := by
  intro random packet built
  rw [buildMyHello_eq, Option.some.injEq] at built
  subst built
  exact ⟨_, if_pos rfl, rfl⟩

def greeted (peers : List Nat) : Handshake helloCrates :=
  run Handshake.step
    (Handshake.start (node helloCrates 1 peers) (node helloCrates 2 []) (lan 7771) (lan 50123))
    (Handshake.greetings (octets 4 0) receiveEnv)

/-- A dialer that knew the acceptor: both know each other. -/
theorem handshake_mutual_iff_known :
    Registered (greeted [2]).dialer.node (node helloCrates 2 []) ∧
      Registered (greeted [2]).acceptor.node (node helloCrates 1 [2]) := by
  have known : Registered (node helloCrates 1 [2]) (node helloCrates 2 []) := by
    rw [Registered]
    decide
  exact (handshake_mutual_iff (helloCrates_read [2]) (lan 7771) (lan 50123)
    (Handshake.greetings (octets 4 0) receiveEnv) (Handshake.over_greetings ..)).mpr known

/-- A dialer that did not know the acceptor: it still does not when the handshake is over. -/
theorem handshake_one_sided :
    (greeted []).Over ∧ Registered (greeted []).acceptor.node (node helloCrates 1 []) ∧
      ¬ Registered (greeted []).dialer.node (node helloCrates 2 []) := by
  have sound := Handshake.sound_run (helloCrates_read [])
    (Handshake.sound_start (node helloCrates 1 []) (node helloCrates 2 []) (lan 7771) (lan 50123))
    (Handshake.greetings (octets 4 0) receiveEnv)
  have finished : (greeted []).Over := Handshake.over_greetings ..
  refine ⟨finished, sound.registered finished, ?_⟩
  intro registered
  rw [Registered, greeted, sound.unlearned] at registered
  cases registered

end Sample

end Caraka
