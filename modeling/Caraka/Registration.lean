import Caraka.Activity

/-! Which packet ids go into the replay cache, and what goes with them: the checks a frame passes,
what it hands to the application and what it has relayed. -/

namespace Caraka

open Foundation

variable {crates : Crates}

def AppState.acceptedId (node : AppState crates) (env : ReceiveEnv) (packet : ClampPacket)
    (senderKey : String) : Option (Octets 8) :=
  match sourceNodeId senderKey packet with
  | none => none
  | some source =>
    match (node.router.handleIncoming crates env.instant packet source).1 with
    | .drop _ => none
    | .deliverToApp | .relay | .deliverAndRelay => some packet.header.packetId

def AppState.receivedId (node : AppState crates) (env : ReceiveEnv) (raw : Bytes)
    (senderKey : String) : Option (Octets 8) :=
  match ClampPacket.decode raw with
  | .error _ => none
  | .ok packet =>
    match packet.header.packetType with
    | .broadcast =>
      if node.router.isDuplicate packet.header.packetId then none
      else some packet.header.packetId
    | .dm | .channel | .file => node.acceptedId env packet senderKey
    | .hello | .syncReq | .syncResp | .syncData => none

def AppState.registered (node : AppState crates) : Activity → Option (Octets 8)
  | .receive env raw senderKey _ => node.receivedId env raw senderKey
  | .sendDm env recipientId plaintext replyToId replyToText =>
    (sendDm node env recipientId plaintext replyToId replyToText).sent.map fun packet =>
      packet.header.packetId
  | .sendFile env recipientId file =>
    (sendFile node env recipientId file).sent.map fun packet => packet.header.packetId
  | .sendBroadcast env text =>
    (sendBroadcast node env text).sent.map fun packet => packet.header.packetId
  | .tryDecrypt .. | .tryDecryptFile .. | .getMessages .. => none

/-- The packet ids put into the replay cache over a run, in order. -/
def registeredIds (node : AppState crates) (activities : List Activity) : List (Octets 8) :=
  emitted AppState.perform AppState.registered node activities

section Steps

variable (node : AppState crates)

theorem packetCache_handleRouted (env : ReceiveEnv) (packet : ClampPacket) (senderKey : String) :
    (handleRouted node env packet senderKey).1.router.packetCache =
      node.router.packetCache.putAll (node.acceptedId env packet senderKey).toList := by
  rw [handleRouted, AppState.acceptedId]
  cases sourceNodeId senderKey packet with
  | none => rfl
  | some source =>
      dsimp only
      rcases Router.handleIncoming_cases crates node.router env.instant packet source with
        ⟨reason, router, dropped, cache⟩ | ⟨-, router, cache, accepted⟩
      · rw [dropped]
        exact cache
      · rw [accepted]
        split_ifs <;> exact cache

theorem packetCache_receive (env : ReceiveEnv) (raw : Bytes) (senderKey : String)
    (kind : ConnKind) :
    (processIncomingPacket node env raw senderKey kind).1.router.packetCache =
      node.router.packetCache.putAll (node.receivedId env raw senderKey).toList := by
  rw [processIncomingPacket, AppState.receivedId]
  cases ClampPacket.decode raw with
  | error e => rfl
  | ok packet =>
      dsimp only
      cases packet.header.packetType with
      | syncReq => rfl
      | syncResp => rfl
      | syncData =>
          dsimp only
          rw [handleSyncData]
          split <;> rfl
      | hello => rfl
      | broadcast =>
          dsimp only
          rw [handleBroadcast]
          split
          · rfl
          · dsimp only
            split
            · rfl
            · split <;> rfl
      | dm => exact packetCache_handleRouted ..
      | channel => exact packetCache_handleRouted ..
      | file => exact packetCache_handleRouted ..

theorem router_command {activity : Activity} (command : activity.IsCommand) :
    (node.perform activity).router =
      { node.router with
        packetCache := node.router.packetCache.putAll (node.registered activity).toList } := by
  cases activity with
  | receive => cases command
  | sendDm env recipientId plaintext replyToId replyToText =>
      have ended := sendDm_end node env recipientId plaintext replyToId replyToText
      simp only [AppState.perform, AppState.registered]
      generalize sendDm node env recipientId plaintext replyToId replyToText = outcome at ended ⊢
      cases ended <;> rfl
  | sendFile env recipientId file =>
      have ended := sendFile_end node env recipientId file
      simp only [AppState.perform, AppState.registered]
      generalize sendFile node env recipientId file = outcome at ended ⊢
      cases ended <;> rfl
  | sendBroadcast env text =>
      simp only [AppState.perform, AppState.registered, sendBroadcast]
      split
      · rfl
      · split <;> rfl
  | tryDecrypt now packetId nonceHex ciphertextHex aeadTagHex =>
      have ended := tryDecryptPacket_end node now packetId nonceHex ciphertextHex aeadTagHex
      simp only [AppState.perform, AppState.registered]
      generalize tryDecryptPacket node now packetId nonceHex ciphertextHex aeadTagHex = outcome
        at ended ⊢
      cases ended <;> rfl
  | tryDecryptFile now saveReceivedFile packetId nonceHex ciphertextHex aeadTagHex =>
      have ended := tryDecryptFilePacket_end node now saveReceivedFile packetId nonceHex
        ciphertextHex aeadTagHex
      simp only [AppState.perform, AppState.registered]
      generalize tryDecryptFilePacket node now saveReceivedFile packetId nonceHex ciphertextHex
        aeadTagHex = outcome at ended ⊢
      cases ended <;> rfl
  | getMessages now peerId limit =>
      simp only [AppState.perform, AppState.registered, getMessages]
      split
      · rfl
      · split <;> rfl

theorem packetCache_perform (activity : Activity) :
    (node.perform activity).router.packetCache =
      (node.registered activity).toList.foldl Lru.put node.router.packetCache := by
  by_cases command : activity.IsCommand
  · rw [router_command node command, Lru.putAll]
  · cases activity with
    | receive env raw senderKey kind => exact packetCache_receive node env raw senderKey kind
    | sendDm | sendFile | sendBroadcast | tryDecrypt | tryDecryptFile | getMessages =>
        exact absurd trivial command

theorem packetCache_live (activities : List Activity) :
    (node.live activities).router.packetCache =
      node.router.packetCache.putAll (registeredIds node activities) :=
  @view_run _ _ AppState.perform _ _ (fun state => state.router.packetCache) AppState.registered
    Lru.put packetCache_perform node activities

end Steps

/-- The checks a routed packet passes before its id goes into the replay cache. -/
structure AppState.Passes (node : AppState crates) (env : ReceiveEnv) (packet : ClampPacket)
    (source : NodePublicKey) : Prop where
  allowed : (node.router.charge env.instant source).1 = true
  trusted : trustThreshold ≤ node.router.getTrust source
  unseen : packet.header.packetId ∉ node.router.packetCache.recent
  genuine : node.router.verifyHopMac crates packet source = true

def AppState.Admits (node : AppState crates) (env : ReceiveEnv) (packet : ClampPacket)
    (senderKey : String) : Prop :=
  match packet.header.packetType with
  | .broadcast => packet.header.packetId ∉ node.router.packetCache.recent
  | .dm | .channel | .file =>
    ∃ source, sourceNodeId senderKey packet = some source ∧ node.Passes env packet source
  | .hello | .syncReq | .syncResp | .syncData => False

/-- The packet a received frame makes the node hand to `relay_packet`. -/
def AppState.relayed (node : AppState crates) (env : ReceiveEnv) (packet : ClampPacket)
    (senderKey : String) : Option ClampPacket :=
  match packet.header.packetType with
  | .broadcast =>
    if node.router.isDuplicate packet.header.packetId then none
    else
      (crates.broadcastFromSlice packet.ciphertext).bind fun _ =>
        if packet.header.ttl > 0 then
          some { packet with
            header.ttl := packet.header.ttl - 1
            hopAuth.hopCounter := packet.hopAuth.hopCounter + 1 }
        else none
  | .dm | .channel | .file =>
    (sourceNodeId senderKey packet).bind fun source =>
      match node.router.handleIncoming crates env.instant packet source with
      | (.relay, next, _) | (.deliverAndRelay, next, _) => some next
      | (.deliverToApp, _, _) | (.drop _, _, _) => none
  | .hello | .syncReq | .syncResp | .syncData => none

/-- The packet an activity makes the node hand to `relay_packet`. -/
def AppState.relays (node : AppState crates) : Activity → Option ClampPacket
  | .receive env raw senderKey _ =>
    match ClampPacket.decode raw with
    | .error _ => none
    | .ok packet => node.relayed env packet senderKey
  | .sendDm .. | .sendFile .. | .sendBroadcast .. | .tryDecrypt .. | .tryDecryptFile ..
  | .getMessages .. => none

/-- The events that bring a packet to the application. -/
def Event.delivers : Event → Bool
  | .clampPacketReceived _ | .broadcastReceived .. => true
  | .peerHandshaked .. | .syncMissingDetected _ | .messageSent .. | .fileSent ..
  | .fileReceived _ | .broadcastSent _ => false

/-- The content an activity brings to the application. -/
def AppState.delivers (node : AppState crates) : Activity → Option Content
  | .receive env raw senderKey kind =>
    match ClampPacket.decode raw with
    | .error _ => none
    | .ok packet =>
      if (processIncomingPacket node env raw senderKey kind).2.any Event.delivers then
        some packet.content
      else none
  | .sendDm .. | .sendFile .. | .sendBroadcast .. | .tryDecrypt .. | .tryDecryptFile ..
  | .getMessages .. => none

section Ends

variable (node : AppState crates) (env : ReceiveEnv) (packet : ClampPacket) (senderKey : String)

/-- Every way a packet goes through the router, with the packet relayed: it passes the checks, is
delivered and relayed while it may live; or it fails them and only trust and buckets change. -/
inductive RoutedEnd : AppState crates × List Event → Option ClampPacket → Prop where
  | relayed {source : NodePublicKey} (named : sourceNodeId senderKey packet = some source)
      (passes : node.Passes env packet source) (live : packet.header.ttl > 0) :
      RoutedEnd ({ node with
        router := (node.router.charge env.instant source).2.accept packet.header.packetId source
        peerSenders := relayPacket (node.router.relayed crates packet) senderKey
          node.peerSenders }, [deliverToApp (node.router.relayed crates packet)])
        (some (node.router.relayed crates packet))
  | last {source : NodePublicKey} (named : sourceNodeId senderKey packet = some source)
      (passes : node.Passes env packet source) (spent : ¬ packet.header.ttl > 0) :
      RoutedEnd ({ node with
        router := (node.router.charge env.instant source).2.accept packet.header.packetId source },
        [deliverToApp packet]) none
  | unnamed (unnamed : sourceNodeId senderKey packet = none) : RoutedEnd (node, []) none
  | dropped {source : NodePublicKey} {trustScores : AssocMap NodePublicKey ℚ}
      {rateLimiters : AssocMap NodePublicKey TokenBucket}
      (named : sourceNodeId senderKey packet = some source)
      (fails : ¬ node.Passes env packet source) :
      RoutedEnd ({ node with router := { node.router with trustScores, rateLimiters } }, []) none

inductive BroadcastEnd : AppState crates × List Event → Option ClampPacket → Prop where
  | duplicate (seen : packet.header.packetId ∈ node.router.packetCache.recent) :
      BroadcastEnd (node, []) none
  | unreadable (unseen : packet.header.packetId ∉ node.router.packetCache.recent)
      (unread : crates.broadcastFromSlice packet.ciphertext = none) :
      BroadcastEnd ({ node with
        router := node.router.registerBroadcast packet.header.packetId }, []) none
  | relayed {payload : BroadcastPayload} {next : ClampPacket}
      (unseen : packet.header.packetId ∉ node.router.packetCache.recent)
      (read : crates.broadcastFromSlice packet.ciphertext = some payload)
      (live : packet.header.ttl > 0)
      (next_eq : next = { packet with
        header.ttl := packet.header.ttl - 1
        hopAuth.hopCounter := packet.hopAuth.hopCounter + 1 }) :
      BroadcastEnd ({ node with
        router := node.router.registerBroadcast packet.header.packetId
        peerSenders := relayPacket next senderKey node.peerSenders },
        [.broadcastReceived payload packet.hopAuth.hopCounter]) (some next)
  | last {payload : BroadcastPayload}
      (unseen : packet.header.packetId ∉ node.router.packetCache.recent)
      (read : crates.broadcastFromSlice packet.ciphertext = some payload)
      (spent : ¬ packet.header.ttl > 0) :
      BroadcastEnd ({ node with
        router := node.router.registerBroadcast packet.header.packetId },
        [.broadcastReceived payload packet.hopAuth.hopCounter]) none

def Routed (packet : ClampPacket) : Prop :=
  packet.header.packetType = .dm ∨ packet.header.packetType = .channel ∨
    packet.header.packetType = .file

variable {packet}

theorem relayed_of_routed (routed : Routed packet) :
    node.relayed env packet senderKey = (sourceNodeId senderKey packet).bind fun source =>
      match node.router.handleIncoming crates env.instant packet source with
      | (.relay, next, _) | (.deliverAndRelay, next, _) => some next
      | (.deliverToApp, _, _) | (.drop _, _, _) => none := by
  rcases routed with kind | kind | kind
  all_goals simp only [AppState.relayed, kind]

theorem handleRouted_end (routed : Routed packet) :
    RoutedEnd node env packet senderKey (handleRouted node env packet senderKey)
      (node.relayed env packet senderKey) := by
  have notHello : packet.header.packetType ≠ .hello := by
    rcases routed with kind | kind | kind
    all_goals simp [kind]
  rw [handleRouted, relayed_of_routed node env senderKey routed]
  cases named : sourceNodeId senderKey packet with
  | none => exact .unnamed named
  | some source =>
      dsimp only [Option.bind_some]
      rw [Router.handleIncoming_eq]
      split_ifs with limited distrusted known forged live
      · exact .dropped named fun passes => by
          rw [passes.allowed] at limited
          cases limited
      · exact .dropped named fun passes => not_lt.mpr passes.trusted distrusted
      · exact .dropped named fun passes => passes.unseen known
      · exact .dropped named fun passes => by
          rw [passes.genuine] at forged
          cases forged.2
      · refine .relayed named ⟨?_, not_lt.mp distrusted, known, ?_⟩ live
        · simpa using limited
        · simpa [notHello] using forged
      · refine .last named ⟨?_, not_lt.mp distrusted, known, ?_⟩ live
        · simpa using limited
        · simpa [notHello] using forged

theorem handleBroadcast_end (broadcast : packet.header.packetType = .broadcast) :
    BroadcastEnd node packet senderKey (handleBroadcast node packet senderKey)
      (node.relayed env packet senderKey) := by
  simp only [handleBroadcast, AppState.relayed, broadcast, Router.isDuplicate,
    Lru.contains_eq_true]
  by_cases seen : packet.header.packetId ∈ node.router.packetCache.recent
  · rw [if_pos seen, if_pos seen]
    exact .duplicate seen
  rw [if_neg seen, if_neg seen]
  cases read : crates.broadcastFromSlice packet.ciphertext with
  | none => exact .unreadable seen read
  | some payload =>
      rw [Option.bind_some]
      dsimp only
      by_cases live : packet.header.ttl > 0
      · rw [if_pos live, if_pos live]
        exact .relayed seen read live (by rw [← broadcast])
      · rw [if_neg live, if_neg live]
        exact .last seen read live

variable {node env senderKey} {raw : Bytes}

theorem admits_of_routed (routed : Routed packet) :
    node.Admits env packet senderKey ↔
      ∃ source, sourceNodeId senderKey packet = some source ∧ node.Passes env packet source := by
  rcases routed with kind | kind | kind
  all_goals simp only [AppState.Admits, kind]

theorem admits_of_broadcast (broadcast : packet.header.packetType = .broadcast) :
    node.Admits env packet senderKey ↔
      packet.header.packetId ∉ node.router.packetCache.recent := by
  simp only [AppState.Admits, broadcast]

theorem process_of_routed (read : ClampPacket.decode raw = .ok packet) (routed : Routed packet)
    (kind : ConnKind) : processIncomingPacket node env raw senderKey kind =
      handleRouted node env packet senderKey := by
  rcases routed with type | type | type
  all_goals simp only [processIncomingPacket, read, type]

theorem process_of_broadcast (read : ClampPacket.decode raw = .ok packet)
    (broadcast : packet.header.packetType = .broadcast) (kind : ConnKind) :
    processIncomingPacket node env raw senderKey kind =
      handleBroadcast node packet senderKey := by
  simp only [processIncomingPacket, read, broadcast]

theorem acceptedId_of_passes {source : NodePublicKey}
    (named : sourceNodeId senderKey packet = some source)
    (passes : node.Passes env packet source) :
    node.acceptedId env packet senderKey = some packet.header.packetId := by
  have allowed : ¬ (node.router.charge env.instant source).1 = false := by simp [passes.allowed]
  have genuine : ¬ (packet.header.packetType ≠ .hello ∧
      node.router.verifyHopMac crates packet source = false) := by simp [passes.genuine]
  simp only [AppState.acceptedId, named]
  rw [Router.handleIncoming_eq, if_neg allowed, if_neg (not_lt.mpr passes.trusted),
    if_neg passes.unseen, if_neg genuine]
  split_ifs <;> rfl

theorem acceptedId_of_fails (routed : Routed packet)
    (fails : ¬ ∃ source, sourceNodeId senderKey packet = some source ∧
      node.Passes env packet source) :
    node.acceptedId env packet senderKey = none := by
  have notHello : packet.header.packetType ≠ .hello := by
    rcases routed with kind | kind | kind
    all_goals simp [kind]
  rw [AppState.acceptedId]
  cases named : sourceNodeId senderKey packet with
  | none => rfl
  | some source =>
      dsimp only
      rw [Router.handleIncoming_eq]
      split_ifs with limited distrusted known forged live
      · rfl
      · rfl
      · rfl
      · rfl
      all_goals
        exfalso
        refine fails ⟨source, named, ?_, not_lt.mp distrusted, known, ?_⟩
        · simpa using limited
        · simpa [notHello] using forged

theorem receivedId_of_routed (read : ClampPacket.decode raw = .ok packet)
    (routed : Routed packet) :
    node.receivedId env raw senderKey = node.acceptedId env packet senderKey := by
  rcases routed with kind | kind | kind
  all_goals simp only [AppState.receivedId, read, kind]

theorem delivers_receive (read : ClampPacket.decode raw = .ok packet) (kind : ConnKind) :
    node.delivers (.receive env raw senderKey kind) =
      if (processIncomingPacket node env raw senderKey kind).2.any Event.delivers then
        some packet.content
      else none := by
  simp only [AppState.delivers, read]

theorem relays_receive (read : ClampPacket.decode raw = .ok packet) (kind : ConnKind) :
    node.relays (.receive env raw senderKey kind) = node.relayed env packet senderKey := by
  simp only [AppState.relays, read]

/-- A frame whose packet is not admitted: its id is not registered, and nothing is delivered or
relayed. -/
structure Refuses (node : AppState crates) (env : ReceiveEnv) (raw : Bytes) (senderKey : String)
    (kind : ConnKind) (packet : ClampPacket) : Prop where
  barred : ¬ node.Admits env packet senderKey
  registered : node.receivedId env raw senderKey = none
  delivered : node.delivers (.receive env raw senderKey kind) = none
  relayed : node.relays (.receive env raw senderKey kind) = none

/-- A frame whose packet is admitted: its id, new to the cache, is registered, its content is
delivered unless it is an unreadable broadcast, and what is relayed has the same content. -/
structure Registers (node : AppState crates) (env : ReceiveEnv) (raw : Bytes)
    (senderKey : String) (kind : ConnKind) (packet : ClampPacket) : Prop where
  admitted : node.Admits env packet senderKey
  unseen : packet.header.packetId ∉ node.router.packetCache.recent
  registered : node.receivedId env raw senderKey = some packet.header.packetId
  delivered : node.delivers (.receive env raw senderKey kind) =
    if packet.header.packetType = .broadcast ∧
      crates.broadcastFromSlice packet.ciphertext = none then none
    else some packet.content
  relayed : ∀ next, node.relays (.receive env raw senderKey kind) = some next →
    next.content = packet.content

theorem receive_routed (read : ClampPacket.decode raw = .ok packet) (routed : Routed packet)
    (kind : ConnKind) :
    Refuses node env raw senderKey kind packet ∨ Registers node env raw senderKey kind packet := by
  have notBroadcast : ¬ (packet.header.packetType = .broadcast ∧
      crates.broadcastFromSlice packet.ciphertext = none) := by
    rcases routed with type | type | type
    all_goals simp [type]
  have ended := handleRouted_end node env senderKey routed
  have delivers : node.delivers (.receive env raw senderKey kind) = _ := delivers_receive read kind
  rw [process_of_routed read routed] at delivers
  generalize handleRouted node env packet senderKey = outcome at ended delivers
  generalize relays : node.relayed env packet senderKey = next at ended
  have relays' := (relays_receive read kind).trans relays
  have admits : node.Admits env packet senderKey ↔ _ := admits_of_routed routed
  have accepted : node.receivedId env raw senderKey = _ := receivedId_of_routed read routed
  cases ended with
  | relayed named passes live =>
      refine .inr ⟨admits.mpr ⟨_, named, passes⟩, passes.unseen,
        accepted.trans (acceptedId_of_passes named passes), ?_, ?_⟩
      · rw [if_neg notBroadcast, delivers]
        rfl
      · intro next same
        rw [relays', Option.some.injEq] at same
        rw [← same, content_relayed]
  | last named passes spent =>
      refine .inr ⟨admits.mpr ⟨_, named, passes⟩, passes.unseen,
        accepted.trans (acceptedId_of_passes named passes), ?_, ?_⟩
      · rw [if_neg notBroadcast, delivers]
        rfl
      · intro next same
        rw [relays'] at same
        cases same
  | unnamed unnamed =>
      have fails : ¬ ∃ source, sourceNodeId senderKey packet = some source ∧
          node.Passes env packet source := by simp [unnamed]
      exact .inl ⟨fun held => fails (admits.mp held),
        accepted.trans (acceptedId_of_fails routed fails), delivers, relays'⟩
  | dropped named fails =>
      have fails : ¬ ∃ source, sourceNodeId senderKey packet = some source ∧
          node.Passes env packet source := by
        rintro ⟨other, same, passes⟩
        rw [named, Option.some.injEq] at same
        exact fails (same ▸ passes)
      exact .inl ⟨fun held => fails (admits.mp held),
        accepted.trans (acceptedId_of_fails routed fails), delivers, relays'⟩

theorem receive_broadcast_registers (read : ClampPacket.decode raw = .ok packet)
    (broadcast : packet.header.packetType = .broadcast) (kind : ConnKind) :
    Refuses node env raw senderKey kind packet ∨ Registers node env raw senderKey kind packet := by
  have ended := handleBroadcast_end node env senderKey broadcast
  have delivers : node.delivers (.receive env raw senderKey kind) = _ := delivers_receive read kind
  rw [process_of_broadcast read broadcast] at delivers
  generalize handleBroadcast node packet senderKey = outcome at ended delivers
  generalize relays : node.relayed env packet senderKey = next at ended
  have relays' := (relays_receive read kind).trans relays
  have admits : node.Admits env packet senderKey ↔ _ := admits_of_broadcast broadcast
  have accepted : node.receivedId env raw senderKey =
      if packet.header.packetId ∈ node.router.packetCache.recent then none
      else some packet.header.packetId := by
    simp only [AppState.receivedId, read, broadcast, Router.isDuplicate, Lru.contains_eq_true]
  cases ended with
  | duplicate seen =>
      rw [if_pos seen] at accepted
      exact .inl ⟨fun held => admits.mp held seen, accepted, delivers, relays'⟩
  | unreadable unseen unread =>
      rw [if_neg unseen] at accepted
      refine .inr ⟨admits.mpr unseen, unseen, accepted, ?_, ?_⟩
      · rw [if_pos ⟨broadcast, unread⟩, delivers]
        rfl
      · intro next same
        rw [relays'] at same
        cases same
  | relayed unseen payload live next_eq =>
      rw [if_neg unseen] at accepted
      refine .inr ⟨admits.mpr unseen, unseen, accepted, ?_, ?_⟩
      · rw [if_neg (by simp [payload]), delivers]
        rfl
      · intro next same
        rw [relays', Option.some.injEq] at same
        rw [← same, next_eq]
        rfl
  | last unseen payload spent =>
      rw [if_neg unseen] at accepted
      refine .inr ⟨admits.mpr unseen, unseen, accepted, ?_, ?_⟩
      · rw [if_neg (by simp [payload]), delivers]
        rfl
      · intro next same
        rw [relays'] at same
        cases same

theorem handleSyncResp_undelivered (node : AppState crates) (packet : ClampPacket) :
    (handleSyncResp node packet).any Event.delivers = false := by
  rw [handleSyncResp]
  cases crates.valueFromSlice packet.ciphertext with
  | none => rfl
  | some payload =>
      dsimp only
      split <;> rfl

theorem refuses_other (read : ClampPacket.decode raw = .ok packet) (kind : ConnKind)
    (other : ¬ Routed packet) (notBroadcast : packet.header.packetType ≠ .broadcast) :
    Refuses node env raw senderKey kind packet := by
  rw [Routed, not_or, not_or] at other
  have delivers : node.delivers (.receive env raw senderKey kind) = _ := delivers_receive read kind
  cases type : packet.header.packetType with
  | dm => exact absurd type other.1
  | channel => exact absurd type other.2.1
  | file => exact absurd type other.2.2
  | broadcast => exact absurd type notBroadcast
  | hello | syncReq | syncData =>
      refine ⟨?_, ?_, ?_, ?_⟩
      · simp only [AppState.Admits, type, not_false_eq_true]
      · simp only [AppState.receivedId, read, type]
      · rw [delivers]
        simp only [processIncomingPacket, read, type]
        rfl
      · rw [relays_receive read]
        simp only [AppState.relayed, type]
  | syncResp =>
      refine ⟨?_, ?_, ?_, ?_⟩
      · simp only [AppState.Admits, type, not_false_eq_true]
      · simp only [AppState.receivedId, read, type]
      · rw [delivers]
        simp only [processIncomingPacket, read, type]
        rw [if_neg (by simp [handleSyncResp_undelivered])]
      · rw [relays_receive read]
        simp only [AppState.relayed, type]

theorem receive_registers (read : ClampPacket.decode raw = .ok packet) (kind : ConnKind) :
    Refuses node env raw senderKey kind packet ∨ Registers node env raw senderKey kind packet := by
  by_cases routed : Routed packet
  · exact receive_routed read routed kind
  by_cases broadcast : packet.header.packetType = .broadcast
  · exact receive_broadcast_registers read broadcast kind
  · exact .inl (refuses_other read kind routed broadcast)

end Ends

end Caraka
