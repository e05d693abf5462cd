import Caraka.ReplayProtection

/-! When altered copies of a packet keep the genuine one from being delivered. -/

namespace Caraka

open Foundation

variable {crates : Crates}

/-- An intact copy of a packet arrives: from a named source that is within its rate, trusted and
the author of the hop MAC, or as a broadcast that can be read. -/
def Intact (content : Content) (node : AppState crates) : Activity → Prop
  | .receive env raw senderKey _ =>
    ∃ packet, ClampPacket.decode raw = .ok packet ∧ packet.content = content ∧
      ((Routed packet ∧ ∃ source, sourceNodeId senderKey packet = some source ∧
          (node.router.charge env.instant source).1 = true ∧
          trustThreshold ≤ node.router.getTrust source ∧
          node.router.verifyHopMac crates packet source = true) ∨
        (packet.header.packetType = .broadcast ∧
          (crates.broadcastFromSlice packet.ciphertext).isSome))
  | .sendDm .. | .sendFile .. | .sendBroadcast .. | .tryDecrypt .. | .tryDecryptFile ..
  | .getMessages .. => False

/-- An activity that puts the packet id of a content into the replay cache only for that content:
any frame with the id that passes the checks carries it, and the node draws no such id itself. -/
def Spares (content : Content) (node : AppState crates) (activity : Activity) : Prop :=
  match activity with
  | .receive env raw senderKey _ =>
    ∀ packet, ClampPacket.decode raw = .ok packet →
      packet.header.packetId = content.packetId → node.Admits env packet senderKey →
      packet.content = content
  | .sendDm .. | .sendFile .. | .sendBroadcast .. | .tryDecrypt .. | .tryDecryptFile ..
  | .getMessages .. => node.registered activity ≠ some content.packetId

def Readable (crates : Crates) (content : Content) : Prop :=
  ¬ (content.packetType = .broadcast ∧ crates.broadcastFromSlice content.ciphertext = none)

section Steps

variable {content : Content} {node : AppState crates} {activity : Activity}

theorem readable_of_intact (intact : Intact content node activity) : Readable crates content := by
  cases activity with
  | sendDm | sendFile | sendBroadcast | tryDecrypt | tryDecryptFile | getMessages => cases intact
  | receive env raw senderKey kind =>
      rcases intact with ⟨packet, -, rfl, ⟨routed, -⟩ | ⟨-, read⟩⟩
      · intro unreadable
        rcases routed with type | type | type
        all_goals exact absurd (type.symm.trans unreadable.1) (by decide)
      · intro unreadable
        change (crates.broadcastFromSlice packet.content.ciphertext).isSome at read
        rw [unreadable.2] at read
        cases read

theorem delivers_intact (intact : Intact content node activity) :
    node.delivers activity =
      if content.packetId ∈ node.router.packetCache.recent then none else some content := by
  have readable := readable_of_intact intact
  cases activity with
  | sendDm | sendFile | sendBroadcast | tryDecrypt | tryDecryptFile | getMessages => cases intact
  | receive env raw senderKey kind =>
      rcases intact with ⟨packet, read, rfl, passes⟩
      have admits : node.Admits env packet senderKey ↔
          packet.header.packetId ∉ node.router.packetCache.recent := by
        rcases passes with ⟨routed, source, named, allowed, trusted, genuine⟩ | ⟨broadcast, -⟩
        · rw [admits_of_routed routed]
          constructor
          · intro held
            rcases held with ⟨_, _, passes⟩
            exact passes.unseen
          · intro unseen
            exact ⟨source, named, allowed, trusted, unseen, genuine⟩
        · exact admits_of_broadcast broadcast
      rcases receive_registers read kind with refused | registered
      · have seen : packet.content.packetId ∈ node.router.packetCache.recent := by
          by_contra unseen
          exact refused.barred (admits.mpr unseen)
        rw [if_pos seen, refused.delivered]
      · have unseen : packet.content.packetId ∉ node.router.packetCache.recent :=
          registered.unseen
        rw [if_neg unseen, registered.delivered]
        exact if_neg readable

theorem delivers_of_spares (readable : Readable crates content)
    (spares : Spares content node activity)
    (registers : node.registered activity = some content.packetId) :
    node.delivers activity = some content := by
  cases activity with
  | sendDm | sendFile | sendBroadcast | tryDecrypt | tryDecryptFile | getMessages =>
      exact absurd registers spares
  | receive env raw senderKey kind =>
      change node.receivedId env raw senderKey = _ at registers
      cases read : ClampPacket.decode raw with
      | error e => simp [AppState.receivedId, read] at registers
      | ok packet =>
          rcases receive_registers read kind with refused | registered
          · rw [refused.registered] at registers
            cases registers
          · rw [registered.registered, Option.some.injEq] at registers
            have same := spares packet read registers registered.admitted
            subst same
            rw [registered.delivered]
            exact if_neg readable

theorem registers_of_not_spares (careless : ¬ Spares content node activity) :
    node.registered activity = some content.packetId := by
  cases activity with
  | sendDm | sendFile | sendBroadcast | tryDecrypt | tryDecryptFile | getMessages =>
      exact not_ne_iff.mp careless
  | receive env raw senderKey kind =>
      change ¬ ∀ packet, _ at careless
      push Not at careless
      rcases careless with ⟨packet, read, same, admits, -⟩
      change node.receivedId env raw senderKey = _
      rcases receive_registers read kind with refused | registered
      · exact absurd admits refused.barred
      · rw [registered.registered, same]

theorem not_delivers_of_not_spares (careless : ¬ Spares content node activity) :
    node.delivers activity ≠ some content := by
  cases activity with
  | sendDm | sendFile | sendBroadcast | tryDecrypt | tryDecryptFile | getMessages =>
      exact fun delivers => by cases delivers
  | receive env raw senderKey kind =>
      change ¬ ∀ packet, _ at careless
      push Not at careless
      rcases careless with ⟨packet, read, -, -, other⟩
      rw [delivers_receive read]
      split_ifs
      · exact fun same => other (Option.some.inj same)
      · exact fun none => by cases none

theorem mem_cache_of_registers {packetId : Octets 8}
    (registers : node.registered activity = some packetId) :
    packetId ∈ (node.perform activity).router.packetCache.recent := by
  rw [packetCache_perform, registers]
  exact Lru.mem_put _ _ (by decide)

end Steps

theorem delivered_of_seen {content : Content} (readable : Readable crates content)
    (node : AppState crates) (activities : List Activity)
    (along : Along AppState.perform (Spares content) node activities)
    (seen : content.packetId ∈ (node.live activities).router.packetCache.recent) :
    content.packetId ∈ node.router.packetCache.recent ∨
      content ∈ emitted AppState.perform AppState.delivers node activities := by
  induction activities generalizing node with
  | nil => exact .inl seen
  | cons activity activities ih =>
      rcases ih (node.perform activity) along.2 seen with earlier | later
      · rw [packetCache_perform] at earlier
        cases registers : node.registered activity with
        | none =>
            rw [registers] at earlier
            exact .inl earlier
        | some packetId =>
            rw [registers] at earlier
            rcases Lru.eq_or_mem_of_mem_put earlier with same | old
            · have delivers := delivers_of_spares readable along.1 (same ▸ registers)
              right
              rw [emitted, delivers]
              exact List.mem_cons_self
            · exact .inl old
      · exact .inr (List.mem_append_right _ later)

/-- In a run that spares a content, an intact copy is delivered unless one was before. In any
run that has not delivered it, a step that does not spare it has the next intact copy dropped. -/
theorem genuine_delivered_where_spared (content : Content) (node : AppState crates)
    (unseen : content.packetId ∉ node.router.packetCache.recent) :
    (∀ front arrival back,
      Along AppState.perform (Spares content) node (front ++ arrival :: back) →
      Intact content (node.live front) arrival →
      (node.live front).delivers arrival = some content ∨
        content ∈ emitted AppState.perform AppState.delivers node front) ∧
    ∀ front careless arrival,
      content ∉ emitted AppState.perform AppState.delivers node front →
      ¬ Spares content (node.live front) careless →
      Intact content (node.live (front ++ [careless])) arrival →
      (node.live (front ++ [careless])).delivers arrival = none ∧
        content ∉ emitted AppState.perform AppState.delivers node (front ++ [careless]) := by
  constructor
  · intro front arrival back along intact
    rw [delivers_intact intact]
    split_ifs with seen
    · have readable := readable_of_intact intact
      have before := ((along_append node front (arrival :: back)).mp along).1
      rcases delivered_of_seen readable node front before seen with old | delivered
      · exact absurd old unseen
      · exact .inr delivered
    · exact .inl rfl
  · intro front careless arrival undelivered suppresses intact
    have seen := mem_cache_of_registers (registers_of_not_spares suppresses)
    have last : node.live (front ++ [careless]) = (node.live front).perform careless :=
      run_concat node front careless
    rw [last] at intact ⊢
    rw [delivers_intact intact, if_pos seen]
    refine ⟨rfl, ?_⟩
    rw [emitted_append]
    intro member
    rcases List.mem_append.mp member with old | new
    · exact undelivered old
    · simp only [emitted, List.append_nil, Option.mem_toList] at new
      exact not_delivers_of_not_spares suppresses new

namespace Sample

def poison : ClampPacket :=
  let broadcast := ClampPacket.buildBroadcast (key 3) ⟨nodeId 3, "User", "", 1000, "1"⟩ (octets 4 0)
  { broadcast with header.packetId := haloPacket.header.packetId, ciphertext := [] }

def poisonReceive : Activity := .receive receiveEnv poison.encode (nodeId 3) (.torInbound "2")

theorem halo_read : ClampPacket.decode haloPacket.encode = .ok haloPacket ∧
    haloPacket.header.packetType = .dm := by
  rcases sendDm_sent idealAlice_sendDm with ⟨peerPub, facts⟩
  have encryption := facts.encryption
  exact ⟨ClampPacket.decode_encode haloPacket encryption.genuine, encryption.packetType_eq⟩

theorem halo_intact {node : AppState idealCrates} {cache : Lru cacheSize (Octets 8)}
    (router : node.router = { idealBob.router with packetCache := cache }) :
    Intact haloPacket.content node haloReceive := by
  rcases sendDm_sent idealAlice_sendDm with ⟨peerPub, facts⟩
  have valid := @verifyHopMac_buildPacket _ _ idealBob.router _ _ _ _ _ _ facts.built rfl
  have allowed : (idealBob.router.charge receiveEnv.instant (key 1)).1 = true :=
    Router.charge_of_new _ (AssocMap.get?_empty _)
  have trusted : trustThreshold ≤ idealBob.router.getTrust (key 1) :=
    Router.trusts_of_new (AssocMap.get?_empty _)
  obtain ⟨sameCharge, sameTrust, sameMac⟩ :=
    Router.packetCache_frame idealCrates idealBob.router cache receiveEnv.instant (key 1) haloPacket
  refine ⟨haloPacket, halo_read.1, rfl, .inl ⟨.inl halo_read.2, key 1,
    sourceNodeId_of_parse (key_spelled 1) haloPacket, ?_, ?_, ?_⟩⟩
  · rw [router, sameCharge]
    exact allowed
  · rw [router, sameTrust]
    exact trusted
  · rw [router, sameMac]
    exact valid

/-- A broadcast of node 3 that cannot be read either, under a packet id of its own. -/
def noise : ClampPacket :=
  { poison with header.packetId := octets 8 4 }

def noiseReceive : Activity := .receive receiveEnv noise.encode (nodeId 3) (.torInbound "2")

/-- Node 2 gets the noise and then the sample message, which is delivered. -/
theorem genuine_delivered_where_spared_halo :
    (idealBob.live [noiseReceive]).delivers haloReceive = some haloPacket.content := by
  have other : noise.header.packetId ≠ haloPacket.header.packetId := by
    rw [halo_packetId]
    decide
  have heard : ClampPacket.decode noise.encode = .ok noise :=
    ClampPacket.decode_encode noise ⟨rfl, rfl⟩
  have noiseSpares : Spares haloPacket.content idealBob noiseReceive := by
    intro packet read same admits
    rw [heard, Except.ok.injEq] at read
    rw [← read] at same
    exact absurd same other
  have spares : Spares haloPacket.content (idealBob.live [noiseReceive]) haloReceive := by
    intro packet read same admits
    rw [halo_read.1, Except.ok.injEq] at read
    rw [← read]
  have router := (@receive_broadcast _ idealBob noise ⟨rfl, rfl⟩ rfl List.not_mem_nil receiveEnv
    (nodeId 3) (.torInbound "2")).1
  have undelivered : idealBob.delivers noiseReceive = none := by
    rcases receive_registers heard (.torInbound "2") with refused | registered
    · exact refused.delivered
    · rw [noiseReceive, registered.delivered]
      exact if_pos ⟨rfl, rfl⟩
  have delivered := (genuine_delivered_where_spared haloPacket.content idealBob
    List.not_mem_nil).1 [noiseReceive] haloReceive [] ⟨noiseSpares, spares, trivial⟩
    (halo_intact router)
  apply delivered.resolve_right
  rw [emitted, undelivered]
  exact List.not_mem_nil

/-- After the poison the sample message is dropped, though node 2 never had it. -/
theorem poison_suppresses :
    Intact haloPacket.content (idealBob.live [poisonReceive]) haloReceive ∧
      (idealBob.live [poisonReceive]).delivers haloReceive = none ∧
      emitted AppState.perform AppState.delivers idealBob [poisonReceive] = [] := by
  have unread : idealCrates.broadcastFromSlice poison.ciphertext = none := rfl
  have read : ClampPacket.decode poison.encode = .ok poison :=
    ClampPacket.decode_encode poison ⟨rfl, rfl⟩
  have router := (@receive_broadcast _ idealBob poison ⟨rfl, rfl⟩ rfl List.not_mem_nil receiveEnv
    (nodeId 3) (.torInbound "2")).1
  have intact : Intact haloPacket.content (idealBob.live [poisonReceive]) haloReceive :=
    halo_intact router
  have seen : haloPacket.content.packetId ∈
      (idealBob.live [poisonReceive]).router.packetCache.recent := by
    change _ ∈ (idealBob.perform (.receive receiveEnv poison.encode (nodeId 3)
      (.torInbound "2"))).router.packetCache.recent
    rw [router]
    exact Lru.mem_put _ _ (by decide)
  refine ⟨intact, ?_, ?_⟩
  · rw [delivers_intact intact, if_pos seen]
  · have undelivered : idealBob.delivers poisonReceive = none := by
      rcases receive_registers read (.torInbound "2") with refused | registered
      · exact refused.delivered
      · rw [poisonReceive, registered.delivered]
        exact if_pos ⟨rfl, unread⟩
    rw [emitted, undelivered]
    rfl

end Sample

end Caraka
