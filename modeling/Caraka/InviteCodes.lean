import Caraka.Commands.Connect
import Caraka.Foundation.Base64Url
import Caraka.Interfaces
import Caraka.Sample

/-! Invite codes: `generate_invite_code` and `parse_invite_code` of `commands.rs`, and what becomes
of a code that is pasted and connected from. -/

namespace Caraka

open Foundation

def dataPort : UInt16 := 7771

/-- `text.parse::<u16>()`. -/
def parseU16 (text : String) : Option UInt16 :=
  (parseUnsigned 65535 text.toList).map UInt16.ofNat

/-- `effective_data_port`, given what CARAKA_TCP_PORT is set to. -/
def effectiveDataPort (tcpPort : Option String) : UInt16 := (tcpPort.bind parseU16).getD dataPort

/-- What an invite reads from its surroundings. -/
structure InviteEnv where
  tcpPort : Option String
  ifaces : IfAddrs
  /-- The onion address of this node, once its Tor context is there. -/
  onion : Option String

variable {crates : Crates}

/-- The local address as an invite has it. -/
def InviteEnv.localIp (env : InviteEnv) : String :=
  match getLocalIp env.ifaces with
  | .ok ip => ip
  | .error _ => "unknown"

def inviteRaw (node : AppState crates) (env : InviteEnv) : String :=
  match env.onion with
  | some onion =>
    "caraka1:" ++ node.identity.nodeIdHex ++ ":" ++ onion ++ ":" ++ toString torVirtualPort
  | none =>
    "caraka0:" ++ node.identity.nodeIdHex ++ ":" ++ env.localIp ++ ":" ++
      toString (effectiveDataPort env.tcpPort)

def generateInviteCode (state : Option (AppState crates)) (env : InviteEnv) :
    Except String String :=
  match state with
  | none => .error "Vault masih terkunci. Masukkan password dulu."
  | some node => .ok (Base64Url.encode (utf8 (inviteRaw node env)))

/-- The JSON object that `parse_invite_code` returns. -/
inductive InviteInfo where
  | lan (nodeId ip : String) (port : UInt16)
  | tor (nodeId onionAddress : String) (port : UInt16)
  deriving DecidableEq

def readInvite (tcpPort : Option String) (parts : List String) : Except String InviteInfo :=
  match parts with
  | [kind, nodeId, address, port] =>
    if kind = "caraka0" then
      .ok (.lan nodeId address ((parseU16 port).getD (effectiveDataPort tcpPort)))
    else if kind = "caraka1" then
      .ok (.tor nodeId address ((parseU16 port).getD torVirtualPort))
    else .error "Format kode undangan tidak dikenali"
  | _ => .error "Format kode undangan tidak dikenali"

def parseInviteCode (tcpPort : Option String) (code : String) : Except String InviteInfo :=
  match Base64Url.decode (trim code) with
  | none => .error "Kode undangan tidak valid (bukan base64url)"
  | some decodedBytes =>
    match fromUtf8 decodedBytes with
    | none => .error "Kode undangan tidak valid (encoding)"
    | some s => readInvite tcpPort ((splitN ':' 4 s.toList).map String.ofList)

/-- The four fields of an invite as one text. -/
def inviteText (kind nodeId address port : String) : String :=
  kind ++ ":" ++ nodeId ++ ":" ++ address ++ ":" ++ port

/-- The info that `parse_invite_code` makes of its fields. -/
inductive Invites (tcpPort : Option String) :
    (kind nodeId address port : String) → InviteInfo → Prop where
  | lan (nodeId ip port : String) : Invites tcpPort "caraka0" nodeId ip port
      (.lan nodeId ip ((parseU16 port).getD (effectiveDataPort tcpPort)))
  | tor (nodeId onion port : String) : Invites tcpPort "caraka1" nodeId onion port
      (.tor nodeId onion ((parseU16 port).getD torVirtualPort))

theorem Invites.onion_eq {tcpPort : Option String} {kind nodeId address port id onion : String}
    {value : UInt16} (invites : Invites tcpPort kind nodeId address port (.tor id onion value)) :
    address = onion := by
  generalize same : InviteInfo.tor id onion value = info at invites
  cases invites with
  | lan => cases same
  | tor => exact (InviteInfo.tor.inj same).2.1.symm

theorem readInvite_eq_ok {tcpPort : Option String} {parts : List String} {info : InviteInfo} :
    readInvite tcpPort parts = .ok info ↔
      ∃ kind nodeId address port, parts = [kind, nodeId, address, port] ∧
        Invites tcpPort kind nodeId address port info := by
  constructor
  · intro read
    rw [readInvite.eq_def] at read
    split at read
    · rename_i kind nodeId address port
      split at read
      · rename_i lan
        subst lan
        cases read
        exact ⟨_, _, _, _, rfl, .lan nodeId address port⟩
      · split at read
        · rename_i tor
          subst tor
          cases read
          exact ⟨_, _, _, _, rfl, .tor nodeId address port⟩
        · cases read
    · cases read
  · rintro ⟨kind, nodeId, address, port, rfl, invites⟩
    cases invites with
    | lan => rfl
    | tor => rfl

theorem toList_inviteText (kind nodeId address port : String) :
    (inviteText kind nodeId address port).toList =
      kind.toList ++ ':' :: (nodeId.toList ++ ':' :: (address.toList ++ ':' :: port.toList)) := by
  have colon : ":".toList = [':'] := rfl
  simp only [inviteText, String.toList_append, colon, List.append_assoc, List.cons_append,
    List.nil_append]

theorem split_inviteText {text kind nodeId address port : String} :
    (splitN ':' 4 text.toList).map String.ofList = [kind, nodeId, address, port] ↔
      text = inviteText kind nodeId address port ∧ ':' ∉ kind.toList ∧ ':' ∉ nodeId.toList ∧
        ':' ∉ address.toList := by
  have fields : (splitN ':' 4 text.toList).map String.ofList = [kind, nodeId, address, port] ↔
      splitN ':' 4 text.toList = [kind.toList, nodeId.toList, address.toList, port.toList] := by
    constructor
    · intro parts
      have back := congrArg (List.map String.toList) parts
      rw [List.map_map] at back
      have same : String.toList ∘ String.ofList = id := funext fun _ => String.toList_ofList
      rw [same, List.map_id] at back
      exact back
    · intro parts
      rw [parts]
      simp only [List.map_cons, List.map_nil, String.ofList_toList]
  rw [fields, splitN_four, ← toList_inviteText, String.toList_inj]

/-- A code is accepted exactly when, blanks around it aside, it is the encoding of an invite whose
node id and address have no colon, and the fields are what it returns. -/
theorem parseInviteCode_eq_ok (tcpPort : Option String) (code : String) (info : InviteInfo) :
    parseInviteCode tcpPort code = .ok info ↔
      ∃ kind nodeId address port,
        trim code = Base64Url.encode (utf8 (inviteText kind nodeId address port)) ∧
          ':' ∉ nodeId.toList ∧ ':' ∉ address.toList ∧
          Invites tcpPort kind nodeId address port info := by
  rw [parseInviteCode.eq_def]
  constructor
  · intro read
    split at read
    · cases read
    rename_i bytes decoded
    split at read
    · cases read
    rename_i text spelled
    rcases readInvite_eq_ok.mp read with ⟨kind, nodeId, address, port, parts, invites⟩
    rcases split_inviteText.mp parts with ⟨rfl, -, cleanId, cleanAddress⟩
    refine ⟨kind, nodeId, address, port, ?_, cleanId, cleanAddress, invites⟩
    rw [← fromUtf8_eq_some.mp spelled]
    exact Base64Url.decode_eq_some.mp decoded
  · rintro ⟨kind, nodeId, address, port, encoded, cleanId, cleanAddress, invites⟩
    have cleanKind : ':' ∉ kind.toList := by
      cases invites <;> decide
    have parts : (splitN ':' 4 (inviteText kind nodeId address port).toList).map String.ofList =
        [kind, nodeId, address, port] :=
      split_inviteText.mpr ⟨rfl, cleanKind, cleanId, cleanAddress⟩
    have decoded := Base64Url.decode_eq_some.mpr encoded
    have spelled := fromUtf8_eq_some.mpr (Eq.refl (utf8 (inviteText kind nodeId address port)))
    rw [decoded]
    dsimp only
    rw [spelled]
    dsimp only
    rw [parts]
    exact readInvite_eq_ok.mpr ⟨kind, nodeId, address, port, rfl, invites⟩

theorem toString_port (port : UInt16) : (toString port).toList = decimal port.toNat := rfl

theorem parseU16_toString (port : UInt16) : parseU16 (toString port) = some port := by
  have bound : port.toNat ≤ 65535 := Nat.le_of_lt_succ port.toNat_lt
  rw [parseU16, toString_port, parseUnsigned_decimal bound, Option.map_some, UInt16.ofNat_toNat]

theorem isWhitespace_visible {c : Char} (visible : 33 ≤ c.toNat ∧ c.toNat ≤ 122) :
    isWhitespace c = false := by
  rw [isWhitespace, decide_eq_false_iff_not]
  omega

theorem trim_padded {before middle after : String} (blank : isBlank before = true)
    (blank' : isBlank after = true) (solid : ∀ c ∈ middle.toList, isWhitespace c = false) :
    trim (before ++ middle ++ after) = middle := by
  have dropped : ∀ {front rest : List Char}, (∀ c ∈ front, isWhitespace c = true) →
      (front ++ rest).dropWhile isWhitespace = rest.dropWhile isWhitespace := fun {_ _} blank =>
    List.dropWhile_append_of_pos blank
  have kept : ∀ {rest : List Char}, (∀ c ∈ rest, isWhitespace c = false) →
      rest.dropWhile isWhitespace = rest := by
    intro rest solid
    cases rest with
    | nil => rfl
    | cons c rest =>
        rw [List.dropWhile_cons_of_neg]
        rw [solid c List.mem_cons_self]
        exact Bool.noConfusion
  have first := List.all_eq_true.mp blank
  have last := List.all_eq_true.mp blank'
  rw [trim, String.toList_append, String.toList_append, List.append_assoc, dropped first]
  cases shape : middle.toList with
  | nil =>
      have gone : after.toList.dropWhile isWhitespace = [] := by
        rw [List.dropWhile_eq_nil_iff]
        exact last
      rw [List.nil_append, gone, ← @String.ofList_toList middle, shape]
      rfl
  | cons c rest =>
      rw [shape] at solid
      have start : (c :: rest ++ after.toList).dropWhile isWhitespace =
          c :: rest ++ after.toList := by
        rw [List.cons_append, List.dropWhile_cons_of_neg]
        rw [solid c List.mem_cons_self]
        exact Bool.noConfusion
      have tail : ∀ c ∈ after.toList.reverse, isWhitespace c = true := fun c member =>
        last c (List.mem_reverse.mp member)
      have body : ∀ other ∈ (c :: rest).reverse, isWhitespace other = false := fun other member =>
        solid other (List.mem_reverse.mp member)
      rw [start, List.reverse_append, dropped tail, kept body, List.reverse_reverse, ← shape,
        String.ofList_toList]

/-- What an invite of a node says. -/
def ownInvite (node : AppState crates) (env : InviteEnv) : InviteInfo :=
  match env.onion with
  | some onion => .tor node.identity.nodeIdHex onion torVirtualPort
  | none => .lan node.identity.nodeIdHex env.localIp (effectiveDataPort env.tcpPort)

theorem colon_notMem_nodeIdHex (identity : Identity crates) : ':' ∉ identity.nodeIdHex.toList := by
  rw [identity.nodeIdHex_eq, Hex.encode, String.toList_ofList]
  intro member
  exact absurd (Hex.isLower_digits _ ':' member) (by decide)

theorem colon_notMem_localIp (env : InviteEnv) : ':' ∉ env.localIp.toList := by
  rw [InviteEnv.localIp, getLocalIp.eq_def]
  cases env.ifaces with
  | error e =>
      change ':' ∉ "unknown".toList
      decide
  | ok ifaces =>
      dsimp only
      cases found : ifaces.findSome? localIp? with
      | none => decide
      | some ip =>
          rcases List.exists_of_findSome?_eq_some found with ⟨iface, -, gives⟩
          cases iface with
          | v6 loopback => cases gives
          | v4 ip netmask =>
              rw [localIp?_v4] at gives
              split at gives
              · cases gives
                exact colon_notMem_text _
              · cases gives

/-- A code pasted with blanks around it says what the node that made it meant, whatever port the
reader has set, exactly when the onion address in it, if any, has no colon. -/
theorem parse_pasted (node : AppState crates) (env : InviteEnv) (tcpPort : Option String)
    (before after : String) (blank : isBlank before = true) (blank' : isBlank after = true)
    {code : String} (generated : generateInviteCode (some node) env = .ok code) :
    parseInviteCode tcpPort (before ++ code ++ after) = .ok (ownInvite node env) ↔
      ∀ onion, env.onion = some onion → ':' ∉ onion.toList := by
  cases generated
  have solid : ∀ c ∈ (Base64Url.encode (utf8 (inviteRaw node env))).toList,
      isWhitespace c = false := fun c member =>
    isWhitespace_visible (Base64Url.visible_encode _ c member)
  have trimmed := trim_padded blank blank' solid
  have cleanId := colon_notMem_nodeIdHex node.identity
  rw [parseInviteCode_eq_ok, trimmed]
  constructor
  · rintro ⟨kind, nodeId, address, port, encoded, -, cleanAddress, invites⟩ onion found
    rw [ownInvite.eq_def, found] at invites
    rwa [← invites.onion_eq]
  · intro clean
    cases found : env.onion with
    | none =>
        refine ⟨"caraka0", node.identity.nodeIdHex, env.localIp,
          toString (effectiveDataPort env.tcpPort), ?_, cleanId, colon_notMem_localIp env, ?_⟩
        · rw [inviteRaw.eq_def, found]
          rfl
        · have invites := @Invites.lan tcpPort node.identity.nodeIdHex env.localIp
            (toString (effectiveDataPort env.tcpPort))
          rw [parseU16_toString, Option.getD_some] at invites
          rw [ownInvite.eq_def, found]
          exact invites
    | some onion =>
        refine ⟨"caraka1", node.identity.nodeIdHex, onion, toString torVirtualPort, ?_, cleanId,
          clean onion found, ?_⟩
        · rw [inviteRaw.eq_def, found]
          rfl
        · have invites := @Invites.tor tcpPort node.identity.nodeIdHex onion
            (toString torVirtualPort)
          rw [parseU16_toString, Option.getD_some] at invites
          rw [ownInvite.eq_def, found]
          exact invites

/-- Where a node dials to. -/
inductive InviteDial where
  | lan (ip : String) (port : UInt16)
  | tor (onion : String) (nodeId : Option String)
  deriving DecidableEq

/-- `add_peer_manual`: what it dials. -/
def addPeerManual (tcpPort : Option String) (ip : String) (port : Option UInt16) :
    Except String InviteDial :=
  let port := port.getD (effectiveDataPort tcpPort)
  if isBlank ip then .error "IP address tidak boleh kosong" else .ok (.lan ip port)

/-- The click on connect in the invite dialog of `main.js`, with the info kept from the code that
was pasted: the node afterwards and what it dials. -/
def connectFromInvite (toLowercase : String → String) (tcpPort : Option String)
    (node : AppState crates) (tor : TorState) (now : UInt64) (info : Except String InviteInfo) :
    AppState crates × Option InviteDial :=
  match info with
  | .error _ => (node, none)
  | .ok (.lan _ ip port) => (node, (addPeerManual tcpPort ip (some port)).toOption)
  | .ok (.tor nodeId onion _) =>
    let outcome := connectViaTor toLowercase node tor now onion (some nodeId)
    (outcome.node, outcome.dialed.map fun dialed => .tor dialed.1 dialed.2)

theorem not_isBlank_text (ip : Ipv4Addr) : isBlank ip.text = false := by
  have some_digit : decimal ip.a.toNat ≠ [] := by
    rw [decimal_eq]
    exact Nat.toDigits_ne_nil
  rcases List.exists_cons_of_ne_nil some_digit with ⟨c, rest, shape⟩
  have digit := @isDigit_decimal ip.a.toNat c (by rw [shape]; exact List.mem_cons_self)
  have solid : isWhitespace c = false := by
    apply isWhitespace_visible
    simp only [Char.isDigit, Bool.and_eq_true, decide_eq_true_eq, ge_iff_le, UInt32.le_iff_toNat_le]
      at digit
    change 48 ≤ c.toNat ∧ c.toNat ≤ 57 at digit
    omega
  rw [isBlank, Ipv4Addr.text, String.toList_ofList, shape, List.cons_append, List.all_cons, solid]
  rfl

theorem not_isBlank_localIp (env : InviteEnv) : isBlank env.localIp = false := by
  rw [InviteEnv.localIp, getLocalIp.eq_def]
  cases env.ifaces with
  | error e =>
      change isBlank "unknown" = false
      decide
  | ok ifaces =>
      dsimp only
      cases found : ifaces.findSome? localIp? with
      | none => decide
      | some ip =>
          rcases List.exists_of_findSome?_eq_some found with ⟨iface, -, gives⟩
          cases iface with
          | v6 loopback => cases gives
          | v4 ip netmask =>
              rw [localIp?_v4] at gives
              split at gives
              · cases gives
                exact not_isBlank_text _
              · cases gives

/-- An onion address as the Tor context of a node displays it. -/
structure OnionSpelled (toLowercase : String → String) (onion : String) : Prop where
  clean : ':' ∉ onion.toList
  lower : toLowercase (trim onion) = onion
  suffix : endsWith onion ".onion" = true

theorem connectViaTor_dials {toLowercase : String → String} {node : AppState crates} {now : UInt64}
    {onionAddress id : String} {peer : PeerRecord}
    (suffix : endsWith (toLowercase (trim onionAddress)) ".onion" = true)
    (made : torPeerRecord (node.store.peers.get? id) now id (toLowercase (trim onionAddress)) =
      some peer) :
    connectViaTor toLowercase node .ready now onionAddress (some id) =
      ⟨{ node with store := node.store.upsertPeer peer },
        .ok ("Mencoba dial " ++ toLowercase (trim onionAddress) ++ " via Tor…"),
        some (toLowercase (trim onionAddress), some id)⟩ := by
  have valid : ¬ endsWith (toLowercase (trim onionAddress)) ".onion" = false := by
    rw [suffix]
    exact Bool.noConfusion
  rw [connectViaTor.eq_def]
  dsimp only
  rw [if_neg valid, made]

theorem onion_of_upsert {store : Store} {existing : Option PeerRow} {now : UInt64} {bytes : Bytes}
    {onion : String} {peer : PeerRecord} (suffix : endsWith onion ".onion" = true)
    (made : torPeerRecord existing now (Hex.encode bytes) onion = some peer) :
    ∃ row, (store.upsertPeer peer).peers = store.peers.insert (Hex.encode bytes) row ∧
      row.onionAddress = onion ∧ row.tcpPort = torVirtualPort := by
  rcases torPeerRecord_encode existing now bytes onion with ⟨displayName, trustScore, same⟩
  rw [made, Option.some.injEq] at same
  have some_onion : onion ≠ "" := by
    rintro rfl
    exact absurd suffix (by decide)
  subst same
  rw [Store.upsertPeer]
  refine ⟨_, rfl, ?_⟩
  cases store.peers.get? (Hex.encode bytes) with
  | none => exact ⟨rfl, rfl⟩
  | some old => exact ⟨if_neg some_onion, rfl⟩

/-- Whoever pastes the code of a node and connects dials that node: in the local network at the
address and port it listens at, with nothing changed; over Tor, where the transport is ready, at
its onion address, which from then on stands in the row of its node id, with the other rows as
they were. -/
theorem invite_reaches_host (toLowercase : String → String) (host guest : AppState crates)
    (env : InviteEnv) (tcpPort : Option String) (tor : TorState) (now : UInt64)
    (before after : String) (blank : isBlank before = true) (blank' : isBlank after = true)
    {code : String} (generated : generateInviteCode (some host) env = .ok code)
    (spelled : ∀ onion, env.onion = some onion → OnionSpelled toLowercase onion)
    (ready : env.onion.isSome → tor = .ready)
    {outcome : AppState crates × Option InviteDial}
    (joined : connectFromInvite toLowercase tcpPort guest tor now
      (parseInviteCode tcpPort (before ++ code ++ after)) = outcome) :
    (env.onion = none →
      outcome = (guest, some (.lan env.localIp (effectiveDataPort env.tcpPort)))) ∧
    ∀ onion, env.onion = some onion →
      outcome.2 = some (.tor onion (some host.identity.nodeIdHex)) ∧
      ∃ row, outcome.1 = { guest with
          store := { guest.store with
            peers := guest.store.peers.insert host.identity.nodeIdHex row } } ∧
        row.onionAddress = onion ∧ row.tcpPort = torVirtualPort := by
  have parsed : parseInviteCode tcpPort (before ++ code ++ after) = .ok (ownInvite host env) :=
    (parse_pasted host env tcpPort before after blank blank' generated).mpr
      fun onion found => (spelled onion found).clean
  rw [parsed] at joined
  subst joined
  constructor
  · intro none
    rw [ownInvite.eq_def, none]
    simp only [connectFromInvite, addPeerManual, not_isBlank_localIp]
    rfl
  · intro onion found
    rcases spelled onion found with ⟨-, lower, suffix⟩
    have up := ready (by rw [found]; rfl)
    subst up
    have suffix' : endsWith (toLowercase (trim onion)) ".onion" = true := by rwa [lower]
    have named := host.identity.nodeIdHex_eq
    rcases torPeerRecord_encode (guest.store.peers.get? host.identity.nodeIdHex) now
      host.identity.myNodeId.bytes onion with ⟨displayName, trustScore, made⟩
    rw [← named] at made
    have dials := connectViaTor_dials suffix' (by rw [lower]; exact made)
    rw [ownInvite.eq_def, found]
    dsimp only [connectFromInvite]
    rw [dials, lower]
    refine ⟨rfl, ?_⟩
    rw [named] at made ⊢
    rcases @onion_of_upsert guest.store _ now _ onion _ suffix made with ⟨row, peers, facts⟩
    refine ⟨row, ?_, facts⟩
    rw [Store.upsertPeer] at peers ⊢
    dsimp only at peers ⊢
    rw [peers]

namespace Sample

def inviteEnv : InviteEnv where
  tcpPort := some "7771"
  ifaces := .ok [.v4 ⟨127, 0, 0, 1⟩ ⟨255, 0, 0, 0⟩, .v4 ⟨192, 168, 1, 7⟩ ⟨255, 255, 255, 0⟩]
  onion := some "caraka.onion"

def lowercase (text : String) : String := String.ofList (text.toList.map Char.toLower)

theorem onion_spelled : OnionSpelled lowercase "caraka.onion" :=
  ⟨by decide, by decide, by decide⟩

/-- A code of node 1, pasted with a blank before and a line end behind it. -/
theorem parse_pasted_alice :
    parseInviteCode none (" " ++ Base64Url.encode (utf8 (inviteRaw alice inviteEnv)) ++ "\n") =
      .ok (ownInvite alice inviteEnv) :=
  (parse_pasted alice inviteEnv none " " "\n" (by decide) (by decide) rfl).mpr
    (fun onion found => by cases found; decide)

/-- Node 2 dials the onion address of node 1. -/
theorem invite_reaches_host_bob :
    (connectFromInvite lowercase none bob .ready 1000 (parseInviteCode none
      ("" ++ Base64Url.encode (utf8 (inviteRaw alice inviteEnv)) ++ ""))).2 =
        some (.tor "caraka.onion" (some alice.identity.nodeIdHex)) :=
  ((invite_reaches_host lowercase alice bob inviteEnv none .ready 1000 "" "" rfl rfl rfl
    (fun onion found => by cases found; exact onion_spelled) (fun _ => rfl) rfl).2 "caraka.onion"
      rfl).1

end Sample

end Caraka
