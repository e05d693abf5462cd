import Caraka.Foundation.Fields

/-! The network interfaces of the machine, and what the program reads off them: `get_local_ip` of
`commands.rs`, the checks of `network_monitor.rs` and the broadcast targets of `discovery.rs`. -/

namespace Caraka

open Foundation

/-- `std::net::Ipv4Addr`, its octets in order. -/
structure Ipv4Addr where
  a : UInt8
  b : UInt8
  c : UInt8
  d : UInt8
  deriving DecidableEq

namespace Ipv4Addr

/-- `Display`. -/
def text (ip : Ipv4Addr) : String :=
  String.ofList (decimal ip.a.toNat ++ '.' :: (decimal ip.b.toNat ++
    '.' :: (decimal ip.c.toNat ++ '.' :: decimal ip.d.toNat)))

def isLoopback (ip : Ipv4Addr) : Bool := ip.a = 127

def isLinkLocal (ip : Ipv4Addr) : Bool := ip.a = 169 ∧ ip.b = 254

end Ipv4Addr

/-- `get_if_addrs::IfAddr`; of an IPv6 address only whether it is the loopback. -/
inductive IfAddr where
  | v4 (ip netmask : Ipv4Addr)
  | v6 (loopback : Bool)
  deriving DecidableEq

def IfAddr.isLoopback : IfAddr → Bool
  | v4 ip _ => ip.isLoopback
  | v6 loopback => loopback

/-- What `get_if_addrs` returns, its error already rendered. -/
abbrev IfAddrs := Except String (List IfAddr)

def startsWith (text front : String) : Bool := front.toList.isPrefixOf text.toList

/-- The address `get_local_ip` stops at. -/
def localIp? : IfAddr → Option String
  | .v4 ip _ =>
    if ip.isLoopback then none
    else if startsWith ip.text "169.254" then none
    else some ip.text
  | .v6 _ => none

def getLocalIp : IfAddrs → Except String String
  | .error e => .error ("Gagal baca interface: " ++ e)
  | .ok ifaces => .ok ((ifaces.findSome? localIp?).getD "Tidak diketahui")

/-- The test of `has_active_network` at one interface. -/
def IfAddr.isActive (iface : IfAddr) : Bool :=
  if iface.isLoopback then false
  else
    match iface with
    | v4 ip _ => !ip.isLinkLocal
    | v6 _ => false

def hasActiveNetwork : IfAddrs → Bool
  | .error _ => false
  | .ok ifaces => ifaces.any IfAddr.isActive

def hasHotspotInterface : IfAddrs → Bool
  | .error _ => false
  | .ok ifaces => ifaces.any fun iface =>
    match iface with
    | .v4 ip _ => ip.a = 192 ∧ ip.b = 168 ∧ ip.c = 137
    | .v6 _ => false

theorem dot_notMem_decimal (value : Nat) : '.' ∉ decimal value := by
  intro member
  exact absurd (isDigit_decimal '.' member) (by decide)

theorem length_decimal_le (byte : UInt8) : (decimal byte.toNat).length ≤ 3 := by
  have bound : byte.toNat < 10 ^ 3 := Nat.lt_of_lt_of_le byte.toNat_lt (by decide)
  rw [decimal_eq]
  exact (Nat.length_toDigits_le_iff (by decide) (by decide)).mpr bound

theorem startsWith_linkLocal (ip : Ipv4Addr) :
    startsWith ip.text "169.254" = ip.isLinkLocal := by
  have text_eq : ip.text.toList = decimal ip.a.toNat ++ '.' :: (decimal ip.b.toNat ++
      '.' :: (decimal ip.c.toNat ++ '.' :: decimal ip.d.toNat)) := String.toList_ofList
  have front : "169.254".toList = decimal 169 ++ '.' :: decimal 254 := by decide
  rw [startsWith, front, Bool.eq_iff_iff, List.isPrefixOf_iff_prefix, text_eq,
    Ipv4Addr.isLinkLocal, decide_eq_true_eq]
  constructor
  · rintro ⟨tail, whole⟩
    rw [List.append_assoc, List.cons_append] at whole
    rcases field_unique (dot_notMem_decimal _) (dot_notMem_decimal _) whole with ⟨first, rest⟩
    have second : decimal 254 = decimal ip.b.toNat := by
      rcases List.append_eq_append_iff.mp rest with ⟨more, longer, -⟩ | ⟨more, shorter, after⟩
      · have bound := length_decimal_le ip.b
        rw [longer, List.length_append] at bound
        have three : (decimal 254).length = 3 := by decide
        have none : more = [] := List.length_eq_zero_iff.mp (by omega)
        rw [longer, none, List.append_nil]
      · cases more with
        | nil => rw [shorter, List.append_nil]
        | cons c more =>
            rw [List.cons_append, List.cons.injEq] at after
            exfalso
            apply dot_notMem_decimal 254
            rw [shorter, ← after.1]
            simp
    have a_eq := decimal_injective first
    have b_eq := decimal_injective second
    exact ⟨UInt8.toNat_inj.mp a_eq.symm, UInt8.toNat_inj.mp b_eq.symm⟩
  · rintro ⟨a_eq, b_eq⟩
    rw [a_eq, b_eq]
    exact ⟨'.' :: (decimal ip.c.toNat ++ '.' :: decimal ip.d.toNat), by simp⟩

theorem isActive_v4 (ip netmask : Ipv4Addr) :
    (IfAddr.v4 ip netmask).isActive = (!ip.isLoopback && !ip.isLinkLocal) := by
  have looped : (IfAddr.v4 ip netmask).isLoopback = ip.isLoopback := rfl
  rw [IfAddr.isActive, looped]
  cases ip.isLoopback <;> rfl

theorem isActive_v6 (loopback : Bool) : (IfAddr.v6 loopback).isActive = false := by
  cases loopback <;> rfl

theorem localIp?_v4 (ip netmask : Ipv4Addr) : localIp? (.v4 ip netmask) =
    if (IfAddr.v4 ip netmask).isActive then some ip.text else none := by
  rw [localIp?, startsWith_linkLocal, isActive_v4]
  cases ip.isLoopback <;> cases ip.isLinkLocal <;> rfl

theorem localIp?_isSome (iface : IfAddr) : (localIp? iface).isSome = iface.isActive := by
  cases iface with
  | v6 loopback =>
      rw [isActive_v6]
      rfl
  | v4 ip netmask =>
      rw [localIp?_v4]
      split
      · rename_i active
        rw [active]
        rfl
      · rename_i idle
        rw [Bool.eq_false_iff.mpr idle]
        rfl

theorem colon_notMem_decimal (value : Nat) : ':' ∉ decimal value := by
  intro member
  exact absurd (isDigit_decimal ':' member) (by decide)

theorem colon_notMem_text (ip : Ipv4Addr) : ':' ∉ ip.text.toList := by
  rw [Ipv4Addr.text, String.toList_ofList]
  simp [colon_notMem_decimal]

theorem dot_mem_text (ip : Ipv4Addr) : '.' ∈ ip.text.toList := by
  rw [Ipv4Addr.text, String.toList_ofList]
  exact List.mem_append_right _ List.mem_cons_self

theorem getLocalIp_unknown_iff (ifaces : List IfAddr) :
    getLocalIp (.ok ifaces) = .ok "Tidak diketahui" ↔ hasActiveNetwork (.ok ifaces) = false := by
  rw [getLocalIp, hasActiveNetwork, Except.ok.injEq, List.any_eq_false]
  constructor
  · intro unknown iface member active
    cases found : ifaces.findSome? localIp? with
    | none =>
        rw [← localIp?_isSome, List.findSome?_eq_none_iff.mp found iface member] at active
        cases active
    | some text =>
        rw [found, Option.getD_some] at unknown
        rcases List.exists_of_findSome?_eq_some found with ⟨other, -, gives⟩
        cases other with
        | v6 loopback => cases gives
        | v4 ip netmask =>
            rw [localIp?_v4] at gives
            split at gives
            · cases gives
              have dot := dot_mem_text ip
              rw [unknown] at dot
              exact absurd dot (by decide)
            · cases gives
  · intro idle
    have none : ifaces.findSome? localIp? = none := by
      rw [List.findSome?_eq_none_iff]
      intro iface member
      rw [← Option.not_isSome_iff_eq_none, localIp?_isSome]
      exact idle iface member
    rw [none]
    rfl

end Caraka
