import Caraka.Transport
import Caraka.Foundation.Script

/-! `main.js`: how the frontend hands a received packet to a decrypting command. -/

namespace Caraka

open Foundation

namespace Frontend

inductive Name where
  | handleIncomingPacket
  | origHandleIncomingPacket
  deriving DecidableEq

structure PacketArgs where
  packetId : String
  nonceHex : String
  ciphertextHex : String
  aeadTagHex : String
  deriving DecidableEq

/-- The commands invoked through `ipc`. -/
inductive Command where
  | tryDecryptPacket (args : PacketArgs)
  | tryDecryptFilePacket (args : PacketArgs)
  deriving DecidableEq

def packetArgs (d : DeliveredPacket) : PacketArgs := ⟨d.packetId, d.nonce, d.ciphertext, d.aeadTag⟩

abbrev Body := Script.Body Name DeliveredPacket Command

def handleIncomingPacket (d : DeliveredPacket) : Body :=
  .effect (.tryDecryptPacket (packetArgs d)) .ret

def handleIncomingPacketOverride (d : DeliveredPacket) : Body :=
  if d.packetType = 8 then .effect (.tryDecryptFilePacket (packetArgs d)) .ret
  else .call .origHandleIncomingPacket d .ret

def items : List (Script.Item Name DeliveredPacket Command) := [
  .function .handleIncomingPacket handleIncomingPacket,
  .const .origHandleIncomingPacket .handleIncomingPacket,
  .function .handleIncomingPacket handleIncomingPacketOverride]

def scope : Script.Scope Name DeliveredPacket Command := Script.bindings items

def decryptor (d : DeliveredPacket) : Command :=
  if d.packetType = 8 then .tryDecryptFilePacket (packetArgs d)
  else .tryDecryptPacket (packetArgs d)

/-- The listener of `clamp_packet_received` terminates, and the right command is the only one that
it invokes. -/
def Dispatches (d : DeliveredPacket) : Prop :=
  Script.Returns scope .handleIncomingPacket d [decryptor d]

theorem scope_override (name : Name) : scope name = some handleIncomingPacketOverride := by
  have last : Script.hoist items .handleIncomingPacket = some handleIncomingPacketOverride :=
    Script.hoist_last [_, _] handleIncomingPacketOverride
      fun item member => absurd member List.not_mem_nil
  cases name with
  | handleIncomingPacket =>
      rw [scope, Script.bindings_function, last]
      intro item member bound
      simp only [items, List.mem_cons, List.not_mem_nil, or_false] at member
      rcases member with rfl | rfl | rfl <;> cases bound
  | origHandleIncomingPacket =>
      rw [← last]
      apply @Script.bindings_const _ _ _ _ [_] [_]
      · intro item member bound
        rcases List.mem_singleton.mp member with rfl
        cases bound
      · intro item member bound
        rcases List.mem_singleton.mp member with rfl
        cases bound

theorem dispatches_of_file {d : DeliveredPacket} (file : d.packetType = 8) : Dispatches d := by
  apply Script.returns_of_run (scope_override _)
  intro callee
  rw [handleIncomingPacketOverride, if_pos file, decryptor, if_pos file]
  rfl

theorem loops_of_other {name : Name} {d : DeliveredPacket} (other : d.packetType ≠ 8) :
    ∃ body callee passed rest, scope name = some body ∧ body d = .call callee passed rest ∧
      passed.packetType ≠ 8 :=
  ⟨_, .origHandleIncomingPacket, d, .ret, scope_override name, if_neg other, other⟩

theorem invoke_other {d : DeliveredPacket} (other : d.packetType ≠ 8) (room : Nat) :
    Script.invoke scope room .handleIncomingPacket d = ([], false) :=
  @Script.invoke_of_loop _ _ _ _ (fun _ d => d.packetType ≠ 8) (fun _ _ => loops_of_other) room _ _
    other

theorem not_dispatches_of_other {d : DeliveredPacket} (other : d.packetType ≠ 8) :
    ¬ Dispatches d := by
  rintro ⟨enough, returned⟩
  have stuck := invoke_other other enough
  rw [returned enough (Nat.le_refl _)] at stuck
  cases stuck

end Frontend

/-- The frontend hands a packet to the right command exactly when it is a file packet. -/
theorem frontend_dispatches_iff (d : DeliveredPacket) :
    Frontend.Dispatches d ↔ d.packetType = 8 := by
  constructor
  · intro dispatches
    by_contra other
    exact Frontend.not_dispatches_of_other other dispatches
  · exact Frontend.dispatches_of_file

/-- The event of a direct message: its handler calls itself until the stack is full. -/
theorem dm_event_not_dispatched :
    ∃ d, deliverToApp {
        header := ⟨magic, protocolVersion, .dm, ttlMax, Octets.zero 8⟩
        hopAuth := ⟨0, Octets.zero 16⟩
        nonce := Octets.zero 16
        ciphertext := []
        aeadTag := Octets.zero 16 } = .clampPacketReceived d ∧ ¬ Frontend.Dispatches d :=
  ⟨_, rfl, Frontend.not_dispatches_of_other (by decide)⟩

end Caraka
