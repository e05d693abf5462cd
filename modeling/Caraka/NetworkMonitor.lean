import Caraka.Interfaces
import Caraka.Foundation.Transition
import Mathlib.Data.List.Induction

/-! The monitor of `network_monitor.rs`: what it makes of the interfaces it reads, pass by pass. -/

namespace Caraka

open Foundation

inductive NetworkState where
  | normal
  | lost
  | emergency
  deriving DecidableEq

inductive EmergencyEvent where
  | networkLost (message : String)
  | networkRestored (message : String)
  | emergencyModeActive (message : String)
  | networkStatus (state : NetworkState) (hasNetwork hasHotspot : Bool)
  | emergencyHotspotStarted (ssid : String)
  | emergencyHotspotManualNeeded (error : String)
  | emergencyHotspotStopped
  deriving DecidableEq

/-- What one pass reads. The interfaces may change between the two calls. -/
structure Reading where
  hasNetwork : Bool
  hasHotspot : Bool
  deriving DecidableEq

def Reading.of (first second : IfAddrs) : Reading :=
  ⟨hasActiveNetwork first, hasHotspotInterface second⟩

structure NetworkMonitor where
  networkState : NetworkState
  statusTick : Nat
  deriving DecidableEq

namespace NetworkMonitor

def start : NetworkMonitor := ⟨.normal, 0⟩

/-- The body of the loop of `start_network_monitor`, in the order of its arms. -/
def pass (monitor : NetworkMonitor) (reading : Reading) :
    NetworkMonitor × Option EmergencyEvent :=
  match monitor.networkState, reading.hasNetwork, reading.hasHotspot with
  | .normal, false, false =>
    ({ monitor with networkState := .lost },
      some (.networkLost "Jaringan terputus. Router mati atau mati lampu?"))
  | .lost, true, false | .emergency, true, false =>
    ({ monitor with networkState := .normal }, some (.networkRestored "Jaringan kembali normal"))
  | .lost, _, true =>
    ({ monitor with networkState := .emergency },
      some (.emergencyModeActive "Mode Darurat aktif via hotspot"))
  | state, hasNetwork, hasHotspot =>
    if monitor.statusTick + 1 ≥ 10 then
      ({ monitor with statusTick := 0 }, some (.networkStatus state hasNetwork hasHotspot))
    else ({ monitor with statusTick := monitor.statusTick + 1 }, none)

def step (monitor : NetworkMonitor) (reading : Reading) : NetworkMonitor := (monitor.pass reading).1

end NetworkMonitor

namespace Reading

def dark (reading : Reading) : Bool := !reading.hasNetwork && !reading.hasHotspot

/-- A network, and no hotspot of ours. -/
def router (reading : Reading) : Bool := reading.hasNetwork && !reading.hasHotspot

end Reading

def outage (readings : List Reading) : List Reading :=
  (readings.reverse.takeWhile fun reading => !reading.router).reverse.dropWhile fun reading =>
    !reading.dark

theorem outage_concat (readings : List Reading) (last : Reading) :
    outage (readings ++ [last]) =
      if last.router then []
      else if outage readings = [] ∧ last.dark = false then []
      else outage readings ++ [last] := by
  rw [outage, List.reverse_append, List.reverse_singleton, List.singleton_append]
  cases routed : last.router with
  | true =>
      rw [List.takeWhile_cons_of_neg (by rw [routed]; decide)]
      rfl
  | false =>
      rw [List.takeWhile_cons_of_pos (by rw [routed]; rfl), List.reverse_cons,
        List.dropWhile_append]
      change (if (outage readings).isEmpty = true then _ else outage readings ++ [last]) = _
      cases shape : outage readings with
      | cons first rest => simp
      | nil =>
          cases dark : last.dark with
          | true => simp [dark]
          | false => simp [dark]

/-- The state that the readings so far leave the monitor in. -/
def stateAfter (readings : List Reading) : NetworkState :=
  if outage readings = [] then .normal
  else if (outage readings).any Reading.hasHotspot then .emergency
  else .lost

theorem stateAfter_concat (readings : List Reading) (last : Reading) :
    stateAfter (readings ++ [last]) =
      ((⟨stateAfter readings, 0⟩ : NetworkMonitor).step last).networkState := by
  rcases last with ⟨hasNetwork, hasHotspot⟩
  rw [stateAfter, outage_concat]
  by_cases none : outage readings = []
  · rw [stateAfter, none]
    cases hasNetwork <;> cases hasHotspot <;> rfl
  · rw [stateAfter, if_neg none]
    cases hot : (outage readings).any Reading.hasHotspot <;>
      cases hasNetwork <;> cases hasHotspot <;>
        simp [NetworkMonitor.step, NetworkMonitor.pass, Reading.router, none, hot]

theorem networkState_step (monitor : NetworkMonitor) (tick : Nat) (reading : Reading) :
    (monitor.step reading).networkState =
      ((⟨monitor.networkState, tick⟩ : NetworkMonitor).step reading).networkState := by
  rcases monitor with ⟨state, statusTick⟩
  rcases reading with ⟨hasNetwork, hasHotspot⟩
  cases state <;> cases hasNetwork <;> cases hasHotspot <;>
    simp only [NetworkMonitor.step, NetworkMonitor.pass] <;> split <;> split <;> rfl

/-- Left to itself, the monitor is in the state that the readings call for. -/
theorem networkState_run (readings : List Reading) :
    (run NetworkMonitor.step .start readings).networkState = stateAfter readings := by
  induction readings using List.reverseRecOn with
  | nil => rfl
  | append_singleton readings last ih =>
      rw [run_concat, networkState_step _ 0, ih, stateAfter_concat]

/-- An event that is no report on the status. -/
def EmergencyEvent.isAlarm : EmergencyEvent → Bool
  | networkStatus .. => false
  | _ => true

theorem pass_counts (monitor : NetworkMonitor) (reading : Reading) (low : monitor.statusTick < 10) :
    (monitor.step reading).statusTick < 10 ∧
      monitor.statusTick + 1 =
        ((monitor.pass reading).2.toList.countP EmergencyEvent.isAlarm) +
          10 * ((monitor.pass reading).2.toList.countP fun event => !event.isAlarm) +
          (monitor.step reading).statusTick := by
  rcases monitor with ⟨state, statusTick⟩
  rcases reading with ⟨hasNetwork, hasHotspot⟩
  dsimp only at low
  cases state <;> cases hasNetwork <;> cases hasHotspot <;>
    simp only [NetworkMonitor.step, NetworkMonitor.pass] <;>
    first
    | (split <;> simp [EmergencyEvent.isAlarm] <;> omega)
    | (simp [EmergencyEvent.isAlarm]; omega)

def NetworkMonitor.emits (monitor : NetworkMonitor) (reading : Reading) : Option EmergencyEvent :=
  (monitor.pass reading).2

theorem run_counts (monitor : NetworkMonitor) (readings : List Reading)
    (low : monitor.statusTick < 10) :
    (run NetworkMonitor.step monitor readings).statusTick < 10 ∧
      monitor.statusTick + readings.length =
        ((emitted NetworkMonitor.step NetworkMonitor.emits monitor readings).countP
            EmergencyEvent.isAlarm) +
          10 * ((emitted NetworkMonitor.step NetworkMonitor.emits monitor readings).countP
            fun event => !event.isAlarm) +
          (run NetworkMonitor.step monitor readings).statusTick := by
  induction readings generalizing monitor with
  | nil => exact ⟨low, by simp [emitted]⟩
  | cons reading rest ih =>
      rcases pass_counts monitor reading low with ⟨next, now⟩
      rcases ih (monitor.step reading) next with ⟨last, later⟩
      refine ⟨last, ?_⟩
      rw [run_cons, emitted, List.countP_append, List.countP_append, List.length_cons,
        NetworkMonitor.emits]
      omega

def EmergencyEvent.isLoss : EmergencyEvent → Bool
  | networkLost _ => true
  | _ => false

def EmergencyEvent.isReturn : EmergencyEvent → Bool
  | networkRestored _ => true
  | _ => false

/-- One for an outage that is under way. -/
def NetworkState.outages : NetworkState → Nat
  | normal => 0
  | lost | emergency => 1

theorem pass_announces (monitor : NetworkMonitor) (reading : Reading) :
    monitor.networkState.outages +
        (monitor.pass reading).2.toList.countP EmergencyEvent.isLoss =
      (monitor.pass reading).2.toList.countP EmergencyEvent.isReturn +
        (monitor.step reading).networkState.outages := by
  rcases monitor with ⟨state, statusTick⟩
  rcases reading with ⟨hasNetwork, hasHotspot⟩
  cases state <;> cases hasNetwork <;> cases hasHotspot <;>
    simp only [NetworkMonitor.step, NetworkMonitor.pass] <;> first | rfl | (split <;> rfl)

theorem run_announces (monitor : NetworkMonitor) (readings : List Reading) :
    monitor.networkState.outages +
        (emitted NetworkMonitor.step NetworkMonitor.emits monitor readings).countP
          EmergencyEvent.isLoss =
      (emitted NetworkMonitor.step NetworkMonitor.emits monitor readings).countP
          EmergencyEvent.isReturn +
        (run NetworkMonitor.step monitor readings).networkState.outages := by
  induction readings generalizing monitor with
  | nil => simp [emitted]
  | cons reading rest ih =>
      have now := pass_announces monitor reading
      have later := ih (monitor.step reading)
      rw [run_cons, emitted, List.countP_append, List.countP_append, NetworkMonitor.emits]
      omega

/-- What the monitor emits over its first passes. -/
def monitorEvents (readings : List Reading) : List EmergencyEvent :=
  emitted NetworkMonitor.step NetworkMonitor.emits .start readings

/-- Left to itself, the monitor is in the state its readings call for, has announced every outage
once and its end once, and every pass has raised an alarm, has counted towards a report that was
made, or is one of the fewer than ten that wait. -/
theorem monitor_run (readings : List Reading) :
    (run NetworkMonitor.step .start readings).networkState = stateAfter readings ∧
      (monitorEvents readings).countP EmergencyEvent.isLoss =
        (monitorEvents readings).countP EmergencyEvent.isReturn + (stateAfter readings).outages ∧
      readings.length = (monitorEvents readings).countP EmergencyEvent.isAlarm +
        10 * ((monitorEvents readings).countP fun event => !event.isAlarm) +
        (run NetworkMonitor.step .start readings).statusTick ∧
      (run NetworkMonitor.step .start readings).statusTick < 10 := by
  have state := networkState_run readings
  have announced := run_announces .start readings
  rcases run_counts .start readings (Nat.zero_lt_succ _) with ⟨low, counts⟩
  rw [state] at announced
  refine ⟨state, ?_, ?_, low⟩
  · rw [monitorEvents, ← announced]
    exact (Nat.zero_add _).symm
  · rw [monitorEvents, ← counts]
    exact (Nat.zero_add _).symm

end Caraka
