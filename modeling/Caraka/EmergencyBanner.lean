import Caraka.NetworkMonitor

/-! The emergency banner of `main.js` against the network state it stands for, with the hotspot
commands of `commands.rs`, the monitor and the events between them in any order. -/

namespace Caraka

open Foundation

def emergencySsid : String := "CARAKA-Emergency"

structure BannerText where
  title : String
  subtitle : String
  deriving DecidableEq

inductive HotspotCommand where
  | activate
  | deactivate
  deriving DecidableEq

def HotspotCommand.target : HotspotCommand → NetworkState
  | activate => .emergency
  | deactivate => .normal

def HotspotCommand.event : HotspotCommand → EmergencyEvent
  | activate => .emergencyHotspotStarted emergencySsid
  | deactivate => .emergencyHotspotStopped

/-- What the window waits for; nothing in it calls `deactivate_emergency_hotspot`. -/
def HotspotCommand.result : HotspotCommand → Option (Except String String)
  | activate => some (.ok ("Hotspot '" ++ emergencySsid ++ "' berhasil diaktifkan."))
  | deactivate => none

structure EmergencyMode where
  monitor : NetworkMonitor
  pending : List HotspotCommand
  /-- The events on their way to the window, the oldest first. -/
  events : List EmergencyEvent
  /-- The results of activations that the window still waits for. -/
  replies : List (Except String String)
  banner : Option BannerText
  manualNote : Bool

inductive EmergencyInput where
  /-- The monitor takes the lock, with what it read of the interfaces. -/
  | pass (first second : IfAddrs)
  /-- `activate_emergency_hotspot` has its hotspot and sets the state. -/
  | activated
  | notActivated (error : String)
  /-- `deactivate_emergency_hotspot` has stopped the hotspot and sets the state. -/
  | deactivated
  /-- A command that has set the state emits and returns. -/
  | emit (index : Nat)
  | deliver
  | reply (index : Nat)
  | dismiss
  deriving DecidableEq

def onEmergencyEvent (banner : Option BannerText) : EmergencyEvent → Option BannerText
  | .networkLost message => some ⟨"⚡ Jaringan Terputus", message⟩
  | .networkRestored _ | .emergencyHotspotStopped => none
  | .emergencyModeActive message => some ⟨"⚡ Mode Darurat Aktif", message⟩
  | .emergencyHotspotStarted ssid =>
    some ⟨"📶 Hotspot Aktif", "SSID: " ++ ssid ++ " (tanpa password) — Menunggu rekan terhubung"⟩
  | .networkStatus .. | .emergencyHotspotManualNeeded _ => banner

def EmergencyEvent.asksManual : EmergencyEvent → Bool
  | emergencyHotspotManualNeeded _ => true
  | _ => false

namespace EmergencyMode

def start : EmergencyMode where
  monitor := .start
  pending := []
  events := []
  replies := []
  banner := none
  manualNote := false

def setNetworkState (mode : EmergencyMode) (state : NetworkState) : EmergencyMode :=
  { mode with monitor := { mode.monitor with networkState := state } }

def activatedText : BannerText where
  title := "⚡ Hotspot Darurat Aktif"
  subtitle := "SSID: CARAKA-Emergency (tanpa password) — Tunggu rekan terhubung"

def finish (mode : EmergencyMode) (command : HotspotCommand) : EmergencyMode :=
  { mode with
    events := mode.events ++ [command.event]
    replies := mode.replies ++ command.result.toList }

def step (mode : EmergencyMode) : EmergencyInput → EmergencyMode
  | .pass first second =>
    let passed := mode.monitor.pass (.of first second)
    { mode with monitor := passed.1, events := mode.events ++ passed.2.toList }
  | .activated =>
    { mode.setNetworkState .emergency with pending := mode.pending ++ [.activate] }
  | .notActivated error =>
    { mode with
      events := mode.events ++ [.emergencyHotspotManualNeeded error]
      replies := mode.replies ++ [.error error] }
  | .deactivated =>
    { mode.setNetworkState .normal with pending := mode.pending ++ [.deactivate] }
  | .emit index =>
    match mode.pending[index]? with
    | none => mode
    | some command => { mode with pending := mode.pending.eraseIdx index }.finish command
  | .deliver =>
    match mode.events with
    | [] => mode
    | event :: rest =>
      { mode with
        events := rest
        banner := onEmergencyEvent mode.banner event
        manualNote := mode.manualNote || event.asksManual }
  | .reply index =>
    match mode.replies[index]? with
    | none => mode
    | some (.ok _) =>
      { mode with replies := mode.replies.eraseIdx index, banner := some activatedText }
    | some (.error _) =>
      { mode with replies := mode.replies.eraseIdx index, manualNote := true }
  | .dismiss => { mode with banner := none }

def drained (mode : EmergencyMode) : Option BannerText :=
  mode.events.foldl onEmergencyEvent mode.banner

/-- No state is set while a command that has set it is still to say so, and a click that turned the
hotspot on is answered while it is still an emergency. -/
def Undisturbed (mode : EmergencyMode) : EmergencyInput → Prop
  | .pass .. | .activated | .deactivated => mode.pending = []
  | .reply index => ∀ result, mode.replies[index]? = some (.ok result) →
    mode.monitor.networkState = .emergency
  | .notActivated _ | .emit _ | .deliver | .dismiss => True

end EmergencyMode

/-- The texts that stand for a state. -/
def Announces : NetworkState → BannerText → Prop
  | .normal, _ => False
  | .lost, text =>
    text = ⟨"⚡ Jaringan Terputus", "Jaringan terputus. Router mati atau mati lampu?"⟩
  | .emergency, text =>
    text.title ∈ ["⚡ Mode Darurat Aktif", "📶 Hotspot Aktif", "⚡ Hotspot Darurat Aktif"]

theorem events_banner (events : List EmergencyEvent) :
    (∀ banner, events.foldl onEmergencyEvent banner = banner) ∨
      ∃ made, ∀ banner, events.foldl onEmergencyEvent banner = made := by
  induction events with
  | nil => exact .inl fun _ => rfl
  | cons event rest ih =>
      rcases ih with keeps | ⟨made, all⟩
      · cases event with
        | networkStatus state hasNetwork hasHotspot => exact .inl keeps
        | emergencyHotspotManualNeeded error => exact .inl keeps
        | networkLost message => exact .inr ⟨_, fun _ => keeps _⟩
        | networkRestored message => exact .inr ⟨_, fun _ => keeps _⟩
        | emergencyModeActive message => exact .inr ⟨_, fun _ => keeps _⟩
        | emergencyHotspotStarted ssid => exact .inr ⟨_, fun _ => keeps _⟩
        | emergencyHotspotStopped => exact .inr ⟨_, fun _ => keeps _⟩
      · exact .inr ⟨made, fun banner => all _⟩

namespace EmergencyMode

structure Tracks (mode : EmergencyMode) : Prop where
  settled : mode.pending = [] → ∀ text, mode.drained = some text →
    Announces mode.monitor.networkState text
  unsettled : mode.pending ≠ [] →
    ∃ command, mode.pending = [command] ∧ mode.monitor.networkState = command.target

def Shown (mode : EmergencyMode) : Prop :=
  mode.pending = [] → mode.drained = none → mode.monitor.networkState = .normal

theorem drained_pass (mode : EmergencyMode) (first second : IfAddrs) :
    (mode.step (.pass first second)).drained =
      (mode.monitor.pass (.of first second)).2.toList.foldl onEmergencyEvent mode.drained :=
  List.foldl_append ..

theorem drained_notActivated (mode : EmergencyMode) (error : String) :
    (mode.step (.notActivated error)).drained = mode.drained := List.foldl_append ..

theorem pass_announced (monitor : NetworkMonitor) (reading : Reading) {banner : Option BannerText}
    (tracks : ∀ text, banner = some text → Announces monitor.networkState text) :
    ∀ text, (monitor.pass reading).2.toList.foldl onEmergencyEvent banner = some text →
      Announces (monitor.pass reading).1.networkState text := by
  rcases monitor with ⟨state, statusTick⟩
  rcases reading with ⟨hasNetwork, hasHotspot⟩
  cases state <;> cases hasNetwork <;> cases hasHotspot <;>
    simp only [NetworkMonitor.pass] <;>
    first
    | (split <;> exact tracks)
    | (intro text shown; cases shown; first | rfl | exact List.mem_cons_self)
    | (intro text shown; cases shown)

theorem pass_shown (monitor : NetworkMonitor) (reading : Reading) {banner : Option BannerText}
    (shown : banner = none → monitor.networkState = .normal)
    (gone : (monitor.pass reading).2.toList.foldl onEmergencyEvent banner = none) :
    (monitor.pass reading).1.networkState = .normal := by
  rcases monitor with ⟨state, statusTick⟩
  rcases reading with ⟨hasNetwork, hasHotspot⟩
  revert gone
  cases state <;> cases hasNetwork <;> cases hasHotspot <;>
    simp only [NetworkMonitor.pass] <;>
    first
    | (split <;> exact shown)
    | exact fun _ => trivial
    | (intro gone; cases gone)

theorem drained_finish (mode : EmergencyMode) (command : HotspotCommand) :
    (mode.finish command).drained = onEmergencyEvent mode.drained command.event :=
  List.foldl_append ..

theorem finish_announced (command : HotspotCommand) (banner : Option BannerText) :
    (∀ text, onEmergencyEvent banner command.event = some text → Announces command.target text) ∧
      (onEmergencyEvent banner command.event = none → command.target = .normal) := by
  cases command with
  | activate =>
      refine ⟨fun text shown => ?_, fun gone => by cases gone⟩
      cases shown
      exact List.mem_cons_of_mem _ List.mem_cons_self
  | deactivate =>
      refine ⟨fun text shown => ?_, fun _ => rfl⟩
      cases shown

theorem Tracks.emits {mode : EmergencyMode} (tracks : mode.Tracks) {index : Nat}
    {command : HotspotCommand} (found : mode.pending[index]? = some command) :
    mode.pending.eraseIdx index = [] ∧ mode.monitor.networkState = command.target := by
  have some : mode.pending ≠ [] := by
    intro empty
    rw [empty] at found
    cases found
  rcases tracks.unsettled some with ⟨only, alone, set⟩
  rw [alone] at found ⊢
  cases index with
  | zero =>
      cases found
      exact ⟨rfl, set⟩
  | succ index => cases found

theorem tracks_emit {mode : EmergencyMode} (tracks : mode.Tracks) (index : Nat) :
    (mode.step (.emit index)).Tracks := by
  rw [step]
  cases found : mode.pending[index]? with
  | none => exact tracks
  | some command =>
      rcases tracks.emits found with ⟨left, set⟩
      refine ⟨fun _ text shown => ?_, fun some => absurd left some⟩
      rw [drained_finish] at shown
      change Announces mode.monitor.networkState text
      rw [set]
      exact (finish_announced command _).1 text shown

theorem shown_emit {mode : EmergencyMode} (tracks : mode.Tracks) (shown : mode.Shown)
    (index : Nat) : (mode.step (.emit index)).Shown := by
  rw [step]
  cases found : mode.pending[index]? with
  | none => exact shown
  | some command =>
      intro _ gone
      rw [drained_finish] at gone
      change mode.monitor.networkState = .normal
      rw [(tracks.emits found).2]
      exact (finish_announced command _).2 gone

theorem deliver_keeps (mode : EmergencyMode) :
    (mode.step .deliver).pending = mode.pending ∧ (mode.step .deliver).monitor = mode.monitor ∧
      (mode.step .deliver).drained = mode.drained := by
  rw [step]
  cases queued : mode.events with
  | nil => exact ⟨rfl, rfl, rfl⟩
  | cons event rest =>
      refine ⟨rfl, rfl, ?_⟩
      rw [drained, drained, queued]
      rfl

theorem drained_set (mode : EmergencyMode) (banner : Option BannerText) :
    mode.events.foldl onEmergencyEvent banner = banner ∨
      mode.events.foldl onEmergencyEvent banner = mode.drained := by
  rcases events_banner mode.events with keeps | ⟨made, all⟩
  · exact .inl (keeps banner)
  · exact .inr ((all banner).trans (all mode.banner).symm)

theorem reply_keeps {mode : EmergencyMode} {index : Nat}
    (undisturbed : mode.Undisturbed (.reply index)) :
    (mode.step (.reply index)).pending = mode.pending ∧
      (mode.step (.reply index)).monitor = mode.monitor ∧
      ((mode.step (.reply index)).drained = mode.drained ∨
        (mode.step (.reply index)).drained = some activatedText ∧
          mode.monitor.networkState = .emergency) := by
  rw [step]
  cases found : mode.replies[index]? with
  | none => exact ⟨rfl, rfl, .inl rfl⟩
  | some result =>
      cases result with
      | error error => exact ⟨rfl, rfl, .inl rfl⟩
      | ok message =>
          refine ⟨rfl, rfl, ?_⟩
          rcases mode.drained_set (some activatedText) with set | same
          · exact .inr ⟨set, undisturbed message found⟩
          · exact .inl same

theorem tracks_of_keeps {mode next : EmergencyMode} (tracks : mode.Tracks)
    (pending : next.pending = mode.pending) (monitor : next.monitor = mode.monitor)
    (drained : mode.pending = [] → ∀ text, next.drained = some text →
      Announces mode.monitor.networkState text) : next.Tracks := by
  refine ⟨fun settled => ?_, fun some => ?_⟩
  · rw [pending] at settled
    rw [monitor]
    exact drained settled
  · rw [pending] at some ⊢
    rw [monitor]
    exact tracks.unsettled some

theorem tracks_set {mode next : EmergencyMode} (command : HotspotCommand)
    (settled : mode.pending = []) (pending : next.pending = mode.pending ++ [command])
    (set : next.monitor.networkState = command.target) : next.Tracks := by
  rw [settled, List.nil_append] at pending
  refine ⟨fun empty => ?_, fun _ => ⟨command, pending, set⟩⟩
  rw [pending] at empty
  cases empty

theorem tracks_step {mode : EmergencyMode} {input : EmergencyInput} (tracks : mode.Tracks)
    (undisturbed : mode.Undisturbed input) : (mode.step input).Tracks := by
  cases input with
  | pass first second =>
      refine ⟨fun settled text shown => ?_, fun some => absurd undisturbed some⟩
      rw [drained_pass] at shown
      exact pass_announced mode.monitor _ (tracks.settled settled) text shown
  | activated => exact tracks_set .activate undisturbed rfl rfl
  | deactivated => exact tracks_set .deactivate undisturbed rfl rfl
  | notActivated error =>
      refine @tracks_of_keeps mode (mode.step _) tracks rfl rfl ?_
      rw [drained_notActivated]
      exact tracks.settled
  | emit index => exact tracks_emit tracks index
  | deliver =>
      rcases mode.deliver_keeps with ⟨pending, monitor, same⟩
      apply tracks_of_keeps tracks pending monitor
      rw [same]
      exact tracks.settled
  | reply index =>
      rcases reply_keeps undisturbed with ⟨pending, monitor, same | ⟨set, emergency⟩⟩
      · apply tracks_of_keeps tracks pending monitor
        rw [same]
        exact tracks.settled
      · apply tracks_of_keeps tracks pending monitor
        intro _ text shown
        rw [set, Option.some.injEq] at shown
        rw [emergency, ← shown]
        exact List.mem_cons_of_mem _ (List.mem_cons_of_mem _ List.mem_cons_self)
  | dismiss =>
      refine @tracks_of_keeps mode (mode.step _) tracks rfl rfl fun settled text shown => ?_
      change mode.events.foldl onEmergencyEvent none = some text at shown
      rcases mode.drained_set none with gone | same
      · rw [gone] at shown
        cases shown
      · rw [same] at shown
        exact tracks.settled settled text shown

theorem shown_step {mode : EmergencyMode} {input : EmergencyInput} (tracks : mode.Tracks)
    (shown : mode.Shown) (undisturbed : mode.Undisturbed input) (kept : input ≠ .dismiss) :
    (mode.step input).Shown := by
  cases input with
  | pass first second =>
      intro settled gone
      rw [drained_pass] at gone
      exact pass_shown mode.monitor _ (shown settled) gone
  | activated => exact fun settled => absurd settled (List.concat_ne_nil _ _)
  | deactivated => exact fun settled => absurd settled (List.concat_ne_nil _ _)
  | notActivated error =>
      intro settled gone
      rw [drained_notActivated] at gone
      exact shown settled gone
  | emit index => exact shown_emit tracks shown index
  | deliver =>
      intro settled gone
      rcases mode.deliver_keeps with ⟨pending, monitor, same⟩
      rw [monitor]
      exact shown (pending ▸ settled) (same ▸ gone)
  | reply index =>
      intro settled gone
      rcases reply_keeps undisturbed with ⟨pending, monitor, same | ⟨set, emergency⟩⟩
      · rw [monitor]
        exact shown (pending ▸ settled) (same ▸ gone)
      · rw [set] at gone
        cases gone
  | dismiss => exact absurd rfl kept

theorem tracks_run {inputs : List EmergencyInput}
    (undisturbed : Along step Undisturbed start inputs) : (run step start inputs).Tracks := by
  apply run_keeps (fun _ _ tracks => tracks_step tracks) start inputs _ undisturbed
  refine ⟨fun _ text shown => ?_, fun some => absurd rfl some⟩
  cases shown

theorem shown_run {mode : EmergencyMode} {inputs : List EmergencyInput} (tracks : mode.Tracks)
    (shown : mode.Shown) (undisturbed : Along step Undisturbed mode inputs)
    (kept : .dismiss ∉ inputs) : (run step mode inputs).Shown := by
  induction inputs generalizing mode with
  | nil => exact shown
  | cons input rest ih =>
      rw [List.mem_cons, not_or] at kept
      exact ih (tracks_step tracks undisturbed.1)
        (shown_step tracks shown undisturbed.1 (Ne.symm kept.1)) undisturbed.2 kept.2

/-- With nothing on its way, what the banner says stands for the state of the network; and where the
banner was not dismissed since the network was last normal, it is there just while it is not. -/
theorem banner_tracks (inputs : List EmergencyInput)
    (undisturbed : Along step Undisturbed start inputs) {mode : EmergencyMode}
    (ran : run step start inputs = mode) (announced : mode.pending = [])
    (delivered : mode.events = []) :
    (∀ text, mode.banner = some text → Announces mode.monitor.networkState text) ∧
      ∀ front back, inputs = front ++ back →
        (run step start front).monitor.networkState = .normal → .dismiss ∉ back →
          (mode.banner = none ↔ mode.monitor.networkState = .normal) := by
  have tracks := tracks_run undisturbed
  rw [ran] at tracks
  have now : mode.drained = mode.banner := by rw [drained, delivered]; rfl
  have stands := tracks.settled announced
  rw [now] at stands
  refine ⟨stands, fun front back split normal kept => ⟨fun gone => ?_, fun normal => ?_⟩⟩
  · rw [split] at undisturbed
    rcases (along_append _ _ _).mp undisturbed with ⟨before, after⟩
    have shown := shown_run (tracks_run before) (fun _ _ => normal) after kept
    rw [← run_append, ← split, ran] at shown
    exact shown announced (now.trans gone)
  · cases shown : mode.banner with
    | none => rfl
    | some text =>
        have wrong := stands text shown
        rw [normal] at wrong
        exact wrong.elim

end EmergencyMode

namespace Sample

def darkIfaces : IfAddrs := .ok [.v4 ⟨127, 0, 0, 1⟩ ⟨255, 0, 0, 0⟩]

def routerIfaces : IfAddrs :=
  .ok [.v4 ⟨127, 0, 0, 1⟩ ⟨255, 0, 0, 0⟩, .v4 ⟨192, 168, 1, 7⟩ ⟨255, 255, 255, 0⟩]

def blackout : List EmergencyInput :=
  [.pass darkIfaces darkIfaces, .deliver, .dismiss, .pass routerIfaces routerIfaces, .deliver,
    .activated, .emit 0, .reply 0, .deliver]

theorem blackout_undisturbed :
    Along EmergencyMode.step EmergencyMode.Undisturbed .start blackout :=
  ⟨rfl, trivial, trivial, rfl, trivial, rfl, trivial, fun _ _ => rfl, trivial, trivial⟩

/-- The dismissed banner is back for the hotspot. -/
theorem banner_tracks_blackout :
    (run EmergencyMode.step .start blackout).banner = none ↔
      (run EmergencyMode.step .start blackout).monitor.networkState = .normal :=
  (EmergencyMode.banner_tracks blackout blackout_undisturbed rfl rfl rfl).2
    [.pass darkIfaces darkIfaces, .deliver, .dismiss, .pass routerIfaces routerIfaces]
    [.deliver, .activated, .emit 0, .reply 0, .deliver] rfl rfl (by decide)

/-- A pass of the monitor between the state and the event of an activation leaves its banner up in a
normal network. -/
example :
    let mode := run EmergencyMode.step .start
      [.activated, .pass routerIfaces routerIfaces, .emit 0, .deliver, .deliver]
    mode.monitor.networkState = .normal ∧ mode.banner.isSome = true ∧ mode.pending = [] ∧
      mode.events = [] := ⟨rfl, rfl, rfl, rfl⟩

end Sample

end Caraka
