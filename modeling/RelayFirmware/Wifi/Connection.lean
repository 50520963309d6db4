import Mathlib.Data.List.Basic
import RelayFirmware.Wifi.EventHandler

/-!
`app_main` (main.c:355-439) with `wifi_event_handler` answering the Wi-Fi
driver.  `StaState.post` is the contract taken for the library driver's events;
the build keeps assertions, so a failed `ESP_ERROR_CHECK` aborts.
-/

namespace RelayFirmware

/-- The station as the driver keeps it. -/
inductive StaState
  | stopped  -- before `esp_wifi_start`
  | starting  -- started; `WIFI_EVENT_STA_START` not yet posted
  | idle  -- started, neither connected nor connecting
  | connecting  -- an attempt started by `esp_wifi_connect` is under way
  | associated  -- associated with the access point, without an address yet
  | online  -- connected, with an address
  deriving DecidableEq, Repr

/-- The events the driver may post in each state, and its state after. -/
def StaState.post : StaState → WifiEvent → Option StaState
  | .starting, .staStart => some .idle
  | .connecting, .staConnected => some .associated
  | .connecting, .staDisconnected => some .idle
  | .associated, .gotIp => some .online
  | .associated, .staDisconnected => some .idle
  | .online, .gotIp => some .online
  | .online, .staDisconnected => some .idle
  | .idle, .other => some .idle
  | .connecting, .other => some .connecting
  | .associated, .other => some .associated
  | .online, .other => some .online
  | _, _ => none

def StaState.connect : StaState → StaState
  | .idle => .connecting
  | sta => sta

def StaState.linked : StaState → Bool
  | .connecting | .associated | .online => true
  | _ => false

theorem StaState.post_disconnected {sta : StaState} (linked : sta.linked) :
    sta.post .staDisconnected = some .idle := by
  cases sta <;> simp_all [StaState.linked, StaState.post]

theorem StaState.post_online {sta : StaState} {event : WifiEvent}
    (posted : sta.post event = some .online) : event = .gotIp ∨ event = .other ∧ sta = .online := by
  cases sta <;> cases event <;> simp_all [StaState.post]

theorem StaState.post_ne_stopped {sta sta' : StaState} {event : WifiEvent}
    (posted : sta.post event = some sta') : sta ≠ .stopped := by
  rintro rfl
  cases event <;> simp [StaState.post] at posted

theorem StaState.post_starting {event : WifiEvent} {sta : StaState}
    (posted : StaState.starting.post event = some sta) : event = .staStart ∧ sta = .idle := by
  cases event <;> simp_all [StaState.post]

theorem StaState.connect_online {sta : StaState} (online : sta.connect = .online) : sta = .online := by
  cases sta <;> simp_all [StaState.connect]

theorem StaState.post_idle {event : WifiEvent} {sta : StaState}
    (posted : StaState.idle.post event = some sta) : event = .other ∧ sta = .idle := by
  cases event <;> simp_all [StaState.post]

/-- Where `app_main` is. -/
inductive AppPc
  | init  -- `esp_netif_init`, `esp_wifi_init`, `esp_wifi_set_storage` (main.c:359-364)
  | createGroup  -- `wifi_event_group = xEventGroupCreate()`, not checked for NULL (main.c:367)
  -- the event loop, the handlers, the station's configuration, `esp_wifi_start` (main.c:368-395)
  | startDriver
  | waiting  -- in `xEventGroupWaitBits` (main.c:398)
  | bleSetup  -- the BLE controller and Bluedroid setup (main.c:412-421)
  | createSem  -- `ble_sem = xSemaphoreCreateBinary()` (main.c:424)
  | createMutex  -- `airtag_mutex = xSemaphoreCreateMutex()` (main.c:428)
  | running  -- both tasks created (main.c:434-438)
  | restarted  -- `esp_restart` or `abort` was called
  deriving DecidableEq, Repr

def AppPc.booting : AppPc → Bool
  | .init | .createGroup | .startDriver => true
  | _ => false

/-- Past the wait, which returned with `WIFI_CONNECTED_BIT`. -/
def AppPc.pastWait : AppPc → Bool
  | .bleSetup | .createSem | .createMutex | .running => true
  | _ => false

/-- The Wi-Fi side of the firmware and the driver. -/
structure WifiSystem where
  app : AppPc
  sta : StaState
  eventGroup : Bool  -- `wifi_event_group != NULL`
  bits : Nat  -- the bits of `wifi_event_group`
  retryNum : Nat  -- the handler's `retry_num`
  deriving DecidableEq, Repr

namespace WifiSystem

def initial : WifiSystem := ⟨.init, .stopped, false, 0, 0⟩

def perform (s : WifiSystem) : WifiCall → WifiSystem
  | .connect => { s with sta := s.sta.connect }
  | .setBits bits => { s with bits := s.bits ||| bits }
  | .abort | .restart => { s with app := .restarted }

theorem perform_frame (calls : List WifiCall) :
    ∀ s : WifiSystem, (calls.foldl perform s).eventGroup = s.eventGroup ∧
      (calls.foldl perform s).retryNum = s.retryNum ∧
      ((calls.foldl perform s).sta = .online → s.sta = .online) ∧
      ((calls.foldl perform s).app = s.app ∨ (calls.foldl perform s).app = .restarted) := by
  induction calls with
  | nil => exact fun s => ⟨rfl, rfl, id, .inl rfl⟩
  | cons call rest ih =>
      intro s
      obtain ⟨group, retry, online, app⟩ := ih (s.perform call)
      refine ⟨group.trans ?_, retry.trans ?_, fun last => ?_, ?_⟩
      all_goals cases call <;>
        first | rfl | exact StaState.connect_online (online last) | exact online last |
          exact app | exact .inr (app.elim id id)

/-- A stage whose calls `app_main` checks: on success it goes on to `next`, else it calls `fail`. -/
def checked (s : WifiSystem) (ok : Bool) (fail : WifiCall) (next : WifiSystem) :
    Option (List WifiCall × WifiSystem) :=
  if ok then some ([], next) else some ([fail], s.perform fail)

end WifiSystem

/-- Who moves: `app_main`, or the driver posting an event to the handler. -/
inductive WifiLabel
  | app (ok : Bool)  -- `app_main` moves; what it creates or checks there succeeds when `ok`
  | event (event : WifiEvent)
  deriving DecidableEq, Repr

namespace WifiSystem

variable (WIFI_CONNECTION_RETRIES : Nat)

/-- One transition and the calls it makes; `none` when the label cannot happen. -/
def step (s : WifiSystem) : WifiLabel → Option (List WifiCall × WifiSystem)
  | .app ok =>
      match s.app with
      | .init => s.checked ok .abort { s with app := .createGroup }
      | .createGroup => some ([], { s with eventGroup := ok, app := .startDriver })
      | .startDriver => s.checked ok .abort { s with sta := .starting, app := .waiting }
      | .waiting =>
          if s.bits &&& (WIFI_CONNECTED_BIT ||| WIFI_FAIL_BIT) = 0 then none
          else if s.bits &&& WIFI_CONNECTED_BIT ≠ 0 then some ([], { s with app := .bleSetup })
          else if s.bits &&& WIFI_FAIL_BIT ≠ 0 then some ([.restart], { s with app := .restarted })
          else some ([.restart], { s with app := .restarted })
      | .bleSetup => s.checked ok .abort { s with app := .createSem }
      | .createSem => s.checked ok .restart { s with app := .createMutex }
      | .createMutex => s.checked ok .restart { s with app := .running }
      | .running | .restarted => none
  | .event event =>
      if s.app = .restarted then none
      else
        (s.sta.post event).map fun sta =>
          let answer := wifiEventHandler WIFI_CONNECTION_RETRIES s.eventGroup s.retryNum event
          (answer.1, answer.1.foldl perform { s with sta := sta, retryNum := answer.2 })

def run (s : WifiSystem) : List WifiLabel → Option (List WifiCall × WifiSystem)
  | [] => some ([], s)
  | label :: rest =>
      (s.step WIFI_CONNECTION_RETRIES label).bind fun stepped =>
        (stepped.2.run rest).map fun ran => (stepped.1 ++ ran.1, ran.2)

def Reachable (s : WifiSystem) : Prop :=
  ∃ labels calls, initial.run WIFI_CONNECTION_RETRIES labels = some (calls, s)

variable {WIFI_CONNECTION_RETRIES}

theorem run_cons {s next : WifiSystem} {label : WifiLabel} {calls : List WifiCall}
    (stepped : s.step WIFI_CONNECTION_RETRIES label = some (calls, next)) (rest : List WifiLabel) :
    s.run WIFI_CONNECTION_RETRIES (label :: rest) =
      (next.run WIFI_CONNECTION_RETRIES rest).map fun ran => (calls ++ ran.1, ran.2) := by
  simp [run, stepped]

theorem run_cons_some {s s' : WifiSystem} {label : WifiLabel} {rest : List WifiLabel}
    {calls : List WifiCall} (ran : s.run WIFI_CONNECTION_RETRIES (label :: rest) = some (calls, s')) :
    ∃ first next later, s.step WIFI_CONNECTION_RETRIES label = some (first, next) ∧
      next.run WIFI_CONNECTION_RETRIES rest = some (later, s') ∧ calls = first ++ later := by
  simp only [run, Option.bind_eq_some, Option.map_eq_some'] at ran
  obtain ⟨⟨first, next⟩, stepped, ⟨later, last⟩, ranRest, same⟩ := ran
  obtain ⟨rfl, rfl⟩ := Prod.mk.inj same
  exact ⟨first, next, later, stepped, ranRest, rfl⟩

theorem run_append (s : WifiSystem) (first later : List WifiLabel) :
    s.run WIFI_CONNECTION_RETRIES (first ++ later) =
      (s.run WIFI_CONNECTION_RETRIES first).bind fun ran =>
        (ran.2.run WIFI_CONNECTION_RETRIES later).map fun more => (ran.1 ++ more.1, more.2) := by
  induction first generalizing s with
  | nil => simp [run]
  | cons label rest ih =>
      cases stepped : s.step WIFI_CONNECTION_RETRIES label with
      | none => simp [run, stepped]
      | some result =>
          obtain ⟨calls, next⟩ := result
          rw [List.cons_append, run_cons stepped, run_cons stepped, ih]
          cases next.run WIFI_CONNECTION_RETRIES rest <;> simp [Function.comp_def]

theorem step_event {s s' : WifiSystem} {event : WifiEvent} {calls : List WifiCall}
    (stepped : s.step WIFI_CONNECTION_RETRIES (.event event) = some (calls, s')) :
    ∃ sta, s.sta.post event = some sta ∧ s.app ≠ .restarted ∧
      calls = (wifiEventHandler WIFI_CONNECTION_RETRIES s.eventGroup s.retryNum event).1 ∧
      s' = calls.foldl perform
        { s with sta := sta,
                 retryNum := (wifiEventHandler WIFI_CONNECTION_RETRIES s.eventGroup s.retryNum event).2 } := by
  simp only [step] at stepped
  split at stepped
  · cases stepped
  · obtain ⟨sta, posted, answered⟩ := Option.map_eq_some'.1 stepped
    obtain ⟨rfl, rfl⟩ := Prod.mk.inj answered
    exact ⟨sta, posted, ‹_›, rfl, rfl⟩

theorem no_bit_shows {bits : Nat} (unconnected : bits &&& WIFI_CONNECTED_BIT = 0)
    (unfailed : bits &&& WIFI_FAIL_BIT = 0) : bits &&& (WIFI_CONNECTED_BIT ||| WIFI_FAIL_BIT) = 0 := by
  rw [Nat.and_comm, Nat.and_distrib_right, Nat.and_comm, unconnected, Nat.and_comm, unfailed]
  rfl

theorem step_app_cases {s s' : WifiSystem} {ok : Bool} {calls : List WifiCall}
    (stepped : s.step WIFI_CONNECTION_RETRIES (.app ok) = some (calls, s')) :
    (calls = [] ∧
      (s.app = .createGroup ∧ s' = { s with eventGroup := ok, app := .startDriver } ∨
        s.app = .startDriver ∧ s' = { s with sta := .starting, app := .waiting } ∨
        s.app = .waiting ∧ s.bits &&& WIFI_CONNECTED_BIT ≠ 0 ∧ s' = { s with app := .bleSetup } ∨
        ∃ next, s' = { s with app := next } ∧
          (s.app = .init ∧ next = .createGroup ∨ s.app = .bleSetup ∧ next = .createSem ∨
            s.app = .createSem ∧ next = .createMutex ∨ s.app = .createMutex ∧ next = .running))) ∨
    (s' = { s with app := .restarted } ∧
      (calls = [.abort] ∨ calls = [.restart] ∧
        (s.app = .waiting ∧ s.bits &&& WIFI_CONNECTED_BIT = 0 ∧ s.bits &&& WIFI_FAIL_BIT ≠ 0 ∨
          (s.app = .createSem ∨ s.app = .createMutex) ∧ ok = false))) := by
  cases pc : s.app
  case waiting =>
    simp only [step, pc] at stepped
    split_ifs at stepped with masked connected failed <;>
      obtain ⟨rfl, rfl⟩ := Prod.mk.inj (Option.some.inj stepped)
    · exact .inl ⟨rfl, .inr (.inr (.inl ⟨rfl, connected, rfl⟩))⟩
    · exact .inr ⟨rfl, .inr ⟨rfl, .inl ⟨rfl, not_not.mp connected, failed⟩⟩⟩
    · exact absurd (no_bit_shows (not_not.mp connected) (not_not.mp failed)) masked
  case createGroup =>
    simp only [step, pc] at stepped
    obtain ⟨rfl, rfl⟩ := Prod.mk.inj (Option.some.inj stepped)
    exact .inl ⟨rfl, .inl ⟨rfl, rfl⟩⟩
  case running | restarted => simp [step, pc] at stepped
  all_goals
    cases ok <;> simp only [step, pc, checked, perform, Bool.false_eq_true, if_true, if_false] at stepped <;>
      obtain ⟨rfl, rfl⟩ := Prod.mk.inj (Option.some.inj stepped)
  case startDriver.true => exact .inl ⟨rfl, .inr (.inl ⟨rfl, rfl⟩)⟩
  case init.true => exact .inl ⟨rfl, .inr (.inr (.inr ⟨_, rfl, .inl ⟨rfl, rfl⟩⟩))⟩
  case bleSetup.true => exact .inl ⟨rfl, .inr (.inr (.inr ⟨_, rfl, .inr (.inl ⟨rfl, rfl⟩)⟩))⟩
  case createSem.true => exact .inl ⟨rfl, .inr (.inr (.inr ⟨_, rfl, .inr (.inr (.inl ⟨rfl, rfl⟩))⟩))⟩
  case createMutex.true => exact .inl ⟨rfl, .inr (.inr (.inr ⟨_, rfl, .inr (.inr (.inr ⟨rfl, rfl⟩))⟩))⟩
  case createSem.false => exact .inr ⟨rfl, .inr ⟨rfl, .inr ⟨.inl rfl, rfl⟩⟩⟩
  case createMutex.false => exact .inr ⟨rfl, .inr ⟨rfl, .inr ⟨.inr rfl, rfl⟩⟩⟩
  all_goals exact .inr ⟨rfl, .inl rfl⟩

theorem step_app_frame {s s' : WifiSystem} {ok : Bool} {calls : List WifiCall}
    (stepped : s.step WIFI_CONNECTION_RETRIES (.app ok) = some (calls, s')) :
    s'.retryNum = s.retryNum ∧ s'.bits = s.bits := by
  rcases step_app_cases stepped with ⟨-, ⟨-, rfl⟩ | ⟨-, rfl⟩ | ⟨-, -, rfl⟩ | ⟨_, rfl, -⟩⟩ | ⟨rfl, -⟩ <;>
    exact ⟨rfl, rfl⟩

/-! ### The bits of `wifi_event_group` -/

theorem fail_bit_shows (bits mask : Nat) (covers : mask.testBit 1 = true) :
    (bits ||| WIFI_FAIL_BIT) &&& mask ≠ 0 := by
  have set : ((bits ||| WIFI_FAIL_BIT) &&& mask).testBit 1 = true := by
    rw [Nat.testBit_and, Nat.testBit_or, covers, show WIFI_FAIL_BIT.testBit 1 = true by decide,
      Bool.or_true, Bool.and_true]
  intro cleared
  rw [cleared, Nat.zero_testBit] at set
  exact Bool.false_ne_true set

theorem fail_bit_keeps_connected (bits : Nat) :
    (bits ||| WIFI_FAIL_BIT) &&& WIFI_CONNECTED_BIT = bits &&& WIFI_CONNECTED_BIT := by
  rw [Nat.and_distrib_right, show WIFI_FAIL_BIT &&& WIFI_CONNECTED_BIT = 0 from rfl, Nat.or_zero]

theorem connected_bit_shows (bits : Nat) : (bits ||| WIFI_CONNECTED_BIT) &&& WIFI_CONNECTED_BIT ≠ 0 := by
  have set : ((bits ||| WIFI_CONNECTED_BIT) &&& WIFI_CONNECTED_BIT).testBit 0 = true := by
    rw [Nat.testBit_and, Nat.testBit_or, show WIFI_CONNECTED_BIT.testBit 0 = true by decide,
      Bool.or_true, Bool.and_true]
  intro cleared
  rw [cleared, Nat.zero_testBit] at set
  exact Bool.false_ne_true set

theorem connected_bit_keeps_fail (bits : Nat) :
    (bits ||| WIFI_CONNECTED_BIT) &&& WIFI_FAIL_BIT = bits &&& WIFI_FAIL_BIT := by
  rw [Nat.and_distrib_right, show WIFI_CONNECTED_BIT &&& WIFI_FAIL_BIT = 0 from rfl, Nat.or_zero]

theorem step_event_connected {s s' : WifiSystem} {event : WifiEvent} {calls : List WifiCall}
    (stepped : s.step WIFI_CONNECTION_RETRIES (.event event) = some (calls, s')) :
    (s'.bits &&& WIFI_CONNECTED_BIT ≠ 0 → s.bits &&& WIFI_CONNECTED_BIT ≠ 0 ∨ event = .gotIp) ∧
      (s.bits &&& WIFI_CONNECTED_BIT ≠ 0 → s'.bits &&& WIFI_CONNECTED_BIT ≠ 0) ∧
      (s'.app.pastWait → s.app.pastWait) := by
  obtain ⟨sta, -, -, rfl, rfl⟩ := step_event stepped
  cases group : s.eventGroup <;> cases event <;>
    simp only [wifiEventHandler, group, if_true, if_false, Bool.true_eq_false] <;>
    (try split_ifs) <;>
    simp [perform, AppPc.pastWait, fail_bit_keeps_connected, connected_bit_shows]

/-! ### What holds in every reachable state -/

variable (WIFI_CONNECTION_RETRIES) in
/-- The invariant of the Wi-Fi side. -/
structure Invariant (s : WifiSystem) : Prop where
  retry_le : s.retryNum ≤ WIFI_CONNECTION_RETRIES
  online_fresh : s.sta = .online → s.retryNum = 0
  booting : s.app.booting → s.sta = .stopped ∧ s.bits = 0
  -- with `wifi_event_group` NULL no bit is set and the driver has at most started
  uncreated : s.eventGroup = false →
    s.bits = 0 ∧ (s.app = .restarted ∨ s.sta = .stopped ∨ s.sta = .starting)
  past_connected : s.app.pastWait → s.bits &&& WIFI_CONNECTED_BIT ≠ 0

theorem initial_invariant : Invariant WIFI_CONNECTION_RETRIES initial :=
  ⟨Nat.zero_le _, fun _ => rfl, fun _ => ⟨rfl, rfl⟩, fun _ => ⟨rfl, .inr (.inl rfl)⟩,
    fun past => (by cases past)⟩

section Invariant

variable {s : WifiSystem} (inv : Invariant WIFI_CONNECTION_RETRIES s)
include inv

theorem Invariant.created_of_post {event : WifiEvent} {sta : StaState}
    (posted : s.sta.post event = some sta) (alive : s.app ≠ .restarted) :
    s.eventGroup = true ∨ s.eventGroup = false ∧ s.sta = .starting ∧ event = .staStart ∧ sta = .idle := by
  cases group : s.eventGroup
  · rcases (inv.uncreated group).2 with restarted | stopped | starting
    · exact absurd restarted alive
    · exact absurd stopped (StaState.post_ne_stopped posted)
    · rw [starting] at posted
      exact .inr ⟨rfl, starting, StaState.post_starting posted⟩
  · exact .inl rfl

theorem Invariant.created_of_linked (linked : s.sta.linked) (alive : s.app ≠ .restarted) :
    s.eventGroup = true := by
  cases group : s.eventGroup
  · rcases (inv.uncreated group).2 with restarted | down | down
    · exact absurd restarted alive
    all_goals rw [down] at linked; cases linked
  · rfl

theorem Invariant.move (alive : s.app ≠ .restarted) {pc : AppPc} (booting : pc.booting → s.app.booting)
    (past : pc.pastWait → s.bits &&& WIFI_CONNECTED_BIT ≠ 0) :
    Invariant WIFI_CONNECTION_RETRIES { s with app := pc } :=
  { inv with
    booting := fun moved => inv.booting (booting moved)
    uncreated := fun group => (inv.uncreated group).imp_right fun down => .inr (down.resolve_left alive)
    past_connected := past }

theorem Invariant.reboot : Invariant WIFI_CONNECTION_RETRIES { s with app := .restarted } :=
  { inv with
    booting := fun booting => (by cases booting)
    uncreated := fun group => ⟨(inv.uncreated group).1, .inl rfl⟩
    past_connected := fun past => (by cases past) }

theorem Invariant.app_next {ok : Bool} {s' : WifiSystem} {calls : List WifiCall}
    (stepped : s.step WIFI_CONNECTION_RETRIES (.app ok) = some (calls, s')) :
    Invariant WIFI_CONNECTION_RETRIES s' := by
  rcases step_app_cases stepped with ⟨-, moved⟩ | ⟨rfl, -⟩
  · rcases moved with ⟨pc, rfl⟩ | ⟨pc, rfl⟩ | ⟨pc, connected, rfl⟩ | ⟨next, rfl, pcs⟩
    · obtain ⟨stopped, zero⟩ := inv.booting (by rw [pc]; rfl)
      exact ⟨inv.retry_le, inv.online_fresh, fun _ => ⟨stopped, zero⟩,
        fun _ => ⟨zero, .inr (.inl stopped)⟩, fun past => (by cases past)⟩
    · exact ⟨inv.retry_le, fun online => (by cases online), fun booting => (by cases booting),
        fun group => ⟨(inv.uncreated group).1, .inr (.inr rfl)⟩, fun past => (by cases past)⟩
    · exact inv.move (by rw [pc]; decide) (fun booting => (by cases booting)) fun _ => connected
    · rcases pcs with ⟨pc, rfl⟩ | ⟨pc, rfl⟩ | ⟨pc, rfl⟩ | ⟨pc, rfl⟩
      · exact inv.move (by rw [pc]; decide) (fun _ => by rw [pc]; rfl) fun past => (by cases past)
      all_goals
        refine inv.move (by rw [pc]; decide) ?_ fun _ => inv.past_connected (by rw [pc]; rfl)
        exact fun booting => by cases booting
  · exact inv.reboot

theorem Invariant.event_next {event : WifiEvent} {s' : WifiSystem} {calls : List WifiCall}
    (stepped : s.step WIFI_CONNECTION_RETRIES (.event event) = some (calls, s')) :
    Invariant WIFI_CONNECTION_RETRIES s' := by
  have kept := step_event_connected stepped
  obtain ⟨sta, posted, alive, rfl, rfl⟩ := step_event stepped
  rcases inv.created_of_post posted alive with created | ⟨group, -, rfl, rfl⟩
  · obtain ⟨group, retry, online, app⟩ := perform_frame
      (wifiEventHandler WIFI_CONNECTION_RETRIES s.eventGroup s.retryNum event).1
      { s with sta := sta,
               retryNum := (wifiEventHandler WIFI_CONNECTION_RETRIES s.eventGroup s.retryNum event).2 }
    rw [created] at group retry online app kept ⊢
    refine ⟨retry ▸ (wifiEventHandler_created event).2 inv.retry_le, fun last => ?_,
      fun booting => ?_, fun unmade => absurd (group.symm.trans unmade) (by decide),
      fun past => kept.2.1 (inv.past_connected (kept.2.2 past))⟩
    · rw [retry]
      obtain rfl : sta = .online := online last
      rcases StaState.post_online posted with rfl | ⟨rfl, stayed⟩
      · rfl
      · exact inv.online_fresh stayed
    · rcases app with same | restarted
      · exact absurd (inv.booting (same ▸ booting)).1 (StaState.post_ne_stopped posted)
      · exact absurd (restarted ▸ booting) (by decide)
  · rw [group, wifiEventHandler_uncreated]
    exact ⟨inv.retry_le, fun online => (by cases online), fun booting => (by cases booting),
      fun _ => ⟨(inv.uncreated group).1, .inl rfl⟩, fun past => (by cases past)⟩

end Invariant

theorem Invariant.next {s s' : WifiSystem} {label : WifiLabel} {calls : List WifiCall}
    (inv : Invariant WIFI_CONNECTION_RETRIES s)
    (stepped : s.step WIFI_CONNECTION_RETRIES label = some (calls, s')) :
    Invariant WIFI_CONNECTION_RETRIES s' := by
  cases label with
  | app ok => exact inv.app_next stepped
  | event event => exact inv.event_next stepped

theorem Invariant.of_run {s s' : WifiSystem} (inv : Invariant WIFI_CONNECTION_RETRIES s) :
    ∀ {labels : List WifiLabel} {calls : List WifiCall},
      s.run WIFI_CONNECTION_RETRIES labels = some (calls, s') → Invariant WIFI_CONNECTION_RETRIES s'
  | [], _, ran => by
      obtain ⟨-, rfl⟩ := Prod.mk.inj (Option.some.inj ran)
      exact inv
  | _ :: _, _, ran => by
      obtain ⟨_, _, _, stepped, ranRest, -⟩ := run_cons_some ran
      exact (inv.next stepped).of_run ranRest

theorem Reachable.invariant {s : WifiSystem} (reachable : s.Reachable WIFI_CONNECTION_RETRIES) :
    Invariant WIFI_CONNECTION_RETRIES s := by
  obtain ⟨labels, calls, ran⟩ := reachable
  exact initial_invariant.of_run ran

/-! ### The handler's abort and the wait -/

def connectTrace : List WifiLabel :=
  [.app true, .app true, .app true, .event .staStart, .event .staConnected, .event .gotIp,
    .app true, .app true, .app true, .app true]

def connected : WifiSystem := ⟨.running, .online, true, WIFI_CONNECTED_BIT, 0⟩

theorem connected_reachable : connected.Reachable 2 :=
  ⟨connectTrace, [.connect, .setBits WIFI_CONNECTED_BIT], rfl⟩

/-- A disconnection at the wait that is not retried sets `WIFI_FAIL_BIT`, and `app_main`
restarts. -/
theorem waiting_gives_up_by_restart {s s' : WifiSystem} {calls : List WifiCall}
    (reachable : s.Reachable WIFI_CONNECTION_RETRIES) (waiting : s.app = .waiting)
    (unconnected : s.bits &&& WIFI_CONNECTED_BIT = 0)
    (stepped : s.step WIFI_CONNECTION_RETRIES (.event .staDisconnected) = some (calls, s'))
    (unanswered : WifiCall.connect ∉ calls) :
    calls = [.setBits WIFI_FAIL_BIT] ∧
      ∀ ok, s'.step WIFI_CONNECTION_RETRIES (.app ok) = some ([.restart], { s' with app := .restarted }) := by
  obtain ⟨sta, posted, alive, rfl, rfl⟩ := step_event stepped
  have created := (reachable.invariant.created_of_post posted alive).resolve_right
    fun ⟨_, _, disconnected, _⟩ => by cases disconnected
  rw [created, wifiEventHandler_disconnected] at unanswered ⊢
  split_ifs at unanswered ⊢ with below
  · simp at unanswered
  · refine ⟨rfl, fun ok => ?_⟩
    simp only [List.foldl, perform, step, waiting]
    rw [if_neg (fail_bit_shows _ _ (by decide)), fail_bit_keeps_connected, unconnected,
      if_neg (by decide), if_pos (fail_bit_shows _ _ (by decide))]

def firstAttempt : WifiSystem := ⟨.waiting, .connecting, true, 0, 0⟩

def firstAttemptFailed : WifiSystem := ⟨.waiting, .idle, true, WIFI_FAIL_BIT, 0⟩

theorem first_attempt_failure_restarts :
    (firstAttempt.Reachable 0 ∧ firstAttempt.app = .waiting ∧
      firstAttempt.bits &&& WIFI_CONNECTED_BIT = 0 ∧
      firstAttempt.step 0 (.event .staDisconnected) =
        some ([.setBits WIFI_FAIL_BIT], firstAttemptFailed) ∧
      WifiCall.connect ∉ [WifiCall.setBits WIFI_FAIL_BIT]) ∧
    [WifiCall.setBits WIFI_FAIL_BIT] = [.setBits WIFI_FAIL_BIT] ∧
      ∀ ok, firstAttemptFailed.step 0 (.app ok) =
        some ([.restart], { firstAttemptFailed with app := .restarted }) :=
  have reachable : firstAttempt.Reachable 0 :=
    ⟨[.app true, .app true, .app true, .event .staStart], [.connect], rfl⟩
  have stepped : firstAttempt.step 0 (.event .staDisconnected) =
      some ([.setBits WIFI_FAIL_BIT], firstAttemptFailed) := rfl
  have unanswered : WifiCall.connect ∉ [WifiCall.setBits WIFI_FAIL_BIT] := by decide
  ⟨⟨reachable, rfl, rfl, stepped, unanswered⟩,
    waiting_gives_up_by_restart reachable rfl rfl stepped unanswered⟩

/-! ### A lost link after the wait -/

section LostLink

variable {s : WifiSystem}

theorem step_disconnected_retry (alive : s.app ≠ .restarted) (created : s.eventGroup = true)
    (linked : s.sta.linked) (below : s.retryNum < WIFI_CONNECTION_RETRIES) :
    s.step WIFI_CONNECTION_RETRIES (.event .staDisconnected) =
      some ([.connect], { s with sta := .connecting, retryNum := s.retryNum + 1 }) := by
  simp [step, alive, StaState.post_disconnected linked, created, wifiEventHandler_disconnected, below,
    perform, StaState.connect]

theorem step_disconnected_give_up (alive : s.app ≠ .restarted) (created : s.eventGroup = true)
    (linked : s.sta.linked) (spent : WIFI_CONNECTION_RETRIES ≤ s.retryNum) :
    s.step WIFI_CONNECTION_RETRIES (.event .staDisconnected) =
      some ([.setBits WIFI_FAIL_BIT], { s with sta := .idle, bits := s.bits ||| WIFI_FAIL_BIT }) := by
  simp [step, alive, StaState.post_disconnected linked, created, wifiEventHandler_disconnected,
    Nat.not_lt.mpr spent, perform]

theorem run_retries :
    ∀ (n : Nat) (s : WifiSystem), s.app = .running → s.eventGroup = true → s.sta.linked →
      s.retryNum + n ≤ WIFI_CONNECTION_RETRIES →
      ∃ s', s.run WIFI_CONNECTION_RETRIES (List.replicate n (.event .staDisconnected)) =
          some (List.replicate n .connect, s') ∧
        s'.app = .running ∧ s'.eventGroup = true ∧ s'.sta.linked ∧ s'.retryNum = s.retryNum + n
  | 0, s, running, created, linked, _ => ⟨s, rfl, running, created, linked, rfl⟩
  | n + 1, s, running, created, linked, budget => by
      have stepped := @step_disconnected_retry WIFI_CONNECTION_RETRIES s (by simp [running]) created
        linked (by omega)
      obtain ⟨s', ran, running', created', linked', retried⟩ :=
        run_retries n { s with sta := .connecting, retryNum := s.retryNum + 1 } running created rfl
          (by show s.retryNum + 1 + n ≤ WIFI_CONNECTION_RETRIES; omega)
      refine ⟨s', ?_, running', created', linked', by simp only [retried]; omega⟩
      rw [List.replicate_succ, run_cons stepped, ran]
      rfl

theorem step_down (idle : s.sta = .idle) (running : s.app = .running) (created : s.eventGroup = true)
    {label : WifiLabel} {calls : List WifiCall} {next : WifiSystem}
    (stepped : s.step WIFI_CONNECTION_RETRIES label = some (calls, next)) : calls = [] ∧ next = s := by
  cases label with
  | app ok => simp [step, running] at stepped
  | event event =>
      obtain ⟨sta, posted, -, rfl, rfl⟩ := step_event stepped
      rw [idle] at posted
      obtain ⟨rfl, rfl⟩ := StaState.post_idle posted
      rw [created]
      refine ⟨rfl, ?_⟩
      cases s
      simp_all [wifiEventHandler]

theorem run_down (idle : s.sta = .idle) (running : s.app = .running) (created : s.eventGroup = true)
    (labels : List WifiLabel) :
    ∀ {calls : List WifiCall} {s' : WifiSystem},
      s.run WIFI_CONNECTION_RETRIES labels = some (calls, s') → calls = [] ∧ s' = s := by
  induction labels with
  | nil =>
      intro calls s' ran
      obtain ⟨rfl, rfl⟩ := Prod.mk.inj (Option.some.inj ran)
      exact ⟨rfl, rfl⟩
  | cons label rest ih =>
      intro calls s' ran
      obtain ⟨first, next, later, stepped, ranRest, rfl⟩ := run_cons_some ran
      obtain ⟨rfl, rfl⟩ := step_down idle running created stepped
      obtain ⟨rfl, rfl⟩ := ih ranRest
      exact ⟨rfl, rfl⟩

end LostLink

/-- A link lost after the wait, followed by `WIFI_CONNECTION_RETRIES` failed attempts, is never
restored: the firmware stays disconnected and never restarts. -/
theorem lost_link_is_never_restored {s : WifiSystem} (reachable : s.Reachable WIFI_CONNECTION_RETRIES)
    (running : s.app = .running) (online : s.sta = .online) :
    ∃ s', s.run WIFI_CONNECTION_RETRIES
          (List.replicate (WIFI_CONNECTION_RETRIES + 1) (.event .staDisconnected)) =
        some (List.replicate WIFI_CONNECTION_RETRIES .connect ++ [.setBits WIFI_FAIL_BIT], s') ∧
      s'.app = .running ∧ s'.sta = .idle ∧
      ∀ labels calls s'', s'.run WIFI_CONNECTION_RETRIES labels = some (calls, s'') →
        calls = [] ∧ s'' = s' := by
  have inv := reachable.invariant
  have created := inv.created_of_linked (by rw [online]; rfl) (by rw [running]; decide)
  have fresh := inv.online_fresh online
  obtain ⟨s₁, ran, running₁, created₁, linked₁, retried⟩ :=
    @run_retries WIFI_CONNECTION_RETRIES WIFI_CONNECTION_RETRIES s running created
      (by rw [online]; rfl) (by omega)
  have gaveUp := @step_disconnected_give_up WIFI_CONNECTION_RETRIES s₁ (by simp [running₁]) created₁
    linked₁ (by omega)
  let down : WifiSystem := { s₁ with sta := .idle, bits := s₁.bits ||| WIFI_FAIL_BIT }
  refine ⟨down, ?_, running₁, rfl,
    fun labels _ _ ran => @run_down WIFI_CONNECTION_RETRIES down rfl running₁ created₁ labels _ _ ran⟩
  rw [List.replicate_succ', run_append, ran, Option.some_bind, run_cons gaveUp]
  rfl

theorem connected_loses_link :
    (connected.Reachable 2 ∧ connected.app = .running ∧ connected.sta = .online) ∧
      ∃ s', connected.run 2 (List.replicate (2 + 1) (.event .staDisconnected)) =
          some (List.replicate 2 .connect ++ [.setBits WIFI_FAIL_BIT], s') ∧
        s'.app = .running ∧ s'.sta = .idle ∧
        ∀ labels calls s'', s'.run 2 labels = some (calls, s'') → calls = [] ∧ s'' = s' :=
  ⟨⟨connected_reachable, rfl, rfl⟩, lost_link_is_never_restored connected_reachable rfl rfl⟩

/-! ### The retry budget along a run -/

def wifiEvents : List WifiLabel → List WifiEvent
  | [] => []
  | .event event :: rest => event :: wifiEvents rest
  | .app _ :: rest => wifiEvents rest

theorem Invariant.run_retryNum {s s' : WifiSystem} (inv : Invariant WIFI_CONNECTION_RETRIES s)
    {count : Nat} (counted : s.retryNum = min WIFI_CONNECTION_RETRIES count) :
    ∀ {labels : List WifiLabel} {calls : List WifiCall},
      s.run WIFI_CONNECTION_RETRIES labels = some (calls, s') →
        s'.retryNum = min WIFI_CONNECTION_RETRIES ((wifiEvents labels).foldl disconnections count)
  | [], _, ran => by
      obtain ⟨-, rfl⟩ := Prod.mk.inj (Option.some.inj ran)
      exact counted
  | label :: _, _, ran => by
      obtain ⟨_, next, _, stepped, ranRest, -⟩ := run_cons_some ran
      cases label with
      | app =>
          have later := (inv.next stepped).run_retryNum
            (by rw [(step_app_frame stepped).1, counted]) ranRest
          exact later
      | event event =>
          obtain ⟨sta, posted, alive, -, answered⟩ := step_event stepped
          have recounted : next.retryNum = min WIFI_CONNECTION_RETRIES (disconnections count event) := by
            rw [answered, (perform_frame _ _).2.1]
            rcases inv.created_of_post posted alive with created | ⟨group, -, rfl, -⟩
            · rw [created, counted, wifiEventHandler_retryNum]
            · rw [group, wifiEventHandler_uncreated, counted]
              rfl
          have later := (inv.next stepped).run_retryNum recounted ranRest
          exact later

/-- `retry_num` is the number of disconnections since the last address, capped at
`WIFI_CONNECTION_RETRIES`. -/
theorem retries_count_disconnections_since_address {labels : List WifiLabel}
    {calls : List WifiCall} {s : WifiSystem}
    (ran : initial.run WIFI_CONNECTION_RETRIES labels = some (calls, s)) :
    s.retryNum = min WIFI_CONNECTION_RETRIES ((wifiEvents labels).foldl disconnections 0) ∧
      ∀ calls' s', s.step WIFI_CONNECTION_RETRIES (.event .staDisconnected) = some (calls', s') →
        calls' = if (wifiEvents labels).foldl disconnections 0 < WIFI_CONNECTION_RETRIES
          then [.connect] else [.setBits WIFI_FAIL_BIT] := by
  have counted := initial_invariant.run_retryNum (Nat.min_zero _).symm ran
  refine ⟨counted, fun calls' s' stepped => ?_⟩
  obtain ⟨sta, posted, alive, rfl, -⟩ := step_event stepped
  rw [((initial_invariant.of_run ran).created_of_post posted alive).resolve_right
      (fun ⟨_, _, disconnected, _⟩ => by cases disconnected),
    wifiEventHandler_disconnected, counted]
  split_ifs <;> first | rfl | omega

def reconnectTrace : List WifiLabel :=
  [.app true, .app true, .app true, .event .staStart, .event .staDisconnected, .event .staConnected,
    .event .gotIp, .app true, .app true, .app true, .app true, .event .staDisconnected]

def reconnecting : WifiSystem := ⟨.running, .connecting, true, WIFI_CONNECTED_BIT, 1⟩

theorem reconnecting_retries_count :
    initial.run 2 reconnectTrace =
        some ([.connect, .connect, .setBits WIFI_CONNECTED_BIT, .connect], reconnecting) ∧
      reconnecting.retryNum = min 2 ((wifiEvents reconnectTrace).foldl disconnections 0) ∧
      ∀ calls' s', reconnecting.step 2 (.event .staDisconnected) = some (calls', s') →
        calls' = if (wifiEvents reconnectTrace).foldl disconnections 0 < 2
          then [.connect] else [.setBits WIFI_FAIL_BIT] :=
  have ran : initial.run 2 reconnectTrace =
      some ([.connect, .connect, .setBits WIFI_CONNECTED_BIT, .connect], reconnecting) := rfl
  ⟨ran, retries_count_disconnections_since_address ran⟩

/-! ### The tasks start only after an address -/

theorem run_connected {s s' : WifiSystem} (past : List WifiEvent)
    (holds : s.bits &&& WIFI_CONNECTED_BIT ≠ 0 → .gotIp ∈ past) :
    ∀ {labels : List WifiLabel} {calls : List WifiCall},
      s.run WIFI_CONNECTION_RETRIES labels = some (calls, s') →
        s'.bits &&& WIFI_CONNECTED_BIT ≠ 0 → .gotIp ∈ past ++ wifiEvents labels
  | [], _, ran => by
      obtain ⟨-, rfl⟩ := Prod.mk.inj (Option.some.inj ran)
      simpa [wifiEvents] using holds
  | label :: _, _, ran => by
      obtain ⟨_, next, _, stepped, ranRest, -⟩ := run_cons_some ran
      cases label with
      | app =>
          have later := run_connected past
            (fun set => holds ((step_app_frame stepped).2 ▸ set)) ranRest
          exact later
      | event event =>
          have later := run_connected (past ++ [event]) (fun set => by
            rcases (step_event_connected stepped).1 set with earlier | rfl
            · simp [holds earlier]
            · simp) ranRest
          simpa [wifiEvents] using later

/-- `app_main` passes its wait only after the station got an address. -/
theorem tasks_start_only_after_address {labels : List WifiLabel} {calls : List WifiCall}
    {s : WifiSystem} (ran : initial.run WIFI_CONNECTION_RETRIES labels = some (calls, s))
    (past : s.app.pastWait) :
    WifiEvent.gotIp ∈ wifiEvents labels ∧ s.bits &&& WIFI_CONNECTED_BIT ≠ 0 := by
  have connected := (initial_invariant.of_run ran).past_connected past
  exact ⟨run_connected [] (fun set => absurd rfl set) ran connected, connected⟩

theorem connected_started_after_address :
    (initial.run 2 connectTrace = some ([.connect, .setBits WIFI_CONNECTED_BIT], connected) ∧
      connected.app.pastWait) ∧
      WifiEvent.gotIp ∈ wifiEvents connectTrace ∧ connected.bits &&& WIFI_CONNECTED_BIT ≠ 0 :=
  have ran : initial.run 2 connectTrace = some ([.connect, .setBits WIFI_CONNECTED_BIT], connected) := rfl
  ⟨⟨ran, rfl⟩, tasks_start_only_after_address ran rfl⟩

/-! ### The reconnection budget -/

theorem step_app_connects {s s' : WifiSystem} {ok : Bool} {calls : List WifiCall}
    (stepped : s.step WIFI_CONNECTION_RETRIES (.app ok) = some (calls, s')) : calls.count .connect = 0 := by
  rcases step_app_cases stepped with ⟨rfl, -⟩ | ⟨-, rfl | ⟨rfl, -⟩⟩ <;> rfl

theorem Invariant.run_connects {s s' : WifiSystem} (inv : Invariant WIFI_CONNECTION_RETRIES s) :
    ∀ {labels : List WifiLabel} {calls : List WifiCall},
      s.run WIFI_CONNECTION_RETRIES labels = some (calls, s') →
        calls.count .connect + s.retryNum ≤ (wifiEvents labels).count .staStart +
          WIFI_CONNECTION_RETRIES * (wifiEvents labels).count .gotIp + s'.retryNum
  | [], _, ran => by
      obtain ⟨rfl, rfl⟩ := Prod.mk.inj (Option.some.inj ran)
      simp [wifiEvents]
  | label :: _, _, ran => by
      obtain ⟨first, next, later, stepped, ranRest, rfl⟩ := run_cons_some ran
      have rest := (inv.next stepped).run_connects ranRest
      cases label with
      | app =>
          rw [List.count_append, step_app_connects stepped, ← (step_app_frame stepped).1]
          simpa [wifiEvents] using rest
      | event event =>
          obtain ⟨sta, posted, -, rfl, answered⟩ := step_event stepped
          have spent := wifiEventHandler_connects s.eventGroup inv.retry_le event
          have retried : next.retryNum =
              (wifiEventHandler WIFI_CONNECTION_RETRIES s.eventGroup s.retryNum event).2 := by
            rw [answered, (perform_frame _ _).2.1]
          rw [retried] at rest
          rw [show wifiEvents (.event event :: _) = [event] ++ wifiEvents _ from rfl, List.count_append,
            List.count_append, List.count_append, Nat.mul_add]
          omega

/-- `esp_wifi_connect` is called once per start and at most `WIFI_CONNECTION_RETRIES` more times
around each address. -/
theorem reconnects_bounded_by_addresses {labels : List WifiLabel} {calls : List WifiCall}
    {s : WifiSystem} (ran : initial.run WIFI_CONNECTION_RETRIES labels = some (calls, s)) :
    calls.count .connect ≤ (wifiEvents labels).count .staStart +
      WIFI_CONNECTION_RETRIES * ((wifiEvents labels).count .gotIp + 1) := by
  have spent := initial_invariant.run_connects ran
  have within := (initial_invariant.of_run ran).retry_le
  rw [Nat.mul_add, Nat.mul_one]
  simp only [initial, Nat.add_zero] at spent
  omega

def failedTrace : List WifiLabel :=
  [.app true, .app true, .app true, .event .staStart, .event .staDisconnected,
    .event .staDisconnected, .event .staDisconnected]

def allRetriesFailed : WifiSystem := ⟨.waiting, .idle, true, WIFI_FAIL_BIT, 2⟩

theorem failed_reconnects_bounded :
    initial.run 2 failedTrace = some ([.connect, .connect, .connect, .setBits WIFI_FAIL_BIT], allRetriesFailed) ∧
      [WifiCall.connect, .connect, .connect, .setBits WIFI_FAIL_BIT].count .connect ≤
        (wifiEvents failedTrace).count .staStart + 2 * ((wifiEvents failedTrace).count .gotIp + 1) :=
  have ran : initial.run 2 failedTrace =
      some ([.connect, .connect, .connect, .setBits WIFI_FAIL_BIT], allRetriesFailed) := rfl
  ⟨ran, reconnects_bounded_by_addresses ran⟩

/-! ### When `app_main` restarts -/

theorem wifiEvents_cons (label : WifiLabel) (rest : List WifiLabel) :
    wifiEvents (label :: rest) = wifiEvents [label] ++ wifiEvents rest := by
  cases label <;> rfl

variable (WIFI_CONNECTION_RETRIES) in
/-- What the bits say about the events posted so far. -/
structure RestartAccount (s : WifiSystem) (events : List WifiEvent) : Prop where
  retry_le : s.retryNum ≤ events.count .staDisconnected
  failed : s.bits &&& WIFI_FAIL_BIT ≠ 0 → WIFI_CONNECTION_RETRIES + 1 ≤ events.count .staDisconnected
  addressed : .gotIp ∈ events → s.bits &&& WIFI_CONNECTED_BIT ≠ 0

theorem RestartAccount.initial : RestartAccount WIFI_CONNECTION_RETRIES initial [] :=
  ⟨le_refl _, fun set => absurd rfl set, fun member => absurd member (List.not_mem_nil _)⟩

theorem RestartAccount.next {s s' : WifiSystem} {events : List WifiEvent} {label : WifiLabel}
    {calls : List WifiCall} (inv : Invariant WIFI_CONNECTION_RETRIES s)
    (account : RestartAccount WIFI_CONNECTION_RETRIES s events)
    (stepped : s.step WIFI_CONNECTION_RETRIES label = some (calls, s')) :
    RestartAccount WIFI_CONNECTION_RETRIES s' (events ++ wifiEvents [label]) := by
  cases label with
  | app ok =>
      rw [show wifiEvents [.app ok] = [] from rfl, List.append_nil]
      obtain ⟨retry, bits⟩ := step_app_frame stepped
      exact ⟨retry ▸ account.retry_le, bits ▸ account.failed, bits ▸ account.addressed⟩
  | event event =>
      obtain ⟨sta, posted, alive, rfl, rfl⟩ := step_event stepped
      obtain ⟨retries, failed, addressed⟩ := account
      rcases inv.created_of_post posted alive with created | ⟨group, -, rfl, -⟩
      · rw [created]
        have within := inv.retry_le
        cases event <;> simp only [wifiEventHandler, Bool.true_eq_false, if_false, List.foldl, perform,
          wifiEvents]
        case staDisconnected =>
          have more : (events ++ [WifiEvent.staDisconnected]).count .staDisconnected =
              events.count .staDisconnected + 1 := by simp
          split_ifs with below
          · refine ⟨?_, fun set => ?_, fun member => addressed (by simpa using member)⟩ <;>
              simp only [List.foldl, perform, more]
            · omega
            · have := failed set
              omega
          · refine ⟨?_, fun _ => ?_, fun member => ?_⟩ <;> simp only [List.foldl, perform, more]
            · omega
            · omega
            · rw [fail_bit_keeps_connected]
              exact addressed (by simpa using member)
        case gotIp =>
          refine ⟨Nat.zero_le _, fun set => ?_, fun _ => connected_bit_shows _⟩
          have earlier := failed (by rwa [connected_bit_keeps_fail] at set)
          simpa using earlier
        all_goals exact ⟨by simpa using retries, fun set => by simpa using failed set,
          fun member => addressed (by simpa using member)⟩
      · rw [group, wifiEventHandler_uncreated]
        exact ⟨by simpa [wifiEvents, perform] using retries,
          fun set => by simpa [wifiEvents] using failed set,
          fun member => addressed (by simpa [wifiEvents] using member)⟩

theorem RestartAccount.run {s s' : WifiSystem} {events : List WifiEvent}
    (inv : Invariant WIFI_CONNECTION_RETRIES s) (account : RestartAccount WIFI_CONNECTION_RETRIES s events) :
    ∀ {labels : List WifiLabel} {calls : List WifiCall},
      s.run WIFI_CONNECTION_RETRIES labels = some (calls, s') →
        RestartAccount WIFI_CONNECTION_RETRIES s' (events ++ wifiEvents labels)
  | [], _, ran => by
      obtain ⟨-, rfl⟩ := Prod.mk.inj (Option.some.inj ran)
      simpa [wifiEvents] using account
  | label :: _, _, ran => by
      obtain ⟨_, _, _, stepped, ranRest, -⟩ := run_cons_some ran
      have later := (account.next inv stepped).run (inv.next stepped) ranRest
      rwa [List.append_assoc, ← wifiEvents_cons] at later

/-- Every `esp_restart` follows all retries failing at the wait, or a failed semaphore or mutex
creation after an address (main.c:424-431). -/
theorem restarts_after_failed_retries_or_in_setup {labels : List WifiLabel}
    {calls : List WifiCall} {s : WifiSystem}
    (ran : initial.run WIFI_CONNECTION_RETRIES labels = some (calls, s)) {label : WifiLabel}
    {calls' : List WifiCall} {s' : WifiSystem}
    (stepped : s.step WIFI_CONNECTION_RETRIES label = some (calls', s'))
    (restarting : WifiCall.restart ∈ calls') :
    (s.app = .waiting ∧ WifiEvent.gotIp ∉ wifiEvents labels ∧
        WIFI_CONNECTION_RETRIES + 1 ≤ (wifiEvents labels).count .staDisconnected) ∨
      ((s.app = .createSem ∨ s.app = .createMutex) ∧ label = .app false ∧
        WifiEvent.gotIp ∈ wifiEvents labels) := by
  cases label with
  | event event =>
      obtain ⟨-, -, -, rfl, -⟩ := step_event stepped
      exact absurd restarting (wifiEventHandler_no_restart _ _)
  | app ok =>
      rcases step_app_cases stepped with ⟨rfl, -⟩ | ⟨-, rfl | ⟨rfl, waiting | ⟨setup, rfl⟩⟩⟩
      · cases restarting
      · simp at restarting
      · obtain ⟨waiting, unconnected, failed⟩ := waiting
        have account := RestartAccount.initial.run initial_invariant ran
        rw [List.nil_append] at account
        exact .inl ⟨waiting, fun member => account.addressed member unconnected, account.failed failed⟩
      · have connected := (initial_invariant.of_run ran).past_connected
          (by rcases setup with pc | pc <;> rw [pc] <;> rfl)
        exact .inr ⟨setup, rfl, run_connected [] (fun set => absurd rfl set) ran connected⟩

theorem failed_restarts_after_retries :
    (initial.run 2 failedTrace =
        some ([.connect, .connect, .connect, .setBits WIFI_FAIL_BIT], allRetriesFailed) ∧
      allRetriesFailed.step 2 (.app true) = some ([.restart], { allRetriesFailed with app := .restarted }) ∧
      WifiCall.restart ∈ [WifiCall.restart]) ∧
    ((allRetriesFailed.app = .waiting ∧ WifiEvent.gotIp ∉ wifiEvents failedTrace ∧
        2 + 1 ≤ (wifiEvents failedTrace).count .staDisconnected) ∨
      ((allRetriesFailed.app = .createSem ∨ allRetriesFailed.app = .createMutex) ∧
        WifiLabel.app true = .app false ∧ WifiEvent.gotIp ∈ wifiEvents failedTrace)) :=
  have ran : initial.run 2 failedTrace =
      some ([.connect, .connect, .connect, .setBits WIFI_FAIL_BIT], allRetriesFailed) := rfl
  have stepped : allRetriesFailed.step 2 (.app true) =
      some ([.restart], { allRetriesFailed with app := .restarted }) := rfl
  ⟨⟨ran, stepped, List.mem_singleton_self _⟩,
    restarts_after_failed_retries_or_in_setup ran stepped (List.mem_singleton_self _)⟩

end WifiSystem

end RelayFirmware
