import RelayFirmware.Airtag.Advertisement
import RelayFirmware.Http.EventHandler

/-!
The running firmware (`main.c`) as one labelled transition system: the tasks
`http_client_task` and `ble_adv_task`, the tag store under `airtag_mutex`, the
semaphore `ble_sem`, and the radio driver answering GAP commands.  `step` is
`none` when the label cannot happen; an `abort` ends the run.  What a task does
under a lock it holds is one step.
-/

namespace RelayFirmware

/-- The build configuration and the base64 decoder the firmware links. -/
structure Config where
  NUM_TAGS : Nat  -- the length of `airtag_list` and the parser's `maxlen`
  HTTP_BUFFER_SIZE : Nat
  decoder : Base64Decoder
  numTags_pos : 0 < NUM_TAGS  -- `airtag_list[NUM_TAGS]` is a C array
  -- `http_buffer[HTTP_BUFFER_SIZE + 1]` fits the 32-bit address space.
  httpBufferSize_lt : HTTP_BUFFER_SIZE < 2 ^ 32

inductive Task
  | http
  | ble
  deriving DecidableEq, Repr

/-- Where `http_client_task` is in its loop (main.c:249-280). -/
inductive HttpPc
  | perform  -- in `esp_http_client_perform`, whose events reach `http_event_handler`
  | take  -- `xSemaphoreTake(airtag_mutex)`
  | parse  -- `json_read_array` and the logging loop, under the mutex
  | give  -- `xSemaphoreGive(airtag_mutex)`
  | delay  -- `vTaskDelay(RELAY_DOWNLOAD_INTERVAL)`
  deriving DecidableEq, Repr

/-- Where `ble_adv_task` is in its loop (main.c:298-342). -/
inductive BlePc
  | check  -- `if (airtag_count <= 0)`, read without the mutex
  | idle  -- `vTaskDelay(1000)` while no tag is stored
  | take  -- `xSemaphoreTake(airtag_mutex)`
  | locked  -- `assert(index < airtag_count)`, `airtag_to_ble_advertisement`, the index update
  | giveSkip  -- `xSemaphoreGive(airtag_mutex)` before `continue`
  | give  -- `xSemaphoreGive(airtag_mutex)` after the index update
  | setRandAddr  -- `esp_ble_gap_set_rand_addr`
  | waitRandAddr
  | configAdvDataRaw  -- `esp_ble_gap_config_adv_data_raw`
  | waitAdvDataRaw
  | startAdvertising  -- `esp_ble_gap_start_advertising`
  | waitStart
  | dwell  -- `vTaskDelay(BLE_ADVERTISEMENT_DURATION)`
  | stopAdvertising  -- `esp_ble_gap_stop_advertising`
  | waitStop
  deriving DecidableEq, Repr

inductive GapCommand
  | setRandAddr
  | configAdvDataRaw
  | startAdvertising
  | stopAdvertising
  deriving DecidableEq, Repr

def GapCommand.next : GapCommand → GapCommand
  | .setRandAddr => .configAdvDataRaw
  | .configAdvDataRaw => .startAdvertising
  | .startAdvertising => .stopAdvertising
  | .stopAdvertising => .setRandAddr

/-- The GAP callback events; `other` is any event of the handler's `default`. -/
inductive GapEvent
  | setStaticRandAddr  -- `ESP_GAP_BLE_SET_STATIC_RAND_ADDR_EVT`
  | advDataRawSetComplete  -- `ESP_GAP_BLE_ADV_DATA_RAW_SET_COMPLETE_EVT`
  | advStartComplete  -- `ESP_GAP_BLE_ADV_START_COMPLETE_EVT`
  | advStopComplete  -- `ESP_GAP_BLE_ADV_STOP_COMPLETE_EVT`
  | other
  deriving DecidableEq, Repr

inductive BtStatus
  | success  -- `ESP_BT_STATUS_SUCCESS`
  | failure
  deriving DecidableEq, Repr

/-- Why a run ended. -/
inductive Abort
  | assertIndex  -- `assert(index < airtag_count)` failed (main.c:312)
  | outOfBounds  -- `airtag_list[index]` outside the array (main.c:314)
  | espErrorCheck (command : GapCommand)  -- `ESP_ERROR_CHECK` on a GAP call that returned an error
  | httpBufferOverflow  -- a `memcpy` of `http_event_handler` outside its arrays
  deriving DecidableEq, Repr

/-- The firmware's state after `app_main` has started both tasks. -/
structure Firmware (cfg : Config) where
  airtagList : Fin cfg.NUM_TAGS → Airtag
  airtagCount : Int
  mutex : Option Task  -- the task holding `airtag_mutex`
  bleSem : Nat  -- the count of `ble_sem`
  http : HttpPc
  httpBuffer : HttpBuffer cfg.HTTP_BUFFER_SIZE
  ble : BlePc
  index : Int  -- `ble_adv_task`'s locals `index`, `addr` and `payload`
  addr : Bytes ADDR_LEN
  payload : Bytes PAYLOAD_LEN
  pending : List GapCommand  -- the commands the radio accepted and has not answered yet
  aborted : Option Abort

/-- After `app_main`: zeroed store, free mutex, empty semaphore. -/
def Firmware.initial (cfg : Config) : Firmware cfg where
  airtagList := fun _ => Airtag.empty
  airtagCount := 0
  mutex := none
  bleSem := 0
  http := .perform
  httpBuffer := HttpBuffer.initial
  ble := .check
  index := 0
  addr := Bytes.zero
  payload := Bytes.zero
  pending := []
  aborted := none

/-- `xSemaphoreGive` on the binary semaphore `ble_sem`: a second give is lost. -/
def semGive (count : Nat) : Nat := if count = 0 then 1 else count

/-- `ble_gap_event_handler` (main.c:193); the event's status is not read. -/
def bleGapEventHandler (event : GapEvent) (_param : BtStatus) (bleSem : Nat) : Nat :=
  match event with
  | .other => bleSem
  | _ => semGive bleSem

theorem bleGapEventHandler_completion {event : GapEvent} (completion : event ≠ .other)
    (status : BtStatus) (bleSem : Nat) : bleGapEventHandler event status bleSem = semGive bleSem := by
  cases event <;> simp_all [bleGapEventHandler]

def release (mutex : Option Task) (task : Task) : Option Task :=
  if mutex = some task then none else mutex

/-- A label of the transition system. -/
inductive Label (cfg : Config)
  -- the HTTP client calls `http_event_handler` inside `esp_http_client_perform`
  | httpEvent (event : HttpEvent)
  | httpReturn  -- `esp_http_client_perform` returns
  | httpStep  -- `http_client_task` takes or gives the mutex, or waits
  -- `json_read_array` rewrites `airtag_list` and sets `airtag_count`
  | httpParse (list : Fin cfg.NUM_TAGS → Airtag) (count : Int)
  -- `ble_adv_task` moves; a GAP call it makes returns `ESP_OK` when `callOk`
  | bleStep (callOk : Bool)
  -- the radio driver invokes `ble_gap_event_handler`
  | gapEvent (event : GapEvent) (status : BtStatus)

variable {cfg : Config}

/-- The moves of `http_client_task` other than the parse. -/
def httpClientTaskStep (s : Firmware cfg) : Option (Firmware cfg) :=
  match s.http with
  | .take => if s.mutex = none then some { s with mutex := some .http, http := .parse } else none
  | .give => some { s with mutex := release s.mutex .http, http := .delay }
  | .delay => some { s with http := .perform }
  | _ => none

/-- A GAP call of `ble_adv_task` under `ESP_ERROR_CHECK`. -/
def issue (s : Firmware cfg) (callOk : Bool) (command : GapCommand) (next : BlePc) :
    Option (Firmware cfg) :=
  if callOk then some { s with pending := s.pending ++ [command], ble := next }
  else some { s with aborted := some (.espErrorCheck command) }

def awaitSem (s : Firmware cfg) (next : BlePc) : Option (Firmware cfg) :=
  if 0 < s.bleSem then some { s with bleSem := s.bleSem - 1, ble := next } else none

/-- Lines 312-322 under the mutex; C's `%` truncates (`Int.tmod`). -/
def selectTag (s : Firmware cfg) : Option (Firmware cfg) :=
  if ¬ s.index < s.airtagCount then some { s with aborted := some .assertIndex }
  else if inArray : 0 ≤ s.index ∧ s.index < cfg.NUM_TAGS then
    match airtagToBleAdvertisement cfg.decoder (s.airtagList ⟨s.index.toNat, by omega⟩)
        s.addr s.payload with
    | (.SUCCESS, addr, payload) =>
        some { s with
          index := Int.tmod (s.index + 1) s.airtagCount
          addr := addr
          payload := payload
          ble := .give }
    | (.FAILURE, addr, payload) => some { s with addr := addr, payload := payload, ble := .giveSkip }
  else some { s with aborted := some .outOfBounds }

/-- The moves of `ble_adv_task` (main.c:298-342). -/
def bleAdvTaskStep (s : Firmware cfg) (callOk : Bool) : Option (Firmware cfg) :=
  match s.ble with
  | .check =>
      if s.airtagCount ≤ 0 then some { s with ble := .idle }
      else some { s with ble := .take, addr := Bytes.zero, payload := Bytes.zero }
  | .idle => some { s with ble := .check }
  | .take => if s.mutex = none then some { s with mutex := some .ble, ble := .locked } else none
  | .locked => selectTag s
  | .giveSkip => some { s with mutex := release s.mutex .ble, ble := .check }
  | .give => some { s with mutex := release s.mutex .ble, ble := .setRandAddr }
  | .setRandAddr => issue s callOk .setRandAddr .waitRandAddr
  | .waitRandAddr => awaitSem s .configAdvDataRaw
  | .configAdvDataRaw => issue s callOk .configAdvDataRaw .waitAdvDataRaw
  | .waitAdvDataRaw => awaitSem s .startAdvertising
  | .startAdvertising => issue s callOk .startAdvertising .waitStart
  | .waitStart => awaitSem s .dwell
  | .dwell => some { s with ble := .stopAdvertising }
  | .stopAdvertising => issue s callOk .stopAdvertising .waitStop
  | .waitStop => awaitSem s .check

/-- The radio driver answers the oldest command not yet answered. -/
def gapStep (s : Firmware cfg) (event : GapEvent) (status : BtStatus) : Option (Firmware cfg) :=
  if event = .other then some s
  else match s.pending with
    | [] => none
    | _ :: rest => some { s with pending := rest, bleSem := bleGapEventHandler event status s.bleSem }

/-- One transition. -/
def step (s : Firmware cfg) (label : Label cfg) : Option (Firmware cfg) :=
  if s.aborted.isSome then none
  else match label with
    | .httpEvent event =>
        if s.http = .perform then
          match httpEventHandler s.httpBuffer event with
          | some (_, buffer) => some { s with httpBuffer := buffer }
          | none => some { s with aborted := some .httpBufferOverflow }
        else none
    | .httpReturn => if s.http = .perform then some { s with http := .take } else none
    | .httpStep => httpClientTaskStep s
    | .httpParse list count =>
        if s.http = .parse ∧ 0 ≤ count ∧ count ≤ cfg.NUM_TAGS then
          some { s with airtagList := list, airtagCount := count, http := .give }
        else none
    | .bleStep callOk => bleAdvTaskStep s callOk
    | .gapEvent event status => gapStep s event status

def run (s : Firmware cfg) : List (Label cfg) → Option (Firmware cfg)
  | [] => some s
  | label :: rest => (step s label).bind fun next => run next rest

def Reachable (s : Firmware cfg) : Prop :=
  ∃ labels, run (Firmware.initial cfg) labels = some s

theorem gapEvent_cases {s s' : Firmware cfg} {event : GapEvent} {status : BtStatus}
    (stepped : step s (.gapEvent event status) = some s') :
    (event = .other ∧ s' = s) ∨
      event ≠ .other ∧ ∃ command rest, s.pending = command :: rest ∧
        s' = { s with pending := rest, bleSem := semGive s.bleSem } := by
  simp only [step, gapStep] at stepped
  split at stepped
  · cases stepped
  split at stepped
  · next other => exact .inl ⟨other, (Option.some.inj stepped).symm⟩
  · next completion =>
      split at stepped
      · cases stepped
      · next command rest pending =>
          obtain rfl := Option.some.inj stepped
          exact .inr ⟨completion, command, rest, pending,
            by rw [bleGapEventHandler_completion completion]⟩

theorem httpParse_cases {s s' : Firmware cfg} {list : Fin cfg.NUM_TAGS → Airtag} {count : Int}
    (stepped : step s (.httpParse list count) = some s') :
    s.http = .parse ∧ 0 ≤ count ∧ count ≤ cfg.NUM_TAGS ∧
      s' = { s with airtagList := list, airtagCount := count, http := .give } := by
  simp only [step] at stepped
  split at stepped
  · cases stepped
  split at stepped
  · next parsed => exact ⟨parsed.1, parsed.2.1, parsed.2.2, (Option.some.inj stepped).symm⟩
  · cases stepped

/-- Outside its critical section `ble_adv_task` leaves the store, `index` and the buffer alone. -/
theorem bleAdvTaskStep_frame {s s' : Firmware cfg} {callOk : Bool}
    (stepped : bleAdvTaskStep s callOk = some s') (outside : s.ble ≠ .locked) :
    s'.airtagList = s.airtagList ∧ s'.airtagCount = s.airtagCount ∧ s'.index = s.index ∧
      s'.httpBuffer = s.httpBuffer ∧ (s.ble ≠ .check → s'.addr = s.addr ∧ s'.payload = s.payload) ∧
      (s'.aborted = s.aborted ∨ ∃ command, s'.aborted = some (.espErrorCheck command)) := by
  cases pc : s.ble <;> simp only [bleAdvTaskStep, pc] at stepped
  case locked => exact absurd pc outside
  case check =>
    split at stepped <;> obtain rfl := Option.some.inj stepped <;>
      exact ⟨rfl, rfl, rfl, rfl, fun unchecked => absurd rfl unchecked, .inl rfl⟩
  all_goals
    try simp only [issue, awaitSem] at stepped
    (try split_ifs at stepped) <;> cases stepped <;>
      first
      | exact ⟨rfl, rfl, rfl, rfl, fun _ => ⟨rfl, rfl⟩, .inl rfl⟩
      | exact ⟨rfl, rfl, rfl, rfl, fun _ => ⟨rfl, rfl⟩, .inr ⟨_, rfl⟩⟩

theorem run_append (s : Firmware cfg) (first second : List (Label cfg)) :
    run s (first ++ second) = (run s first).bind fun next => run next second := by
  induction first generalizing s with
  | nil => rfl
  | cons label rest inductionHypothesis =>
      simp only [List.cons_append, run]
      cases step s label <;> simp [inductionHypothesis]

theorem run_preserves {P : Firmware cfg → Prop} {allowed : Label cfg → Prop}
    (preserved : ∀ {s s' : Firmware cfg} {label : Label cfg},
      allowed label → P s → step s label = some s' → P s') :
    ∀ {s s' : Firmware cfg} {labels : List (Label cfg)},
      (∀ label ∈ labels, allowed label) → P s → run s labels = some s' → P s'
  | _, _, [], _, holds, reached => (Option.some.inj reached) ▸ holds
  | s, _, label :: rest, allowedAll, holds, reached => by
      simp only [run] at reached
      cases stepped : step s label with
      | none => simp [stepped] at reached
      | some next =>
          rw [stepped, Option.some_bind] at reached
          exact run_preserves preserved (fun l member => allowedAll l (List.mem_cons_of_mem _ member))
            (preserved (allowedAll label (List.mem_cons_self _ _)) holds stepped) reached

theorem Reachable.run {s s' : Firmware cfg} {labels : List (Label cfg)} (reachable : Reachable s)
    (reached : run s labels = some s') : Reachable s' := by
  obtain ⟨earlier, start⟩ := reachable
  exact ⟨earlier ++ labels, by rw [run_append, start, Option.some_bind, reached]⟩

/-- One pass of `http_client_task` in which `json_read_array` stores `list` and `count`. -/
def download (list : Fin cfg.NUM_TAGS → Airtag) (count : Int) : List (Label cfg) :=
  [.httpReturn, .httpStep, .httpParse list count, .httpStep]

theorem run_download {s : Firmware cfg} {list : Fin cfg.NUM_TAGS → Airtag} {count : Int}
    (running : s.aborted = none) (fetching : s.http = .perform) (free : s.mutex = none)
    (counted : 0 ≤ count ∧ count ≤ cfg.NUM_TAGS) :
    run s (download list count) =
      some { s with airtagList := list, airtagCount := count, http := .delay } := by
  simp [download, run, step, httpClientTaskStep, running, fetching, free, counted, release]

def benchConfig : Config where
  NUM_TAGS := 2
  HTTP_BUFFER_SIZE := 8
  decoder := strictDecoder
  numTags_pos := by decide
  httpBufferSize_lt := by decide

end RelayFirmware
