import RelayFirmware.Firmware.System

/-!
What holds in every reachable state of the firmware: the mutex is held exactly
inside a critical section, `ble_sem` and the radio follow the handshake,
`airtag_count` and `index` stay in range, and the download buffer keeps its
bounds.
-/

namespace RelayFirmware

/-! ### Program counters -/

def HttpPc.holdsMutex : HttpPc → Bool
  | .parse | .give => true
  | _ => false

/-- The points at which a task holds `airtag_mutex`. -/
def BlePc.holdsMutex : BlePc → Bool
  | .locked | .giveSkip | .give => true
  | _ => false

def HttpPc.suspends : HttpPc → Bool
  | .perform | .delay => true
  | _ => false

/-- Suspension points: delays, the HTTP transfer and the takes of `ble_sem`. -/
def BlePc.suspends : BlePc → Bool
  | .idle | .waitRandAddr | .waitAdvDataRaw | .waitStart | .dwell | .waitStop => true
  | _ => false

/-- The command whose completion the task waits for. -/
def BlePc.awaited : BlePc → Option GapCommand
  | .waitRandAddr => some .setRandAddr
  | .waitAdvDataRaw => some .configAdvDataRaw
  | .waitStart => some .startAdvertising
  | .waitStop => some .stopAdvertising
  | _ => none

def BlePc.issues : BlePc → Option GapCommand
  | .setRandAddr => some .setRandAddr
  | .configAdvDataRaw => some .configAdvDataRaw
  | .startAdvertising => some .startAdvertising
  | .stopAdvertising => some .stopAdvertising
  | _ => none

/-- The last command issued before this point; the cycle starts after a stop. -/
def BlePc.lastIssued : BlePc → GapCommand
  | .waitRandAddr | .configAdvDataRaw => .setRandAddr
  | .waitAdvDataRaw | .startAdvertising => .configAdvDataRaw
  | .waitStart | .dwell | .stopAdvertising => .startAdvertising
  | _ => .stopAdvertising

/-- While the task waits for a command, the radio owes it or its answer is in `ble_sem`. -/
def Handshake (pc : BlePc) (pending : List GapCommand) (bleSem : Nat) : Prop :=
  match pc.awaited with
  | some command => (pending = [command] ∧ bleSem = 0) ∨ (pending = [] ∧ bleSem = 1)
  | none => pending = [] ∧ bleSem = 0

theorem Handshake.outstanding_le {pc : BlePc} {pending : List GapCommand} {bleSem : Nat}
    (handshake : Handshake pc pending bleSem) : pending.length + bleSem ≤ 1 := by
  unfold Handshake at handshake
  split at handshake
  · rcases handshake with ⟨rfl, rfl⟩ | ⟨rfl, rfl⟩ <;> rfl
  · rw [handshake.1, handshake.2]
    decide

/-! ### The invariant -/

variable {cfg : Config}

/-- The invariant of every reachable state. -/
structure Invariant (s : Firmware cfg) : Prop where
  count_nonneg : 0 ≤ s.airtagCount
  count_le : s.airtagCount ≤ cfg.NUM_TAGS
  index_nonneg : 0 ≤ s.index
  index_lt : s.index < cfg.NUM_TAGS
  http_holds : s.mutex = some .http ↔ s.http.holdsMutex = true
  ble_holds : s.mutex = some .ble ↔ s.ble.holdsMutex = true
  handshake : Handshake s.ble s.pending s.bleSem
  buffer : s.httpBuffer.Inv
  -- no undefined behaviour ended the run
  defined : s.aborted ≠ some .outOfBounds ∧ s.aborted ≠ some .httpBufferOverflow

theorem initial_invariant : Invariant (Firmware.initial cfg) where
  count_nonneg := le_refl _
  count_le := Int.natCast_nonneg _
  index_nonneg := le_refl _
  index_lt := by have := cfg.numTags_pos; simp only [Firmware.initial]; omega
  http_holds := by simp [Firmware.initial, HttpPc.holdsMutex]
  ble_holds := by simp [Firmware.initial, BlePc.holdsMutex]
  handshake := ⟨rfl, rfl⟩
  buffer := HttpBuffer.initial_inv
  defined := by simp [Firmware.initial]

section Preservation

variable {s s' : Firmware cfg} (inv : Invariant s)
include inv

theorem Invariant.httpEvent {event : HttpEvent}
    (stepped : step s (.httpEvent event) = some s') : Invariant s' := by
  obtain ⟨result, handled, resultInv⟩ := httpEventHandler_inv inv.buffer event
  simp only [step, handled] at stepped
  split at stepped
  · simp at stepped
  · split at stepped
    · obtain rfl := Option.some.inj stepped
      exact { inv with buffer := resultInv }
    · cases stepped

theorem Invariant.httpReturn (stepped : step s .httpReturn = some s') : Invariant s' := by
  simp only [step] at stepped
  split at stepped
  · cases stepped
  · split at stepped
    · next perform =>
        obtain rfl := Option.some.inj stepped
        exact { inv with http_holds := by simpa [perform, HttpPc.holdsMutex] using inv.http_holds }
    · cases stepped

theorem Invariant.httpStep (stepped : step s .httpStep = some s') : Invariant s' := by
  simp only [step] at stepped
  split at stepped
  · cases stepped
  have http := inv.http_holds
  have ble := inv.ble_holds
  unfold httpClientTaskStep at stepped
  split at stepped
  · next pc =>
      split at stepped
      · next free =>
          obtain rfl := Option.some.inj stepped
          refine { inv with http_holds := by simp [HttpPc.holdsMutex], ble_holds := ?_ }
          simp only [free, reduceCtorEq, false_iff] at ble
          simp [ble]
      · cases stepped
  · next pc =>
      obtain rfl := Option.some.inj stepped
      have held : s.mutex = some .http := http.2 (by simp [pc, HttpPc.holdsMutex])
      refine { inv with http_holds := ?_, ble_holds := ?_ }
      · simp [release, held, HttpPc.holdsMutex]
      · simp only [held, Option.some.injEq, reduceCtorEq, false_iff] at ble
        simp [release, held, ble]
  · next pc =>
      obtain rfl := Option.some.inj stepped
      exact { inv with http_holds := by simpa [pc, HttpPc.holdsMutex] using http }
  · cases stepped

theorem Invariant.httpParse {list : Fin cfg.NUM_TAGS → Airtag} {count : Int}
    (stepped : step s (.httpParse list count) = some s') : Invariant s' := by
  simp only [step] at stepped
  split at stepped
  · cases stepped
  · split at stepped
    · next parsed =>
        obtain rfl := Option.some.inj stepped
        exact { inv with
          count_nonneg := parsed.2.1
          count_le := parsed.2.2
          http_holds := by simpa [parsed.1, HttpPc.holdsMutex] using inv.http_holds }
    · cases stepped

theorem Invariant.select (pc : s.ble = .locked) (stepped : selectTag s = some s') :
    Invariant s' := by
  unfold selectTag at stepped
  split at stepped
  · obtain rfl := Option.some.inj stepped
    exact { inv with defined := by simp }
  · next asserted =>
      have inArray : 0 ≤ s.index ∧ s.index < cfg.NUM_TAGS := ⟨inv.index_nonneg, inv.index_lt⟩
      have countPos : 0 < s.airtagCount := by have := inv.index_nonneg; omega
      rw [dif_pos inArray] at stepped
      split at stepped
      · obtain rfl := Option.some.inj stepped
        exact { inv with
          index_nonneg := Int.tmod_nonneg _ (by have := inv.index_nonneg; omega)
          index_lt := lt_of_lt_of_le (Int.tmod_lt_of_pos _ countPos) inv.count_le
          ble_holds := by simpa [pc, BlePc.holdsMutex] using inv.ble_holds
          handshake := by simpa [pc, Handshake, BlePc.awaited] using inv.handshake }
      · obtain rfl := Option.some.inj stepped
        exact { inv with
          ble_holds := by simpa [pc, BlePc.holdsMutex] using inv.ble_holds
          handshake := by simpa [pc, Handshake, BlePc.awaited] using inv.handshake }

theorem Invariant.issued {callOk : Bool} {command : GapCommand} {next : BlePc}
    (stepped : issue s callOk command next = some s') (ready : s.ble.awaited = none)
    (outside : s.ble.holdsMutex = false)
    (awaits : next.awaited = some command) (free : next.holdsMutex = false) : Invariant s' := by
  have idle : s.pending = [] ∧ s.bleSem = 0 := by
    simpa [Handshake, ready] using inv.handshake
  unfold issue at stepped
  split at stepped
  · obtain rfl := Option.some.inj stepped
    exact { inv with
      ble_holds := by simpa [outside, free] using inv.ble_holds
      handshake := by simp [Handshake, awaits, idle] }
  · obtain rfl := Option.some.inj stepped
    exact { inv with defined := by simp }

theorem Invariant.awaited {next : BlePc} (stepped : awaitSem s next = some s')
    (waiting : s.ble.awaited.isSome) (outside : s.ble.holdsMutex = false)
    (ready : next.awaited = none) (free : next.holdsMutex = false) : Invariant s' := by
  unfold awaitSem at stepped
  split at stepped
  · next given =>
      obtain rfl := Option.some.inj stepped
      have answered : s.pending = [] ∧ s.bleSem = 1 := by
        have handshake := inv.handshake
        obtain ⟨command, waits⟩ := Option.isSome_iff_exists.1 waiting
        simp only [Handshake, waits] at handshake
        rcases handshake with ⟨-, unanswered⟩ | answered
        · omega
        · exact answered
      exact { inv with
        ble_holds := by simpa [outside, free] using inv.ble_holds
        handshake := by simp [Handshake, ready, answered] }
  · cases stepped

theorem Invariant.bleStep {callOk : Bool} (stepped : step s (.bleStep callOk) = some s') :
    Invariant s' := by
  simp only [step] at stepped
  split at stepped
  · cases stepped
  have ble := inv.ble_holds
  have handshake := inv.handshake
  cases pc : s.ble <;> simp only [bleAdvTaskStep, pc] at stepped
  case check =>
    split at stepped <;> obtain rfl := Option.some.inj stepped <;>
      exact { inv with
        ble_holds := by simpa [pc, BlePc.holdsMutex] using ble
        handshake := by simpa [pc, Handshake, BlePc.awaited] using handshake }
  case idle | dwell =>
    obtain rfl := Option.some.inj stepped
    exact { inv with
      ble_holds := by simpa [pc, BlePc.holdsMutex] using ble
      handshake := by simpa [pc, Handshake, BlePc.awaited] using handshake }
  case take =>
    split at stepped
    · next free =>
        obtain rfl := Option.some.inj stepped
        have http := inv.http_holds
        simp only [free, reduceCtorEq, false_iff] at http
        exact { inv with
          http_holds := by simp [http]
          ble_holds := by simp [BlePc.holdsMutex]
          handshake := by simpa [pc, Handshake, BlePc.awaited] using handshake }
    · cases stepped
  case locked => exact inv.select pc stepped
  case giveSkip | give =>
    obtain rfl := Option.some.inj stepped
    have held : s.mutex = some .ble := ble.2 (by simp [pc, BlePc.holdsMutex])
    have http := inv.http_holds
    simp only [held, Option.some.injEq, reduceCtorEq, false_iff] at http
    exact { inv with
      http_holds := by simp [release, held, http]
      ble_holds := by simp [release, held, BlePc.holdsMutex]
      handshake := by simpa [pc, Handshake, BlePc.awaited] using handshake }
  case setRandAddr | configAdvDataRaw | startAdvertising | stopAdvertising =>
    exact inv.issued stepped (by simp [pc, BlePc.awaited]) (by simp [pc, BlePc.holdsMutex]) rfl rfl
  case waitRandAddr | waitAdvDataRaw | waitStart | waitStop =>
    exact inv.awaited stepped (by simp [pc, BlePc.awaited]) (by simp [pc, BlePc.holdsMutex]) rfl rfl

theorem Invariant.outstanding {command : GapCommand} {rest : List GapCommand}
    (unanswered : s.pending = command :: rest) :
    rest = [] ∧ s.bleSem = 0 ∧ s.ble.awaited.isSome := by
  have handshake := inv.handshake
  unfold Handshake at handshake
  split at handshake
  · next waiting =>
      rw [unanswered] at handshake
      simp only [List.cons.injEq, reduceCtorEq, false_and, or_false] at handshake
      exact ⟨handshake.1.2, handshake.2, by simp [waiting]⟩
  · rw [unanswered] at handshake
    simp at handshake

theorem Invariant.gapEvent {event : GapEvent} {status : BtStatus}
    (stepped : step s (.gapEvent event status) = some s') : Invariant s' := by
  rcases gapEvent_cases stepped with ⟨-, rfl⟩ | ⟨-, command, rest, unanswered, rfl⟩
  · exact inv
  · obtain ⟨sole, empty, waiting⟩ := inv.outstanding unanswered
    obtain ⟨awaited, waits⟩ := Option.isSome_iff_exists.1 waiting
    exact { inv with handshake := by simp [Handshake, waits, sole, empty, semGive] }

theorem Invariant.next {label : Label cfg} (stepped : step s label = some s') : Invariant s' := by
  cases label with
  | httpEvent event => exact inv.httpEvent stepped
  | httpReturn => exact inv.httpReturn stepped
  | httpStep => exact inv.httpStep stepped
  | httpParse list count => exact inv.httpParse stepped
  | bleStep callOk => exact inv.bleStep stepped
  | gapEvent event status => exact inv.gapEvent stepped

end Preservation

theorem Reachable.invariant {s : Firmware cfg} (reachable : Reachable s) : Invariant s := by
  obtain ⟨labels, reached⟩ := reachable
  exact @run_preserves cfg Invariant (fun _ => True) (fun _ inv stepped => inv.next stepped)
    _ _ labels (fun _ _ => trivial) initial_invariant reached

/-! ### The download buffer follows the handler -/

def httpEvents : List (Label cfg) → List HttpEvent
  | [] => []
  | .httpEvent event :: rest => event :: httpEvents rest
  | _ :: rest => httpEvents rest

theorem bleAdvTaskStep_httpBuffer {s s' : Firmware cfg} {callOk : Bool}
    (stepped : bleAdvTaskStep s callOk = some s') : s'.httpBuffer = s.httpBuffer := by
  by_cases locked : s.ble = .locked
  · simp only [bleAdvTaskStep, locked, selectTag] at stepped
    repeat' split at stepped
    all_goals (cases stepped; rfl)
  · exact (bleAdvTaskStep_frame stepped locked).2.2.2.1

theorem Invariant.step_httpBuffer {s s' : Firmware cfg} {label : Label cfg} (inv : Invariant s)
    (stepped : step s label = some s') :
    handleEvents s.httpBuffer (httpEvents [label]) = some s'.httpBuffer := by
  have defined := (inv.next stepped).defined
  cases label with
  | httpEvent event =>
      simp only [step] at stepped
      repeat' split at stepped
      all_goals cases stepped
      · next handled => simp [httpEvents, handleEvents, handled]
      · simp at defined
  | bleStep callOk =>
      simp only [step] at stepped
      split at stepped
      · cases stepped
      · exact congrArg some (bleAdvTaskStep_httpBuffer stepped).symm
  | gapEvent event status =>
      rcases gapEvent_cases stepped with ⟨-, rfl⟩ | ⟨-, command, rest, -, rfl⟩ <;> rfl
  | httpStep =>
      simp only [step, httpClientTaskStep] at stepped
      repeat' split at stepped
      all_goals cases stepped <;> rfl
  | _ =>
      simp only [step] at stepped
      repeat' split at stepped
      all_goals cases stepped <;> rfl

theorem httpEvents_cons (label : Label cfg) (rest : List (Label cfg)) :
    httpEvents (label :: rest) = httpEvents [label] ++ httpEvents rest := by
  cases label <;> rfl

/-- The download buffer along any run is what `http_event_handler` makes of the run's HTTP
events. -/
theorem run_httpBuffer {labels : List (Label cfg)} {s : Firmware cfg}
    (reached : run (Firmware.initial cfg) labels = some s) :
    handleEvents HttpBuffer.initial (httpEvents labels) = some s.httpBuffer := by
  suffices following : ∀ {s₀ : Firmware cfg} {labels : List (Label cfg)}, Invariant s₀ →
      run s₀ labels = some s → handleEvents s₀.httpBuffer (httpEvents labels) = some s.httpBuffer from
    following initial_invariant reached
  intro s₀ labels inv ran
  induction labels generalizing s₀ with
  | nil =>
      obtain rfl := Option.some.inj ran
      rfl
  | cons label rest ih =>
      obtain ⟨next, stepped, later⟩ : ∃ next, step s₀ label = some next ∧ run next rest = some s := by
        simpa [run, Option.bind_eq_some] using ran
      rw [httpEvents_cons, handleEvents_append, inv.step_httpBuffer stepped, Option.some_bind]
      exact ih (inv.next stepped) later

def fetchTrace (cfg : Config) : List (Label cfg) :=
  [.httpEvent (.onData [65, 66]), .httpEvent .onFinish] ++ download (fun _ => Airtag.empty) 0

theorem fetchTrace_httpBuffer :
    ∃ s, run (Firmware.initial benchConfig) (fetchTrace benchConfig) = some s ∧
      handleEvents HttpBuffer.initial (httpEvents (fetchTrace benchConfig)) = some s.httpBuffer :=
  ⟨_, rfl, run_httpBuffer rfl⟩

end RelayFirmware
