import RelayFirmware.Firmware.Invariant

/-!
The radio handshake of `ble_adv_task` (main.c:326-342) with
`ble_gap_event_handler` (main.c:193-216): the four GAP calls in cyclic order,
each after the previous completion, with the completion status never read.
-/

namespace RelayFirmware

variable {cfg : Config}

/-! ### Where `ble_adv_task` goes -/

/-- The points `ble_adv_task` reaches in one step; an abort leaves it in place. -/
def BlePc.successors : BlePc → List BlePc
  | .check => [.idle, .take]
  | .idle => [.check]
  | .take => [.locked]
  | .locked => [.give, .giveSkip]
  | .giveSkip => [.check]
  | .give => [.setRandAddr]
  | .setRandAddr => [.waitRandAddr]
  | .waitRandAddr => [.configAdvDataRaw]
  | .configAdvDataRaw => [.waitAdvDataRaw]
  | .waitAdvDataRaw => [.startAdvertising]
  | .startAdvertising => [.waitStart]
  | .waitStart => [.dwell]
  | .dwell => [.stopAdvertising]
  | .stopAdvertising => [.waitStop]
  | .waitStop => [.check]

theorem BlePc.lastIssued_successor {pc next : BlePc} (moved : next ∈ pc.successors) :
    next.lastIssued = pc.issues.getD pc.lastIssued := by
  revert next
  cases pc <;> decide

theorem BlePc.issues_next (pc : BlePc) : pc.issues = none ∨ pc.issues = some pc.lastIssued.next := by
  cases pc <;> decide

theorem BlePc.awaited_of_issues {pc : BlePc} (calling : pc.issues.isSome) : pc.awaited = none := by
  cases pc <;> simp_all [BlePc.issues, BlePc.awaited]

theorem selectTag_ble {s s' : Firmware cfg} (selected : selectTag s = some s') :
    s'.ble = .give ∨ s'.ble = .giveSkip ∨ (s'.ble = s.ble ∧ s'.aborted.isSome) := by
  unfold selectTag at selected
  split at selected
  · obtain rfl := Option.some.inj selected
    simp
  · split at selected
    · split at selected <;> obtain rfl := Option.some.inj selected <;> simp
    · obtain rfl := Option.some.inj selected
      simp

theorem bleAdvTaskStep_ble {s s' : Firmware cfg} {callOk : Bool}
    (stepped : bleAdvTaskStep s callOk = some s') :
    s'.ble ∈ s.ble.successors ∨ (s'.ble = s.ble ∧ s'.aborted.isSome) := by
  cases pc : s.ble <;> simp only [bleAdvTaskStep, pc] at stepped
  case locked =>
    rcases selectTag_ble stepped with moved | moved | stayed
    · simp [moved, BlePc.successors]
    · simp [moved, BlePc.successors]
    · exact .inr (stayed.imp_left (·.trans pc))
  all_goals
    try simp only [issue, awaitSem] at stepped
    (try split_ifs at stepped) <;> cases stepped <;> simp [pc, BlePc.successors]

theorem step_ble {s s' : Firmware cfg} {label : Label cfg} (stepped : step s label = some s') :
    (∃ callOk, label = .bleStep callOk ∧ bleAdvTaskStep s callOk = some s') ∨
      (∀ callOk, label ≠ .bleStep callOk) ∧ s'.ble = s.ble ∧ s'.addr = s.addr ∧
        s'.payload = s.payload := by
  cases label with
  | bleStep callOk =>
      simp only [step] at stepped
      split at stepped
      · cases stepped
      · exact .inl ⟨callOk, rfl, stepped⟩
  | gapEvent event status =>
      refine .inr ⟨by simp, ?_⟩
      rcases gapEvent_cases stepped with ⟨-, rfl⟩ | ⟨-, -, -, -, rfl⟩ <;> exact ⟨rfl, rfl, rfl⟩
  | httpStep =>
      refine .inr ⟨by simp, ?_⟩
      simp only [step, httpClientTaskStep] at stepped
      repeat' split at stepped
      all_goals cases stepped <;> exact ⟨rfl, rfl, rfl⟩
  | _ =>
      refine .inr ⟨by simp, ?_⟩
      simp only [step] at stepped
      repeat' split at stepped
      all_goals cases stepped <;> exact ⟨rfl, rfl, rfl⟩

theorem bleAdvTaskStep_locals {s s' : Firmware cfg} {callOk : Bool}
    (stepped : bleAdvTaskStep s callOk = some s') (unchecked : s.ble ≠ .check)
    (outside : s.ble ≠ .locked) : s'.addr = s.addr ∧ s'.payload = s.payload :=
  (bleAdvTaskStep_frame stepped outside).2.2.2.2.1 unchecked

/-! ### The GAP calls of a run -/

def gapCall (s : Firmware cfg) : Label cfg → Option GapCommand
  | .bleStep _ => s.ble.issues
  | _ => none

/-- The GAP functions called along a run, in order. -/
def gapCalls (s : Firmware cfg) : List (Label cfg) → List GapCommand
  | [] => []
  | label :: rest =>
      match step s label with
      | none => []
      | some next => (gapCall s label).toList ++ gapCalls next rest

/-- The index of the record a step reads at main.c:314. -/
def selection (s : Firmware cfg) : Label cfg → Option Int
  | .bleStep _ => if s.ble = .locked ∧ s.index < s.airtagCount then some s.index else none
  | _ => none

def selections (s : Firmware cfg) : List (Label cfg) → List Int
  | [] => []
  | label :: rest =>
      match step s label with
      | none => []
      | some next => (selection s label).toList ++ selections next rest

theorem gapCalls_of_aborted {s : Firmware cfg} (aborted : s.aborted.isSome) :
    ∀ labels, gapCalls s labels = []
  | [] => rfl
  | _ :: _ => by simp [gapCalls, step, aborted]

theorem gapCall_next {s : Firmware cfg} {label : Label cfg} {command : GapCommand}
    (calling : gapCall s label = some command) : command = s.ble.lastIssued.next := by
  cases label <;> simp only [gapCall, reduceCtorEq] at calling
  rcases BlePc.issues_next s.ble with quiet | next
  · simp_all
  · exact (Option.some.inj (next ▸ calling)).symm

theorem step_lastIssued {s s' : Firmware cfg} {label : Label cfg} (stepped : step s label = some s') :
    s'.ble.lastIssued = (gapCall s label).getD s.ble.lastIssued ∨ s'.aborted.isSome := by
  rcases step_ble stepped with ⟨callOk, rfl, moved⟩ | ⟨other, stayed, -⟩
  · rcases bleAdvTaskStep_ble moved with next | ⟨-, aborted⟩
    · exact .inl (BlePc.lastIssued_successor next)
    · exact .inr aborted
  · left
    cases label <;> simp_all [gapCall]

theorem gapCalls_chain (s : Firmware cfg) (labels : List (Label cfg)) :
    List.Chain (fun previous command => command = previous.next) s.ble.lastIssued
      (gapCalls s labels) := by
  induction labels generalizing s with
  | nil => exact .nil
  | cons label rest inductionHypothesis =>
      simp only [gapCalls]
      cases stepped : step s label with
      | none => exact .nil
      | some next =>
          have continues : List.Chain (fun previous command => command = previous.next)
              ((gapCall s label).getD s.ble.lastIssued) (gapCalls next rest) := by
            rcases step_lastIssued stepped with last | aborted
            · exact last ▸ inductionHypothesis next
            · rw [gapCalls_of_aborted aborted]
              exact .nil
          cases calling : gapCall s label with
          | none => simpa [calling] using continues
          | some command =>
              rw [calling] at continues
              exact .cons (gapCall_next calling) continues

/-! ### What the radio is given -/

def BlePc.advertises : BlePc → Bool
  | .give | .setRandAddr | .waitRandAddr | .configAdvDataRaw | .waitAdvDataRaw
  | .startAdvertising | .waitStart | .dwell | .stopAdvertising | .waitStop => true
  | _ => false

theorem BlePc.advertises_of_successor {pc : BlePc} (outside : pc ≠ .locked) :
    ∀ next ∈ pc.successors, next.advertises → pc.advertises := by
  cases pc <;> first | exact absurd rfl outside | decide

/-- `addr` and `payload` are what `airtag_to_ble_advertisement` made of an accepted record. -/
def AdvertisesRecord (s : Firmware cfg) : Prop :=
  s.ble.advertises → ∃ airtag : Airtag,
    airtagToBleAdvertisement cfg.decoder airtag Bytes.zero Bytes.zero = (.SUCCESS, s.addr, s.payload)

section Advertising

variable {s s' : Firmware cfg}

theorem selectTag_advertises (pc : s.ble = .locked) (selected : selectTag s = some s') :
    AdvertisesRecord s' := by
  intro advertising
  unfold selectTag at selected
  split at selected
  · obtain rfl := Option.some.inj selected
    simp [pc, BlePc.advertises] at advertising
  · split at selected
    · split at selected
      · next addr payload built =>
          obtain rfl := Option.some.inj selected
          exact ⟨_, airtagToBleAdvertisement_success built _ _⟩
      · obtain rfl := Option.some.inj selected
        simp [BlePc.advertises] at advertising
    · obtain rfl := Option.some.inj selected
      simp [pc, BlePc.advertises] at advertising

theorem AdvertisesRecord.next {label : Label cfg} (advertised : AdvertisesRecord s)
    (stepped : step s label = some s') : AdvertisesRecord s' := by
  intro entered
  rcases step_ble stepped with ⟨callOk, rfl, moved⟩ | ⟨-, same, sameAddr, samePayload⟩
  · by_cases locked : s.ble = .locked
    · exact selectTag_advertises locked (by simpa [bleAdvTaskStep, locked] using moved) entered
    have was : s.ble.advertises := by
      rcases bleAdvTaskStep_ble moved with next | ⟨same, -⟩
      · exact BlePc.advertises_of_successor locked _ next entered
      · rwa [same] at entered
    have unchecked : s.ble ≠ .check := fun check => by simp [check, BlePc.advertises] at was
    obtain ⟨sameAddr, samePayload⟩ := bleAdvTaskStep_locals moved unchecked locked
    rw [sameAddr, samePayload]
    exact advertised was
  · rw [sameAddr, samePayload]
    exact advertised (same ▸ entered)

end Advertising

/-- From the index update to the end of the cycle, `addr` and `payload` come from an accepted
record. -/
theorem reachable_advertises_accepted_record {s : Firmware cfg} (reachable : Reachable s)
    (advertising : s.ble.advertises) :
    ∃ airtag : Airtag,
      airtagToBleAdvertisement cfg.decoder airtag Bytes.zero Bytes.zero =
        (.SUCCESS, s.addr, s.payload) ∧ s.addr 0 &&& 0xC0 = 0xC0 := by
  obtain ⟨labels, reached⟩ := reachable
  have advertised : AdvertisesRecord s :=
    @run_preserves cfg AdvertisesRecord (fun _ => True) (fun _ advertised stepped =>
      advertised.next stepped) _ _ labels (fun _ _ => trivial)
      (fun initial => by simp [Firmware.initial, BlePc.advertises] at initial) reached
  obtain ⟨airtag, built⟩ := advertised advertising
  refine ⟨airtag, built, ?_⟩
  rw [airtagToBleAdvertisement_eq] at built
  split at built
  · cases built
  · rw [← (Prod.mk.inj (Prod.mk.inj built).2).1]
    exact keyToAddr_static_random _ _

def selectionTrace (cfg : Config) : List (Label cfg) :=
  download (fun _ => zeroTag) 1 ++ [.bleStep true, .bleStep true, .bleStep true]

theorem zeroTag_selection_advertised :
    ∃ s, run (Firmware.initial benchConfig) (selectionTrace benchConfig) = some s ∧
      s.ble.advertises ∧
      ∃ airtag : Airtag,
        airtagToBleAdvertisement benchConfig.decoder airtag Bytes.zero Bytes.zero =
          (.SUCCESS, s.addr, s.payload) ∧ s.addr 0 &&& 0xC0 = 0xC0 :=
  ⟨_, rfl, rfl, reachable_advertises_accepted_record ⟨selectionTrace benchConfig, rfl⟩ rfl⟩

def GapCommand.completion : GapCommand → GapEvent
  | .setRandAddr => .setStaticRandAddr
  | .configAdvDataRaw => .advDataRawSetComplete
  | .startAdvertising => .advStartComplete
  | .stopAdvertising => .advStopComplete

theorem GapCommand.completion_ne_other (command : GapCommand) : command.completion ≠ .other := by
  cases command <;> decide

def callAndAnswer (status : BtStatus) (command : GapCommand) : List (Label cfg) :=
  [.bleStep true, .gapEvent command.completion status, .bleStep true]

/-- `ble_adv_task` from the give after the index update back to its check (main.c:322-342). -/
def advertisingCycle (status : GapCommand → BtStatus) : List (Label cfg) :=
  [.bleStep true] ++ callAndAnswer (status .setRandAddr) .setRandAddr ++
    callAndAnswer (status .configAdvDataRaw) .configAdvDataRaw ++
    callAndAnswer (status .startAdvertising) .startAdvertising ++ [.bleStep true] ++
    callAndAnswer (status .stopAdvertising) .stopAdvertising

def cycleTrace (cfg : Config) : List (Label cfg) :=
  selectionTrace cfg ++ advertisingCycle fun _ => .success

/-! ### The handshake on `ble_sem` -/

section Handshake

variable {s s' : Firmware cfg} (inv : Invariant s)
include inv

theorem Invariant.idle_at_call (calling : s.ble.issues.isSome) : s.pending = [] ∧ s.bleSem = 0 := by
  simpa [Handshake, BlePc.awaited_of_issues calling] using inv.handshake

theorem Invariant.completion_fills {event : GapEvent} {status : BtStatus}
    (completion : event ≠ .other) (stepped : step s (.gapEvent event status) = some s') :
    s.bleSem = 0 ∧ s'.bleSem = 1 := by
  rcases gapEvent_cases stepped with ⟨other, -⟩ | ⟨-, command, rest, unanswered, rfl⟩
  · exact absurd other completion
  · obtain ⟨-, empty, -⟩ := inv.outstanding unanswered
    simp [empty, semGive]

end Handshake

theorem gap_calls_follow_handshake {labels : List (Label cfg)} {s : Firmware cfg}
    (reached : run (Firmware.initial cfg) labels = some s) :
    List.Chain (fun previous command => command = previous.next) .stopAdvertising
        (gapCalls (Firmware.initial cfg) labels) ∧
      s.pending.length + s.bleSem ≤ 1 ∧
      (s.ble.issues.isSome → s.pending = [] ∧ s.bleSem = 0) ∧
      ∀ event status s', event ≠ .other → step s (.gapEvent event status) = some s' →
        s.bleSem = 0 ∧ s'.bleSem = 1 := by
  have inv := Reachable.invariant ⟨labels, reached⟩
  exact ⟨gapCalls_chain (Firmware.initial cfg) labels, inv.handshake.outstanding_le, inv.idle_at_call,
    fun _ _ _ completion stepped => inv.completion_fills completion stepped⟩

theorem zeroTag_cycle_follows_handshake :
    ∃ s, run (Firmware.initial benchConfig) (cycleTrace benchConfig) = some s ∧
      gapCalls (Firmware.initial benchConfig) (cycleTrace benchConfig) =
        [.setRandAddr, .configAdvDataRaw, .startAdvertising, .stopAdvertising] ∧
      List.Chain (fun previous command => command = previous.next) .stopAdvertising
          (gapCalls (Firmware.initial benchConfig) (cycleTrace benchConfig)) ∧
        s.pending.length + s.bleSem ≤ 1 ∧ (s.ble.issues.isSome → s.pending = [] ∧ s.bleSem = 0) ∧
        ∀ event status s', event ≠ .other → step s (.gapEvent event status) = some s' →
          s.bleSem = 0 ∧ s'.bleSem = 1 :=
  ⟨_, rfl, rfl, gap_calls_follow_handshake rfl⟩

/-! ### The wait on `ble_sem` ends -/

theorem bleAdvTaskStep_awaiting {s : Firmware cfg} {command : GapCommand}
    (waiting : s.ble.awaited = some command) (callOk : Bool) :
    ∃ next ∈ s.ble.successors, bleAdvTaskStep s callOk = awaitSem s next := by
  unfold bleAdvTaskStep
  cases pc : s.ble <;> simp_all [BlePc.awaited, BlePc.successors]

/-- `ble_adv_task` never waits on `ble_sem` for good: the radio's completion, whatever its
status, lets it pass. -/
theorem reachable_wait_on_ble_sem_ends {s : Firmware cfg} (reachable : Reachable s)
    (running : s.aborted = none) {command : GapCommand} (waiting : s.ble.awaited = some command)
    (callOk : Bool) :
    (s.bleSem = 1 ∧ ∃ s', step s (.bleStep callOk) = some s' ∧ s'.ble ∈ s.ble.successors ∧
        s'.aborted = none) ∨
      (s.pending = [command] ∧ step s (.bleStep callOk) = none ∧
        ∀ event status, event ≠ .other → ∃ s₁ s', step s (.gapEvent event status) = some s₁ ∧
          step s₁ (.bleStep callOk) = some s' ∧ s'.ble ∈ s.ble.successors ∧ s'.aborted = none) := by
  have takes : ∀ s₁ : Firmware cfg, s₁.aborted = none → s₁.ble = s.ble → s₁.bleSem = 1 →
      ∃ s', step s₁ (.bleStep callOk) = some s' ∧ s'.ble ∈ s.ble.successors ∧ s'.aborted = none := by
    intro s₁ running₁ pc given
    obtain ⟨next, successor, stepped⟩ := bleAdvTaskStep_awaiting (pc ▸ waiting) callOk
    exact ⟨{ s₁ with bleSem := 0, ble := next }, by simp [step, running₁, stepped, awaitSem, given],
      pc ▸ successor, running₁⟩
  have handshake := reachable.invariant.handshake
  simp only [Handshake, waiting] at handshake
  rcases handshake with ⟨owed, empty⟩ | ⟨-, given⟩
  · obtain ⟨next, -, blocked⟩ := bleAdvTaskStep_awaiting waiting callOk
    refine .inr ⟨owed, by simp [step, running, blocked, awaitSem, empty],
      fun event status completion => ?_⟩
    obtain ⟨s', stepped, moved⟩ := takes { s with pending := [], bleSem := 1 } running rfl rfl
    refine ⟨_, s', ?_, stepped, moved⟩
    simp [step, running, gapStep, completion, owed, bleGapEventHandler_completion completion,
      semGive, empty]
  · exact .inl ⟨given, takes s running rfl given⟩

def setRandAddrTrace (cfg : Config) : List (Label cfg) :=
  selectionTrace cfg ++ [.bleStep true, .bleStep true]

theorem zeroTag_wait_on_ble_sem_ends :
    ∃ s, run (Firmware.initial benchConfig) (setRandAddrTrace benchConfig) = some s ∧
      s.aborted = none ∧ s.ble.awaited = some .setRandAddr ∧
      ((s.bleSem = 1 ∧ ∃ s', step s (.bleStep true) = some s' ∧ s'.ble ∈ s.ble.successors ∧
          s'.aborted = none) ∨
        (s.pending = [.setRandAddr] ∧ step s (.bleStep true) = none ∧
          ∀ event status, event ≠ .other → ∃ s₁ s', step s (.gapEvent event status) = some s₁ ∧
            step s₁ (.bleStep true) = some s' ∧ s'.ble ∈ s.ble.successors ∧ s'.aborted = none)) :=
  ⟨_, rfl, rfl, rfl,
    reachable_wait_on_ble_sem_ends ⟨setRandAddrTrace benchConfig, rfl⟩ rfl rfl true⟩

/-! ### A whole advertising cycle -/

theorem gapCalls_append {s t : Firmware cfg} {first : List (Label cfg)}
    (reached : run s first = some t) (second : List (Label cfg)) :
    gapCalls s (first ++ second) = gapCalls s first ++ gapCalls t second := by
  induction first generalizing s with
  | nil => obtain rfl := Option.some.inj reached; rfl
  | cons label rest ih =>
      obtain ⟨next, stepped, later⟩ : ∃ next, step s label = some next ∧ run next rest = some t := by
        simpa [run, Option.bind_eq_some] using reached
      simp [gapCalls, stepped, ih later]

theorem selections_append {s t : Firmware cfg} {first : List (Label cfg)}
    (reached : run s first = some t) (second : List (Label cfg)) :
    selections s (first ++ second) = selections s first ++ selections t second := by
  induction first generalizing s with
  | nil => obtain rfl := Option.some.inj reached; rfl
  | cons label rest ih =>
      obtain ⟨next, stepped, later⟩ : ∃ next, step s label = some next ∧ run next rest = some t := by
        simpa [run, Option.bind_eq_some] using reached
      simp [selections, stepped, ih later]

/-- A run from `s` reaches `s'`, calls the GAP functions `calls` and reads the records at
`reads`. -/
structure Runs (s : Firmware cfg) (labels : List (Label cfg)) (calls : List GapCommand)
    (reads : List Int) (s' : Firmware cfg) : Prop where
  reached : run s labels = some s'
  called : gapCalls s labels = calls
  read : selections s labels = reads

theorem Runs.append {s t u : Firmware cfg} {first second : List (Label cfg)}
    {calls calls' : List GapCommand} {reads reads' : List Int}
    (ranFirst : Runs s first calls reads t) (ranSecond : Runs t second calls' reads' u) :
    Runs s (first ++ second) (calls ++ calls') (reads ++ reads') u where
  reached := by rw [run_append, ranFirst.reached, Option.some_bind, ranSecond.reached]
  called := by rw [gapCalls_append ranFirst.reached, ranFirst.called, ranSecond.called]
  read := by rw [selections_append ranFirst.reached, ranFirst.read, ranSecond.read]

theorem run_callAndAnswer (s : Firmware cfg) {command : GapCommand} {waiting : BlePc} (next : BlePc)
    (status : BtStatus) (running : s.aborted = none) (quiet : s.pending = []) (empty : s.bleSem = 0)
    (calling : bleAdvTaskStep s true = issue s true command waiting)
    (issuing : s.ble.issues = some command) (waitingFor : waiting.awaited = some command)
    (taking : ∀ t : Firmware cfg, t.ble = waiting → bleAdvTaskStep t true = awaitSem t next) :
    Runs s (callAndAnswer status command) [command] [] { s with ble := next } := by
  have unlocked : s.ble ≠ .locked := fun locked => by rw [locked] at issuing; cases issuing
  have waits : waiting.issues = none ∧ waiting ≠ .locked := by
    cases waiting <;> first | exact ⟨rfl, by decide⟩ | cases waitingFor
  let issued : Firmware cfg := { s with pending := [command], ble := waiting }
  let given : Firmware cfg := { issued with pending := [], bleSem := 1 }
  have call : step s (.bleStep true) = some issued := by
    simp [step, running, calling, issue, quiet, issued]
  have answer : step issued (.gapEvent command.completion status) = some given := by
    simp [step, gapStep, command.completion_ne_other, bleGapEventHandler_completion, issued, given,
      running, empty, semGive]
  have take : step given (.bleStep true) = some { s with ble := next } := by
    simp only [step, taking given rfl, awaitSem]
    cases s
    simp_all [given, issued]
  refine ⟨?_, ?_, ?_⟩
  · simp only [callAndAnswer, run, call, answer, take, Option.some_bind]
  · simp [callAndAnswer, gapCalls, call, answer, take, gapCall, issuing, given, issued, waits.1]
  · simp [callAndAnswer, selections, call, answer, take, selection, unlocked, given, issued, waits.2]

theorem run_advertisingCycle {s : Firmware cfg} (running : s.aborted = none) (giving : s.ble = .give)
    (held : s.mutex = some .ble) (quiet : s.pending = []) (empty : s.bleSem = 0)
    (status : GapCommand → BtStatus) :
    Runs s (advertisingCycle status) [.setRandAddr, .configAdvDataRaw, .startAdvertising, .stopAdvertising]
      [] { s with mutex := none, ble := .check } := by
  let released : Firmware cfg := { s with mutex := none, ble := .setRandAddr }
  have give : Runs s [.bleStep true] [] [] released := by
    refine ⟨?_, ?_, ?_⟩ <;>
      simp [run, gapCalls, gapCall, selections, selection, step, running, bleAdvTaskStep, giving,
        release, held, released, BlePc.issues]
  have address := run_callAndAnswer released .configAdvDataRaw (status .setRandAddr) running quiet empty
    rfl rfl rfl fun _ pc => by simp only [bleAdvTaskStep, pc]
  have data := run_callAndAnswer { released with ble := .configAdvDataRaw } .startAdvertising
    (status .configAdvDataRaw) running quiet empty rfl rfl rfl fun _ pc => by simp only [bleAdvTaskStep, pc]
  have start := run_callAndAnswer { released with ble := .startAdvertising } .dwell
    (status .startAdvertising) running quiet empty rfl rfl rfl fun _ pc => by simp only [bleAdvTaskStep, pc]
  have dwell : Runs { released with ble := .dwell } [.bleStep true] [] []
      { released with ble := .stopAdvertising } := by
    refine ⟨?_, ?_, ?_⟩ <;>
      simp [run, gapCalls, gapCall, selections, selection, step, running, bleAdvTaskStep, released,
        BlePc.issues]
  have stop := run_callAndAnswer { released with ble := .stopAdvertising } .check
    (status .stopAdvertising) running quiet empty rfl rfl rfl fun _ pc => by simp only [bleAdvTaskStep, pc]
  exact ((((give.append address).append data).append start).append dwell).append stop

/-- After the index update a radio that answers every command takes the task through one whole
cycle. -/
theorem advertising_cycle_completes {s : Firmware cfg} (reachable : Reachable s)
    (running : s.aborted = none) (giving : s.ble = .give) (status : GapCommand → BtStatus) :
    run s (advertisingCycle status) = some { s with mutex := none, ble := .check } ∧
      gapCalls s (advertisingCycle status) =
        [.setRandAddr, .configAdvDataRaw, .startAdvertising, .stopAdvertising] := by
  have inv := reachable.invariant
  have held : s.mutex = some .ble := inv.ble_holds.2 (by simp [giving, BlePc.holdsMutex])
  obtain ⟨quiet, empty⟩ : s.pending = [] ∧ s.bleSem = 0 := by
    simpa [Handshake, giving, BlePc.awaited] using inv.handshake
  have cycle := run_advertisingCycle running giving held quiet empty status
  exact ⟨cycle.reached, cycle.called⟩

theorem zeroTag_advertising_cycle_completes :
    ∃ s, run (Firmware.initial benchConfig) (selectionTrace benchConfig) = some s ∧
      s.aborted = none ∧ s.ble = .give ∧
      run s (advertisingCycle fun _ => .failure) = some { s with mutex := none, ble := .check } ∧
      gapCalls s (advertisingCycle fun _ => .failure) =
        [.setRandAddr, .configAdvDataRaw, .startAdvertising, .stopAdvertising] :=
  ⟨_, rfl, rfl, rfl, advertising_cycle_completes ⟨selectionTrace benchConfig, rfl⟩ rfl rfl _⟩

/-! ### The completion's status -/

theorem step_gapEvent_status (s : Firmware cfg) (event : GapEvent) (status : BtStatus) :
    step s (.gapEvent event status) = step s (.gapEvent event .success) := rfl

def failedRandAddrTrace (cfg : Config) : List (Label cfg) :=
  download (fun _ => zeroTag) 1 ++
    [.bleStep true, .bleStep true, .bleStep true, .bleStep true, .bleStep true,
      .gapEvent .setStaticRandAddr .failure, .bleStep true, .bleStep true]

theorem failed_rand_addr_is_ignored (cfg : Config) :
    ∃ s, run (Firmware.initial cfg) (failedRandAddrTrace cfg) = some s ∧ s.aborted = none ∧
      s.ble = .waitAdvDataRaw ∧ s.pending = [.configAdvDataRaw] := by
  have positive : (0 : Int) < cfg.NUM_TAGS := by have := cfg.numTags_pos; omega
  have decodes := zeroTag_decodes cfg.decoder
  rw [failedRandAddrTrace, run_append, run_download rfl rfl rfl ⟨by decide, by omega⟩,
    Option.some_bind]
  repeat
    rw [run]
    simp only [step, Firmware.initial, Option.isSome_none, Bool.false_eq_true, ↓reduceIte,
      bleAdvTaskStep, Int.reduceLE, Option.some_bind, awaitSem, zero_lt_one, tsub_self, issue,
      List.nil_append, release, selectTag, not_true_eq_false, le_refl, positive, and_self,
      ↓reduceDIte, airtagToBleAdvertisement_eq, decodes, ne_eq, zero_add, Int.tmod_self, gapStep,
      reduceCtorEq, bleGapEventHandler, semGive]
  exact ⟨_, rfl, rfl, rfl, rfl⟩

end RelayFirmware
