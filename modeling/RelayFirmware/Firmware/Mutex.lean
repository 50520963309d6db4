import RelayFirmware.Firmware.Radio

/-!
The discipline of `airtag_mutex` (main.c:258-276, 308-324): every take is
matched by the give that ends its section, and no holder suspends there.
-/

namespace RelayFirmware

variable {cfg : Config}

def Label.task : Label cfg → Option Task
  | .httpEvent _ | .httpReturn | .httpStep | .httpParse _ _ => some .http
  | .bleStep _ => some .ble
  | .gapEvent _ _ => none

/-! ### Who changes the mutex -/

theorem release_cases (mutex : Option Task) (task : Task) :
    release mutex task = mutex ∨ (mutex = some task ∧ release mutex task = none) := by
  unfold release
  split_ifs with held
  · exact .inr ⟨held, rfl⟩
  · exact .inl rfl

theorem selectTag_mutex {s s' : Firmware cfg} (selected : selectTag s = some s') :
    s'.mutex = s.mutex := by
  unfold selectTag at selected
  split at selected
  · obtain rfl := Option.some.inj selected
    rfl
  · split at selected
    · split at selected <;> obtain rfl := Option.some.inj selected <;> rfl
    · obtain rfl := Option.some.inj selected
      rfl

theorem step_mutex {s s' : Firmware cfg} {label : Label cfg} (stepped : step s label = some s') :
    s'.mutex = s.mutex ∨ (s.mutex = none ∧ s'.mutex = label.task) ∨
      (s.mutex = label.task ∧ s'.mutex = none) := by
  cases label with
  | bleStep callOk =>
      simp only [step] at stepped
      split at stepped
      · cases stepped
      cases pc : s.ble <;> simp only [bleAdvTaskStep, pc] at stepped
      case locked => exact .inl (selectTag_mutex stepped)
      case giveSkip | give =>
        obtain rfl := Option.some.inj stepped
        rcases release_cases s.mutex .ble with same | ⟨held, released⟩
        · exact .inl same
        · exact .inr (.inr ⟨held, released⟩)
      all_goals
        try simp only [issue, awaitSem] at stepped
        (try split_ifs at stepped) <;> cases stepped <;>
          first | exact .inl rfl | exact .inr (.inl ⟨‹_›, rfl⟩)
  | httpStep =>
      simp only [step] at stepped
      split at stepped
      · cases stepped
      cases pc : s.http <;> simp only [httpClientTaskStep, pc] at stepped
      case give =>
        obtain rfl := Option.some.inj stepped
        rcases release_cases s.mutex .http with same | ⟨held, released⟩
        · exact .inl same
        · exact .inr (.inr ⟨held, released⟩)
      all_goals
        try split_ifs at stepped
        cases stepped <;> first | exact .inl rfl | exact .inr (.inl ⟨‹_›, rfl⟩)
  | gapEvent event status =>
      left
      rcases gapEvent_cases stepped with ⟨-, rfl⟩ | ⟨-, -, -, -, rfl⟩ <;> rfl
  | _ =>
      left
      simp only [step] at stepped
      repeat' split at stepped
      all_goals cases stepped <;> rfl

/-! ### The holder makes progress -/

theorem selectTag_isSome (s : Firmware cfg) : (selectTag s).isSome := by
  unfold selectTag
  split
  · rfl
  · split
    · split <;> rfl
    · rfl

section Holder

variable {s : Firmware cfg} (inv : Invariant s) (running : s.aborted = none)
include inv running

theorem Invariant.http_releases (held : s.mutex = some .http) :
    ∃ labels s', (∀ label ∈ labels, label.task = some .http) ∧ run s labels = some s' ∧
      s'.mutex = none := by
  have inside := inv.http_holds.1 held
  have released : release s.mutex .http = none := by simp [release, held]
  cases pc : s.http <;> simp only [pc, HttpPc.holdsMutex, reduceCtorEq] at inside
  · refine ⟨[.httpParse s.airtagList s.airtagCount, .httpStep],
      { s with mutex := none, http := .delay }, by simp [Label.task], ?_, rfl⟩
    simp [run, step, running, pc, inv.count_nonneg, inv.count_le, httpClientTaskStep, released]
  · exact ⟨[.httpStep], { s with mutex := none, http := .delay }, by simp [Label.task],
      by simp [run, step, running, pc, httpClientTaskStep, released], rfl⟩

theorem Invariant.ble_gives (giving : s.ble = .give ∨ s.ble = .giveSkip) :
    ∃ s', step s (.bleStep true) = some s' ∧ s'.mutex = none := by
  have held := inv.ble_holds.2 (by rcases giving with pc | pc <;> simp [pc, BlePc.holdsMutex])
  have released : release s.mutex .ble = none := by simp [release, held]
  rcases giving with pc | pc
  · exact ⟨{ s with mutex := none, ble := .setRandAddr },
      by simp [step, running, bleAdvTaskStep, pc, released], rfl⟩
  · exact ⟨{ s with mutex := none, ble := .check },
      by simp [step, running, bleAdvTaskStep, pc, released], rfl⟩

theorem Invariant.ble_releases (held : s.mutex = some .ble) :
    ∃ labels s', (∀ label ∈ labels, label.task = some .ble) ∧ run s labels = some s' ∧
      (s'.mutex = none ∨ s'.aborted.isSome) := by
  have inside := inv.ble_holds.1 held
  by_cases locked : s.ble = .locked
  · obtain ⟨s₁, selected⟩ := Option.isSome_iff_exists.1 (selectTag_isSome s)
    have stepped : step s (.bleStep true) = some s₁ := by
      simp [step, running, bleAdvTaskStep, locked, selected]
    cases aborted₁ : s₁.aborted with
    | some reason =>
        exact ⟨[.bleStep true], s₁, by simp [Label.task], by simp [run, stepped],
          .inr (by simp [aborted₁])⟩
    | none =>
        have giving : s₁.ble = .give ∨ s₁.ble = .giveSkip := by
          rcases selectTag_ble selected with giving | giving | ⟨-, aborted⟩
          · exact .inl giving
          · exact .inr giving
          · simp [aborted₁] at aborted
        obtain ⟨s', released, free⟩ := (inv.next stepped).ble_gives aborted₁ giving
        exact ⟨[.bleStep true, .bleStep true], s', by simp [Label.task],
          by simp [run, stepped, released], .inl free⟩
  · have giving : s.ble = .give ∨ s.ble = .giveSkip := by
      cases pc : s.ble <;> simp_all [BlePc.holdsMutex]
    obtain ⟨s', stepped, released⟩ := inv.ble_gives running giving
    exact ⟨[.bleStep true], s', by simp [Label.task], by simp [run, stepped], .inl released⟩

end Holder

/-! ### The discipline in every reachable state -/

theorem HttpPc.awake_of_holdsMutex {pc : HttpPc} (inside : pc.holdsMutex) : pc.suspends = false := by
  cases pc <;> simp_all [HttpPc.holdsMutex, HttpPc.suspends]

theorem BlePc.awake_of_holdsMutex {pc : BlePc} (inside : pc.holdsMutex) : pc.suspends = false := by
  cases pc <;> simp_all [BlePc.holdsMutex, BlePc.suspends]

/-- What `airtag_mutex` obeys in one state of the firmware. -/
structure MutexDiscipline (s : Firmware cfg) : Prop where
  -- each task holds the mutex exactly inside its critical section
  http_holds : s.mutex = some .http ↔ s.http.holdsMutex
  ble_holds : s.mutex = some .ble ↔ s.ble.holdsMutex
  -- only a task's own take and give change the mutex
  own_changes : ∀ label s', step s label = some s' → s'.mutex = s.mutex ∨
    (s.mutex = none ∧ s'.mutex = label.task) ∨ (s.mutex = label.task ∧ s'.mutex = none)
  -- the holder is not in a delay, a semaphore take or the HTTP transfer
  http_awake : s.mutex = some .http → s.http.suspends = false
  ble_awake : s.mutex = some .ble → s.ble.suspends = false
  http_no_retake : s.http = .take → s.mutex ≠ some .http  -- no task takes the mutex it holds
  ble_no_retake : s.ble = .take → s.mutex ≠ some .ble
  -- the holder gives the mutex back by its own steps, unless the run aborts
  holder_releases : s.aborted = none → ∀ task, s.mutex = some task →
    ∃ labels s', (∀ label ∈ labels, label.task = some task) ∧ run s labels = some s' ∧
      (s'.mutex = none ∨ s'.aborted.isSome)

theorem reachable_mutex_discipline {s : Firmware cfg} (reachable : Reachable s) :
    MutexDiscipline s := by
  have inv := reachable.invariant
  refine
    { http_holds := inv.http_holds
      ble_holds := inv.ble_holds
      own_changes := fun _ _ => step_mutex
      http_awake := fun held => HttpPc.awake_of_holdsMutex (inv.http_holds.1 held)
      ble_awake := fun held => BlePc.awake_of_holdsMutex (inv.ble_holds.1 held)
      http_no_retake := fun taking held => by simpa [taking, HttpPc.holdsMutex] using inv.http_holds.1 held
      ble_no_retake := fun taking held => by simpa [taking, BlePc.holdsMutex] using inv.ble_holds.1 held
      holder_releases := fun running task held => ?_ }
  cases task with
  | http =>
      obtain ⟨labels, s', own, reached, free⟩ := inv.http_releases running held
      exact ⟨labels, s', own, reached, .inl free⟩
  | ble => exact inv.ble_releases running held

theorem zeroTag_mutex_discipline :
    ∃ s, run (Firmware.initial benchConfig) (selectionTrace benchConfig) = some s ∧
      s.mutex = some .ble ∧ Reachable s ∧ MutexDiscipline s :=
  ⟨_, rfl, rfl, ⟨selectionTrace benchConfig, rfl⟩, reachable_mutex_discipline ⟨selectionTrace benchConfig, rfl⟩⟩

end RelayFirmware
