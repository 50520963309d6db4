import RelayFirmware.Firmware.Mutex

/-!
The rotation of `index` over the tag store (main.c:298-324).  `index` stays
inside `airtag_list`, but the unlocked read of `airtag_count` at main.c:299 lets
the assertion fail, and the `continue` at main.c:320 retries an undecodable
record forever.  When every record decodes, they are read in cyclic order.
-/

namespace RelayFirmware

variable {cfg : Config}

/-! ### The array read is in bounds -/

/-- `index` stays inside `airtag_list`, and no run reads outside it or overflows the buffer. -/
theorem reachable_index_in_array {s : Firmware cfg} (reachable : Reachable s) :
    0 ≤ s.index ∧ s.index < cfg.NUM_TAGS ∧ 0 ≤ s.airtagCount ∧ s.airtagCount ≤ cfg.NUM_TAGS ∧
      s.aborted ≠ some .outOfBounds ∧ s.aborted ≠ some .httpBufferOverflow := by
  have inv := reachable.invariant
  exact ⟨inv.index_nonneg, inv.index_lt, inv.count_nonneg, inv.count_le, inv.defined⟩

def selectionPass (cfg : Config) : List (Label cfg) := [.bleStep true, .bleStep true, .bleStep true]

def advertisingPass (status : GapCommand → BtStatus) : List (Label cfg) :=
  selectionPass cfg ++ advertisingCycle status

def rotatedTrace (cfg : Config) : List (Label cfg) :=
  download (fun _ => zeroTag) 2 ++ advertisingPass (fun _ => .success) ++ [.httpStep]

theorem rotated_index_in_array :
    ∃ s, run (Firmware.initial benchConfig) (rotatedTrace benchConfig) = some s ∧ s.index = 1 ∧
      Reachable s ∧ 0 ≤ s.index ∧ s.index < benchConfig.NUM_TAGS ∧ 0 ≤ s.airtagCount ∧
        s.airtagCount ≤ benchConfig.NUM_TAGS ∧ s.aborted ≠ some .outOfBounds ∧
        s.aborted ≠ some .httpBufferOverflow :=
  ⟨_, rfl, rfl, ⟨rotatedTrace benchConfig, rfl⟩,
    reachable_index_in_array ⟨rotatedTrace benchConfig, rfl⟩⟩

/-! ### The unlocked check -/

def emptiedStoreTrace (cfg : Config) : List (Label cfg) :=
  download (fun _ => Airtag.empty) 1 ++ [.bleStep true, .httpStep] ++
    download (fun _ => Airtag.empty) 0 ++ [.bleStep true]

theorem emptied_store_fails_assertion (cfg : Config) :
    ∃ s, run (Firmware.initial cfg) (emptiedStoreTrace cfg) = some s ∧ s.ble = .locked ∧
      s.airtagCount = 0 ∧ s.index = 0 ∧
      step s (.bleStep true) = some { s with aborted := some .assertIndex } := by
  have one : (1 : Int) ≤ cfg.NUM_TAGS := by have := cfg.numTags_pos; omega
  rw [emptiedStoreTrace, run_append, run_append, run_append,
    run_download rfl rfl rfl ⟨by decide, one⟩, Option.some_bind]
  exact ⟨_, rfl, rfl, rfl, rfl, rfl⟩

/-! ### A record that never decodes -/

/-- The points of the loop between two selections; no GAP call is among them. -/
def BlePc.selecting : BlePc → Bool
  | .check | .idle | .take | .locked | .giveSkip => true
  | _ => false

theorem BlePc.issues_of_selecting {pc : BlePc} (selecting : pc.selecting) : pc.issues = none := by
  cases pc <;> simp_all [BlePc.selecting, BlePc.issues]

def Label.rewritesStore : Label cfg → Bool
  | .httpParse _ _ => true
  | _ => false

/-- `ble_adv_task` retries the undecodable record at `index = 0`. -/
structure Stalled (s : Firmware cfg) : Prop where
  refused : ∀ i : Fin cfg.NUM_TAGS, i.val = 0 →
    (cfg.decoder.decode BIN_DATA_LEN (s.airtagList i).data).1 ≠ 0
  counted : 0 < s.airtagCount
  index_zero : s.index = 0
  selecting : s.ble.selecting
  quiet : s.pending = []

section Stall

variable {s s' : Firmware cfg} (stalled : Stalled s)
include stalled

theorem Stalled.selectTag (selected : selectTag s = some s') : Stalled s' := by
  have refused := stalled.refused
    ⟨s.index.toNat, by have := stalled.index_zero; have := cfg.numTags_pos; omega⟩
    (by simp [stalled.index_zero])
  unfold RelayFirmware.selectTag at selected
  rw [if_neg (by simp [stalled.index_zero, stalled.counted]),
    dif_pos ⟨by simp [stalled.index_zero], by simp [stalled.index_zero, cfg.numTags_pos]⟩,
    airtagToBleAdvertisement_eq, if_pos refused] at selected
  obtain rfl := Option.some.inj selected
  exact { stalled with selecting := rfl }

theorem Stalled.bleStep {callOk : Bool} (stepped : bleAdvTaskStep s callOk = some s') :
    Stalled s' := by
  have selecting := stalled.selecting
  cases pc : s.ble <;> simp only [bleAdvTaskStep, pc] at stepped <;>
    simp only [pc, BlePc.selecting, Bool.false_eq_true] at selecting
  case check =>
    rw [if_neg (by have := stalled.counted; omega)] at stepped
    obtain rfl := Option.some.inj stepped
    exact { stalled with selecting := rfl }
  case take =>
    split at stepped
    · obtain rfl := Option.some.inj stepped
      exact { stalled with selecting := rfl }
    · cases stepped
  case locked => exact stalled.selectTag stepped
  all_goals
    obtain rfl := Option.some.inj stepped
    exact { stalled with selecting := rfl }

theorem Stalled.next {label : Label cfg} (keeps : label.rewritesStore = false)
    (stepped : step s label = some s') : Stalled s' := by
  cases label with
  | httpParse => cases keeps
  | bleStep callOk =>
      simp only [step] at stepped
      split at stepped
      · cases stepped
      · exact stalled.bleStep stepped
  | gapEvent event status =>
      rcases gapEvent_cases stepped with ⟨-, rfl⟩ | ⟨-, command, rest, unanswered, rfl⟩
      · exact stalled
      · simp [stalled.quiet] at unanswered
  | httpStep =>
      simp only [step, httpClientTaskStep] at stepped
      repeat' split at stepped
      all_goals cases stepped <;> exact { stalled with }
  | _ =>
      simp only [step] at stepped
      repeat' split at stepped
      all_goals cases stepped <;> exact { stalled with }

end Stall

theorem Stalled.run {s : Firmware cfg} (stalled : Stalled s) :
    ∀ {labels : List (Label cfg)}, (∀ label ∈ labels, label.rewritesStore = false) →
      gapCalls s labels = [] ∧ ∀ s', run s labels = some s' → s'.index = 0
  | [], _ => ⟨rfl, fun _ reached => (Option.some.inj reached) ▸ stalled.index_zero⟩
  | label :: rest, keeps => by
      have quiet : gapCall s label = none := by
        cases label <;> simp [gapCall, BlePc.issues_of_selecting stalled.selecting]
      cases stepped : step s label with
      | none => exact ⟨by simp [gapCalls, stepped], fun _ reached => by simp [RelayFirmware.run, stepped] at reached⟩
      | some next =>
          have continues := (stalled.next (keeps label (List.mem_cons_self _ _)) stepped).run
            (fun l member => keeps l (List.mem_cons_of_mem _ member))
          exact ⟨by simp [gapCalls, stepped, quiet, continues.1],
            fun s' reached => continues.2 s' (by simpa [RelayFirmware.run, stepped] using reached)⟩

/-- A first record that never decodes keeps `index` at 0 and the radio silent until the store is
rewritten. -/
theorem undecodable_first_record_stalls_rotation (cfg : Config) (list : Fin cfg.NUM_TAGS → Airtag)
    (count : Int) (counted : 0 < count ∧ count ≤ cfg.NUM_TAGS)
    (refused : (cfg.decoder.decode BIN_DATA_LEN (list ⟨0, cfg.numTags_pos⟩).data).1 ≠ 0) :
    ∃ s, run (Firmware.initial cfg) (download list count) = some s ∧ s.airtagCount = count ∧
      (∃ s', run s [.bleStep true, .bleStep true, .bleStep true] = some s' ∧
        s'.ble = .giveSkip ∧ s'.index = 0) ∧
      ∀ labels, (∀ label ∈ labels, label.rewritesStore = false) →
        gapCalls s labels = [] ∧ ∀ s', run s labels = some s' → s'.index = 0 := by
  refine ⟨_, run_download rfl rfl rfl ⟨counted.1.le, counted.2⟩, rfl, ?_,
    fun _ keeps => Stalled.run ?_ keeps⟩
  · have positive : (0 : Int) < cfg.NUM_TAGS := by have := cfg.numTags_pos; omega
    have occupied : ¬ count ≤ 0 := not_le.mpr counted.1
    repeat
      rw [run]
      simp [step, bleAdvTaskStep, selectTag, Firmware.initial, occupied, counted.1, positive,
        airtagToBleAdvertisement_eq, refused]
  · exact
      { refused := fun i first => by rwa [show i = ⟨0, cfg.numTags_pos⟩ from Fin.ext first]
        counted := counted.1
        index_zero := rfl
        selecting := rfl
        quiet := rfl }

def brokenTag : Airtag := ⟨['!'], by decide⟩

theorem brokenTag_refused (decoder : Base64Decoder) :
    (decoder.decode BIN_DATA_LEN brokenTag.data).1 ≠ 0 := by
  rw [decoder.decode_invalid BIN_DATA_LEN brokenTag.data '!' (by decide) (by decide)]
  decide

def brokenStore (cfg : Config) : Fin cfg.NUM_TAGS → Airtag :=
  fun i => if i.val = 0 then brokenTag else zeroTag

theorem brokenStore_stalls_rotation :
    ((0 : Int) < 2 ∧ (2 : Int) ≤ benchConfig.NUM_TAGS) ∧
      (benchConfig.decoder.decode BIN_DATA_LEN
        (brokenStore benchConfig ⟨0, benchConfig.numTags_pos⟩).data).1 ≠ 0 ∧
      ∃ s, run (Firmware.initial benchConfig) (download (brokenStore benchConfig) 2) = some s ∧
        s.airtagCount = 2 ∧
        (∃ s', run s [.bleStep true, .bleStep true, .bleStep true] = some s' ∧
          s'.ble = .giveSkip ∧ s'.index = 0) ∧
        ∀ labels, (∀ label ∈ labels, label.rewritesStore = false) →
          gapCalls s labels = [] ∧ ∀ s', run s labels = some s' → s'.index = 0 :=
  have counted : (0 : Int) < 2 ∧ (2 : Int) ≤ benchConfig.NUM_TAGS := by decide
  have refused := brokenTag_refused benchConfig.decoder
  ⟨counted, refused,
    undecodable_first_record_stalls_rotation benchConfig (brokenStore benchConfig) 2 counted refused⟩

/-! ### The stall is a busy loop -/

theorem bleAdvTaskStep_idle {s s' : Firmware cfg} {callOk : Bool}
    (stepped : bleAdvTaskStep s callOk = some s') (idle : s'.ble = .idle) :
    s.ble = .check ∧ s.airtagCount ≤ 0 := by
  cases pc : s.ble <;> simp only [bleAdvTaskStep, pc] at stepped
  case check =>
    split_ifs at stepped with empty
    · exact ⟨rfl, empty⟩
    · cases stepped
      cases idle
  case locked =>
    rcases selectTag_ble stepped with moved | moved | ⟨same, -⟩ <;> simp_all
  all_goals
    try simp only [issue, awaitSem] at stepped
    (try split_ifs at stepped) <;> cases stepped <;> simp [pc] at idle

theorem Stalled.spins {s s' : Firmware cfg} {label : Label cfg} (stalled : Stalled s)
    (busy : s.ble ≠ .idle) (stepped : step s label = some s') : s'.ble ≠ .idle := by
  rcases step_ble stepped with ⟨callOk, rfl, moved⟩ | ⟨-, stayed, -⟩
  · intro idle
    have empty := (bleAdvTaskStep_idle moved idle).2
    have := stalled.counted
    omega
  · rwa [stayed]

theorem Stalled.run_spins {s : Firmware cfg} (stalled : Stalled s) (busy : s.ble ≠ .idle) :
    ∀ {labels : List (Label cfg)} {s' : Firmware cfg}, (∀ label ∈ labels, label.rewritesStore = false) →
      RelayFirmware.run s labels = some s' → Stalled s' ∧ s'.ble ≠ .idle
  | [], _, _, reached => (Option.some.inj reached) ▸ ⟨stalled, busy⟩
  | label :: rest, _, keeps, reached => by
      obtain ⟨next, stepped, later⟩ : ∃ next, step s label = some next ∧
          RelayFirmware.run next rest = some _ := by
        simpa [RelayFirmware.run, Option.bind_eq_some] using reached
      exact (stalled.next (keeps label (List.mem_cons_self _ _)) stepped).run_spins
        (stalled.spins busy stepped) (fun l member => keeps l (List.mem_cons_of_mem _ member)) later

/-- The stall is a busy loop of check, take, selection and give, with no delay or `ble_sem` take. -/
theorem undecodable_first_record_spins (cfg : Config) (list : Fin cfg.NUM_TAGS → Airtag)
    (count : Int) (counted : 0 < count ∧ count ≤ cfg.NUM_TAGS)
    (refused : (cfg.decoder.decode BIN_DATA_LEN (list ⟨0, cfg.numTags_pos⟩).data).1 ≠ 0) :
    ∃ s, run (Firmware.initial cfg) (download list count) = some s ∧
      ∀ labels s', (∀ label ∈ labels, label.rewritesStore = false) → run s labels = some s' →
        s'.ble = .check ∨ s'.ble = .take ∨ s'.ble = .locked ∨ s'.ble = .giveSkip := by
  have stalled : Stalled { Firmware.initial cfg with airtagList := list, airtagCount := count, http := .delay } :=
    { refused := fun i first => by rwa [show i = ⟨0, cfg.numTags_pos⟩ from Fin.ext first]
      counted := counted.1
      index_zero := rfl
      selecting := rfl
      quiet := rfl }
  refine ⟨_, run_download rfl rfl rfl ⟨counted.1.le, counted.2⟩, fun labels s' keeps reached => ?_⟩
  obtain ⟨stalled', busy⟩ := stalled.run_spins (fun started => by cases started) keeps reached
  have selecting := stalled'.selecting
  revert busy selecting
  generalize s'.ble = pc
  cases pc <;> decide

theorem brokenStore_spins :
    ((0 : Int) < 2 ∧ (2 : Int) ≤ benchConfig.NUM_TAGS) ∧
      (benchConfig.decoder.decode BIN_DATA_LEN
        (brokenStore benchConfig ⟨0, benchConfig.numTags_pos⟩).data).1 ≠ 0 ∧
      ∃ s, run (Firmware.initial benchConfig) (download (brokenStore benchConfig) 2) = some s ∧
        ∀ labels s', (∀ label ∈ labels, label.rewritesStore = false) → run s labels = some s' →
          s'.ble = .check ∨ s'.ble = .take ∨ s'.ble = .locked ∨ s'.ble = .giveSkip :=
  have counted : (0 : Int) < 2 ∧ (2 : Int) ≤ benchConfig.NUM_TAGS := by decide
  have refused := brokenTag_refused benchConfig.decoder
  ⟨counted, refused, undecodable_first_record_spins benchConfig (brokenStore benchConfig) 2 counted refused⟩

/-! ### A store whose records all decode -/

theorem selectTag_store {s s' : Firmware cfg} (selected : selectTag s = some s') :
    s'.airtagList = s.airtagList ∧ s'.airtagCount = s.airtagCount := by
  unfold selectTag at selected
  split at selected
  · obtain rfl := Option.some.inj selected
    exact ⟨rfl, rfl⟩
  · split at selected
    · split at selected <;> obtain rfl := Option.some.inj selected <;> exact ⟨rfl, rfl⟩
    · obtain rfl := Option.some.inj selected
      exact ⟨rfl, rfl⟩

theorem step_store {s s' : Firmware cfg} {label : Label cfg} (keeps : label.rewritesStore = false)
    (stepped : step s label = some s') :
    s'.airtagList = s.airtagList ∧ s'.airtagCount = s.airtagCount ∧
      (selection s label = none ∧ s'.index = s.index ∨
        (∃ callOk, label = .bleStep callOk) ∧ s.ble = .locked ∧ selectTag s = some s') := by
  cases label with
  | httpParse => cases keeps
  | bleStep callOk =>
      simp only [step] at stepped
      split at stepped
      · cases stepped
      by_cases locked : s.ble = .locked
      · simp only [bleAdvTaskStep, locked] at stepped
        obtain ⟨sameList, sameCount⟩ := selectTag_store stepped
        exact ⟨sameList, sameCount, .inr ⟨⟨callOk, rfl⟩, locked, stepped⟩⟩
      · obtain ⟨sameList, sameCount, sameIndex, -⟩ := bleAdvTaskStep_frame stepped locked
        exact ⟨sameList, sameCount, .inl ⟨by simp [selection, locked], sameIndex⟩⟩
  | gapEvent event status =>
      rcases gapEvent_cases stepped with ⟨-, rfl⟩ | ⟨-, -, -, -, rfl⟩ <;>
        exact ⟨rfl, rfl, .inl ⟨rfl, rfl⟩⟩
  | httpStep =>
      simp only [step, httpClientTaskStep] at stepped
      repeat' split at stepped
      all_goals cases stepped <;> exact ⟨rfl, rfl, .inl ⟨rfl, rfl⟩⟩
  | _ =>
      simp only [step] at stepped
      repeat' split at stepped
      all_goals cases stepped <;> exact ⟨rfl, rfl, .inl ⟨rfl, rfl⟩⟩

/-- The store after a run: its last download's, or `list` and `count` if it has none. -/
def lastDownload (list : Fin cfg.NUM_TAGS → Airtag) (count : Int) :
    List (Label cfg) → (Fin cfg.NUM_TAGS → Airtag) × Int
  | [] => (list, count)
  | .httpParse list' count' :: rest => lastDownload list' count' rest
  | _ :: rest => lastDownload list count rest

/-- Each download replaces the whole store, and nothing else writes it. -/
theorem store_is_last_download {s s' : Firmware cfg} {labels : List (Label cfg)}
    (reached : run s labels = some s') :
    (s'.airtagList, s'.airtagCount) = lastDownload s.airtagList s.airtagCount labels := by
  induction labels generalizing s with
  | nil =>
      obtain rfl := Option.some.inj reached
      rfl
  | cons label rest ih =>
      obtain ⟨next, stepped, later⟩ : ∃ next, step s label = some next ∧ run next rest = some s' := by
        simpa [run, Option.bind_eq_some] using reached
      cases label with
      | httpParse list count =>
          obtain ⟨-, -, -, rfl⟩ := httpParse_cases stepped
          exact ih later
      | _ =>
          obtain ⟨sameList, sameCount, -⟩ := step_store (by rfl) stepped
          rw [ih later, sameList, sameCount]
          rfl

theorem selection_store_is_last_download :
    ∃ s, run (Firmware.initial benchConfig) (selectionTrace benchConfig) = some s ∧
      (s.airtagList, s.airtagCount) =
        lastDownload (fun _ => Airtag.empty) 0 (selectionTrace benchConfig) :=
  ⟨_, rfl, @store_is_last_download benchConfig (Firmware.initial benchConfig) _ _ rfl⟩

/-- `ble_adv_task` reads a stored record at `index`, and every stored record decodes. -/
structure Rotating (s : Firmware cfg) : Prop where
  invariant : Invariant s
  reads_stored : s.index < s.airtagCount
  decodes : ∀ i : Fin cfg.NUM_TAGS, (i.val : Int) < s.airtagCount →
    (cfg.decoder.decode BIN_DATA_LEN (s.airtagList i).data).1 = 0

/-- A step that leaves the store alone, or a download of `count` records that all decode. -/
def Refreshes (count : Int) : Label cfg → Prop
  | .httpParse list count' => count' = count ∧ ∀ i : Fin cfg.NUM_TAGS, (i.val : Int) < count →
      (cfg.decoder.decode BIN_DATA_LEN (list i).data).1 = 0
  | _ => True

theorem Refreshes.of_keeps {label : Label cfg} (keeps : label.rewritesStore = false) (count : Int) :
    Refreshes count label := by
  cases label <;> first | exact trivial | cases keeps

section Rotate

variable {s s' : Firmware cfg} (rotating : Rotating s)
include rotating

theorem Rotating.selectTag (selected : selectTag s = some s') :
    s'.index = (s.index + 1) % s.airtagCount := by
  have inv := rotating.invariant
  have inArray : 0 ≤ s.index ∧ s.index < cfg.NUM_TAGS := ⟨inv.index_nonneg, inv.index_lt⟩
  have decoded := rotating.decodes ⟨s.index.toNat, by omega⟩
    (by simp only [Int.toNat_of_nonneg inv.index_nonneg, rotating.reads_stored])
  unfold RelayFirmware.selectTag at selected
  rw [if_neg (not_not.mpr rotating.reads_stored), dif_pos inArray, airtagToBleAdvertisement_eq,
    if_neg (not_not.mpr decoded)] at selected
  obtain rfl := Option.some.inj selected
  exact Int.tmod_eq_emod (by omega) inv.count_nonneg

theorem Rotating.step {label : Label cfg} (keeps : label.rewritesStore = false)
    (stepped : step s label = some s') :
    Rotating s' ∧ s'.airtagCount = s.airtagCount ∧
      (selection s label = none ∧ s'.index = s.index ∨
        selection s label = some s.index ∧ s'.index = (s.index + 1) % s.airtagCount) := by
  have inv := rotating.invariant
  obtain ⟨sameList, sameCount, moved⟩ := step_store keeps stepped
  have positive : 0 < s.airtagCount := by
    have := inv.index_nonneg
    have := rotating.reads_stored
    omega
  have next : selection s label = none ∧ s'.index = s.index ∨
      selection s label = some s.index ∧ s'.index = (s.index + 1) % s.airtagCount := by
    rcases moved with unread | ⟨⟨callOk, rfl⟩, locked, selected⟩
    · exact .inl unread
    · exact .inr ⟨by simp [selection, locked, rotating.reads_stored], rotating.selectTag selected⟩
  refine ⟨{ invariant := inv.next stepped, reads_stored := ?_, decodes := ?_ }, sameCount, next⟩
  · rw [sameCount]
    rcases next with ⟨-, same⟩ | ⟨-, moved⟩
    · exact same ▸ rotating.reads_stored
    · exact moved ▸ Int.emod_lt_of_pos _ positive
  · intro i stored
    rw [sameList]
    exact rotating.decodes i (sameCount ▸ stored)

theorem Rotating.refresh {label : Label cfg} (refreshes : Refreshes s.airtagCount label)
    (stepped : RelayFirmware.step s label = some s') :
    Rotating s' ∧ s'.airtagCount = s.airtagCount ∧
      (selection s label = none ∧ s'.index = s.index ∨
        selection s label = some s.index ∧ s'.index = (s.index + 1) % s.airtagCount) := by
  cases label with
  | httpParse list count =>
      obtain ⟨-, -, -, rfl⟩ := httpParse_cases stepped
      obtain ⟨rfl, decodes⟩ := refreshes
      exact ⟨⟨rotating.invariant.next stepped, rotating.reads_stored, decodes⟩, rfl, .inl ⟨rfl, rfl⟩⟩
  | _ => exact rotating.step rfl stepped

end Rotate

theorem rotation_cons {i c : Int} (reduced : i % c = i) (n : Nat) :
    i :: (List.range n).map (fun j : Nat => ((i + 1) % c + j) % c) =
      (List.range (n + 1)).map fun j : Nat => (i + j) % c := by
  simp only [List.range_succ_eq_map, List.map_cons, List.map_map, Nat.cast_zero, add_zero, reduced,
    List.cons.injEq, true_and]
  refine List.map_congr_left fun j _ => ?_
  rw [Function.comp_apply, Int.emod_add_emod, Nat.cast_succ, add_assoc, add_comm 1]

theorem Rotating.selections {s : Firmware cfg} (rotating : Rotating s) :
    ∀ {labels : List (Label cfg)}, (∀ label ∈ labels, Refreshes s.airtagCount label) →
      ∃ n, selections s labels = (List.range n).map fun j : Nat => (s.index + j) % s.airtagCount
  | [], _ => ⟨0, rfl⟩
  | label :: rest, refreshes => by
      cases stepped : RelayFirmware.step s label with
      | none => exact ⟨0, by simp [RelayFirmware.selections, stepped]⟩
      | some next =>
          obtain ⟨rotating', sameCount, moved⟩ :=
            rotating.refresh (refreshes label (List.mem_cons_self _ _)) stepped
          obtain ⟨n, later⟩ :=
            rotating'.selections fun l member => sameCount ▸ refreshes l (List.mem_cons_of_mem _ member)
          rcases moved with ⟨unread, same⟩ | ⟨read, moved⟩
          · exact ⟨n, by simp [RelayFirmware.selections, stepped, unread, later, same, sameCount]⟩
          · refine ⟨n + 1, ?_⟩
            simp only [RelayFirmware.selections, stepped, read, later, moved, sameCount,
              Option.toList_some, List.singleton_append]
            exact rotation_cons
              (Int.emod_eq_of_lt rotating.invariant.index_nonneg rotating.reads_stored) n

theorem count_consecutive_residues (i k r : Int) (positive : 0 < k) (nonneg : 0 ≤ r) (lt : r < k) :
    ∀ n : Nat, n / k.toNat ≤ ((List.range n).map fun j : Nat => (i + j) % k).count r := by
  intro n
  induction n using Nat.strong_induction_on with
  | _ n ih =>
    by_cases short : n < k.toNat
    · rw [Nat.div_eq_of_lt short]
      exact Nat.zero_le _
    obtain ⟨m, rfl⟩ : ∃ m, n = m + k.toNat := ⟨n - k.toNat, by omega⟩
    have hit : r ∈ ((List.range k.toNat).map (m + ·)).map fun j : Nat => (i + j) % k := by
      simp only [List.map_map, List.mem_map, List.mem_range, Function.comp]
      have below := Int.emod_lt_of_pos (r - i - m) positive
      refine ⟨((r - i - m) % k).toNat, by omega, ?_⟩
      rw [Nat.cast_add, Int.toNat_of_nonneg (Int.emod_nonneg _ (by omega)), ← add_assoc,
        Int.add_emod_emod, show i + m + (r - i - m) = r by omega, Int.emod_eq_of_lt nonneg lt]
    rw [List.range_add, List.map_append, List.count_append, Nat.add_div_right _ (by omega)]
    exact Nat.add_le_add (ih m (by omega)) (List.count_pos_iff.mpr hit)

/-- With every record decoding and no download, the records are read in cyclic order from
`index`. -/
theorem decodable_store_rotates {s : Firmware cfg} (rotating : Rotating s)
    (labels : List (Label cfg)) (keeps : ∀ label ∈ labels, label.rewritesStore = false) :
    (∃ n, selections s labels = (List.range n).map fun j : Nat => (s.index + j) % s.airtagCount) ∧
      ∀ r, 0 ≤ r → r < s.airtagCount →
        (selections s labels).length / s.airtagCount.toNat ≤ (selections s labels).count r := by
  obtain ⟨n, read⟩ := rotating.selections fun label member => .of_keeps (keeps label member) _
  refine ⟨⟨n, read⟩, fun r nonneg lt => ?_⟩
  rw [read, List.length_map, List.length_range]
  exact count_consecutive_residues s.index s.airtagCount r (by omega) nonneg lt n

def zeroStore : Firmware benchConfig :=
  { Firmware.initial benchConfig with airtagList := fun _ => zeroTag, airtagCount := 2, http := .delay }

theorem zeroStore_rotating : Rotating zeroStore where
  invariant := Reachable.invariant ⟨download (fun _ => zeroTag) 2, rfl⟩
  reads_stored := by decide
  decodes := fun _ _ => zeroTag_decodes benchConfig.decoder

theorem zeroStore_rotates :
    Rotating zeroStore ∧
      (∀ label : Label benchConfig, label ∈ (List.replicate 3 (advertisingPass fun _ => .success)).flatten →
        label.rewritesStore = false) ∧
      (∃ n, selections zeroStore (List.replicate 3 (advertisingPass fun _ => .success)).flatten =
          (List.range n).map fun j : Nat => (zeroStore.index + j) % zeroStore.airtagCount) ∧
        ∀ r, 0 ≤ r → r < zeroStore.airtagCount →
          (selections zeroStore (List.replicate 3 (advertisingPass fun _ => .success)).flatten).length /
              zeroStore.airtagCount.toNat ≤
            (selections zeroStore (List.replicate 3 (advertisingPass fun _ => .success)).flatten).count r :=
  have keeps : ∀ label : Label benchConfig,
      label ∈ (List.replicate 3 (advertisingPass fun _ => .success)).flatten →
        label.rewritesStore = false := by decide
  ⟨zeroStore_rotating, keeps, decodable_store_rotates zeroStore_rotating _ keeps⟩

/-- Downloads of as many decodable records as before keep `index` and the cyclic order. -/
theorem refreshed_store_rotates {s : Firmware cfg} (rotating : Rotating s) (labels : List (Label cfg))
    (refreshes : ∀ label ∈ labels, Refreshes s.airtagCount label) :
    (∃ n, selections s labels = (List.range n).map fun j : Nat => (s.index + j) % s.airtagCount) ∧
      ∀ r, 0 ≤ r → r < s.airtagCount →
        (selections s labels).length / s.airtagCount.toNat ≤ (selections s labels).count r := by
  obtain ⟨n, read⟩ := rotating.selections refreshes
  refine ⟨⟨n, read⟩, fun r nonneg lt => ?_⟩
  rw [read, List.length_map, List.length_range]
  exact count_consecutive_residues s.index s.airtagCount r (by omega) nonneg lt n

def refreshTrace : List (Label benchConfig) :=
  .httpStep :: download (fun _ => zeroTag) 2 ++ selectionPass benchConfig

theorem zeroStore_refreshed_rotates :
    Rotating zeroStore ∧ (∀ label ∈ refreshTrace, Refreshes zeroStore.airtagCount label) ∧
      (∃ n, selections zeroStore refreshTrace =
          (List.range n).map fun j : Nat => (zeroStore.index + j) % zeroStore.airtagCount) ∧
        ∀ r, 0 ≤ r → r < zeroStore.airtagCount →
          (selections zeroStore refreshTrace).length / zeroStore.airtagCount.toNat ≤
            (selections zeroStore refreshTrace).count r :=
  have refreshes : ∀ label ∈ refreshTrace, Refreshes zeroStore.airtagCount label := by
    intro label member
    simp only [refreshTrace, download, selectionPass, List.cons_append, List.nil_append,
      List.mem_cons, List.not_mem_nil, or_false] at member
    rcases member with rfl | rfl | rfl | rfl | rfl | rfl | rfl | rfl
    all_goals first | exact trivial | exact ⟨rfl, fun _ _ => zeroTag_decodes _⟩
  ⟨zeroStore_rotating, refreshes, refreshed_store_rotates zeroStore_rotating _ refreshes⟩

/-! ### Records advertised in turn -/

theorem Rotating.pass {s : Firmware cfg} (rotating : Rotating s) (running : s.aborted = none)
    (checking : s.ble = .check) (free : s.mutex = none) (status : GapCommand → BtStatus) :
    ∃ s', Runs s (advertisingPass status)
        [.setRandAddr, .configAdvDataRaw, .startAdvertising, .stopAdvertising] [s.index] s' ∧
      Rotating s' ∧ s'.aborted = none ∧ s'.ble = .check ∧ s'.mutex = none ∧
      s'.airtagCount = s.airtagCount ∧ s'.index = (s.index + 1) % s.airtagCount := by
  have inv := rotating.invariant
  obtain ⟨quiet, empty⟩ : s.pending = [] ∧ s.bleSem = 0 := by
    simpa [Handshake, checking, BlePc.awaited] using inv.handshake
  have stored := rotating.reads_stored
  have inArray : 0 ≤ s.index ∧ s.index < cfg.NUM_TAGS := ⟨inv.index_nonneg, inv.index_lt⟩
  have decoded := rotating.decodes ⟨s.index.toNat, by omega⟩
    (by simp only [Int.toNat_of_nonneg inv.index_nonneg, stored])
  obtain ⟨addr, payload, built⟩ : ∃ addr payload, airtagToBleAdvertisement cfg.decoder
      (s.airtagList ⟨s.index.toNat, by omega⟩) Bytes.zero Bytes.zero = (.SUCCESS, addr, payload) := by
    rw [airtagToBleAdvertisement_eq, if_neg (not_not.mpr decoded)]
    exact ⟨_, _, rfl⟩
  let taken : Firmware cfg :=
    { s with mutex := some .ble, ble := .locked, addr := Bytes.zero, payload := Bytes.zero }
  let selected : Firmware cfg :=
    { taken with index := (s.index + 1) % s.airtagCount, addr := addr, payload := payload, ble := .give }
  have select : RelayFirmware.selectTag taken = some selected := by
    unfold RelayFirmware.selectTag
    rw [if_neg (not_not.mpr stored), dif_pos inArray]
    simp only [taken, built, selected, Int.tmod_eq_emod (show 0 ≤ s.index + 1 by omega) inv.count_nonneg]
  let checked : Firmware cfg := { s with ble := .take, addr := Bytes.zero, payload := Bytes.zero }
  have check : RelayFirmware.step s (.bleStep true) = some checked := by
    have positive : ¬ s.airtagCount ≤ 0 := by omega
    simp [RelayFirmware.step, running, bleAdvTaskStep, checking, positive, checked]
  have take : RelayFirmware.step checked (.bleStep true) = some taken := by
    simp [RelayFirmware.step, running, bleAdvTaskStep, checked, free, taken]
  have read : RelayFirmware.step taken (.bleStep true) = some selected := by
    show (if taken.aborted.isSome then none else RelayFirmware.selectTag taken) = _
    rw [if_neg (by simp [taken, running]), select]
  have chosen : Runs s (selectionPass cfg) [] [s.index] selected := by
    refine ⟨?_, ?_, ?_⟩
    · simp only [selectionPass, run, check, take, read, Option.some_bind]
    · simp [selectionPass, gapCalls, check, take, read, gapCall, checking, BlePc.issues, checked, taken]
    · simp [selectionPass, RelayFirmware.selections, check, take, read, RelayFirmware.selection, checking, checked,
        taken, stored]
  have cycle := chosen.append (@run_advertisingCycle cfg selected running rfl rfl quiet empty status)
  refine ⟨_, cycle, ⟨@run_preserves cfg Invariant (fun _ => True) (fun _ inv stepped => inv.next stepped)
    _ _ _ (fun _ _ => trivial) inv cycle.reached, Int.emod_lt_of_pos _ (by omega),
    rotating.decodes⟩, running, rfl, rfl, rfl, rfl⟩

/-- `n` passes advertise the records at `index`, `index + 1`, ... in turn, each with a whole
cycle. -/
theorem decodable_store_advertised_in_turn {s : Firmware cfg} (rotating : Rotating s)
    (running : s.aborted = none) (checking : s.ble = .check) (free : s.mutex = none)
    (status : GapCommand → BtStatus) (n : Nat) :
    ∃ s', run s (List.replicate n (advertisingPass status)).flatten = some s' ∧
      s'.index = (s.index + n) % s.airtagCount ∧
      gapCalls s (List.replicate n (advertisingPass status)).flatten =
        (List.replicate n [.setRandAddr, .configAdvDataRaw, .startAdvertising, .stopAdvertising]).flatten ∧
      selections s (List.replicate n (advertisingPass status)).flatten =
        (List.range n).map fun j : Nat => (s.index + j) % s.airtagCount := by
  suffices passes : ∀ (n : Nat) (s : Firmware cfg), Rotating s → s.aborted = none → s.ble = .check →
      s.mutex = none → ∃ s', Runs s (List.replicate n (advertisingPass status)).flatten
        (List.replicate n [.setRandAddr, .configAdvDataRaw, .startAdvertising, .stopAdvertising]).flatten
        ((List.range n).map fun j : Nat => (s.index + j) % s.airtagCount) s' ∧
        s'.index = (s.index + n) % s.airtagCount by
    obtain ⟨s', ran, moved⟩ := passes n s rotating running checking free
    exact ⟨s', ran.reached, moved, ran.called, ran.read⟩
  intro n
  induction n with
  | zero =>
      intro s rotating _ _ _
      refine ⟨s, ⟨rfl, rfl, rfl⟩, ?_⟩
      rw [Nat.cast_zero, add_zero, Int.emod_eq_of_lt rotating.invariant.index_nonneg rotating.reads_stored]
  | succ n ih =>
      intro s rotating running checking free
      obtain ⟨s₁, first, rotating₁, running₁, checking₁, free₁, sameCount, moved⟩ :=
        rotating.pass running checking free status
      obtain ⟨s', later, moved'⟩ := ih s₁ rotating₁ running₁ checking₁ free₁
      refine ⟨s', ?_, ?_⟩
      · have whole := first.append later
        rw [sameCount, moved, List.singleton_append, rotation_cons (Int.emod_eq_of_lt rotating.invariant.index_nonneg
          rotating.reads_stored)] at whole
        exact whole
      · rw [moved', sameCount, moved, Int.emod_add_emod, Nat.cast_succ, add_assoc, add_comm 1]

theorem zeroStore_advertised_in_turn :
    (Rotating zeroStore ∧ zeroStore.aborted = none ∧ zeroStore.ble = .check ∧ zeroStore.mutex = none) ∧
      ∃ s', run zeroStore (List.replicate 3 (advertisingPass fun _ => .success)).flatten = some s' ∧
        s'.index = (zeroStore.index + 3) % zeroStore.airtagCount ∧
        gapCalls zeroStore (List.replicate 3 (advertisingPass fun _ => .success)).flatten =
          (List.replicate 3 [.setRandAddr, .configAdvDataRaw, .startAdvertising, .stopAdvertising]).flatten ∧
        selections zeroStore (List.replicate 3 (advertisingPass fun _ => .success)).flatten =
          (List.range 3).map fun j : Nat => (zeroStore.index + j) % zeroStore.airtagCount :=
  ⟨⟨zeroStore_rotating, rfl, rfl, rfl⟩,
    decodable_store_advertised_in_turn zeroStore_rotating rfl rfl rfl _ 3⟩

/-! ### Downloads that never shrink the store -/

theorem step_assertIndex {s s' : Firmware cfg} {label : Label cfg} (stepped : step s label = some s')
    (failed : s'.aborted = some .assertIndex) : s.ble = .locked ∧ ¬ s.index < s.airtagCount := by
  have running : s.aborted = none := by
    cases aborted : s.aborted
    · rfl
    · simp [step, aborted] at stepped
  cases label with
  | bleStep callOk =>
      simp only [step, running, Option.isSome_none, Bool.false_eq_true, ↓reduceIte] at stepped
      by_cases locked : s.ble = .locked
      · simp only [bleAdvTaskStep, locked, selectTag] at stepped
        split at stepped
        · exact ⟨locked, ‹_›⟩
        · split at stepped
          · split at stepped <;> cases stepped <;>
              simp only [running, reduceCtorEq, Option.some.injEq] at failed
          · cases stepped
            simp at failed
      · rcases (bleAdvTaskStep_frame stepped locked).2.2.2.2.2 with same | ⟨command, errored⟩
        · rw [same, running] at failed
          cases failed
        · rw [errored] at failed
          cases failed
  | gapEvent event status =>
      rcases gapEvent_cases stepped with ⟨-, same⟩ | ⟨-, command, rest, -, same⟩ <;>
        simp [same, running] at failed
  | httpStep =>
      simp only [step, running, Option.isSome_none, Bool.false_eq_true, ↓reduceIte,
        httpClientTaskStep] at stepped
      repeat' split at stepped
      all_goals cases stepped <;>
        simp only [running, reduceCtorEq, Option.some.injEq] at failed
  | _ =>
      simp only [step, running, Option.isSome_none, Bool.false_eq_true, ↓reduceIte] at stepped
      repeat' split at stepped
      all_goals cases stepped <;>
        simp only [running, reduceCtorEq, Option.some.injEq] at failed

theorem selectTag_index {s s' : Firmware cfg} (inv : Invariant s) (reads : s.index < s.airtagCount)
    (selected : selectTag s = some s') :
    s'.index = s.index ∨ s'.index = (s.index + 1) % s.airtagCount := by
  unfold selectTag at selected
  rw [if_neg (not_not.mpr reads), dif_pos ⟨inv.index_nonneg, inv.index_lt⟩] at selected
  split at selected <;> obtain rfl := Option.some.inj selected
  · exact .inr (Int.tmod_eq_emod (by have := inv.index_nonneg; omega) inv.count_nonneg)
  · exact .inl rfl

theorem bleAdvTaskStep_before_check {s s' : Firmware cfg} {callOk : Bool}
    (empty : s.airtagCount = 0) (before : s.ble = .check ∨ s.ble = .idle)
    (stepped : bleAdvTaskStep s callOk = some s') : s'.ble = .check ∨ s'.ble = .idle := by
  rcases before with pc | pc <;> simp [bleAdvTaskStep, pc, empty] at stepped <;> simp [← stepped]

/-- `index` points at a stored record, or nothing is stored yet; the assertion has not failed. -/
structure Guarded (s : Firmware cfg) : Prop where
  invariant : Invariant s
  guard : s.index < s.airtagCount ∨
    s.index = 0 ∧ s.airtagCount = 0 ∧ (s.ble = .check ∨ s.ble = .idle)
  asserted : s.aborted ≠ some .assertIndex

theorem initial_guarded : Guarded (Firmware.initial cfg) :=
  ⟨initial_invariant, .inr ⟨rfl, rfl, .inl rfl⟩, by simp [Firmware.initial]⟩

section Guard

variable {s s' : Firmware cfg} (guarded : Guarded s)
include guarded

theorem Guarded.next {label : Label cfg} (keeps : label.rewritesStore = false)
    (stepped : step s label = some s') : Guarded s' := by
  have inv := guarded.invariant
  obtain ⟨-, sameCount, moved⟩ := step_store keeps stepped
  refine ⟨inv.next stepped, ?_, fun failed => ?_⟩
  · rw [sameCount]
    rcases guarded.guard with reads | ⟨zero, empty, before⟩
    · left
      rcases moved with ⟨-, same⟩ | ⟨-, -, selected⟩
      · rwa [same]
      · rcases selectTag_index inv reads selected with same | next
        · rwa [same]
        · rw [next]
          exact Int.emod_lt_of_pos _ (by have := inv.index_nonneg; omega)
    · rcases moved with ⟨-, same⟩ | ⟨-, locked, -⟩
      · refine .inr ⟨same ▸ zero, empty, ?_⟩
        rcases step_ble stepped with ⟨callOk, rfl, moved⟩ | ⟨-, sameBle, -⟩
        · exact bleAdvTaskStep_before_check empty before moved
        · rwa [sameBle]
      · rcases before with pc | pc <;> simp [pc] at locked
  · obtain ⟨locked, unread⟩ := step_assertIndex stepped failed
    rcases guarded.guard with reads | ⟨-, -, pc | pc⟩
    · exact unread reads
    all_goals simp [pc] at locked

theorem Guarded.parse {list : Fin cfg.NUM_TAGS → Airtag} {count : Int}
    (grows : s.airtagCount ≤ count) (stepped : step s (.httpParse list count) = some s') :
    Guarded s' := by
  have inv := guarded.invariant.next stepped
  obtain ⟨-, nonneg, -, rfl⟩ := httpParse_cases stepped
  refine ⟨inv, ?_, guarded.asserted⟩
  rcases guarded.guard with reads | ⟨zero, -, before⟩
  · exact .inl (lt_of_lt_of_le reads grows)
  · by_cases stored : 0 < count
    · exact .inl (by simpa [zero] using stored)
    · exact .inr ⟨zero, by simp only; omega, before⟩

end Guard

def storedCounts : List (Label cfg) → List Int
  | [] => []
  | .httpParse _ count :: rest => count :: storedCounts rest
  | _ :: rest => storedCounts rest

theorem Guarded.run {s s' : Firmware cfg} (guarded : Guarded s) :
    ∀ {labels : List (Label cfg)}, List.Chain (· ≤ ·) s.airtagCount (storedCounts labels) →
      RelayFirmware.run s labels = some s' → Guarded s'
  | [], _, reached => (Option.some.inj reached) ▸ guarded
  | label :: rest, growing, reached => by
      obtain ⟨next, stepped, later⟩ : ∃ next, step s label = some next ∧
          RelayFirmware.run next rest = some s' := by
        simpa [RelayFirmware.run, Option.bind_eq_some] using reached
      cases label with
      | httpParse list count =>
          rw [storedCounts, List.chain_cons] at growing
          obtain ⟨-, -, -, rfl⟩ := httpParse_cases stepped
          exact (guarded.parse growing.1 stepped).run growing.2 later
      | _ =>
          exact (guarded.next (by rfl) stepped).run
            (by rw [(step_store (by rfl) stepped).2.1]; exact growing) later

/-- If no download stores fewer records than the one before, the assertion at main.c:312 holds. -/
theorem growing_store_keeps_assertion {labels : List (Label cfg)} {s : Firmware cfg}
    (growing : List.Chain (· ≤ ·) 0 (storedCounts labels))
    (reached : run (Firmware.initial cfg) labels = some s) :
    s.aborted ≠ some .assertIndex ∧ (0 < s.airtagCount → s.index < s.airtagCount) := by
  have guarded := initial_guarded.run growing reached
  refine ⟨guarded.asserted, fun stored => ?_⟩
  rcases guarded.guard with reads | ⟨-, empty, -⟩
  · exact reads
  · omega

theorem zeroTag_download_keeps_assertion :
    List.Chain (· ≤ ·) 0 (storedCounts (selectionTrace benchConfig)) ∧
      ∃ s, run (Firmware.initial benchConfig) (selectionTrace benchConfig) = some s ∧
        s.aborted ≠ some .assertIndex ∧ (0 < s.airtagCount → s.index < s.airtagCount) :=
  have growing : List.Chain (· ≤ ·) 0 (storedCounts (selectionTrace benchConfig)) := by
    simp [storedCounts, selectionTrace, download]
  ⟨growing, _, rfl, growing_store_keeps_assertion growing rfl⟩

/-- A download of fewer than `index + 1` records before the check fails the assertion, with no
race. -/
theorem shrinking_store_fails_assertion {s : Firmware cfg} (reachable : Reachable s)
    (running : s.aborted = none) (checking : s.ble = .check) (fetching : s.http = .perform)
    (list : Fin cfg.NUM_TAGS → Airtag) {count : Int} (stored : 0 < count) (shrunk : count ≤ s.index) :
    ∃ s', run s (download list count ++ selectionPass cfg) = some s' ∧
      s'.aborted = some .assertIndex := by
  have inv := reachable.invariant
  have free : s.mutex = none := by
    cases held : s.mutex with
    | none => rfl
    | some task =>
        cases task
        · simpa [fetching, HttpPc.holdsMutex] using inv.http_holds.1 held
        · simpa [checking, BlePc.holdsMutex] using inv.ble_holds.1 held
  have counted : 0 ≤ count ∧ count ≤ cfg.NUM_TAGS := ⟨stored.le, by have := inv.index_lt; omega⟩
  rw [run_append, run_download running fetching free counted, Option.some_bind]
  let failed : Firmware cfg :=
    { s with
      airtagList := list
      airtagCount := count
      mutex := some .ble
      http := .delay
      ble := .locked
      addr := Bytes.zero
      payload := Bytes.zero
      aborted := some .assertIndex }
  exact ⟨failed, by simp [selectionPass, run, step, bleAdvTaskStep, selectTag, running, checking, free,
    not_le.mpr stored, shrunk, failed], rfl⟩

theorem rotated_store_shrinks :
    ∃ s, run (Firmware.initial benchConfig) (rotatedTrace benchConfig) = some s ∧
      s.aborted = none ∧ s.ble = .check ∧ s.http = .perform ∧ (0 : Int) < 1 ∧ (1 : Int) ≤ s.index ∧
      ∃ s', run s (download (fun _ => Airtag.empty) 1 ++ selectionPass benchConfig) = some s' ∧
        s'.aborted = some .assertIndex :=
  ⟨_, rfl, rfl, rfl, rfl, by decide, by decide,
    shrinking_store_fails_assertion ⟨rotatedTrace benchConfig, rfl⟩ rfl rfl rfl _ (by decide)
      (by decide)⟩

/-! ### An empty store -/

theorem storedCounts_cons (label : Label cfg) (rest : List (Label cfg)) :
    storedCounts (label :: rest) = storedCounts [label] ++ storedCounts rest := by
  cases label <;> rfl

/-- The store is empty and `ble_adv_task` is at its check or in the delay after it. -/
structure Silent (s : Firmware cfg) : Prop where
  empty : s.airtagCount = 0
  waiting : s.ble = .check ∨ s.ble = .idle

section Silence

variable {s s' : Firmware cfg} (silent : Silent s)
include silent

theorem Silent.gapCall (label : Label cfg) : gapCall s label = none := by
  cases label <;> simp only [RelayFirmware.gapCall]
  rcases silent.waiting with pc | pc <;> simp [pc, BlePc.issues]

theorem Silent.next {label : Label cfg} (nothingStored : ∀ count ∈ storedCounts [label], count = 0)
    (stepped : step s label = some s') : Silent s' := by
  have empty : s'.airtagCount = 0 := by
    cases label with
    | httpParse list count =>
        obtain ⟨-, -, -, rfl⟩ := httpParse_cases stepped
        exact nothingStored count (List.mem_singleton_self _)
    | _ => rw [(step_store (by rfl) stepped).2.1, silent.empty]
  refine ⟨empty, ?_⟩
  rcases step_ble stepped with ⟨callOk, rfl, moved⟩ | ⟨-, stayed, -⟩
  · rcases silent.waiting with pc | pc <;>
      simp only [bleAdvTaskStep, pc, silent.empty, le_refl, ↓reduceIte, Option.some.injEq] at moved <;>
      simp [← moved]
  · exact stayed ▸ silent.waiting

end Silence

theorem Silent.run {s : Firmware cfg} (silent : Silent s) :
    ∀ {labels : List (Label cfg)}, (∀ count ∈ storedCounts labels, count = 0) →
      gapCalls s labels = [] ∧ ∀ s', run s labels = some s' → Silent s'
  | [], _ => ⟨rfl, fun _ reached => (Option.some.inj reached) ▸ silent⟩
  | label :: rest, nothingStored => by
      rw [storedCounts_cons] at nothingStored
      cases stepped : step s label with
      | none =>
          exact ⟨by simp [gapCalls, stepped],
            fun _ reached => by simp [RelayFirmware.run, stepped] at reached⟩
      | some next =>
          have continues := (silent.next (fun count member =>
            nothingStored count (List.mem_append_left _ member)) stepped).run
            fun count member => nothingStored count (List.mem_append_right _ member)
          exact ⟨by simp [gapCalls, stepped, silent.gapCall, continues.1],
            fun s' reached => continues.2 s' (by simpa [RelayFirmware.run, stepped] using reached)⟩

/-- While downloads store no record, `ble_adv_task` calls no GAP function and never takes the
mutex. -/
theorem empty_store_keeps_radio_silent {s s' : Firmware cfg} {labels : List (Label cfg)}
    (empty : s.airtagCount = 0) (waiting : s.ble = .check ∨ s.ble = .idle)
    (nothingStored : ∀ count ∈ storedCounts labels, count = 0) (reached : run s labels = some s') :
    gapCalls s labels = [] ∧ s'.airtagCount = 0 ∧ (s'.ble = .check ∨ s'.ble = .idle) := by
  obtain ⟨quiet, stays⟩ := Silent.run ⟨empty, waiting⟩ nothingStored
  exact ⟨quiet, (stays s' reached).empty, (stays s' reached).waiting⟩

def idleTrace (cfg : Config) : List (Label cfg) :=
  download (fun _ => Airtag.empty) 0 ++ [.bleStep true, .bleStep true]

theorem initial_radio_silent :
    (Firmware.initial benchConfig).airtagCount = 0 ∧
      ((Firmware.initial benchConfig).ble = .check ∨ (Firmware.initial benchConfig).ble = .idle) ∧
      (∀ count ∈ storedCounts (idleTrace benchConfig), count = 0) ∧
      ∃ s', run (Firmware.initial benchConfig) (idleTrace benchConfig) = some s' ∧
        gapCalls (Firmware.initial benchConfig) (idleTrace benchConfig) = [] ∧ s'.airtagCount = 0 ∧
        (s'.ble = .check ∨ s'.ble = .idle) :=
  have nothingStored : ∀ count ∈ storedCounts (idleTrace benchConfig), count = 0 := by
    simp [storedCounts, idleTrace, download]
  ⟨rfl, .inl rfl, nothingStored, _, rfl, empty_store_keeps_radio_silent rfl (.inl rfl) nothingStored rfl⟩

/-! ### The record read under the mutex -/

/-- `addr` and `payload` advertise the stored record just read, and `index` is past it. -/
def ReadsStored (s : Firmware cfg) : Prop :=
  s.ble = .give → ∃ i : Fin cfg.NUM_TAGS, (i : Int) < s.airtagCount ∧
    s.index = ((i : Int) + 1) % s.airtagCount ∧
    airtagToBleAdvertisement cfg.decoder (s.airtagList i) Bytes.zero Bytes.zero =
      (.SUCCESS, s.addr, s.payload)

theorem selectTag_readsStored {s s' : Firmware cfg} (inv : Invariant s) (pc : s.ble = .locked)
    (selected : selectTag s = some s') : ReadsStored s' := by
  intro giving
  unfold selectTag at selected
  split at selected
  · obtain rfl := Option.some.inj selected
    simp [pc] at giving
  rw [dif_pos ⟨inv.index_nonneg, inv.index_lt⟩] at selected
  split at selected
  · next addr payload built =>
      obtain rfl := Option.some.inj selected
      have index : ((s.index.toNat : Nat) : Int) = s.index := Int.toNat_of_nonneg inv.index_nonneg
      refine ⟨⟨s.index.toNat, by have := inv.index_lt; omega⟩, by simp only [index]; omega, ?_,
        airtagToBleAdvertisement_success built _ _⟩
      simp only [index]
      exact Int.tmod_eq_emod (by have := inv.index_nonneg; omega) inv.count_nonneg
  · obtain rfl := Option.some.inj selected
    simp at giving

theorem ReadsStored.next {s s' : Firmware cfg} {label : Label cfg} (inv : Invariant s)
    (stored : ReadsStored s) (stepped : step s label = some s') : ReadsStored s' := by
  intro giving
  cases keeps : label.rewritesStore
  · obtain ⟨sameList, sameCount, moved⟩ := step_store keeps stepped
    rcases step_ble stepped with ⟨callOk, rfl, advanced⟩ | ⟨other, sameBle, sameAddr, samePayload⟩
    · by_cases locked : s.ble = .locked
      · exact selectTag_readsStored inv locked (by simpa [bleAdvTaskStep, locked] using advanced)
          giving
      have was : s.ble = .give := by
        rcases bleAdvTaskStep_ble advanced with next | ⟨same, -⟩
        · rw [giving] at next
          cases pc : s.ble <;> simp_all [BlePc.successors]
        · exact same ▸ giving
      obtain ⟨sameAddr, samePayload⟩ := bleAdvTaskStep_locals advanced (by simp [was]) locked
      have sameIndex : s'.index = s.index := by
        rcases moved with ⟨-, same⟩ | ⟨-, pc, -⟩
        · exact same
        · exact absurd pc locked
      rw [sameList, sameCount, sameIndex, sameAddr, samePayload]
      exact stored was
    · have sameIndex : s'.index = s.index := by
        rcases moved with ⟨-, same⟩ | ⟨⟨callOk, rfl⟩, -, -⟩
        · exact same
        · exact absurd rfl (other callOk)
      rw [sameList, sameCount, sameIndex, sameAddr, samePayload]
      exact stored (sameBle ▸ giving)
  · cases label with
    | httpParse list count =>
        obtain ⟨parsing, -, -, rfl⟩ := httpParse_cases stepped
        have byHttp := inv.http_holds.2 (by simp [parsing, HttpPc.holdsMutex])
        have byBle := inv.ble_holds.2 (by simp [show s.ble = .give from giving, BlePc.holdsMutex])
        simp [byHttp] at byBle
    | _ => cases keeps

/-- Between the index update and the give, the advertisement is of a stored record `i` and
`index = (i + 1) % airtag_count`. -/
theorem reachable_update_reads_stored_record {s : Firmware cfg} (reachable : Reachable s)
    (giving : s.ble = .give) :
    ∃ i : Fin cfg.NUM_TAGS, (i : Int) < s.airtagCount ∧
      s.index = ((i : Int) + 1) % s.airtagCount ∧
      airtagToBleAdvertisement cfg.decoder (s.airtagList i) Bytes.zero Bytes.zero =
        (.SUCCESS, s.addr, s.payload) := by
  obtain ⟨labels, reached⟩ := reachable
  have holds : Invariant s ∧ ReadsStored s :=
    @run_preserves cfg (fun s => Invariant s ∧ ReadsStored s) (fun _ => True)
      (fun _ holds stepped => ⟨holds.1.next stepped, holds.2.next holds.1 stepped⟩) _ _ labels
      (fun _ _ => trivial)
      ⟨initial_invariant, fun initial => by simp [Firmware.initial] at initial⟩ reached
  exact holds.2 giving

theorem zeroTag_update_reads_stored_record :
    ∃ s, run (Firmware.initial benchConfig) (selectionTrace benchConfig) = some s ∧ s.ble = .give ∧
      ∃ i : Fin benchConfig.NUM_TAGS, (i : Int) < s.airtagCount ∧
        s.index = ((i : Int) + 1) % s.airtagCount ∧
        airtagToBleAdvertisement benchConfig.decoder (s.airtagList i) Bytes.zero Bytes.zero =
          (.SUCCESS, s.addr, s.payload) :=
  ⟨_, rfl, rfl, reachable_update_reads_stored_record ⟨selectionTrace benchConfig, rfl⟩ rfl⟩

/-- `airtag_list` is only written and read under `airtag_mutex`; only the check reads
`airtag_count` outside it. -/
theorem reachable_store_access_under_mutex {s : Firmware cfg} (reachable : Reachable s) :
    ¬ (s.http.holdsMutex ∧ s.ble.holdsMutex) ∧
      (∀ label s', step s label = some s' → label.rewritesStore → s.mutex = some .http) ∧
      (∀ label, selection s label ≠ none → s.mutex = some .ble) := by
  have inv := reachable.invariant
  refine ⟨fun ⟨byHttp, byBle⟩ => ?_, fun label s' stepped writes => ?_, fun label reading => ?_⟩
  · have held := inv.http_holds.2 byHttp
    rw [inv.ble_holds.2 byBle] at held
    cases held
  · cases label with
    | httpParse list count =>
        exact inv.http_holds.2 (by simp [(httpParse_cases stepped).1, HttpPc.holdsMutex])
    | _ => cases writes
  · cases label with
    | bleStep callOk =>
        simp only [selection] at reading
        split_ifs at reading with locked
        · exact inv.ble_holds.2 (by simp [locked.1, BlePc.holdsMutex])
        · exact absurd rfl reading
    | _ => exact absurd rfl reading

theorem selection_store_access_under_mutex :
    ∃ s, run (Firmware.initial benchConfig) (selectionTrace benchConfig) = some s ∧
      ¬ (s.http.holdsMutex ∧ s.ble.holdsMutex) ∧
      (∀ label s', step s label = some s' → label.rewritesStore → s.mutex = some .http) ∧
      (∀ label, selection s label ≠ none → s.mutex = some .ble) :=
  ⟨_, rfl, reachable_store_access_under_mutex ⟨selectionTrace benchConfig, rfl⟩⟩

end RelayFirmware
