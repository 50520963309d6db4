import Mathlib.Data.List.GetD
import RelayFirmware.Airtag.Basic

/-!
`http_event_handler` and the download buffer of `http_client_task`
(main.c:153-179, 227-262).  `size_t` is 32 bits wide on the target; a
`memcpy` outside its arrays gives `none`.
-/

namespace RelayFirmware

/-- Conversion to the target's 32-bit `size_t`. -/
def sizeT (x : Int) : Nat := (x % 2 ^ 32).toNat

theorem sizeT_le (x : Int) (nonneg : 0 ≤ x) : sizeT x ≤ x := by
  unfold sizeT
  omega

theorem sizeT_natCast {x : Nat} (small : x < 2 ^ 32) : sizeT x = x := by
  unfold sizeT
  omega

def ESP_OK : Int := 0
def ESP_FAIL : Int := -1

/-- The HTTP client's events; `other` is what the handler's `default` case takes. -/
inductive HttpEvent
  | error  -- `HTTP_EVENT_ERROR`
  | onData (data : List UInt8)  -- `HTTP_EVENT_ON_DATA` with `evt->data` and `evt->data_len`
  | onFinish  -- `HTTP_EVENT_ON_FINISH`
  | disconnected  -- `HTTP_EVENT_DISCONNECTED`
  | other
  deriving DecidableEq, Repr

/-- `http_buffer` and the handler's `buffer_len`. -/
structure HttpBuffer (size : Nat) where
  httpBuffer : Bytes (size + 1)
  bufferLen : Nat

namespace HttpBuffer

variable {size : Nat}

def initial : HttpBuffer size := ⟨Bytes.zero, 0⟩

/-- `buffer_len` stays within the buffer and `http_buffer[HTTP_BUFFER_SIZE]` stays NUL. -/
structure Inv (st : HttpBuffer size) : Prop where
  bufferLen_le : st.bufferLen ≤ size
  terminated : st.httpBuffer (Fin.last size) = 0

theorem initial_inv : (initial : HttpBuffer size).Inv := ⟨Nat.zero_le _, rfl⟩

end HttpBuffer

/-- `memcpy(dst + offset, src, n)`; `none` when it leaves `dst` or `src`. -/
def memcpy {m : Nat} (dst : Bytes m) (offset : Nat) (src : List UInt8) (n : Nat) :
    Option (Bytes m) :=
  if offset + n ≤ m ∧ n ≤ src.length then
    some fun k =>
      if offset ≤ k.val ∧ k.val < offset + n then src.getD (k.val - offset) 0 else dst k
  else none

/-- `copy_len = MIN(evt->data_len, HTTP_BUFFER_SIZE - buffer_len)`, in `size_t`. -/
def copyLen (size bufferLen dataLen : Nat) : Nat :=
  min (sizeT dataLen) (sizeT ((size : Int) - bufferLen))

/-- `http_event_handler` (main.c:153): its return code and the new buffer. -/
def httpEventHandler {size : Nat} (st : HttpBuffer size) :
    HttpEvent → Option (Int × HttpBuffer size)
  | .error => some (ESP_FAIL, st)
  | .onData data =>
      let n := copyLen size st.bufferLen data.length
      (memcpy st.httpBuffer st.bufferLen data n).map fun buffer =>
        (ESP_OK, ⟨buffer, sizeT (st.bufferLen + n)⟩)
  | .onFinish => some (ESP_OK, { st with bufferLen := 0 })
  | .disconnected => some (ESP_OK, { st with bufferLen := 0 })
  | .other => some (ESP_OK, st)

/-- The handler run on a sequence of events, across any number of requests. -/
def handleEvents {size : Nat} (st : HttpBuffer size) : List HttpEvent → Option (HttpBuffer size)
  | [] => some st
  | event :: rest => (httpEventHandler st event).bind fun handled => handleEvents handled.2 rest

theorem handleEvents_append {size : Nat} (st : HttpBuffer size) (first later : List HttpEvent) :
    handleEvents st (first ++ later) = (handleEvents st first).bind (handleEvents · later) := by
  induction first generalizing st with
  | nil => rfl
  | cons event rest ih =>
      rw [List.cons_append]
      simp only [handleEvents, Option.bind_assoc, ih]

theorem handleEvents_error {size : Nat} (st : HttpBuffer size) (first later : List HttpEvent) :
    handleEvents st (first ++ .error :: later) = handleEvents st (first ++ later) := by
  rw [handleEvents_append, handleEvents_append]
  rfl

/-- The text `json_read_array` parses: `http_buffer` up to its first NUL. -/
def jsonText {size : Nat} (st : HttpBuffer size) : List UInt8 :=
  (List.ofFn st.httpBuffer).takeWhile (· != 0)

/-! ### The buffer invariant -/

section Invariant

variable {size : Nat} {st : HttpBuffer size}

theorem copyLen_le (inv : st.Inv) (dataLen : Nat) :
    st.bufferLen + copyLen size st.bufferLen dataLen ≤ size := by
  have room := sizeT_le ((size : Int) - st.bufferLen) (by have := inv.bufferLen_le; omega)
  have := inv.bufferLen_le
  unfold copyLen
  omega

theorem httpEventHandler_onData (inv : st.Inv) (data : List UInt8) :
    ∃ st', httpEventHandler st (.onData data) = some (ESP_OK, st') ∧
      st'.bufferLen = sizeT (st.bufferLen + copyLen size st.bufferLen data.length) ∧
      ∀ k, st'.httpBuffer k =
        if st.bufferLen ≤ k.val ∧ k.val < st.bufferLen + copyLen size st.bufferLen data.length
        then data.getD (k.val - st.bufferLen) 0 else st.httpBuffer k := by
  have within := copyLen_le inv data.length
  have fromData : copyLen size st.bufferLen data.length ≤ data.length := by
    have := sizeT_le data.length (Int.natCast_nonneg _)
    unfold copyLen
    omega
  have fitsBuffer : st.bufferLen + copyLen size st.bufferLen data.length ≤ size + 1 ∧
      copyLen size st.bufferLen data.length ≤ data.length := ⟨by omega, fromData⟩
  refine ⟨⟨fun k => if st.bufferLen ≤ k.val ∧
        k.val < st.bufferLen + copyLen size st.bufferLen data.length
      then data.getD (k.val - st.bufferLen) 0 else st.httpBuffer k,
    sizeT (st.bufferLen + copyLen size st.bufferLen data.length)⟩, ?_, rfl, fun k => rfl⟩
  simp only [httpEventHandler, memcpy, if_pos fitsBuffer, Option.map_some']

theorem httpEventHandler_inv (inv : st.Inv) (event : HttpEvent) :
    ∃ result, httpEventHandler st event = some result ∧ result.2.Inv := by
  cases event with
  | onData data =>
      obtain ⟨st', handled, grown, written⟩ := httpEventHandler_onData inv data
      have within := copyLen_le inv data.length
      have shrunk := sizeT_le (st.bufferLen + copyLen size st.bufferLen data.length) (by omega)
      refine ⟨(ESP_OK, st'), handled, ⟨show st'.bufferLen ≤ size by omega, ?_⟩⟩
      show st'.httpBuffer (Fin.last size) = 0
      rw [written, if_neg (by simp only [Fin.val_last]; omega)]
      exact inv.terminated
  | error => exact ⟨_, rfl, inv⟩
  | onFinish => exact ⟨_, rfl, ⟨Nat.zero_le _, inv.terminated⟩⟩
  | disconnected => exact ⟨_, rfl, ⟨Nat.zero_le _, inv.terminated⟩⟩
  | other => exact ⟨_, rfl, inv⟩

theorem handleEvents_inv (inv : st.Inv) :
    ∀ events : List HttpEvent, ∃ st', handleEvents st events = some st' ∧ st'.Inv := by
  intro events
  induction events generalizing st with
  | nil => exact ⟨st, rfl, inv⟩
  | cons event rest ih =>
      obtain ⟨result, handled, resultInv⟩ := httpEventHandler_inv inv event
      obtain ⟨st', rest', st'Inv⟩ := ih resultInv
      exact ⟨st', by simp [handleEvents, handled, rest'], st'Inv⟩

end Invariant

/-- Over every event sequence the handler never leaves the buffer: `buffer_len`
stays at most `HTTP_BUFFER_SIZE`, each copy lands inside it, and the last byte stays NUL. -/
theorem httpEventHandler_stays_in_buffer (size : Nat) (fits : size < 2 ^ 32)
    (events : List HttpEvent) :
    ∃ st, handleEvents (HttpBuffer.initial : HttpBuffer size) events = some st ∧
      st.bufferLen ≤ size ∧
      sizeT ((size : Int) - st.bufferLen) = size - st.bufferLen ∧
      st.httpBuffer (Fin.last size) = 0 ∧
      ∀ data : List UInt8, ∃ st', httpEventHandler st (.onData data) = some (ESP_OK, st') ∧
        st.bufferLen + copyLen size st.bufferLen data.length ≤ size ∧
        ∀ k : Fin (size + 1),
          ¬ (st.bufferLen ≤ k.val ∧ k.val < st.bufferLen + copyLen size st.bufferLen data.length) →
            st'.httpBuffer k = st.httpBuffer k := by
  obtain ⟨st, handled, inv⟩ := handleEvents_inv HttpBuffer.initial_inv events
  refine ⟨st, handled, inv.bufferLen_le, ?_, inv.terminated, fun data => ?_⟩
  · have := inv.bufferLen_le
    unfold sizeT
    omega
  · obtain ⟨st', onData, -, written⟩ := httpEventHandler_onData inv data
    refine ⟨st', onData, copyLen_le inv data.length, fun k outside => ?_⟩
    rw [written, if_neg outside]

theorem httpEventHandler_stays_in_buffer_example :
    (4 : Nat) < 2 ^ 32 ∧
      ∃ st, handleEvents (HttpBuffer.initial : HttpBuffer 4) [.onData [1, 2, 3, 4, 5]] = some st ∧
        st.bufferLen ≤ 4 ∧
        sizeT ((4 : Nat) - st.bufferLen : Int) = 4 - st.bufferLen ∧
        st.httpBuffer (Fin.last 4) = 0 ∧
        ∀ data : List UInt8, ∃ st', httpEventHandler st (.onData data) = some (ESP_OK, st') ∧
          st.bufferLen + copyLen 4 st.bufferLen data.length ≤ 4 ∧
          ∀ k : Fin (4 + 1),
            ¬ (st.bufferLen ≤ k.val ∧ k.val < st.bufferLen + copyLen 4 st.bufferLen data.length) →
              st'.httpBuffer k = st.httpBuffer k :=
  ⟨by decide, httpEventHandler_stays_in_buffer 4 (by decide) [.onData [1, 2, 3, 4, 5]]⟩

/-! ### What `json_read_array` reads -/

/-- After the body `AB` and then the body `C`, each ended by `ON_FINISH`, the text
parsed is `CB`: a shorter response is not terminated. -/
theorem shorter_response_keeps_stale_tail (size : Nat) (roomy : 2 ≤ size)
    (fits : size < 2 ^ 32) :
    ∃ st, handleEvents (HttpBuffer.initial : HttpBuffer size)
        [.onData [65, 66], .onFinish, .onData [67], .onFinish] = some st ∧
      jsonText st = [67, 66] := by
  have first : copyLen size 0 2 = 2 := by unfold copyLen sizeT; omega
  have second : copyLen size 0 1 = 1 := by unfold copyLen sizeT; omega
  obtain ⟨m, rfl⟩ : ∃ m, size = m + 2 := ⟨size - 2, by omega⟩
  simp [handleEvents, httpEventHandler, memcpy, first, second, HttpBuffer.initial, jsonText,
    List.ofFn_succ, sizeT]

theorem shorter_response_keeps_stale_tail_two :
    (2 ≤ 2 ∧ 2 < 2 ^ 32) ∧
      ∃ st, handleEvents (HttpBuffer.initial : HttpBuffer 2)
          [.onData [65, 66], .onFinish, .onData [67], .onFinish] = some st ∧
        jsonText st = [67, 66] :=
  ⟨⟨le_refl 2, by decide⟩, shorter_response_keeps_stale_tail 2 (le_refl 2) (by decide)⟩

/-! ### The body received since the last reset -/

/-- The response in progress after one more event: what `buffer_len` counts. -/
def bodySoFar (body : List UInt8) : HttpEvent → List UInt8
  | .onData data => body ++ data
  | .onFinish | .disconnected => []
  | .error | .other => body

/-- The buffer holds `body` at its start, cut to `HTTP_BUFFER_SIZE`. -/
structure HoldsBody {size : Nat} (st : HttpBuffer size) (body : List UInt8) : Prop where
  inv : st.Inv
  bufferLen_eq : st.bufferLen = min body.length size
  bytes : ∀ k : Fin (size + 1), k.val < st.bufferLen → st.httpBuffer k = body.getD k.val 0

section Response

variable {size : Nat} (fits : size < 2 ^ 32)
include fits

theorem copyLen_eq_min {st : HttpBuffer size} (inv : st.Inv) {n : Nat} (short : n < 2 ^ 31) :
    st.bufferLen + copyLen size st.bufferLen n = min (st.bufferLen + n) size ∧
      sizeT (st.bufferLen + copyLen size st.bufferLen n) = min (st.bufferLen + n) size := by
  have within := inv.bufferLen_le
  have copied : st.bufferLen + copyLen size st.bufferLen n = min (st.bufferLen + n) size := by
    rw [copyLen, sizeT_natCast (by omega), ← Int.ofNat_sub within, sizeT_natCast (by omega)]
    omega
  refine ⟨copied, ?_⟩
  rw [← Int.natCast_add, copied, sizeT_natCast (by omega)]

theorem handleEvents_onData (chunks : List (List UInt8))
    (short : ∀ chunk ∈ chunks, chunk.length < 2 ^ 31) :
    ∀ {st : HttpBuffer size}, st.Inv →
      ∃ st', handleEvents st (chunks.map .onData) = some st' ∧ st'.Inv ∧
        st'.bufferLen = min (st.bufferLen + chunks.flatten.length) size ∧
        ∀ k : Fin (size + 1), st'.httpBuffer k =
          if st.bufferLen ≤ k.val ∧ k.val < st'.bufferLen
          then chunks.flatten.getD (k.val - st.bufferLen) 0 else st.httpBuffer k := by
  induction chunks with
  | nil =>
      intro st inv
      refine ⟨st, rfl, inv, by simp [inv.bufferLen_le], fun k => ?_⟩
      rw [if_neg (by omega)]
  | cons chunk rest ih =>
      intro st inv
      obtain ⟨st₁, handled, grew, written₁⟩ := httpEventHandler_onData inv chunk
      obtain ⟨copied, wrapped⟩ := copyLen_eq_min fits inv (short chunk (List.mem_cons_self _ _))
      obtain ⟨result, handled', inv₁⟩ := httpEventHandler_inv inv (.onData chunk)
      obtain rfl : result = (ESP_OK, st₁) := Option.some.inj (handled'.symm.trans handled)
      obtain ⟨st', rest', inv', grew', written'⟩ :=
        ih (fun c member => short c (List.mem_cons_of_mem _ member)) (show st₁.Inv from inv₁)
      rw [wrapped] at grew
      rw [copied, ← grew] at written₁
      clear copied wrapped
      have := inv.bufferLen_le
      have := inv'.bufferLen_le
      refine ⟨st', by simp [handleEvents, handled, rest'], inv', ?_, fun k => ?_⟩
      · rw [grew', grew, List.flatten_cons, List.length_append]
        omega
      · have ordered : st.bufferLen ≤ st₁.bufferLen ∧ st₁.bufferLen ≤ st'.bufferLen ∧
            st₁.bufferLen ≤ st.bufferLen + chunk.length := by omega
        have whole : st₁.bufferLen < st'.bufferLen → st₁.bufferLen = st.bufferLen + chunk.length := by
          omega
        clear grew grew'
        rw [written', written₁, List.flatten_cons]
        by_cases inRest : st₁.bufferLen ≤ k.val ∧ k.val < st'.bufferLen
        · rw [if_pos inRest, if_pos (by omega), List.getD_append_right _ _ _ _ (by omega),
            whole (by omega), Nat.sub_add_eq]
        · rw [if_neg inRest]
          by_cases inFirst : st.bufferLen ≤ k.val ∧ k.val < st₁.bufferLen
          · rw [if_pos inFirst, if_pos (by omega), List.getD_append _ _ _ _ (by omega)]
          · rw [if_neg inFirst, if_neg (by omega)]

theorem handleEvents_response (st : HttpBuffer size) (inv : st.Inv) (reset : st.bufferLen = 0)
    (chunks : List (List UInt8)) (short : ∀ chunk ∈ chunks, chunk.length < 2 ^ 31) :
    ∃ st', handleEvents st (chunks.map .onData ++ [.onFinish]) = some st' ∧ st'.Inv ∧
      st'.bufferLen = 0 ∧
      List.ofFn st'.httpBuffer = chunks.flatten.take size ++
        (List.ofFn st.httpBuffer).drop (min chunks.flatten.length size) := by
  obtain ⟨st₁, body, inv₁, filled, written⟩ := handleEvents_onData fits chunks short inv
  rw [reset, Nat.zero_add] at filled
  have layout : List.ofFn st₁.httpBuffer = chunks.flatten.take size ++
      (List.ofFn st.httpBuffer).drop (min chunks.flatten.length size) := by
    apply List.ext_getElem
    · simp only [List.length_ofFn, List.length_append, List.length_take, List.length_drop]
      omega
    · intro i lhs rhs
      rw [List.getElem_ofFn, written, reset, filled]
      simp only [Nat.zero_le, true_and, Nat.sub_zero]
      by_cases inBody : i < min chunks.flatten.length size
      · rw [if_pos inBody, List.getElem_append_left (by simp only [List.length_take]; omega),
          List.getElem_take, List.getD_eq_getElem _ _ (by omega)]
      · rw [if_neg inBody, List.getElem_append_right (by simp only [List.length_take]; omega),
          List.getElem_drop, List.getElem_ofFn]
        congr 2
        simp only [List.length_take]
        omega
  exact ⟨{ st₁ with bufferLen := 0 }, by rw [handleEvents_append, body]; rfl,
    ⟨Nat.zero_le _, inv₁.terminated⟩, rfl, layout⟩

/-- A complete response after a reset is written over the start of `http_buffer`,
cut to `HTTP_BUFFER_SIZE`, and every later byte is the one held before. -/
theorem response_overwrites_buffer_start (st : HttpBuffer size) (inv : st.Inv)
    (reset : st.bufferLen = 0) (chunks : List (List UInt8))
    (short : ∀ chunk ∈ chunks, chunk.length < 2 ^ 31) :
    ∃ st', handleEvents st (chunks.map .onData ++ [.onFinish]) = some st' ∧ st'.Inv ∧
      st'.bufferLen = 0 ∧
      List.ofFn st'.httpBuffer = chunks.flatten.take size ++
        (List.ofFn st.httpBuffer).drop (min chunks.flatten.length size) ∧
      ((∀ byte ∈ chunks.flatten.take size, byte ≠ 0) →
        jsonText st' = chunks.flatten.take size ++
          ((List.ofFn st.httpBuffer).drop (min chunks.flatten.length size)).takeWhile (· != 0)) := by
  obtain ⟨st', handled, inv', reset', layout⟩ := handleEvents_response fits st inv reset chunks short
  refine ⟨st', handled, inv', reset', layout, fun noNul => ?_⟩
  rw [jsonText, layout, List.takeWhile_append_of_pos]
  intro byte member
  simpa using noNul byte member

/-- The text parsed after a complete response is its body alone exactly when the
byte just past the body was already NUL. -/
theorem parsed_text_is_body_iff (st : HttpBuffer size) (inv : st.Inv) (reset : st.bufferLen = 0)
    (chunks : List (List UInt8)) (short : ∀ chunk ∈ chunks, chunk.length < 2 ^ 31)
    (noNul : ∀ byte ∈ chunks.flatten.take size, byte ≠ 0) :
    ∃ st', handleEvents st (chunks.map .onData ++ [.onFinish]) = some st' ∧
      (jsonText st' = chunks.flatten.take size ↔
        ∀ k : Fin (size + 1), k.val = chunks.flatten.length → st.httpBuffer k = 0) := by
  obtain ⟨st', handled, -, -, layout⟩ := handleEvents_response fits st inv reset chunks short
  refine ⟨st', handled, ?_⟩
  have kept : min chunks.flatten.length size < (List.ofFn st.httpBuffer).length := by
    rw [List.length_ofFn]
    omega
  have after : st.httpBuffer ⟨min chunks.flatten.length size, by omega⟩ = 0 ↔
      ∀ k : Fin (size + 1), k.val = chunks.flatten.length → st.httpBuffer k = 0 := by
    by_cases fills : size ≤ chunks.flatten.length
    · have last : (⟨min chunks.flatten.length size, by omega⟩ : Fin (size + 1)) = Fin.last size :=
        Fin.ext (by simp only [Fin.val_last]; omega)
      refine ⟨fun _ k at_end => ?_, fun _ => last ▸ inv.terminated⟩
      rw [show k = Fin.last size from Fin.ext (by simp only [Fin.val_last]; omega)]
      exact inv.terminated
    · refine ⟨fun zero k at_end => ?_, fun zero => zero _ (by simp only; omega)⟩
      rw [show k = ⟨min chunks.flatten.length size, by omega⟩ from Fin.ext (by simp only; omega)]
      exact zero
  rw [jsonText, layout, List.takeWhile_append_of_pos (fun byte member => by simpa using noNul byte member),
    List.drop_eq_getElem_cons kept, List.takeWhile_cons, List.getElem_ofFn, List.append_right_eq_self,
    ← after]
  split_ifs with nonzero <;> simpa using nonzero

/-- After `HTTP_EVENT_ERROR` with no reset, the next response is written after the
partial body, not over it. -/
theorem error_keeps_partial_body (st : HttpBuffer size) (inv : st.Inv) (reset : st.bufferLen = 0)
    (cut next : List (List UInt8)) (short : ∀ chunk ∈ cut ++ next, chunk.length < 2 ^ 31) :
    ∃ st', handleEvents st (cut.map .onData ++ .error :: next.map .onData ++ [.onFinish]) =
        some st' ∧ st'.bufferLen = 0 ∧
      List.ofFn st'.httpBuffer = (cut ++ next).flatten.take size ++
        (List.ofFn st.httpBuffer).drop (min (cut ++ next).flatten.length size) := by
  obtain ⟨st', handled, -, reset', layout⟩ := handleEvents_response fits st inv reset (cut ++ next) short
  refine ⟨st', ?_, reset', layout⟩
  rw [List.append_assoc, List.cons_append, handleEvents_error, ← List.append_assoc, ← List.map_append,
    handled]

theorem HoldsBody.next {st : HttpBuffer size} {body : List UInt8} (holds : HoldsBody st body)
    (event : HttpEvent) (short : ∀ data, event = .onData data → data.length < 2 ^ 31) :
    ∃ st', handleEvents st [event] = some st' ∧ HoldsBody st' (bodySoFar body event) := by
  have inv := holds.inv
  cases event with
  | onData data =>
      obtain ⟨st', handled, grew, written⟩ := httpEventHandler_onData inv data
      obtain ⟨copied, wrapped⟩ := copyLen_eq_min fits inv (short data rfl)
      have kept := holds.bufferLen_eq
      obtain ⟨result, handled', inv'⟩ := httpEventHandler_inv inv (.onData data)
      obtain rfl : result = (ESP_OK, st') := Option.some.inj (handled'.symm.trans handled)
      rw [wrapped] at grew
      have length : st'.bufferLen = min (bodySoFar body (.onData data)).length size := by
        simp only [grew, kept, bodySoFar, List.length_append]
        omega
      refine ⟨st', by simp [handleEvents, handled], inv', length, fun k below => ?_⟩
      rw [written, copied]
      by_cases old : k.val < st.bufferLen
      · rw [if_neg (by omega), holds.bytes k old, bodySoFar, List.getD_append _ _ _ _ (by omega)]
      · have whole : st.bufferLen = body.length := by omega
        rw [if_pos ⟨by omega, by omega⟩, bodySoFar, List.getD_append_right _ _ _ _ (by omega), whole]
  | error => exact ⟨st, rfl, holds⟩
  | other => exact ⟨st, rfl, holds⟩
  | onFinish | disconnected =>
      exact ⟨{ st with bufferLen := 0 }, rfl, ⟨⟨Nat.zero_le _, inv.terminated⟩,
        by simp [bodySoFar], fun _ below => absurd below (Nat.not_lt_zero _)⟩⟩

/-- Over every event sequence the buffer starts with the body received since the
last `ON_FINISH` or `DISCONNECTED`, and `buffer_len` is its length, cut. -/
theorem buffer_holds_body_since_reset (events : List HttpEvent)
    (short : ∀ data, .onData data ∈ events → data.length < 2 ^ 31) :
    ∃ st, handleEvents (HttpBuffer.initial : HttpBuffer size) events = some st ∧
      st.bufferLen = min (events.foldl bodySoFar []).length size ∧
      ∀ k : Fin (size + 1), k.val < st.bufferLen →
        st.httpBuffer k = (events.foldl bodySoFar []).getD k.val 0 := by
  suffices running : ∀ (events : List HttpEvent) (st : HttpBuffer size) (body : List UInt8),
      (∀ data, .onData data ∈ events → data.length < 2 ^ 31) → HoldsBody st body →
      ∃ st', handleEvents st events = some st' ∧ HoldsBody st' (events.foldl bodySoFar body) by
    obtain ⟨st, handled, holds⟩ :=
      running events HttpBuffer.initial [] short
        ⟨HttpBuffer.initial_inv, by simp [HttpBuffer.initial], fun _ below => absurd below (Nat.not_lt_zero _)⟩
    exact ⟨st, handled, holds.bufferLen_eq, holds.bytes⟩
  intro events
  induction events with
  | nil => exact fun st body _ holds => ⟨st, rfl, holds⟩
  | cons event rest ih =>
      intro st body short holds
      obtain ⟨st₁, first, holds₁⟩ :=
        holds.next fits event fun data same => short data (by simp [same])
      obtain ⟨st', later, holds'⟩ :=
        ih st₁ _ (fun data member => short data (List.mem_cons_of_mem _ member)) holds₁
      refine ⟨st', ?_, holds'⟩
      rw [show event :: rest = [event] ++ rest from rfl, handleEvents_append, first, Option.some_bind,
        later]

end Response

def abcBuffer : HttpBuffer 4 := ⟨fun k => [65, 66, 67].getD k.val 0, 0⟩

def dResponse : List (List UInt8) := [[68]]

theorem response_overwrites_abc :
    ((4 : Nat) < 2 ^ 32 ∧ abcBuffer.Inv ∧ abcBuffer.bufferLen = 0 ∧
      ∀ chunk ∈ dResponse, chunk.length < 2 ^ 31) ∧
    ∃ st', handleEvents abcBuffer (dResponse.map .onData ++ [.onFinish]) = some st' ∧ st'.Inv ∧
      st'.bufferLen = 0 ∧
      List.ofFn st'.httpBuffer = dResponse.flatten.take 4 ++
        (List.ofFn abcBuffer.httpBuffer).drop (min dResponse.flatten.length 4) ∧
      ((∀ byte ∈ dResponse.flatten.take 4, byte ≠ 0) →
        jsonText st' = dResponse.flatten.take 4 ++
          ((List.ofFn abcBuffer.httpBuffer).drop (min dResponse.flatten.length 4)).takeWhile (· != 0)) :=
  have inv : abcBuffer.Inv := ⟨by decide, rfl⟩
  ⟨⟨by decide, inv, rfl, by decide⟩,
    response_overwrites_buffer_start (by decide) abcBuffer inv rfl dResponse (by decide)⟩

theorem abc_parsed_text_is_body_iff :
    ((4 : Nat) < 2 ^ 32 ∧ abcBuffer.Inv ∧ abcBuffer.bufferLen = 0 ∧
      (∀ chunk ∈ dResponse, chunk.length < 2 ^ 31) ∧ ∀ byte ∈ dResponse.flatten.take 4, byte ≠ 0) ∧
    ∃ st', handleEvents abcBuffer (dResponse.map .onData ++ [.onFinish]) = some st' ∧
      (jsonText st' = dResponse.flatten.take 4 ↔
        ∀ k : Fin (4 + 1), k.val = dResponse.flatten.length → abcBuffer.httpBuffer k = 0) :=
  have inv : abcBuffer.Inv := ⟨by decide, rfl⟩
  ⟨⟨by decide, inv, rfl, by decide, by decide⟩,
    parsed_text_is_body_iff (by decide) abcBuffer inv rfl dResponse (by decide) (by decide)⟩

theorem abc_error_keeps_partial_body :
    ((4 : Nat) < 2 ^ 32 ∧ abcBuffer.Inv ∧ abcBuffer.bufferLen = 0 ∧
      ∀ chunk ∈ dResponse ++ dResponse, chunk.length < 2 ^ 31) ∧
    ∃ st', handleEvents abcBuffer
        (dResponse.map .onData ++ .error :: dResponse.map .onData ++ [.onFinish]) = some st' ∧
      st'.bufferLen = 0 ∧
      List.ofFn st'.httpBuffer = (dResponse ++ dResponse).flatten.take 4 ++
        (List.ofFn abcBuffer.httpBuffer).drop (min (dResponse ++ dResponse).flatten.length 4) :=
  have inv : abcBuffer.Inv := ⟨by decide, rfl⟩
  ⟨⟨by decide, inv, rfl, by decide⟩,
    error_keeps_partial_body (by decide) abcBuffer inv rfl dResponse dResponse (by decide)⟩

def cutResponse : List HttpEvent := [.onData [65, 66], .error, .onData [67]]

theorem cutResponse_holds_body :
    ((4 : Nat) < 2 ^ 32 ∧ ∀ data, .onData data ∈ cutResponse → data.length < 2 ^ 31) ∧
      ∃ st, handleEvents (HttpBuffer.initial : HttpBuffer 4) cutResponse = some st ∧
        st.bufferLen = min (cutResponse.foldl bodySoFar []).length 4 ∧
        ∀ k : Fin (4 + 1), k.val < st.bufferLen →
          st.httpBuffer k = (cutResponse.foldl bodySoFar []).getD k.val 0 :=
  have short : ∀ data, .onData data ∈ cutResponse → data.length < 2 ^ 31 := fun data member => by
    simp only [cutResponse, List.mem_cons, HttpEvent.onData.injEq, reduceCtorEq, false_or,
      List.not_mem_nil, or_false] at member
    rcases member with rfl | rfl <;> decide
  ⟨⟨by decide, short⟩, buffer_holds_body_since_reset (by decide) cutResponse short⟩

end RelayFirmware
