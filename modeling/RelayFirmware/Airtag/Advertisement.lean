import RelayFirmware.Airtag.Key
import Mathlib.Data.List.GetD
import Mathlib.Tactic.IntervalCases
import Mathlib.Tactic.FinCases

/-!
`key_to_payload`, `key_to_addr` and `airtag_to_ble_advertisement`
(airtag.c:73-130), and `recoverKey`, how a receiver reads the key back.
-/

namespace RelayFirmware

/-- `key_to_payload` (airtag.c:73). -/
def keyToPayload (key : Bytes KEY_LEN) (payload : Bytes PAYLOAD_LEN) : Bytes PAYLOAD_LEN :=
  let payload := payload.write 0 0x1e
  let payload := payload.write 1 0xff
  let payload := payload.write 2 0x4c
  let payload := payload.write 3 0x00
  let payload := payload.write 4 0x12
  let payload := payload.write 5 0x19
  let payload := payload.write 6 0x10
  let payload := forLoop (fun i p => p.write (i + 7) (key.read (i + 6))) 22 0 payload
  let payload := payload.write 29 ((key.read 0 >>> 6) &&& 0b11)
  payload.write 30 0x00

/-- `key_to_addr` (airtag.c:94). -/
def keyToAddr (key : Bytes KEY_LEN) (addr : Bytes ADDR_LEN) : Bytes ADDR_LEN :=
  let addr := forLoop (fun i a => a.write i (key.read i)) ADDR_LEN 0 addr
  addr.write 0 (addr.read 0 ||| 0b11000000)

/-- `airtag_to_ble_advertisement` (airtag.c:113); on `FAILURE` both arrays are kept. -/
def airtagToBleAdvertisement (decoder : Base64Decoder) (airtag : Airtag)
    (bleAdvAddr : Bytes ADDR_LEN) (bleAdvBody : Bytes PAYLOAD_LEN) :
    SuccessE × Bytes ADDR_LEN × Bytes PAYLOAD_LEN :=
  match airtagToKey decoder airtag Bytes.zero with
  | (.FAILURE, _) => (.FAILURE, bleAdvAddr, bleAdvBody)
  | (.SUCCESS, key) => (.SUCCESS, keyToAddr key bleAdvAddr, keyToPayload key bleAdvBody)

/-- How a receiver of the advertisement reads the key back. -/
def recoverKey (addr : Bytes ADDR_LEN) (payload : Bytes PAYLOAD_LEN) : Bytes KEY_LEN := fun k =>
  if k.val = 0 then (payload 29 <<< 6) ||| (addr 0 &&& 0x3F)
  else if k.val < 6 then addr.read k.val
  else payload.read (k.val + 1)

/-! ### Layout -/

/-- The fixed header of the offline-finding advertisement. -/
def advHeader : List UInt8 := [0x1E, 0xFF, 0x4C, 0x00, 0x12, 0x19, 0x10]

theorem keyToAddr_apply (key : Bytes KEY_LEN) (addr : Bytes ADDR_LEN) (k : Fin ADDR_LEN) :
    keyToAddr key addr k = if k.val = 0 then key 0 ||| 0xC0 else key.read k.val := by
  obtain ⟨n, bound⟩ := k
  have inAddr : n < 6 := bound
  simp only [keyToAddr, forLoop_write_index, Bytes.write_apply, Bytes.read]
  split <;> simp_all

theorem keyToPayload_apply (key : Bytes KEY_LEN) (payload : Bytes PAYLOAD_LEN)
    (k : Fin PAYLOAD_LEN) :
    keyToPayload key payload k =
      if k.val < 7 then advHeader.getD k.val 0
      else if k.val < 29 then key.read (k.val - 1)
      else if k.val = 29 then (key 0 >>> 6) &&& 0x03 else 0 := by
  obtain ⟨n, bound⟩ := k
  have inPayload : n < 31 := bound
  simp only [keyToPayload, Bytes.write_apply, forLoop_write]
  by_cases copied : 7 ≤ n ∧ n < 29
  · simp only [copied, and_self, if_true]
    rw [if_neg (by omega), if_neg (by omega), if_neg (by omega)]
    congr 1
    omega
  · have ends : n < 7 ∨ n = 29 ∨ n = 30 := by omega
    rcases ends with header | rfl | rfl
    · interval_cases n <;> rfl
    · simp [Bytes.read]
    · rfl

theorem keyToAddr_overwrites (key : Bytes KEY_LEN) (addr addr' : Bytes ADDR_LEN) :
    keyToAddr key addr = keyToAddr key addr' :=
  funext fun k => by rw [keyToAddr_apply, keyToAddr_apply]

theorem keyToPayload_overwrites (key : Bytes KEY_LEN) (payload payload' : Bytes PAYLOAD_LEN) :
    keyToPayload key payload = keyToPayload key payload' :=
  funext fun k => by rw [keyToPayload_apply, keyToPayload_apply]

theorem keyToAddr_ofFn (key : Bytes KEY_LEN) (addr : Bytes ADDR_LEN) :
    List.ofFn (keyToAddr key addr) = [key 0 ||| 0xC0, key 1, key 2, key 3, key 4, key 5] := by
  simp [List.ofFn_succ, keyToAddr_apply, Bytes.read, KEY_LEN]

theorem keyToPayload_ofFn (key : Bytes KEY_LEN) (payload : Bytes PAYLOAD_LEN) :
    List.ofFn (keyToPayload key payload) =
      advHeader ++ (List.ofFn key).drop 6 ++ [(key 0 >>> 6) &&& 0x03, 0x00] := by
  have headerLength : advHeader.length = 7 := rfl
  have prefixLength : (advHeader ++ (List.ofFn key).drop 6).length = 29 := by
    rw [List.length_append, List.length_drop, List.length_ofFn]
    rfl
  apply List.ext_getElem (by simp only [List.length_ofFn, List.length_append, prefixLength]; rfl)
  intro n inLeft inRight
  have inPayload : n < 31 := by rwa [List.length_ofFn] at inLeft
  rw [List.getElem_ofFn, keyToPayload_apply]
  by_cases header : n < 7
  · rw [if_pos header, List.getElem_append_left (by omega), List.getElem_append_left (by omega),
      List.getD_eq_getElem]
  · rw [if_neg header]
    by_cases copied : n < 29
    · rw [if_pos copied, List.getElem_append_left (by omega), List.getElem_append_right (by omega),
        List.getElem_drop, List.getElem_ofFn, Bytes.read_of_lt _ (show n - 1 < 28 by omega)]
      congr 1
      simp only [headerLength, Fin.mk.injEq]
      omega
    · rw [if_neg copied, List.getElem_append_right (by omega)]
      have trailer : n = 29 ∨ n = 30 := by omega
      rcases trailer with rfl | rfl <;>
        simp only [prefixLength, Nat.reduceSub, List.getElem_cons_zero, List.getElem_cons_succ,
          Nat.reduceEqDiff, if_true, if_false]

private theorem recover_head (byte : UInt8) :
    ((((byte >>> 6) &&& 0x03) <<< 6) ||| ((byte ||| 0xC0) &&& 0x3F)) = byte := by
  cases byte with
  | mk bits =>
    show UInt8.mk ((((bits >>> (6 % 8)) &&& 0x03) <<< (6 % 8)) ||| ((bits ||| 0xC0) &&& 0x3F)) =
      UInt8.mk bits
    congr 1
    ext i
    simp only [BitVec.getLsbD_and, BitVec.getLsbD_or, BitVec.getLsbD_shiftLeft,
      BitVec.getLsbD_ushiftRight]
    fin_cases i <;> simp

private theorem static_random_marker (byte : UInt8) : (byte ||| 0xC0) &&& 0xC0 = 0xC0 := by
  cases byte with
  | mk bits =>
    show UInt8.mk ((bits ||| 0xC0) &&& 0xC0) = UInt8.mk 0xC0
    congr 1
    ext i
    simp only [BitVec.getLsbD_and, BitVec.getLsbD_or]
    cases bits.getLsbD i <;> simp

theorem keyToAddr_static_random (key : Bytes KEY_LEN) (addr : Bytes ADDR_LEN) :
    keyToAddr key addr 0 &&& 0xC0 = 0xC0 := by
  rw [keyToAddr_apply]
  exact static_random_marker (key 0)

theorem recoverKey_keyToAddr_keyToPayload (key : Bytes KEY_LEN) (addr : Bytes ADDR_LEN)
    (payload : Bytes PAYLOAD_LEN) :
    recoverKey (keyToAddr key addr) (keyToPayload key payload) = key := by
  funext k
  have inKey := k.isLt
  have := sizes
  by_cases head : k.val = 0
  · obtain rfl : k = 0 := Fin.ext head
    simp only [recoverKey, Fin.val_zero, if_true, keyToAddr_apply, keyToPayload_apply]
    exact recover_head (key 0)
  · by_cases inAddr : k.val < 6
    · simp only [recoverKey, if_neg head, if_pos inAddr,
        Bytes.read_of_lt _ (show k.val < ADDR_LEN from inAddr), keyToAddr_apply]
      simp [Bytes.read]
    · simp only [recoverKey, if_neg head, if_neg inAddr,
        Bytes.read_of_lt _ (show k.val + 1 < PAYLOAD_LEN by omega), keyToPayload_apply]
      rw [if_neg (by omega), if_pos (by omega), Bytes.read_of_lt _ (by omega)]
      simp

/-- The address is `key[0..5]` marked static random, the payload the header,
`key[6..27]`, the top bits of `key[0]` and a zero byte; the pair gives the key back. -/
theorem keyToAddr_keyToPayload_layout (key : Bytes KEY_LEN) (addr : Bytes ADDR_LEN)
    (payload : Bytes PAYLOAD_LEN) :
    List.ofFn (keyToAddr key addr) = [key 0 ||| 0xC0, key 1, key 2, key 3, key 4, key 5] ∧
      List.ofFn (keyToPayload key payload) =
        ([0x1E, 0xFF, 0x4C, 0x00, 0x12, 0x19, 0x10] : List UInt8) ++ (List.ofFn key).drop 6 ++
          [(key 0 >>> 6) &&& 0x03, 0x00] ∧
      keyToAddr key addr 0 &&& 0xC0 = 0xC0 ∧
      recoverKey (keyToAddr key addr) (keyToPayload key payload) = key :=
  ⟨keyToAddr_ofFn key addr, keyToPayload_ofFn key payload,
    keyToAddr_static_random key addr,
    recoverKey_keyToAddr_keyToPayload key addr payload⟩

/-! ### The advertisement of a record -/

section Advertisement

variable {decoder : Base64Decoder} {airtag : Airtag}
  {addr : Bytes ADDR_LEN} {body : Bytes PAYLOAD_LEN}

theorem airtagToBleAdvertisement_failure {result : SuccessE × Bytes ADDR_LEN × Bytes PAYLOAD_LEN}
    (built : airtagToBleAdvertisement decoder airtag addr body = result)
    (refused : result.1 = .FAILURE) : result = (.FAILURE, addr, body) := by
  subst built
  unfold airtagToBleAdvertisement at refused ⊢
  split <;> simp_all

theorem airtagToBleAdvertisement_eq :
    airtagToBleAdvertisement decoder airtag addr body =
      if (decoder.decode BIN_DATA_LEN airtag.data).1 ≠ 0 then (.FAILURE, addr, body)
      else (.SUCCESS, keyToAddr (keyLayout (binDataOf decoder airtag)) addr,
        keyToPayload (keyLayout (binDataOf decoder airtag)) body) := by
  by_cases decoded : (decoder.decode BIN_DATA_LEN airtag.data).1 = 0 <;>
    simp [airtagToBleAdvertisement, airtagToKey, decoded, keyOfBinData_eq_keyLayout]

theorem airtagToBleAdvertisement_success {addr' : Bytes ADDR_LEN} {body' : Bytes PAYLOAD_LEN}
    (built : airtagToBleAdvertisement decoder airtag addr body = (.SUCCESS, addr', body'))
    (addr₀ : Bytes ADDR_LEN) (body₀ : Bytes PAYLOAD_LEN) :
    airtagToBleAdvertisement decoder airtag addr₀ body₀ = (.SUCCESS, addr', body') := by
  rw [airtagToBleAdvertisement_eq] at built ⊢
  split at built
  · cases built
  · rw [if_neg ‹_›, ← built, keyToAddr_overwrites _ addr₀ addr, keyToPayload_overwrites _ body₀ body]

theorem keyToAddr_keyToPayload_eq_iff {key key' : Bytes KEY_LEN} :
    keyToAddr key addr = keyToAddr key' addr ∧ keyToPayload key body = keyToPayload key' body ↔
      key = key' := by
  constructor
  · rintro ⟨sameAddr, samePayload⟩
    rw [← recoverKey_keyToAddr_keyToPayload key addr body, sameAddr, samePayload,
      recoverKey_keyToAddr_keyToPayload]
  · rintro rfl
    exact ⟨rfl, rfl⟩

/-- Two records advertise alike exactly when both are refused, or both decode and
agree on the bits that reach the key. -/
theorem airtagToBleAdvertisement_eq_iff (airtag' : Airtag) :
    airtagToBleAdvertisement decoder airtag addr body =
        airtagToBleAdvertisement decoder airtag' addr body ↔
      ((decoder.decode BIN_DATA_LEN airtag.data).1 ≠ 0 ∧
          (decoder.decode BIN_DATA_LEN airtag'.data).1 ≠ 0) ∨
        ((decoder.decode BIN_DATA_LEN airtag.data).1 = 0 ∧
          (decoder.decode BIN_DATA_LEN airtag'.data).1 = 0 ∧
          KeyBitsAgree (binDataOf decoder airtag) (binDataOf decoder airtag')) := by
  rw [airtagToBleAdvertisement_eq, airtagToBleAdvertisement_eq]
  by_cases decodes : (decoder.decode BIN_DATA_LEN airtag.data).1 = 0 <;>
    by_cases decodes' : (decoder.decode BIN_DATA_LEN airtag'.data).1 = 0 <;>
    simp [decodes, decodes', ← keyLayout_eq_iff, keyToAddr_keyToPayload_eq_iff]

end Advertisement

end RelayFirmware
