import RelayFirmware.Airtag.Base64

/-!
`airtag_to_key` (airtag.c:41-64).  The decoded length `written` is only
logged, so a short decoding is accepted with the zero-filled rest of
`bin_data`.
-/

namespace RelayFirmware

/-! ### The source functions -/

/-- `bin_data` after decoding: zeroed, with the decoder's output at its front. -/
def binDataOf (decoder : Base64Decoder) (airtag : Airtag) : Bytes BIN_DATA_LEN :=
  Bytes.ofPrefix (decoder.decode BIN_DATA_LEN airtag.data).2

/-- `airtag.c:56`, computed on the `int` promotions and stored as `uint8_t`. -/
def keyHead (binData : Bytes BIN_DATA_LEN) : UInt8 :=
  UInt8.ofNat ((((binData 35).toNat <<< 6) &&& 0b11000000) |||
    ((binData 5).toNat &&& 0b00111111))

/-- The loop `for (i = 6, j = 13; i < KEY_LEN && j < BIN_DATA_LEN; i++, j++)`
(airtag.c:60), returning its final `(i, j, key)`. -/
def keyCopyLoop (binData : Bytes BIN_DATA_LEN) :
    Nat → Nat → Nat → Bytes KEY_LEN → Nat × Nat × Bytes KEY_LEN
  | 0, i, j, key => (i, j, key)
  | fuel + 1, i, j, key =>
      if i < KEY_LEN ∧ j < BIN_DATA_LEN then
        keyCopyLoop binData fuel (i + 1) (j + 1) (key.write i (binData.read j))
      else (i, j, key)

/-- The writes of `airtag.c:56-62` into `key`. -/
def keyOfBinData (binData : Bytes BIN_DATA_LEN) (key : Bytes KEY_LEN) : Bytes KEY_LEN :=
  let key := key.write 0 (keyHead binData)
  let key := forLoop (fun i key => key.write i (binData.read (5 - i))) 5 1 key
  (keyCopyLoop binData KEY_LEN 6 13 key).2.2

/-- `airtag_to_key` (airtag.c:41): `FAILURE` on a nonzero decoder result. -/
def airtagToKey (decoder : Base64Decoder) (airtag : Airtag) (key : Bytes KEY_LEN) :
    SuccessE × Bytes KEY_LEN :=
  if (decoder.decode BIN_DATA_LEN airtag.data).1 ≠ 0 then (.FAILURE, key)
  else (.SUCCESS, keyOfBinData (binDataOf decoder airtag) key)

/-! ### The key layout -/

/-- The key layout expected of a decoded payload. -/
def keyLayout (raw : Bytes BIN_DATA_LEN) : Bytes KEY_LEN := fun k =>
  if k.val = 0 then
    UInt8.ofNat ((((raw 35).toNat <<< 6) &&& 0xC0) ||| ((raw 5).toNat &&& 0x3F))
  else if k.val < 6 then raw.read (5 - k.val)
  else raw.read (k.val + 7)

theorem keyCopyLoop_eq (raw : Bytes BIN_DATA_LEN) :
    ∀ (fuel i : Nat) (key : Bytes KEY_LEN), i ≤ KEY_LEN → KEY_LEN ≤ fuel + i →
      keyCopyLoop raw fuel i (i + 7) key =
        (KEY_LEN, KEY_LEN + 7, fun k => if i ≤ k.val then raw.read (k.val + 7) else key k)
  | 0, i, key, _, enough => by
      obtain rfl : i = KEY_LEN := by omega
      simp only [keyCopyLoop, Prod.mk.injEq, true_and]
      funext k
      rw [if_neg (by omega)]
  | fuel + 1, i, key, bounded, enough => by
      by_cases running : i < KEY_LEN
      · have shifted : i + 7 + 1 = i + 1 + 7 := by omega
        rw [keyCopyLoop, if_pos ⟨running, show i + 7 < 38 by have : i < 28 := running; omega⟩, shifted,
          keyCopyLoop_eq raw fuel (i + 1) _ running (by omega)]
        simp only [Prod.mk.injEq, true_and]
        funext k
        by_cases after : i + 1 ≤ k.val
        · rw [if_pos after, if_pos (by omega)]
        · by_cases atI : k.val = i
          · rw [if_neg after, if_pos (by omega), Bytes.write_apply, if_pos atI, atI]
          · rw [if_neg after, if_neg (by omega), Bytes.write_apply, if_neg atI]
      · obtain rfl : i = KEY_LEN := by omega
        rw [keyCopyLoop, if_neg (fun inside => running inside.1)]
        simp only [Prod.mk.injEq, true_and]
        funext k
        rw [if_neg (by omega)]

theorem keyCopyLoop_from_six (raw : Bytes BIN_DATA_LEN) (key : Bytes KEY_LEN) :
    keyCopyLoop raw KEY_LEN 6 13 key =
      (KEY_LEN, 35, fun k => if 6 ≤ k.val then raw.read (k.val + 7) else key k) :=
  keyCopyLoop_eq raw KEY_LEN 6 key (by decide) (by decide)

theorem keyOfBinData_eq_keyLayout (raw : Bytes BIN_DATA_LEN) (key : Bytes KEY_LEN) :
    keyOfBinData raw key = keyLayout raw := by
  funext k
  simp only [keyOfBinData, keyCopyLoop_from_six, forLoop_write_index, keyLayout, keyHead]
  by_cases head : k.val = 0
  · simp [head]
  · by_cases reversed : k.val < 6
    · rw [if_neg (by omega), if_pos (by omega), if_neg head, if_pos reversed]
    · rw [if_pos (by omega), if_neg head, if_neg reversed]

private theorem shiftLeft_six_and (x : Nat) : (x <<< 6) &&& 0xC0 = (x % 4) <<< 6 := by
  have mask : (0xC0 : Nat) = (2 ^ 2 - 1) <<< 6 := rfl
  apply Nat.eq_of_testBit_eq
  intro i
  rw [mask, Nat.testBit_and, Nat.testBit_shiftLeft, Nat.testBit_shiftLeft, Nat.testBit_shiftLeft,
    Nat.testBit_two_pow_sub_one, show (4 : Nat) = 2 ^ 2 from rfl, Nat.testBit_mod_two_pow]
  cases decide (6 ≤ i) <;> cases decide (i - 6 < 2) <;> simp

theorem keyLayout_head (raw : Bytes BIN_DATA_LEN) :
    keyLayout raw 0 = UInt8.ofNat ((((raw 35).toNat % 4) <<< 6) ||| ((raw 5).toNat % 64)) := by
  have masked : (raw 5).toNat &&& 0x3F = (raw 5).toNat % 64 :=
    Nat.and_pow_two_sub_one_eq_mod _ 6
  simp only [keyLayout, Fin.val_zero, if_true]
  rw [shiftLeft_six_and, masked]

theorem keyLayout_congr {raw raw' : Bytes BIN_DATA_LEN}
    (copied : ∀ i : Fin BIN_DATA_LEN, i.val < 5 ∨ (13 ≤ i.val ∧ i.val < 35) → raw i = raw' i)
    (lowBits35 : (raw 35).toNat % 4 = (raw' 35).toNat % 4)
    (lowBits5 : (raw 5).toNat % 64 = (raw' 5).toNat % 64) :
    keyLayout raw = keyLayout raw' := by
  funext k
  by_cases head : k.val = 0
  · obtain rfl : k = 0 := Fin.ext head
    rw [keyLayout_head, keyLayout_head, lowBits35, lowBits5]
  · have sizes : KEY_LEN = 28 ∧ BIN_DATA_LEN = 38 := ⟨rfl, rfl⟩
    have inKey := k.isLt
    simp only [keyLayout, if_neg head]
    split
    · rw [Bytes.read_of_lt _ (by omega), Bytes.read_of_lt _ (by omega)]
      exact copied _ (Or.inl (by simp only; omega))
    · rw [Bytes.read_of_lt _ (by omega), Bytes.read_of_lt _ (by omega)]
      exact copied _ (Or.inr (by simp only; omega))

theorem keyLayout_copies (i : Fin BIN_DATA_LEN) (copied : i.val < 5 ∨ (13 ≤ i.val ∧ i.val < 35)) :
    ∃ k : Fin KEY_LEN, ∀ raw : Bytes BIN_DATA_LEN, keyLayout raw k = raw i := by
  have sizes : KEY_LEN = 28 ∧ BIN_DATA_LEN = 38 := ⟨rfl, rfl⟩
  rcases copied with reversed | shifted
  · refine ⟨⟨5 - i.val, by omega⟩, fun raw => ?_⟩
    simp only [keyLayout]
    rw [if_neg (by omega), if_pos (by omega), Bytes.read_of_lt _ (by omega)]
    exact congrArg raw (Fin.ext (by simp only; omega))
  · refine ⟨⟨i.val - 7, by omega⟩, fun raw => ?_⟩
    simp only [keyLayout]
    rw [if_neg (by omega), if_neg (by omega), Bytes.read_of_lt _ (by omega)]
    exact congrArg raw (Fin.ext (by simp only; omega))

private theorem head_bits (x y : Nat) : (x % 4) <<< 6 ||| y % 64 = 64 * (x % 4) + y % 64 := by
  rw [Nat.shiftLeft_eq, Nat.mul_comm, ← Nat.mul_add_lt_is_or (Nat.mod_lt _ (by decide))]

theorem keyLayout_head_toNat (raw : Bytes BIN_DATA_LEN) :
    (keyLayout raw 0).toNat = 64 * ((raw 35).toNat % 4) + (raw 5).toNat % 64 := by
  rw [keyLayout_head, head_bits, UInt8.toNat_ofNat_of_lt (show _ < 256 by omega)]

/-- The bits of a decoded payload that reach the key agree. -/
def KeyBitsAgree (raw raw' : Bytes BIN_DATA_LEN) : Prop :=
  (∀ i : Fin BIN_DATA_LEN, i.val < 5 ∨ (13 ≤ i.val ∧ i.val < 35) → raw i = raw' i) ∧
    (raw 35).toNat % 4 = (raw' 35).toNat % 4 ∧ (raw 5).toNat % 64 = (raw' 5).toNat % 64

theorem keyLayout_eq_iff {raw raw' : Bytes BIN_DATA_LEN} :
    keyLayout raw = keyLayout raw' ↔ KeyBitsAgree raw raw' := by
  constructor
  · intro same
    have head := congrArg UInt8.toNat (congrFun same 0)
    rw [keyLayout_head_toNat, keyLayout_head_toNat] at head
    refine ⟨fun i copied => ?_, by omega, by omega⟩
    obtain ⟨k, copies⟩ := keyLayout_copies i copied
    rw [← copies raw, ← copies raw', same]
  · exact fun ⟨copied, lowBits35, lowBits5⟩ => keyLayout_congr copied lowBits35 lowBits5

/-- An accepted record's key is the expected layout of its decoded `bin_data`; the
loop ends at `i = KEY_LEN`, `j = 35`, and no other bits reach the key. -/
theorem airtagToKey_layout {decoder : Base64Decoder} {airtag : Airtag}
    {key key' : Bytes KEY_LEN} (accepted : airtagToKey decoder airtag key = (.SUCCESS, key')) :
    key' = keyLayout (binDataOf decoder airtag) ∧
      (∀ (raw : Bytes BIN_DATA_LEN) (k : Bytes KEY_LEN),
        (keyCopyLoop raw KEY_LEN 6 13 k).1 = KEY_LEN ∧ (keyCopyLoop raw KEY_LEN 6 13 k).2.1 = 35) ∧
      ∀ raw raw' : Bytes BIN_DATA_LEN,
        (∀ i : Fin BIN_DATA_LEN, i.val < 5 ∨ (13 ≤ i.val ∧ i.val < 35) → raw i = raw' i) →
        (raw 35).toNat % 4 = (raw' 35).toNat % 4 → (raw 5).toNat % 64 = (raw' 5).toNat % 64 →
        keyLayout raw = keyLayout raw' := by
  refine ⟨?_, fun raw k => by simp [keyCopyLoop_from_six], fun _ _ => keyLayout_congr⟩
  unfold airtagToKey at accepted
  split at accepted
  · cases accepted
  · rw [← (Prod.mk.inj accepted).2, keyOfBinData_eq_keyLayout]

def zeroTag : Airtag :=
  ⟨"AAAAAAAAAAAAAAAAAAAAAAAAAAAAAAAAAAAAAAAAAAAAAAAAAAA=".toList, by decide⟩

theorem zeroTag_key_layout :
    airtagToKey strictDecoder zeroTag Bytes.zero =
        (.SUCCESS, keyOfBinData (binDataOf strictDecoder zeroTag) Bytes.zero) ∧
      keyOfBinData (binDataOf strictDecoder zeroTag) Bytes.zero =
        keyLayout (binDataOf strictDecoder zeroTag) ∧
      (∀ (raw : Bytes BIN_DATA_LEN) (k : Bytes KEY_LEN),
        (keyCopyLoop raw KEY_LEN 6 13 k).1 = KEY_LEN ∧ (keyCopyLoop raw KEY_LEN 6 13 k).2.1 = 35) ∧
      ∀ raw raw' : Bytes BIN_DATA_LEN,
        (∀ i : Fin BIN_DATA_LEN, i.val < 5 ∨ (13 ≤ i.val ∧ i.val < 35) → raw i = raw' i) →
        (raw 35).toNat % 4 = (raw' 35).toNat % 4 → (raw 5).toNat % 64 = (raw' 5).toNat % 64 →
        keyLayout raw = keyLayout raw' :=
  have accepted : airtagToKey strictDecoder zeroTag Bytes.zero =
      (.SUCCESS, keyOfBinData (binDataOf strictDecoder zeroTag) Bytes.zero) :=
    if_neg (by decide)
  ⟨accepted, airtagToKey_layout accepted⟩

/-! ### Acceptance -/

section Acceptance

variable {decoder : Base64Decoder} {airtag : Airtag} {key : Bytes KEY_LEN}

theorem airtagToKey_failure {key' : Bytes KEY_LEN}
    (refused : airtagToKey decoder airtag key = (.FAILURE, key')) : key' = key := by
  unfold airtagToKey at refused
  split at refused
  · exact (Prod.mk.inj refused).2.symm
  · cases refused

theorem airtagToKey_success_iff :
    (airtagToKey decoder airtag key).1 = .SUCCESS ↔ (decoder.decode BIN_DATA_LEN airtag.data).1 = 0 := by
  unfold airtagToKey
  split <;> simp_all

theorem airtagToKey_invalid_char {c : Char} (member : c ∈ airtag.data)
    (rejected : isBase64Char c = false) : (airtagToKey decoder airtag key).1 = .FAILURE := by
  have invalid := decoder.decode_invalid BIN_DATA_LEN airtag.data c member rejected
  simp [airtagToKey, invalid, MBEDTLS_ERR_BASE64_INVALID_CHARACTER]

theorem airtagToKey_too_long {bytes : List UInt8} (decoded : base64Decode airtag.data = some bytes)
    (long : BIN_DATA_LEN < bytes.length) : (airtagToKey decoder airtag key).1 = .FAILURE := by
  have refused := decoder.decode_canonical BIN_DATA_LEN airtag.data bytes decoded
  rw [if_neg (by omega)] at refused
  simp [airtagToKey, refused, MBEDTLS_ERR_BASE64_BUFFER_TOO_SMALL]

theorem airtagToKey_of_base64Decode {bytes : List UInt8}
    (decoded : base64Decode airtag.data = some bytes) (fits : bytes.length ≤ BIN_DATA_LEN) :
    airtagToKey decoder airtag key = (.SUCCESS, keyLayout (Bytes.ofPrefix bytes)) := by
  have accepted := decoder.decode_canonical BIN_DATA_LEN airtag.data bytes decoded
  rw [if_pos fits] at accepted
  simp [airtagToKey, binDataOf, accepted, keyOfBinData_eq_keyLayout]

/-- Valid base64 decoding to fewer than `BIN_DATA_LEN` bytes is accepted, with a
key read partly from the zero-filled rest of `bin_data`. -/
theorem airtagToKey_accepts_short_decoding {bytes : List UInt8}
    (decoded : base64Decode airtag.data = some bytes) (short : bytes.length < BIN_DATA_LEN) :
    airtagToKey decoder airtag key = (.SUCCESS, keyLayout (Bytes.ofPrefix bytes)) :=
  airtagToKey_of_base64Decode decoded (Nat.le_of_lt short)

end Acceptance

theorem zeroTag_decodes (decoder : Base64Decoder) :
    (decoder.decode BIN_DATA_LEN zeroTag.data).1 = 0 := by
  rw [decoder.decode_canonical BIN_DATA_LEN zeroTag.data (List.replicate 38 0) (by decide)]
  decide

theorem emptyTag_accepted :
    (base64Decode Airtag.empty.data = some [] ∧ ([] : List UInt8).length < BIN_DATA_LEN) ∧
      airtagToKey strictDecoder Airtag.empty Bytes.zero =
        (.SUCCESS, keyLayout (Bytes.ofPrefix [])) :=
  ⟨⟨rfl, by decide⟩,
    @airtagToKey_accepts_short_decoding strictDecoder Airtag.empty Bytes.zero [] rfl (by decide)⟩

end RelayFirmware
