import RelayFirmware.Airtag.Basic

/-!
`mbedtls_base64_decode`, which `airtag_to_key` calls and this repository does
not contain.  `Base64Decoder` is the part of its contract the firmware relies
on; strict RFC 4648 decoding meets it.
-/

namespace RelayFirmware

/-- `MBEDTLS_ERR_BASE64_BUFFER_TOO_SMALL`. -/
def MBEDTLS_ERR_BASE64_BUFFER_TOO_SMALL : Int := -0x002A
/-- `MBEDTLS_ERR_BASE64_INVALID_CHARACTER`. -/
def MBEDTLS_ERR_BASE64_INVALID_CHARACTER : Int := -0x002C

def digitValue (c : Char) : Option Nat :=
  if 'A' ≤ c ∧ c ≤ 'Z' then some (c.toNat - 65)
  else if 'a' ≤ c ∧ c ≤ 'z' then some (c.toNat - 71)
  else if '0' ≤ c ∧ c ≤ '9' then some (c.toNat + 4)
  else if c = '+' then some 62
  else if c = '/' then some 63
  else none

/-- The characters the library does not reject: alphabet, padding, blanks, line breaks. -/
def isBase64Char (c : Char) : Bool :=
  (digitValue c).isSome || c = '=' || c = ' ' || c = '\r' || c = '\n'

/-- Four digits accumulated as `x = x << 6 | digit`, then `MBEDTLS_BYTE_2..0(x)`. -/
def quantum (a b c d : Nat) : List UInt8 :=
  let x := ((a * 64 + b) * 64 + c) * 64 + d
  [UInt8.ofNat (x / 65536), UInt8.ofNat (x / 256), UInt8.ofNat x]

/-- Strict RFC 4648 decoding; `none` for anything that is not valid base64. -/
def base64Decode : List Char → Option (List UInt8)
  | [] => some []
  | a :: b :: c :: d :: rest => do
      let va ← digitValue a
      let vb ← digitValue b
      if rest = [] ∧ c = '=' ∧ d = '=' then
        pure ((quantum va vb 0 0).take 1)
      else
        let vc ← digitValue c
        if rest = [] ∧ d = '=' then
          pure ((quantum va vb vc 0).take 2)
        else
          let vd ← digitValue d
          let tail ← base64Decode rest
          pure (quantum va vb vc vd ++ tail)
  | _ => none

example : base64Decode "TWFu".toList = some [77, 97, 110] := by decide
example : base64Decode "TWE=".toList = some [77, 97] := by decide
example : base64Decode "TQ=".toList = none := by decide

theorem isBase64Char_of_digitValue {c : Char} {value : Nat}
    (digit : digitValue c = some value) : isBase64Char c = true := by
  simp [isBase64Char, digit]

theorem isBase64Char_of_base64Decode :
    ∀ {src : List Char} {bytes : List UInt8}, base64Decode src = some bytes →
      ∀ c ∈ src, isBase64Char c = true
  | [], _, _ => by simp
  | [_], _, decoded => by simp [base64Decode] at decoded
  | [_, _], _, decoded => by simp [base64Decode] at decoded
  | [_, _, _], _, decoded => by simp [base64Decode] at decoded
  | a :: b :: c :: d :: rest, bytes, decoded => by
      simp only [base64Decode, Option.bind_eq_bind, Option.bind_eq_some] at decoded
      obtain ⟨va, digitA, vb, digitB, decoded⟩ := decoded
      have padding : isBase64Char '=' = true := by decide
      intro x member
      simp only [List.mem_cons] at member
      rcases member with rfl | rfl | rfl | rfl | inRest
      · exact isBase64Char_of_digitValue digitA
      · exact isBase64Char_of_digitValue digitB
      · split at decoded
        · next final => rw [final.2.1]; exact padding
        · obtain ⟨vc, digitC, -⟩ := Option.bind_eq_some.mp decoded
          exact isBase64Char_of_digitValue digitC
      · split at decoded
        · next final => rw [final.2.2]; exact padding
        · obtain ⟨vc, -, decoded⟩ := Option.bind_eq_some.mp decoded
          split at decoded
          · next final => rw [final.2]; exact padding
          · obtain ⟨vd, digitD, -⟩ := Option.bind_eq_some.mp decoded
            exact isBase64Char_of_digitValue digitD
      · split at decoded
        · next final => rw [final.1] at inRest; simp at inRest
        · obtain ⟨vc, -, decoded⟩ := Option.bind_eq_some.mp decoded
          split at decoded
          · next final => rw [final.1] at inRest; simp at inRest
          · obtain ⟨vd, -, decoded⟩ := Option.bind_eq_some.mp decoded
            obtain ⟨tail, decodedRest, -⟩ := Option.bind_eq_some.mp decoded
            exact isBase64Char_of_base64Decode decodedRest x inRest

/-- What `airtag_to_key` relies on from `mbedtls_base64_decode`: `decode dlen src`
is the return code and the bytes written to the front of `dst`. -/
structure Base64Decoder where
  decode : Nat → List Char → Int × List UInt8
  -- Valid base64 is decoded, or refused when its bytes do not fit `dlen`.
  decode_canonical : ∀ dlen src bytes, base64Decode src = some bytes →
    decode dlen src =
      if bytes.length ≤ dlen then (0, bytes) else (MBEDTLS_ERR_BASE64_BUFFER_TOO_SMALL, [])
  -- A character outside the alphabet, padding and line breaks is refused.
  decode_invalid : ∀ dlen src c, c ∈ src → isBase64Char c = false →
    (decode dlen src).1 = MBEDTLS_ERR_BASE64_INVALID_CHARACTER
  -- A successful decoding never writes past `dst[dlen - 1]`.
  decode_fits : ∀ dlen src, (decode dlen src).1 = 0 → (decode dlen src).2.length ≤ dlen

def strictDecode (dlen : Nat) (src : List Char) : Int × List UInt8 :=
  match base64Decode src with
  | some bytes =>
      if bytes.length ≤ dlen then (0, bytes) else (MBEDTLS_ERR_BASE64_BUFFER_TOO_SMALL, [])
  | none => (MBEDTLS_ERR_BASE64_INVALID_CHARACTER, [])

/-- Strict decoding meets the contract, so the contract is not vacuous. -/
def strictDecoder : Base64Decoder where
  decode := strictDecode
  decode_canonical := by
    intro dlen src bytes decoded
    simp [strictDecode, decoded]
  decode_invalid := by
    intro dlen src c member rejected
    cases decoded : base64Decode src with
    | none => simp [strictDecode, decoded]
    | some bytes =>
        have accepted := isBase64Char_of_base64Decode decoded c member
        rw [rejected] at accepted
        cases accepted
  decode_fits := by
    intro dlen src succeeded
    unfold strictDecode at succeeded ⊢
    split at succeeded
    · split at succeeded
      · simp [*]
      · simp [MBEDTLS_ERR_BASE64_BUFFER_TOO_SMALL] at succeeded
    · simp [MBEDTLS_ERR_BASE64_INVALID_CHARACTER] at succeeded

end RelayFirmware
