import Mathlib.Data.Fintype.Basic
import Mathlib.Data.Nat.Digits

/-!
Byte arrays, counting loops and the tag record of `airtag.h`.  An array
`uint8_t a[N]` is a function `Fin N → UInt8`; a write outside it changes
nothing and a read outside it gives zero.
-/

namespace RelayFirmware

/-- `DATA_LEN`: 52 base64 characters and the terminating NUL. -/
abbrev DATA_LEN : Nat := 53
abbrev BIN_DATA_LEN : Nat := 38
abbrev KEY_LEN : Nat := 28
abbrev ADDR_LEN : Nat := 6
abbrev PAYLOAD_LEN : Nat := 31

theorem sizes :
    DATA_LEN = 53 ∧ BIN_DATA_LEN = 38 ∧ KEY_LEN = 28 ∧ ADDR_LEN = 6 ∧ PAYLOAD_LEN = 31 :=
  ⟨rfl, rfl, rfl, rfl, rfl⟩

/-- A C byte array of `n` elements. -/
abbrev Bytes (n : Nat) := Fin n → UInt8

namespace Bytes

variable {n : Nat}

def zero : Bytes n := fun _ => 0

def read (bytes : Bytes n) (i : Nat) : UInt8 :=
  if h : i < n then bytes ⟨i, h⟩ else 0

def write (bytes : Bytes n) (i : Nat) (value : UInt8) : Bytes n :=
  fun k => if k.val = i then value else bytes k

@[simp] theorem zero_apply (k : Fin n) : (zero : Bytes n) k = 0 := rfl

@[simp] theorem read_val (bytes : Bytes n) (k : Fin n) : bytes.read k.val = bytes k := by
  simp [read]

theorem read_of_lt (bytes : Bytes n) {i : Nat} (inRange : i < n) :
    bytes.read i = bytes ⟨i, inRange⟩ := by
  simp [read, inRange]

@[simp] theorem write_apply (bytes : Bytes n) (i : Nat) (value : UInt8) (k : Fin n) :
    bytes.write i value k = if k.val = i then value else bytes k := rfl

def ofPrefix (written : List UInt8) : Bytes n :=
  fun k => written.getD k.val 0

end Bytes

/-- The C loop `for (i = start; i < start + count; i++) state = body(i, state)`. -/
def forLoop {σ : Type} (body : Nat → σ → σ) : Nat → Nat → σ → σ
  | 0, _, state => state
  | count + 1, i, state => forLoop body count (i + 1) (body i state)

theorem forLoop_write {n : Nat} (value : Nat → UInt8) (offset : Nat) :
    ∀ (count start : Nat) (bytes : Bytes n),
      forLoop (fun i b => b.write (i + offset) (value i)) count start bytes =
        fun k => if start + offset ≤ k.val ∧ k.val < start + count + offset
          then value (k.val - offset) else bytes k
  | 0, start, bytes => by
      funext k
      simp only [forLoop]
      rw [if_neg (by omega)]
  | count + 1, start, bytes => by
      funext k
      rw [forLoop, forLoop_write value offset count (start + 1)]
      by_cases atStart : k.val = start + offset
      · simp only [Bytes.write_apply, atStart, if_pos]
        rw [if_neg (by omega), if_pos (by omega), Nat.add_sub_cancel]
      · simp only [Bytes.write_apply, atStart, if_false]
        by_cases inside : start + 1 + offset ≤ k.val ∧ k.val < start + 1 + count + offset
        · rw [if_pos inside, if_pos (by omega)]
        · rw [if_neg inside, if_neg (by omega)]

theorem forLoop_write_index {n : Nat} (value : Nat → UInt8) (count start : Nat)
    (bytes : Bytes n) :
    forLoop (fun i b => b.write i (value i)) count start bytes =
      fun k => if start ≤ k.val ∧ k.val < start + count then value k.val else bytes k := by
  simpa using forLoop_write value 0 count start bytes

inductive SuccessE
  | SUCCESS
  | FAILURE
  deriving DecidableEq, Repr

/-- `struct airtag_t`: its `data` string, up to the NUL, fits `char data[DATA_LEN]`. -/
structure Airtag where
  data : List Char
  data_lt : data.length < DATA_LEN

def Airtag.empty : Airtag := ⟨[], by decide⟩

/-! ### `airtag_to_str` -/

/-- The fields `id` and `valid`, which only `airtag_to_str` reads. -/
structure AirtagInfo where
  id : UInt32
  valid : Bool
  deriving DecidableEq, Repr

/-- `snprintf` into a buffer of `bufferLen` bytes: the text cut to `bufferLen - 1`
characters and the NUL, or `none` when `bufferLen` is 0. -/
def snprintf (bufferLen : Nat) (text : List Char) : Option (List Char) :=
  if bufferLen = 0 then none else some (text.take (bufferLen - 1))

/-- The text of the format `"AirTag %" PRIu32 ": currently %s, data = %s"`. -/
def airtagText (info : AirtagInfo) (airtag : Airtag) : List Char :=
  "AirTag ".toList ++ (Nat.repr info.id.toNat).toList ++ ": currently ".toList ++
    (if info.valid then "valid" else "invalid").toList ++ ", data = ".toList ++ airtag.data

/-- `airtag_to_str` (airtag.c:23): the string it writes to `str_buffer`. -/
def airtagToStr (info : AirtagInfo) (airtag : Airtag) (bufferLen : Nat) : Option (List Char) :=
  snprintf bufferLen (airtagText info airtag)

theorem airtagText_length_le (info : AirtagInfo) (airtag : Airtag) :
    (airtagText info airtag).length ≤ 97 := by
  have digits : (Nat.repr info.id.toNat).toList.length ≤ 10 :=
    Nat.repr_length _ 10 (by decide) (lt_of_lt_of_le (UInt32.toNat_lt_size info.id) (by decide))
  have validity : (if info.valid then "valid" else "invalid").toList.length ≤ 7 := by
    cases info.valid <;> decide
  have texts : "AirTag ".toList.length = 7 ∧ ": currently ".toList.length = 12 ∧
      ", data = ".toList.length = 9 := ⟨rfl, rfl, rfl⟩
  have data : airtag.data.length < 53 := airtag.data_lt
  simp only [airtagText, List.length_append]
  omega

/-- The line `http_client_task` logs for a record always fits its 256-byte buffer. -/
theorem airtagToStr_fits (info : AirtagInfo) (airtag : Airtag) :
    airtagToStr info airtag 256 = some (airtagText info airtag) ∧
      (airtagText info airtag).length ≤ 97 := by
  have short := airtagText_length_le info airtag
  refine ⟨?_, short⟩
  rw [airtagToStr, snprintf, if_neg (by decide), List.take_of_length_le (by omega)]

end RelayFirmware
