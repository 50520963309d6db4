import Mathlib.Data.Nat.Defs

/-!
`wifi_event_handler` (main.c:113-142).  `WIFI_CONNECTION_RETRIES` is a
parameter; `retry_num` is incremented only below it, so it never wraps.
-/

namespace RelayFirmware

/-- `WIFI_CONNECTED_BIT` and `WIFI_FAIL_BIT`, `BIT0` and `BIT1` of `wifi_event_group`. -/
def WIFI_CONNECTED_BIT : Nat := 1

def WIFI_FAIL_BIT : Nat := 2

/-- The events the handler is registered for (main.c:371-374). -/
inductive WifiEvent
  | staStart  -- `WIFI_EVENT_STA_START`
  | staConnected  -- `WIFI_EVENT_STA_CONNECTED`
  | staDisconnected  -- `WIFI_EVENT_STA_DISCONNECTED`
  | gotIp  -- `IP_EVENT_STA_GOT_IP`
  | other  -- any other `WIFI_EVENT`
  deriving DecidableEq, Repr

inductive WifiCall
  | connect  -- `esp_wifi_connect()`
  | setBits (bits : Nat)  -- `xEventGroupSetBits(wifi_event_group, bits)`
  | abort  -- `abort()`
  | restart  -- `esp_restart()`
  deriving DecidableEq, Repr

/-- `wifi_event_handler`: its calls and the new `retry_num`; `eventGroup` is `wifi_event_group
!= NULL`. -/
def wifiEventHandler (WIFI_CONNECTION_RETRIES : Nat) (eventGroup : Bool) (retryNum : Nat)
    (event : WifiEvent) : List WifiCall × Nat :=
  if eventGroup = false then ([.abort], retryNum)
  else
    match event with
    | .staStart => ([.connect], retryNum)
    | .staDisconnected =>
        if retryNum < WIFI_CONNECTION_RETRIES then ([.connect], retryNum + 1)
        else ([.setBits WIFI_FAIL_BIT], retryNum)
    | .gotIp => ([.setBits WIFI_CONNECTED_BIT], 0)
    | .staConnected | .other => ([], retryNum)

section Answers

variable {WIFI_CONNECTION_RETRIES retryNum : Nat}

@[simp]
theorem wifiEventHandler_uncreated (event : WifiEvent) :
    wifiEventHandler WIFI_CONNECTION_RETRIES false retryNum event = ([.abort], retryNum) := rfl

theorem wifiEventHandler_disconnected :
    wifiEventHandler WIFI_CONNECTION_RETRIES true retryNum .staDisconnected =
      if retryNum < WIFI_CONNECTION_RETRIES then ([.connect], retryNum + 1)
      else ([.setBits WIFI_FAIL_BIT], retryNum) := rfl

theorem wifiEventHandler_created (event : WifiEvent) :
    WifiCall.abort ∉ (wifiEventHandler WIFI_CONNECTION_RETRIES true retryNum event).1 ∧
      (retryNum ≤ WIFI_CONNECTION_RETRIES →
        (wifiEventHandler WIFI_CONNECTION_RETRIES true retryNum event).2 ≤ WIFI_CONNECTION_RETRIES) := by
  cases event <;> simp only [wifiEventHandler, Bool.true_eq_false, if_false]
  case staDisconnected =>
    split_ifs with below
    · exact ⟨by simp, fun _ => below⟩
    · exact ⟨by simp, id⟩
  all_goals exact ⟨by simp, fun within => by omega⟩

theorem wifiEventHandler_no_restart (eventGroup : Bool) (event : WifiEvent) :
    WifiCall.restart ∉ (wifiEventHandler WIFI_CONNECTION_RETRIES eventGroup retryNum event).1 := by
  cases eventGroup
  · simp
  · cases event <;> simp only [wifiEventHandler, Bool.true_eq_false, if_false] <;> (try split_ifs) <;> simp

end Answers

/-! ### The retry budget -/

/-- What `retry_num` counts: the disconnections since the station last got an address. -/
def disconnections (count : Nat) : WifiEvent → Nat
  | .gotIp => 0
  | .staDisconnected => count + 1
  | _ => count

theorem wifiEventHandler_retryNum (WIFI_CONNECTION_RETRIES count : Nat) (event : WifiEvent) :
    (wifiEventHandler WIFI_CONNECTION_RETRIES true (min WIFI_CONNECTION_RETRIES count) event).2 =
      min WIFI_CONNECTION_RETRIES (disconnections count event) := by
  cases event <;> simp only [wifiEventHandler, disconnections, Bool.true_eq_false, if_false]
  case staDisconnected => split_ifs <;> omega
  all_goals omega

theorem wifiEventHandler_connects {WIFI_CONNECTION_RETRIES retryNum : Nat} (eventGroup : Bool)
    (within : retryNum ≤ WIFI_CONNECTION_RETRIES) (event : WifiEvent) :
    (wifiEventHandler WIFI_CONNECTION_RETRIES eventGroup retryNum event).1.count .connect + retryNum ≤
      [event].count .staStart + WIFI_CONNECTION_RETRIES * [event].count .gotIp +
        (wifiEventHandler WIFI_CONNECTION_RETRIES eventGroup retryNum event).2 := by
  cases eventGroup
  · simp
  cases event <;> simp only [wifiEventHandler, Bool.true_eq_false, if_false]
  case staDisconnected =>
    split_ifs
    · simp only [List.count_singleton_self]
      omega
    · simp
  all_goals simp [within]

end RelayFirmware
