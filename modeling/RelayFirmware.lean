import RelayFirmware.Airtag.Basic
import RelayFirmware.Airtag.Base64
import RelayFirmware.Airtag.Key
import RelayFirmware.Airtag.Advertisement
import RelayFirmware.Http.EventHandler
import RelayFirmware.Firmware.System
import RelayFirmware.Firmware.Invariant
import RelayFirmware.Firmware.Radio
import RelayFirmware.Firmware.Mutex
import RelayFirmware.Firmware.Rotation
import RelayFirmware.Wifi.EventHandler
import RelayFirmware.Wifi.Connection
