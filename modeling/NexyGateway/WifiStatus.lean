import NexyGateway.JsonText

/-!
# WiFi status

The domain types of `bluetoothApi/state.py` and their two serializations.
-/
namespace NexyGateway

/-- The largest number of networks a status shows. -/
def maxNetworksInStatus : Nat := 4

inductive Phase where
  | idle | scanning | connecting | connected | disconnected | error
  deriving DecidableEq, Repr

def Phase.value : Phase → String
  | .idle => "idle"
  | .scanning => "scanning"
  | .connecting => "connecting"
  | .connected => "connected"
  | .disconnected => "disconnected"
  | .error => "error"

inductive ErrorCode where
  | pskTooShort | pskWrong | ssidNotFound | timeout | invalidRequest
  deriving DecidableEq, Repr

def ErrorCode.value : ErrorCode → String
  | .pskTooShort => "PSK_TOO_SHORT"
  | .pskWrong => "PSK_WRONG"
  | .ssidNotFound => "SSID_NOT_FOUND"
  | .timeout => "TIMEOUT"
  | .invalidRequest => "INVALID_REQUEST"

structure NetworkInfo where
  ssid : String
  rssi : Int
  security : String
  deriving DecidableEq, Repr

structure ConnectionInfo where
  ssid : String
  rssi : Int
  ip : String
  deriving DecidableEq, Repr

structure StatusError where
  code : String
  message : String
  deriving DecidableEq, Repr

/-- Complete snapshot of the WiFi subsystem. -/
structure Status where
  seq : Nat := 0
  phase : Phase := .idle
  iface : Option String := none
  current : Option ConnectionInfo := none
  networks : List NetworkInfo := []
  error : Option StatusError := none
  lastUpdatedMs : Int := 0
  deriving DecidableEq, Repr

namespace Status

open JsonText

def networkText (n : NetworkInfo) : String :=
  object compact [("ssid", string n.ssid), ("rssi", integer n.rssi),
    ("security", string n.security)]

def connectionText (c : ConnectionInfo) : String :=
  object compact [("ssid", string c.ssid), ("rssi", integer c.rssi), ("ip", string c.ip)]

def errorText (e : StatusError) : String :=
  object compact [("code", string e.code), ("message", string e.message)]

/-- Compact full status for the BLE READ. -/
def toJson (s : Status) : ByteArray :=
  (object compact
    [("seq", integer s.seq), ("phase", string s.phase.value), ("iface", optional string s.iface),
     ("current", optional connectionText s.current),
     ("networks", array compact (s.networks.map networkText)),
     ("error", optional errorText s.error),
     ("last_updated_ms", integer s.lastUpdatedMs)]).toUTF8

/-- Small NOTIFY payload. -/
def toTickJson (s : Status) : ByteArray :=
  (object compact
    [("seq", integer s.seq), ("phase", string s.phase.value),
     ("last_updated_ms", integer s.lastUpdatedMs)]).toUTF8

/-- The shape that the Bluetooth protocol documents for a status payload. -/
structure Documented (s : Status) : Prop where
  error_iff : s.error ≠ none ↔ s.phase = .error
  current_only : s.current ≠ none → s.phase = .connected ∧ s.iface = some "wlan0"

end Status

end NexyGateway
