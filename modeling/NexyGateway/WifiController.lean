import NexyGateway.Coroutines
import NexyGateway.PyRepr
import NexyGateway.WifiStatus

/-!
# WiFi controller

`bluetoothApi/controller.py` as a program of cooperative tasks. Every body of the
controller's lock is free of awaits, so a stretch between two suspension points
always finds the lock free, and the lock needs no state of its own.
-/
namespace NexyGateway.WifiController

open PyRepr (Rendering reprString)

def minPskLen : Nat := 8

def supportedIfaces : List String := ["wlan0", "ppp0"]

/-- Fields of the controller; `ticks` holds the payloads handed to `on_tick`, oldest first. -/
structure Controller where
  status : Status
  latestStatusJson : ByteArray
  ticks : List ByteArray

def init (now : Int) : Controller :=
  let status : Status := { lastUpdatedMs := now }
  ⟨status, status.toJson, []⟩

/-- `_commit`, and the first stretch of the `_emit` that follows each commit. -/
def Controller.commit (c : Controller) (status : Status) : Controller :=
  { status := status
    latestStatusJson := status.toJson
    ticks := c.ticks ++ [status.toTickJson] }

@[simp] theorem commit_status (c : Controller) (s : Status) : (c.commit s).status = s := rfl

@[simp] theorem commit_latestStatusJson (c : Controller) (s : Status) :
    (c.commit s).latestStatusJson = s.toJson := rfl

/-- `_with_phase`; no caller passes a current connection. -/
def Controller.withPhase (c : Controller) (now : Int) (phase : Phase) (iface : Option String)
    (networks : List NetworkInfo) : Status :=
  { seq := c.status.seq + 1
    phase := phase
    iface := iface
    current := none
    networks := networks
    error := none
    lastUpdatedMs := now }

def Controller.errorStatus (c : Controller) (now : Int) (code : ErrorCode) (message : String) :
    Status :=
  { seq := c.status.seq + 1
    phase := .error
    iface := c.status.iface
    networks := c.status.networks
    error := some ⟨code.value, message⟩
    lastUpdatedMs := now }

def Controller.setError (c : Controller) (now : Int) (code : ErrorCode) (message : String) :
    Controller :=
  c.commit (c.errorStatus now code message)

/-- The status built by a completed connect, or by a switch to the mobile interface. -/
def Controller.connectedStatus (c : Controller) (now : Int) (iface : String)
    (current : Option ConnectionInfo) : Status :=
  { seq := c.status.seq + 1
    phase := .connected
    iface := some iface
    current := current
    networks := c.status.networks
    lastUpdatedMs := now }

/-- The status built by `_heartbeat_tick` once it holds the lock again. -/
def Controller.heartbeatStatus (c : Controller) (now : Int) (newCurrent : Option ConnectionInfo) :
    Status :=
  { seq := c.status.seq + 1
    phase := c.status.phase
    iface := c.status.iface
    current := newCurrent <|> c.status.current
    networks := c.status.networks
    error := c.status.error
    lastUpdatedMs := now }

/-- `ConnectResult` of the command line wrapper. -/
structure ConnectResult where
  status : String
  ssid : String
  ip : String

inductive Request where
  | scan (force : Bool)
  | connect (ssid psk iface : String)
  | invalid (message : String)
  | disconnect
  | heartbeat

/-- What an await gives back. A callback that fails is logged, like one that returns. -/
inductive Outcome where
  | sent
  | raised
  | cancelled
  | scanned (networks : List NetworkInfo)
  | connected (result : ConnectResult)
  | disconnected
  | refreshed (info : Option ConnectionInfo)

/-- Suspension points: awaits of `on_tick` before and after the command, and of the command. -/
inductive Point where
  | scanAnnounced
  | scanning
  | connectAnnounced (ssid psk : String)
  | connecting (ssid psk : String)
  | disconnecting
  | refreshing
  | lastTick
  deriving DecidableEq

section Program

-- what `repr` leaves unescaped beyond ASCII is a table of the Unicode database
variable (repr : Rendering)

def requestScan (now : Int) (force : Bool) (c : Controller) : Controller × Option Point :=
  if (c.status.phase = .scanning ∨ c.status.phase = .connecting) ∧ force = false then (c, none)
  else (c.commit (c.withPhase now .scanning c.status.iface []), some .scanAnnounced)

def requestConnect (now : Int) (ssid psk iface : String) (c : Controller) :
    Controller × Option Point :=
  if iface ∉ supportedIfaces then
    (c.setError now .invalidRequest ("unknown iface " ++ reprString repr iface), some .lastTick)
  else if iface = "ppp0" then
    (c.commit (c.connectedStatus now "ppp0" none), some .lastTick)
  else if psk.length < minPskLen then
    (c.setError now .pskTooShort
      ("PSK must be at least " ++ toString minPskLen ++ " characters"), some .lastTick)
  -- the guard against a second attempt: it reads the phase, nothing else
  else if c.status.phase = .connecting then (c, none)
  else
    (c.commit (c.withPhase now .connecting (some "wlan0") c.status.networks),
      some (.connectAnnounced ssid psk))

def heartbeatTick (now : Int) (c : Controller) : Controller × Option Point :=
  if c.status.phase = .connected ∧ c.status.iface = some "wlan0" then (c, some .refreshing)
  else (c.commit (c.heartbeatStatus now none), some .lastTick)

/-- The first stretch of a call; `now` is what the clock shows if it is read. -/
def start : Int × Request → Controller → Controller × Option Point
  | (now, .scan force), c => requestScan now force c
  | (now, .connect ssid psk iface), c => requestConnect repr now ssid psk iface c
  | (now, .invalid message), c => (c.setError now .invalidRequest message, some .lastTick)
  | (_, .disconnect), c => (c, some .disconnecting)
  | (now, .heartbeat), c => heartbeatTick now c

/-- The end of `request_connect`, after the command has returned. -/
def connectFinished (now : Int) (result : ConnectResult) (c : Controller) : Controller :=
  if result.status = "connected" then
    c.commit (c.connectedStatus now "wlan0" (some ⟨result.ssid, 0, result.ip⟩))
  else if result.status = "associated" then
    c.setError now .pskWrong "associated but no IP — likely auth failure"
  else c.setError now .ssidNotFound "connection failed"

/-- A disconnect goes on in the same way whether or not the command raised. -/
def disconnectFinished (now : Int) (c : Controller) : Controller :=
  c.commit (c.withPhase now .disconnected c.status.iface c.status.networks)

/-- The stretch after an await. Cancellation ends a task wherever it is suspended. -/
def resume : Point → Int × Outcome → Controller → Option (Controller × Option Point)
  | _, (_, .cancelled), c => some (c, none)
  | .scanAnnounced, (_, .sent), c => some (c, some .scanning)
  | .scanning, (now, .scanned networks), c =>
    some (c.commit (c.withPhase now .idle c.status.iface (networks.take maxNetworksInStatus)),
      some .lastTick)
  | .scanning, (now, .raised), c => some (c.setError now .timeout "scan failed", some .lastTick)
  | .connectAnnounced ssid psk, (_, .sent), c => some (c, some (.connecting ssid psk))
  | .connecting _ _, (now, .connected result), c =>
    some (connectFinished now result c, some .lastTick)
  | .connecting _ _, (now, .raised), c =>
    some (c.setError now .timeout "connect timed out", some .lastTick)
  | .disconnecting, (now, .disconnected), c => some (disconnectFinished now c, some .lastTick)
  | .disconnecting, (now, .raised), c => some (disconnectFinished now c, some .lastTick)
  | .refreshing, (now, .refreshed info), c =>
    some (c.commit (c.heartbeatStatus now info), some .lastTick)
  | .refreshing, (now, .raised), c => some (c.commit (c.heartbeatStatus now none), some .lastTick)
  | .lastTick, (_, .sent), c => some (c, none)
  | _, _, _ => none

def program : Coroutines.Program Controller Point (Int × Request) (Int × Outcome) :=
  ⟨start repr, resume⟩

end Program

end NexyGateway.WifiController
