import NexyGateway.JsonBytes
import NexyGateway.WifiTicks

/-!
# Bluetooth server

`bluetoothApi/server.py` around the coroutines of the controller: what a write to a
characteristic asks for, the tasks that the server keeps, its heartbeat, and `stop`.
A task is created by the callback of a write and runs for the first time later.
-/
namespace NexyGateway.BluetoothServer

open Coroutines PyDecoder PyJson WifiController
open PyRepr (Rendering)

/-- Values written to the characteristics. -/
inductive Write where
  | scan (value : ByteArray)
  | connect (value : ByteArray)
  | disconnect (value : ByteArray)

/-- `_parse_force` -/
def parseForce (value : ByteArray) : Bool :=
  if value.isEmpty then false
  else
    match loadsBytes value with
    | some (.dict payload) => ((payload.lookup "force").getD (.bool false)).truthy
    | _ => false

/-- The call that `on_write_connect` schedules. -/
def onWriteConnect (value : ByteArray) : Request :=
  match (if value.isEmpty then some (.dict []) else loadsBytes value) with
  | none => .invalid "ConnectRequest body is not JSON"
  | some (.dict payload) =>
    match (payload.lookup "ssid").getD (.str ""), (payload.lookup "psk").getD (.str ""),
      (payload.lookup "iface").getD (.str "") with
    | .str ssid, .str psk, .str iface =>
      if ssid = "" ∧ iface = "wlan0" then .invalid "ssid is required for wlan0"
      else .connect ssid psk iface
    | _, _, _ => .invalid "ssid, psk, and iface must be strings"
  | some _ => .invalid "ConnectRequest body must be an object"

def Write.request : Write → Request
  | .scan value => .scan (parseForce value)
  | .connect value => onWriteConnect value
  | .disconnect _ => .disconnect

/-- A dispatched task: not yet run, suspended in a command, or ended and still referenced. -/
inductive Work where
  | created (request : Request)
  | suspended (code : Code)
  | finished

/-- The task of `_heartbeat_loop`. -/
inductive Heartbeat where
  | absent
  | sleeping
  | beating (code : Code)
  | ended

/-- Where `stop` is. -/
inductive Stop where
  | notCalled
  | gathering (awaited : List Nat)
  | endingHeartbeat
  | stoppingServer
  | returned
  deriving DecidableEq

/-- The server with its controller. Tasks are numbered in the order of their creation, and
`tasks` is the set of those it refers to. -/
structure Server where
  controller : Locked
  work : Nat → Option Work := fun _ => none
  tasks : List Nat := []
  next : Nat := 0
  cancelled : List Nat := []
  heartbeat : Heartbeat := .absent
  heartbeatCancelled : Bool := false
  hasServer : Bool := false
  stopping : Bool := false
  stop : Stop := .notCalled

def init (now : Int) : Server := { controller := ⟨WifiController.init now, false, [], []⟩ }

/-- `on_read_status` -/
def Server.onReadStatus (s : Server) : ByteArray := s.controller.controller.latestStatusJson

inductive Event where
  /-- `start` has built the GATT server and its services. -/
  | built
  /-- The GATT server is up. -/
  | started
  /-- The callback of a write, on the event loop or outside of it. -/
  | write (w : Write) (onLoop : Bool)
  /-- The event loop runs a dispatched task; `none` is its first run. -/
  | run (id : Nat) (now : Int) (reply : Option Reply)
  /-- The callback of an ended task. -/
  | dispatchDone (id : Nat)
  /-- The heartbeat wakes up, from its sleep where `reply` is `none`. -/
  | beat (now : Int) (reply : Option Reply)
  | stop
  | gathered
  | heartbeatEnded
  | serverStopped

/-- `_dispatch` -/
def Server.dispatch (s : Server) (onLoop : Bool) (request : Request) : Server :=
  if s.stopping = true ∨ onLoop = false then s
  else
    { s with
      work := assign s.work s.next (some (.created request))
      tasks := s.tasks ++ [s.next]
      next := s.next + 1 }

def Work.ofCode : Option Code → Work
  | none => .finished
  | some code => .suspended code

/-- A task that was cancelled before its first run never begins. -/
def runTask (repr : Rendering) (cancelled : Bool) (now : Int) (reply : Option Reply)
    (s : Locked) : Work → Option (Locked × Work)
  | .created request =>
    match reply with
    | none =>
      if cancelled then none
      else
        let r := stretch now (Code.request repr request) s
        some (r.1, .ofCode r.2)
    | some .cancelled => if cancelled then some (s, .finished) else none
    | some _ => none
  | .suspended code =>
    match reply with
    | none => none
    | some .cancelled => if cancelled then some (s, .finished) else none
    | some reply => (wake code (now, reply) s).map (fun r => (r.1, .ofCode r.2))
  | .finished => none

def Heartbeat.ofCode : Option Code → Heartbeat
  | none => .sleeping
  | some code => .beating code

/-- A cancelled heartbeat ends where it is suspended. -/
def runHeartbeat (cancelled : Bool) (now : Int) (reply : Option Reply) (s : Locked) :
    Heartbeat → Option (Locked × Heartbeat)
  | .sleeping =>
    match reply with
    | none =>
      let r := stretch now Code.heartbeatTick s
      some (r.1, .ofCode r.2)
    | some .cancelled => if cancelled then some (s, .ended) else none
    | some _ => none
  | .beating code =>
    match reply with
    | none => none
    | some .cancelled => if cancelled then some (s, .ended) else none
    | some reply => (wake code (now, reply) s).map (fun r => (r.1, .ofCode r.2))
  | .absent | .ended => none

def isEnded (work : Option Work) : Bool :=
  match work with
  | none | some .finished => true
  | _ => false

/-- `stop` from the call of `self._server.stop` on. -/
def Server.stopServer (s : Server) : Server :=
  { s with stop := if s.hasServer then .stoppingServer else .returned }

/-- `stop` from the call of `stop_heartbeat` on. -/
def Server.stopHeartbeat (s : Server) : Server :=
  match s.heartbeat with
  | .absent => s.stopServer
  | _ => { s with heartbeatCancelled := true, stop := .endingHeartbeat }

/-- The first stretch of `stop`. -/
def Server.beginStop (s : Server) : Server :=
  let s := { s with stopping := true, cancelled := s.tasks }
  if s.tasks = [] then s.stopHeartbeat else { s with stop := .gathering s.tasks }

section Step

variable (repr : Rendering)

def step (s : Server) : Event → Option Server
  | .built => if s.hasServer ∨ s.stopping then none else some { s with hasServer := true }
  | .started =>
    -- a `start` that is still waiting is not resumed once `stop` has been called
    match s.heartbeat with
    | .absent =>
      if s.hasServer = true ∧ s.stopping = false then some { s with heartbeat := .sleeping }
      else none
    | _ => none
  | .write w onLoop => some (s.dispatch onLoop w.request)
  | .run id now reply =>
    (s.work id).bind fun work =>
      (runTask repr (s.cancelled.contains id) now reply s.controller work).map fun r =>
        { s with controller := r.1, work := assign s.work id (some r.2) }
  | .dispatchDone id =>
    match s.work id with
    | some .finished =>
      some { s with work := assign s.work id none, tasks := s.tasks.filter (fun i => i ≠ id) }
    | _ => none
  | .beat now reply =>
    (runHeartbeat s.heartbeatCancelled now reply s.controller s.heartbeat).map fun r =>
      { s with controller := r.1, heartbeat := r.2 }
  | .stop => if s.stop = .notCalled then some s.beginStop else none
  | .gathered =>
    match s.stop with
    | .gathering awaited =>
      if awaited.all (fun id => isEnded (s.work id)) then some s.stopHeartbeat else none
    | _ => none
  | .heartbeatEnded =>
    match s.stop, s.heartbeat with
    | .endingHeartbeat, .ended => some { s with heartbeat := .absent }.stopServer
    | _, _ => none
  | .serverStopped =>
    if s.stop = .stoppingServer then some { s with stop := .returned } else none

end Step

end NexyGateway.BluetoothServer
