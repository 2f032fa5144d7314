import NexyGateway.Coroutines

/-!
# Lift proxy

`liftApi/lift_proxy.py` from the moment `_create_handlers` has built both candidates:
identification, binding, polling, the telemetry loops, and the reads and writes that
share the handler lock. What the buses, the cloud and the cached values give is an
input of the step that reads it.
-/
namespace NexyGateway.LiftProxy

inductive LiftType where
  | unknown | ahl | oneK
  deriving DecidableEq, Repr

def LiftType.value : LiftType → String
  | .unknown => "unknown"
  | .ahl => "AHL"
  | .oneK => "1k"

/-- The two handler objects. -/
inductive Handler where
  | modbus | rs232
  deriving DecidableEq, Repr

/-- The parameter libraries; an AHL library has a polling table. -/
inductive Lib where
  | ahl (newTable : Bool)
  | thousand
  deriving DecidableEq, Repr

inductive ParamValue where
  | int (n : Int)
  | str (s : String)
  deriving DecidableEq, Repr

/-- A `la.parameters.update` event as it is handed to the cloud client. -/
structure ParamEvent where
  liftTypeProperty : LiftType
  source : String
  data : List (Int × ParamValue)
  deriving DecidableEq, Repr

/-- What the proxy does to the world outside it. -/
inductive Observation where
  | attached (senderType : LiftType)
  | published (liftType : LiftType)
  | closing (loser : Handler)
  | announced (senderType : LiftType)
  | pollCalled (force : Bool)
  | pollReturned
  | sent (event : ParamEvent) (proxyType : LiftType)
  deriving DecidableEq, Repr

/-- Fields of the proxy and the newest-first log of what it did. The event sender and the
reporter are set together; of the sender only its own `lift_type` matters here. -/
structure Proxy where
  handler : Option Handler := none
  lib : Option Lib := none
  liftType : LiftType := .unknown
  eventSender : Option LiftType := none
  locked : Bool := false
  forceReadAll : Bool := true
  modbusHandler : Option Handler := none
  rs232Handler : Option Handler := none
  thousandLib : Option Lib := none
  log : List Observation := []

/-- The proxy after `_create_handlers`. -/
def createHandlers : Proxy :=
  { modbusHandler := some .modbus, rs232Handler := some .rs232, thousandLib := some .thousand }

def Proxy.observe (c : Proxy) (o : Observation) : Proxy := { c with log := o :: c.log }

def Proxy.lock (c : Proxy) : Proxy := { c with locked := true }

def Proxy.release (c : Proxy) : Proxy := { c with locked := false }

/-- Who asked for an identification round: `create`, or `_reidentify_loop`. -/
inductive Round where
  | startup | background
  deriving DecidableEq

/-- Who called `poll_params`. -/
inductive Caller where
  | consumer | loop
  deriving DecidableEq

inductive Sender where
  | polling | daily | ddm
  deriving DecidableEq

inductive Access where
  | readParamLive | readArNumber | writeArNumber | writeParam | writeReadParam
  deriving DecidableEq

/-- What a stretch reads of the desired twin and of the cache: the push list (`none` where
building it raises) and the values that `get_param_value` gives without an error. -/
structure View where
  pushList : Option (List Int)
  value : Int → Option ParamValue

inductive Request where
  | run
  | identify
  | reidentifyLoop
  | pollingLoop
  | dailyLoop
  | pollParams (force : Bool)
  | access (kind : Access)
  | pushParamEvent (ids : List Int) (view : View)

/-- What an await gives back; `answered` and `accessed` carry the code of the reply triple. -/
inductive Outcome where
  | acquired
  | answered (code : String)
  | closed
  | polled (changed : List Int)
  | accessed (status : Int)
  | viewed (view : View)
  | sent
  | reported
  | slept
  | raised
  | cancelled

inductive Point where
  | probingModbus (who : Round) (rs232 : Option Handler)
  | probingRs232 (who : Round)
  | bindWaiting (who : Round) (liftType : LiftType)
  | detecting (who : Round) (handler : Handler) (loser : Option Handler)
  | closing (who : Round) (loser : Handler)
  | reporting
  | reidentifySleeping
  | pollWaiting (who : Caller) (force : Bool)
  | polling (who : Caller)
  | notifying (changed : List Int)
  | sending (who : Sender)
  | pollSleeping
  | dailySleeping
  | accessWaiting (kind : Access)
  | accessing (kind : Access)
  | readingBack
  deriving DecidableEq

/-- Suspended inside `async with self._handler_lock`. -/
def Point.holdsLock : Point → Bool
  | .detecting .. => true
  | .polling _ => true
  | .accessing _ => true
  | .readingBack => true
  | _ => false

/-- `_on_identified`. -/
def onIdentified (c : Proxy) : Proxy × Option Point :=
  match c.eventSender with
  | none => (c, none)
  | some _ =>
    (({ c with eventSender := some c.liftType } : Proxy).observe (.announced c.liftType),
      some .reporting)

/-- The head of the loop in `_reidentify_loop`. -/
def reidentify (c : Proxy) : Proxy × Option Point :=
  if c.liftType = .unknown then (c, some .reidentifySleeping) else (c, none)

/-- The end of a round that did not raise: `_try_identify` looks at the lift type again. -/
def roundReturned (who : Round) (c : Proxy) : Proxy × Option Point :=
  match who with
  | .startup => (c, none)
  | .background => if c.liftType = .unknown then reidentify c else onIdentified c

/-- A round that found nothing, or that raised; both only lead to the next one. -/
def roundFailed (who : Round) (c : Proxy) : Proxy × Option Point :=
  match who with
  | .startup => (c, none)
  | .background => reidentify c

/-- `identify_lift` from its second probe on. -/
def probeRs232 (who : Round) (rs232 : Option Handler) (c : Proxy) : Proxy × Option Point :=
  match rs232 with
  | some _ => (c, some (.probingRs232 who))
  | none => roundFailed who c

/-- The first stretch of `_try_identify`. -/
def tryIdentify (who : Round) (c : Proxy) : Proxy × Option Point :=
  match c.modbusHandler with
  | some _ => (c, some (.probingModbus who c.rs232Handler))
  | none => probeRs232 who c.rs232Handler c

/-- The block of `_bind` that publishes the pair, the release of the lock that follows it,
and the call that closes the losing handler in a worker thread. -/
def publish (who : Round) (liftType : LiftType) (handler : Handler) (lib : Lib)
    (loser : Option Handler) (c : Proxy) : Proxy × Option Point :=
  let c : Proxy :=
    ({ c with
        handler := some handler
        lib := some lib
        modbusHandler := none
        rs232Handler := none
        thousandLib := none
        forceReadAll := true
        liftType := liftType
        locked := false } : Proxy).observe (.published liftType)
  match loser with
  | some h => (c.observe (.closing h), some (.closing who h))
  | none => roundReturned who c

/-- `_bind` once it has the lock. -/
def bindLocked (who : Round) (liftType : LiftType) (c : Proxy) : Proxy × Option Point :=
  match liftType with
  | .ahl =>
    match c.modbusHandler with
    | some h => (c.lock, some (.detecting who h c.rs232Handler))
    | none => roundReturned who c
  | .oneK =>
    match c.rs232Handler, c.thousandLib with
    | some h, some lib => publish who .oneK h lib c.modbusHandler c
    | _, _ => roundReturned who c
  | .unknown => roundReturned who c

/-- The end of `_detect_ahl_polling_table`, and the publication if it did not raise. -/
def detected (who : Round) (handler : Handler) (loser : Option Handler) (code : String)
    (c : Proxy) : Proxy × Option Point :=
  if code = "NO_ERR" then publish who .ahl handler (.ahl true) loser c
  else if code = "LCM_ERR" then publish who .ahl handler (.ahl false) loser c
  else roundFailed who c.release

/-- The first stretch of `poll_params`; the polling loop sleeps after an empty result. -/
def pollParams (who : Caller) (force : Bool) (c : Proxy) : Proxy × Option Point :=
  match c.lib, c.handler with
  | some _, some _ => (c, some (.pollWaiting who force))
  | _, _ =>
    match who with
    | .consumer => (c, none)
    | .loop => (c, some .pollSleeping)

/-- Where `poll_params` goes when it raised. -/
def pollFailed (who : Caller) (c : Proxy) : Proxy × Option Point :=
  match who with
  | .consumer => (c, none)
  | .loop => (c, some .pollSleeping)

/-- `poll_params` once it has the lock. -/
def pollLocked (who : Caller) (force : Bool) (c : Proxy) : Proxy × Option Point :=
  match c.lib with
  | none => pollFailed who c
  | some _ => (c.lock.observe (.pollCalled (force || c.forceReadAll)), some (.polling who))

/-- The library's poll has returned; the flag is cleared before the lock is released. -/
def pollReturned (who : Caller) (changed : List Int) (c : Proxy) : Proxy × Option Point :=
  let c : Proxy :=
    ({ c with forceReadAll := false, locked := false } : Proxy).observe .pollReturned
  match who with
  | .consumer => (c, none)
  | .loop => if changed = [] then (c, some .pollSleeping) else (c, some (.notifying changed))

/-- The data list of `_send_params`. -/
def eventData (view : View) (ids : List Int) : List (Int × ParamValue) :=
  ids.filterMap (fun id => (view.value id).map (fun v => (id, v)))

/-- `_send_params` up to the message being handed to the cloud client; `none` where there
is nothing to send. -/
def sendParams (ids : List Int) (source : String) (view : View) (c : Proxy) : Option Proxy :=
  match c.eventSender, c.lib with
  | some tag, some _ =>
    if eventData view ids = [] then none
    else some (c.observe (.sent ⟨tag, source, eventData view ids⟩ c.liftType))
  | _, _ => none

/-- `_get_param_push_list`, which is empty before a library is bound. -/
def getParamPushList (view : View) (c : Proxy) : List Int :=
  match c.lib with
  | none => []
  | some _ => view.pushList.getD []

def pollingSource : String := "la.parameter.polling"

/-- The rest of a cycle of `_polling_loop` after the supervisor was told. -/
def pushOnChange (changed : List Int) (view : View) (c : Proxy) : Proxy × Option Point :=
  let pushList := getParamPushList view c
  match sendParams (changed.filter (fun p => p ∈ pushList)) pollingSource view c with
  | some c => (c, some (.sending .polling))
  | none => (c, some .pollSleeping)

/-- One cycle of `_daily_loop`. -/
def pushDaily (view : View) (c : Proxy) : Proxy × Option Point :=
  match sendParams (getParamPushList view c) pollingSource view c with
  | some c => (c, some (.sending .daily))
  | none => (c, some .dailySleeping)

def pushParamEvent (ids : List Int) (view : View) (c : Proxy) : Proxy × Option Point :=
  match sendParams ids "la.parameter.ddm" view c with
  | some c => (c, some (.sending .ddm))
  | none => (c, none)

def sendReturned (who : Sender) (c : Proxy) : Proxy × Option Point :=
  match who with
  | .polling => (c, some .pollSleeping)
  | .daily => (c, some .dailySleeping)
  | .ddm => (c, none)

/-- The checks of a read or a write before it queues for the lock. -/
def mayAccess (kind : Access) (c : Proxy) : Bool :=
  match kind with
  | .readArNumber =>
    match c.liftType with
    | .ahl | .oneK => c.handler.isSome
    | .unknown => false
  | .writeArNumber => c.liftType = .oneK && c.handler.isSome
  | .readParamLive | .writeParam | .writeReadParam => c.handler.isSome

/-- After the first call of a read or a write: only a verified write goes on to read back. -/
def accessReturned (kind : Access) (status : Int) (c : Proxy) : Proxy × Option Point :=
  if kind = .writeReadParam ∧ status = 0 then (c, some .readingBack) else (c.release, none)

/-- The first stretch of `run` and of every other call. -/
def start : Request → Proxy → Proxy × Option Point
  | .run, c =>
    (({ c with eventSender := some c.liftType } : Proxy).observe (.attached c.liftType),
      some .reporting)
  | .identify, c => tryIdentify .startup c
  | .reidentifyLoop, c => reidentify c
  | .pollingLoop, c => pollParams .loop false c
  | .dailyLoop, c => (c, some .dailySleeping)
  | .pollParams force, c => pollParams .consumer force c
  | .access kind, c => if mayAccess kind c then (c, some (.accessWaiting kind)) else (c, none)
  | .pushParamEvent ids view, c => pushParamEvent ids view c

/-- A cancelled task leaves the lock's block, if it is in one, and ends. -/
def cancel (t : Point) (c : Proxy) : Proxy := if t.holdsLock then c.release else c

def resume : Point → Outcome → Proxy → Option (Proxy × Option Point)
  | t, .cancelled, c => some (cancel t c, none)
  | .probingModbus who rs232, .answered code, c =>
    if code = "NO_ERR" then some (c, some (.bindWaiting who .ahl))
    else some (probeRs232 who rs232 c)
  | .probingModbus who rs232, .raised, c => some (probeRs232 who rs232 c)
  | .probingRs232 who, .answered code, c =>
    if code = "NO_ERR" then some (c, some (.bindWaiting who .oneK)) else some (roundFailed who c)
  | .probingRs232 who, .raised, c => some (roundFailed who c)
  | .bindWaiting who liftType, .acquired, c =>
    if c.locked then none else some (bindLocked who liftType c)
  | .detecting who handler loser, .answered code, c => some (detected who handler loser code c)
  | .detecting who _ _, .raised, c => some (roundFailed who c.release)
  | .closing who _, .closed, c => some (roundReturned who c)
  | .closing who _, .raised, c => some (roundFailed who c)
  | .reporting, .reported, c => some (c, none)
  | .reporting, .raised, c => some (c, none)
  | .reidentifySleeping, .slept, c => some (tryIdentify .background c)
  | .pollWaiting who force, .acquired, c =>
    if c.locked then none else some (pollLocked who force c)
  | .polling who, .polled changed, c => some (pollReturned who changed c)
  | .polling who, .raised, c => some (pollFailed who c.release)
  | .notifying changed, .viewed view, c => some (pushOnChange changed view c)
  | .sending who, .sent, c => some (sendReturned who c)
  | .pollSleeping, .slept, c => some (pollParams .loop false c)
  | .dailySleeping, .viewed view, c => some (pushDaily view c)
  | .accessWaiting kind, .acquired, c =>
    if c.locked then none else some (c.lock, some (.accessing kind))
  | .accessing kind, .accessed status, c => some (accessReturned kind status c)
  | .accessing _, .raised, c => some (c.release, none)
  | .readingBack, .accessed _, c => some (c.release, none)
  | .readingBack, .raised, c => some (c.release, none)
  | _, _, _ => none

def program : Coroutines.Program Proxy Point Request Outcome := ⟨start, resume⟩

end NexyGateway.LiftProxy
