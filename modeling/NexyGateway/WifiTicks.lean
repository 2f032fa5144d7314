import NexyGateway.WifiShape

/-!
# Order of the status ticks

The coroutines of `bluetoothApi/controller.py` await by await, with the lock, the
commits and the pushes as separate steps, and the callback of the Bluetooth server,
which does not suspend. A tick is pushed after the lock is released, yet no commit
comes between it and its push. Between two awaits this finer program does what the
program of the controller does in one stretch.
-/
namespace NexyGateway.WifiController

open Coroutines Runs
open PyRepr (Rendering reprString asciiOnly)

/-- The rest of a coroutine: what it does next, and how it goes on from there. A command
that raises gives back `none`. -/
inductive Code where
  | done
  | acquire (next : Code)
  | release (next : Code)
  | look (next : Int → Controller → Code)
  | commit (status : Status) (next : ByteArray → Code)
  | emit (tick : ByteArray) (next : Code)
  | scan (next : Option (List NetworkInfo) → Code)
  | connect (ssid psk : String) (next : Option ConnectResult → Code)
  | disconnect (next : Code)
  | getStatus (next : Option (Option ConnectionInfo) → Code)

namespace Code

/-- `async with self._lock: tick = self._commit(..)`, then `await self._emit(tick)`. -/
def publish (status : Int → Controller → Status) (next : Code) : Code :=
  .acquire (.look fun now c => .commit (status now c) fun tick => .release (.emit tick next))

def setError (code : ErrorCode) (message : String) : Code :=
  publish (fun now c => c.errorStatus now code message) .done

def scanFinished : Option (List NetworkInfo) → Code
  | none => setError .timeout "scan failed"
  | some networks =>
    publish (fun now c => c.withPhase now .idle c.status.iface
      (networks.take maxNetworksInStatus)) .done

def requestScan (force : Bool) : Code :=
  .acquire (.look fun now c =>
    if (c.status.phase = .scanning ∨ c.status.phase = .connecting) ∧ force = false then
      .release .done
    else .commit (c.withPhase now .scanning c.status.iface []) fun tick =>
      .release (.emit tick (.scan scanFinished)))

def connectFinished : Option ConnectResult → Code
  | none => setError .timeout "connect timed out"
  | some result =>
    if result.status = "connected" then
      publish (fun now c => c.connectedStatus now "wlan0"
        (some ⟨result.ssid, 0, result.ip⟩)) .done
    else if result.status = "associated" then
      setError .pskWrong "associated but no IP — likely auth failure"
    else setError .ssidNotFound "connection failed"

def requestConnect (repr : Rendering) (ssid psk iface : String) : Code :=
  if iface ∉ supportedIfaces then
    setError .invalidRequest ("unknown iface " ++ reprString repr iface)
  else if iface = "ppp0" then publish (fun now c => c.connectedStatus now "ppp0" none) .done
  else if psk.length < minPskLen then
    setError .pskTooShort ("PSK must be at least " ++ toString minPskLen ++ " characters")
  else
    .acquire (.look fun now c =>
      if c.status.phase = .connecting then .release .done
      else .commit (c.withPhase now .connecting (some "wlan0") c.status.networks) fun tick =>
        .release (.emit tick (.connect ssid psk connectFinished)))

def disconnectFinished : Code :=
  publish (fun now c => c.withPhase now .disconnected c.status.iface c.status.networks) .done

def requestDisconnect : Code := .disconnect disconnectFinished

/-- A heartbeat that could not read the connection keeps the last known one. -/
def heartbeatFinished (read : Option (Option ConnectionInfo)) : Code :=
  publish (fun now c => c.heartbeatStatus now read.join) .done

/-- The phase is read under the lock, the interface after it. -/
def heartbeatTick : Code :=
  .acquire (.look fun _ locked => .release (.look fun _ c =>
    if locked.status.phase = .connected ∧ c.status.iface = some "wlan0" then
      .getStatus heartbeatFinished
    else heartbeatFinished none))

def request (repr : Rendering) : Request → Code
  | .scan force => requestScan force
  | .connect ssid psk iface => requestConnect repr ssid psk iface
  | .invalid message => setError .invalidRequest message
  | .disconnect => requestDisconnect
  | .heartbeat => heartbeatTick

end Code

/-- The controller with its lock. What was committed, and the cached text at each push, are
kept in order, oldest first. -/
structure Locked where
  controller : Controller
  locked : Bool := false
  commits : List Status := []
  cachedAtPush : List ByteArray := []

def Locked.commit (s : Locked) (status : Status) : Locked :=
  { s with
    controller := { s.controller with status := status, latestStatusJson := status.toJson }
    commits := s.commits ++ [status] }

/-- The callback gets the tick; that it fails is logged and changes nothing. -/
def Locked.emit (s : Locked) (tick : ByteArray) : Locked :=
  { s with
    controller := { s.controller with ticks := s.controller.ticks ++ [tick] }
    cachedAtPush := s.cachedAtPush ++ [s.controller.latestStatusJson] }

/-- Runs a coroutine up to the next await that suspends it. -/
def stretch (now : Int) : Code → Locked → Locked × Option Code
  | .done, s => (s, none)
  | .acquire next, s =>
    if s.locked then (s, some (.acquire next)) else stretch now next { s with locked := true }
  | .release next, s => stretch now next { s with locked := false }
  | .look next, s => stretch now (next now s.controller) s
  | .commit status next, s => stretch now (next status.toTickJson) (s.commit status)
  | .emit tick next, s => stretch now next (s.emit tick)
  | .scan next, s => (s, some (.scan next))
  | .connect ssid psk next, s => (s, some (.connect ssid psk next))
  | .disconnect next, s => (s, some (.disconnect next))
  | .getStatus next, s => (s, some (.getStatus next))

/-- What wakes a suspended coroutine. -/
inductive Reply where
  | granted
  | cancelled
  | scanned (networks : Option (List NetworkInfo))
  | connected (result : Option ConnectResult)
  | disconnected
  | refreshed (info : Option (Option ConnectionInfo))

def wake : Code → Int × Reply → Locked → Option (Locked × Option Code)
  | _, (_, .cancelled), s => some (s, none)
  | .acquire next, (now, .granted), s =>
    if s.locked then none else some (stretch now (.acquire next) s)
  | .scan next, (now, .scanned networks), s => some (stretch now (next networks) s)
  | .connect _ _ next, (now, .connected result), s => some (stretch now (next result) s)
  | .disconnect next, (now, .disconnected), s => some (stretch now next s)
  | .getStatus next, (now, .refreshed info), s => some (stretch now (next info) s)
  | _, _, _ => none

/-- The coroutines of the controller with a callback that does not suspend. -/
def lockedProgram (repr : Rendering) :
    Coroutines.Program Locked Code (Int × Request) (Int × Reply) :=
  ⟨fun r s => stretch r.1 (Code.request repr r.2) s, wake⟩

/-- A commit and the push of its tick. -/
def Locked.publish (s : Locked) (status : Status) : Locked :=
  (s.commit status).emit status.toTickJson

@[simp] theorem publish_controller (s : Locked) (status : Status) :
    (s.publish status).controller = s.controller.commit status := rfl

@[simp] theorem publish_locked (s : Locked) (status : Status) :
    (s.publish status).locked = s.locked := rfl

@[simp] theorem publish_commits (s : Locked) (status : Status) :
    (s.publish status).commits = s.commits ++ [status] := rfl

@[simp] theorem publish_cachedAtPush (s : Locked) (status : Status) :
    (s.publish status).cachedAtPush = s.cachedAtPush ++ [status.toJson] := rfl

theorem stretch_acquire (now : Int) (next : Code) (c : Controller) (commits : List Status)
    (cached : List ByteArray) :
    stretch now (.acquire next) ⟨c, false, commits, cached⟩ =
      stretch now next ⟨c, true, commits, cached⟩ := rfl

/-- With the lock free, a commit and its push are one uninterrupted step. -/
theorem stretch_publish (now : Int) (status : Int → Controller → Status) (next : Code)
    {s : Locked} (h : s.locked = false) :
    stretch now (.publish status next) s =
      stretch now next (s.publish (status now s.controller)) := by
  obtain ⟨c, locked, commits, cached⟩ := s
  cases h
  rfl

/-- Coroutines that wait for a command of the command line wrapper. -/
inductive AwaitsCli : Code → Prop
  | scan : AwaitsCli (.scan Code.scanFinished)
  | connect (ssid psk : String) : AwaitsCli (.connect ssid psk Code.connectFinished)
  | disconnect : AwaitsCli (.disconnect Code.disconnectFinished)
  | getStatus : AwaitsCli (.getStatus Code.heartbeatFinished)

/-- What a stretch from a free lock may do: nothing, or publish the next status. -/
inductive Stretched (s : Locked) : Locked × Option Code → Prop
  | same {t : Option Code} (waits : ∀ u, t = some u → AwaitsCli u) : Stretched s (s, t)
  | published {t : Option Code} (status : Status) (next : status.seq = s.controller.status.seq + 1)
      (waits : ∀ u, t = some u → AwaitsCli u) : Stretched s (s.publish status, t)

theorem stretch_last (now : Int) (status : Int → Controller → Status) {s : Locked}
    (h : s.locked = false)
    (next : (status now s.controller).seq = s.controller.status.seq + 1) :
    Stretched s (stretch now (.publish status .done) s) := by
  rw [stretch_publish now status .done h]
  exact .published _ next (by simp)

theorem stretch_setError (now : Int) (code : ErrorCode) (message : String) {s : Locked}
    (h : s.locked = false) : Stretched s (stretch now (.setError code message) s) :=
  stretch_last now _ h rfl

theorem stretch_heartbeatFinished (now : Int) (read : Option (Option ConnectionInfo))
    {s : Locked} (h : s.locked = false) :
    Stretched s (stretch now (.heartbeatFinished read) s) :=
  stretch_last now _ h rfl

theorem stretch_requestScan (now : Int) (force : Bool) {s : Locked} (h : s.locked = false) :
    Stretched s (stretch now (.requestScan force) s) := by
  obtain ⟨c, locked, commits, cached⟩ := s
  cases h
  rw [Code.requestScan, stretch_acquire]
  simp only [stretch]
  split
  · exact .same (by simp)
  · exact .published _ rfl (fun u hu => by cases hu; exact .scan)

theorem stretch_requestConnect (repr : Rendering) (now : Int) (ssid psk iface : String)
    {s : Locked} (h : s.locked = false) :
    Stretched s (stretch now (.requestConnect repr ssid psk iface) s) := by
  unfold Code.requestConnect
  split_ifs
  · exact stretch_last now _ h rfl
  · exact stretch_setError now _ _ h
  · obtain ⟨c, locked, commits, cached⟩ := s
    cases h
    rw [stretch_acquire]
    simp only [stretch]
    split
    · exact .same (by simp)
    · exact .published _ rfl (fun u hu => by cases hu; exact .connect ssid psk)
  · exact stretch_setError now _ _ h

theorem stretch_heartbeatTick (now : Int) {s : Locked} (h : s.locked = false) :
    Stretched s (stretch now .heartbeatTick s) := by
  obtain ⟨c, locked, commits, cached⟩ := s
  cases h
  rw [Code.heartbeatTick, stretch_acquire]
  simp only [stretch]
  split
  · exact .same (fun u hu => by cases hu; exact .getStatus)
  · exact stretch_heartbeatFinished now none rfl

theorem stretch_request (repr : Rendering) (now : Int) (r : Request) {s : Locked}
    (h : s.locked = false) : Stretched s (stretch now (.request repr r) s) := by
  cases r with
  | scan force => exact stretch_requestScan now force h
  | connect ssid psk iface => exact stretch_requestConnect repr now ssid psk iface h
  | invalid message => exact stretch_setError now _ _ h
  | disconnect => exact .same (fun u hu => by cases hu; exact .disconnect)
  | heartbeat => exact stretch_heartbeatTick now h

theorem stretch_connectFinished (now : Int) (result : Option ConnectResult) {s : Locked}
    (h : s.locked = false) : Stretched s (stretch now (.connectFinished result) s) := by
  cases result with
  | none => exact stretch_setError now _ _ h
  | some result =>
    unfold Code.connectFinished
    dsimp only
    split_ifs
    · exact stretch_last now _ h rfl
    · exact stretch_setError now _ _ h
    · exact stretch_setError now _ _ h

/-- A coroutine that waits for a command ends with at most one more status. -/
theorem wake_stretched {t : Code} {reply : Int × Reply} {s : Locked}
    {r : Locked × Option Code} (ht : AwaitsCli t) (h : s.locked = false)
    (hr : wake t reply s = some r) : Stretched s r := by
  obtain ⟨now, reply⟩ := reply
  cases reply with
  | cancelled =>
    have hr : (s, none) = r := by cases ht <;> simpa [wake] using hr
    rw [← hr]
    exact .same (by simp)
  | granted => cases ht <;> simp [wake] at hr
  | scanned networks =>
    cases ht <;> cases hr
    cases networks with
    | none => exact stretch_setError now _ _ h
    | some networks => exact stretch_last now _ h rfl
  | connected result =>
    cases ht <;> cases hr
    exact stretch_connectFinished now result h
  | disconnected =>
    cases ht <;> cases hr
    exact stretch_last now _ h rfl
  | refreshed info =>
    cases ht <;> cases hr
    exact stretch_heartbeatFinished now info h

/-- The published history: numbered without a gap from one on, and told to the callback
commit by commit, each time with the cached text of the status that the tick announces. -/
structure Locked.InOrder (s : Locked) : Prop where
  numbered : s.commits.map Status.seq = List.range' 1 s.commits.length
  newest : s.controller.status.seq = s.commits.length
  pushed : s.controller.ticks = s.commits.map Status.toTickJson
  cached : s.cachedAtPush = s.commits.map Status.toJson

theorem init_inOrder (now : Int) : Locked.InOrder ⟨init now, false, [], []⟩ :=
  ⟨rfl, rfl, rfl, rfl⟩

theorem publish_inOrder {s : Locked} (h : s.InOrder) {status : Status}
    (next : status.seq = s.controller.status.seq + 1) : (s.publish status).InOrder where
  numbered := by
    have hseq : status.seq = 1 + s.commits.length := by rw [next, h.newest, Nat.add_comm]
    simp [h.numbered, List.range'_concat, hseq]
  newest := by simp [next, h.newest]
  pushed := by simp [Controller.commit, h.pushed]
  cached := by simp [h.cached]

/-- Between two awaits the lock is free and every coroutine waits for a command. -/
structure Settled (s : System Locked Code) : Prop where
  free : s.shared.locked = false
  waits : ∀ i t, s.task i = some t → AwaitsCli t
  inOrder : s.shared.InOrder

theorem settled_of_stretched {s : System Locked Code} (h : Settled s) {id : Nat}
    {r : Locked × Option Code} (hr : Stretched s.shared r) :
    Settled ⟨r.1, assign s.task id r.2⟩ := by
  have hwaits : ∀ t : Option Code, (∀ u, t = some u → AwaitsCli u) →
      ∀ i u, assign s.task id t i = some u → AwaitsCli u := by
    intro t ht i u hu
    rcases assign_cases hu with ⟨-, hnew⟩ | ⟨-, hold⟩
    · exact ht u hnew
    · exact h.waits i u hold
  cases hr with
  | same waits => exact ⟨h.free, hwaits _ waits, h.inOrder⟩
  | published status next waits =>
    exact ⟨h.free, hwaits _ waits, publish_inOrder h.inOrder next⟩

theorem step_settled (repr : Rendering) {s s' : System Locked Code}
    {m : Move (Int × Request) (Int × Reply)} (h : Settled s)
    (hstep : step (lockedProgram repr) s m = some s') : Settled s' := by
  obtain ⟨id, r, -, -, rfl⟩ | ⟨id, reply, t, r, -, ht, hr, rfl⟩ := step_cases hstep
  · exact settled_of_stretched h (stretch_request repr r.1 r.2 h.free)
  · exact settled_of_stretched h (wake_stretched (h.waits id t ht) h.free hr)

/-- In every run the statuses are numbered one by one, and each is told once, in order, and
while the cached status is the one that the tick announces. -/
theorem ticks_inOrder (repr : Rendering) (now : Int)
    {path : List (System Locked Code × Move (Int × Request) (Int × Reply))}
    {s : System Locked Code}
    (r : Run (step (lockedProgram repr)) (boot ⟨init now, false, [], []⟩) path s) :
    Always (fun s => s.shared.InOrder) path s := by
  have hboot : Settled (boot (⟨init now, false, [], []⟩ : Locked)) :=
    ⟨rfl, fun i t ht => by simp at ht, init_inOrder now⟩
  have hall : Always Settled path s :=
    r.inductive_invariant (fun _ _ _ hs hstep => step_settled repr hs hstep) hboot
  exact hall.mono (fun _ hs => hs.inOrder)

/-- A scan with a heartbeat in the middle of it. -/
def scanWithHeartbeat : List (Move (Int × Request) (Int × Reply)) :=
  [.call 0 (0, .scan false), .call 1 (1, .heartbeat), .wake 0 (2, .scanned (some []))]

theorem ticks_inOrder_scanWithHeartbeat : ∃ s, s.shared.commits.length = 3 ∧
    Always (fun s => s.shared.InOrder)
      (trace (step (lockedProgram asciiOnly)) (boot ⟨init 0, false, [], []⟩) scanWithHeartbeat) s :=
  ⟨_, rfl, ticks_inOrder asciiOnly 0 (exec_run rfl)⟩

/-- The coroutine that waits at a command of the controller's program. -/
def Point.code : Point → Option Code
  | .scanning => some (.scan Code.scanFinished)
  | .connecting ssid psk => some (.connect ssid psk Code.connectFinished)
  | .disconnecting => some (.disconnect Code.disconnectFinished)
  | .refreshing => some (.getStatus Code.heartbeatFinished)
  | _ => none

/-- Where a coroutine is once a callback that does not suspend has returned. -/
def Point.afterTick : Point → Option Point
  | .scanAnnounced => some .scanning
  | .connectAnnounced ssid psk => some (.connecting ssid psk)
  | .lastTick => none
  | t => some t

/-- The outcome in the controller's program that a reply stands for. -/
def Reply.outcome : Reply → Outcome
  | .granted => .sent
  | .cancelled => .cancelled
  | .scanned networks => networks.elim .raised .scanned
  | .connected result => result.elim .raised .connected
  | .disconnected => .disconnected
  | .refreshed info => info.elim .raised .refreshed

/-- The same controller, and the coroutine at the command that the point leads to. -/
def Agrees (r : Locked × Option Code) (q : Controller × Option Point) : Prop :=
  r.1.controller = q.1 ∧ r.2 = (q.2.bind Point.afterTick).bind Point.code

theorem publish_agrees (now : Int) (status : Int → Controller → Status) {s : Locked}
    (h : s.locked = false) :
    Agrees (stretch now (.publish status .done) s)
      (s.controller.commit (status now s.controller), some .lastTick) := by
  rw [stretch_publish now status .done h]
  exact ⟨rfl, rfl⟩

theorem requestConnect_agrees (repr : Rendering) (now : Int) (ssid psk iface : String)
    {s : Locked} (h : s.locked = false) :
    Agrees (stretch now (.requestConnect repr ssid psk iface) s)
      (requestConnect repr now ssid psk iface s.controller) := by
  unfold Code.requestConnect requestConnect
  by_cases hiface : iface ∉ supportedIfaces
  · simp only [if_pos hiface]
    exact publish_agrees now _ h
  by_cases hmobile : iface = "ppp0"
  · simp only [if_neg hiface, if_pos hmobile]
    exact publish_agrees now _ h
  by_cases hpsk : psk.length < minPskLen
  · simp only [if_neg hiface, if_neg hmobile, if_pos hpsk]
    exact publish_agrees now _ h
  · simp only [if_neg hiface, if_neg hmobile, if_neg hpsk]
    obtain ⟨c, locked, commits, cached⟩ := s
    cases h
    rw [stretch_acquire]
    simp only [stretch]
    split <;> exact ⟨rfl, rfl⟩

theorem request_agrees (repr : Rendering) (now : Int) (r : Request) {s : Locked}
    (h : s.locked = false) :
    Agrees (stretch now (.request repr r) s) (start repr (now, r) s.controller) := by
  cases r with
  | scan force =>
    obtain ⟨c, locked, commits, cached⟩ := s
    cases h
    rw [Code.request, Code.requestScan, stretch_acquire]
    simp only [stretch, start, requestScan]
    split <;> exact ⟨rfl, rfl⟩
  | connect ssid psk iface => exact requestConnect_agrees repr now ssid psk iface h
  | invalid message => exact publish_agrees now _ h
  | disconnect => exact ⟨rfl, rfl⟩
  | heartbeat =>
    obtain ⟨c, locked, commits, cached⟩ := s
    cases h
    rw [Code.request, Code.heartbeatTick, stretch_acquire]
    simp only [stretch, start, heartbeatTick]
    split
    · exact ⟨rfl, rfl⟩
    · exact publish_agrees now _ rfl

theorem connectFinished_agrees (now : Int) (result : ConnectResult) {s : Locked}
    (h : s.locked = false) :
    Agrees (stretch now (.connectFinished (some result)) s)
      (connectFinished now result s.controller, some .lastTick) := by
  unfold connectFinished Code.connectFinished
  dsimp only
  split_ifs
  · exact publish_agrees now _ h
  · exact publish_agrees now _ h
  · exact publish_agrees now _ h

/-- What wakes a coroutine at a command wakes the controller's program at the same point. -/
theorem wake_agrees {p : Point} {t : Code} (ht : p.code = some t) {reply : Int × Reply}
    {s : Locked} (h : s.locked = false) {r : Locked × Option Code}
    (hr : wake t reply s = some r) :
    ∃ q, resume p (reply.1, reply.2.outcome) s.controller = some q ∧ Agrees r q := by
  obtain ⟨now, reply⟩ := reply
  cases reply with
  | cancelled =>
    have hr : (s, none) = r := by cases p <;> cases ht <;> simpa [wake] using hr
    exact ⟨(s.controller, none), by cases p <;> rfl, by rw [← hr]; exact ⟨rfl, rfl⟩⟩
  | granted => cases p <;> cases ht <;> simp [wake] at hr
  | scanned networks =>
    cases p <;> cases ht <;> cases hr
    cases networks with
    | none => exact ⟨_, rfl, publish_agrees now _ h⟩
    | some networks => exact ⟨_, rfl, publish_agrees now _ h⟩
  | connected result =>
    cases p <;> cases ht <;> cases hr
    cases result with
    | none => exact ⟨_, rfl, publish_agrees now _ h⟩
    | some result => exact ⟨_, rfl, connectFinished_agrees now result h⟩
  | disconnected =>
    cases p <;> cases ht <;> cases hr
    exact ⟨_, rfl, publish_agrees now _ h⟩
  | refreshed info =>
    cases p <;> cases ht <;> cases hr
    cases info with
    | none => exact ⟨_, rfl, publish_agrees now _ h⟩
    | some info => exact ⟨_, rfl, publish_agrees now _ h⟩

/-- A state of the finer program beside one of the controller's program. -/
structure Beside (s : System Locked Code) (q : System Controller Point) : Prop where
  controller : s.shared.controller = q.shared
  tasks : ∀ i, s.task i = (q.task i).bind Point.code
  atCommand : ∀ i p, q.task i = some p → ∃ t, p.code = some t

/-- The point that is left once the callback has returned. -/
theorem afterTick_run (repr : Rendering) (q : System Controller Point) (id : Nat)
    (c : Controller) (t : Option Point) :
    ∃ path, Run (step (program repr)) ⟨c, assign q.task id t⟩ path
      ⟨c, assign q.task id (t.bind Point.afterTick)⟩ := by
  have hassign : ∀ u : Option Point,
      assign (assign q.task id t) id u = assign q.task id u := by
    intro u
    funext i
    by_cases hi : i = id <;> simp [assign, hi]
  have hsent : ∀ p u, t = some p → resume p (0, .sent) c = some (c, u) →
      step (program repr) ⟨c, assign q.task id t⟩ (.wake id (0, .sent)) =
        some ⟨c, assign q.task id u⟩ := by
    intro p u hp hu
    subst hp
    simp [step, program, hu, hassign]
  cases t with
  | none => exact ⟨_, .nil _⟩
  | some p =>
    cases p with
    | scanAnnounced => exact ⟨_, .cons (hsent _ _ rfl rfl) (.nil _)⟩
    | connectAnnounced ssid psk => exact ⟨_, .cons (hsent _ _ rfl rfl) (.nil _)⟩
    | lastTick => exact ⟨_, .cons (hsent _ _ rfl rfl) (.nil _)⟩
    | _ => exact ⟨_, .nil _⟩

theorem Agrees.beside {s : System Locked Code} {q : System Controller Point} (h : Beside s q)
    (id : Nat) {r : Locked × Option Code} {t : Controller × Option Point} (hr : Agrees r t)
    (hcommand : ∀ p, t.2.bind Point.afterTick = some p → ∃ u, p.code = some u) :
    Beside ⟨r.1, assign s.task id r.2⟩
      ⟨t.1, assign q.task id (t.2.bind Point.afterTick)⟩ := by
  refine ⟨hr.1, fun i => ?_, fun i p hp => ?_⟩
  · by_cases hi : i = id
    · simp [assign, hi, hr.2]
    · simp [assign, hi, h.tasks i]
  · rcases assign_cases hp with ⟨-, hnew⟩ | ⟨-, hold⟩
    · exact hcommand p hnew
    · exact h.atCommand i p hold

/-- After the callback has returned, a coroutine is at a command or has ended. -/
theorem afterTick_code {t : Option Point} {p : Point} (h : t.bind Point.afterTick = some p) :
    ∃ u, p.code = some u := by
  cases t with
  | none => cases h
  | some t => cases t <;> cases h <;> exact ⟨_, rfl⟩

theorem Beside.step_simulated (repr : Rendering) {s s' : System Locked Code}
    {q : System Controller Point} {m : Move (Int × Request) (Int × Reply)} (h : Beside s q)
    (hs : Settled s) (hstep : step (lockedProgram repr) s m = some s') :
    ∃ path q', Run (step (program repr)) q path q' ∧ Beside s' q' := by
  obtain ⟨id, r, -, hid, rfl⟩ | ⟨id, reply, t, r, -, ht, hr, rfl⟩ := step_cases hstep
  · have hfree : q.task id = none := by
      cases hq : q.task id with
      | none => rfl
      | some p =>
        obtain ⟨u, hu⟩ := h.atCommand id p hq
        simp [h.tasks id, hq, hu] at hid
    have hagrees := request_agrees repr r.1 r.2 hs.free
    rw [h.controller] at hagrees
    obtain ⟨path, hpath⟩ := afterTick_run repr q id (start repr r q.shared).1
      (start repr r q.shared).2
    have hfirst : step (program repr) q (.call id r) =
        some ⟨(start repr r q.shared).1, assign q.task id (start repr r q.shared).2⟩ := by
      simp [step, program, hfree]
    exact ⟨_, _, .cons hfirst hpath, hagrees.beside h id (fun p hp => afterTick_code hp)⟩
  · obtain ⟨p, hp, hcode⟩ := Option.bind_eq_some_iff.mp ((h.tasks id).symm.trans ht)
    obtain ⟨t', ht', hagrees⟩ := wake_agrees hcode hs.free hr
    rw [h.controller] at ht'
    obtain ⟨path, hpath⟩ := afterTick_run repr q id t'.1 t'.2
    have hfirst : step (program repr) q (.wake id (reply.1, reply.2.outcome)) =
        some ⟨t'.1, assign q.task id t'.2⟩ := by
      simp [step, program, hp, ht']
    exact ⟨_, _, .cons hfirst hpath, hagrees.beside h id (fun p hp => afterTick_code hp)⟩

/-- Every run with the server's callback is one of the controller's program, so what holds in
every state that the program reaches holds of the controller here. -/
theorem lockedProgram_refines (repr : Rendering) (now : Int)
    {path : List (System Locked Code × Move (Int × Request) (Int × Reply))}
    {s : System Locked Code}
    (r : Run (step (lockedProgram repr)) (boot ⟨init now, false, [], []⟩) path s) :
    ∃ path' q, Run (step (program repr)) (boot (init now)) path' q ∧
      s.shared.controller = q.shared := by
  have hboot : Settled (boot (⟨init now, false, [], []⟩ : Locked)) :=
    ⟨rfl, fun i t ht => by simp at ht, init_inOrder now⟩
  have hbeside : Beside (boot (⟨init now, false, [], []⟩ : Locked)) (boot (init now)) :=
    ⟨rfl, fun i => rfl, fun i p hp => by simp at hp⟩
  obtain ⟨path', q, hrun, hmatch, -⟩ := r.simulated
    (M := fun s q => Beside s q ∧ Settled s)
    (fun s m s' q hm hstep => by
      obtain ⟨path', q', hrun, hbeside'⟩ := hm.1.step_simulated repr hm.2 hstep
      exact ⟨path', q', hrun, hbeside', step_settled repr hm.2 hstep⟩)
    ⟨hbeside, hboot⟩
  exact ⟨path', q, hrun, hmatch.controller⟩

end NexyGateway.WifiController
