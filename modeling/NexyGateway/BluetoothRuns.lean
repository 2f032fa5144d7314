import NexyGateway.BluetoothServer
import NexyGateway.StatusReadings

/-!
# Runs of the Bluetooth server

The tasks that the server keeps are those that it has dispatched and that have not ended. A
READ gives the newest status, a busy phase has a task that works for it, and when `stop` has
returned nothing is left that could change the status.
-/
namespace NexyGateway.BluetoothServer

open Coroutines PyJson Runs WifiController
open PyRepr (Rendering asciiOnly)

/-! ### What one event does -/

section Steps

variable {repr : Rendering} {s s' : Server} {e : Event}

/-- A task runs: for the first time, on from a command, or into its cancellation. -/
inductive Ran (repr : Rendering) (cancelled : Bool) (now : Int) (s : Locked) :
    Option Reply → Work → Locked × Work → Prop
  | first (request : Request) (live : cancelled = false) :
      Ran repr cancelled now s none (.created request)
        ((stretch now (Code.request repr request) s).1,
          .ofCode (stretch now (Code.request repr request) s).2)
  | never (request : Request) (h : cancelled = true) :
      Ran repr cancelled now s (some .cancelled) (.created request) (s, .finished)
  | cut (code : Code) (h : cancelled = true) :
      Ran repr cancelled now s (some .cancelled) (.suspended code) (s, .finished)
  | woken (code : Code) (reply : Reply) (r : Locked × Option Code)
      (hreply : reply ≠ .cancelled) (h : wake code (now, reply) s = some r) :
      Ran repr cancelled now s (some reply) (.suspended code) (r.1, .ofCode r.2)

theorem runTask_cases {cancelled : Bool} {now : Int} {reply : Option Reply} {l : Locked}
    {work : Work} {r : Locked × Work} (h : runTask repr cancelled now reply l work = some r) :
    Ran repr cancelled now l reply work r := by
  cases work with
  | created request =>
    cases reply with
    | none =>
      simp only [runTask] at h
      split at h
      · cases h
      · rename_i hlive
        cases h
        exact .first request (by simpa using hlive)
    | some reply =>
      cases reply with
      | cancelled =>
        simp only [runTask] at h
        split at h
        · rename_i hcancelled
          cases h
          exact .never request hcancelled
        · cases h
      | _ => cases h
  | suspended code =>
    cases reply with
    | none => cases h
    | some reply =>
      by_cases hreply : reply = .cancelled
      · subst hreply
        simp only [runTask] at h
        split at h
        · rename_i hcancelled
          cases h
          exact .cut code hcancelled
        · cases h
      · have hwake : (wake code (now, reply) l).map (fun r => (r.1, Work.ofCode r.2)) = some r := by
          cases reply with
          | cancelled => exact absurd rfl hreply
          | _ => exact h
        obtain ⟨q, hq, rfl⟩ := Option.map_eq_some_iff.mp hwake
        exact .woken code reply q hreply hq
  | finished => cases h

/-- The heartbeat runs in the same ways. -/
inductive Beaten (cancelled : Bool) (now : Int) (s : Locked) :
    Option Reply → Heartbeat → Locked × Heartbeat → Prop
  | first : Beaten cancelled now s none .sleeping
        ((stretch now Code.heartbeatTick s).1, .ofCode (stretch now Code.heartbeatTick s).2)
  | never (h : cancelled = true) :
      Beaten cancelled now s (some .cancelled) .sleeping (s, .ended)
  | cut (code : Code) (h : cancelled = true) :
      Beaten cancelled now s (some .cancelled) (.beating code) (s, .ended)
  | woken (code : Code) (reply : Reply) (r : Locked × Option Code)
      (hreply : reply ≠ .cancelled) (h : wake code (now, reply) s = some r) :
      Beaten cancelled now s (some reply) (.beating code) (r.1, .ofCode r.2)

theorem runHeartbeat_cases {cancelled : Bool} {now : Int} {reply : Option Reply} {l : Locked}
    {heartbeat : Heartbeat} {r : Locked × Heartbeat}
    (h : runHeartbeat cancelled now reply l heartbeat = some r) :
    Beaten cancelled now l reply heartbeat r := by
  cases heartbeat with
  | absent => cases h
  | ended => cases h
  | sleeping =>
    cases reply with
    | none =>
      cases h
      exact .first
    | some reply =>
      cases reply with
      | cancelled =>
        simp only [runHeartbeat] at h
        split at h
        · rename_i hcancelled
          cases h
          exact .never hcancelled
        · cases h
      | _ => cases h
  | beating code =>
    cases reply with
    | none => cases h
    | some reply =>
      by_cases hreply : reply = .cancelled
      · subst hreply
        simp only [runHeartbeat] at h
        split at h
        · rename_i hcancelled
          cases h
          exact .cut code hcancelled
        · cases h
      · have hwake : (wake code (now, reply) l).map (fun r => (r.1, Heartbeat.ofCode r.2)) =
            some r := by
          cases reply with
          | cancelled => exact absurd rfl hreply
          | _ => exact h
        obtain ⟨q, hq, rfl⟩ := Option.map_eq_some_iff.mp hwake
        exact .woken code reply q hreply hq

/-- What one event does to the server. -/
inductive Stepped (repr : Rendering) (s : Server) :
    Event → Server → Prop
  | built (live : s.stopping = false) : Stepped repr s .built { s with hasServer := true }
  | started (live : s.stopping = false) (h : s.heartbeat = .absent) :
      Stepped repr s .started { s with heartbeat := .sleeping }
  | dropped (w : Write) (onLoop : Bool) : Stepped repr s (.write w onLoop) s
  | dispatched (w : Write) (live : s.stopping = false) :
      Stepped repr s (.write w true)
        { s with
          work := assign s.work s.next (some (.created w.request))
          tasks := s.tasks ++ [s.next]
          next := s.next + 1 }
  | ran (id : Nat) (now : Int) (reply : Option Reply) (work : Work) (r : Locked × Work)
      (hwork : s.work id = some work)
      (h : runTask repr (s.cancelled.contains id) now reply s.controller work = some r) :
      Stepped repr s (.run id now reply)
        { s with controller := r.1, work := assign s.work id (some r.2) }
  | discarded (id : Nat) (h : s.work id = some .finished) :
      Stepped repr s (.dispatchDone id)
        { s with work := assign s.work id none, tasks := s.tasks.filter (fun i => i ≠ id) }
  | beaten (now : Int) (reply : Option Reply) (r : Locked × Heartbeat)
      (h : runHeartbeat s.heartbeatCancelled now reply s.controller s.heartbeat = some r) :
      Stepped repr s (.beat now reply) { s with controller := r.1, heartbeat := r.2 }
  | stopped (h : s.stop = .notCalled) : Stepped repr s .stop s.beginStop
  | gathered (awaited : List Nat) (h : s.stop = .gathering awaited)
      (ended : ∀ id ∈ awaited, isEnded (s.work id) = true) :
      Stepped repr s .gathered s.stopHeartbeat
  | heartbeatEnded (h : s.stop = .endingHeartbeat) (ended : s.heartbeat = .ended) :
      Stepped repr s .heartbeatEnded { s with heartbeat := .absent }.stopServer
  | serverStopped (h : s.stop = .stoppingServer) :
      Stepped repr s .serverStopped { s with stop := .returned }

theorem step_cases (h : step repr s e = some s') : Stepped repr s e s' := by
  cases e with
  | built =>
    simp only [step] at h
    split at h
    · cases h
    · rename_i hlive
      cases h
      exact .built (by simpa using (not_or.mp hlive).2)
  | started =>
    simp only [step] at h
    split at h
    · rename_i habsent
      split at h
      · rename_i hlive
        cases h
        exact .started hlive.2 habsent
      · cases h
    · cases h
  | write w onLoop =>
    cases h
    unfold Server.dispatch
    split
    · exact .dropped w onLoop
    · rename_i hlive
      have honLoop : onLoop = true := by simpa using (not_or.mp hlive).2
      subst honLoop
      exact .dispatched w (by simpa using (not_or.mp hlive).1)
  | run id now reply =>
    obtain ⟨work, hwork, hrun⟩ := Option.bind_eq_some_iff.mp h
    obtain ⟨r, hr, rfl⟩ := Option.map_eq_some_iff.mp hrun
    exact .ran id now reply work r hwork hr
  | dispatchDone id =>
    simp only [step] at h
    split at h
    · rename_i hfinished
      cases h
      exact .discarded id hfinished
    · cases h
  | beat now reply =>
    obtain ⟨r, hr, rfl⟩ := Option.map_eq_some_iff.mp h
    exact .beaten now reply r hr
  | stop =>
    simp only [step] at h
    split at h
    · rename_i hstop
      cases h
      exact .stopped hstop
    · cases h
  | gathered =>
    simp only [step] at h
    split at h
    · rename_i awaited hstop
      split at h
      · rename_i hall
        cases h
        exact .gathered awaited hstop (List.all_eq_true.mp hall)
      · cases h
    · cases h
  | heartbeatEnded =>
    simp only [step] at h
    split at h
    · rename_i hstop hended
      cases h
      exact .heartbeatEnded hstop hended
    · cases h
  | serverStopped =>
    simp only [step] at h
    split at h
    · rename_i hstop
      cases h
      exact .serverStopped hstop
    · cases h

end Steps

/-! ### Tasks and the order of the statuses -/

section Sound

variable {repr : Rendering} {s s' : Server} {e : Event}

/-- The tasks referred to are those that were dispatched and not yet seen to end, and a
suspended one waits for a command. -/
structure Registry (work : Nat → Option Work) (tasks : List Nat) (next : Nat) : Prop where
  waits : ∀ id code, work id = some (.suspended code) → AwaitsCli code
  fresh : ∀ id, next ≤ id → work id = none
  referenced : ∀ id, work id ≠ none ↔ id ∈ tasks

section Registry

variable {work : Nat → Option Work} {tasks : List Nat} {next id : Nat}

theorem Registry.dispatch (h : Registry work tasks next) (request : Request) :
    Registry (assign work next (some (.created request))) (tasks ++ [next]) (next + 1) where
  waits i code hcode := by
    rcases assign_cases hcode with ⟨-, hnew⟩ | ⟨-, hold⟩
    · cases hnew
    · exact h.waits i code hold
  fresh i hi := by
    rw [assign_other _ _ (by omega)]
    exact h.fresh i (by omega)
  referenced i := by
    by_cases hid : i = next
    · subst hid
      simp
    · rw [assign_other _ _ hid, h.referenced i, List.mem_append, List.mem_singleton]
      simp [hid]

theorem Registry.run {old new : Work} (h : Registry work tasks next) (hold : work id = some old)
    (hnew : ∀ code, new = .suspended code → AwaitsCli code) :
    Registry (assign work id (some new)) tasks next where
  waits i code hcode := by
    rcases assign_cases hcode with ⟨-, hsame⟩ | ⟨-, hother⟩
    · exact hnew code (Option.some.inj hsame)
    · exact h.waits i code hother
  fresh i hi := by
    have hne : i ≠ id := by
      rintro rfl
      rw [h.fresh i hi] at hold
      cases hold
    rw [assign_other _ _ hne]
    exact h.fresh i hi
  referenced i := by
    by_cases hid : i = id
    · subst hid
      simpa using (h.referenced i).mp (by simp [hold])
    · rw [assign_other _ _ hid]
      exact h.referenced i

theorem Registry.discard (h : Registry work tasks next) (id : Nat) :
    Registry (assign work id none) (tasks.filter (fun i => i ≠ id)) next where
  waits i code hcode := by
    rcases assign_cases hcode with ⟨-, hnew⟩ | ⟨-, hold⟩
    · cases hnew
    · exact h.waits i code hold
  fresh i hi := by
    by_cases hid : i = id
    · simp [hid]
    · rw [assign_other _ _ hid]
      exact h.fresh i hi
  referenced i := by
    by_cases hid : i = id
    · simp [hid]
    · rw [assign_other _ _ hid, h.referenced i, List.mem_filter]
      simp [hid]

end Registry

/-- The lock is free, and what was published last is the status with its text. -/
structure Published (l : Locked) : Prop where
  free : l.locked = false
  inOrder : l.InOrder
  cached : l.controller.latestStatusJson = l.controller.status.toJson
  last : ∀ status, l.commits.getLast? = some status → status = l.controller.status

/-- A command that came back is the last one of its call. -/
theorem wake_ends {code : Code} {now : Int} {reply : Reply} {l : Locked}
    {r : Locked × Option Code} (hcode : AwaitsCli code) (h : l.locked = false)
    (hr : wake code (now, reply) l = some r) : r.2 = none := by
  have hlast : ∀ status : Int → Controller → Status,
      (stretch now (.publish status .done) l).2 = none := by
    intro status
    rw [stretch_publish now status .done h]
    rfl
  cases reply with
  | cancelled =>
    rw [show r = (l, none) by cases hcode <;> exact (Option.some.inj hr).symm]
  | granted => cases hcode <;> cases hr
  | scanned networks =>
    cases hcode <;> cases hr
    cases networks with
    | none => exact hlast _
    | some networks => exact hlast _
  | connected result =>
    cases hcode <;> cases hr
    cases result with
    | none => exact hlast _
    | some result =>
      unfold Code.connectFinished
      dsimp only
      split_ifs <;> exact hlast _
  | disconnected =>
    cases hcode <;> cases hr
    exact hlast _
  | refreshed info =>
    cases hcode <;> cases hr
    exact hlast _

/-- The tasks are referred to, and the published statuses are in order. -/
structure Sound (s : Server) : Prop where
  published : Published s.controller
  beats : ∀ code, s.heartbeat = .beating code → code = .getStatus Code.heartbeatFinished
  registry : Registry s.work s.tasks s.next

theorem init_sound (now : Int) : Sound (init now) where
  published := ⟨rfl, init_inOrder now, rfl, fun status h => by cases h⟩
  beats code h := by cases h
  registry := ⟨fun id code h => (by cases h), fun id _ => rfl, fun id => by simp [init]⟩

/-- A stretch leaves a free lock and a coroutine that waits for a command. -/
theorem Stretched.sound {l : Locked} {r : Locked × Option Code} (h : Stretched l r)
    (hl : Published l) : Published r.1 ∧ ∀ code, r.2 = some code → AwaitsCli code := by
  cases h with
  | same waits => exact ⟨hl, waits⟩
  | published status next waits =>
    refine ⟨⟨hl.free, publish_inOrder hl.inOrder next, rfl, fun last hlast => ?_⟩, waits⟩
    simpa using hlast.symm

theorem Ran.sound {cancelled : Bool} {now : Int} {l : Locked} {reply : Option Reply} {work : Work}
    {r : Locked × Work} (h : Ran repr cancelled now l reply work r) (hl : Published l)
    (hwaits : ∀ code, work = .suspended code → AwaitsCli code) :
    Published r.1 ∧ ∀ code, r.2 = .suspended code → AwaitsCli code := by
  have hcode : ∀ {t : Option Code} {code : Code}, Work.ofCode t = .suspended code →
      t = some code := by
    intro t code ht
    cases t with
    | none => cases ht
    | some t => cases ht; rfl
  cases h with
  | first request live =>
    obtain ⟨hr, hw⟩ := Stretched.sound (stretch_request repr now request hl.free) hl
    exact ⟨hr, fun code hr => hw code (hcode hr)⟩
  | never request h => exact ⟨hl, fun code hr => by cases hr⟩
  | cut code h => exact ⟨hl, fun code hr => by cases hr⟩
  | woken code reply r hreply h =>
    obtain ⟨hr, hw⟩ := Stretched.sound (wake_stretched (hwaits code rfl) hl.free h) hl
    exact ⟨hr, fun code hr => hw code (hcode hr)⟩

/-- A heartbeat waits only for the connection that it reads. -/
theorem stretch_heartbeatTick_waits {now : Int} {l : Locked} {code : Code} (h : l.locked = false)
    (hcode : (stretch now Code.heartbeatTick l).2 = some code) :
    code = .getStatus Code.heartbeatFinished := by
  obtain ⟨c, locked, commits, cached⟩ := l
  cases h
  rw [Code.heartbeatTick, stretch_acquire] at hcode
  simp only [stretch] at hcode
  split at hcode
  · cases hcode
    rfl
  · cases hcode

theorem Beaten.sound {cancelled : Bool} {now : Int} {l : Locked} {reply : Option Reply}
    {heartbeat : Heartbeat} {r : Locked × Heartbeat}
    (h : Beaten cancelled now l reply heartbeat r) (hl : Published l)
    (hwaits : ∀ code, heartbeat = .beating code → code = .getStatus Code.heartbeatFinished) :
    Published r.1 ∧
      ∀ code, r.2 = .beating code → code = .getStatus Code.heartbeatFinished := by
  have hcode : ∀ {t : Option Code} {code : Code}, Heartbeat.ofCode t = .beating code →
      t = some code := by
    intro t code ht
    cases t with
    | none => cases ht
    | some t => cases ht; rfl
  cases h with
  | first =>
    obtain ⟨hr, -⟩ := Stretched.sound (stretch_heartbeatTick now hl.free) hl
    exact ⟨hr, fun code hr => stretch_heartbeatTick_waits hl.free (hcode hr)⟩
  | never h => exact ⟨hl, fun code hr => by cases hr⟩
  | cut code h => exact ⟨hl, fun code hr => by cases hr⟩
  | woken code reply r hreply h =>
    obtain rfl := hwaits code rfl
    obtain ⟨hr, -⟩ := Stretched.sound (wake_stretched .getStatus hl.free h) hl
    refine ⟨hr, fun code hr => ?_⟩
    rw [wake_ends .getStatus hl.free h] at hr
    cases hr

/-- `stop` only moves on: it leaves the controller and the tasks as they are. -/
theorem stopServer_sound (h : Sound s) : Sound s.stopServer :=
  ⟨h.published, h.beats, h.registry⟩

theorem stopHeartbeat_sound (h : Sound s) : Sound s.stopHeartbeat := by
  unfold Server.stopHeartbeat
  split
  · exact stopServer_sound h
  · exact ⟨h.published, h.beats, h.registry⟩

theorem beginStop_sound (h : Sound s) : Sound s.beginStop := by
  have hbegun : Sound { s with stopping := true, cancelled := s.tasks } :=
    ⟨h.published, h.beats, h.registry⟩
  unfold Server.beginStop
  dsimp only
  split
  · exact stopHeartbeat_sound hbegun
  · exact ⟨h.published, h.beats, h.registry⟩

theorem step_sound (h : Sound s) (hstep : step repr s e = some s') : Sound s' := by
  cases step_cases hstep with
  | built live => exact ⟨h.published, h.beats, h.registry⟩
  | started live habsent =>
    exact ⟨h.published, fun code hb => (by cases hb), h.registry⟩
  | dropped w onLoop => exact h
  | dispatched w live => exact ⟨h.published, h.beats, h.registry.dispatch w.request⟩
  | ran id now reply work r hwork hrun =>
    have hran := runTask_cases hrun
    obtain ⟨hpublished, hwaits⟩ := hran.sound h.published
      (fun code hcode => h.registry.waits id code (hcode ▸ hwork))
    exact ⟨hpublished, h.beats, h.registry.run hwork hwaits⟩
  | discarded id hfinished => exact ⟨h.published, h.beats, h.registry.discard id⟩
  | beaten now reply r hbeat =>
    have hbeaten := runHeartbeat_cases hbeat
    obtain ⟨hpublished, hbeats⟩ := hbeaten.sound h.published h.beats
    exact ⟨hpublished, hbeats, h.registry⟩
  | stopped hstop => exact beginStop_sound h
  | gathered awaited hstop hended => exact stopHeartbeat_sound h
  | heartbeatEnded hstop hended =>
    exact stopServer_sound ⟨h.published, fun code hb => (by cases hb), h.registry⟩
  | serverStopped hstop => exact ⟨h.published, h.beats, h.registry⟩

end Sound

/-! ### What a client reads -/

section Readings

variable {s : Server}

/-- A READ gives the newest status, whose number is that of the ticks pushed so far, and each
tick gives the number of its place. -/
structure ReadsNewest (s : Server) : Prop where
  read : loadsUtf8 s.onReadStatus = some s.controller.controller.status.json
  number : s.controller.controller.status.seq = s.controller.controller.ticks.length
  told : ∀ i tick, s.controller.controller.ticks[i]? = some tick →
    ∃ status : Status, status.seq = i + 1 ∧ loadsUtf8 tick = some status.tickJson
  newest : ∀ tick, s.controller.controller.ticks.getLast? = some tick →
    loadsUtf8 tick = some s.controller.controller.status.tickJson

theorem Sound.readsNewest (h : Sound s) (hstatus : s.controller.controller.status.Writable)
    (hcommits : ∀ status ∈ s.controller.commits, status.Writable) : ReadsNewest s where
  read := by
    rw [Server.onReadStatus, h.published.cached]
    exact Status.loads_toJson hstatus
  number := by
    rw [h.published.inOrder.pushed, List.length_map]
    exact h.published.inOrder.newest
  told i tick htick := by
    rw [h.published.inOrder.pushed, List.getElem?_map, Option.map_eq_some_iff] at htick
    obtain ⟨status, hi, rfl⟩ := htick
    refine ⟨status, ?_, Status.loads_toTickJson (hcommits status (List.mem_of_getElem? hi))⟩
    -- the numbers of the statuses are those of their places
    have hseq : (s.controller.commits.map Status.seq)[i]? = some status.seq := by
      rw [List.getElem?_map, hi]
      rfl
    rw [h.published.inOrder.numbered, List.getElem?_range'] at hseq
    · simpa [Nat.add_comm] using (Option.some.inj hseq).symm
    · exact (List.getElem?_eq_some_iff.mp hi).1
  newest tick htick := by
    rw [h.published.inOrder.pushed, List.getLast?_map, Option.map_eq_some_iff] at htick
    obtain ⟨status, hlast, rfl⟩ := htick
    rw [h.published.last status hlast]
    exact Status.loads_toTickJson hstatus

/-- In every state of every run a READ decodes to the status that the last tick announced, and
its number says how many ticks were pushed. -/
theorem read_newest (repr : Rendering) (now : Int)
    {path : List (Server × Event)} {s : Server} (r : Run (step repr) (init now) path s) :
    Always (fun s => s.controller.controller.status.Writable →
      (∀ status ∈ s.controller.commits, status.Writable) → ReadsNewest s) path s := by
  have hall : Always Sound path s :=
    r.inductive_invariant (fun _ _ _ h hstep => step_sound h hstep) (init_sound now)
  exact hall.mono (fun _ h hstatus hcommits => h.readsNewest hstatus hcommits)

/-- A scan between two heartbeats, and the shutdown after it. -/
def session : List Event :=
  [.built, .started, .write (.scan ByteArray.empty) true, .run 0 1 none, .beat 2 none,
   .run 0 3 (some (.scanned (some []))), .dispatchDone 0, .stop, .beat 4 (some .cancelled),
   .heartbeatEnded, .serverStopped]

/-- Python writes all the integers of this session, so every READ of it gives the newest status. -/
theorem read_newest_session : ∃ s : Server, exec (step asciiOnly) (init 0) session = some s ∧
    s.controller.controller.ticks.length = 3 ∧
      Always ReadsNewest (trace (step asciiOnly) (init 0) session) s := by
  have hrun : (exec (step asciiOnly) (init 0) session).map (fun s =>
        (s.controller.controller.ticks.length, decide (s.controller.controller.status.Writable ∧
          ∀ status ∈ s.controller.commits, status.Writable))) = some (3, true) ∧
      (trace (step asciiOnly) (init 0) session).all (fun p =>
        decide (p.1.controller.controller.status.Writable ∧
          ∀ status ∈ p.1.controller.commits, status.Writable)) = true := by decide +kernel
  obtain ⟨s, hs, hfields⟩ := Option.map_eq_some_iff.mp hrun.1
  obtain ⟨hticks, hlast⟩ := Prod.mk.inj hfields
  have hwritable : Always (fun s => s.controller.controller.status.Writable ∧
      ∀ status ∈ s.controller.commits, status.Writable)
        (trace (step asciiOnly) (init 0) session) s :=
    always_of_check (fun _ => of_decide_eq_true) hrun.2 hlast
  have hread := read_newest asciiOnly 0 (exec_run hs)
  exact ⟨s, hs, hticks, fun p hp => hread.1 p hp (hwritable.1 p hp).1 (hwritable.1 p hp).2,
    hread.2 hwritable.2.1 hwritable.2.2⟩

end Readings

/-! ### Shutdown -/

section Shutdown

variable {repr : Rendering} {s s' : Server} {e : Event}

/-- How far `stop` has come: it waits for every task there is, and for the heartbeat, before
it goes on. -/
structure Staged (s : Server) : Prop where
  called : s.stopping = false ↔ s.stop = .notCalled
  uncancelled : s.stopping = false → s.cancelled = [] ∧ s.heartbeatCancelled = false
  awaited : ∀ ids, s.stop = .gathering ids → ∀ id ∈ s.tasks, id ∈ ids
  gathered : s.stop ≠ .notCalled → (∀ ids, s.stop ≠ .gathering ids) →
    ∀ id, isEnded (s.work id) = true
  heartbeatOver : s.stop = .stoppingServer ∨ s.stop = .returned → s.heartbeat = .absent

theorem init_staged (now : Int) : Staged (init now) where
  called := by simp [init]
  uncancelled _ := ⟨rfl, rfl⟩
  awaited ids h := by cases h
  gathered h := absurd rfl h
  heartbeatOver h := by rcases h with h | h <;> cases h

theorem Staged.stopping (h : Staged s) (hstop : s.stop ≠ .notCalled) : s.stopping = true := by
  by_contra hlive
  exact hstop (h.called.mp (by simpa using hlive))

/-- An ended task does not run again. -/
theorem Ran.not_ended {cancelled : Bool} {now : Int} {l : Locked} {reply : Option Reply}
    {work : Work} {r : Locked × Work} (h : Ran repr cancelled now l reply work r) :
    isEnded (some work) = false := by
  cases h <;> rfl

theorem Beaten.not_absent {cancelled : Bool} {now : Int} {l : Locked} {reply : Option Reply}
    {heartbeat : Heartbeat} {r : Locked × Heartbeat}
    (h : Beaten cancelled now l reply heartbeat r) : heartbeat ≠ .absent := by
  cases h <;> simp

/-- From here on `stop` waits for nothing but the GATT server. -/
theorem stopServer_staged (hstopping : s.stopping = true)
    (hended : ∀ id, isEnded (s.work id) = true) (habsent : s.heartbeat = .absent) :
    Staged s.stopServer := by
  have hstop : s.stopServer.stop = .stoppingServer ∨ s.stopServer.stop = .returned := by
    unfold Server.stopServer
    split <;> simp
  refine ⟨?_, ?_, ?_, fun _ _ => hended, fun _ => habsent⟩
  · have hpast : s.stopServer.stop ≠ .notCalled := by
      rcases hstop with hstop | hstop <;> simp [hstop]
    exact iff_of_false (by simp [Server.stopServer, hstopping]) hpast
  · simp [Server.stopServer, hstopping]
  · intro ids hids
    rcases hstop with hstop | hstop <;> simp [hstop] at hids

theorem stopHeartbeat_staged (hstopping : s.stopping = true)
    (hended : ∀ id, isEnded (s.work id) = true) : Staged s.stopHeartbeat := by
  unfold Server.stopHeartbeat
  split
  · rename_i habsent
    exact stopServer_staged hstopping hended habsent
  · exact ⟨by simp [hstopping], by simp [hstopping], by simp, fun _ _ => hended, by simp⟩

theorem beginStop_staged (h : Sound s) : Staged s.beginStop := by
  unfold Server.beginStop
  dsimp only
  split
  · rename_i hnone
    refine stopHeartbeat_staged rfl (fun id => ?_)
    have hwork : s.work id = none := by
      by_contra hne
      have := (h.registry.referenced id).mp hne
      simp [hnone] at this
    simp [hwork, isEnded]
  · exact ⟨by simp, by simp, by simp, by simp, by simp⟩

theorem step_staged (hsound : Sound s) (h : Staged s) (hstep : step repr s e = some s') :
    Staged s' := by
  cases step_cases hstep with
  | built live => exact ⟨h.called, h.uncancelled, h.awaited, h.gathered, h.heartbeatOver⟩
  | started live habsent =>
    have hstop := h.called.mp live
    refine ⟨h.called, h.uncancelled, h.awaited, h.gathered, fun hover => ?_⟩
    rcases hover with hover | hover <;> simp [hstop] at hover
  | dropped w onLoop => exact h
  | dispatched w live =>
    have hstop := h.called.mp live
    refine ⟨h.called, h.uncancelled, fun ids hids => ?_, fun hcalled => absurd hstop hcalled,
      h.heartbeatOver⟩
    simp [hstop] at hids
  | ran id now reply work r hwork hrun =>
    have hran := runTask_cases hrun
    refine ⟨h.called, h.uncancelled, h.awaited, fun hcalled hpast => ?_, h.heartbeatOver⟩
    have hended := h.gathered hcalled hpast id
    rw [hwork, hran.not_ended] at hended
    cases hended
  | discarded id hfinished =>
    refine ⟨h.called, h.uncancelled, fun ids hids i hi => h.awaited ids hids i
      (List.mem_filter.mp hi).1, fun hcalled hpast i => ?_, h.heartbeatOver⟩
    by_cases hi : i = id
    · subst hi
      simp [isEnded]
    · simpa only [assign_other _ _ hi] using h.gathered hcalled hpast i
  | beaten now reply r hbeat =>
    have hbeaten := runHeartbeat_cases hbeat
    refine ⟨h.called, h.uncancelled, h.awaited, h.gathered, fun hover => ?_⟩
    exact absurd (h.heartbeatOver hover) hbeaten.not_absent
  | stopped hstop => exact beginStop_staged hsound
  | gathered ids hstop hended =>
    refine stopHeartbeat_staged (h.stopping (by simp [hstop])) (fun id => ?_)
    by_cases hid : s.work id = none
    · simp [hid, isEnded]
    · exact hended id (h.awaited ids hstop id ((hsound.registry.referenced id).mp hid))
  | heartbeatEnded hstop hended =>
    exact stopServer_staged (h.stopping (by simp [hstop]))
      (h.gathered (by simp [hstop]) (by simp [hstop])) rfl
  | serverStopped hstop =>
    have hstopping := h.stopping (by simp [hstop])
    exact ⟨by simp [hstopping], h.uncancelled, by simp,
      fun _ _ => h.gathered (by simp [hstop]) (by simp [hstop]),
      fun _ => h.heartbeatOver (.inl hstop)⟩

/-- After the return of `stop` no event changes the controller or calls for a command. -/
theorem step_frozen (h : Staged s) (hreturned : s.stop = .returned)
    (hstep : step repr s e = some s') :
    s'.stop = .returned ∧ s'.controller = s.controller := by
  have hstopping := h.stopping (by simp [hreturned])
  cases step_cases hstep with
  | built live => simp [hstopping] at live
  | started live habsent => simp [hstopping] at live
  | dropped w onLoop => exact ⟨hreturned, rfl⟩
  | dispatched w live => simp [hstopping] at live
  | ran id now reply work r hwork hrun =>
    have hran := runTask_cases hrun
    have hended := h.gathered (by simp [hreturned]) (by simp [hreturned]) id
    rw [hwork, hran.not_ended] at hended
    cases hended
  | discarded id hfinished => exact ⟨hreturned, rfl⟩
  | beaten now reply r hbeat =>
    have hbeaten := runHeartbeat_cases hbeat
    exact absurd (h.heartbeatOver (.inr hreturned)) hbeaten.not_absent
  | stopped hstop => simp [hreturned] at hstop
  | gathered ids hstop hended => simp [hreturned] at hstop
  | heartbeatEnded hstop hended => simp [hreturned] at hstop
  | serverStopped hstop => simp [hreturned] at hstop

/-- Once `stop` has returned, whatever happens then, no dispatched task is left and the status
and its text stay as they are. -/
theorem stopped_frozen (repr : Rendering) (now : Int)
    {front back : List (Server × Event)} {s t : Server}
    (r : Run (step repr) (init now) front s) (hreturned : s.stop = .returned)
    (r' : Run (step repr) s back t) :
    Always (fun u => u.controller = s.controller ∧ ∀ id, isEnded (u.work id) = true) back t := by
  have hinvariant : Sound s ∧ Staged s :=
    (r.inductive_invariant (I := fun s => Sound s ∧ Staged s)
      (fun _ _ _ h hstep => ⟨step_sound h.1 hstep, step_staged h.1 h.2 hstep⟩)
      ⟨init_sound now, init_staged now⟩).last
  have hall : Always (fun u => (Sound u ∧ Staged u) ∧ u.stop = .returned ∧
      u.controller = s.controller) back t := by
    refine r'.inductive_invariant ?_ ⟨hinvariant, hreturned, rfl⟩
    rintro u e u' ⟨⟨hsound, hstaged⟩, hstop, hsame⟩ hstep
    obtain ⟨hstop', hsame'⟩ := step_frozen hstaged hstop hstep
    exact ⟨⟨step_sound hsound hstep, step_staged hsound hstaged hstep⟩, hstop',
      hsame'.trans hsame⟩
  exact hall.mono (fun u hu =>
    ⟨hu.2.2, hu.1.2.gathered (by simp [hu.2.1]) (by simp [hu.2.1])⟩)

/-- A write and the end of the event loop come too late. -/
theorem stopped_frozen_session : ∃ s t : Server,
    Always (fun u => u.controller = s.controller ∧ ∀ id, isEnded (u.work id) = true)
      (trace (step asciiOnly) s [.write (.disconnect ByteArray.empty) true]) t := by
  cases hexec : exec (step asciiOnly) (init 0) session with
  | none => cases hexec
  | some s =>
    have hreturned : s.stop = .returned := by
      cases hexec
      rfl
    exact ⟨s, _, stopped_frozen asciiOnly 0 (exec_run hexec) hreturned (exec_run rfl)⟩

end Shutdown

/-! ### Busy phases -/

section Busy

variable {repr : Rendering} {l : Locked}

/-- The coroutine waits for the command that this phase announces. -/
def WorksFor : Phase → Code → Prop
  | .scanning, .scan _ => True
  | .connecting, .connect _ _ _ => True
  | _, _ => False

def IsBusy (p : Phase) : Prop := p = .scanning ∨ p = .connecting

/-- If a call leaves a busy phase, its own coroutine works for it, or the phase was there. -/
def Minds (l : Locked) (r : Locked × Option Code) : Prop :=
  IsBusy r.1.controller.status.phase →
    (∃ code, r.2 = some code ∧ WorksFor r.1.controller.status.phase code) ∨
      r.1.controller.status.phase = l.controller.status.phase

theorem minds_last (now : Int) (status : Int → Controller → Status) (h : l.locked = false)
    (hidle : ¬ IsBusy (status now l.controller).phase ∨
      (status now l.controller).phase = l.controller.status.phase) :
    Minds l (stretch now (.publish status .done) l) := by
  rw [stretch_publish now status .done h]
  intro hbusy
  exact .inr (hidle.resolve_left (not_not.mpr hbusy))

theorem minds_setError (now : Int) (code : ErrorCode) (message : String) (h : l.locked = false) :
    Minds l (stretch now (.setError code message) l) :=
  minds_last now _ h (.inl (by simp [Controller.errorStatus, IsBusy]))

/-- A heartbeat publishes the phase that it finds. -/
theorem heartbeatTick_phase (now : Int) (h : l.locked = false) :
    (stretch now Code.heartbeatTick l).1.controller.status.phase = l.controller.status.phase := by
  obtain ⟨c, locked, commits, cached⟩ := l
  cases h
  rw [Code.heartbeatTick, stretch_acquire]
  simp only [stretch]
  split
  · rfl
  · rfl

theorem minds_request (now : Int) (request : Request) (h : l.locked = false) :
    Minds l (stretch now (Code.request repr request) l) := by
  cases request with
  | scan force =>
    obtain ⟨c, locked, commits, cached⟩ := l
    cases h
    rw [Code.request, Code.requestScan, stretch_acquire]
    simp only [stretch]
    split
    · exact fun _ => .inr rfl
    · exact fun _ => .inl ⟨_, rfl, trivial⟩
  | connect ssid psk iface =>
    rw [Code.request]
    unfold Code.requestConnect
    split_ifs
    · exact minds_last now _ h (.inl (by simp [Controller.connectedStatus, IsBusy]))
    · exact minds_setError now _ _ h
    · obtain ⟨c, locked, commits, cached⟩ := l
      cases h
      rw [stretch_acquire]
      simp only [stretch]
      split
      · exact fun _ => .inr rfl
      · exact fun _ => .inl ⟨_, rfl, trivial⟩
    · exact minds_setError now _ _ h
  | invalid message => exact minds_setError now _ _ h
  | disconnect => exact fun _ => .inr rfl
  | heartbeat => exact fun _ => .inr (heartbeatTick_phase now h)

/-- A command that comes back leaves no busy phase of its own. -/
theorem wake_minds {code : Code} {now : Int} {reply : Reply} {r : Locked × Option Code}
    (hcode : AwaitsCli code) (h : l.locked = false) (hreply : reply ≠ .cancelled)
    (hr : wake code (now, reply) l = some r) (hbusy : IsBusy r.1.controller.status.phase) :
    r.1.controller.status.phase = l.controller.status.phase ∧
      ¬ WorksFor r.1.controller.status.phase code := by
  have hlast : ∀ status : Int → Controller → Status,
      ¬ IsBusy (status now l.controller).phase →
      stretch now (.publish status .done) l = r → False := by
    intro status hidle hstretch
    rw [stretch_publish now status .done h] at hstretch
    rw [← hstretch] at hbusy
    exact hidle hbusy
  have herror : ∀ (e : ErrorCode) (message : String),
      stretch now (.setError e message) l = r → False :=
    fun e message => hlast _ (by simp [Controller.errorStatus, IsBusy])
  cases hcode with
  | scan =>
    cases reply with
    | scanned networks =>
      have hstretch := Option.some.inj hr
      cases networks with
      | none => exact absurd hstretch (herror _ _)
      | some networks =>
        exact absurd hstretch (hlast _ (by simp [Controller.withPhase, IsBusy]))
    | cancelled => exact absurd rfl hreply
    | _ => cases hr
  | connect ssid psk =>
    cases reply with
    | connected result =>
      have hstretch := Option.some.inj hr
      cases result with
      | none => exact absurd hstretch (herror _ _)
      | some result =>
        simp only [Code.connectFinished] at hstretch
        split_ifs at hstretch
        · exact absurd hstretch (hlast _ (by simp [Controller.connectedStatus, IsBusy]))
        · exact absurd hstretch (herror _ _)
        · exact absurd hstretch (herror _ _)
    | cancelled => exact absurd rfl hreply
    | _ => cases hr
  | disconnect =>
    cases reply with
    | disconnected =>
      exact absurd (Option.some.inj hr) (hlast _ (by simp [Controller.withPhase, IsBusy]))
    | cancelled => exact absurd rfl hreply
    | _ => cases hr
  | getStatus =>
    refine ⟨?_, by unfold WorksFor; split <;> simp_all⟩
    cases reply with
    | refreshed info =>
      have hstretch := Option.some.inj hr
      rw [Code.heartbeatFinished, stretch_publish now _ .done h] at hstretch
      rw [← hstretch]
      rfl
    | cancelled => exact absurd rfl hreply
    | _ => cases hr

/-- A busy phase has a task that works for it and is referred to. -/
def HasWorker (s : Server) : Prop :=
  IsBusy s.controller.controller.status.phase → ∃ id ∈ s.tasks, ∃ code,
    s.work id = some (.suspended code) ∧ WorksFor s.controller.controller.status.phase code

variable {s s' : Server} {e : Event}

/-- The worker of a phase is another task than the one that ran. -/
theorem HasWorker.frame (h : HasWorker s) {id : Nat} {old new : Work}
    (hold : s.work id = some old) {l : Locked}
    (hphase : l.controller.status.phase = s.controller.controller.status.phase)
    (hother : ∀ code, old = .suspended code → ¬ WorksFor l.controller.status.phase code)
    (hbusy : IsBusy l.controller.status.phase) :
    ∃ i ∈ s.tasks, ∃ code, assign s.work id (some new) i = some (.suspended code) ∧
      WorksFor l.controller.status.phase code := by
  obtain ⟨i, hi, code, hcode, hworks⟩ := h (hphase ▸ hbusy)
  rw [← hphase] at hworks
  have hne : i ≠ id := by
    rintro rfl
    exact hother code (Option.some.inj (hold.symm.trans hcode)) hworks
  exact ⟨i, hi, code, by rw [assign_other _ _ hne, hcode], hworks⟩

/-- A heartbeat that was not cancelled leaves a busy phase only where it found it. -/
theorem Beaten.phase {now : Int} {reply : Option Reply} {heartbeat : Heartbeat}
    {r : Locked × Heartbeat} (h : Beaten false now l reply heartbeat r) (hfree : l.locked = false)
    (hwaits : ∀ code, heartbeat = .beating code → code = .getStatus Code.heartbeatFinished)
    (hbusy : IsBusy r.1.controller.status.phase) :
    r.1.controller.status.phase = l.controller.status.phase := by
  cases h with
  | first => exact heartbeatTick_phase now hfree
  | never hc => cases hc
  | cut code hc => cases hc
  | woken code reply q hreply hwake =>
    obtain rfl := hwaits code rfl
    exact (wake_minds .getStatus hfree hreply hwake hbusy).1

/-- A task that was not cancelled works for the busy phase that it leaves, or another one does. -/
theorem Ran.hasWorker (hsound : Sound s) (h : HasWorker s) {id : Nat} {now : Int}
    {reply : Option Reply} {work : Work} {r : Locked × Work} (hwork : s.work id = some work)
    (hran : Ran repr false now s.controller reply work r)
    (hbusy : IsBusy r.1.controller.status.phase) :
    ∃ i ∈ s.tasks, ∃ code, assign s.work id (some r.2) i = some (.suspended code) ∧
      WorksFor r.1.controller.status.phase code := by
  cases hran with
  | first request live =>
    rcases minds_request now request hsound.published.free hbusy with ⟨code, hcode, hworks⟩ | hphase
    · refine ⟨id, (hsound.registry.referenced id).mp (by simp [hwork]), code, ?_, hworks⟩
      rw [assign_same, hcode]
      rfl
    · exact h.frame hwork hphase (fun code hcode => by cases hcode) hbusy
  | never request hc => cases hc
  | cut code hc => cases hc
  | woken code reply r hreply hwake =>
    obtain ⟨hphase, hother⟩ :=
      wake_minds (hsound.registry.waits id code hwork) hsound.published.free hreply hwake hbusy
    refine h.frame hwork hphase (fun code' hcode => ?_) hbusy
    cases hcode
    exact hother

theorem beginStop_stopping (s : Server) : s.beginStop.stopping = true := by
  unfold Server.beginStop Server.stopHeartbeat Server.stopServer
  dsimp only
  split
  · split <;> rfl
  · rfl

theorem stopHeartbeat_stopping (s : Server) : s.stopHeartbeat.stopping = s.stopping := by
  unfold Server.stopHeartbeat Server.stopServer
  split <;> rfl

theorem step_hasWorker (hsound : Sound s) (hstaged : Staged s)
    (h : s.stopping = false → HasWorker s) (hstep : step repr s e = some s')
    (hlive' : s'.stopping = false) : HasWorker s' := by
  have hpast : s.stop ≠ .notCalled → s.stopping ≠ false := by
    intro hcalled hlive
    exact hcalled (hstaged.called.mp hlive)
  cases step_cases hstep with
  | built live => exact h live
  | started live habsent => exact h live
  | dropped w onLoop => exact h hlive'
  | dispatched w live =>
    intro hbusy
    obtain ⟨i, hi, code, hcode, hworks⟩ := h live hbusy
    have hne : i ≠ s.next := by
      rintro rfl
      simp [hsound.registry.fresh s.next (Nat.le_refl _)] at hcode
    exact ⟨i, List.mem_append_left _ hi, code, (assign_other _ _ hne).trans hcode, hworks⟩
  | ran id now reply work r hwork hrun =>
    have hran := runTask_cases hrun
    have hcancelled : s.cancelled.contains id = false := by
      rw [(hstaged.uncancelled hlive').1]
      rfl
    rw [hcancelled] at hran
    exact fun hbusy => hran.hasWorker hsound (h hlive') hwork hbusy
  | discarded id hfinished =>
    intro hbusy
    obtain ⟨i, hi, code, hcode, hworks⟩ := h hlive' hbusy
    have hne : i ≠ id := by
      rintro rfl
      simp [hfinished] at hcode
    exact ⟨i, List.mem_filter.mpr ⟨hi, by simpa using hne⟩, code,
      (assign_other _ _ hne).trans hcode, hworks⟩
  | beaten now reply r hbeat =>
    have hbeaten := runHeartbeat_cases hbeat
    rw [(hstaged.uncancelled hlive').2] at hbeaten
    intro hbusy
    have hsame := hbeaten.phase hsound.published.free hsound.beats hbusy
    obtain ⟨i, hi, code, hcode, hworks⟩ := h hlive' (hsame ▸ hbusy)
    exact ⟨i, hi, code, hcode, hsame ▸ hworks⟩
  | stopped hcalled => simp [beginStop_stopping] at hlive'
  | gathered ids hgather hended =>
    exact absurd ((stopHeartbeat_stopping s).symm.trans hlive') (hpast (by simp [hgather]))
  | heartbeatEnded hending hended => exact absurd hlive' (hpast (by simp [hending]))
  | serverStopped hserver => exact absurd hlive' (hpast (by simp [hserver]))

/-- Until `stop` is called, whenever the status says that a scan or a connect is under way, one
of the tasks that the server refers to is waiting for that command. -/
theorem busy_hasWorker (repr : Rendering) (now : Int)
    {path : List (Server × Event)} {s : Server} (r : Run (step repr) (init now) path s) :
    Always (fun s => s.stopping = false → HasWorker s) path s := by
  have hall : Always (fun s => Sound s ∧ Staged s ∧ (s.stopping = false → HasWorker s)) path s := by
    refine r.inductive_invariant ?_ ⟨init_sound now, init_staged now, fun _ hbusy => ?_⟩
    · rintro s e s' ⟨hsound, hstaged, hworker⟩ hstep
      exact ⟨step_sound hsound hstep, step_staged hsound hstaged hstep,
        fun hlive => step_hasWorker hsound hstaged hworker hstep hlive⟩
    · rcases hbusy with hbusy | hbusy <;> cases hbusy
  exact hall.mono (fun _ h => h.2.2)

theorem busy_hasWorker_session : ∃ s : Server,
    Always (fun s => s.stopping = false → HasWorker s)
      (trace (step asciiOnly) (init 0) session) s := by
  cases hexec : exec (step asciiOnly) (init 0) session with
  | none => cases hexec
  | some s => exact ⟨s, busy_hasWorker asciiOnly 0 (exec_run hexec)⟩

end Busy

end NexyGateway.BluetoothServer
