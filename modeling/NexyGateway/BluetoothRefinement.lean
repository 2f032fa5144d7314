import NexyGateway.BluetoothRuns

/-!
# The server as a run of the controller

The server adds tasks that wait for their first run, a registry and a shutdown to the
coroutines of the controller. Its runs are still runs of the controller.
-/
namespace NexyGateway.BluetoothServer

open Coroutines PyJson Runs WifiController
open PyRepr (Rendering asciiOnly)

variable {repr : Rendering} {s s' : Server} {e : Event} {q : System Locked Code}

def Work.code : Work → Option Code
  | .suspended code => some code
  | _ => none

def Heartbeat.code : Heartbeat → Option Code
  | .beating code => some code
  | _ => none

@[simp] theorem ofCode_code (t : Option Code) : (Work.ofCode t).code = t := by cases t <;> rfl

@[simp] theorem heartbeat_ofCode_code (t : Option Code) : (Heartbeat.ofCode t).code = t := by
  cases t <;> rfl

/-- The heartbeat is the first task of the controller's system, and the dispatched ones follow. -/
structure Beside (s : Server) (q : System Locked Code) : Prop where
  shared : q.shared = s.controller
  heartbeat : q.task 0 = s.heartbeat.code
  tasks : ∀ id, q.task (id + 1) = (s.work id).bind Work.code

/-- Nothing but the controller, the tasks and the heartbeat is seen of the server. -/
theorem Beside.same {t : Server} (h : Beside s q) (hcontroller : t.controller = s.controller)
    (hwork : ∀ id, (t.work id).bind Work.code = (s.work id).bind Work.code)
    (hheartbeat : t.heartbeat.code = s.heartbeat.code) : Beside t q :=
  ⟨h.shared.trans hcontroller.symm, h.heartbeat.trans hheartbeat.symm,
    fun id => (h.tasks id).trans (hwork id).symm⟩

/-- A coroutine runs beside a task of the controller's system. -/
theorem Beside.task (h : Beside s q) (id : Nat) (r : Locked × Work) :
    Beside { s with controller := r.1, work := assign s.work id (some r.2) }
      ⟨r.1, assign q.task (id + 1) r.2.code⟩ where
  shared := rfl
  heartbeat := (assign_other q.task r.2.code (Nat.succ_ne_zero id).symm).trans h.heartbeat
  tasks i := by
    by_cases hi : i = id
    · subst hi
      simp
    · have hi' : i + 1 ≠ id + 1 := by omega
      simpa [assign_other, hi, hi'] using h.tasks i

theorem Beside.beat (h : Beside s q) (r : Locked × Heartbeat) :
    Beside { s with controller := r.1, heartbeat := r.2 } ⟨r.1, assign q.task 0 r.2.code⟩ where
  shared := rfl
  heartbeat := assign_same q.task 0 r.2.code
  tasks i := (assign_other q.task r.2.code (Nat.succ_ne_zero i)).trans (h.tasks i)

theorem call_step (repr : Rendering) {id : Nat} (now : Int) (request : Request)
    (hid : q.task id = none) :
    Coroutines.step (lockedProgram repr) q (.call id (now, request)) =
      some ⟨(stretch now (Code.request repr request) q.shared).1,
        assign q.task id (stretch now (Code.request repr request) q.shared).2⟩ := by
  simp [Coroutines.step, hid, lockedProgram]

theorem wake_step (repr : Rendering) {id : Nat} {code : Code} {now : Int} {reply : Reply}
    {r : Locked × Option Code}
    (hid : q.task id = some code) (hr : wake code (now, reply) q.shared = some r) :
    Coroutines.step (lockedProgram repr) q (.wake id (now, reply)) =
      some ⟨r.1, assign q.task id r.2⟩ := by
  simp [Coroutines.step, hid, lockedProgram, hr]

theorem wake_cancelled (code : Code) (l : Locked) :
    wake code (0, .cancelled) l = some (l, none) := by
  cases code <;> rfl

theorem stopHeartbeat_frame (s : Server) : s.stopHeartbeat.controller = s.controller ∧
    s.stopHeartbeat.work = s.work ∧ s.stopHeartbeat.heartbeat = s.heartbeat := by
  unfold Server.stopHeartbeat Server.stopServer
  split <;> exact ⟨rfl, rfl, rfl⟩

theorem beginStop_frame (s : Server) : s.beginStop.controller = s.controller ∧
    s.beginStop.work = s.work ∧ s.beginStop.heartbeat = s.heartbeat := by
  unfold Server.beginStop
  dsimp only
  split
  · exact stopHeartbeat_frame _
  · exact ⟨rfl, rfl, rfl⟩

theorem run_of_step {m : Move (Int × Request) (Int × Reply)} {q' : System Locked Code}
    (h : Coroutines.step (lockedProgram repr) q m = some q') :
    Run (Coroutines.step (lockedProgram repr)) q [(q, m)] q' := .cons h (.nil _)

/-- The server beside a run of the controller's system from here. -/
def Follows (repr : Rendering) (q : System Locked Code) (t : Server) : Prop :=
  ∃ path q', Run (Coroutines.step (lockedProgram repr)) q path q' ∧ Beside t q'

theorem Ran.follows (h : Beside s q) {cancelled : Bool} {id : Nat} {now : Int}
    {reply : Option Reply} {work : Work} {r : Locked × Work} (hwork : s.work id = some work)
    (hran : Ran repr cancelled now s.controller reply work r) :
    Follows repr q { s with controller := r.1, work := assign s.work id (some r.2) } := by
  have htask := h.tasks id
  rw [hwork] at htask
  cases hran with
  | first request live =>
    have hcall := run_of_step (call_step repr now request htask)
    rw [h.shared] at hcall
    refine ⟨_, _, hcall, ?_⟩
    simpa using h.task id ((stretch now (Code.request repr request) s.controller).1,
      Work.ofCode (stretch now (Code.request repr request) s.controller).2)
  | never request hcancelled =>
    refine ⟨[], q, .nil q, h.same rfl (fun i => ?_) rfl⟩
    by_cases hi : i = id
    · subst hi
      simp [hwork, Work.code]
    · simp [assign_other _ _ hi]
  | cut code hcancelled =>
    have hwake := run_of_step (wake_step repr htask (wake_cancelled code q.shared))
    rw [h.shared] at hwake
    exact ⟨_, _, hwake, h.task id (s.controller, .finished)⟩
  | woken code reply r hreply hwake =>
    rw [← h.shared] at hwake
    refine ⟨_, _, run_of_step (wake_step repr htask hwake), ?_⟩
    simpa using h.task id (r.1, Work.ofCode r.2)

theorem Beaten.follows (h : Beside s q) {cancelled : Bool} {now : Int} {reply : Option Reply}
    {r : Locked × Heartbeat} (hbeaten : Beaten cancelled now s.controller reply s.heartbeat r) :
    Follows repr q { s with controller := r.1, heartbeat := r.2 } := by
  have hheart := h.heartbeat
  generalize hbeat : s.heartbeat = heartbeat at hbeaten hheart
  cases hbeaten with
  | first =>
    have hcall := run_of_step (call_step repr now .heartbeat hheart)
    rw [h.shared] at hcall
    refine ⟨_, _, hcall, ?_⟩
    simpa [Code.request] using h.beat ((stretch now Code.heartbeatTick s.controller).1,
      Heartbeat.ofCode (stretch now Code.heartbeatTick s.controller).2)
  | never hcancelled =>
    refine ⟨[], q, .nil q, h.same rfl (fun _ => rfl) ?_⟩
    rw [hbeat]
    rfl
  | cut code hcancelled =>
    have hwake := run_of_step (wake_step repr hheart (wake_cancelled code q.shared))
    rw [h.shared] at hwake
    exact ⟨_, _, hwake, h.beat (s.controller, .ended)⟩
  | woken code reply r hreply hwake =>
    rw [← h.shared] at hwake
    refine ⟨_, _, run_of_step (wake_step repr hheart hwake), ?_⟩
    simpa using h.beat (r.1, Heartbeat.ofCode r.2)

/-- An event of the server is a step of the controller's system, or none. -/
theorem step_follows (h : Beside s q) (hsound : Sound s)
    (hstep : step repr s e = some s') : Follows repr q s' := by
  have stay : ∀ {t : Server}, t.controller = s.controller →
      (∀ id, (t.work id).bind Work.code = (s.work id).bind Work.code) →
      t.heartbeat.code = s.heartbeat.code → Follows repr q t :=
    fun hcontroller hwork hheartbeat => ⟨[], q, .nil q, h.same hcontroller hwork hheartbeat⟩
  cases step_cases hstep with
  | built live => exact stay rfl (fun _ => rfl) rfl
  | started live habsent => exact stay rfl (fun _ => rfl) (by rw [habsent]; rfl)
  | dropped w onLoop => exact stay rfl (fun _ => rfl) rfl
  | dispatched w live =>
    refine stay rfl (fun id => ?_) rfl
    by_cases hid : id = s.next
    · subst hid
      simp [hsound.registry.fresh s.next (Nat.le_refl _), Work.code]
    · simp [assign_other _ _ hid]
  | ran id now reply work r hwork hrun =>
    have hran := runTask_cases hrun
    exact hran.follows h hwork
  | discarded id hfinished =>
    refine stay rfl (fun i => ?_) rfl
    by_cases hi : i = id
    · subst hi
      simp [hfinished, Work.code]
    · simp [assign_other _ _ hi]
  | beaten now reply r hbeat =>
    have hbeaten := runHeartbeat_cases hbeat
    exact hbeaten.follows h
  | stopped hstop =>
    obtain ⟨hcontroller, hwork, hheartbeat⟩ := beginStop_frame s
    exact stay hcontroller (fun id => by rw [hwork]) (by rw [hheartbeat])
  | gathered awaited hstop hended =>
    obtain ⟨hcontroller, hwork, hheartbeat⟩ := stopHeartbeat_frame s
    exact stay hcontroller (fun id => by rw [hwork]) (by rw [hheartbeat])
  | heartbeatEnded hstop hended => exact stay rfl (fun _ => rfl) (by rw [hended]; rfl)
  | serverStopped hstop => exact stay rfl (fun _ => rfl) rfl

/-- Every run of the server is a run of the controller with the same statuses, commits and
ticks: what holds of all runs of the controller holds behind the server. -/
theorem server_refines (repr : Rendering) (now : Int)
    {path : List (Server × Event)} {s : Server} (r : Run (step repr) (init now) path s) :
    ∃ path' q, Run (Coroutines.step (lockedProgram repr))
      (boot ⟨WifiController.init now, false, [], []⟩) path' q ∧ q.shared = s.controller := by
  have hboot : Beside (init now) (boot ⟨WifiController.init now, false, [], []⟩) :=
    ⟨rfl, rfl, fun id => rfl⟩
  obtain ⟨path', q, hrun, hmatch, -⟩ := r.simulated
    (M := fun s q => Beside s q ∧ Sound s)
    (fun s m s' q hm hstep => by
      obtain ⟨path', q', hrun, hbeside⟩ := step_follows hm.1 hm.2 hstep
      exact ⟨path', q', hrun, hbeside, step_sound hm.2 hstep⟩)
    ⟨hboot, init_sound now⟩
  exact ⟨path', q, hrun, hmatch.shared⟩

theorem server_refines_session : ∃ (s : Server) (path' : _) (q : System Locked Code),
    Run (Coroutines.step (lockedProgram asciiOnly))
      (boot ⟨WifiController.init 0, false, [], []⟩) path' q ∧ q.shared = s.controller := by
  cases hexec : exec (step asciiOnly) (init 0) session with
  | none => cases hexec
  | some s => exact ⟨s, server_refines asciiOnly 0 (exec_run hexec)⟩

end NexyGateway.BluetoothServer
