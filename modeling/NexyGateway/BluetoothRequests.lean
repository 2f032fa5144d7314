import NexyGateway.BluetoothRefinement
import NexyGateway.WifiShape

/-!
# Requests over Bluetooth

What the body of a connect request has to be like to reach the command line wrapper, and where
the connect commands and the connected statuses of a run come from.
-/
namespace NexyGateway.BluetoothServer

open Coroutines JsonText PyDecoder PyJson Runs WifiController
open PyRepr (Rendering asciiOnly)

section Bodies

variable {sep : Separators}

/-- The body that a client writes. -/
def connectBody (sep : Separators) (ssid psk iface : String) : ByteArray :=
  (object sep [("ssid", string ssid), ("psk", string psk), ("iface", string iface)]).toUTF8

theorem connectBody_not_empty (sep : Separators) (ssid psk iface : String) :
    (connectBody sep ssid psk iface).isEmpty = false := by
  have hsize : (connectBody sep ssid psk iface).size ≠ 0 := by
    simp [connectBody, object, String.toUTF8_eq_toByteArray]
  simpa [ByteArray.isEmpty] using hsize

theorem connectBody_head (sep : Separators) (ssid psk iface : String) :
    ∃ cs, (object sep [("ssid", string ssid), ("psk", string psk),
      ("iface", string iface)]).toList = '{' :: '"' :: cs := by
  simp only [object, string, List.map_cons, String.intercalate_cons_cons, String.toList_append]
  exact ⟨_, rfl⟩

theorem loads_connectBody (hsep : sep.Plain) (ssid psk iface : String) :
    loadsBytes (connectBody sep ssid psk iface) =
      some (.dict [("ssid", .str ssid), ("psk", .str psk), ("iface", .str iface)]) := by
  refine loadsBytes_of_reads (connectBody_head sep ssid psk iface)
    (reads_object hsep ?_ (by simp))
  exact .cons ⟨rfl, reads_string _⟩ (.cons ⟨rfl, reads_string _⟩
    (.cons ⟨rfl, reads_string _⟩ .nil))

theorem request_connectBody (hsep : sep.Plain) (ssid psk iface : String) :
    onWriteConnect (connectBody sep ssid psk iface) =
      if ssid = "" ∧ iface = "wlan0" then .invalid "ssid is required for wlan0"
      else .connect ssid psk iface := by
  simp [onWriteConnect, connectBody_not_empty, loads_connectBody hsep, List.lookup_cons]

/-- Only the body of a connect request asks for a connect, and for `wlan0` only with a name. -/
theorem request_connect {w : Write} {ssid psk iface : String}
    (h : w.request = .connect ssid psk iface) :
    (∃ value, w = .connect value) ∧ ¬ (ssid = "" ∧ iface = "wlan0") := by
  cases w with
  | scan value => cases h
  | disconnect value => cases h
  | connect value =>
    refine ⟨⟨value, rfl⟩, ?_⟩
    simp only [Write.request, onWriteConnect] at h
    split at h
    · cases h
    · split at h
      · split at h
        · cases h
        · rename_i hname
          cases h
          exact hname
      · cases h
    · cases h

end Bodies

/-! ### Where connects come from -/

section Provenance

variable {repr : Rendering} {s s' : Server} {e : Event} {l : Locked}

/-- Only a request for `wlan0` with a long enough password gets to the command. -/
theorem stretch_connects {now : Int} {request : Request} {ssid psk : String}
    {next : Option ConnectResult → Code} (h : l.locked = false)
    (hcode : (stretch now (Code.request repr request) l).2 = some (.connect ssid psk next)) :
    request = .connect ssid psk "wlan0" ∧ minPskLen ≤ psk.length := by
  have hlast : ∀ status : Int → Controller → Status,
      (stretch now (.publish status .done) l).2 ≠ some (.connect ssid psk next) := by
    intro status
    rw [stretch_publish now status .done h]
    simp [stretch]
  obtain ⟨c, locked, commits, cached⟩ := l
  cases h
  cases request with
  | scan force =>
    rw [Code.request, Code.requestScan, stretch_acquire] at hcode
    simp only [stretch] at hcode
    split at hcode <;> cases hcode
  | connect ssid' psk' iface =>
    rw [Code.request, Code.requestConnect] at hcode
    split_ifs at hcode with hiface hmobile hshort
    · exact absurd hcode (hlast _)
    · exact absurd hcode (hlast _)
    · have hwlan : iface = "wlan0" := by simpa [supportedIfaces, hmobile] using hiface
      rw [stretch_acquire] at hcode
      simp only [stretch] at hcode
      split at hcode
      · cases hcode
      · cases hcode
        exact ⟨by rw [hwlan], Nat.le_of_not_lt hshort⟩
    · exact absurd hcode (hlast _)
  | invalid message => exact absurd hcode (hlast _)
  | disconnect => cases hcode
  | heartbeat =>
    rw [Code.request, Code.heartbeatTick, stretch_acquire] at hcode
    simp only [stretch] at hcode
    split at hcode <;> cases hcode

/-- The connect that a task stands for is one of these. -/
def Stands (asked : String → String → String → Prop) : Work → Prop
  | .created (.connect ssid psk iface) => asked ssid psk iface
  | .suspended (.connect ssid psk _) => asked ssid psk "wlan0" ∧ minPskLen ≤ psk.length
  | _ => True

theorem Ran.stands {asked : String → String → String → Prop} {cancelled : Bool} {now : Int}
    {reply : Option Reply} {work : Work} {r : Locked × Work}
    (hran : Ran repr cancelled now l reply work r) (hfree : l.locked = false)
    (hwaits : ∀ code, work = .suspended code → AwaitsCli code) (h : Stands asked work) :
    Stands asked r.2 := by
  cases hran with
  | first request live =>
    cases hcode : (stretch now (Code.request repr request) l).2 with
    | none => simp [Work.ofCode, Stands]
    | some code =>
      cases code with
      | connect ssid psk next =>
        obtain ⟨rfl, hlong⟩ := stretch_connects hfree hcode
        exact ⟨h, hlong⟩
      | _ => trivial
  | never request hcancelled => trivial
  | cut code hcancelled => trivial
  | woken code reply q hreply hwake =>
    rw [wake_ends (hwaits code rfl) hfree hwake]
    trivial

/-- A write that comes through asks for a connect that is one of these. -/
def AsksFor (asked : String → String → String → Prop) :
    Event → Prop
  | .write w true => ∀ ssid psk iface, w.request = .connect ssid psk iface →
      asked ssid psk iface
  | _ => True

theorem step_stands {asked : String → String → String → Prop} (hsound : Sound s)
    (h : ∀ id work, s.work id = some work → Stands asked work) (hasks : AsksFor asked e)
    (hstep : step repr s e = some s') {id : Nat} {work : Work}
    (hwork : s'.work id = some work) : Stands asked work := by
  cases step_cases hstep with
  | built live => exact h id work hwork
  | started live habsent => exact h id work hwork
  | dropped w onLoop => exact h id work hwork
  | dispatched w live =>
    rcases assign_cases hwork with ⟨-, hnew⟩ | ⟨-, hold⟩
    · obtain rfl := Option.some.inj hnew
      cases hrequest : w.request with
      | connect ssid psk iface => exact hasks ssid psk iface hrequest
      | _ => trivial
    · exact h id work hold
  | ran i now reply old r hold hrun =>
    rcases assign_cases hwork with ⟨-, hnew⟩ | ⟨-, hother⟩
    · obtain rfl := Option.some.inj hnew
      exact (runTask_cases hrun).stands hsound.published.free
        (fun code hcode => hsound.registry.waits i code (hcode ▸ hold)) (h i old hold)
    · exact h id work hother
  | discarded i hfinished =>
    rcases assign_cases hwork with ⟨-, hnew⟩ | ⟨-, hold⟩
    · cases hnew
    · exact h id work hold
  | beaten now reply r hbeat => exact h id work hwork
  | stopped hstop => exact h id work (by rwa [(beginStop_frame s).2.1] at hwork)
  | gathered awaited hstop hended => exact h id work (by rwa [(stopHeartbeat_frame s).2.1] at hwork)
  | heartbeatEnded hstop hended => exact h id work hwork
  | serverStopped hstop => exact h id work hwork

/-- A client has asked for this connect. -/
def Asked (path : List (Server × Event))
    (ssid psk iface : String) : Prop :=
  ∃ u value, (u, .write (.connect value) true) ∈ path ∧
    onWriteConnect value = .connect ssid psk iface

/-- A connect that is under way is one that a client has asked for, for a network with a name
and with a long enough password. -/
theorem connect_asked {now : Int} {path : List (Server × Event)}
    (r : Run (step repr) (init now) path s) {id : Nat} {ssid psk : String}
    {next : Option ConnectResult → Code}
    (hwork : s.work id = some (.suspended (.connect ssid psk next))) :
    Asked path ssid psk "wlan0" ∧ ssid ≠ "" ∧ minPskLen ≤ psk.length := by
  have hasks : Meets (fun _ => AsksFor (Asked path)) path := by
    rintro ⟨u, e⟩ hp
    cases e with
    | write w onLoop =>
      cases onLoop with
      | false => trivial
      | true =>
        intro ssid psk iface hrequest
        obtain ⟨⟨value, rfl⟩, -⟩ := request_connect hrequest
        exact ⟨u, value, hp, hrequest⟩
    | _ => trivial
  have hall : Always (fun s => Sound s ∧ ∀ id work, s.work id = some work →
      Stands (Asked path) work) path s := by
    refine r.invariant ?_ ⟨init_sound now, fun id work hnone => by cases hnone⟩ hasks
    rintro s e s' ⟨hsound, hstands⟩ hok hstep
    exact ⟨step_sound hsound hstep, fun id work => step_stands hsound hstands hok hstep⟩
  obtain ⟨⟨u, value, hmem, hvalue⟩, hlong⟩ := hall.last.2 id _ hwork
  have hnamed := (request_connect (w := .connect value) hvalue).2
  exact ⟨⟨u, value, hmem, hvalue⟩, fun hempty => hnamed ⟨hempty, rfl⟩, hlong⟩

/-- A status that says more about `wlan0` than the last one is no ending of these. -/
theorem stretch_publish_onWlan {now : Int} {status : Int → Controller → Status}
    (h : l.locked = false)
    (hstatus : (status now l.controller).phase = .connected →
      (status now l.controller).iface = some "wlan0" → OnWlan l.controller)
    (hwlan : OnWlan (stretch now (.publish status .done) l).1.controller) :
    OnWlan l.controller := by
  rw [stretch_publish now status .done h] at hwlan
  exact hstatus hwlan.1 hwlan.2

theorem stretch_request_onWlan {now : Int} (repr : Rendering) (request : Request)
    (h : l.locked = false)
    (hwlan : OnWlan (stretch now (Code.request repr request) l).1.controller) :
    OnWlan l.controller := by
  have herror : ∀ (code : ErrorCode) (message : String),
      OnWlan (stretch now (.setError code message) l).1.controller → OnWlan l.controller :=
    fun code message => stretch_publish_onWlan h (fun hphase => by cases hphase)
  cases request with
  | scan force =>
    obtain ⟨c, locked, commits, cached⟩ := l
    cases h
    rw [Code.request, Code.requestScan, stretch_acquire] at hwlan
    simp only [stretch] at hwlan
    split at hwlan
    · exact hwlan
    · cases hwlan.1
  | connect ssid psk iface =>
    rw [Code.request, Code.requestConnect] at hwlan
    split_ifs at hwlan
    · exact stretch_publish_onWlan h
        (fun _ hiface => by simp [Controller.connectedStatus] at hiface) hwlan
    · exact herror _ _ hwlan
    · obtain ⟨c, locked, commits, cached⟩ := l
      cases h
      rw [stretch_acquire] at hwlan
      simp only [stretch] at hwlan
      split at hwlan
      · exact hwlan
      · cases hwlan.1
    · exact herror _ _ hwlan
  | invalid message => exact herror _ _ hwlan
  | disconnect => exact hwlan
  | heartbeat =>
    obtain ⟨c, locked, commits, cached⟩ := l
    cases h
    rw [Code.request, Code.heartbeatTick, stretch_acquire] at hwlan
    simp only [stretch] at hwlan
    split at hwlan
    · exact hwlan
    · exact hwlan

/-- The command has reported that it is connected. -/
def Reported (code : Code) (reply : Reply) : Prop :=
  ∃ ssid psk result, code = .connect ssid psk Code.connectFinished ∧
    reply = .connected (some result) ∧ result.status = "connected"

theorem wake_onWlan {code : Code} {now : Int} {reply : Reply} {r : Locked × Option Code}
    (hcode : AwaitsCli code) (h : l.locked = false) (hr : wake code (now, reply) l = some r)
    (hwlan : OnWlan r.1.controller) : OnWlan l.controller ∨ Reported code reply := by
  have herror : ∀ (code : ErrorCode) (message : String),
      OnWlan (stretch now (.setError code message) l).1.controller → OnWlan l.controller :=
    fun code message => stretch_publish_onWlan h (fun hphase => by cases hphase)
  cases reply with
  | cancelled =>
    rw [show r = (l, none) by cases hcode <;> exact (Option.some.inj hr).symm] at hwlan
    exact .inl hwlan
  | granted => cases hcode <;> cases hr
  | scanned networks =>
    cases hcode <;> cases hr
    cases networks with
    | none => exact .inl (herror _ _ hwlan)
    | some networks =>
      exact .inl (stretch_publish_onWlan h (fun hphase => by cases hphase) hwlan)
  | connected result =>
    cases hcode with
    | connect ssid psk =>
      cases hr
      cases result with
      | none => exact .inl (herror _ _ hwlan)
      | some result =>
        simp only [Code.connectFinished] at hwlan
        split_ifs at hwlan with hconnected
        · exact .inr ⟨ssid, psk, result, rfl, rfl, hconnected⟩
        · exact .inl (herror _ _ hwlan)
        · exact .inl (herror _ _ hwlan)
    | _ => cases hr
  | disconnected =>
    cases hcode <;> cases hr
    exact .inl (stretch_publish_onWlan h (fun hphase => by cases hphase) hwlan)
  | refreshed info =>
    cases hcode <;> cases hr
    exact .inl (stretch_publish_onWlan h (fun hphase hiface => ⟨hphase, hiface⟩) hwlan)

/-- At this event a connect that is under way is reported to have succeeded. -/
def Succeeds (s : Server) (e : Event) : Prop :=
  ∃ id now reply code, e = .run id now (some reply) ∧ s.work id = some (.suspended code) ∧
    Reported code reply

theorem step_onWlan (hsound : Sound s) (hstep : step repr s e = some s')
    (hwlan : OnWlan s'.controller.controller) :
    OnWlan s.controller.controller ∨ Succeeds s e := by
  cases step_cases hstep with
  | ran id now reply work r hwork hrun =>
    cases runTask_cases hrun with
    | first request live =>
      exact .inl (stretch_request_onWlan repr request hsound.published.free hwlan)
    | never request hcancelled => exact .inl hwlan
    | cut code hcancelled => exact .inl hwlan
    | woken code reply r hreply hwake =>
      rcases wake_onWlan (hsound.registry.waits id code hwork) hsound.published.free hwake hwlan
        with hbefore | hreported
      · exact .inl hbefore
      · exact .inr ⟨id, now, reply, code, rfl, hwork, hreported⟩
  | beaten now reply r hbeat =>
    have hbeaten := runHeartbeat_cases hbeat
    generalize hheart : s.heartbeat = heartbeat at hbeaten
    cases hbeaten with
    | first => exact .inl (stretch_request_onWlan repr .heartbeat hsound.published.free hwlan)
    | never hcancelled => exact .inl hwlan
    | cut code hcancelled => exact .inl hwlan
    | woken code reply r hreply hwake =>
      obtain rfl := hsound.beats code hheart
      rcases wake_onWlan .getStatus hsound.published.free hwake hwlan with hbefore | hreported
      · exact .inl hbefore
      · obtain ⟨ssid, psk, result, hcode, -⟩ := hreported
        cases hcode
  | stopped hstop => exact .inl (by rwa [(beginStop_frame s).1] at hwlan)
  | gathered awaited hstop hended => exact .inl (by rwa [(stopHeartbeat_frame s).1] at hwlan)
  | _ => exact .inl hwlan

/-- When the gateway shows that it is connected over `wlan0`, the command has reported this for
a connect that a client had asked for, to a network with a name and with a long enough
password. -/
theorem connected_asked (repr : Rendering) (now : Int)
    {path : List (Server × Event)} {s : Server} (r : Run (step repr) (init now) path s)
    (hwlan : OnWlan s.controller.controller) :
    ∃ front back u id t ssid psk next result,
      path = front ++ (u, .run id t (some (.connected (some result)))) :: back ∧
      result.status = "connected" ∧ u.work id = some (.suspended (.connect ssid psk next)) ∧
      Asked front ssid psk "wlan0" ∧ ssid ≠ "" ∧ minPskLen ≤ psk.length := by
  have hsucceeds : ∃ p ∈ path, Succeeds p.1 p.2 := by
    by_contra hnone
    have hall : Always (fun s => Sound s ∧ ¬ OnWlan s.controller.controller) path s := by
      refine r.invariant (fun s e _ h (hok : ¬ Succeeds s e) hstep => ?_)
        ⟨init_sound now, fun h => by cases h.1⟩ (fun p hp h => hnone ⟨p, hp, h⟩)
      exact ⟨step_sound h.1 hstep, fun hwlan => (step_onWlan h.1 hstep hwlan).elim h.2 hok⟩
    exact hall.last.2 hwlan
  obtain ⟨⟨u, e⟩, hp, id, t, reply, code, rfl, hwork, ssid, psk, result, rfl, rfl, hconnected⟩ :=
    hsucceeds
  obtain ⟨front, back, rfl⟩ := List.append_of_mem hp
  obtain ⟨hasked, hnamed, hlong⟩ := connect_asked r.split.1 hwork
  exact ⟨front, back, u, id, t, ssid, psk, _, result, rfl, hconnected, hwork, hasked, hnamed,
    hlong⟩

/-- A client asks for a connect, and the command reports success. -/
def connects (psk : String) : List Event :=
  [.write (.connect (connectBody compact "lift" psk "wlan0")) true, .run 0 1 none,
    .run 0 2 (some (.connected (some ⟨"connected", "lift", "10.0.0.2"⟩)))]

theorem connects_run : ∃ (path : List (Server × Event)) (s : Server),
    Run (step asciiOnly) (init 0) path s ∧ path.map Prod.snd = connects "password" ∧
      OnWlan s.controller.controller := by
  have hwrite : step asciiOnly (init 0)
        (.write (.connect (connectBody compact "lift" "password" "wlan0")) true) =
      some ((init 0).dispatch true (.connect "lift" "password" "wlan0")) :=
    congrArg (fun r => some ((init 0).dispatch true r))
      (request_connectBody compact_plain "lift" "password" "wlan0")
  exact ⟨_, _, .cons hwrite (.cons rfl (.cons rfl (.nil _))), rfl, rfl, rfl⟩

theorem connected_asked_session : ∃ (path : List (Server × Event)) (s : Server),
    path.map Prod.snd = connects "password" ∧ OnWlan s.controller.controller ∧
      ∃ front back u id t ssid psk next result,
        path = front ++ (u, .run id t (some (.connected (some result)))) :: back ∧
        result.status = "connected" ∧ u.work id = some (.suspended (.connect ssid psk next)) ∧
        Asked front ssid psk "wlan0" ∧ ssid ≠ "" ∧ minPskLen ≤ psk.length := by
  obtain ⟨path, s, hrun, hevents, hwlan⟩ := connects_run
  exact ⟨path, s, hevents, hwlan, connected_asked asciiOnly 0 hrun hwlan⟩

end Provenance

/-! ### What becomes of the password -/

section Password

variable {repr : Rendering} {s s' t : Server} {e e' : Event}

/-- The same requests up to the password of a connect. -/
inductive SameRequest : Request → Request → Prop
  | refl (request : Request) : SameRequest request request
  | connect (ssid iface : String) {psk psk' : String}
      (h : psk.length < minPskLen ↔ psk'.length < minPskLen) :
      SameRequest (.connect ssid psk iface) (.connect ssid psk' iface)

inductive SameWork : Work → Work → Prop
  | refl (work : Work) : SameWork work work
  | created {request request' : Request} (h : SameRequest request request') :
      SameWork (.created request) (.created request')
  | connect (ssid psk psk' : String) :
      SameWork (.suspended (.connect ssid psk Code.connectFinished))
        (.suspended (.connect ssid psk' Code.connectFinished))

/-- The same events up to the password in the body of a connect request. -/
inductive SameEvent : Event → Event → Prop
  | refl (e : Event) : SameEvent e e
  | write {w w' : Write} (onLoop : Bool) (h : SameRequest w.request w'.request) :
      SameEvent (.write w onLoop) (.write w' onLoop)

def Server.withWork (s : Server) (work : Nat → Option Work) : Server := { s with work := work }

@[simp] theorem withWork_controller (s : Server) (work : Nat → Option Work) :
    (s.withWork work).controller = s.controller := rfl

@[simp] theorem withWork_work (s : Server) (work : Nat → Option Work) :
    (s.withWork work).work = work := rfl

/-- Two servers that differ in the passwords of their tasks only. -/
structure SameServer (s t : Server) : Prop where
  rest : t = s.withWork t.work
  work : ∀ id, Option.Rel SameWork (s.work id) (t.work id)

variable {l : Locked}

/-- Apart from its length the password only goes into the command. -/
theorem stretch_same (repr : Rendering) (now : Int) {request request' : Request}
    (h : SameRequest request request')
    (hfree : l.locked = false) :
    (stretch now (Code.request repr request) l).1 = (stretch now (Code.request repr request') l).1 ∧
      SameWork (.ofCode (stretch now (Code.request repr request) l).2)
        (.ofCode (stretch now (Code.request repr request') l).2) := by
  cases h with
  | refl => exact ⟨rfl, .refl _⟩
  | connect ssid iface hlength =>
    obtain ⟨c, locked, commits, cached⟩ := l
    cases hfree
    simp only [Code.request, Code.requestConnect, hlength]
    split_ifs
    · exact ⟨rfl, .refl _⟩
    · exact ⟨rfl, .refl _⟩
    · rw [stretch_acquire, stretch_acquire]
      simp only [stretch]
      split
      · exact ⟨rfl, .refl _⟩
      · exact ⟨rfl, .connect ssid _ _⟩
    · exact ⟨rfl, .refl _⟩

theorem runTask_same {cancelled : Bool} {now : Int} {reply : Option Reply} {work work' : Work}
    {r : Locked × Work} (h : SameWork work work') (hfree : l.locked = false)
    (hrun : runTask repr cancelled now reply l work = some r) :
    ∃ w, runTask repr cancelled now reply l work' = some (r.1, w) ∧ SameWork r.2 w := by
  cases h with
  | refl => exact ⟨r.2, hrun, .refl _⟩
  | created hrequest =>
    cases reply with
    | none =>
      simp only [runTask] at hrun ⊢
      split at hrun
      · cases hrun
      · rename_i hlive
        cases hrun
        obtain ⟨hcontroller, hwork⟩ := stretch_same repr now hrequest hfree
        exact ⟨_, by rw [if_neg hlive, hcontroller], hwork⟩
    | some reply =>
      cases reply with
      | cancelled =>
        simp only [runTask] at hrun ⊢
        split at hrun
        · rename_i hcancelled
          cases hrun
          exact ⟨.finished, if_pos hcancelled, .refl _⟩
        · cases hrun
      | _ => cases hrun
  | connect ssid psk psk' =>
    refine ⟨r.2, ?_, .refl _⟩
    rw [← hrun]
    cases reply with
    | none => rfl
    | some reply => cases reply <;> rfl

theorem isEnded_same {work work' : Option Work} (h : Option.Rel SameWork work work') :
    isEnded work = isEnded work' := by
  cases h with
  | none => rfl
  | some h => cases h <;> rfl

theorem finished_same {work : Option Work} (h : Option.Rel SameWork (some .finished) work) :
    work = some .finished := by
  cases h with
  | some h => cases h with | refl => rfl

theorem assign_same_rel {work work' : Nat → Option Work}
    (h : ∀ id, Option.Rel SameWork (work id) (work' id)) {id : Nat} {new new' : Option Work}
    (hnew : Option.Rel SameWork new new') (i : Nat) :
    Option.Rel SameWork (assign work id new i) (assign work' id new' i) := by
  by_cases hi : i = id
  · subst hi
    rwa [assign_same, assign_same]
  · rw [assign_other _ _ hi, assign_other _ _ hi]
    exact h i

theorem stopHeartbeat_withWork (s : Server) (work : Nat → Option Work) :
    (s.withWork work).stopHeartbeat = s.stopHeartbeat.withWork work := by
  obtain ⟨controller, work', tasks, next, cancelled, heartbeat, heartbeatCancelled, hasServer,
    stopping, stop⟩ := s
  cases heartbeat <;> rfl

theorem beginStop_withWork (s : Server) (work : Nat → Option Work) :
    (s.withWork work).beginStop = s.beginStop.withWork work := by
  by_cases htasks : s.tasks = []
  · have hold : s.beginStop = { s with stopping := true, cancelled := s.tasks }.stopHeartbeat :=
      if_pos htasks
    have hnew : (s.withWork work).beginStop =
        ({ s with stopping := true, cancelled := s.tasks }.withWork work).stopHeartbeat :=
      if_pos htasks
    rw [hold, hnew, stopHeartbeat_withWork]
  · simp [Server.beginStop, Server.withWork, htasks]

/-- Events that are no business of the tasks. -/
def Apart : Event → Prop
  | .built | .started | .beat _ _ | .stop | .heartbeatEnded | .serverStopped => True
  | _ => False

theorem step_withWork (he : Apart e) (work : Nat → Option Work) :
    step repr (s.withWork work) e = (step repr s e).map (fun s => s.withWork work) := by
  cases e with
  | built =>
    by_cases h : s.hasServer = true ∨ s.stopping = true
    · simp [step, Server.withWork, h]
    · simp [step, Server.withWork, h]
  | started =>
    cases hheart : s.heartbeat with
    | absent =>
      by_cases h : s.hasServer = true ∧ s.stopping = false
      · simp [step, Server.withWork, hheart, h]
      · simp [step, Server.withWork, hheart, h]
    | _ => simp [step, Server.withWork, hheart]
  | beat now reply =>
    simp only [step, Option.map_map]
    rfl
  | stop =>
    by_cases h : s.stop = .notCalled
    · have h' : (s.withWork work).stop = .notCalled := h
      simp [step, h, h', beginStop_withWork]
    · have h' : (s.withWork work).stop ≠ .notCalled := h
      simp [step, h, h']
  | heartbeatEnded =>
    cases hstop : s.stop with
    | endingHeartbeat =>
      cases hheart : s.heartbeat with
      | ended =>
        simp only [step, Server.withWork, hstop, hheart]
        rfl
      | _ => simp [step, Server.withWork, hstop, hheart]
    | _ => simp [step, Server.withWork, hstop]
  | serverStopped =>
    by_cases h : s.stop = .stoppingServer
    · simp [step, Server.withWork, h]
    · simp [step, Server.withWork, h]
  | _ => cases he

theorem step_apart_work (he : Apart e) (hstep : step repr s e = some s') :
    s'.work = s.work := by
  cases step_cases hstep with
  | stopped hstop => exact (beginStop_frame s).2.1
  | dropped w onLoop => rfl
  | dispatched w live => cases he
  | ran id now reply work r hwork hrun => cases he
  | discarded id hfinished => cases he
  | gathered awaited hstop hended => cases he
  | _ => rfl

/-- Servers that differ in passwords do the same at events that differ in passwords. -/
theorem step_same (hfree : s.controller.locked = false) (h : SameServer s t)
    (he : SameEvent e e') (hstep : step repr s e = some s') :
    ∃ t', step repr t e' = some t' ∧ SameServer s' t' := by
  obtain ⟨hrest, hwork⟩ := h
  generalize t.work = work at hrest hwork
  subst hrest
  have hdispatch : ∀ {w w' : Write} (onLoop : Bool),
      SameRequest w.request w'.request →
      SameServer (s.dispatch onLoop w.request)
        ((s.withWork work).dispatch onLoop w'.request) := by
    intro w w' onLoop hrequest
    by_cases hlost : s.stopping = true ∨ onLoop = false
    · have hold : s.dispatch onLoop w.request = s := if_pos hlost
      have hnew : (s.withWork work).dispatch onLoop w'.request = s.withWork work :=
        if_pos hlost
      rw [hold, hnew]
      exact ⟨rfl, hwork⟩
    · unfold Server.dispatch
      rw [if_neg hlost, if_neg (c := (s.withWork work).stopping = true ∨ onLoop = false) hlost]
      exact ⟨rfl, assign_same_rel hwork (.some (.created hrequest))⟩
  have hapart : Apart e → ∃ t', step repr (s.withWork work) e = some t' ∧
      SameServer s' t' := by
    intro hapart
    refine ⟨s'.withWork work, by rw [step_withWork hapart, hstep]; rfl, rfl, fun id => ?_⟩
    rw [step_apart_work hapart hstep]
    exact hwork id
  cases he with
  | write onLoop hrequest =>
    cases hstep
    exact ⟨_, rfl, hdispatch onLoop hrequest⟩
  | refl =>
    cases e with
    | write w onLoop =>
      cases hstep
      exact ⟨_, rfl, hdispatch onLoop (.refl _)⟩
    | run id now reply =>
      cases step_cases hstep with
      | ran id now reply old r hold hrun =>
        have hrel := hwork id
        rw [hold] at hrel
        generalize hother : work id = other at hrel
        cases hrel with
        | some hrel =>
          obtain ⟨w, hrun', hsame⟩ := runTask_same hrel hfree hrun
          refine ⟨{ s with controller := r.1 }.withWork (assign work id (some w)), ?_, rfl,
            assign_same_rel hwork (.some hsame)⟩
          simp only [step, withWork_work, hother, Option.bind_some]
          exact congrArg (Option.map _) hrun'
    | dispatchDone id => 
      cases step_cases hstep with
      | discarded id hfinished =>
        have hrel := hwork id
        rw [hfinished] at hrel
        refine ⟨{ s with tasks := s.tasks.filter (fun i => i ≠ id) }.withWork (assign work id none),
          ?_, rfl, assign_same_rel hwork .none⟩
        simp only [step, withWork_work, finished_same hrel]
        rfl
    | gathered =>
      cases step_cases hstep with
      | gathered awaited hstop hended =>
        refine ⟨s.stopHeartbeat.withWork work, ?_, rfl, fun id => ?_⟩
        · have hall : awaited.all (fun id => isEnded (work id)) = true :=
            List.all_eq_true.mpr fun id hid => isEnded_same (hwork id) ▸ hended id hid
          simp only [step, show (s.withWork work).stop = .gathering awaited from hstop,
            withWork_work, hall, if_true, stopHeartbeat_withWork]
        · rw [(stopHeartbeat_frame s).2.1]
          exact hwork id
    | _ => exact hapart trivial

/-- The password of a connect reaches the command and nothing else: two runs that differ only
in the passwords that clients have written, short ones against short ones, have the same
statuses, texts and ticks in every state. -/
theorem password_unobservable (repr : Rendering) (now : Int)
    {path : List (Server × Event)} {s : Server} (r : Run (step repr) (init now) path s)
    {events : List Event} (h : List.Forall₂ SameEvent (path.map Prod.snd) events) :
    ∃ path' t, Run (step repr) (init now) path' t ∧ path'.map Prod.snd = events ∧
      List.Forall₂ (fun p q => p.1.controller = q.1.controller) path path' ∧
      s.controller = t.controller := by
  have hsame : ∀ {s t : Server}, SameServer s t → s.controller = t.controller := by
    intro s t h
    rw [h.rest]
    rfl
  obtain ⟨path', t, hrun, hevents, hall, hlast⟩ := r.lockstep
    (M := fun s t => Sound s ∧ SameServer s t)
    (fun s t e f s' hm he hstep => by
      obtain ⟨t', ht, hsame⟩ := step_same hm.1.published.free hm.2 he hstep
      exact ⟨t', ht, step_sound hm.1 hstep, hsame⟩)
    (t := init now) ⟨init_sound now, rfl, fun id => .none⟩ h
  exact ⟨path', t, hrun, hevents, hall.imp (fun p q hm => hsame hm.2), hsame hlast.2⟩

/-- Two clients that know different passwords are both connected. -/
theorem password_unobservable_session : ∃ (path path' : List (Server × Event)) (s t : Server),
    path.map Prod.snd = connects "password" ∧ path'.map Prod.snd = connects "passphrase" ∧
      List.Forall₂ (fun p q => p.1.controller = q.1.controller) path path' ∧
      s.controller = t.controller ∧ OnWlan s.controller.controller := by
  obtain ⟨path, s, hrun, hevents, hwlan⟩ := connects_run
  have hsame : List.Forall₂ SameEvent (path.map Prod.snd) (connects "passphrase") := by
    rw [hevents]
    refine .cons (.write true ?_) (.cons (.refl _) (.cons (.refl _) .nil))
    simp only [Write.request, request_connectBody compact_plain]
    exact .connect "lift" "wlan0" (by decide)
  obtain ⟨path', t, -, hevents', hall, hlast⟩ := password_unobservable asciiOnly 0 hrun hsame
  exact ⟨path, path', s, t, hevents, hevents', hall, hlast, hwlan⟩

end Password

end NexyGateway.BluetoothServer
