import NexyGateway.BluetoothRefinement
import NexyGateway.WifiScan

/-!
# Networks over Bluetooth

Where the networks of a status come from, when every scan gets what the command line wrapper
makes of a reply of the script.
-/
namespace NexyGateway.BluetoothServer

open Coroutines KeepBest PyJson Runs WifiController WifiScan
open PyRepr (Rendering asciiOnly)

/-- The networks that a READ shows. -/
def Server.networks (s : Server) : List NetworkInfo := s.controller.controller.status.networks

/-- A scan that goes on gets what `WifiCli.scan` makes of a reply. -/
def FromScript : Event → Prop
  | .run _ _ (some (.scanned networks)) => ∃ reply, networks = scan reply
  | _ => True

/-- At this event a scan that found these networks goes on. -/
def Finds (found : List NetworkInfo) (e : Event) : Prop :=
  ∃ id now, e = .run id now (some (.scanned (some found)))

/-- The strongest networks of one scan in the run, or none. -/
def ShownOf (path : List (Server × Event)) (shown : List NetworkInfo) : Prop :=
  shown = [] ∨ ∃ s e results found, (s, e) ∈ path ∧ Finds found e ∧
    scan (.document (some results)) = some found ∧ Ranked results found ∧ Publishes found shown

section Networks

variable {repr : Rendering} {s s' : Server} {e : Event} {l : Locked}

/-- A status with the networks of the last one leaves them as they were. -/
theorem stretch_publish_networks {now : Int} {status : Int → Controller → Status}
    (h : l.locked = false)
    (hstatus : (status now l.controller).networks = l.controller.status.networks) :
    (stretch now (.publish status .done) l).1.controller.status.networks =
      l.controller.status.networks := by
  rw [stretch_publish now status .done h]
  exact hstatus

/-- A request keeps the networks, or it is a scan that has only begun. -/
theorem stretch_request_networks (repr : Rendering) (now : Int) (request : Request)
    (h : l.locked = false) :
    (stretch now (Code.request repr request) l).1.controller.status.networks =
      l.controller.status.networks ∨
    (stretch now (Code.request repr request) l).1.controller.status.networks = [] := by
  have herror : ∀ (code : ErrorCode) (message : String),
      (stretch now (.setError code message) l).1.controller.status.networks =
        l.controller.status.networks :=
    fun code message => stretch_publish_networks h rfl
  cases request with
  | scan force =>
    obtain ⟨c, locked, commits, cached⟩ := l
    cases h
    rw [Code.request, Code.requestScan, stretch_acquire]
    simp only [stretch]
    split
    · exact .inl rfl
    · exact .inr rfl
  | connect ssid psk iface =>
    left
    rw [Code.request, Code.requestConnect]
    split_ifs
    · exact stretch_publish_networks h rfl
    · exact herror _ _
    · obtain ⟨c, locked, commits, cached⟩ := l
      cases h
      rw [stretch_acquire]
      simp only [stretch]
      split <;> rfl
    · exact herror _ _
  | invalid message => exact .inl (herror _ _)
  | disconnect => exact .inl rfl
  | heartbeat =>
    left
    obtain ⟨c, locked, commits, cached⟩ := l
    cases h
    rw [Code.request, Code.heartbeatTick, stretch_acquire]
    simp only [stretch]
    split <;> rfl

/-- A command that comes back keeps the networks, or it is a scan and brings new ones. -/
theorem wake_networks {code : Code} {now : Int} {reply : Reply} {r : Locked × Option Code}
    (hcode : AwaitsCli code) (h : l.locked = false) (hr : wake code (now, reply) l = some r) :
    r.1.controller.status.networks = l.controller.status.networks ∨
    ∃ found, reply = .scanned (some found) ∧
      r.1.controller.status.networks = found.take maxNetworksInStatus := by
  have herror : ∀ (code : ErrorCode) (message : String),
      (stretch now (.setError code message) l).1.controller.status.networks =
        l.controller.status.networks :=
    fun code message => stretch_publish_networks h rfl
  cases reply with
  | cancelled =>
    rw [show r = (l, none) by cases hcode <;> exact (Option.some.inj hr).symm]
    exact .inl rfl
  | granted => cases hcode <;> cases hr
  | scanned networks =>
    cases hcode <;> cases hr
    cases networks with
    | none => exact .inl (herror _ _)
    | some found =>
      refine .inr ⟨found, rfl, ?_⟩
      rw [Code.scanFinished, stretch_publish _ _ _ h]
      rfl
  | connected result =>
    left
    cases hcode with
    | connect ssid psk =>
      cases hr
      cases result with
      | none => exact herror _ _
      | some result =>
        simp only [Code.connectFinished]
        split_ifs
        · exact stretch_publish_networks h rfl
        · exact herror _ _
        · exact herror _ _
    | _ => cases hr
  | disconnected =>
    cases hcode <;> cases hr
    exact .inl (stretch_publish_networks h rfl)
  | refreshed info =>
    cases hcode <;> cases hr
    exact .inl (stretch_publish_networks h rfl)

theorem step_networks (hsound : Sound s) (hstep : step repr s e = some s') :
    s'.networks = s.networks ∨ s'.networks = [] ∨
      ∃ found, Finds found e ∧ s'.networks = found.take maxNetworksInStatus := by
  unfold Server.networks
  cases step_cases hstep with
  | ran id now reply work r hwork hrun =>
    cases runTask_cases hrun with
    | first request live =>
      rcases stretch_request_networks repr now request hsound.published.free with hsame | hnone
      · exact .inl hsame
      · exact .inr (.inl hnone)
    | never request hcancelled => exact .inl rfl
    | cut code hcancelled => exact .inl rfl
    | woken code reply r hreply hwake =>
      rcases wake_networks (hsound.registry.waits id code hwork) hsound.published.free hwake
        with hsame | ⟨found, rfl, hfound⟩
      · exact .inl hsame
      · exact .inr (.inr ⟨found, ⟨id, now, rfl⟩, hfound⟩)
  | beaten now reply r hbeat =>
    have hbeaten := runHeartbeat_cases hbeat
    generalize hheart : s.heartbeat = heartbeat at hbeaten
    cases hbeaten with
    | first =>
      rcases stretch_request_networks repr now .heartbeat hsound.published.free with hsame | hnone
      · exact .inl hsame
      · exact .inr (.inl hnone)
    | never hcancelled => exact .inl rfl
    | cut code hcancelled => exact .inl rfl
    | woken code reply r hreply hwake =>
      -- a heartbeat waits for no scan
      obtain rfl := hsound.beats code hheart
      rcases wake_networks .getStatus hsound.published.free hwake with hsame | ⟨found, rfl, -⟩
      · exact .inl hsame
      · cases hwake
  | stopped hstop => exact .inl (by rw [(beginStop_frame s).1])
  | gathered awaited hstop hended => exact .inl (by rw [(stopHeartbeat_frame s).1])
  | _ => exact .inl rfl

/-- What a reply of the script makes of a status. -/
theorem shownOf_script {reply : ScriptReply} {found : List NetworkInfo}
    (hfound : some found = scan reply) : found = [] ∨ ∃ results,
      scan (.document (some results)) = some found ∧ Ranked results found ∧
        Publishes found (found.take maxNetworksInStatus) := by
  cases reply with
  | timedOut => cases hfound
  | failed rc => exact .inl (Option.some.inj hfound)
  | notJson => exact .inl (Option.some.inj hfound)
  | document results =>
    refine .inr ⟨results.getD [], ?_⟩
    cases hfound
    have hsorted : (ranked NetworkInfo.ssid NetworkInfo.rssi (named (results.getD []))).Pairwise
        (fun n m => m.rssi ≤ n.rssi) := ranked_pairwise (named (results.getD []))
    exact ⟨rfl, ranked_of_best (best_ranked _) hsorted, publishes_take hsorted⟩

/-- If scans get what the wrapper makes of the script's replies, a READ shows no networks, or the
strongest ones of a single scan of the run: each of them with a name of its own, the strongest
entry of that name, in the order of their signals, and at most as many as fit. -/
theorem networks_scanned (repr : Rendering) (now : Int)
    {path : List (Server × Event)} {s : Server} (r : Run (step repr) (init now) path s)
    (hscripts : Meets (fun _ => FromScript) path) : ShownOf path s.networks := by
  have hall : Always (fun s => Sound s ∧ ShownOf path s.networks) path s := by
    refine r.invariant (fun s e s' h (hok : (s, e) ∈ path) hstep => ?_)
      ⟨init_sound now, .inl rfl⟩ fun p hp => hp
    refine ⟨step_sound h.1 hstep, ?_⟩
    rcases step_networks h.1 hstep with hsame | hnone | ⟨found, ⟨id, t, rfl⟩, hfound⟩
    · rw [hsame]
      exact h.2
    · exact .inl hnone
    · obtain ⟨reply, hreply⟩ := hscripts _ hok
      rw [hfound]
      rcases shownOf_script hreply with rfl | ⟨results, hscan, hranked, hpublished⟩
      · exact .inl rfl
      · exact .inr ⟨s, _, results, found, hok, ⟨id, t, rfl⟩, hscan, hranked, hpublished⟩
  exact hall.last.2

/-- Two entries of one network and a hidden one. -/
def entries : List Entry :=
  [⟨some "lift", some (-70), none⟩, ⟨some "lift", some (-50), none⟩, ⟨none, some (-40), none⟩]

theorem networks_scanned_entries : ∃ (path : List (Server × Event)) (s : Server),
    s.networks = [⟨"lift", -50, "none"⟩] ∧ ShownOf path s.networks := by
  have hscan : scan (.document (some entries)) = some [⟨"lift", -50, "none"⟩] := by decide +kernel
  let events : List Event := [.write (.scan ByteArray.empty) true, .run 0 1 none,
    .run 0 2 (some (.scanned (some [⟨"lift", -50, "none"⟩])))]
  cases hexec : exec (step asciiOnly) (init 0) events with
  | none => cases hexec
  | some s =>
    have hshown : s.networks = [⟨"lift", -50, "none"⟩] := by
      cases hexec
      rfl
    refine ⟨_, s, hshown, networks_scanned asciiOnly 0 (exec_run hexec) ?_⟩
    intro p hp
    have he : p.2 ∈ events := mem_trace hp
    simp only [events, List.mem_cons, List.not_mem_nil, or_false] at he
    rcases he with he | he | he <;> rw [he]
    · trivial
    · trivial
    · exact ⟨_, hscan.symm⟩

end Networks

end NexyGateway.BluetoothServer
