import NexyGateway.WifiController

/-!
# Shape of the WiFi status

Which of the statuses that the controller commits have the documented shape, and
from that the runs in which every published status has it.
-/
namespace NexyGateway.WifiController

open Coroutines Runs
open PyRepr (Rendering asciiOnly)

/-- The statuses that a stretch of the controller can commit. -/
inductive Next (c : Controller) : Status → Prop
  | moved (now : Int) (phase : Phase) (iface : Option String) (networks : List NetworkInfo)
      (h : phase ≠ .error) : Next c (c.withPhase now phase iface networks)
  | failed (now : Int) (code : ErrorCode) (message : String) :
      Next c (c.errorStatus now code message)
  | mobile (now : Int) : Next c (c.connectedStatus now "ppp0" none)
  | joined (now : Int) (info : ConnectionInfo) :
      Next c (c.connectedStatus now "wlan0" (some info))
  | beat (now : Int) : Next c (c.heartbeatStatus now none)

/-- A first stretch leaves the controller alone or commits one status. -/
theorem start_cases (repr : Rendering) (r : Int × Request) (c : Controller) :
    (start repr r c).1 = c ∨ ∃ s, (start repr r c).1 = c.commit s ∧ Next c s := by
  obtain ⟨now, request⟩ := r
  cases request with
  | scan force =>
    simp only [start, requestScan]
    split
    · exact .inl rfl
    · exact .inr ⟨_, rfl, .moved now _ _ _ (by simp)⟩
  | connect ssid psk iface =>
    simp only [start, requestConnect]
    split_ifs
    · exact .inr ⟨_, rfl, .mobile now⟩
    · exact .inr ⟨_, rfl, .failed now _ _⟩
    · exact .inl rfl
    · exact .inr ⟨_, rfl, .moved now _ _ _ (by simp)⟩
    · exact .inr ⟨_, rfl, .failed now _ _⟩
  | invalid message => exact .inr ⟨_, rfl, .failed now _ _⟩
  | disconnect => exact .inl rfl
  | heartbeat =>
    simp only [start, heartbeatTick]
    split
    · exact .inl rfl
    · exact .inr ⟨_, rfl, .beat now⟩

theorem connectFinished_cases (now : Int) (result : ConnectResult) (c : Controller) :
    ∃ s, connectFinished now result c = c.commit s ∧ Next c s := by
  unfold connectFinished
  split_ifs
  · exact ⟨_, rfl, .joined now _⟩
  · exact ⟨_, rfl, .failed now _ _⟩
  · exact ⟨_, rfl, .failed now _ _⟩

/-- A later stretch does the same, apart from the heartbeat that brings fresh information. -/
theorem resume_cases {t : Point} {now : Int} {o : Outcome} {c : Controller}
    {r : Controller × Option Point} (h : resume t (now, o) c = some r) :
    r.1 = c ∨ (∃ s, r.1 = c.commit s ∧ Next c s) ∨
      ∃ info, t = .refreshing ∧ o = .refreshed (some info) ∧
        r.1 = c.commit (c.heartbeatStatus now (some info)) := by
  unfold resume at h
  split at h <;> cases h
  · exact .inl rfl
  · exact .inl rfl
  · exact .inr (.inl ⟨_, rfl, .moved _ _ _ _ (by simp)⟩)
  · exact .inr (.inl ⟨_, rfl, .failed _ _ _⟩)
  · exact .inl rfl
  · exact .inr (.inl (connectFinished_cases _ _ _))
  · exact .inr (.inl ⟨_, rfl, .failed _ _ _⟩)
  · exact .inr (.inl ⟨_, rfl, .moved _ _ _ _ (by simp)⟩)
  · exact .inr (.inl ⟨_, rfl, .moved _ _ _ _ (by simp)⟩)
  · rename_i hpair
    cases hpair
    rename_i info
    cases info with
    | none => exact .inr (.inl ⟨_, rfl, .beat _⟩)
    | some info => exact .inr (.inr ⟨info, rfl, rfl, rfl⟩)
  · exact .inr (.inl ⟨_, rfl, .beat _⟩)
  · exact .inl rfl

/-- The published status has the documented shape and the cached text is its text. -/
structure Consistent (c : Controller) : Prop where
  documented : c.status.Documented
  cached : c.latestStatusJson = c.status.toJson

theorem init_consistent (now : Int) : Consistent (init now) :=
  ⟨⟨by simp [init], by simp [init]⟩, rfl⟩

theorem commit_consistent (c : Controller) (s : Status) :
    Consistent (c.commit s) ↔ s.Documented :=
  ⟨fun h => h.documented, fun h => ⟨h, rfl⟩⟩

def OnWlan (c : Controller) : Prop :=
  c.status.phase = .connected ∧ c.status.iface = some "wlan0"

/-- A heartbeat publishes a documented status exactly when what it read may be shown. -/
theorem heartbeatStatus_documented {c : Controller} (h : c.status.Documented) (now : Int)
    (info : Option ConnectionInfo) :
    (c.heartbeatStatus now info).Documented ↔ (info ≠ none → OnWlan c) := by
  constructor
  · intro hd hinfo
    obtain ⟨i, rfl⟩ := Option.ne_none_iff_exists'.mp hinfo
    exact hd.current_only (by simp [Controller.heartbeatStatus])
  · intro hinfo
    refine ⟨h.error_iff, fun hcurrent => ?_⟩
    cases info with
    | none => exact h.current_only (by simpa [Controller.heartbeatStatus] using hcurrent)
    | some i => exact hinfo (by simp)

theorem Next.documented {c : Controller} {s : Status} (h : c.status.Documented) (hn : Next c s) :
    s.Documented := by
  cases hn with
  | moved now phase iface networks hp =>
    exact ⟨by simp [Controller.withPhase, hp], by simp [Controller.withPhase]⟩
  | failed now code message =>
    refine ⟨by simp [Controller.errorStatus], fun hcurrent => ?_⟩
    exact absurd rfl hcurrent
  | mobile now =>
    exact ⟨by simp [Controller.connectedStatus], by simp [Controller.connectedStatus]⟩
  | joined now info =>
    exact ⟨by simp [Controller.connectedStatus], by simp [Controller.connectedStatus]⟩
  | beat now => exact (heartbeatStatus_documented h now none).mpr (by simp)

theorem start_consistent (repr : Rendering) (r : Int × Request) {c : Controller}
    (h : Consistent c) : Consistent (start repr r c).1 := by
  rcases start_cases repr r c with hc | ⟨s, hs, hn⟩
  · rwa [hc]
  · rw [hs]
    exact (commit_consistent c s).mpr (hn.documented h.documented)

/-- What a resumed task may bring back without spoiling the status. -/
def Shows (c : Controller) (t : Point) (o : Outcome) : Prop :=
  t = .refreshing → (∃ info, o = .refreshed (some info)) → OnWlan c

theorem resume_consistent_iff {t : Point} {now : Int} {o : Outcome} {c : Controller}
    {r : Controller × Option Point} (h : Consistent c) (hr : resume t (now, o) c = some r) :
    Consistent r.1 ↔ Shows c t o := by
  by_cases hfresh : t = .refreshing ∧ ∃ info, o = .refreshed (some info)
  · obtain ⟨rfl, info, rfl⟩ := hfresh
    obtain rfl : (c.commit (c.heartbeatStatus now (some info)), some .lastTick) = r :=
      Option.some.inj hr
    rw [commit_consistent, heartbeatStatus_documented h.documented]
    simp [Shows]
  · have hshows : Shows c t o := fun ht ho => absurd ⟨ht, ho⟩ hfresh
    refine iff_of_true ?_ hshows
    rcases resume_cases hr with hc | ⟨s, hs, hn⟩ | ⟨info, ht, ho, -⟩
    · rwa [hc]
    · rw [hs]
      exact (commit_consistent c s).mpr (hn.documented h.documented)
    · exact absurd ⟨ht, info, ho⟩ hfresh

/-- No heartbeat is resumed with connection data after the gateway has left the network. -/
def HeartbeatInTime (s : System Controller Point) : Move (Int × Request) (Int × Outcome) → Prop
  | .call _ _ => True
  | .wake id (_, o) => ∀ t, s.task id = some t → Shows s.shared t o

theorem step_consistent_iff (repr : Rendering) {s s' : System Controller Point}
    {m : Move (Int × Request) (Int × Outcome)} (h : Consistent s.shared)
    (hstep : step (program repr) s m = some s') : Consistent s'.shared ↔ HeartbeatInTime s m := by
  obtain ⟨id, r, rfl, -, rfl⟩ | ⟨id, o, t, r, rfl, ht, hr, rfl⟩ := step_cases hstep
  · exact iff_of_true (start_consistent repr r h) trivial
  · obtain ⟨now, o⟩ := o
    rw [resume_consistent_iff h hr]
    constructor
    · intro hs u hu
      obtain rfl : t = u := Option.some.inj (ht.symm.trans hu)
      exact hs
    · intro hs
      exact hs t ht

/-- A run publishes a well-shaped status in every state exactly when every heartbeat in it
resumes in time. -/
theorem consistent_iff_heartbeatInTime (repr : Rendering) (now : Int)
    {path : List (System Controller Point × Move (Int × Request) (Int × Outcome))}
    {s : System Controller Point} (r : Run (step (program repr)) (boot (init now)) path s) :
    Always (fun s => Consistent s.shared) path s ↔ Meets HeartbeatInTime path :=
  r.always_iff (I := fun _ => True) (fun _ _ _ _ _ => trivial)
    (fun _ _ _ _ h hs => step_consistent_iff repr h hs) trivial (init_consistent now)

/-- A heartbeat that shows the connection it has read. -/
def plainHeartbeat : List (Move (Int × Request) (Int × Outcome)) :=
  [.call 0 (0, .connect "lift" "password" "wlan0"), .wake 0 (0, .sent),
   .wake 0 (0, .connected ⟨"connected", "lift", "10.0.0.2"⟩), .call 1 (0, .heartbeat),
   .wake 1 (0, .refreshed (some ⟨"lift", -50, "10.0.0.2"⟩))]

theorem consistent_plainHeartbeat : ∃ s : System Controller Point,
    Always (fun s => Consistent s.shared)
      (trace (step (program asciiOnly)) (boot (init 0)) plainHeartbeat) s := by
  cases hexec : exec (step (program asciiOnly)) (boot (init 0)) plainHeartbeat with
  | none => cases hexec
  | some s =>
    refine ⟨s, (consistent_iff_heartbeatInTime asciiOnly 0 (exec_run hexec)).mpr ?_⟩
    refine (meets_cons _ _ _).mpr ⟨trivial, (meets_cons _ _ _).mpr ⟨?_,
      (meets_cons _ _ _).mpr ⟨?_, (meets_cons _ _ _).mpr ⟨trivial,
        (meets_cons _ _ _).mpr ⟨?_, meets_nil _⟩⟩⟩⟩⟩
    · rintro t - - ⟨info, hinfo⟩
      cases hinfo
    · rintro t - - ⟨info, hinfo⟩
      cases hinfo
    · exact fun t _ _ _ => ⟨rfl, rfl⟩

/-- A heartbeat reads the connection, the lift owner disconnects, and the heartbeat then
publishes what it read as the current connection of a disconnected gateway. -/
def lateHeartbeat : List (Move (Int × Request) (Int × Outcome)) :=
  [.call 0 (0, .connect "lift" "password" "wlan0"), .wake 0 (0, .sent),
   .wake 0 (0, .connected ⟨"connected", "lift", "10.0.0.2"⟩), .call 1 (0, .heartbeat),
   .call 2 (0, .disconnect), .wake 2 (0, .disconnected),
   .wake 1 (0, .refreshed (some ⟨"lift", -50, "10.0.0.2"⟩))]

theorem not_always_consistent : ¬ ∀ (repr : Rendering) (now : Int) (path : List
    (System Controller Point × Move (Int × Request) (Int × Outcome)))
    (s : System Controller Point), Run (step (program repr)) (boot (init now)) path s →
    Always (fun s => Consistent s.shared) path s := by
  intro hall
  cases hexec : exec (step (program asciiOnly)) (boot (init 0)) lateHeartbeat with
  | none => cases hexec
  | some s =>
    have hshape := (hall asciiOnly 0 _ s (exec_run hexec)).last.documented.current_only
    cases hexec
    have hphase := (hshape (by simp [Controller.heartbeatStatus])).1
    cases hphase

end NexyGateway.WifiController
