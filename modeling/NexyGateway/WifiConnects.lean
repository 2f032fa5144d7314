import NexyGateway.WifiShape

/-!
# Overlapping connect attempts

The guard of `request_connect` reads only the phase, which other requests rewrite
while an attempt is under way. As long as the phase is still CONNECTING whenever
the next attempt is asked for, no two attempts overlap.
-/
namespace NexyGateway.WifiController

open Coroutines Runs
open PyRepr (Rendering asciiOnly)

/-- The task has passed the guard and its command has not come back yet. -/
def Point.attempting : Point → Bool
  | .connectAnnounced _ _ => true
  | .connecting _ _ => true
  | _ => false

/-- The task awaits `WifiCli.connect`. -/
def Point.inFlight : Point → Bool
  | .connecting _ _ => true
  | _ => false

theorem Point.attempting_of_inFlight {t : Point} (h : t.inFlight = true) : t.attempting = true := by
  cases t <;> simp_all [Point.inFlight, Point.attempting]

def AtMostOne (p : Point → Bool) (s : System Controller Point) : Prop :=
  ∀ i j t u, s.task i = some t → s.task j = some u → p t = true → p u = true → i = j

theorem AtMostOne.mono {p q : Point → Bool} (hpq : ∀ t, q t = true → p t = true)
    {s : System Controller Point} (h : AtMostOne p s) : AtMostOne q s :=
  fun i j t u ht hu hqt hqu => h i j t u ht hu (hpq t hqt) (hpq u hqu)

def Attempting (s : System Controller Point) : Prop :=
  ∃ i t, s.task i = some t ∧ t.attempting = true

/-- A request that reaches the guard of `request_connect`. -/
def Request.reachesGuard : Request → Bool
  | .connect _ psk iface => decide (iface = "wlan0" ∧ minPskLen ≤ psk.length)
  | _ => false

/-- A first stretch starts an attempt exactly when it reaches the guard and passes it. -/
theorem start_attempting (repr : Rendering) (now : Int) (request : Request)
    (c : Controller) :
    (∃ t, (start repr (now, request) c).2 = some t ∧ t.attempting = true) ↔
      request.reachesGuard = true ∧ c.status.phase ≠ .connecting := by
  cases request with
  | scan force =>
    simp only [start, requestScan]
    split <;> simp [Request.reachesGuard, Point.attempting]
  | connect ssid psk iface =>
    simp only [start, requestConnect, Request.reachesGuard, decide_eq_true_eq]
    by_cases hmem : iface ∈ supportedIfaces
    · by_cases hppp : iface = "ppp0"
      · subst hppp
        simp [supportedIfaces, Point.attempting]
      · obtain rfl : iface = "wlan0" := by simpa [supportedIfaces, hppp] using hmem
        by_cases hpsk : psk.length < minPskLen
        · simp [supportedIfaces, hpsk, Point.attempting, Nat.not_le.mpr hpsk]
        · by_cases hphase : c.status.phase = .connecting
          · simp [supportedIfaces, hpsk, hphase]
          · simp [supportedIfaces, hpsk, hphase, Point.attempting, Nat.not_lt.mp hpsk]
    · have hne : iface ≠ "wlan0" := by
        rintro rfl
        simp [supportedIfaces] at hmem
      simp [hmem, hne, Point.attempting]
  | invalid message => simp [start, Request.reachesGuard, Point.attempting]
  | disconnect => simp [start, Request.reachesGuard, Point.attempting]
  | heartbeat =>
    simp only [start, heartbeatTick]
    split <;> simp [Request.reachesGuard, Point.attempting]

/-- A resumed task is in an attempt only if it was in one before. -/
theorem resume_attempting {t u : Point} {o : Int × Outcome} {c c' : Controller}
    (h : resume t o c = some (c', some u)) (hu : u.attempting = true) : t.attempting = true := by
  unfold resume at h
  split at h <;> simp_all [Point.attempting]
  all_goals
    obtain ⟨-, rfl⟩ := h
    simp at hu

/-- When an attempt is asked for during another one, the phase still says CONNECTING. -/
def GuardHolds (s : System Controller Point) : Move (Int × Request) (Int × Outcome) → Prop
  | .call _ (_, request) =>
    request.reachesGuard = true → Attempting s → s.shared.status.phase = .connecting
  | .wake _ _ => True

theorem step_oneAttempt_iff (repr : Rendering) {s s' : System Controller Point}
    {m : Move (Int × Request) (Int × Outcome)} (h : AtMostOne Point.attempting s)
    (hstep : step (program repr) s m = some s') :
    AtMostOne Point.attempting s' ↔ GuardHolds s m := by
  obtain ⟨id, ⟨now, request⟩, rfl, hfree, rfl⟩ | ⟨id, o, t, ⟨c', next⟩, rfl, ht, hr, rfl⟩ :=
    step_cases hstep
  · have hstart := start_attempting repr now request s.shared
    constructor
    · -- a second attempt next to a running one would be two
      rintro hone hguard ⟨i, t, ht, hatt⟩
      by_contra hphase
      obtain ⟨u, hu, huatt⟩ := hstart.mpr ⟨hguard, hphase⟩
      have hne : i ≠ id := by rintro rfl; simp [hfree] at ht
      exact hne (hone i id t u ((assign_other _ _ hne).trans ht) ((assign_same _ _ _).trans hu)
        hatt huatt)
    · intro hguard i j u v hu hv hau hav
      rcases assign_cases hu with ⟨rfl, hnew⟩ | ⟨hi, hold⟩ <;>
        rcases assign_cases hv with ⟨rfl, hnew'⟩ | ⟨hj, hold'⟩
      · rfl
      · obtain ⟨hreach, hphase⟩ := hstart.mp ⟨u, hnew, hau⟩
        exact absurd (hguard hreach ⟨j, v, hold', hav⟩) hphase
      · obtain ⟨hreach, hphase⟩ := hstart.mp ⟨v, hnew', hav⟩
        exact absurd (hguard hreach ⟨i, u, hold, hau⟩) hphase
      · exact h i j u v hold hold' hau hav
  · refine iff_of_true ?_ trivial
    -- the resumed task stands for itself: it is in an attempt only if it was in one
    have hback : ∀ i u, assign s.task id next i = some u → u.attempting = true →
        ∃ w, s.task i = some w ∧ w.attempting = true := by
      intro i u hu hatt
      rcases assign_cases hu with ⟨rfl, rfl⟩ | ⟨-, hold⟩
      · exact ⟨t, ht, resume_attempting hr hatt⟩
      · exact ⟨u, hold, hatt⟩
    intro i j u v hu hv hau hav
    obtain ⟨w, hw, haw⟩ := hback i u hu hau
    obtain ⟨x, hx, hax⟩ := hback j v hv hav
    exact h i j w x hw hx haw hax

theorem boot_atMostOne (p : Point → Bool) (c : Controller) : AtMostOne p (boot c) := by
  intro i j t u ht
  simp at ht

/-- Attempts never overlap in a run exactly when the guard holds at each of its steps. -/
theorem oneAttempt_iff_guardHolds (repr : Rendering) (now : Int)
    {path : List (System Controller Point × Move (Int × Request) (Int × Outcome))}
    {s : System Controller Point} (r : Run (step (program repr)) (boot (init now)) path s) :
    Always (AtMostOne Point.attempting) path s ↔ Meets GuardHolds path :=
  r.always_iff (I := fun _ => True) (fun _ _ _ _ _ => trivial)
    (fun _ _ _ _ h hs => step_oneAttempt_iff repr h hs) trivial (boot_atMostOne _ _)

/-- In a run whose guard holds at every step, at most one connect command is in flight. -/
theorem oneInFlight_of_guardHolds (repr : Rendering) (now : Int)
    {path : List (System Controller Point × Move (Int × Request) (Int × Outcome))}
    {s : System Controller Point} (r : Run (step (program repr)) (boot (init now)) path s)
    (h : Meets GuardHolds path) : Always (AtMostOne Point.inFlight) path s :=
  ((oneAttempt_iff_guardHolds repr now r).mpr h).mono
    (fun _ hs => hs.mono (fun _ => Point.attempting_of_inFlight))

/-- A retry that finds the first attempt under way. -/
def plainRetry : List (Move (Int × Request) (Int × Outcome)) :=
  [.call 0 (0, .connect "lift" "password" "wlan0"), .wake 0 (0, .sent),
   .call 1 (0, .connect "lift" "password" "wlan0")]

theorem oneInFlight_plainRetry : ∃ s,
    Meets GuardHolds (trace (step (program asciiOnly)) (boot (init 0)) plainRetry) ∧
    Always (AtMostOne Point.inFlight)
      (trace (step (program asciiOnly)) (boot (init 0)) plainRetry) s := by
  cases hexec : exec (step (program asciiOnly)) (boot (init 0)) plainRetry with
  | none => cases hexec
  | some s =>
    have hguard : Meets GuardHolds
        (trace (step (program asciiOnly)) (boot (init 0)) plainRetry) := by
      refine (meets_cons _ _ _).mpr ⟨?_, (meets_cons _ _ _).mpr ⟨trivial,
        (meets_cons _ _ _).mpr ⟨?_, meets_nil _⟩⟩⟩
      · rintro - ⟨i, t, ht, -⟩
        simp at ht
      · exact fun _ _ => rfl
    exact ⟨s, hguard, oneInFlight_of_guardHolds asciiOnly 0 (exec_run hexec) hguard⟩

/-- A forced scan during an attempt hides the attempt from the guard. -/
def hiddenAttempt : List (Move (Int × Request) (Int × Outcome)) :=
  [.call 0 (0, .connect "lift" "password" "wlan0"), .wake 0 (0, .sent), .call 1 (0, .scan true),
   .call 2 (0, .connect "lift" "passw0rd" "wlan0"), .wake 2 (0, .sent)]

theorem not_always_oneInFlight : ¬ ∀ (repr : Rendering) (now : Int) (path : List
    (System Controller Point × Move (Int × Request) (Int × Outcome)))
    (s : System Controller Point), Run (step (program repr)) (boot (init now)) path s →
    Always (AtMostOne Point.inFlight) path s := by
  intro hall
  cases hexec : exec (step (program asciiOnly)) (boot (init 0)) hiddenAttempt with
  | none => cases hexec
  | some s =>
    have hone := (hall asciiOnly 0 _ s (exec_run hexec)).last
    cases hexec
    exact absurd (hone 0 2 _ _ rfl rfl rfl rfl) (by decide)

end NexyGateway.WifiController
