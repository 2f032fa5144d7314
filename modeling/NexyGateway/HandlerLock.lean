import NexyGateway.BusExclusivity

/-!
# The handler lock is never lost

Whatever raises and whoever is cancelled, the handler lock is taken exactly while one task is
inside, that task lets go of it after two awaits at most, and then every task that waits can go on.
-/
namespace NexyGateway.LiftProxy

open Coroutines Runs

/-- Queued for the lock. -/
def Point.waitsForLock : Point → Bool
  | .bindWaiting .. | .pollWaiting .. | .accessWaiting _ => true
  | _ => false

/-- The lock has a holder who will let go of it. -/
structure Releases (s : System Proxy Point) : Prop where
  held : s.shared.locked = true ↔ ∃ i t, s.task i = some t ∧ t.holdsLock = true
  alone : ∀ i j t u, s.task i = some t → s.task j = some u → t.holdsLock = true →
    u.holdsLock = true → i = j
  /-- Only a verified write keeps the lock, for its read-back. -/
  letsGo : ∀ i t outcome s', s.task i = some t → t.holdsLock = true →
    step program s (.wake i outcome) = some s' →
      s'.shared.locked = false ∨
        t = .accessing .writeReadParam ∧ s'.task i = some .readingBack
  goesOn : s.shared.locked = false → ∀ i t, s.task i = some t → t.waitsForLock = true →
    ∃ s', step program s (.wake i .acquired) = some s'

variable {s : System Proxy Point}

@[simp] theorem release_locked (c : Proxy) : c.release.locked = false := rfl

theorem roundFailed_locked (who : Round) (c : Proxy) :
    (roundFailed who c).1.locked = c.locked := by
  cases who with
  | startup => rfl
  | background =>
    simp only [roundFailed, reidentify]
    split <;> rfl

theorem pollFailed_locked (who : Caller) (c : Proxy) :
    (pollFailed who c).1.locked = c.locked := by
  cases who <;> rfl

theorem detected_locked (who : Round) (handler : Handler) (loser : Option Handler) (code : String)
    (c : Proxy) : (detected who handler loser code c).1.locked = false := by
  unfold detected
  split_ifs
  · exact (publish_free ..).1
  · exact (publish_free ..).1
  · exact roundFailed_locked who c.release

theorem pollReturned_locked (who : Caller) (changed : List Int) (c : Proxy) :
    (pollReturned who changed c).1.locked = false := by
  unfold pollReturned
  cases who with
  | consumer => rfl
  | loop =>
    dsimp only
    split <;> rfl

/-- The end of an await inside of the lock. -/
theorem resume_inside {t : Point} {outcome : Outcome} {c : Proxy} {r : Proxy × Option Point}
    (hold : t.holdsLock = true) (h : resume t outcome c = some r) :
    r.1.locked = false ∨ t = .accessing .writeReadParam ∧ r.2 = some .readingBack := by
  by_cases hcancelled : outcome = .cancelled
  · subst hcancelled
    cases t with
    | detecting | polling | accessing | readingBack =>
      cases h
      exact .inl rfl
    | _ => cases hold
  cases t with
  | detecting who handler loser =>
    cases outcome with
    | answered code =>
      cases h
      exact .inl (detected_locked who handler loser code c)
    | raised =>
      cases h
      exact .inl (roundFailed_locked who c.release)
    | cancelled => exact absurd rfl hcancelled
    | _ => cases h
  | polling who =>
    cases outcome with
    | polled changed =>
      cases h
      exact .inl (pollReturned_locked who changed c)
    | raised =>
      cases h
      exact .inl (pollFailed_locked who c.release)
    | cancelled => exact absurd rfl hcancelled
    | _ => cases h
  | accessing kind =>
    cases outcome with
    | accessed status =>
      obtain rfl := Option.some.inj h
      unfold accessReturned
      split
      · rename_i hverified
        exact .inr ⟨by rw [hverified.1], rfl⟩
      · exact .inl rfl
    | raised =>
      cases h
      exact .inl rfl
    | cancelled => exact absurd rfl hcancelled
    | _ => cases h
  | readingBack =>
    cases outcome with
    | accessed status =>
      cases h
      exact .inl rfl
    | raised =>
      cases h
      exact .inl rfl
    | cancelled => exact absurd rfl hcancelled
    | _ => cases h
  | _ => cases hold

theorem releases_of_held (hexcl : Exclusive Proxy.locked Point.holdsLock s)
    (hheld : Held Proxy.locked Point.holdsLock s) : Releases s where
  held := ⟨hheld, fun ⟨i, t, ht, hold⟩ => hexcl.taken i t ht hold⟩
  alone := hexcl.alone
  letsGo i t outcome s' ht hold hstep := by
    obtain ⟨id, request, hm, -⟩ | ⟨id, o, u, r, hm, hu, hr, rfl⟩ := step_cases hstep
    · cases hm
    · cases hm
      obtain rfl := Option.some.inj (ht.symm.trans hu)
      rcases resume_inside hold hr with hfree | ⟨ht', hr'⟩
      · exact .inl hfree
      · exact .inr ⟨ht', (assign_same _ _ _).trans hr'⟩
  goesOn hfree i t ht hwaits := by
    have hresume : ∃ r, resume t .acquired s.shared = some r := by
      cases t with
      | bindWaiting | pollWaiting | accessWaiting => exact ⟨_, by simp only [resume, hfree]; rfl⟩
      | _ => cases hwaits
    obtain ⟨r, hr⟩ := hresume
    exact ⟨_, by simp only [step, ht, Option.bind_some, program, hr]; rfl⟩

/-- In every state of every run, with any outcomes and any cancellations, the handler lock is
either free for whoever waits, or held by one task that gives it back after two awaits at most. -/
theorem lock_never_lost {path : List (System Proxy Point × Move Request Outcome)}
    {s : System Proxy Point} (r : Run (step program) (boot createHandlers) path s) :
    Always Releases path s := by
  have hall := r.inductive_invariant
    (I := fun s => Exclusive Proxy.locked Point.holdsLock s ∧ Held Proxy.locked Point.holdsLock s)
    (fun s m s' h hstep =>
      ⟨program_locking.exclusive h.1 hstep, program_locking.held h.1 h.2 hstep⟩)
    ⟨boot_exclusive _, fun h => by cases h⟩
  exact hall.mono fun s h => releases_of_held h.1 h.2

/-- A poll that is cancelled while a write waits for the lock. -/
def cancelledPoll : List (Move Request Outcome) :=
  oneKRound ++ [.call 1 (.pollParams false), .wake 1 .acquired, .call 2 (.access .writeParam),
    .wake 1 .cancelled, .wake 2 .acquired]

theorem lock_never_lost_cancelledPoll : ∃ s : System Proxy Point,
    s.task 2 = some (.accessing .writeParam) ∧
      Always Releases (trace (step program) (boot createHandlers) cancelledPoll) s := by
  cases hexec : exec (step program) (boot createHandlers) cancelledPoll with
  | none => cases hexec
  | some s =>
    refine ⟨s, ?_, lock_never_lost (exec_run hexec)⟩
    cases hexec
    rfl

end NexyGateway.LiftProxy
