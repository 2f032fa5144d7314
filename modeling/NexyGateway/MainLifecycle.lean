import NexyGateway.Provisioning

/-!
# From start to exit

`main` around `provision_and_connect`: what is created behind the connected client, the
loops that run until one of them raises, and the `finally` block. Every await may be
cancelled. What is left behind at the exit is told by where a cancellation has come in.
-/
namespace NexyGateway.MainLifecycle

open Runs
open Provisioning (Action Live Outcome Owned connectBackoffInitialS connectBackoffMaxS)

/-- How `main` comes to its end. -/
inductive Ending where
  | returned | raised | cancelled
  deriving DecidableEq, Repr

/-- The await that `main` is suspended in; the client is the one that is connected. -/
inductive Stage where
  | provisioning (p : Provisioning.State)
  | creatingProxy (client : Nat)
  | readingTwin (client backoff : Nat)
  | twinPause (client backoff : Nat)
  | startingServer (client : Nat)
  | running (client : Nat)
  | stoppingServer (client : Nat) (ending : Ending)
  | shuttingDown (client : Nat) (ending : Ending)
  | ended (ending : Ending)
  deriving DecidableEq

inductive Server where
  | absent | built | stopped
  deriving DecidableEq, Repr

structure Main where
  stage : Stage
  server : Server
  /-- What was done with the cloud clients. -/
  log : List Action
  deriving DecidableEq

def init : Main := ⟨.provisioning Provisioning.init, .absent, []⟩

inductive Event where
  | provision (outcome : Outcome)
  | proxyCreated
  /-- The twin was read; the handlers may fail to be built, and so may the server. -/
  | twinRead (handlers server : Bool)
  | twinFailed
  | slept
  | serverStarted (failed : Bool)
  | gathered
  | raised
  | serverStopped (failed : Bool)
  | shutDown (failed : Bool)
  | cancelled
  deriving DecidableEq

/-- The connected client ends the first stage. -/
def afterProvision (p : Provisioning.State) : Stage :=
  match p.stage with
  | .returned c => .creatingProxy c
  | _ => .provisioning p

/-- The `finally` block; what its calls raise is logged. -/
def Main.finally (client : Nat) (ending : Ending) (s : Main) : Main :=
  match s.server with
  | .built => { s with stage := .stoppingServer client ending }
  | _ => { s with stage := .shuttingDown client ending }

/-- The stretch from the twin's answer to the next await. -/
def Main.initHandlers (client : Nat) (handlers server : Bool) (s : Main) : Main :=
  if !handlers then s.finally client .raised
  else if server then { s with stage := .startingServer client, server := .built }
  else { s with stage := .running client }

/-- The client of a stage inside the `try` block. -/
def Stage.guarded : Stage → Option Nat
  | .creatingProxy c | .readingTwin c _ | .twinPause c _ | .startingServer c | .running c => some c
  | _ => none

def step (s : Main) : Event → Option Main
  | .provision outcome =>
    match s.stage with
    | .provisioning p => (Provisioning.step p outcome).map fun q =>
        { s with stage := afterProvision q, log := q.log }
    | _ => none
  | .proxyCreated =>
    match s.stage with
    | .creatingProxy c => some { s with stage := .readingTwin c connectBackoffInitialS }
    | _ => none
  | .twinRead handlers server =>
    match s.stage with
    | .readingTwin c _ => some (s.initHandlers c handlers server)
    | _ => none
  | .twinFailed =>
    match s.stage with
    | .readingTwin c backoff => some { s with stage := .twinPause c backoff }
    | _ => none
  | .slept =>
    match s.stage with
    | .twinPause c backoff =>
      some { s with stage := .readingTwin c (min (backoff * 2) connectBackoffMaxS) }
    | _ => none
  | .serverStarted _ =>
    match s.stage with
    | .startingServer c => some { s with stage := .running c }
    | _ => none
  | .gathered =>
    match s.stage with
    | .running c => some (s.finally c .returned)
    | _ => none
  | .raised =>
    match s.stage with
    | .creatingProxy c | .running c => some (s.finally c .raised)
    | _ => none
  | .serverStopped _ =>
    match s.stage with
    | .stoppingServer c ending => some { s with stage := .shuttingDown c ending, server := .stopped }
    | _ => none
  | .shutDown _ =>
    match s.stage with
    | .shuttingDown c ending => some { s with stage := .ended ending, log := s.log ++ [.shutDown c] }
    | _ => none
  | .cancelled =>
    match s.stage with
    | .ended _ => none
    | stage =>
      match stage.guarded with
      | some c => some (s.finally c .cancelled)
      | none => some { s with stage := .ended .cancelled }

/-! ### What is left at the exit -/

/-- The client that `main` has to shut down before it ends. -/
def Stage.client : Stage → Option Nat
  | .provisioning p => p.stage.client
  | .creatingProxy c | .readingTwin c _ | .twinPause c _ | .startingServer c | .running c
  | .stoppingServer c _ | .shuttingDown c _ => some c
  | .ended _ => none

/-- The client of a stage that a cancellation leaves without another shutdown: the connect is
not behind the `try` yet, or the `finally` block is what is cancelled. -/
def Stage.exposed : Stage → Option Nat
  | .provisioning p => p.stage.client
  | .stoppingServer c _ | .shuttingDown c _ => some c
  | _ => none

def Leaks (s : Main) (e : Event) : Prop := e = .cancelled ∧ s.stage.exposed.isSome = true

/-- Every client that was created has been shut down, and the server has been stopped. -/
structure Clean (s : Main) : Prop where
  clients : ∀ c, ¬ Live s.log c
  server : s.server ≠ .built

/-- What a log of client actions comes to. -/
structure Holds (log : List Action) (client : Option Nat) : Prop where
  live_iff : ∀ c, Live log c ↔ client = some c
  once : ∀ c, log.count (.shutDown c) ≤ 1

structure Sound (s : Main) : Prop where
  holds : (∀ ending, s.stage ≠ .ended ending) → Holds s.log s.stage.client
  once : ∀ c, s.log.count (.shutDown c) ≤ 1
  provisioning : ∀ p, s.stage = .provisioning p → s.log = p.log ∧ Owned p ∧ s.server = .absent
  stopped : ∀ c ending, s.stage = .shuttingDown c ending → s.server ≠ .built

/-- The steps by what they do to the clients. -/
inductive Stepped (s : Main) : Event → Main → Prop
  | provision (p q : Provisioning.State) (outcome : Outcome) (hstage : s.stage = .provisioning p)
      (hq : Provisioning.step p outcome = some q) : Stepped s (.provision outcome)
        { s with stage := afterProvision q, log := q.log }
  /-- The connected client is kept. -/
  | moved (e : Event) (t : Main) (c : Nat) (hclient : s.stage.client = some c)
      (hkept : t.stage.client = some c) (hlog : t.log = s.log) (hleaks : ¬ Leaks s e)
      (hprovision : ∀ p, t.stage ≠ .provisioning p)
      (hstopped : ∀ c ending, t.stage = .shuttingDown c ending → t.server ≠ .built) :
      Stepped s e t
  | shutDown (failed : Bool) (c : Nat) (ending : Ending) (hstage : s.stage = .shuttingDown c ending) :
      Stepped s (.shutDown failed)
        { s with stage := .ended ending, log := s.log ++ [.shutDown c] }
  | cut (hlive : ∀ ending, s.stage ≠ .ended ending) (hguarded : s.stage.guarded = none) :
      Stepped s .cancelled { s with stage := .ended .cancelled }

section Steps

variable {s t : Main} {e : Event}

theorem owned_holds {p : Provisioning.State} (h : Owned p) : Holds p.log p.stage.client where
  live_iff := h.live_iff
  once c := by
    rw [h.shut c]
    split <;> decide

theorem Holds.shutDown {log : List Action} {c : Nat} (h : Holds log (some c)) :
    Holds (log ++ [.shutDown c]) none where
  live_iff d := by
    refine iff_of_false (fun hlive => ?_) (by simp)
    obtain ⟨hcreated, hkept⟩ := hlive
    have hlog : .created d ∈ log ∧ .shutDown d ∉ log ∧ d ≠ c := by
      simpa [and_assoc] using And.intro hcreated hkept
    exact hlog.2.2 (Option.some.inj ((h.live_iff d).mp ⟨hlog.1, hlog.2.1⟩)).symm
  once d := by
    rw [List.count_append, List.count_singleton]
    by_cases hd : c = d
    · subst hd
      have hnone := List.count_eq_zero.mpr ((h.live_iff c).mpr rfl).2
      simp [hnone]
    · simpa [hd] using h.once d

theorem client_of_guarded {stage : Stage} {c : Nat} (h : stage.guarded = some c) :
    stage.client = some c ∧ stage.exposed = none := by
  cases stage <;> cases h <;> exact ⟨rfl, rfl⟩

/-- The `finally` block starts with the client, and stops the server before the client. -/
theorem finally_moves {c : Nat} (hclient : s.stage.guarded = some c) (ending : Ending) :
    Stepped s e (s.finally c ending) := by
  obtain ⟨hheld, hexposed⟩ := client_of_guarded hclient
  have hleaks : ¬ Leaks s e := fun h => by simp [Leaks, hexposed] at h
  unfold Main.finally
  split
  · exact .moved e _ c hheld rfl rfl hleaks (by simp) (by simp)
  · rename_i hserver
    exact .moved e _ c hheld rfl rfl hleaks (by simp) fun _ _ _ => hserver

theorem step_cases (hstep : step s e = some t) : Stepped s e t := by
  obtain ⟨stage, server, log⟩ := s
  cases e with
  | provision outcome =>
    cases stage with
    | provisioning p =>
      obtain ⟨q, hq, rfl⟩ := Option.map_eq_some_iff.mp hstep
      exact .provision p q outcome rfl hq
    | _ => cases hstep
  | proxyCreated =>
    cases stage <;> cases hstep
    exact .moved _ _ _ rfl rfl rfl (by simp [Leaks]) (by simp) (by simp)
  | twinRead handlers server =>
    cases stage with
    | readingTwin c backoff =>
      cases hstep
      unfold Main.initHandlers
      split_ifs
      · exact finally_moves rfl .raised
      · exact .moved _ _ c rfl rfl rfl (by simp [Leaks]) (by simp) (by simp)
      · exact .moved _ _ c rfl rfl rfl (by simp [Leaks]) (by simp) (by simp)
    | _ => cases hstep
  | twinFailed =>
    cases stage <;> cases hstep
    exact .moved _ _ _ rfl rfl rfl (by simp [Leaks]) (by simp) (by simp)
  | slept =>
    cases stage <;> cases hstep
    exact .moved _ _ _ rfl rfl rfl (by simp [Leaks]) (by simp) (by simp)
  | serverStarted failed =>
    cases stage <;> cases hstep
    exact .moved _ _ _ rfl rfl rfl (by simp [Leaks]) (by simp) (by simp)
  | gathered =>
    cases stage <;> cases hstep
    exact finally_moves rfl .returned
  | raised =>
    cases stage <;> cases hstep
    · exact finally_moves rfl .raised
    · exact finally_moves rfl .raised
  | serverStopped failed =>
    cases stage <;> cases hstep
    exact .moved _ _ _ rfl rfl rfl (by simp [Leaks]) (by simp) (by simp)
  | shutDown failed =>
    cases stage <;> cases hstep
    exact .shutDown failed _ _ rfl
  | cancelled =>
    cases stage with
    | creatingProxy c | readingTwin c backoff | twinPause c backoff | startingServer c | running c =>
      cases hstep
      exact finally_moves rfl .cancelled
    | ended ending => cases hstep
    | _ =>
      cases hstep
      exact .cut (by simp) rfl

theorem afterProvision_cases (q : Provisioning.State) :
    (∃ c, q.stage = .returned c ∧ afterProvision q = .creatingProxy c) ∨
      afterProvision q = .provisioning q := by
  unfold afterProvision
  split
  · rename_i c hstage
    exact .inl ⟨c, hstage, rfl⟩
  · exact .inr rfl

theorem step_sound (h : Sound s) (hstep : step s e = some t) : Sound t := by
  cases step_cases hstep with
  | provision p q outcome hstage hq =>
    obtain ⟨-, howned, habsent⟩ := h.provisioning p hstage
    have hheld := owned_holds (Provisioning.step_owned howned hq)
    rcases afterProvision_cases q with ⟨c, hreturned, hafter⟩ | hafter
    · rw [hreturned] at hheld
      refine ⟨fun _ => ?_, hheld.once, fun p' hp' => ?_, fun c' ending hc' => ?_⟩
      · rw [hafter]
        exact hheld
      · simp [hafter] at hp'
      · simp [hafter] at hc'
    · refine ⟨fun _ => ?_, hheld.once, fun p' hp' => ?_, fun c' ending hc' => ?_⟩
      · rw [hafter]
        exact hheld
      · rw [hafter] at hp'
        cases hp'
        exact ⟨rfl, Provisioning.step_owned howned hq, habsent⟩
      · simp [hafter] at hc'
  | moved e t c hclient hkept hlog hleaks hprovision hstopped =>
    have hlive : ∀ ending, s.stage ≠ .ended ending := by
      intro ending hended
      simp [hended, Stage.client] at hclient
    refine ⟨fun _ => ?_, fun d => ?_, fun p hp => absurd hp (hprovision p), hstopped⟩
    · rw [hlog, hkept, ← hclient]
      exact h.holds hlive
    · rw [hlog]
      exact h.once d
  | shutDown failed c ending hstage =>
    have hheld : Holds s.log (some c) := by
      have := h.holds (by simp [hstage])
      rwa [hstage] at this
    exact ⟨fun hlive => absurd rfl (hlive ending), hheld.shutDown.once, by simp, by simp⟩
  | cut hlive hguarded =>
    exact ⟨fun hended => absurd rfl (hended .cancelled), h.once, by simp, by simp⟩

/-- An exit is clean unless a cancellation has come in where nothing follows it. -/
theorem step_clean_iff (h : Sound s) (hstep : step s e = some t) :
    (∀ ending, t.stage = .ended ending → Clean t) ↔ ¬ Leaks s e := by
  cases step_cases hstep with
  | provision p q outcome hstage hq =>
    refine iff_of_true (fun ending hended => ?_) (by simp [Leaks])
    rcases afterProvision_cases q with ⟨c, -, hafter⟩ | hafter <;> simp [hafter] at hended
  | moved e t c hclient hkept hlog hleaks =>
    refine iff_of_true (fun ending hended => ?_) hleaks
    simp [hended, Stage.client] at hkept
  | shutDown failed c ending hstage =>
    refine iff_of_true (fun _ _ => ⟨fun d => ?_, h.stopped c ending hstage⟩) (by simp [Leaks])
    have hheld : Holds s.log (some c) := by
      have := h.holds (by simp [hstage])
      rwa [hstage] at this
    exact fun hd => by cases (hheld.shutDown.live_iff d).mp hd
  | cut hlive hguarded =>
    have hheld := h.holds hlive
    have hexit : (∀ ending, Stage.ended .cancelled = .ended ending →
        Clean { s with stage := .ended .cancelled }) ↔
        Clean { s with stage := .ended .cancelled } :=
      ⟨fun hall => hall .cancelled rfl, fun hc _ _ => hc⟩
    rw [hexit]
    -- the cases are those of `exposed`
    cases hstage : s.stage with
    | provisioning p =>
      rw [hstage] at hheld
      obtain ⟨-, -, habsent⟩ := h.provisioning p hstage
      cases hclient : p.stage.client with
      | none =>
        refine iff_of_true ⟨fun c hc => ?_, by simp [habsent]⟩ ?_
        · have := (hheld.live_iff c).mp hc
          simp [Stage.client, hclient] at this
        · simp [Leaks, hstage, Stage.exposed, hclient]
      | some c =>
        refine iff_of_false (fun hc => hc.clients c ((hheld.live_iff c).mpr hclient)) ?_
        simp [Leaks, hstage, Stage.exposed, hclient]
    | stoppingServer c ending | shuttingDown c ending =>
      rw [hstage] at hheld
      refine iff_of_false (fun hc => hc.clients c ((hheld.live_iff c).mpr rfl)) ?_
      simp [Leaks, hstage, Stage.exposed]
    | ended ending => exact absurd hstage (hlive ending)
    | _ => simp [hstage, Stage.guarded] at hguarded

theorem init_sound : Sound init where
  holds _ := owned_holds Provisioning.owned_init
  once _ := by simp [init]
  provisioning p hp := by
    cases hp
    exact ⟨rfl, Provisioning.owned_init, rfl⟩
  stopped _ _ h := by cases h

/-- However the run goes, no client is shut down twice; and at the exit every client that was
ever created has been shut down and the server stopped, unless `main` was cancelled while it
was provisioning with a client, or in its `finally` block. -/
theorem exit_clean_iff {path : List (Main × Event)} {s : Main} (r : Run step init path s) :
    Always (fun s => ∀ c, s.log.count (.shutDown c) ≤ 1) path s ∧
      (Always (fun s => ∀ ending, s.stage = .ended ending → Clean s) path s ↔
        Meets (fun s e => ¬ Leaks s e) path) := by
  refine ⟨(r.inductive_invariant (fun _ _ _ h hstep => step_sound h hstep) init_sound).mono
    fun _ h => h.once, ?_⟩
  exact r.always_iff (I := Sound) (fun _ _ _ h hstep => step_sound h hstep)
    (fun _ _ _ h _ hstep => step_clean_iff h hstep) init_sound (by simp [init])

/-- A fatal exception in one of the loops, and a cancellation while the server is stopped. -/
def interrupted : List Event :=
  [.provision .client, .provision .connected, .proxyCreated, .twinFailed, .slept,
    .twinRead true true, .serverStarted false, .raised, .cancelled]

theorem exit_clean_iff_interrupted : ∃ s : Main, s.stage = .ended .cancelled ∧ Live s.log 0 ∧
    Always (fun s => ∀ c, s.log.count (.shutDown c) ≤ 1) (trace step init interrupted) s ∧
      (Always (fun s => ∀ ending, s.stage = .ended ending → Clean s)
        (trace step init interrupted) s ↔
          Meets (fun s e => ¬ Leaks s e) (trace step init interrupted)) := by
  have hexec : exec step init interrupted =
      some ⟨.ended .cancelled, .built, [.created 0, .connected 0]⟩ := by decide
  exact ⟨_, rfl, ⟨by decide, by decide⟩, exit_clean_iff (exec_run hexec)⟩

end Steps

end NexyGateway.MainLifecycle
