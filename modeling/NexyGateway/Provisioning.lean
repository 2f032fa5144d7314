import NexyGateway.Runs
import Mathlib.Data.List.Chain

/-!
# Provisioning at startup

`provision_and_connect` runs two nested retry loops that share one backoff, and keeps at most
one device client. A run of the model takes one outcome after the other, for as long as they
keep coming, and its log tells what the function has done.
-/
namespace NexyGateway.Provisioning

open Runs

def connectBackoffInitialS : Nat := 1
def connectBackoffMaxS : Nat := 60
def connectAttemptsPerProvision : Nat := 3

inductive Level where
  | error
  | warning
  deriving DecidableEq, Repr

structure LogLine where
  level : Level
  text : String
  deriving DecidableEq, Repr

/-- Only the first failure of a stage is logged as an error, with its traceback. -/
def logRetry (step error : String) (backoff : Nat) (firstFailure : Bool) : LogLine where
  level := if firstFailure then .error else .warning
  text := step ++ " failed, retrying in ~" ++ toString backoff ++ "s: " ++ error

/-- `slept b` is a sleep of `_jittered(b)`. -/
inductive Action where
  | provisionFailed (line : LogLine)
  | created (c : Nat)
  | connectFailed (c : Nat) (line : LogLine)
  | connected (c : Nat)
  | slept (backoff : Nat)
  | shutDown (c : Nat)
  deriving DecidableEq, Repr

/-- Where the function waits: for DPS and the client, for the sleep after a failure there, for
attempt `tries + 1` of a client, for the sleep after attempt `tries`, for the shutdown. -/
inductive Stage where
  | provisioning
  | provisionPause
  | connecting (c : Nat) (tries : Nat)
  | connectPause (c : Nat) (tries : Nat)
  | discarding (c : Nat)
  | returned (c : Nat)
  deriving DecidableEq, Repr

structure State where
  stage : Stage
  backoff : Nat
  firstFailure : Bool
  clients : Nat
  log : List Action
  deriving DecidableEq, Repr

/-- A failed shutdown is logged and dropped by `_shutdown_client`. -/
inductive Outcome where
  | client
  | provisionError (error : String)
  | connected
  | connectError (error : String)
  | slept
  | shutDown (failed : Bool)
  deriving DecidableEq, Repr

def init : State where
  stage := .provisioning
  backoff := connectBackoffInitialS
  firstFailure := true
  clients := 0
  log := []

def State.retry (s : State) (stage : Stage) : State :=
  { s with
    stage := stage
    backoff := min (s.backoff * 2) connectBackoffMaxS
    log := s.log ++ [.slept s.backoff] }

/-- The body of the inner loop is entered again, or the loop is over. -/
def nextAttempt (c : Nat) (tries : Nat) : Stage :=
  if tries < connectAttemptsPerProvision then .connecting c tries else .discarding c

def step (s : State) : Outcome → Option State
  | .client =>
    match s.stage with
    | .provisioning => some
      { stage := nextAttempt s.clients 0
        backoff := connectBackoffInitialS
        firstFailure := true
        clients := s.clients + 1
        log := s.log ++ [.created s.clients] }
    | _ => none
  | .provisionError e =>
    match s.stage with
    | .provisioning => some
      { s with
        stage := .provisionPause
        firstFailure := false
        log := s.log ++ [.provisionFailed (logRetry "Provisioning" e s.backoff s.firstFailure)] }
    | _ => none
  | .connected =>
    match s.stage with
    | .connecting c _ => some { s with stage := .returned c, log := s.log ++ [.connected c] }
    | _ => none
  | .connectError e =>
    match s.stage with
    | .connecting c tries => some
      { s with
        stage := .connectPause c (tries + 1)
        firstFailure := false
        log := s.log ++ [.connectFailed c (logRetry "Connect" e s.backoff s.firstFailure)] }
    | _ => none
  | .slept =>
    match s.stage with
    | .provisionPause => some (s.retry .provisioning)
    | .connectPause c tries => some (s.retry (nextAttempt c tries))
    | _ => none
  | .shutDown _ =>
    match s.stage with
    | .discarding c => some { s with stage := .provisioning, log := s.log ++ [.shutDown c] }
    | _ => none

/-- Everything a step can do. -/
theorem step_cases {s t : State} {e : Outcome} (h : step s e = some t) :
    (s.stage = .provisioning ∧ t = ⟨.connecting s.clients 0, 1, true, s.clients + 1,
      s.log ++ [.created s.clients]⟩) ∨
    (s.stage = .provisioning ∧ ∃ line, t = ⟨.provisionPause, s.backoff, false, s.clients,
      s.log ++ [.provisionFailed line]⟩) ∨
    (∃ c tries, s.stage = .connecting c tries ∧ t = ⟨.returned c, s.backoff, s.firstFailure,
      s.clients, s.log ++ [.connected c]⟩) ∨
    (∃ c tries line, s.stage = .connecting c tries ∧ t = ⟨.connectPause c (tries + 1), s.backoff,
      false, s.clients, s.log ++ [.connectFailed c line]⟩) ∨
    (s.stage = .provisionPause ∧ t = s.retry .provisioning) ∨
    (∃ c tries, s.stage = .connectPause c tries ∧ t = s.retry (nextAttempt c tries)) ∨
    (∃ c, s.stage = .discarding c ∧ t = ⟨.provisioning, s.backoff, s.firstFailure, s.clients,
      s.log ++ [.shutDown c]⟩) := by
  obtain ⟨stage, backoff, firstFailure, clients, log⟩ := s
  cases e <;> cases stage <;> simp only [step, Option.some.injEq, reduceCtorEq] at h
  case client.provisioning => exact .inl ⟨rfl, h.symm⟩
  case provisionError.provisioning => exact .inr (.inl ⟨rfl, _, h.symm⟩)
  case connected.connecting => exact .inr (.inr (.inl ⟨_, _, rfl, h.symm⟩))
  case connectError.connecting => exact .inr (.inr (.inr (.inl ⟨_, _, _, rfl, h.symm⟩)))
  case slept.provisionPause => exact .inr (.inr (.inr (.inr (.inl ⟨rfl, h.symm⟩))))
  case slept.connectPause =>
    exact .inr (.inr (.inr (.inr (.inr (.inl ⟨_, _, rfl, h.symm⟩)))))
  case shutDown.discarding =>
    exact .inr (.inr (.inr (.inr (.inr (.inr ⟨_, rfl, h.symm⟩)))))

/-! ## What the log has to say -/

namespace Action

def failed : Action → Bool
  | .provisionFailed _ | .connectFailed _ _ => true
  | _ => false

def isSleep : Action → Bool
  | .slept _ => true
  | _ => false

def keepsBackoff : Action → Bool
  | .slept _ | .created _ => false
  | _ => true

def attemptOf (c : Nat) : Action → Bool
  | .connectFailed d _ | .connected d => d = c
  | _ => false

end Action

def backoffs : List Nat := [1, 2, 4, 8, 16, 32, 60]

def Live (log : List Action) (c : Nat) : Prop := .created c ∈ log ∧ .shutDown c ∉ log

structure Disciplined (s : State) : Prop where
  discarded : ∀ pre mid post c d,
    s.log = pre ++ Action.created c :: mid ++ Action.created d :: post →
    mid.count (.shutDown c) = 1
  once : ∀ c, s.log.count (.shutDown c) ≤ 1
  single : ∀ c d, Live s.log c → Live s.log d → c = d
  attempts : ∀ c, s.log.countP (Action.attemptOf c) ≤ 3
  paced : ∀ pre post a b, s.log = pre ++ a :: b :: post → a.failed → b.isSleep
  backoff : ∀ b, .slept b ∈ s.log → b ∈ backoffs
  restarts : ∀ pre mid post c b,
    s.log = pre ++ Action.created c :: mid ++ Action.slept b :: post →
    (∀ b', .slept b' ∉ mid) → b = 1
  doubles : ∀ pre mid post b b',
    s.log = pre ++ Action.slept b :: mid ++ Action.slept b' :: post →
    (∀ a ∈ mid, a.keepsBackoff) → b' = min (2 * b) 60
  returned : ∀ c, s.stage = .returned c → (∃ pre, s.log = pre ++ [.connected c]) ∧
    Live s.log c ∧ ∀ d ≠ c, .created d ∈ s.log → s.log.count (.shutDown d) = 1

theorem snoc_eq_append {α : Type} {l pre post : List α} {a x : α} :
    l ++ [a] = pre ++ x :: post ↔
      (l = pre ∧ a = x ∧ post = []) ∨ ∃ rest, post = rest ++ [a] ∧ l = pre ++ x :: rest := by
  constructor
  · intro h
    rcases List.eq_nil_or_concat post with rfl | ⟨rest, b, rfl⟩
    · obtain ⟨hl, ha⟩ := List.append_inj' h rfl
      exact .inl ⟨hl, List.singleton_inj.mp ha, rfl⟩
    · rw [List.concat_eq_append] at h ⊢
      rw [← List.cons_append, ← List.append_assoc] at h
      obtain ⟨hl, ha⟩ := List.append_inj' h rfl
      exact .inr ⟨rest, by rw [List.singleton_inj.mp ha], hl⟩
  · rintro (⟨rfl, rfl, rfl⟩ | ⟨rest, rfl, rfl⟩) <;> simp

/-- A last element that is not the one in question leaves it where it was. -/
theorem split_of_ne {α : Type} {l l' pre post : List α} {a x : α} (hl : l' = l ++ [a]) (hne : a ≠ x)
    (h : l' = pre ++ x :: post) : ∃ rest, post = rest ++ [a] ∧ l = pre ++ x :: rest := by
  obtain ⟨-, ha, -⟩ | hrest := snoc_eq_append.mp (hl.symm.trans h)
  · exact absurd ha hne
  · exact hrest

/-! ## One live client -/

def Stage.client : Stage → Option Nat
  | .provisioning | .provisionPause => none
  | .connecting c _ | .connectPause c _ | .discarding c | .returned c => some c

@[simp] theorem client_nextAttempt (c : Nat) (tries : Nat) :
    (nextAttempt c tries).client = some c := by
  unfold nextAttempt
  split <;> rfl

/-- All clients but the one that is held have been shut down. -/
structure Owned (s : State) : Prop where
  held : ∀ c, s.stage.client = some c → s.clients = c + 1
  known : ∀ c, .created c ∈ s.log ↔ c < s.clients
  shut : ∀ c, s.log.count (.shutDown c) =
    if c < s.clients ∧ s.stage.client ≠ some c then 1 else 0
  fresh : ∀ pre mid c, s.log = pre ++ Action.created c :: mid → .shutDown c ∉ pre
  relayed : ∀ pre mid post c d,
    s.log = pre ++ Action.created c :: mid ++ Action.created d :: post →
    mid.count (.shutDown c) = 1

theorem owned_init : Owned init where
  held c h := by cases h
  known c := by simp [init]
  shut c := by simp [init]
  fresh pre mid c h := by simp [init] at h
  relayed pre mid post c d h := by simp [init] at h

/-- Attempts and sleeps change nothing about the clients. -/
theorem Owned.frame {s t : State} {a : Action} (h : Owned s) (hlog : t.log = s.log ++ [a])
    (hcreated : ∀ c, a ≠ .created c) (hshut : ∀ c, a ≠ .shutDown c)
    (hclients : t.clients = s.clients) (hstage : t.stage.client = s.stage.client) : Owned t where
  held c hc := by rw [hclients]; exact h.held c (hstage ▸ hc)
  known c := by
    rw [hlog, hclients, List.mem_append, List.mem_singleton, h.known c]
    exact or_iff_left (Ne.symm (hcreated c))
  shut c := by
    rw [hlog, hclients, hstage, List.count_append, h.shut c, List.count_singleton]
    simp [hshut c]
  fresh pre mid c hsplit := by
    obtain ⟨rest, -, hs⟩ := split_of_ne hlog (hcreated c) hsplit
    exact h.fresh pre rest c hs
  relayed pre mid post c d hsplit := by
    obtain ⟨rest, -, hs⟩ := split_of_ne hlog (hcreated d) hsplit
    exact h.relayed pre mid rest c d hs

theorem Owned.created {s t : State} (h : Owned s) (hstage : s.stage = .provisioning)
    (hlog : t.log = s.log ++ [.created s.clients]) (hclients : t.clients = s.clients + 1)
    (hclient : t.stage.client = some s.clients) : Owned t where
  held c hc := by
    rw [hclients]
    exact congrArg (· + 1) (Option.some.inj (hclient.symm.trans hc))
  known c := by
    rw [hlog, hclients, List.mem_append, List.mem_singleton, h.known c, Action.created.injEq]
    omega
  shut c := by
    have hbefore : s.log.count (.shutDown c) = if c < s.clients then 1 else 0 := by
      simp [h.shut c, hstage, Stage.client]
    have hcount : t.log.count (.shutDown c) = s.log.count (.shutDown c) := by
      rw [hlog, List.count_append]
      rfl
    have hsame : (c < s.clients + 1 ∧ some s.clients ≠ some c) ↔ c < s.clients := by
      rw [ne_eq, Option.some.injEq]
      omega
    rw [hcount, hbefore, hclients, hclient, if_congr hsame rfl rfl]
  fresh pre mid c hsplit := by
    rw [hlog, snoc_eq_append] at hsplit
    obtain ⟨hpre, hc, -⟩ | ⟨rest, -, hs⟩ := hsplit
    · have hnone := h.shut s.clients
      rw [if_neg (fun hlt => absurd hlt.1 (Nat.lt_irrefl _))] at hnone
      cases hc
      rw [← hpre]
      exact List.count_eq_zero.mp hnone
    · exact h.fresh pre rest c hs
  relayed pre mid post c d hsplit := by
    rw [hlog, snoc_eq_append] at hsplit
    obtain ⟨hpre, -, -⟩ | ⟨rest, -, hs⟩ := hsplit
    -- the client before this one is no longer held, and was not shut down before it was created
    · have hone := h.shut c
      rw [hstage, if_pos ⟨(h.known c).mp (by simp [hpre]), by simp [Stage.client]⟩] at hone
      rw [hpre, List.count_append, List.count_cons,
        List.count_eq_zero.mpr (h.fresh pre mid c hpre)] at hone
      simpa using hone
    · exact h.relayed pre mid rest c d hs

theorem Owned.shutDown {s t : State} {c : Nat} (h : Owned s) (hstage : s.stage = .discarding c)
    (hlog : t.log = s.log ++ [.shutDown c]) (hclients : t.clients = s.clients)
    (hclient : t.stage.client = none) : Owned t where
  held d hd := by rw [hclient] at hd; cases hd
  known d := by simp [hlog, hclients, h.known d]
  shut d := by
    have hc := h.held c (by rw [hstage]; rfl)
    have hbefore : s.log.count (.shutDown d) = if d < s.clients ∧ ¬ c = d then 1 else 0 := by
      simp [h.shut d, hstage, Stage.client]
    by_cases hd : c = d
    · subst hd
      simp [hlog, hclients, hclient, hbefore, hc]
    · simp [hlog, hclients, hclient, hbefore, hd]
  fresh pre mid d hsplit := by
    obtain ⟨rest, -, hs⟩ := split_of_ne hlog (by simp) hsplit
    exact h.fresh pre rest d hs
  relayed pre mid post d d' hsplit := by
    obtain ⟨rest, -, hs⟩ := split_of_ne hlog (by simp) hsplit
    exact h.relayed pre mid rest d d' hs

theorem step_owned {s t : State} {e : Outcome} (h : Owned s) (hstep : step s e = some t) :
    Owned t := by
  obtain ⟨hs, rfl⟩ | ⟨hs, line, rfl⟩ | ⟨c, tries, hs, rfl⟩ | ⟨c, tries, line, hs, rfl⟩ |
    ⟨hs, rfl⟩ | ⟨c, tries, hs, rfl⟩ | ⟨c, hs, rfl⟩ := step_cases hstep
  · exact h.created hs rfl rfl rfl
  · exact h.frame rfl (by simp) (by simp) rfl (by rw [hs]; rfl)
  · exact h.frame rfl (by simp) (by simp) rfl (by rw [hs]; rfl)
  · exact h.frame rfl (by simp) (by simp) rfl (by rw [hs]; rfl)
  · exact h.frame rfl (by simp) (by simp) rfl (by rw [hs]; rfl)
  · exact h.frame rfl (by simp) (by simp) rfl (by rw [hs]; exact client_nextAttempt c tries)
  · exact h.shutDown hs rfl rfl rfl

/-! ## Attempts of a client -/

def Stage.Counts (n : Nat → Nat) : Stage → Prop
  | .connecting c tries => n c = tries ∧ tries < 3
  | .connectPause c tries => n c = tries ∧ tries ≤ 3
  | _ => True

def State.attempts (s : State) (c : Nat) : Nat := s.log.countP (Action.attemptOf c)

structure Tried (s : State) : Prop where
  bound : ∀ c, s.attempts c ≤ 3
  unborn : ∀ c, s.clients ≤ c → s.attempts c = 0
  current : s.stage.Counts s.attempts

theorem tried_init : Tried init where
  bound _ := Nat.zero_le 3
  unborn _ _ := rfl
  current := trivial

theorem counts_nextAttempt {n : Nat → Nat} {c tries : Nat} (h : n c = tries) :
    (nextAttempt c tries).Counts n := by
  unfold nextAttempt connectAttemptsPerProvision
  split
  · exact ⟨h, by assumption⟩
  · trivial

theorem Tried.frame {s t : State} {a : Action} (h : Tried s) (hlog : t.log = s.log ++ [a])
    (ha : ∀ c, Action.attemptOf c a = false) (hclients : s.clients ≤ t.clients)
    (hcurrent : t.stage.Counts s.attempts) : Tried t := by
  have hsame : t.attempts = s.attempts := by
    funext c
    simp [State.attempts, hlog, ha c]
  constructor
  · intro c
    rw [hsame]
    exact h.bound c
  · intro c hc
    rw [hsame]
    exact h.unborn c (hclients.trans hc)
  · rw [hsame]
    exact hcurrent

/-- The attempt is one more for its own client only. -/
theorem Tried.attempted {s t : State} {a : Action} {c tries : Nat} (h : Tried s)
    (hstage : s.stage = .connecting c tries) (hheld : s.clients = c + 1)
    (hlog : t.log = s.log ++ [a]) (ha : ∀ d, Action.attemptOf d a = decide (c = d))
    (hclients : t.clients = s.clients)
    (hcurrent : ∀ n, n c = tries + 1 → tries < 3 → t.stage.Counts n) : Tried t := by
  have hnow := h.current
  rw [hstage] at hnow
  obtain ⟨hcount, hlt⟩ := hnow
  have hattempts : ∀ d, t.attempts d = s.attempts d + if c = d then 1 else 0 := by
    intro d
    simp [State.attempts, hlog, ha d]
  have hown : t.attempts c = tries + 1 := by
    rw [hattempts, hcount, if_pos rfl]
  have hother : ∀ d, c ≠ d → t.attempts d = s.attempts d := by
    intro d hd
    rw [hattempts, if_neg hd, Nat.add_zero]
  constructor
  · intro d
    by_cases hd : c = d
    · subst hd
      omega
    · rw [hother d hd]
      exact h.bound d
  · intro d hd
    rw [hother d (by omega)]
    exact h.unborn d (hclients ▸ hd)
  · exact hcurrent _ hown hlt

theorem step_tried {s t : State} {e : Outcome} (ho : Owned s) (h : Tried s)
    (hstep : step s e = some t) : Tried t := by
  obtain ⟨hs, rfl⟩ | ⟨hs, line, rfl⟩ | ⟨c, tries, hs, rfl⟩ | ⟨c, tries, line, hs, rfl⟩ |
    ⟨hs, rfl⟩ | ⟨c, tries, hs, rfl⟩ | ⟨c, hs, rfl⟩ := step_cases hstep
  · exact h.frame rfl (fun _ => rfl) (Nat.le_succ _) ⟨h.unborn _ le_rfl, by decide⟩
  · exact h.frame rfl (fun _ => rfl) le_rfl trivial
  · exact h.attempted hs (ho.held c (by rw [hs]; rfl)) rfl (fun _ => rfl) rfl
      (fun _ _ _ => trivial)
  · exact h.attempted hs (ho.held c (by rw [hs]; rfl)) rfl (fun _ => rfl) rfl
      (fun _ hn hlt => ⟨hn, hlt⟩)
  · exact h.frame rfl (fun _ => rfl) le_rfl trivial
  · have hcurrent := h.current
    rw [hs] at hcurrent
    exact h.frame rfl (fun _ => rfl) le_rfl (counts_nextAttempt hcurrent.1)
  · exact h.frame rfl (fun _ => rfl) le_rfl trivial

/-! ## Pauses and backoff -/

def Stage.isPause : Stage → Bool
  | .provisionPause | .connectPause _ _ => true
  | _ => false

@[simp] theorem isPause_nextAttempt (c tries : Nat) : (nextAttempt c tries).isPause = false := by
  unfold nextAttempt
  split <;> rfl

/-- The function pauses exactly when a failure was the last thing to happen. -/
structure Paced (s : State) : Prop where
  last : ∀ pre a, s.log = pre ++ [a] → a.failed = s.stage.isPause
  pairs : ∀ pre post a b, s.log = pre ++ a :: b :: post → a.failed → b.isSleep

theorem paced_init : Paced init where
  last pre a h := by simp [init] at h
  pairs pre post a b h := by simp [init] at h

theorem Paced.next {s t : State} {a : Action} (h : Paced s) (hlog : t.log = s.log ++ [a])
    (ha : a.failed = t.stage.isPause) (hpause : s.stage.isPause = a.isSleep) : Paced t where
  last pre b hsplit := by
    rw [hlog] at hsplit
    obtain ⟨-, hb⟩ := List.append_inj' hsplit rfl
    rw [← List.singleton_inj.mp hb, ha]
  pairs pre post x y hsplit hx := by
    rw [hlog, List.append_cons pre x, snoc_eq_append] at hsplit
    obtain ⟨hpre, rfl, -⟩ | ⟨rest, -, hs⟩ := hsplit
    · rw [← hpause, ← h.last pre x hpre, hx]
    · exact h.pairs pre rest x y (by simpa using hs) hx

theorem step_paced {s t : State} {e : Outcome} (h : Paced s) (hstep : step s e = some t) :
    Paced t := by
  obtain ⟨hs, rfl⟩ | ⟨hs, line, rfl⟩ | ⟨c, tries, hs, rfl⟩ | ⟨c, tries, line, hs, rfl⟩ |
    ⟨hs, rfl⟩ | ⟨c, tries, hs, rfl⟩ | ⟨c, hs, rfl⟩ := step_cases hstep
  · exact h.next rfl rfl (by rw [hs]; rfl)
  · exact h.next rfl rfl (by rw [hs]; rfl)
  · exact h.next rfl rfl (by rw [hs]; rfl)
  · exact h.next rfl rfl (by rw [hs]; rfl)
  · exact h.next rfl rfl (by rw [hs]; rfl)
  · exact h.next rfl (isPause_nextAttempt c tries).symm (by rw [hs]; rfl)
  · exact h.next rfl rfl (by rw [hs]; rfl)

theorem double_mem_backoffs {b : Nat} (h : b ∈ backoffs) :
    min (b * 2) connectBackoffMaxS ∈ backoffs := by
  revert b
  decide

structure Scheduled (s : State) : Prop where
  next : s.backoff ∈ backoffs
  slept : ∀ b, .slept b ∈ s.log → b ∈ backoffs
  reset : ∀ pre mid c, s.log = pre ++ Action.created c :: mid → (∀ b, .slept b ∉ mid) →
    s.backoff = 1
  doubled : ∀ pre mid b, s.log = pre ++ Action.slept b :: mid → (∀ a ∈ mid, a.keepsBackoff) →
    s.backoff = min (2 * b) 60
  restarts : ∀ pre mid post c b,
    s.log = pre ++ Action.created c :: mid ++ Action.slept b :: post →
    (∀ b', .slept b' ∉ mid) → b = 1
  doubles : ∀ pre mid post b b',
    s.log = pre ++ Action.slept b :: mid ++ Action.slept b' :: post →
    (∀ a ∈ mid, a.keepsBackoff) → b' = min (2 * b) 60

theorem scheduled_init : Scheduled init where
  next := by decide
  slept b h := by simp [init] at h
  reset pre mid c h := by simp [init] at h
  doubled pre mid b h := by simp [init] at h
  restarts pre mid post c b h := by simp [init] at h
  doubles pre mid post b b' h := by simp [init] at h

/-- Attempts and shutdowns leave the backoff as it is. -/
theorem Scheduled.frame {s t : State} {a : Action} (h : Scheduled s) (hlog : t.log = s.log ++ [a])
    (hslept : ∀ b, a ≠ .slept b) (hcreated : ∀ c, a ≠ .created c)
    (hbackoff : t.backoff = s.backoff) : Scheduled t where
  next := hbackoff ▸ h.next
  slept b hb := by
    rw [hlog, List.mem_append, List.mem_singleton] at hb
    exact h.slept b (hb.resolve_right (hslept b).symm)
  reset pre mid c hsplit hmid := by
    obtain ⟨rest, rfl, hs⟩ := split_of_ne hlog (hcreated c) hsplit
    rw [hbackoff]
    exact h.reset pre rest c hs (fun b hb => hmid b (List.mem_append_left _ hb))
  doubled pre mid b hsplit hmid := by
    obtain ⟨rest, rfl, hs⟩ := split_of_ne hlog (hslept b) hsplit
    rw [hbackoff]
    exact h.doubled pre rest b hs (fun x hx => hmid x (List.mem_append_left _ hx))
  restarts pre mid post c b hsplit hmid := by
    obtain ⟨rest, -, hs⟩ := split_of_ne hlog (hslept b) hsplit
    exact h.restarts pre mid rest c b hs hmid
  doubles pre mid post b b' hsplit hmid := by
    obtain ⟨rest, -, hs⟩ := split_of_ne hlog (hslept b') hsplit
    exact h.doubles pre mid rest b b' hs hmid

theorem Scheduled.created {s t : State} {c : Nat} (h : Scheduled s)
    (hlog : t.log = s.log ++ [.created c]) (hbackoff : t.backoff = 1) : Scheduled t where
  next := by rw [hbackoff]; decide
  slept b hb := h.slept b (by simpa [hlog] using hb)
  reset pre mid d hsplit hmid := hbackoff
  doubled pre mid b hsplit hmid := by
    obtain ⟨rest, rfl, hs⟩ := split_of_ne hlog (by simp) hsplit
    exact absurd (hmid (.created c) (by simp)) Bool.false_ne_true
  restarts pre mid post d b hsplit hmid := by
    obtain ⟨rest, -, hs⟩ := split_of_ne hlog (by simp) hsplit
    exact h.restarts pre mid rest d b hs hmid
  doubles pre mid post b b' hsplit hmid := by
    obtain ⟨rest, -, hs⟩ := split_of_ne hlog (by simp) hsplit
    exact h.doubles pre mid rest b b' hs hmid

theorem Scheduled.retry {s : State} (h : Scheduled s) (stage : Stage) :
    Scheduled (s.retry stage) where
  next := double_mem_backoffs h.next
  slept b hb := by
    simp only [State.retry, List.mem_append, List.mem_singleton, Action.slept.injEq] at hb
    obtain hb | rfl := hb
    · exact h.slept b hb
    · exact h.next
  reset pre mid c hsplit hmid := by
    obtain ⟨-, ha, -⟩ | ⟨rest, rfl, -⟩ := snoc_eq_append.mp hsplit
    · cases ha
    · exact absurd (List.mem_append_right rest List.mem_cons_self) (hmid s.backoff)
  doubled pre mid b hsplit hmid := by
    obtain ⟨-, ha, -⟩ | ⟨rest, rfl, -⟩ := snoc_eq_append.mp hsplit
    · cases ha
      exact congrArg (min · 60) (Nat.mul_comm _ _)
    · exact absurd (hmid _ (List.mem_append_right rest List.mem_cons_self)) Bool.false_ne_true
  restarts pre mid post c b hsplit hmid := by
    obtain ⟨hs, ha, -⟩ | ⟨rest, -, hs⟩ := snoc_eq_append.mp hsplit
    · cases ha
      exact h.reset pre mid c hs hmid
    · exact h.restarts pre mid rest c b hs hmid
  doubles pre mid post b b' hsplit hmid := by
    obtain ⟨hs, ha, -⟩ | ⟨rest, -, hs⟩ := snoc_eq_append.mp hsplit
    · cases ha
      exact h.doubled pre mid b hs hmid
    · exact h.doubles pre mid rest b b' hs hmid

theorem step_scheduled {s t : State} {e : Outcome} (h : Scheduled s)
    (hstep : step s e = some t) : Scheduled t := by
  obtain ⟨hs, rfl⟩ | ⟨hs, line, rfl⟩ | ⟨c, tries, hs, rfl⟩ | ⟨c, tries, line, hs, rfl⟩ |
    ⟨hs, rfl⟩ | ⟨c, tries, hs, rfl⟩ | ⟨c, hs, rfl⟩ := step_cases hstep
  · exact h.created rfl rfl
  · exact h.frame rfl (by simp) (by simp) rfl
  · exact h.frame rfl (by simp) (by simp) rfl
  · exact h.frame rfl (by simp) (by simp) rfl
  · exact h.retry _
  · exact h.retry _
  · exact h.frame rfl (by simp) (by simp) rfl

/-! ## Every run -/

structure Inv (s : State) : Prop where
  owned : Owned s
  tried : Tried s
  paced : Paced s
  scheduled : Scheduled s
  returned : ∀ c, s.stage = .returned c → ∃ pre, s.log = pre ++ [.connected c]

theorem inv_init : Inv init :=
  ⟨owned_init, tried_init, paced_init, scheduled_init, by intro c h; cases h⟩

theorem step_returned {s t : State} {e : Outcome} {c : Nat} (hstep : step s e = some t)
    (hstage : t.stage = .returned c) : ∃ pre, t.log = pre ++ [.connected c] := by
  obtain ⟨hs, rfl⟩ | ⟨hs, line, rfl⟩ | ⟨d, tries, hs, rfl⟩ | ⟨d, tries, line, hs, rfl⟩ |
    ⟨hs, rfl⟩ | ⟨d, tries, hs, rfl⟩ | ⟨d, hs, rfl⟩ := step_cases hstep
  case inr.inr.inl =>
    cases hstage
    exact ⟨s.log, rfl⟩
  case inr.inr.inr.inr.inr.inl =>
    simp only [State.retry, nextAttempt] at hstage
    split at hstage <;> cases hstage
  all_goals cases hstage

theorem step_inv {s t : State} {e : Outcome} (h : Inv s) (hstep : step s e = some t) : Inv t where
  owned := step_owned h.owned hstep
  tried := step_tried h.owned h.tried hstep
  paced := step_paced h.paced hstep
  scheduled := step_scheduled h.scheduled hstep
  returned _ := step_returned hstep

theorem Owned.live_iff {s : State} (h : Owned s) (c : Nat) :
    Live s.log c ↔ s.stage.client = some c := by
  have hshut := h.shut c
  constructor
  · rintro ⟨hcreated, hkept⟩
    rw [List.count_eq_zero.mpr hkept] at hshut
    by_contra hnot
    simp [hnot, (h.known c).mp hcreated] at hshut
  · intro hc
    have hheld := h.held c hc
    rw [if_neg (fun hne => hne.2 hc)] at hshut
    exact ⟨(h.known c).mpr (by omega), List.count_eq_zero.mp hshut⟩

theorem Inv.disciplined {s : State} (h : Inv s) : Disciplined s where
  discarded := h.owned.relayed
  once c := by
    rw [h.owned.shut c]
    split <;> decide
  single c d hc hd := by
    rw [h.owned.live_iff] at hc hd
    exact Option.some.inj (hc.symm.trans hd)
  attempts := h.tried.bound
  paced := h.paced.pairs
  backoff := h.scheduled.slept
  restarts := h.scheduled.restarts
  doubles := h.scheduled.doubles
  returned c hstage := by
    have hclient : s.stage.client = some c := by rw [hstage]; rfl
    refine ⟨h.returned c hstage, (h.owned.live_iff c).mpr hclient, ?_⟩
    intro d hne hd
    rw [h.owned.shut d, hclient]
    exact if_pos ⟨(h.owned.known d).mp hd, fun heq => hne (Option.some.inj heq).symm⟩

/-- Whatever DPS, the client factory and the hub answer, the retries keep their discipline. -/
theorem provisionAndConnect_disciplined {path : List (State × Outcome)} {s : State}
    (r : Run step init path s) : Always Disciplined path s :=
  (r.inductive_invariant (fun _ _ _ => step_inv) inv_init).mono (fun _ => Inv.disciplined)

/-- DPS fails once, all attempts of the first client fail, and the second client connects. -/
theorem provisionAndConnect_disciplined_second :
    let outcomes : List Outcome := [.provisionError "timeout", .slept, .client,
      .connectError "refused", .slept, .connectError "refused", .slept, .connectError "refused",
      .slept, .shutDown true, .client, .connected]
    ∃ s, exec step init outcomes = some s ∧ s.stage = .returned 1 ∧
      Always Disciplined (trace step init outcomes) s :=
  ⟨_, rfl, rfl, provisionAndConnect_disciplined (exec_run rfl)⟩

end NexyGateway.Provisioning
