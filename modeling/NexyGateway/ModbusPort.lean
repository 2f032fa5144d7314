import NexyGateway.ErrorSignals
import NexyGateway.Runs

/-!
# The Modbus port

How `ModBusHandler` of `liftApi/modbus_handler.py` opens its port and gives it back: the
set-up of a client, the check in front of every call, and `close`. The device file comes
and goes, and closing a client may fail.
-/
namespace NexyGateway.ModbusPort

open Runs

/-- What is done with a client; a close that raised is only logged. -/
inductive Action where
  | opened (client : Nat)
  | used (client : Nat)
  | closed (client : Nat) (raised : Bool)
  deriving DecidableEq, Repr

structure Handler where
  modbusLink : Bool
  closed : Bool
  client : Option Nat
  clients : Nat
  /-- Calls of the handler that are under way, one inside the other. -/
  depth : Nat
  /-- Codes of the calls that the check has turned away. -/
  refused : List MbCode
  log : List Action
  deriving DecidableEq

/-- The reference is dropped together with the client's hold on the port. -/
def Handler.release (raised : Bool) (h : Handler) : Handler :=
  match h.client with
  | none => h
  | some c => { h with client := none, log := h.log ++ [.closed c raised] }

/-- `_setup_connection`; the new client connects if the device file is there. -/
def Handler.setupConnection (present raised : Bool) (h : Handler) : Handler :=
  let h := h.release raised
  { h with
    modbusLink := present
    client := some h.clients
    clients := h.clients + 1
    log := h.log ++ [.opened h.clients] }

/-- `__init__` -/
def init (present : Bool) : Handler :=
  Handler.setupConnection present false ⟨false, false, none, 0, 0, [], []⟩

def Handler.refuse (h : Handler) : Handler := { h with refused := h.refused ++ [.LINK_ERR] }

def Handler.admit (h : Handler) : Handler := { h with depth := h.depth + 1 }

/-- `check_modbus_connection` in front of a call: whether the device file is there when it is
tested and when the port is set up, and whether the stale client fails to close. -/
def Handler.checkConnection (present again raised : Bool) (h : Handler) : Handler :=
  if h.closed then h.refuse
  else if !present then ({ h with modbusLink := false } : Handler).refuse
  else if h.modbusLink then h.admit
  else
    let h := h.setupConnection again raised
    if h.modbusLink then h.admit else h.refuse

def Handler.close (raised : Bool) (h : Handler) : Handler :=
  if h.closed then h
  else
    match h.client with
    | none => { h with closed := true }
    | some _ => { ({ h with closed := true } : Handler).release raised with modbusLink := false }

inductive Event where
  | call (present again raised : Bool)
  | exchange
  | returned
  | close (raised : Bool)
  deriving DecidableEq

/-- An exchange of a call that is under way; without a client it raises. -/
def Handler.exchange (h : Handler) : Handler :=
  match h.client with
  | none => h
  | some c => { h with log := h.log ++ [.used c] }

def step (h : Handler) : Event → Option Handler
  | .call present again raised => some (h.checkConnection present again raised)
  | .exchange => if h.depth = 0 then none else some h.exchange
  | .returned => if h.depth = 0 then none else some { h with depth := h.depth - 1 }
  | .close raised => some (h.close raised)

/-! ### A port for one client at a time -/

/-- Who holds the port, and how many have had it. -/
structure Port where
  holder : Option Nat
  clients : Nat
  deriving DecidableEq, Repr

/-- The port is opened by a new client when it is free, and then used and closed by it. After that
it is free, also if the close has raised. -/
def Port.step (p : Port) : Action → Option Port
  | .opened c => if p.holder = none ∧ c = p.clients then some ⟨some c, c + 1⟩ else none
  | .used c => if p.holder = some c then some p else none
  | .closed c _ => if p.holder = some c then some { p with holder := none } else none

def free : Port := ⟨none, 0⟩

/-- What the handler has done is a history of the port, and the handler knows its holder. -/
structure Held (h : Handler) : Prop where
  history : exec Port.step free h.log = some ⟨h.client, h.clients⟩
  holds_iff : h.client = none ↔ h.closed = true

section Holding

variable {h h' : Handler} {e : Event}

/-- What the port allows its holder to do, the handler may do. -/
theorem Held.act (hheld : Held h) {a : Action} {p : Port}
    (hstep : Port.step ⟨h.client, h.clients⟩ a = some p) :
    exec Port.step free (h.log ++ [a]) = some p := by
  rw [exec_snoc, hheld.history, Option.bind_some, hstep]

/-- After a release the port is free for the next client. -/
theorem Held.released (hheld : Held h) (raised : Bool) :
    exec Port.step free (h.release raised).log = some ⟨none, (h.release raised).clients⟩ ∧
      (h.release raised).client = none := by
  unfold Handler.release
  split
  · rename_i hnone
    exact ⟨by rw [hheld.history, hnone], hnone⟩
  · rename_i c hclient
    exact ⟨hheld.act (by simp [Port.step, hclient]), rfl⟩

@[simp] theorem release_closed (raised : Bool) (h : Handler) :
    (h.release raised).closed = h.closed := by
  unfold Handler.release
  split <;> rfl

/-- The stale client is closed first, so the new one finds the port free. -/
theorem Held.setupConnection (hheld : Held h) (hlive : h.closed = false) (present raised : Bool) :
    Held (h.setupConnection present raised) where
  history := by
    unfold Handler.setupConnection
    rw [exec_snoc, (hheld.released raised).1]
    simp [Port.step]
  holds_iff := by simp [Handler.setupConnection, hlive]

/-- Neither the link nor the calls matter to the port. -/
theorem Held.frame (hheld : Held h) (hclient : h'.client = h.client)
    (hclosed : h'.closed = h.closed) (hclients : h'.clients = h.clients) (hlog : h'.log = h.log) :
    Held h' where
  history := by rw [hlog, hclient, hclients, hheld.history]
  holds_iff := by rw [hclient, hclosed, hheld.holds_iff]

theorem Held.checkConnection (hheld : Held h) (present again raised : Bool) :
    Held (h.checkConnection present again raised) := by
  unfold Handler.checkConnection
  split_ifs with hclosed htested hlinked
  · exact hheld.frame rfl rfl rfl rfl
  · exact hheld.frame rfl rfl rfl rfl
  · exact hheld.frame rfl rfl rfl rfl
  · have hopened := hheld.setupConnection (by simpa using hclosed) again raised
    dsimp only
    split <;> exact hopened.frame rfl rfl rfl rfl

theorem Held.close (hheld : Held h) (raised : Bool) : Held (h.close raised) := by
  unfold Handler.close
  split_ifs with hclosed
  · exact hheld
  · split
    · rename_i hnone
      exact absurd (hheld.holds_iff.mp hnone) hclosed
    · rename_i c hclient
      refine ⟨?_, ?_⟩
      · simp only [Handler.release, hclient]
        exact hheld.act (by simp [Port.step, hclient])
      · simp [Handler.release, hclient]

theorem Held.exchange (hheld : Held h) : Held h.exchange := by
  unfold Handler.exchange
  split
  · exact hheld
  · rename_i c hclient
    refine ⟨?_, hheld.holds_iff⟩
    exact hheld.act (by simp [Port.step, hclient])

theorem step_held (hheld : Held h) (hstep : step h e = some h') : Held h' := by
  cases e with
  | call present again raised =>
    cases hstep
    exact hheld.checkConnection present again raised
  | exchange =>
    simp only [step] at hstep
    split at hstep <;> cases hstep
    exact hheld.exchange
  | returned =>
    simp only [step] at hstep
    split at hstep <;> cases hstep
    exact hheld.frame rfl rfl rfl rfl
  | close raised =>
    cases hstep
    exact hheld.close raised

theorem init_held (present : Bool) : Held (init present) :=
  ⟨rfl, by simp [init, Handler.setupConnection, Handler.release]⟩

/-- In every run, however the device file comes and goes and whatever fails, what the handler
has done is a history of a port for one client at a time, with the handler's client as its
holder; a handler that has not been closed has one. -/
theorem port_exclusive (present : Bool) {path : List (Handler × Event)} {h : Handler}
    (r : Run step (init present) path h) :
    Always (fun h => exec Port.step free h.log = some ⟨h.client, h.clients⟩ ∧
      (h.client = none ↔ h.closed = true)) path h :=
  (r.inductive_invariant (fun _ _ _ h hstep => step_held h hstep) (init_held present)).mono
    fun _ hheld => ⟨hheld.history, hheld.holds_iff⟩

end Holding

section Closed

variable {h h' : Handler} {e : Event}

def Event.isCall : Event → Bool
  | .call .. => true
  | _ => false

/-- A step of a closed handler turns a call away and does nothing else. -/
theorem step_closed (hclosed : h.closed = true) (hclient : h.client = none)
    (hstep : step h e = some h') : h'.closed = true ∧ h'.client = none ∧ h'.log = h.log ∧
      h'.depth ≤ h.depth ∧
      h'.refused = h.refused ++ (if e.isCall then [MbCode.LINK_ERR] else []) := by
  cases e with
  | call present again raised =>
    cases hstep
    simp [Handler.checkConnection, Handler.refuse, Event.isCall, hclosed, hclient]
  | exchange =>
    simp only [step] at hstep
    split at hstep <;> cases hstep
    simp [Handler.exchange, Event.isCall, hclosed, hclient]
  | returned =>
    simp only [step] at hstep
    split at hstep <;> cases hstep
    simp [Event.isCall, hclosed, hclient]
  | close raised =>
    cases hstep
    simp [Handler.close, Event.isCall, hclosed, hclient]

/-- Once it is closed, the handler never opens its port or uses a client again: every later
call is turned away with `LINK_ERR`, and no call is under way that was not before. -/
theorem closed_forGood (present : Bool) {front back : List (Handler × Event)} {h t : Handler}
    (r : Run step (init present) front h) (hclosed : h.closed = true) (r' : Run step h back t) :
    t.closed = true ∧ t.client = none ∧ t.log = h.log ∧ t.depth ≤ h.depth ∧
      t.refused = h.refused ++
        List.replicate (back.countP fun p => p.2.isCall) MbCode.LINK_ERR := by
  have hheld : Held h :=
    (r.inductive_invariant (fun _ _ _ h hstep => step_held h hstep) (init_held present)).last
  have hclient := hheld.holds_iff.mpr hclosed
  clear r hheld
  induction r' with
  | nil => exact ⟨hclosed, hclient, rfl, Nat.le_refl _, by simp⟩
  | @cons u v w e path first rest ih =>
    obtain ⟨hclosed', hclient', hlog, hdepth, hrefused⟩ := step_closed hclosed hclient first
    obtain ⟨hlast, hnone, hlog', hdepth', hrefused'⟩ := ih hclosed' hclient'
    refine ⟨hlast, hnone, hlog'.trans hlog, Nat.le_trans hdepth' hdepth, ?_⟩
    rw [hrefused', hrefused, List.append_assoc, List.countP_cons]
    cases e.isCall <;> simp [List.replicate_succ]

end Closed

/-- A device file that is lost during a call and comes back, and the end of the handler. -/
def replugged : List Event :=
  [.call true true false, .exchange, .call false true false, .returned, .call true true true,
    .exchange, .returned, .close false, .call true true false]

theorem port_exclusive_replugged : ∃ h : Handler,
    h.log = [.opened 0, .used 0, .closed 0 true, .opened 1, .used 1, .closed 1 false] ∧
      Always (fun h => exec Port.step free h.log = some ⟨h.client, h.clients⟩ ∧
        (h.client = none ↔ h.closed = true)) (trace step (init true) replugged) h := by
  have hlog : (exec step (init true) replugged).map (fun h => h.log) =
      some [.opened 0, .used 0, .closed 0 true, .opened 1, .used 1, .closed 1 false] := by decide
  obtain ⟨h, hexec, hlast⟩ := Option.map_eq_some_iff.mp hlog
  exact ⟨h, hlast, port_exclusive true (exec_run hexec)⟩

theorem closed_forGood_replugged : ∃ h t : Handler,
    h.closed = true ∧ step h (.call true true false) = some t ∧ t.closed = true ∧
      t.client = none ∧ t.log = h.log ∧ t.depth ≤ h.depth ∧
      t.refused = h.refused ++ List.replicate 1 MbCode.LINK_ERR := by
  have hclosed : (exec step (init true) [.close false]).map (fun h => h.closed) = some true := by
    decide
  obtain ⟨h, hexec, hlast⟩ := Option.map_eq_some_iff.mp hclosed
  have r' : Run step h [(h, .call true true false)] (h.checkConnection true true false) :=
    .cons rfl (.nil _)
  exact ⟨h, _, hlast, rfl, closed_forGood true (exec_run hexec) hlast r'⟩

end NexyGateway.ModbusPort
