import NexyGateway.Runs

/-!
# A server for one request at a time

A handler is a process: it looks at what is around it, calls for operations and waits for their
answers, and ends with a response or with an exception. The server receives a request, runs its
handler to the end, sends the response, and only then receives the next one. Where the handler
raises, or the response cannot be sent, it sends an excuse.
-/
namespace SerialServer

open Runs

/-- What is left to do for a request. -/
inductive Process (Op : Type) (Ans : Op → Type) (View R : Type) where
  | ret (r : R)
  | raise
  | look (next : View → Process Op Ans View R)
  | call (op : Op) (next : Ans op → Process Op Ans View R)

/-- An operation with its answer; one that raises has none. -/
abbrev Called (Op : Type) (Ans : Op → Type) := (op : Op) × Option (Ans op)

variable {Op : Type} {Ans : Op → Type} {View Req R : Type}

namespace Process

/-- Runs a process until it ends or calls for an operation. -/
def settle (v : View) : Process Op Ans View R → Process Op Ans View R
  | .look next => (next v).settle v
  | p => p

/-- Where a process can be after these operations. -/
inductive Reaches : Process Op Ans View R → List (Called Op Ans) → Process Op Ans View R → Prop
  | refl (p : Process Op Ans View R) : Reaches p [] p
  | look {next : View → Process Op Ans View R} {calls : List (Called Op Ans)}
      {q : Process Op Ans View R} (v : View) (h : Reaches (next v) calls q) :
      Reaches (.look next) calls q
  | call {op : Op} {next : Ans op → Process Op Ans View R} {calls : List (Called Op Ans)}
      {q : Process Op Ans View R} (a : Ans op) (h : Reaches (next a) calls q) :
      Reaches (.call op next) (⟨op, some a⟩ :: calls) q

/-- The operations of a whole execution, and its response unless it raises. -/
inductive Finishes : Process Op Ans View R → List (Called Op Ans) → Option R → Prop
  | ret {p : Process Op Ans View R} {calls : List (Called Op Ans)} {r : R}
      (h : Reaches p calls (.ret r)) : Finishes p calls (some r)
  | raise {p : Process Op Ans View R} {calls : List (Called Op Ans)}
      (h : Reaches p calls .raise) : Finishes p calls none
  | failed {p : Process Op Ans View R} {calls : List (Called Op Ans)} {op : Op}
      {next : Ans op → Process Op Ans View R} (h : Reaches p calls (.call op next)) :
      Finishes p (calls ++ [⟨op, none⟩]) none

variable {p q q' : Process Op Ans View R} {calls calls' : List (Called Op Ans)} {r : R}

theorem Reaches.trans (h : Reaches p calls q) (h' : Reaches q calls' q') :
    Reaches p (calls ++ calls') q' := by
  induction h with
  | refl => exact h'
  | look v _ ih => exact .look v (ih h')
  | call a _ ih => exact .call a (ih h')

theorem reaches_settle (v : View) (p : Process Op Ans View R) : Reaches p [] (p.settle v) := by
  induction p with
  | look next ih => exact .look v (ih v)
  | _ => exact .refl _

/-- A process that has settled does not look around next. -/
theorem settle_ne_look (v : View) (p : Process Op Ans View R)
    (next : View → Process Op Ans View R) : p.settle v ≠ .look next := by
  induction p with
  | look next' ih => exact ih v
  | _ => exact fun h => by cases h

/-! How the executions of a process follow from those of its rest. -/

theorem finishes_ret {x : R} {o : Option R} :
    Finishes (.ret x : Process Op Ans View R) calls o ↔ calls = [] ∧ o = some x := by
  constructor
  · rintro (h | h | h)
    · cases h
      exact ⟨rfl, rfl⟩
    · cases h
    · cases h
  · rintro ⟨rfl, rfl⟩
    exact .ret (.refl _)

theorem finishes_raise {o : Option R} :
    Finishes (.raise : Process Op Ans View R) calls o ↔ calls = [] ∧ o = none := by
  constructor
  · rintro (h | h | h)
    · cases h
    · cases h
      exact ⟨rfl, rfl⟩
    · cases h
  · rintro ⟨rfl, rfl⟩
    exact .raise (.refl _)

theorem finishes_look {next : View → Process Op Ans View R} {o : Option R} :
    Finishes (.look next) calls o ↔ ∃ v, Finishes (next v) calls o := by
  constructor
  · intro h
    cases h with
    | ret h => cases h with | look v h => exact ⟨v, .ret h⟩
    | raise h => cases h with | look v h => exact ⟨v, .raise h⟩
    | failed h => cases h with | look v h => exact ⟨v, .failed h⟩
  · rintro ⟨v, h⟩
    cases h with
    | ret h => exact .ret (.look v h)
    | raise h => exact .raise (.look v h)
    | failed h => exact .failed (.look v h)

theorem finishes_call {op : Op} {next : Ans op → Process Op Ans View R} {o : Option R} :
    Finishes (.call op next) calls o ↔ (calls = [⟨op, none⟩] ∧ o = none) ∨
      ∃ a rest, calls = ⟨op, some a⟩ :: rest ∧ Finishes (next a) rest o := by
  constructor
  · intro h
    cases h with
    | ret h => cases h with | call a h => exact .inr ⟨a, _, rfl, .ret h⟩
    | raise h => cases h with | call a h => exact .inr ⟨a, _, rfl, .raise h⟩
    | failed h =>
      cases h with
      | refl => exact .inl ⟨rfl, rfl⟩
      | call a h => exact .inr ⟨a, _, rfl, .failed h⟩
  · rintro (⟨rfl, rfl⟩ | ⟨a, rest, rfl, h⟩)
    · exact .failed (.refl _)
    · cases h with
      | ret h => exact .ret (.call a h)
      | raise h => exact .raise (.call a h)
      | failed h => exact .failed (.call a h)

end Process

open Process

/-- What the server has done, oldest first. A response with `delivered` false is one whose
sending raised. -/
inductive Entry (Op : Type) (Ans : Op → Type) (Req R : Type) where
  | received (req : Req)
  | called (c : Called Op Ans)
  | sent (req : Req) (response : R) (delivered : Bool)

inductive State (Op : Type) (Ans : Op → Type) (View Req R : Type) where
  | receiving
  | working (req : Req) (op : Op) (next : Ans op → Process Op Ans View R)
  | answering (req : Req) (response : R)
  | excusing (req : Req)
  | ended

structure Server (Op : Type) (Ans : Op → Type) (View Req R : Type) where
  state : State Op Ans View Req R
  log : List (Entry Op Ans Req R)

/-- What happens to the server; `v` is what the handler finds if it looks around. -/
inductive Event (Op : Type) (Ans : Op → Type) (View Req : Type) where
  | received (req : Req) (v : View)
  | answered (c : Called Op Ans) (v : View)
  | sent (delivered : Bool)
  | receiveFailed
  | cancelled

def listening : Server Op Ans View Req R := ⟨.receiving, []⟩

/-- Where the server goes with a process that has settled. -/
def enter (req : Req) : Process Op Ans View R → State Op Ans View Req R
  | .ret r => .answering req r
  | .raise => .excusing req
  | .call op next => .working req op next
  -- never the case after `settle`
  | .look _ => .ended

section Serving

variable (handler : Req → Process Op Ans View R) (excuse : R)

/-- All that is done for a request: its operations, and then the response, which is an excuse
where there is none, or after one that could not be sent. -/
inductive Served (req : Req) : List (Entry Op Ans Req R) → Prop
  | answered {calls : List (Called Op Ans)} {r : R} (h : Finishes (handler req) calls (some r)) :
      Served req (.received req :: calls.map .called ++ [.sent req r true])
  | lost {calls : List (Called Op Ans)} {r : R} (h : Finishes (handler req) calls (some r))
      (delivered : Bool) :
      Served req (.received req :: calls.map .called ++
        [.sent req r false, .sent req excuse delivered])
  | raised {calls : List (Called Op Ans)} (h : Finishes (handler req) calls none)
      (delivered : Bool) :
      Served req (.received req :: calls.map .called ++ [.sent req excuse delivered])

/-- What has been done so far for the request in hand. -/
inductive Pending : State Op Ans View Req R → List (Entry Op Ans Req R) → Prop
  | receiving : Pending .receiving []
  | working {req : Req} {calls : List (Called Op Ans)} {op : Op}
      {next : Ans op → Process Op Ans View R} (h : Reaches (handler req) calls (.call op next)) :
      Pending (.working req op next) (.received req :: calls.map .called)
  | answering {req : Req} {calls : List (Called Op Ans)} {r : R}
      (h : Finishes (handler req) calls (some r)) :
      Pending (.answering req r) (.received req :: calls.map .called)
  | raised {req : Req} {calls : List (Called Op Ans)} (h : Finishes (handler req) calls none) :
      Pending (.excusing req) (.received req :: calls.map .called)
  | lost {req : Req} {calls : List (Called Op Ans)} {r : R}
      (h : Finishes (handler req) calls (some r)) :
      Pending (.excusing req) (.received req :: calls.map .called ++ [.sent req r false])
  | ended {state : State Op Ans View Req R} {entries : List (Entry Op Ans Req R)}
      (h : Pending state entries) : Pending .ended entries

/-- The log is that of the requests served, in order, and of the one in hand. -/
def Serves (s : Server Op Ans View Req R) : Prop :=
  ∃ (served : List (Req × List (Entry Op Ans Req R))) (pending : List (Entry Op Ans Req R)),
    s.log = (served.map Prod.snd).flatten ++ pending ∧
    (∀ p ∈ served, Served handler excuse p.1 p.2) ∧ Pending handler s.state pending

/-- The operations in a log. -/
def operations (log : List (Entry Op Ans Req R)) : List (Called Op Ans) :=
  log.filterMap fun entry =>
    match entry with
    | .called c => some c
    | _ => none

@[simp] theorem operations_append (log log' : List (Entry Op Ans Req R)) :
    operations (log ++ log') = operations log ++ operations log' :=
  List.filterMap_append

@[simp] theorem operations_received (req : Req) (log : List (Entry Op Ans Req R)) :
    operations (.received req :: log) = operations log := rfl

@[simp] theorem operations_sent (req : Req) (r : R) (delivered : Bool)
    (log : List (Entry Op Ans Req R)) :
    operations (.sent req r delivered :: log) = operations log := rfl

@[simp] theorem operations_called (calls : List (Called Op Ans)) :
    operations (calls.map .called : List (Entry Op Ans Req R)) = calls := by
  simp [operations, List.filterMap_map]

@[simp] theorem operations_nil : operations ([] : List (Entry Op Ans Req R)) = [] := rfl

theorem operations_flatten (logs : List (List (Entry Op Ans Req R))) :
    operations logs.flatten = (logs.map operations).flatten := by
  induction logs with
  | nil => rfl
  | cons log logs ih => simp [ih]

variable {handler excuse} {s s' : Server Op Ans View Req R} {e : Event Op Ans View Req}

/-- The operations of a serving are those of an execution. -/
theorem Served.finishes {req : Req} {entries : List (Entry Op Ans Req R)}
    (h : Served handler excuse req entries) :
    ∃ o, Finishes (handler req) (operations entries) o := by
  cases h with
  | answered h => exact ⟨_, by simpa using h⟩
  | lost h delivered => exact ⟨_, by simpa using h⟩
  | raised h delivered => exact ⟨_, by simpa using h⟩

/-- Those of the request in hand become an execution, at the latest if the next one raises. -/
theorem Pending.finishes {state : State Op Ans View Req R} {entries : List (Entry Op Ans Req R)}
    (h : Pending handler state entries) : entries = [] ∨ ∃ req o, ∃ extra : List (Called Op Ans),
      Finishes (handler req) (operations entries ++ extra) o ∧
        (extra = [] ∨ ∃ op, extra = [⟨op, none⟩]) := by
  induction h with
  | receiving => exact .inl rfl
  | working h => exact .inr ⟨_, _, [⟨_, none⟩], by simpa using Finishes.failed h, .inr ⟨_, rfl⟩⟩
  | answering h => exact .inr ⟨_, _, [], by simpa using h, .inl rfl⟩
  | raised h => exact .inr ⟨_, _, [], by simpa using h, .inl rfl⟩
  | lost h => exact .inr ⟨_, _, [], by simpa using h, .inl rfl⟩
  | ended h ih => exact ih

theorem Pending.of_receiving {entries : List (Entry Op Ans Req R)}
    (h : Pending handler .receiving entries) : entries = [] := by
  cases h
  rfl

/-- A handler that settles is pending, whatever it settles on. -/
theorem pending_enter {req : Req} {calls : List (Called Op Ans)} {p : Process Op Ans View R}
    (h : Reaches (handler req) calls p) (v : View) :
    Pending handler (enter req (p.settle v)) (.received req :: calls.map .called) := by
  have hsettled := h.trans (reaches_settle v p)
  rw [List.append_nil] at hsettled
  have hlook := settle_ne_look v p
  generalize p.settle v = q at hsettled hlook
  cases q with
  | ret r => exact .answering (.ret hsettled)
  | raise => exact .raised (.raise hsettled)
  | call op next => exact .working hsettled
  | look next => exact absurd rfl (hlook next)

theorem Serves.keep (h : Serves handler excuse s) {state : State Op Ans View Req R}
    {entries : List (Entry Op Ans Req R)}
    (hpending : ∀ pending, Pending handler s.state pending →
      Pending handler state (pending ++ entries)) :
    Serves handler excuse ⟨state, s.log ++ entries⟩ := by
  obtain ⟨served, pending, hlog, hserved, hp⟩ := h
  exact ⟨served, pending ++ entries, by rw [hlog, List.append_assoc], hserved,
    hpending pending hp⟩

theorem Serves.closed (h : Serves handler excuse s) : Serves handler excuse ⟨.ended, s.log⟩ := by
  obtain ⟨served, pending, hlog, hserved, hp⟩ := h
  exact ⟨served, pending, hlog, hserved, hp.ended⟩

/-- A request that is done joins those that were served before. -/
theorem Serves.finish (h : Serves handler excuse s) (req : Req) {entry : Entry Op Ans Req R}
    (hserved : ∀ pending, Pending handler s.state pending →
      Served handler excuse req (pending ++ [entry])) :
    Serves handler excuse ⟨.receiving, s.log ++ [entry]⟩ := by
  obtain ⟨served, pending, hlog, hall, hp⟩ := h
  refine ⟨served ++ [(req, pending ++ [entry])], [], ?_, ?_, .receiving⟩
  · simp [hlog]
  · intro p hp'
    rcases List.mem_append.mp hp' with hold | hnew
    · exact hall p hold
    · rw [List.mem_singleton.mp hnew]
      exact hserved pending hp

theorem listening_serves :
    Serves handler excuse (listening : Server Op Ans View Req R) :=
  ⟨[], [], rfl, by simp, .receiving⟩

variable [DecidableEq Op]

/-- The answer of this operation. -/
def answerTo (op : Op) (c : Called Op Ans) : Option (Option (Ans op)) :=
  if h : c.1 = op then some (h ▸ c.2) else none

theorem answerTo_eq {op : Op} {c : Called Op Ans} {a : Option (Ans op)}
    (h : answerTo op c = some a) : c = ⟨op, a⟩ := by
  obtain ⟨op', a'⟩ := c
  unfold answerTo at h
  split at h
  · rename_i hop
    cases hop
    cases h
    rfl
  · cases h

variable (handler excuse)

def step (s : Server Op Ans View Req R) : Event Op Ans View Req → Option (Server Op Ans View Req R)
  | .received req v =>
    match s.state with
    | .receiving => some ⟨enter req ((handler req).settle v), s.log ++ [.received req]⟩
    | _ => none
  | .answered c v =>
    match s.state with
    | .working req op next =>
      (answerTo op c).map fun a =>
        ⟨a.elim (.excusing req) (fun a => enter req ((next a).settle v)), s.log ++ [.called c]⟩
    | _ => none
  | .sent delivered =>
    match s.state with
    | .answering req r =>
      some ⟨if delivered then .receiving else .excusing req, s.log ++ [.sent req r delivered]⟩
    | .excusing req => some ⟨.receiving, s.log ++ [.sent req excuse delivered]⟩
    | _ => none
  | .receiveFailed =>
    match s.state with
    | .receiving => some ⟨.ended, s.log⟩
    | _ => none
  | .cancelled =>
    match s.state with
    | .ended => none
    | _ => some ⟨.ended, s.log⟩

variable {handler excuse}

theorem step_serves (h : Serves handler excuse s) (hstep : step handler excuse s e = some s') :
    Serves handler excuse s' := by
  obtain ⟨state, log⟩ := s
  cases e with
  | received req v =>
    cases state with
    | receiving =>
      cases hstep
      refine h.keep fun pending hp => ?_
      cases hp
      exact pending_enter (.refl _) v
    | _ => cases hstep
  | answered c v =>
    cases state with
    | working req op next =>
      obtain ⟨a, ha, rfl⟩ := Option.map_eq_some_iff.mp hstep
      cases answerTo_eq ha
      refine h.keep fun pending hp => ?_
      cases hp with
      | working hreach =>
        cases a with
        | none => simpa using Pending.raised (.failed hreach)
        | some a => simpa using pending_enter (hreach.trans (.call a (.refl _))) v
    | _ => cases hstep
  | sent delivered =>
    cases state with
    | answering req r =>
      cases hstep
      cases delivered with
      | true =>
        refine h.finish req fun pending hp => ?_
        cases hp with
        | answering hfinish => exact .answered hfinish
      | false =>
        refine h.keep fun pending hp => ?_
        cases hp with
        | answering hfinish => exact .lost hfinish
    | excusing req =>
      cases hstep
      refine h.finish req fun pending hp => ?_
      cases hp with
      | raised hfinish => exact .raised hfinish delivered
      | lost hfinish => simpa using Served.lost hfinish delivered
    | _ => cases hstep
  | receiveFailed =>
    cases state with
    | receiving =>
      cases hstep
      exact h.closed
    | _ => cases hstep
  | cancelled =>
    cases state with
    | ended => cases hstep
    | _ =>
      cases hstep
      exact h.closed

/-- The events that end the server. -/
def Ends : Event Op Ans View Req → Prop
  | .receiveFailed | .cancelled => True
  | _ => False

/-- What ends the server is never a handler. -/
theorem step_ended (hserves : Serves handler excuse s) (hlive : s.state ≠ .ended)
    (he : ¬ Ends e) (hstep : step handler excuse s e = some s') : s'.state ≠ .ended := by
  have henter : ∀ (req : Req) (p : Process Op Ans View R) (v : View),
      enter req (p.settle v) ≠ (.ended : State Op Ans View Req R) := by
    intro req p v
    have hlook := settle_ne_look v p
    generalize p.settle v = q at hlook
    cases q with
    | look next => exact absurd rfl (hlook next)
    | _ => exact fun h => by cases h
  obtain ⟨state, log⟩ := s
  cases e with
  | received req v =>
    cases state with
    | receiving =>
      cases hstep
      exact henter req (handler req) v
    | _ => cases hstep
  | answered c v =>
    cases state with
    | working req op next =>
      obtain ⟨a, -, rfl⟩ := Option.map_eq_some_iff.mp hstep
      cases a with
      | none => exact fun h => by cases h
      | some a => exact henter req (next a) v
    | _ => cases hstep
  | sent delivered =>
    cases state with
    | answering req r =>
      cases hstep
      cases delivered <;> exact fun h => by cases h
    | excusing req =>
      cases hstep
      exact fun h => by cases h
    | _ => cases hstep
  | receiveFailed => exact absurd trivial he
  | cancelled => exact absurd trivial he

/-- Whatever happens, the log is that of whole servings in the order of the requests, the last
one possibly under way. -/
theorem serves_of_run {path : List (Server Op Ans View Req R × Event Op Ans View Req)}
    (r : Run (step handler excuse) listening path s) : Serves handler excuse s :=
  (r.inductive_invariant (fun _ _ _ h hstep => step_serves h hstep) listening_serves).last

/-- The server ends only if it is cancelled, or if receiving fails. -/
theorem ended_of_run {path : List (Server Op Ans View Req R × Event Op Ans View Req)}
    (r : Run (step handler excuse) listening path s) (hended : s.state = .ended) :
    ∃ p ∈ path, Ends p.2 := by
  by_contra hnone
  have hall := r.invariant (I := fun s => Serves handler excuse s ∧ s.state ≠ .ended)
    (fun _ e _ h (he : ¬ Ends e) hstep => ⟨step_serves h.1 hstep, step_ended h.1 h.2 he hstep⟩)
    ⟨listening_serves, fun h => by cases h⟩ (fun p hp h => hnone ⟨p, hp, h⟩)
  exact hall.last.2 hended

end Serving

end SerialServer
