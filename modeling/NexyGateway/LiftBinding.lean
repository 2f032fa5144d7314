import NexyGateway.LiftProxy

/-!
# Binding

What a proxy is for: it is unbound until an identification round finds a lift, and
from then on it stands for that lift and no other. The fields of the code's proxy
represent this at every suspension point, whatever fails or is cancelled.
-/
namespace NexyGateway.LiftProxy

open Coroutines Runs

/-- The abstract proxy: no lift, or one lift and what is needed to talk to it. -/
inductive Binding where
  | unbound
  | ahl (newTable : Bool)
  | oneK
  deriving DecidableEq, Repr

namespace Binding

def liftType : Binding → LiftType
  | .unbound => .unknown
  | .ahl _ => .ahl
  | .oneK => .oneK

def handler : Binding → Option Handler
  | .unbound => none
  | .ahl _ => some .modbus
  | .oneK => some .rs232

def lib : Binding → Option Lib
  | .unbound => none
  | .ahl newTable => some (.ahl newTable)
  | .oneK => some .thousand

/-- The handlers whose bus is given up. -/
def losers : Binding → List Handler
  | .unbound => []
  | .ahl _ => [.rs232]
  | .oneK => [.modbus]

/-- A binding never changes into another one. -/
inductive Moves : Binding → Binding → Prop
  | stay (b : Binding) : Moves b b
  | bind (b : Binding) : Moves .unbound b

theorem Moves.trans {a b c : Binding} (h : Moves a b) (h' : Moves b c) : Moves a c := by
  cases h with
  | stay => exact h'
  | bind => exact .bind c

theorem Moves.of_bound {a b : Binding} (h : Moves a b) (ha : a ≠ .unbound) : b = a := by
  cases h with
  | stay => rfl
  | bind => exact absurd rfl ha

end Binding

/-- The handlers that the proxy had closed, newest first. -/
def closings (log : List Observation) : List Handler :=
  log.filterMap (fun o => match o with
    | .closing h => some h
    | _ => none)

def Observation.isPublication : Observation → Bool
  | .published _ => true
  | _ => false

/-- What was observed since the last publication. -/
def sinceBind (log : List Observation) : List Observation :=
  log.takeWhile (fun o => !o.isPublication)

/-- Every poll reads everything until one has returned since the bind. -/
def ForcedUntilReturn : List Observation → Prop
  | [] => True
  | .pollCalled force :: log =>
    (force = true ∨ .pollReturned ∈ sinceBind log) ∧ ForcedUntilReturn log
  | _ :: log => ForcedUntilReturn log

/-- The fields of the proxy that say what it is bound to, and what it closed. -/
structure Represents (c : Proxy) (b : Binding) : Prop where
  liftType : c.liftType = b.liftType
  handler : c.handler = b.handler
  lib : c.lib = b.lib
  modbusHandler : c.modbusHandler = if b = .unbound then some .modbus else none
  rs232Handler : c.rs232Handler = if b = .unbound then some .rs232 else none
  thousandLib : c.thousandLib = if b = .unbound then some .thousand else none
  closed : closings c.log = b.losers

/-- The cold-start flag: still set, or a poll has returned since the bind. -/
structure Sweeps (c : Proxy) : Prop where
  pending : .pollReturned ∈ sinceBind c.log ∨ c.forceReadAll = true
  forced : ForcedUntilReturn c.log

/-- The events that were sent, newest first, with the lift type of the proxy at that moment. -/
def sentEvents (log : List Observation) : List (ParamEvent × LiftType) :=
  log.filterMap (fun o => match o with
    | .sent event liftType => some (event, liftType)
    | _ => none)

/-- What one stretch can do apart from a publication, with the events it sends. -/
inductive Effect (c : Proxy) : List (ParamEvent × LiftType) → Proxy → Prop
  | lock (l : Bool) : Effect c [] { c with locked := l }
  | tell (o : Observation) (h : o = .attached c.liftType ∨ o = .announced c.liftType) :
      Effect c [] (({ c with eventSender := some c.liftType } : Proxy).observe o)
  | send (event : ParamEvent) :
      Effect c [(event, c.liftType)] (c.observe (.sent event c.liftType))
  | call (force : Bool) : Effect c [] (c.lock.observe (.pollCalled (force || c.forceReadAll)))
  | finish : Effect c []
      (({ c with forceReadAll := false, locked := false } : Proxy).observe .pollReturned)

theorem Effect.same (c : Proxy) : Effect c [] c := .lock c.locked

section Effect

variable {c c' : Proxy} {events : List (ParamEvent × LiftType)}

theorem Effect.represents {b : Binding} (h : Effect c events c') (hb : Represents c b) :
    Represents c' b := by
  cases h with
  | lock l => exact ⟨hb.1, hb.2, hb.3, hb.4, hb.5, hb.6, hb.7⟩
  | tell o ho =>
    refine ⟨hb.1, hb.2, hb.3, hb.4, hb.5, hb.6, ?_⟩
    rcases ho with rfl | rfl <;> exact hb.closed
  | send event => exact ⟨hb.1, hb.2, hb.3, hb.4, hb.5, hb.6, hb.7⟩
  | call force => exact ⟨hb.1, hb.2, hb.3, hb.4, hb.5, hb.6, hb.7⟩
  | finish => exact ⟨hb.1, hb.2, hb.3, hb.4, hb.5, hb.6, hb.7⟩

theorem Effect.sweeps (h : Effect c events c') (hs : Sweeps c) : Sweeps c' := by
  cases h with
  | lock l => exact ⟨hs.1, hs.2⟩
  | tell o ho =>
    rcases ho with rfl | rfl
    all_goals
      refine ⟨?_, hs.forced⟩
      simpa [Proxy.observe, sinceBind, Observation.isPublication] using hs.pending
  | send event =>
    refine ⟨?_, hs.forced⟩
    simpa [Proxy.observe, sinceBind, Observation.isPublication] using hs.pending
  | call force =>
    refine ⟨?_, ?_, hs.forced⟩
    · simpa [Proxy.observe, Proxy.lock, sinceBind, Observation.isPublication] using hs.pending
    · cases hs.pending with
      | inl h => exact .inr h
      | inr h => exact .inl (by simp [h])
  | finish =>
    refine ⟨?_, hs.forced⟩
    simp [Proxy.observe, sinceBind, Observation.isPublication]

theorem Effect.sent (h : Effect c events c') : sentEvents c'.log = events ++ sentEvents c.log := by
  cases h with
  | lock l => rfl
  | tell o ho => rcases ho with rfl | rfl <;> rfl
  | send event => rfl
  | call force => rfl
  | finish => rfl

end Effect

/-- The event that `_send_params` makes of a data list, if it makes one. -/
def dueEvents (data : List (Int × ParamValue)) (source : String) (c : Proxy) :
    List (ParamEvent × LiftType) :=
  match c.eventSender, c.lib with
  | some tag, some _ => if data = [] then [] else [(⟨tag, source, data⟩, c.liftType)]
  | _, _ => []

/-- The data list, and its source, that a call or a resumed task finds to send. -/
def startData : Request → List (Int × ParamValue) × String
  | .pushParamEvent ids view => (eventData view ids, "la.parameter.ddm")
  | _ => ([], "")

def resumeData (t : Point) (o : Outcome) (c : Proxy) : List (Int × ParamValue) × String :=
  match o with
  | .viewed view =>
    match t with
    | .notifying changed =>
      (eventData view (changed.filter (fun p => p ∈ getParamPushList view c)), pollingSource)
    | .dailySleeping => (eventData view (getParamPushList view c), pollingSource)
    | _ => ([], "")
  | _ => ([], "")

/-- The events of a resumed task's stretch. -/
def resumeEvents (t : Point) (o : Outcome) (c : Proxy) : List (ParamEvent × LiftType) :=
  dueEvents (resumeData t o c).1 (resumeData t o c).2 c

def startEvents (request : Request) (c : Proxy) : List (ParamEvent × LiftType) :=
  dueEvents (startData request).1 (startData request).2 c

/-- The data list that a step of the system finds to send, with its source. -/
def moveData (s : System Proxy Point) : Move Request Outcome → List (Int × ParamValue) × String
  | .call _ request => startData request
  | .wake id o => ((s.task id).map (fun t => resumeData t o s.shared)).getD ([], "")

def moveEvents (s : System Proxy Point) (m : Move Request Outcome) :
    List (ParamEvent × LiftType) :=
  dueEvents (moveData s m).1 (moveData s m).2 s.shared

theorem dueEvents_nil (source : String) (c : Proxy) : dueEvents [] source c = [] := by
  unfold dueEvents
  split
  · rfl
  · rfl

/-- A stretch that neither takes nor holds the lock, and that leaves the binding alone. -/
structure Outside (c : Proxy) (events : List (ParamEvent × LiftType))
    (r : Proxy × Option Point) : Prop where
  effect : Effect c events r.1
  point : r.2.any Point.holdsLock = false
  locked : r.1.locked = c.locked

theorem Outside.of_eq {c : Proxy} {r : Proxy × Option Point} (h : r.1 = c)
    (hp : r.2.any Point.holdsLock = false) : Outside c [] r :=
  ⟨h ▸ Effect.same c, hp, by rw [h]⟩

theorem Outside.done (c : Proxy) : Outside c [] (c, none) := .of_eq rfl rfl

theorem reidentify_fst (c : Proxy) : (reidentify c).1 = c := by
  unfold reidentify
  split <;> rfl

theorem reidentify_point (c : Proxy) : (reidentify c).2.any Point.holdsLock = false := by
  unfold reidentify
  split <;> rfl

theorem roundFailed_fst (who : Round) (c : Proxy) : (roundFailed who c).1 = c := by
  cases who with
  | startup => rfl
  | background => exact reidentify_fst c

theorem roundFailed_point (who : Round) (c : Proxy) :
    (roundFailed who c).2.any Point.holdsLock = false := by
  cases who with
  | startup => rfl
  | background => exact reidentify_point c

theorem roundFailed_outside (who : Round) (c : Proxy) : Outside c [] (roundFailed who c) :=
  .of_eq (roundFailed_fst who c) (roundFailed_point who c)

theorem onIdentified_outside (c : Proxy) : Outside c [] (onIdentified c) := by
  unfold onIdentified
  split
  · exact .of_eq rfl rfl
  · exact ⟨.tell _ (.inr rfl), rfl, rfl⟩

theorem roundReturned_outside (who : Round) (c : Proxy) : Outside c [] (roundReturned who c) := by
  cases who with
  | startup => exact .of_eq rfl rfl
  | background =>
    simp only [roundReturned]
    split
    · exact .of_eq (reidentify_fst c) (reidentify_point c)
    · exact onIdentified_outside c

theorem probeRs232_outside (who : Round) (rs232 : Option Handler) (c : Proxy) :
    Outside c [] (probeRs232 who rs232 c) := by
  cases rs232 with
  | some h => exact .of_eq rfl rfl
  | none => exact roundFailed_outside who c

theorem tryIdentify_outside (who : Round) (c : Proxy) : Outside c [] (tryIdentify who c) := by
  unfold tryIdentify
  split
  · exact .of_eq rfl rfl
  · exact probeRs232_outside who _ c

theorem pollFailed_outside (who : Caller) (c : Proxy) : Outside c [] (pollFailed who c) := by
  cases who <;> exact .of_eq rfl rfl

theorem pollParams_outside (who : Caller) (force : Bool) (c : Proxy) :
    Outside c [] (pollParams who force c) := by
  unfold pollParams
  split
  · exact .of_eq rfl rfl
  · cases who <;> exact .of_eq rfl rfl

theorem sendReturned_outside (who : Sender) (c : Proxy) : Outside c [] (sendReturned who c) := by
  cases who <;> exact .of_eq rfl rfl

/-- `_send_params` sends the due event, and nothing when there is none. -/
theorem sendParams_cases (ids : List Int) (source : String) (view : View) (c : Proxy) :
    (sendParams ids source view c = none ∧ dueEvents (eventData view ids) source c = []) ∨
      ∃ c', sendParams ids source view c = some c' ∧ ∀ who,
        Outside c (dueEvents (eventData view ids) source c) (c', some (.sending who)) := by
  cases htag : c.eventSender with
  | none => exact .inl ⟨by simp [sendParams, htag], by simp [dueEvents, htag]⟩
  | some tag =>
    cases hlib : c.lib with
    | none => exact .inl ⟨by simp [sendParams, hlib], by simp [dueEvents, hlib]⟩
    | some lib =>
      by_cases h : eventData view ids = []
      · exact .inl ⟨by simp [sendParams, htag, hlib, h], by simp [dueEvents, htag, hlib, h]⟩
      · refine .inr ⟨c.observe (.sent ⟨tag, source, eventData view ids⟩ c.liftType),
          by simp only [sendParams, htag, hlib, if_neg h], fun who => ?_⟩
        simp only [dueEvents, htag, hlib, if_neg h]
        exact ⟨.send _, rfl, rfl⟩

theorem pushOnChange_outside (changed : List Int) (view : View) (c : Proxy) :
    Outside c
      (dueEvents (eventData view (changed.filter (fun p => p ∈ getParamPushList view c)))
        pollingSource c) (pushOnChange changed view c) := by
  unfold pushOnChange
  rcases sendParams_cases (changed.filter (fun p => p ∈ getParamPushList view c)) pollingSource
    view c with ⟨h, hdue⟩ | ⟨c', h, hout⟩
  · simp only [h, hdue]
    exact .of_eq rfl rfl
  · simp only [h]
    exact hout .polling

theorem pushDaily_outside (view : View) (c : Proxy) :
    Outside c (dueEvents (eventData view (getParamPushList view c)) pollingSource c)
      (pushDaily view c) := by
  unfold pushDaily
  rcases sendParams_cases (getParamPushList view c) pollingSource view c with
    ⟨h, hdue⟩ | ⟨c', h, hout⟩
  · simp only [h, hdue]
    exact .of_eq rfl rfl
  · simp only [h]
    exact hout .daily

theorem pushParamEvent_outside (ids : List Int) (view : View) (c : Proxy) :
    Outside c (dueEvents (eventData view ids) "la.parameter.ddm" c) (pushParamEvent ids view c) := by
  unfold pushParamEvent
  rcases sendParams_cases ids "la.parameter.ddm" view c with ⟨h, hdue⟩ | ⟨c', h, hout⟩
  · simp only [h, hdue]
    exact .of_eq rfl rfl
  · simp only [h]
    exact hout .ddm

theorem Outside.starts {c : Proxy} {r : Proxy × Option Point} (h : Outside c [] r)
    {request : Request} (hd : startData request = ([], "")) :
    Outside c (startEvents request c) r := by
  rw [startEvents, hd, dueEvents_nil]
  exact h

theorem Outside.resumes {c : Proxy} {r : Proxy × Option Point} (h : Outside c [] r) {t : Point}
    {o : Outcome} (hd : resumeData t o c = ([], "")) : Outside c (resumeEvents t o c) r := by
  rw [resumeEvents, hd, dueEvents_nil]
  exact h

/-- No first stretch of a call touches the lock or the binding. -/
theorem start_outside (request : Request) (c : Proxy) :
    Outside c (startEvents request c) (start request c) := by
  cases request with
  | pushParamEvent ids view => exact pushParamEvent_outside ids view c
  | run =>
    refine Outside.starts ?_ rfl
    exact ⟨.tell _ (.inl rfl), rfl, rfl⟩
  | identify => exact (tryIdentify_outside .startup c).starts rfl
  | reidentifyLoop => exact Outside.starts (.of_eq (reidentify_fst c) (reidentify_point c)) rfl
  | pollingLoop => exact (pollParams_outside .loop false c).starts rfl
  | dailyLoop =>
    refine Outside.starts ?_ rfl
    exact .of_eq rfl rfl
  | pollParams force => exact (pollParams_outside .consumer force c).starts rfl
  | access kind =>
    refine Outside.starts ?_ rfl
    simp only [start]
    split <;> exact .of_eq rfl rfl

/-- The publication of a pair, by a task that has the lock. -/
inductive Publishes (c : Proxy) (t : Point) (r : Proxy × Option Point) : Prop
  | ahl (who : Round) (handler : Handler) (newTable : Bool) (loser : Option Handler)
      (ht : t = .detecting who handler loser)
      (hr : r = publish who .ahl handler (.ahl newTable) loser c)
  | oneK (who : Round) (handler : Handler) (lib : Lib) (ht : t = .bindWaiting who .oneK)
      (hfree : c.locked = false) (hhandler : c.rs232Handler = some handler)
      (hlib : c.thousandLib = some lib)
      (hr : r = publish who .oneK handler lib c.modbusHandler c)

/-- A stretch that takes the free lock and keeps it over its next await. -/
structure Enters (c : Proxy) (r : Proxy × Option Point) : Prop where
  effect : Effect c [] r.1
  free : c.locked = false
  locked : r.1.locked = true
  point : r.2.any Point.holdsLock = true
  /-- A detection starts with what the proxy holds. -/
  detecting : ∀ who h l, r.2 = some (.detecting who h l) →
    c.modbusHandler = some h ∧ l = c.rs232Handler

/-- A stretch by the holder of the lock, which goes on holding it or lets go of it. -/
structure Inside (c : Proxy) (r : Proxy × Option Point) : Prop where
  effect : Effect c [] r.1
  locked : c.locked = true → r.1.locked = r.2.any Point.holdsLock
  detecting : ∀ who h l, r.2 ≠ some (.detecting who h l)

theorem bindLocked_cases (who : Round) (liftType : LiftType) {c : Proxy} (h : c.locked = false) :
    Outside c [] (bindLocked who liftType c) ∨ Enters c (bindLocked who liftType c) ∨
      Publishes c (.bindWaiting who liftType) (bindLocked who liftType c) := by
  cases liftType with
  | unknown => exact .inl (roundReturned_outside who c)
  | ahl =>
    simp only [bindLocked]
    split
    · rename_i handler hmodbus
      refine .inr (.inl ⟨.lock true, h, rfl, rfl, ?_⟩)
      intro who' h' l hpoint
      cases hpoint
      exact ⟨hmodbus, rfl⟩
    · exact .inl (roundReturned_outside who c)
  | oneK =>
    simp only [bindLocked]
    split
    · rename_i handler lib hhandler hlib
      exact .inr (.inr (.oneK who handler lib rfl h hhandler hlib rfl))
    · exact .inl (roundReturned_outside who c)

theorem pollLocked_cases (who : Caller) (force : Bool) {c : Proxy} (h : c.locked = false) :
    Outside c [] (pollLocked who force c) ∨ Enters c (pollLocked who force c) := by
  unfold pollLocked
  split
  · exact .inl (pollFailed_outside who c)
  · refine .inr ⟨.call force, h, rfl, rfl, ?_⟩
    intro who' h' l hpoint
    cases hpoint

theorem pollReturned_inside (who : Caller) (changed : List Int) (c : Proxy) :
    Inside c (pollReturned who changed c) := by
  unfold pollReturned
  cases who with
  | consumer => exact ⟨.finish, fun _ => rfl, by simp⟩
  | loop =>
    by_cases h : changed = []
    · simp only [h, if_true]
      exact ⟨.finish, fun _ => rfl, by simp⟩
    · simp only [h, if_false]
      exact ⟨.finish, fun _ => rfl, by simp⟩

theorem accessReturned_inside (kind : Access) (status : Int) (c : Proxy) :
    Inside c (accessReturned kind status c) := by
  unfold accessReturned
  split
  · exact ⟨Effect.same c, fun h => by simpa [Point.holdsLock] using h, by simp⟩
  · exact ⟨.lock false, fun _ => rfl, by simp⟩

theorem release_inside {c : Proxy} {r : Proxy × Option Point} (h : r.1 = c.release)
    (hp : r.2.any Point.holdsLock = false) : Inside c r := by
  refine ⟨h ▸ Effect.lock false, fun _ => by rw [h, hp]; rfl, ?_⟩
  intro who handler l hpoint
  simp [hpoint, Point.holdsLock] at hp

theorem detected_cases (who : Round) (handler : Handler) (loser : Option Handler) (code : String)
    (c : Proxy) : Inside c (detected who handler loser code c) ∨
      Publishes c (.detecting who handler loser) (detected who handler loser code c) := by
  unfold detected
  split
  · exact .inr (.ahl who handler true loser rfl rfl)
  · split
    · exact .inr (.ahl who handler false loser rfl rfl)
    · exact .inl (release_inside (roundFailed_fst who _) (roundFailed_point who _))

/-- What a resumed task can do, by where it stands to the lock. -/
theorem resume_cases {t : Point} {o : Outcome} {c : Proxy} {r : Proxy × Option Point}
    (h : resume t o c = some r) :
    (t.holdsLock = false ∧ Outside c (resumeEvents t o c) r) ∨
      (resumeData t o c = ([], "") ∧
        ((t.holdsLock = false ∧ Enters c r) ∨ (t.holdsLock = true ∧ Inside c r) ∨
          Publishes c t r)) := by
  unfold resume at h
  split at h
  · cases h
    cases hold : t.holdsLock with
    | false =>
      exact .inl ⟨rfl, (Outside.of_eq (by simp [cancel, hold]) rfl).resumes rfl⟩
    | true =>
      exact .inr ⟨rfl, .inr (.inl ⟨rfl, release_inside (by simp [cancel, hold]) rfl⟩)⟩
  · refine .inl ⟨rfl, Outside.resumes ?_ rfl⟩
    split at h <;> cases h
    · exact .of_eq rfl rfl
    · exact probeRs232_outside _ _ c
  · cases h; exact .inl ⟨rfl, (probeRs232_outside _ _ c).resumes rfl⟩
  · refine .inl ⟨rfl, Outside.resumes ?_ rfl⟩
    split at h <;> cases h
    · exact .of_eq rfl rfl
    · exact roundFailed_outside _ c
  · cases h; exact .inl ⟨rfl, (roundFailed_outside _ c).resumes rfl⟩
  · rename_i who liftType
    split at h <;> cases h
    rename_i hfree
    rcases bindLocked_cases who liftType (by simpa using hfree) with h | h | h
    · exact .inl ⟨rfl, h.resumes rfl⟩
    · exact .inr ⟨rfl, .inl ⟨rfl, h⟩⟩
    · exact .inr ⟨rfl, .inr (.inr h)⟩
  · cases h
    rename_i who handler loser code
    rcases detected_cases who handler loser code c with h | h
    · exact .inr ⟨rfl, .inr (.inl ⟨rfl, h⟩)⟩
    · exact .inr ⟨rfl, .inr (.inr h)⟩
  · cases h
    exact .inr ⟨rfl, .inr (.inl ⟨rfl,
      release_inside (roundFailed_fst _ _) (roundFailed_point _ _)⟩)⟩
  · cases h; exact .inl ⟨rfl, (roundReturned_outside _ c).resumes rfl⟩
  · cases h; exact .inl ⟨rfl, (roundFailed_outside _ c).resumes rfl⟩
  · cases h; exact .inl ⟨rfl, (Outside.done c).resumes rfl⟩
  · cases h; exact .inl ⟨rfl, (Outside.done c).resumes rfl⟩
  · cases h; exact .inl ⟨rfl, (tryIdentify_outside _ c).resumes rfl⟩
  · rename_i who force
    split at h <;> cases h
    rename_i hfree
    rcases pollLocked_cases who force (by simpa using hfree) with h | h
    · exact .inl ⟨rfl, h.resumes rfl⟩
    · exact .inr ⟨rfl, .inl ⟨rfl, h⟩⟩
  · cases h; exact .inr ⟨rfl, .inr (.inl ⟨rfl, pollReturned_inside _ _ c⟩)⟩
  · cases h
    exact .inr ⟨rfl, .inr (.inl ⟨rfl, release_inside (by cases ‹Caller› <;> rfl)
      (by cases ‹Caller› <;> rfl)⟩)⟩
  · cases h; exact .inl ⟨rfl, pushOnChange_outside _ _ c⟩
  · cases h; exact .inl ⟨rfl, (sendReturned_outside _ c).resumes rfl⟩
  · cases h; exact .inl ⟨rfl, (pollParams_outside _ _ c).resumes rfl⟩
  · cases h; exact .inl ⟨rfl, pushDaily_outside _ c⟩
  · split at h <;> cases h
    rename_i hfree
    refine .inr ⟨rfl, .inl ⟨rfl, .lock true, by simpa using hfree, rfl, rfl, ?_⟩⟩
    intro who h' l hpoint
    cases hpoint
  · cases h; exact .inr ⟨rfl, .inr (.inl ⟨rfl, accessReturned_inside _ _ c⟩)⟩
  · cases h; exact .inr ⟨rfl, .inr (.inl ⟨rfl, release_inside rfl rfl⟩)⟩
  · cases h; exact .inr ⟨rfl, .inr (.inl ⟨rfl, release_inside rfl rfl⟩)⟩
  · cases h; exact .inr ⟨rfl, .inr (.inl ⟨rfl, release_inside rfl rfl⟩)⟩
  · cases h

/-- Publishing frees the lock, whatever becomes of the loser. -/
theorem publish_free (who : Round) (liftType : LiftType) (handler : Handler) (lib : Lib)
    (loser : Option Handler) (c : Proxy) :
    (publish who liftType handler lib loser c).1.locked = false ∧
      (publish who liftType handler lib loser c).2.any Point.holdsLock = false := by
  cases loser with
  | some h => exact ⟨rfl, rfl⟩
  | none =>
    simp only [publish]
    exact ⟨(roundReturned_outside who _).locked, (roundReturned_outside who _).point⟩

theorem Publishes.free {c : Proxy} {t : Point} {r : Proxy × Option Point} (h : Publishes c t r) :
    r.1.locked = false ∧ r.2.any Point.holdsLock = false := by
  cases h with
  | ahl who handler newTable loser ht hr => exact hr ▸ publish_free ..
  | oneK who handler lib ht hfree hhandler hlib hr => exact hr ▸ publish_free ..

/-- `handler_lock` is used the way a lock has to be. -/
theorem program_locking : Locking program Proxy.locked Point.holdsLock where
  start request c := .inl ⟨(start_outside request c).point, (start_outside request c).locked⟩
  outside t o c r hold hr := by
    rcases resume_cases hr with ⟨-, h⟩ | ⟨-, ⟨-, h⟩ | ⟨htrue, -⟩ | h⟩
    · exact .inl ⟨h.point, h.locked⟩
    · exact .inr ⟨h.point, h.free, h.locked⟩
    · simp [hold] at htrue
    · refine .inl ⟨h.free.2, ?_⟩
      cases h with
      | ahl who handler newTable loser ht hr' => simp [ht, Point.holdsLock] at hold
      | oneK who handler lib ht hfree hhandler hlib hr' => rw [hr', hfree]; exact (publish_free ..).1
  inside t o c r hold hlocked hr := by
    rcases resume_cases hr with ⟨hfalse, -⟩ | ⟨-, ⟨hfalse, -⟩ | ⟨-, h⟩ | h⟩
    · simp [hold] at hfalse
    · simp [hold] at hfalse
    · exact h.locked hlocked
    · exact h.free.1.trans h.free.2.symm

/-- The proxy at the end of a publication with a losing handler. -/
theorem publish_represents {c : Proxy} {b : Binding} (hc : Represents c .unbound)
    (hb : b ≠ .unbound) (who : Round) {handler : Handler} {lib : Lib} {loser : Handler}
    (hhandler : b.handler = some handler) (hlib : b.lib = some lib) (hlosers : b.losers = [loser]) :
    Represents (publish who b.liftType handler lib (some loser) c).1 b where
  liftType := rfl
  handler := hhandler.symm
  lib := hlib.symm
  modbusHandler := by simp [publish, Proxy.observe, hb]
  rs232Handler := by simp [publish, Proxy.observe, hb]
  thousandLib := by simp [publish, Proxy.observe, hb]
  closed := by
    have hold := hc.closed
    simp only [closings, Binding.losers] at hold
    simp [publish, Proxy.observe, closings, hlosers, hold]

theorem publish_sweeps {c : Proxy} (hs : Sweeps c) (who : Round) (liftType : LiftType)
    (handler : Handler) (lib : Lib) (loser : Handler) :
    Sweeps (publish who liftType handler lib (some loser) c).1 :=
  ⟨.inr rfl, hs.forced⟩

/-- What holds between any two stretches of a proxy that stands for a binding. -/
structure Sound (s : System Proxy Point) (b : Binding) : Prop where
  exclusive : Exclusive Proxy.locked Point.holdsLock s
  represents : Represents s.shared b
  sweeps : Sweeps s.shared
  detecting : ∀ i who h l, s.task i = some (.detecting who h l) →
    b = .unbound ∧ h = .modbus ∧ l = some .rs232

theorem boot_sound : Sound (boot createHandlers) .unbound where
  exclusive := boot_exclusive _
  represents := ⟨rfl, rfl, rfl, rfl, rfl, rfl, rfl⟩
  sweeps := ⟨.inr rfl, trivial⟩
  detecting i who h l ht := by simp at ht

/-- A detection goes on only while the proxy is unbound: whoever binds it has the lock. -/
theorem Sound.of_effect {s : System Proxy Point} {b : Binding} (h : Sound s b) {id : Nat}
    {r : Proxy × Option Point} {events : List (ParamEvent × LiftType)}
    (heffect : Effect s.shared events r.1)
    (hexcl : Exclusive Proxy.locked Point.holdsLock ⟨r.1, assign s.task id r.2⟩)
    (hnew : ∀ who h l, r.2 = some (.detecting who h l) →
      s.shared.modbusHandler = some h ∧ l = s.shared.rs232Handler) :
    Sound ⟨r.1, assign s.task id r.2⟩ b where
  exclusive := hexcl
  represents := heffect.represents h.represents
  sweeps := heffect.sweeps h.sweeps
  detecting i who handler l ht := by
    rcases assign_cases ht with ⟨-, hr⟩ | ⟨-, hold⟩
    · obtain ⟨hmodbus, hl⟩ := hnew who handler l hr
      rw [h.represents.modbusHandler] at hmodbus
      by_cases hb : b = .unbound
      · simp only [hb, if_true, Option.some.injEq] at hmodbus
        refine ⟨hb, hmodbus.symm, ?_⟩
        rw [hl, h.represents.rs232Handler, if_pos hb]
      · simp [hb] at hmodbus
    · exact h.detecting i who handler l hold

theorem Sound.of_publish {s : System Proxy Point} (h : Sound s .unbound) {id : Nat} {b : Binding}
    (hb : b ≠ .unbound) (who : Round) {handler : Handler} {lib : Lib} {loser : Handler}
    (hhandler : b.handler = some handler) (hlib : b.lib = some lib) (hlosers : b.losers = [loser])
    {r : Proxy × Option Point} (hr : r = publish who b.liftType handler lib (some loser) s.shared)
    (hexcl : Exclusive Proxy.locked Point.holdsLock ⟨r.1, assign s.task id r.2⟩) :
    Sound ⟨r.1, assign s.task id r.2⟩ b where
  exclusive := hexcl
  represents := hr ▸ publish_represents h.represents hb who hhandler hlib hlosers
  sweeps := hr ▸ publish_sweeps h.sweeps who _ handler lib loser
  detecting i who' handler' l ht := by
    -- the lock is free after a publication, so nothing is being detected any more
    have hfree := hexcl.free (hr ▸ (publish_free who _ handler lib (some loser) s.shared).1) ht
    simp [Point.holdsLock] at hfree

/-- A step of a sound system: an effect on the proxy, or the publication of a first pair. -/
inductive Stepped (s : System Proxy Point) (b : Binding) (m : Move Request Outcome)
    (s' : System Proxy Point) : Prop
  | effect (h : Effect s.shared (moveEvents s m) s'.shared) (hs : Sound s' b)
  | publication (b' : Binding) (who : Round) (handler : Handler) (lib : Lib) (loser : Handler)
      (hb : b = .unbound) (hb' : b' ≠ .unbound) (hevents : moveEvents s m = [])
      (hshared : s'.shared = (publish who b'.liftType handler lib (some loser) s.shared).1)
      (hs : Sound s' b')

theorem step_sound {s s' : System Proxy Point} {b : Binding} {m : Move Request Outcome}
    (h : Sound s b) (hstep : step program s m = some s') : Stepped s b m s' := by
  have hexcl := program_locking.exclusive h.exclusive hstep
  obtain ⟨id, request, rfl, -, rfl⟩ | ⟨id, o, t, r, rfl, ht, hr, rfl⟩ := step_cases hstep
  · have hout := start_outside request s.shared
    refine .effect hout.effect (h.of_effect hout.effect hexcl fun who h' l hpoint => ?_)
    have := hout.point
    simp [show (start request s.shared).2 = _ from hpoint, Point.holdsLock] at this
  · have hmove : moveEvents s (.wake id o) = resumeEvents t o s.shared := by
      simp [moveEvents, moveData, ht, resumeEvents]
    rcases resume_cases hr with ⟨-, hr⟩ | ⟨hdata, hr⟩
    · refine .effect (hmove ▸ hr.effect) (h.of_effect hr.effect hexcl fun who h' l hpoint => ?_)
      have := hr.point
      simp [hpoint, Point.holdsLock] at this
    have hnone : moveEvents s (.wake id o) = [] := by
      rw [hmove, resumeEvents, hdata, dueEvents_nil]
    rcases hr with ⟨-, hr⟩ | ⟨-, hr⟩ | hr
    · exact .effect (hnone ▸ hr.effect) (h.of_effect hr.effect hexcl hr.detecting)
    · refine .effect (hnone ▸ hr.effect) (h.of_effect hr.effect hexcl fun who h' l hpoint => ?_)
      exact absurd hpoint (hr.detecting who h' l)
    · cases hr with
      | ahl who handler newTable loser htask hr =>
        obtain ⟨rfl, rfl, rfl⟩ := h.detecting id who handler loser (htask ▸ ht)
        exact .publication (.ahl newTable) who _ _ _ rfl (by simp) hnone (by rw [hr]; rfl)
          (h.of_publish (by simp) who rfl rfl rfl hr hexcl)
      | oneK who handler lib htask hlock hhandler hlib hr =>
        have hb : b = .unbound := by
          by_contra hb
          rw [h.represents.rs232Handler, if_neg hb] at hhandler
          cases hhandler
        subst hb
        rw [h.represents.rs232Handler, if_pos rfl] at hhandler
        rw [h.represents.thousandLib, if_pos rfl] at hlib
        rw [h.represents.modbusHandler, if_pos rfl] at hr
        exact .publication .oneK who _ _ _ rfl (by simp) hnone (by rw [hr]; rfl)
          (h.of_publish (b := .oneK) (by simp) who hhandler hlib rfl hr hexcl)

theorem Stepped.moves {s s' : System Proxy Point} {b : Binding} {m : Move Request Outcome}
    (h : Stepped s b m s') : ∃ b', Binding.Moves b b' ∧ Sound s' b' := by
  cases h with
  | effect h hs => exact ⟨b, .stay b, hs⟩
  | publication b' who handler lib loser hb hb' hevents hshared hs =>
    exact ⟨b', hb ▸ .bind b', hs⟩

/-- From a proxy that stands for a binding, every run leads to one that stands for the same
binding, or for the first one. -/
theorem run_sound {s t : System Proxy Point} {b : Binding}
    {path : List (System Proxy Point × Move Request Outcome)} (r : Run (step program) s path t)
    (h : Sound s b) : ∃ b', Binding.Moves b b' ∧ Sound t b' := by
  induction r generalizing b with
  | nil s => exact ⟨b, .stay b, h⟩
  | cons first rest ih =>
    obtain ⟨b', hmove, h'⟩ := (step_sound h first).moves
    obtain ⟨b'', hmove', h''⟩ := ih h'
    exact ⟨b'', hmove.trans hmove', h''⟩

/-- The first shape of a proxy: both candidates are held and neither is closed. -/
structure Unbound (c : Proxy) : Prop where
  liftType : c.liftType = .unknown
  handler : c.handler = none
  lib : c.lib = none
  modbusHandler : c.modbusHandler = some .modbus
  rs232Handler : c.rs232Handler = some .rs232
  thousandLib : c.thousandLib = some .thousand
  noneClosed : closings c.log = []

/-- The second shape: the pair of a lift type, no candidates, and at most the loser closed. -/
structure Bound (T : LiftType) (c : Proxy) : Prop where
  liftType : c.liftType = T
  pair : (T = .ahl ∧ c.handler = some .modbus ∧ ∃ newTable, c.lib = some (.ahl newTable)) ∨
    (T = .oneK ∧ c.handler = some .rs232 ∧ c.lib = some .thousand)
  modbusHandler : c.modbusHandler = none
  rs232Handler : c.rs232Handler = none
  thousandLib : c.thousandLib = none
  notClosed : ∀ h, c.handler = some h → h ∉ closings c.log
  closedOnce : ∀ h, (closings c.log).count h ≤ 1

theorem Represents.unbound {c : Proxy} (h : Represents c .unbound) : Unbound c :=
  ⟨h.liftType, h.handler, h.lib, h.modbusHandler, h.rs232Handler, h.thousandLib, h.closed⟩

theorem Represents.bound {c : Proxy} {b : Binding} (h : Represents c b) (hb : b ≠ .unbound) :
    Bound b.liftType c where
  liftType := h.liftType
  pair := by
    cases b with
    | unbound => exact absurd rfl hb
    | ahl newTable => exact .inl ⟨rfl, h.handler, newTable, h.lib⟩
    | oneK => exact .inr ⟨rfl, h.handler, h.lib⟩
  modbusHandler := by rw [h.modbusHandler, if_neg hb]
  rs232Handler := by rw [h.rs232Handler, if_neg hb]
  thousandLib := by rw [h.thousandLib, if_neg hb]
  notClosed := by
    rw [h.handler, h.closed]
    cases b <;> simp [Binding.handler, Binding.losers]
  closedOnce := by
    rw [h.closed]
    cases b with
    | unbound => exact absurd rfl hb
    | ahl newTable => exact fun h => List.count_le_length
    | oneK => exact fun h => List.count_le_length

theorem Bound.binding {c : Proxy} {b : Binding} {T : LiftType} (h : Represents c b)
    (hc : Bound T c) : b ≠ .unbound := by
  rintro rfl
  have := hc.modbusHandler
  simp [h.modbusHandler] at this

/-- Every reachable proxy has one of the two shapes, keeps the second one with its pair in every
run from there, and sweeps until a poll has returned. -/
theorem bind_invariant {s t : System Proxy Point}
    {path path' : List (System Proxy Point × Move Request Outcome)}
    (r : Run (step program) (boot createHandlers) path s) (r' : Run (step program) s path' t) :
    (Unbound s.shared ∨ ∃ T, Bound T s.shared) ∧
      (∀ T, Bound T s.shared → Bound T t.shared ∧
        t.shared.handler = s.shared.handler ∧ t.shared.lib = s.shared.lib) ∧
      ForcedUntilReturn s.shared.log := by
  obtain ⟨b, -, hs⟩ := run_sound r boot_sound
  obtain ⟨b', hmove, ht⟩ := run_sound r' hs
  refine ⟨?_, ?_, hs.sweeps.forced⟩
  · by_cases hb : b = .unbound
    · exact .inl (hb ▸ hs.represents).unbound
    · exact .inr ⟨_, hs.represents.bound hb⟩
  · intro T hbound
    have hb := hbound.binding hs.represents
    obtain rfl : b' = b := hmove.of_bound hb
    have hsame : b'.liftType = T := hs.represents.liftType.symm.trans hbound.liftType
    refine ⟨hsame ▸ ht.represents.bound hb, ?_, ?_⟩
    · rw [ht.represents.handler, hs.represents.handler]
    · rw [ht.represents.lib, hs.represents.lib]

/-- A lift that answers only the second probe, and the poll that follows. -/
def oneKRound : List (Move Request Outcome) :=
  [.call 0 .identify, .wake 0 .raised, .wake 0 (.answered "NO_ERR"), .wake 0 .acquired]

def firstPoll : List (Move Request Outcome) :=
  [.call 1 (.pollParams false), .wake 1 .acquired, .wake 0 .cancelled, .wake 1 (.polled [7])]

theorem bind_invariant_oneKRound : ∃ s t : System Proxy Point,
    exec (step program) (boot createHandlers) oneKRound = some s ∧
      exec (step program) s firstPoll = some t ∧ Bound .oneK t.shared := by
  cases hs : exec (step program) (boot createHandlers) oneKRound with
  | none => cases hs
  | some s =>
    cases ht : exec (step program) s firstPoll with
    | none => cases hs; cases ht
    | some t =>
      obtain ⟨hshape, hkept, -⟩ := bind_invariant (exec_run hs) (exec_run ht)
      have hbound : Bound .oneK s.shared := by
        cases hs
        rcases hshape with h | ⟨T, h⟩
        · cases h.liftType
        · obtain rfl := h.liftType
          exact h
      exact ⟨s, t, rfl, ht, (hkept .oneK hbound).1⟩

end NexyGateway.LiftProxy
