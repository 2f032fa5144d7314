import Mathlib.Data.List.Nodup
import NexyGateway.AhlCoherence
import NexyGateway.Announcements
import NexyGateway.DesiredTwin
import NexyGateway.DirectMethods

/-!
# Telemetry of an AHL lift

The polling loop, the daily loop and the direct methods of `liftApi/lift_proxy.py` over
the cache of an AHL lift, with the updates that they hand to `EventSender.send_event`. The
last update with a parameter has the cached value, or the parameter is still to be sent.
Whether an update that was handed over gets to the cloud is not known here: a sending that
fails is only logged.
-/
namespace NexyGateway.AhlTelemetry

open AhlLib Announcements DesiredTwin PyJson Runs
open AhlCache hiding step Event
open DirectMethods (ahlGetParam)
open LiftProxy (Sender Lib pollingSource)

/-- The value that `get_param_value` gives without an error. -/
def known (cache : Cache) (id : Int) : Option Json :=
  if (ahlGetParam cache id).2 = .NO_ERR then some (ahlGetParam cache id).1 else none

/-- A `la.parameters.update` event. -/
structure Update where
  source : String
  data : List (Int × Json)

/-- Where the polling loop is, with the ids that its poll has changed. -/
inductive Cycle where
  | sleeping
  | polling (changed : List Nat)
  | notifying (changed : List Nat)

structure Gateway where
  link : Link
  cycle : Cycle
  /-- Which senders wait for the cloud client. -/
  sending : Sender → Bool
  /-- What the supervisor was told. -/
  notices : List (List (Int × Json))
  updates : List Update

/-- After the bind, with a library that knows nothing of the lift yet. -/
def started (lcm : Lcm) : Gateway := ⟨bound lcm fun _ => none, .sleeping, fun _ => false, [], []⟩

def ids (changed : List Nat) : List Int := changed.map Int.ofNat

/-- `_send_params` up to the message being handed over. -/
def Gateway.sendParams (who : Sender) (source : String) (paramIds : List Int) (g : Gateway) :
    Gateway :=
  match batch (known g.link.cache) paramIds with
  | [] => g
  | item :: data =>
    { g with
      sending := fun w => if w = who then true else g.sending w
      updates := g.updates ++ [⟨source, item :: data⟩] }

/-- A sweep that goes on, or the end of a poll, of which the supervisor hears first. -/
def Gateway.polled (link : Link) (changed : List Nat) (g : Gateway) : Gateway :=
  match link.activity, changed with
  | .sweeping _, _ => { g with link := link, cycle := .polling changed }
  | _, [] => { g with link := link, cycle := .sleeping }
  | _, _ =>
    { g with
      link := link
      cycle := .notifying changed
      notices := g.notices ++ [batch (known link.cache) (ids changed)] }

/-- The rest of a cycle of `_polling_loop`; what the push list raises ends the cycle. -/
def Gateway.pushOnChange (newTable : Bool) (doc : Json) (changed : List Nat) (g : Gateway) :
    Gateway :=
  match getParamPushList (some doc) (some (.ahl newTable)) "onChange" with
  | .error _ => { g with cycle := .sleeping }
  | .ok pushList =>
    ({ g with cycle := .sleeping } : Gateway).sendParams .polling pollingSource
      ((ids changed).filter fun p => p ∈ pushList)

/-- One cycle of `_daily_loop`. -/
def Gateway.pushDaily (newTable : Bool) (doc : Json) (g : Gateway) : Gateway :=
  match getParamPushList (some doc) (some (.ahl newTable)) "daily" with
  | .error _ => g
  | .ok pushList => g.sendParams .daily pollingSource pushList

/-- The ids that `set_param` reports for a value that was read. -/
def updated (param : Nat) (value : Option Int) (cache : Cache) : List Nat :=
  match value with
  | none => []
  | some v => (setParam param v cache).2.1

/-- A written value goes to the cache, and `push_param_event` follows without an await. -/
def Gateway.written (link : Link) (param : Nat) (g : Gateway) : Gateway :=
  ({ g with link := link } : Gateway).sendParams .ddm "la.parameter.ddm" [(param : Int)]

inductive Event where
  | change (param : Nat) (r : Register)
  | poll (ok : Bool)
  | read (ok : Bool)
  | push (doc : Json)
  | daily (doc : Json)
  | sent (who : Sender)
  | writeParam (oldLcm : Bool) (param value : String)
  | writeReadParam (oldLcm : Bool) (param value : String)
  | mirror
  | readBack (ok : Bool)

/-- What an event is for the link to the lift. -/
def Event.onLink : Event → Option AhlCache.Event
  | .change param r => some (.change param r)
  | .poll ok => some (.poll false ok)
  | .read ok => some (.read ok)
  | .writeParam oldLcm param value => some (.writeParam oldLcm param value)
  | .writeReadParam oldLcm param value => some (.writeReadParam oldLcm param value)
  | .mirror => some .mirror
  | .readBack ok => some (.readBack ok)
  | _ => none

/-- The listener for direct methods takes the next request when the last one is answered. -/
def Gateway.listening (g : Gateway) : Bool := !g.sending .ddm

def step (newTable : Bool) (g : Gateway) : Event → Option Gateway
  | .change param r =>
    some { g with link := { g.link with lcm := g.link.lcm.change (pollingTable newTable) param r } }
  | .poll ok =>
    match g.cycle, g.link.activity with
    | .sleeping, .idle =>
      if g.sending .polling then none
      else some (g.polled (g.link.poll (pollingTable newTable) false ok) [])
    | _, _ => none
  | .read ok =>
    match g.cycle, g.link.activity with
    | .polling changed, .sweeping (param :: rest) =>
      some (g.polled (g.link.readNext ok param rest)
        (changed ++ updated param (g.link.readParam ok param).1 g.link.cache))
    | _, _ => none
  | .push doc =>
    match g.cycle with
    | .notifying changed => some (g.pushOnChange newTable doc changed)
    | _ => none
  | .daily doc => if g.sending .daily then none else some (g.pushDaily newTable doc)
  | .sent who =>
    if g.sending who then some { g with sending := fun w => if w = who then false else g.sending w }
    else none
  | .writeParam oldLcm param value =>
    if g.listening then
      (AhlCache.step newTable g.link (.writeParam oldLcm param value)).map
        fun link => { g with link := link }
    else none
  | .writeReadParam oldLcm param value =>
    if g.listening then
      (AhlCache.step newTable g.link (.writeReadParam oldLcm param value)).map
        fun link => { g with link := link }
    else none
  | .mirror =>
    match g.link.activity with
    | .mirroring param value => some (g.written (g.link.mirror param value) param)
    | _ => none
  | .readBack ok =>
    match g.link.activity with
    | .readingBack param =>
      match (g.link.readParam ok param).1 with
      | none => some { g with link := g.link.readBack ok param }
      | some _ => some (g.written (g.link.readBack ok param) param)
    | _ => none

/-! ### What a step does to the link -/

section Link

variable {newTable : Bool} {g g' : Gateway} {e : Event}

@[simp] theorem sendParams_link (who : Sender) (source : String) (paramIds : List Int)
    (g : Gateway) : (g.sendParams who source paramIds).link = g.link := by
  unfold Gateway.sendParams
  split <;> rfl

@[simp] theorem sendParams_cycle (who : Sender) (source : String) (paramIds : List Int)
    (g : Gateway) : (g.sendParams who source paramIds).cycle = g.cycle := by
  unfold Gateway.sendParams
  split <;> rfl

@[simp] theorem sendParams_notices (who : Sender) (source : String) (paramIds : List Int)
    (g : Gateway) : (g.sendParams who source paramIds).notices = g.notices := by
  unfold Gateway.sendParams
  split <;> rfl

@[simp] theorem polled_link (link : Link) (changed : List Nat) (g : Gateway) :
    (g.polled link changed).link = link := by
  unfold Gateway.polled
  split <;> rfl

@[simp] theorem pushOnChange_link (doc : Json) (changed : List Nat) (g : Gateway) :
    (g.pushOnChange newTable doc changed).link = g.link := by
  unfold Gateway.pushOnChange
  split <;> simp

@[simp] theorem pushDaily_link (doc : Json) (g : Gateway) :
    (g.pushDaily newTable doc).link = g.link := by
  unfold Gateway.pushDaily
  split <;> simp

/-- What is sent does not touch the link: the gateway's steps are the link's, or none. -/
theorem step_link (hstep : step newTable g e = some g') :
    match e.onLink with
    | some e' => AhlCache.step newTable g.link e' = some g'.link
    | none => g'.link = g.link := by
  cases e with
  | change param r =>
    cases hstep
    rfl
  | poll ok =>
    simp only [step] at hstep
    split at hstep
    · rename_i hidle
      split at hstep <;> cases hstep
      simp [Event.onLink, AhlCache.step, hidle]
    · cases hstep
  | read ok =>
    simp only [step] at hstep
    split at hstep <;> cases hstep
    rename_i hact
    simp [Event.onLink, AhlCache.step, hact]
  | push doc =>
    simp only [step] at hstep
    split at hstep <;> cases hstep
    exact pushOnChange_link doc _ g
  | daily doc =>
    simp only [step] at hstep
    split at hstep <;> cases hstep
    exact pushDaily_link doc g
  | sent who =>
    simp only [step] at hstep
    split at hstep <;> cases hstep
    rfl
  | writeParam oldLcm param value =>
    simp only [step] at hstep
    split at hstep
    · obtain ⟨link, hlink, rfl⟩ := Option.map_eq_some_iff.mp hstep
      exact hlink
    · cases hstep
  | writeReadParam oldLcm param value =>
    simp only [step] at hstep
    split at hstep
    · obtain ⟨link, hlink, rfl⟩ := Option.map_eq_some_iff.mp hstep
      exact hlink
    · cases hstep
  | mirror =>
    simp only [step] at hstep
    split at hstep <;> cases hstep
    rename_i hact
    simp [Event.onLink, AhlCache.step, Gateway.written, hact]
  | readBack ok =>
    simp only [step] at hstep
    split at hstep
    · rename_i hact
      split at hstep <;> cases hstep <;> simp [Event.onLink, AhlCache.step, Gateway.written, hact]
    · cases hstep

end Link

/-! ### What was told -/

/-- Everything that was told of the parameters, which is handed over, oldest first. -/
def Gateway.history (g : Gateway) : List (Int × Json) := g.updates.flatMap Update.data

/-- The parameter is on the list of a poll that has not been pushed yet. -/
def Gateway.Waits (g : Gateway) (param : Nat) : Prop :=
  match g.cycle with
  | .sleeping => False
  | .polling changed | .notifying changed => param ∈ changed

/-- The last update with the parameter has the cached value, or one is due. -/
def Gateway.Current (g : Gateway) (param : Nat) : Prop :=
  told g.history (param : Int) = known g.link.cache (param : Int) ∨ g.Waits param

/-- The stretch after a poll leaves the parameter out, although another value was told last:
the push list does not have it, or reading the list raises. -/
def Drops (newTable : Bool) (param : Nat) (g : Gateway) : Event → Prop
  | .push doc => ∃ changed, g.cycle = .notifying changed ∧ param ∈ changed ∧
      told g.history (param : Int) ≠ known g.link.cache (param : Int) ∧
      ∀ pushList, getParamPushList (some doc) (some (.ahl newTable)) "onChange" = .ok pushList →
        (param : Int) ∉ pushList
  | _ => False

section Known

variable {cache : Cache} {param : Nat}

theorem known_nat (cache : Cache) (param : Nat) :
    known cache (param : Int) = if inDatabase param then (cache param).map Json.int else none := by
  unfold known ahlGetParam
  by_cases h : inDatabase param = true
  · cases hv : cache param <;> simp [h, hv]
  · simp [h]

theorem known_negSucc (cache : Cache) (n : Nat) : known cache (.negSucc n) = none := by
  have h : ¬ 0 ≤ Int.negSucc n := by omega
  simp [known, ahlGetParam, h]

/-- A library that takes a value in forgets none. -/
theorem known_setParam (value : Int) (cache : Cache) (id : Int)
    (h : known (setParam param value cache).1 id = none) : known cache id = none := by
  cases id with
  | negSucc n => exact known_negSucc cache n
  | ofNat p =>
    rw [Int.ofNat_eq_natCast, known_nat] at h ⊢
    by_cases hp : p = param
    · subst hp
      split_ifs with hknown
      · rw [if_pos hknown, setParam_same value cache hknown] at h
        cases h
      · rfl
    · rwa [setParam_other value cache hp] at h

theorem known_setParam_other {p : Nat} (value : Int) (cache : Cache) (h : p ≠ param) :
    known (setParam param value cache).1 (p : Int) = known cache (p : Int) := by
  rw [known_nat, known_nat, setParam_other value cache h]

/-- What `set_param` does not report it does not change. -/
theorem setParam_silent (value : Int) (cache : Cache) (h : param ∉ (setParam param value cache).2.1) :
    (setParam param value cache).1 = cache := by
  unfold setParam at h ⊢
  split_ifs with hknown hsame
  · rfl
  · simp [hknown, hsame] at h
  · rfl

end Known

section Sending

variable {g : Gateway}

@[simp] theorem sendParams_history (who : Sender) (source : String) (paramIds : List Int)
    (g : Gateway) : (g.sendParams who source paramIds).history =
      g.history ++ batch (known g.link.cache) paramIds := by
  unfold Gateway.sendParams Gateway.history
  split
  · rename_i hnone
    simp [hnone]
  · rename_i item data hsome
    simp [hsome]

/-- An update keeps what was current, and makes current what it is about. -/
theorem told_sent (h : Founded (known g.link.cache) g.history) (who : Sender) (source : String)
    (paramIds : List Int) (id : Int) :
    told (g.sendParams who source paramIds).history id =
      if id ∈ paramIds then known g.link.cache id else told g.history id := by
  rw [sendParams_history, h.told_announced]

end Sending

/-! ### Steps by what they do -/

/-- The cache with what a read has given. -/
def stored (param : Nat) (value : Option Int) (cache : Cache) : Cache :=
  match value with
  | none => cache
  | some v => (setParam param v cache).1

/-- Events that neither start a poll nor push what one has changed. -/
def Event.Aside : Event → Prop
  | .poll _ | .push _ => False
  | _ => True

inductive Stepped (newTable : Bool) (g : Gateway) : Event → Gateway → Prop
  /-- Nothing is cached, sent or pushed. -/
  | quiet (e : Event) (g' : Gateway) (haside : e.Aside)
      (hcache : g'.link.cache = g.link.cache) (hcycle : g'.cycle = g.cycle)
      (hnotices : g'.notices = g.notices) (hupdates : g'.updates = g.updates)
      (hsweep : ∀ remaining, g.link.activity = .sweeping remaining →
        g'.link.activity = .sweeping remaining) : Stepped newTable g e g'
  | poll (ok : Bool) (hcycle : g.cycle = .sleeping) (hidle : g.link.activity = .idle) :
      Stepped newTable g (.poll ok)
        (g.polled (g.link.poll (pollingTable newTable) false ok) [])
  | read (ok : Bool) (changed rest : List Nat) (param : Nat)
      (hcycle : g.cycle = .polling changed)
      (hact : g.link.activity = .sweeping (param :: rest)) : Stepped newTable g (.read ok)
        (g.polled (g.link.readNext ok param rest)
          (changed ++ updated param (g.link.readParam ok param).1 g.link.cache))
  | push (doc : Json) (changed : List Nat) (hcycle : g.cycle = .notifying changed) :
      Stepped newTable g (.push doc) (g.pushOnChange newTable doc changed)
  | daily (doc : Json) : Stepped newTable g (.daily doc) (g.pushDaily newTable doc)
  | written (e : Event) (link : Link) (param : Nat) (value : Int) (haside : e.Aside)
      (hact : ∀ remaining, g.link.activity ≠ .sweeping remaining)
      (hcache : link.cache = (setParam param value g.link.cache).1) :
      Stepped newTable g e (g.written link param)

section Steps

variable {newTable : Bool} {g g' : Gateway} {e : Event}

@[simp] theorem readParam_cache (s : Link) (ok : Bool) (param : Nat) :
    (s.readParam ok param).2.cache = s.cache := by
  unfold Link.readParam
  split <;> rfl

@[simp] theorem readParam_activity (s : Link) (ok : Bool) (param : Nat) :
    (s.readParam ok param).2.activity = s.activity := by
  unfold Link.readParam
  split <;> rfl

@[simp] theorem sweep_cache (remaining : List Nat) (s : Link) :
    (s.sweep remaining).cache = s.cache := by
  cases remaining <;> rfl

theorem poll_cache (table : Nat → List Nat) (force ok : Bool) (s : Link) :
    (s.poll table force ok).cache = s.cache := by
  unfold Link.poll
  dsimp only
  split_ifs
  · simp
  · split
    · simp [Link.finish]
    · split_ifs <;> simp [Link.finish]

theorem readNext_cache (s : Link) (ok : Bool) (param : Nat) (rest : List Nat) :
    (s.readNext ok param rest).cache = stored param (s.readParam ok param).1 s.cache := by
  have hcache := readParam_cache s ok param
  unfold Link.readNext
  generalize s.readParam ok param = read at hcache ⊢
  obtain ⟨value, s'⟩ := read
  cases value with
  | none => exact (sweep_cache rest s').trans hcache
  | some v =>
    have hs' : s'.cache = s.cache := hcache
    simp only [sweep_cache, stored, hs']

theorem readBack_cache (s : Link) {ok : Bool} {param : Nat} {v : Int}
    (hvalue : (s.readParam ok param).1 = some v) :
    (s.readBack ok param).cache = (setParam param v s.cache).1 := by
  unfold Link.readBack
  simp [hvalue, Link.mirror]

/-- The link's part of a write caches nothing. -/
theorem step_write {s s' : Link} {oldLcm : Bool} {param value : String}
    (h : AhlCache.step newTable s (.writeParam oldLcm param value) = some s' ∨
      AhlCache.step newTable s (.writeReadParam oldLcm param value) = some s') :
    s'.cache = s.cache ∧ s.activity = .idle := by
  obtain ⟨lcm, cache, force, activity⟩ := s
  rcases h with h | h <;> cases activity <;> simp only [AhlCache.step, reduceCtorEq] at h <;>
    obtain ⟨w, -, rfl⟩ := Option.map_eq_some_iff.mp h <;> exact ⟨rfl, rfl⟩

theorem step_cases (hstep : step newTable g e = some g') : Stepped newTable g e g' := by
  cases e with
  | change param r =>
    cases hstep
    exact .quiet _ _ trivial rfl rfl rfl rfl fun _ h => h
  | poll ok =>
    simp only [step] at hstep
    split at hstep
    · rename_i hcycle hidle
      split at hstep <;> cases hstep
      exact .poll ok hcycle hidle
    · cases hstep
  | read ok =>
    simp only [step] at hstep
    split at hstep <;> cases hstep
    rename_i hcycle hact
    exact .read ok _ _ _ hcycle hact
  | push doc =>
    simp only [step] at hstep
    split at hstep <;> cases hstep
    rename_i hcycle
    exact .push doc _ hcycle
  | daily doc =>
    simp only [step] at hstep
    split at hstep <;> cases hstep
    exact .daily doc
  | sent who =>
    simp only [step] at hstep
    split at hstep <;> cases hstep
    exact .quiet _ _ trivial rfl rfl rfl rfl fun _ h => h
  | writeParam oldLcm param value =>
    simp only [step] at hstep
    split at hstep
    · obtain ⟨link, hlink, rfl⟩ := Option.map_eq_some_iff.mp hstep
      obtain ⟨hcache, hidle⟩ := step_write (.inl hlink)
      exact .quiet _ _ trivial hcache rfl rfl rfl fun _ h => by simp [hidle] at h
    · cases hstep
  | writeReadParam oldLcm param value =>
    simp only [step] at hstep
    split at hstep
    · obtain ⟨link, hlink, rfl⟩ := Option.map_eq_some_iff.mp hstep
      obtain ⟨hcache, hidle⟩ := step_write (.inr hlink)
      exact .quiet _ _ trivial hcache rfl rfl rfl fun _ h => by simp [hidle] at h
    · cases hstep
  | mirror =>
    simp only [step] at hstep
    split at hstep <;> cases hstep
    rename_i param value hact
    exact .written _ _ param value trivial (by simp [hact]) rfl
  | readBack ok =>
    simp only [step] at hstep
    split at hstep
    · rename_i param hact
      split at hstep <;> cases hstep
      · rename_i hnone
        refine .quiet _ _ trivial ?_ rfl rfl rfl fun _ h => by simp [hact] at h
        simp [Link.readBack, hnone]
      · rename_i v hvalue
        exact .written _ _ param v trivial (by simp [hact]) (readBack_cache _ hvalue)
    · cases hstep

end Steps

/-! ### What is told follows the cache -/

section Following

variable {newTable : Bool} {g g' : Gateway} {e : Event} {param : Nat}

/-- A value that a read gives is reported, or it was cached. -/
theorem known_stored (p : Nat) (value : Option Int) (cache : Cache) :
    known (stored p value cache) (param : Int) = known cache (param : Int) ∨
      param ∈ updated p value cache := by
  cases value with
  | none => exact .inl rfl
  | some v =>
    by_cases hp : param = p
    · subst hp
      by_cases hmem : param ∈ (setParam param v cache).2.1
      · exact .inr hmem
      · left
        rw [stored, setParam_silent v cache hmem]
    · exact .inl (known_setParam_other v cache hp)

theorem known_of_stored (p : Nat) (value : Option Int) (cache : Cache) (id : Int)
    (h : known (stored p value cache) id = none) : known cache id = none := by
  cases value with
  | none => exact h
  | some v => exact known_setParam v cache id h

@[simp] theorem polled_history (link : Link) (changed : List Nat) (g : Gateway) :
    (g.polled link changed).history = g.history := by
  unfold Gateway.polled Gateway.history
  split <;> rfl

theorem polled_waits (link : Link) (changed : List Nat) (g : Gateway) :
    (g.polled link changed).Waits param ↔ param ∈ changed := by
  unfold Gateway.polled Gateway.Waits
  cases changed <;> cases link.activity <;> simp

theorem polled_current {link : Link} {changed : List Nat}
    (h : told g.history (param : Int) = known link.cache (param : Int) ∨ param ∈ changed) :
    (g.polled link changed).Current param := by
  unfold Gateway.Current
  rwa [polled_history, polled_link, polled_waits]

/-- An update makes current what it is about and leaves the rest as it was. -/
theorem sendParams_current (hfounded : Founded (known g.link.cache) g.history)
    (h : g.Current param) (who : Sender) (source : String) (paramIds : List Int) :
    (g.sendParams who source paramIds).Current param := by
  unfold Gateway.Current Gateway.Waits
  rw [told_sent hfounded, sendParams_link, sendParams_cycle]
  split
  · exact .inl rfl
  · exact h

theorem mem_ids {changed : List Nat} : (param : Int) ∈ ids changed ↔ param ∈ changed := by
  simp [ids]

/-- The push after a poll: the parameters of the poll that it leaves out are settled by what
was told of them before. -/
theorem pushOnChange_current (hfounded : Founded (known g.link.cache) g.history)
    (h : g.Current param) {changed : List Nat} (hcycle : g.cycle = .notifying changed)
    (doc : Json) :
    (g.pushOnChange newTable doc changed).Current param ↔
      ¬ Drops newTable param g (.push doc) := by
  have hwaits : told g.history (param : Int) = known g.link.cache (param : Int) ∨
      param ∈ changed := by
    simpa [Gateway.Current, Gateway.Waits, hcycle] using h
  have hdrops : Drops newTable param g (.push doc) ↔ param ∈ changed ∧
      told g.history (param : Int) ≠ known g.link.cache (param : Int) ∧
      ∀ pushList, getParamPushList (some doc) (some (.ahl newTable)) "onChange" = .ok pushList →
        (param : Int) ∉ pushList := by
    simp [Drops, hcycle]
  rw [hdrops]
  unfold Gateway.pushOnChange
  cases hlist : getParamPushList (some doc) (some (.ahl newTable)) "onChange" with
  | error exception =>
    have hcurrent : ({ g with cycle := .sleeping } : Gateway).Current param ↔
        told g.history (param : Int) = known g.link.cache (param : Int) := by
      simp [Gateway.Current, Gateway.Waits, Gateway.history]
    simp only [hcurrent, reduceCtorEq, false_imp_iff, implies_true, and_true, not_and, not_not]
    exact ⟨fun htold _ => htold, fun hmem => hwaits.elim id hmem⟩
  | ok pushList =>
    have hsent : (({ g with cycle := .sleeping } : Gateway).sendParams .polling pollingSource
        ((ids changed).filter fun p => p ∈ pushList)).Current param ↔
        told g.history (param : Int) = known g.link.cache (param : Int) ∨
          param ∈ changed ∧ (param : Int) ∈ pushList := by
      unfold Gateway.Current Gateway.Waits
      rw [told_sent (g := { g with cycle := .sleeping }) hfounded, sendParams_link,
        sendParams_cycle]
      simp only [List.mem_filter, mem_ids, decide_eq_true_eq, or_false]
      split_ifs with hmem
      · simp [hmem]
      · simp [hmem, Gateway.history]
    rw [hsent]
    constructor
    · rintro hcurrent ⟨hmem, htold, hleft⟩
      exact hcurrent.elim htold fun hin => hleft pushList rfl hin.2
    · intro hkept
      by_cases htold : told g.history (param : Int) = known g.link.cache (param : Int)
      · exact .inl htold
      · right
        have hmem := hwaits.resolve_left htold
        refine ⟨hmem, ?_⟩
        by_contra hout
        refine hkept ⟨hmem, htold, fun list hok => ?_⟩
        cases hok
        exact hout

theorem sendParams_founded (h : Founded (known g.link.cache) g.history) (who : Sender)
    (source : String) (paramIds : List Int) :
    Founded (known (g.sendParams who source paramIds).link.cache)
      (g.sendParams who source paramIds).history := by
  rw [sendParams_link, sendParams_history]
  exact h.announced paramIds

theorem step_founded (h : Founded (known g.link.cache) g.history)
    (hstep : step newTable g e = some g') : Founded (known g'.link.cache) g'.history := by
  cases step_cases hstep with
  | quiet e g' haside hcache hcycle hnotices hupdates =>
    rw [hcache, Gateway.history, hupdates]
    exact h
  | poll ok =>
    rw [polled_link, polled_history, poll_cache]
    exact h
  | read ok changed rest param =>
    rw [polled_link, polled_history, readNext_cache]
    exact h.gains (known_of_stored param _ _)
  | push doc changed =>
    unfold Gateway.pushOnChange
    split
    · exact h
    · exact sendParams_founded (g := { g with cycle := .sleeping }) h _ _ _
  | daily doc =>
    unfold Gateway.pushDaily
    split
    · exact h
    · exact sendParams_founded h _ _ _
  | written e link param value haside hact hcache =>
    refine sendParams_founded (g := { g with link := link }) ?_ _ _ _
    rw [hcache]
    exact h.gains (known_setParam value g.link.cache)

theorem step_current_iff (hfounded : Founded (known g.link.cache) g.history)
    (h : g.Current param) (hstep : step newTable g e = some g') :
    g'.Current param ↔ ¬ Drops newTable param g e := by
  have hnever : e.Aside → ¬ Drops newTable param g e := by
    intro haside hdrops
    cases e with
    | push doc => exact haside
    | _ => exact hdrops
  cases step_cases hstep with
  | quiet e g' haside hcache hcycle hnotices hupdates =>
    have hsame : g'.Current param ↔ g.Current param := by
      unfold Gateway.Current Gateway.Waits Gateway.history
      rw [hcache, hcycle, hupdates]
    exact iff_of_true (hsame.mpr h) (hnever haside)
  | poll ok hcycle =>
    refine iff_of_true (polled_current (.inl ?_)) id
    rw [poll_cache]
    exact h.resolve_right (by simp [Gateway.Waits, hcycle])
  | read ok changed rest p hcycle =>
    refine iff_of_true (polled_current ?_) (hnever trivial)
    have hwaits : told g.history (param : Int) = known g.link.cache (param : Int) ∨
        param ∈ changed := by
      simpa [Gateway.Current, Gateway.Waits, hcycle] using h
    rw [readNext_cache, List.mem_append]
    have hstored := @known_stored param p (g.link.readParam ok p).1 g.link.cache
    rcases hstored with hsame | hmem
    · rw [hsame]
      exact hwaits.imp_right .inl
    · exact .inr (.inr hmem)
  | push doc changed hcycle => exact pushOnChange_current hfounded h hcycle doc
  | daily doc =>
    refine iff_of_true ?_ (hnever trivial)
    unfold Gateway.pushDaily
    split
    · exact h
    · exact sendParams_current hfounded h _ _ _
  | written e link p value haside hact hcache =>
    refine iff_of_true ?_ (hnever haside)
    have hlater : Founded (known link.cache) g.history := by
      rw [hcache]
      exact hfounded.gains (known_setParam value g.link.cache)
    by_cases hp : param = p
    · subst hp
      left
      rw [Gateway.written, told_sent (g := { g with link := link }) hlater, sendParams_link]
      exact if_pos (List.mem_singleton.mpr rfl)
    · refine sendParams_current (g := { g with link := link }) hlater ?_ _ _ _
      unfold Gateway.Current
      rw [hcache, known_setParam_other value g.link.cache hp]
      exact h

/-- In a run whose exchanges with the lift are harmless and whose pushes do not drop it, the
register's value of a parameter was told last, or the lift has flagged it, or a poll is about
to read it, or its update is due. -/
theorem told_register (newTable : Bool) {param : Nat} (hcovered : Covered newTable param) (lcm : Lcm)
    {path : List (Gateway × Event)} {g : Gateway} (r : Run (step newTable) (started lcm) path g)
    (hlink : Meets (fun g e => ∀ e', e.onLink = some e' → Harmless newTable g.link e') path)
    (hpush : Meets (fun g e => ¬ Drops newTable param g e) path) :
    Always (fun g => told g.history (param : Int) = some (.int (g.link.lcm.reg param).val) ∨
      Flagged (pollingTable newTable) g.link.lcm param ∨ Awaited g.link param ∨ g.Waits param)
      path g := by
  have hall : Always (fun g => Tracked newTable g.link ∧
      Founded (known g.link.cache) g.history ∧ g.Current param) path g := by
    refine r.invariant (fun g e g' h (hok : (∀ e', e.onLink = some e' →
      Harmless newTable g.link e') ∧ ¬ Drops newTable param g e) hstep => ⟨?_,
        step_founded h.2.1 hstep, (step_current_iff h.2.1 h.2.2 hstep).mpr hok.2⟩)
      ⟨bound_tracked lcm _, fun id _ => rfl, ?_⟩ fun p hp => ⟨hlink p hp, hpush p hp⟩
    · have hlinked := step_link hstep
      cases honlink : e.onLink with
      | none =>
        rw [honlink] at hlinked
        rw [hlinked]
        exact h.1
      | some e' =>
        rw [honlink] at hlinked
        exact step_tracked h.1 (hok.1 e' honlink) hlinked
    · left
      rw [known_nat]
      split <;> rfl
  refine hall.mono fun g h => ?_
  obtain ⟨htracked, -, hcurrent⟩ := h
  rcases hcurrent with htold | hwaits
  · rcases htracked.covered param hcovered with hfresh | hflagged | hawaited
    · left
      rw [htold, known_nat, if_pos hcovered.known, hfresh]
      rfl
    · exact .inr (.inl hflagged)
    · exact .inr (.inr (.inl hawaited))
  · exact .inr (.inr (.inr hwaits))

/-- The first poll with its push. Parameter 12 changes before its turn comes, and its read
fails. -/
def firstCycle : List Event :=
  .poll true :: List.replicate 10 (.read true) ++
    [.change 12 risen, .read true, .read false] ++ List.replicate 141 (.read true) ++
    [.push (.dict []), .sent .polling]

/-- A change, a poll by the flags with its push, a write by a direct method, and a daily push. -/
def secondCycle : List Event :=
  [.change 20 risen, .poll true] ++ List.replicate 31 (.read true) ++
    [.push (.dict []), .sent .polling, .writeParam false "5" "4", .mirror, .sent .ddm,
      .daily (.dict [])]

/-- The number that was told last. -/
def Gateway.toldInt (g : Gateway) (id : Int) : Option Int :=
  match told g.history id with
  | some (.int n) => some n
  | _ => none

theorem told_of_toldInt {id n : Int} (h : g.toldInt id = some n) :
    told g.history id = some (.int n) := by
  unfold Gateway.toldInt at h
  split at h
  · rename_i m hm
    cases h
    exact hm
  · cases h

/-- A careful exchange with the lift, and a push list with the parameter. -/
def careful (newTable : Bool) (param : Nat) (g : Gateway) (e : Event) : Bool :=
  e.onLink.all (AhlCache.careful newTable g.link) &&
    match e with
    | .push doc =>
      match getParamPushList (some doc) (some (.ahl newTable)) "onChange" with
      | .ok pushList => (param : Int) ∈ pushList
      | .error _ => false
    | _ => true

theorem harmless_of_careful (g : Gateway) (e : Event)
    (h : careful newTable param g e = true) : ∀ e', e.onLink = some e' →
      Harmless newTable g.link e' := by
  intro e' he
  simp only [careful, he, Option.all_some, Bool.and_eq_true] at h
  exact AhlCache.harmless_of_careful g.link e' h.1

theorem notDrops_of_careful (g : Gateway) (e : Event)
    (h : careful newTable param g e = true) : ¬ Drops newTable param g e := by
  cases e with
  | push doc =>
    rintro ⟨changed, -, -, -, hleft⟩
    simp only [careful, Bool.and_eq_true] at h
    cases hlist : getParamPushList (some doc) (some (.ahl newTable)) "onChange" with
    | error e => simp [hlist] at h
    | ok pushList =>
      rw [hlist] at h
      exact hleft pushList hlist (of_decide_eq_true h.2)
  | _ => exact id

/-- The first cycle passes over parameter 12, and the second one tells of it. -/
theorem exec_cycles : ∃ s t : Gateway, exec (step false) (started still) firstCycle = some s ∧
    s.link.forceReadAll = false ∧ s.toldInt 12 = none ∧
    exec (step false) (started still) (firstCycle ++ secondCycle) = some t ∧
    t.link.activity = .idle ∧ [12, 20, 5].map t.toldInt = [some 3, some 3, some 4] ∧
    (trace (step false) (started still) (firstCycle ++ secondCycle)).all
      (fun p => careful false 12 p.1 p.2) = true := by
  have hrun : (exec (step false) (started still) firstCycle).map
        (fun s => (s.link.forceReadAll, s.toldInt 12)) = some (false, none) ∧
      (exec (step false) (started still) (firstCycle ++ secondCycle)).map
        (fun t => (t.link.activity, [12, 20, 5].map t.toldInt)) =
          some (.idle, [some 3, some 3, some 4]) ∧
      (trace (step false) (started still) (firstCycle ++ secondCycle)).all
        (fun p => careful false 12 p.1 p.2) = true := by decide +kernel
  obtain ⟨hfirst, hend, hcareful⟩ := hrun
  obtain ⟨s, hs, hsfields⟩ := Option.map_eq_some_iff.mp hfirst
  obtain ⟨t, ht, htfields⟩ := Option.map_eq_some_iff.mp hend
  obtain ⟨hcleared, huntold⟩ := Prod.mk.inj hsfields
  obtain ⟨hidle, htold⟩ := Prod.mk.inj htfields
  exact ⟨s, t, hs, hcleared, huntold, ht, hidle, htold, hcareful⟩

theorem told_register_cycles : ∃ s t : Gateway,
    exec (step false) (started still) firstCycle = some s ∧ s.link.forceReadAll = false ∧
    exec (step false) (started still) (firstCycle ++ secondCycle) = some t ∧
    t.link.activity = .idle ∧ told t.history 12 = some (.int 3) ∧
    Always (fun g => told g.history 12 = some (.int (g.link.lcm.reg 12).val) ∨
      Flagged (pollingTable false) g.link.lcm 12 ∨ Awaited g.link 12 ∨ g.Waits 12)
      (trace (step false) (started still) (firstCycle ++ secondCycle)) t := by
  obtain ⟨s, t, hs, hcleared, -, ht, hidle, htold, hcareful⟩ := exec_cycles
  exact ⟨s, t, hs, hcleared, ht, hidle, told_of_toldInt (List.cons.inj htold).1,
    told_register false ⟨by decide, by decide, 0, by decide, by decide⟩ still (exec_run ht)
      (meets_of_check harmless_of_careful hcareful)
      (meets_of_check notDrops_of_careful hcareful)⟩

end Following

/-! ### What a poll reports -/

def Cycle.changed : Cycle → List Nat
  | .sleeping => []
  | .polling changed | .notifying changed => changed

def Cycle.isPolling : Cycle → Bool
  | .polling _ => true
  | _ => false

/-- The ids whose value is another one, each of them once, and that value is known. -/
structure Difference (changed : List Nat) (before after : Cache) : Prop where
  once : changed.Nodup
  mem_iff : ∀ param, param ∈ changed ↔ after param ≠ before param
  valued : ∀ param ∈ changed, known after (param : Int) ≠ none

/-- A poll under way, with what it has left to read. -/
structure Sweep (changed remaining : List Nat) (before after : Cache) : Prop where
  difference : Difference changed before after
  distinct : remaining.Nodup
  unread : ∀ param ∈ remaining, param ∉ changed

section Polls

variable {newTable : Bool} {g g' : Gateway} {e : Event} {before cache : Cache}

theorem decodeChangeFlags_sublist (table : Nat → List Nat) (bitmask : Int) :
    (decodeChangeFlags table bitmask).Sublist ((List.range 31).flatMap table) := by
  unfold decodeChangeFlags
  induction List.range 31 with
  | nil => exact .slnil
  | cons bit bits ih =>
    rw [List.flatMap_cons, List.flatMap_cons]
    refine .append ?_ ih
    split
    · exact .refl _
    · exact List.nil_sublist _

/-- The group of a covered parameter. -/
def groupOf (newTable : Bool) (param : Nat) : Nat :=
  if param < 80 then param / 16
  else if param < 94 then 5
  else if param < 110 then 6
  else if param < 126 then 7
  else if newTable then
    if param < 130 then 8
    else if param < 322 then (param + 14) / 16
    else if param < 340 then 21
    else if param < 353 then 22
    else if param < 365 then 8
    else if param < 372 then 22
    else (param - 4) / 16
  else if param < 368 then 8
  else (param - 224) / 16

theorem groupOf_eq (newTable : Bool) : ∀ bit < 31, ∀ param ∈ pollingTable newTable bit,
    groupOf newTable param = bit := by
  cases newTable <;> decide +kernel

theorem group_nodup (newTable : Bool) : ∀ bit < 31, (pollingTable newTable bit).Nodup := by
  cases newTable <;> decide +kernel

/-- No parameter is in two groups. -/
theorem pollingTable_nodup (newTable : Bool) :
    ((List.range 31).flatMap (pollingTable newTable)).Nodup := by
  refine List.nodup_flatMap.mpr ⟨fun bit hbit => group_nodup newTable bit (List.mem_range.mp hbit),
    List.nodup_range.imp_of_mem fun hbit hbit' hne param hmem hmem' => hne ?_⟩
  rw [← groupOf_eq newTable _ (List.mem_range.mp hbit) param hmem,
    groupOf_eq newTable _ (List.mem_range.mp hbit') param hmem']

theorem decodeChangeFlags_nodup (newTable : Bool) (bitmask : Int) :
    ((decodeChangeFlags (pollingTable newTable) bitmask).filter fun p => inDatabase p).Nodup :=
  ((decodeChangeFlags_sublist _ bitmask).nodup (pollingTable_nodup newTable)).filter _

theorem Difference.nothing (cache : Cache) : Difference [] cache cache :=
  ⟨.nil, fun param => by simp, by simp⟩

/-- None of the changed ids is missing from what is told of them. -/
theorem Difference.batch_ids {changed : List Nat} {after : Cache}
    (h : Difference changed before after) :
    (batch (known after) (ids changed)).map Prod.fst = ids changed := by
  have hvalued := h.valued
  clear h
  induction changed with
  | nil => rfl
  | cons p changed ih =>
    obtain ⟨hp, hrest⟩ := List.forall_mem_cons.mp hvalued
    obtain ⟨v, hv⟩ := Option.ne_none_iff_exists'.mp hp
    have hcons : batch (known after) (ids (p :: changed)) =
        ((p : Int), v) :: batch (known after) (ids changed) :=
      List.filterMap_cons_some (by simp [hv])
    rw [hcons, List.map_cons, ih hrest]
    rfl

/-- One read: a value that is reported differs from what was there before the poll. -/
theorem Sweep.read {changed rest : List Nat} {param : Nat}
    (h : Sweep changed (param :: rest) before cache) (value : Option Int) :
    Sweep (changed ++ updated param value cache) rest before (stored param value cache) := by
  obtain ⟨hfirst, hrest⟩ := List.nodup_cons.mp h.distinct
  have hunread : param ∉ changed := h.unread param List.mem_cons_self
  have hquiet : Sweep changed rest before cache :=
    ⟨h.difference, hrest, fun p hp => h.unread p (List.mem_cons_of_mem _ hp)⟩
  cases value with
  | none => simpa [updated, stored] using hquiet
  | some v =>
    by_cases hmem : param ∈ (setParam param v cache).2.1
    · have hknown : inDatabase param = true ∧ cache param ≠ some v := by
        unfold setParam at hmem
        split_ifs at hmem with hknown hsame
        · cases hmem
        · exact ⟨hknown, hsame⟩
        · cases hmem
      have hupdated : updated param (some v) cache = [param] := by
        simp [updated, setParam, hknown]
      have hsame : cache param = before param := by
        by_contra hne
        exact hunread ((h.difference.mem_iff param).mpr hne)
      rw [hupdated, stored]
      refine ⟨⟨?_, fun p => ?_, fun p hp => ?_⟩, hrest, fun p hp => ?_⟩
      · exact List.nodup_append.mpr ⟨h.difference.once, by simp,
          fun p hp q hq heq => hunread (List.mem_singleton.mp hq ▸ heq ▸ hp)⟩
      · rw [List.mem_append, List.mem_singleton]
        by_cases hp : p = param
        · subst hp
          rw [setParam_same v cache hknown.1, ← hsame]
          exact iff_of_true (.inr rfl) fun heq => hknown.2 heq.symm
        · rw [setParam_other v cache hp, ← h.difference.mem_iff]
          simp [hp]
      · rcases List.mem_append.mp hp with hold | hnew
        · exact fun hnone => h.difference.valued p hold (known_setParam v cache p hnone)
        · rw [List.mem_singleton.mp hnew, known_nat, if_pos hknown.1,
            setParam_same v cache hknown.1]
          exact Option.some_ne_none _
      · rw [List.mem_append, List.mem_singleton]
        rintro (hin | rfl)
        · exact h.unread p (List.mem_cons_of_mem _ hp) hin
        · exact hfirst hp
    · have hupdated : updated param (some v) cache = [] := by
        unfold updated setParam at *
        split_ifs at hmem ⊢ <;> simp_all
      rw [hupdated, stored, setParam_silent v cache hmem, List.append_nil]
      exact hquiet

theorem sweep_activity (remaining : List Nat) (s : Link) :
    (s.sweep remaining).activity = .idle ∨ (s.sweep remaining).activity = .sweeping remaining := by
  cases remaining with
  | nil => exact .inl rfl
  | cons param rest => exact .inr rfl

theorem poll_activity (force ok : Bool) (s : Link) :
    (s.poll (pollingTable newTable) force ok).activity = .idle ∨
      ∃ remaining, remaining.Nodup ∧
        (s.poll (pollingTable newTable) force ok).activity = .sweeping remaining := by
  have hsweep : ∀ (bitmask : Int) (s : Link),
      (s.sweep ((decodeChangeFlags (pollingTable newTable) bitmask).filter
        fun p => inDatabase p)).activity = .idle ∨ ∃ remaining, remaining.Nodup ∧
      (s.sweep ((decodeChangeFlags (pollingTable newTable) bitmask).filter
        fun p => inDatabase p)).activity = .sweeping remaining := by
    intro bitmask s
    exact (sweep_activity _ s).imp_right fun h =>
      ⟨_, decodeChangeFlags_nodup newTable bitmask, h⟩
  unfold Link.poll
  dsimp only
  split_ifs
  · exact hsweep _ _
  · split
    · exact .inl rfl
    · split_ifs
      · exact .inl rfl
      · exact hsweep _ _

theorem readNext_activity (s : Link) (ok : Bool) (param : Nat) (rest : List Nat) :
    (s.readNext ok param rest).activity = .idle ∨
      (s.readNext ok param rest).activity = .sweeping rest := by
  unfold Link.readNext
  dsimp only
  split <;> exact sweep_activity rest _

@[simp] theorem polled_changed (link : Link) (changed : List Nat) (g : Gateway) :
    (g.polled link changed).cycle.changed = changed := by
  unfold Gateway.polled Cycle.changed
  cases changed <;> cases link.activity <;> rfl

/-- What holds from the first exchange of a poll until it has returned. -/
structure Reports (before : Gateway) (g : Gateway) : Prop where
  difference : Difference g.cycle.changed before.link.cache g.link.cache
  sweep : ∀ changed, g.cycle = .polling changed → ∃ remaining,
    g.link.activity = .sweeping remaining ∧
      Sweep changed remaining before.link.cache g.link.cache ∧ g.notices = before.notices
  notified : ∀ changed, g.cycle = .notifying changed →
    g.notices = before.notices ++ [batch (known g.link.cache) (ids changed)]

theorem polled_reports {start : Gateway} {link : Link} {changed remaining : List Nat}
    (hsweep : Sweep changed remaining start.link.cache link.cache)
    (hnotices : g.notices = start.notices)
    (hact : link.activity = .idle ∨ link.activity = .sweeping remaining) :
    Reports start (g.polled link changed) := by
  refine ⟨?_, fun c hc => ?_, fun c hc => ?_⟩
  · rw [polled_changed, polled_link]
    exact hsweep.difference
  · unfold Gateway.polled at hc ⊢
    rcases hact with hact | hact
    · rw [hact] at hc
      cases changed <;> cases hc
    · rw [hact] at hc ⊢
      cases hc
      exact ⟨remaining, hact, hsweep, hnotices⟩
  · unfold Gateway.polled at hc ⊢
    rcases hact with hact | hact
    · rw [hact] at hc ⊢
      cases changed with
      | nil => cases hc
      | cons p rest =>
        cases hc
        rw [← hnotices]
    · rw [hact] at hc
      cases hc

theorem step_reports {start : Gateway} (h : Reports start g) (hpolling : g.cycle.isPolling = true)
    (hstep : step newTable g e = some g') : Reports start g' := by
  obtain ⟨changed, hcycle⟩ : ∃ changed, g.cycle = .polling changed := by
    cases hc : g.cycle <;> simp [hc, Cycle.isPolling] at hpolling ⊢
  obtain ⟨remaining, hact, hsweep, hnotices⟩ := h.sweep changed hcycle
  have hkeep : ∀ {t : Gateway}, t.cycle = g.cycle → t.link.cache = g.link.cache →
      t.link.activity = .sweeping remaining → t.notices = g.notices → Reports start t := by
    intro t hc hcache hactivity hnotice
    refine ⟨by rw [hc, hcache]; exact h.difference, fun c hpoll => ?_, fun c hnotify => ?_⟩
    · rw [hc, hcycle] at hpoll
      cases hpoll
      exact ⟨remaining, hactivity, by rw [hcache]; exact hsweep, hnotice.trans hnotices⟩
    · rw [hc, hcycle] at hnotify
      cases hnotify
  cases step_cases hstep with
  | quiet e g' haside hcache hsame hnotice hupdates hkept =>
    exact hkeep hsame hcache (hkept remaining hact) hnotice
  | poll ok hsleep => simp [hcycle] at hsleep
  | read ok c rest param hc hsweeping =>
    cases hcycle.symm.trans hc
    cases hact.symm.trans hsweeping
    refine polled_reports ?_ hnotices (readNext_activity g.link ok param rest)
    rw [readNext_cache]
    exact hsweep.read _
  | push doc c hc => simp [hcycle] at hc
  | daily doc =>
    unfold Gateway.pushDaily
    split
    · exact h
    · exact hkeep (sendParams_cycle ..) (by rw [sendParams_link]) (by rw [sendParams_link, hact])
        (sendParams_notices ..)
  | written e link param value haside hfree => exact absurd hact (hfree remaining)

/-- At every moment of a poll its list is the difference that it has made to the cache so far,
each id once, whatever the lift and the other tasks do meanwhile; at its end the supervisor is
told of exactly these, with their values. -/
theorem poll_reportsDifference (newTable : Bool) {ok : Bool} {path : List (Gateway × Event)}
    {g t : Gateway} (r : Run (step newTable) g ((g, .poll ok) :: path) t)
    (h : Meets (fun g _ => g.cycle.isPolling = true) path) :
    Difference t.cycle.changed g.link.cache t.link.cache ∧
      ∀ changed, t.cycle = .notifying changed →
        t.notices = g.notices ++ [batch (known t.link.cache) (ids changed)] ∧
          (batch (known t.link.cache) (ids changed)).map Prod.fst = ids changed := by
  cases r with
  | @cons _ u _ _ _ first rest =>
    have hstart : Reports g u := by
      cases step_cases first with
      | quiet _ _ haside => exact absurd haside id
      | written _ link param value haside => exact absurd haside id
      | poll ok hsleeping hidle =>
        have hnothing : ∀ remaining : List Nat, remaining.Nodup → Sweep [] remaining g.link.cache
            (g.link.poll (pollingTable newTable) false ok).cache := by
          intro remaining hdistinct
          rw [poll_cache]
          exact ⟨.nothing _, hdistinct, by simp⟩
        rcases poll_activity false ok g.link with hact | ⟨remaining, hdistinct, hact⟩
        · exact polled_reports (hnothing [] .nil) rfl (.inl hact)
        · exact polled_reports (hnothing remaining hdistinct) rfl (.inr hact)
    have hlast := (rest.invariant (fun _ _ _ h hpolling hstep => step_reports h hpolling hstep)
      hstart h).last
    refine ⟨hlast.difference, fun changed hcycle => ⟨hlast.notified changed hcycle, ?_⟩⟩
    have hdifference := hlast.difference
    rw [hcycle] at hdifference
    exact hdifference.batch_ids

/-- A lift with the first group flagged, long after the first poll. -/
def flagged : Gateway :=
  ⟨⟨⟨fun _ => ⟨7, by decide, by decide⟩, 1⟩, fun p => if p < 8 then some 7 else some 2, false,
    .idle⟩, .sleeping, fun _ => false, [], []⟩

def firstGroup : List Event := .poll true :: List.replicate 15 (.read true)

theorem poll_reportsDifference_firstGroup : ∃ t : Gateway,
    t.cycle.changed = [8, 9, 10, 11, 12, 13, 14, 15] ∧
      Difference t.cycle.changed flagged.link.cache t.link.cache ∧
      ∀ changed, t.cycle = .notifying changed →
        t.notices = flagged.notices ++ [batch (known t.link.cache) (ids changed)] ∧
          (batch (known t.link.cache) (ids changed)).map Prod.fst = ids changed := by
  have hchanged : (exec (step false) flagged firstGroup).map (fun t => t.cycle.changed) =
      some [8, 9, 10, 11, 12, 13, 14, 15] := by decide +kernel
  have hpolling : ((trace (step false) flagged firstGroup).tail.all
      fun p => p.1.cycle.isPolling) = true := by decide +kernel
  obtain ⟨t, ht, hlist⟩ := Option.map_eq_some_iff.mp hchanged
  exact ⟨t, hlist, poll_reportsDifference false (exec_run ht)
    fun p hp => List.all_eq_true.mp hpolling p hp⟩

end Polls

end NexyGateway.AhlTelemetry
