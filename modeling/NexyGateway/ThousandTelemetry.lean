import NexyGateway.AhlTelemetry
import NexyGateway.ChangedIds
import NexyGateway.PollLosses

/-!
# Telemetry of a 1k lift

The polling loop, the daily loop and the direct methods of `liftApi/lift_proxy.py` over
the database of a 1k lift, which a poll fills while the loops read it. A value that is
stored is the last one that was told, or it is still to be sent. Telling is handing over to
`EventSender.send_event`, which only logs a sending that fails.
-/
namespace NexyGateway.ThousandTelemetry

open Announcements DesiredTwin PyJson Runs
open AhlTelemetry (Update)
open DirectMethods (getParamValue)
open LiftProxy (Sender pollingSource)
open Rs232Handler hiding step Event
open ThousandLib hiding Update

/-- The value that `get_param_value` gives without an error. -/
def known (lib : Lib) (id : Int) : Option Json :=
  if (getParamValue (some (.thousand lib)) id).2 = .NO_ERR then
    some (getParamValue (some (.thousand lib)) id).1
  else none

structure Gateway where
  poll : Poll
  /-- The ids of the last poll, until they are pushed. -/
  changed : List Int
  /-- A parameter that has been written, until it is told of. -/
  written : Option Int
  /-- Which senders wait for the cloud client. -/
  sending : Sender → Bool
  updates : List Update

def started (available : Bool) : Gateway := ⟨booted available, [], none, fun _ => false, []⟩

def Gateway.withHandler (h : Rs232Handler.Handler) (g : Gateway) : Gateway :=
  { g with poll := { g.poll with handler := h } }

/-- `_send_params` up to the message being handed over. -/
def Gateway.sendParams (who : Sender) (source : String) (paramIds : List Int) (g : Gateway) :
    Gateway :=
  match batch (known g.poll.handler.lib) paramIds with
  | [] => g
  | item :: data =>
    { g with
      sending := fun w => if w = who then true else g.sending w
      updates := g.updates ++ [⟨source, item :: data⟩] }

/-- A poll that goes on, or that has ended with what `poll_params` returns. -/
def Gateway.polled (t : Poll) (g : Gateway) : Gateway :=
  { g with poll := t, changed := if t.phase.isIdle then t.phase.reply else [] }

/-- The rest of a cycle of `_polling_loop`; what the push list raises ends the cycle. -/
def Gateway.pushOnChange (doc : Json) (g : Gateway) : Gateway :=
  match getParamPushList (some doc) (some .thousand) "onChange" with
  | .error _ => { g with changed := [] }
  | .ok pushList =>
    ({ g with changed := [] } : Gateway).sendParams .polling pollingSource
      (g.changed.filter fun p => p ∈ pushList)

/-- One cycle of `_daily_loop`. -/
def Gateway.pushDaily (doc : Json) (g : Gateway) : Gateway :=
  match getParamPushList (some doc) (some .thousand) "daily" with
  | .error _ => g
  | .ok pushList => g.sendParams .daily pollingSource pushList

/-- A write that has succeeded is told of once the method goes on. -/
def Gateway.write (param value : String) (reads replies : List FrameRead) (g : Gateway) :
    Gateway :=
  let out := writeParameter g.poll.handler param value reads replies
  { g.withHandler out.2 with
    written := match out.1.result with
      | .ok .NO_ERR => PyNumber.int param
      | _ => none }

inductive Event where
  | begin (forceReadAll : Bool)
  /-- The poll that is under way goes on. -/
  | lift (e : Rs232Handler.Event)
  | push (doc : Json)
  | daily (doc : Json)
  | sent (who : Sender)
  | write (param value : String) (reads replies : List FrameRead)
  | tell
  /-- Another method asks the lift for something. -/
  | ask (cmd type : String) (reads : List FrameRead)

/-- The listener takes the next request when the last one is answered. The handler is free
unless a poll is under way. -/
def Gateway.listening (g : Gateway) : Bool :=
  g.poll.phase.isIdle && !g.sending .ddm && g.written.isNone

def step (clock : Int → Int) (g : Gateway) : Event → Option Gateway
  | .begin forceReadAll =>
    if g.poll.phase.isIdle ∧ g.changed = [] ∧ g.written = none ∧ g.sending .polling = false then
      some { g with poll := beginPoll forceReadAll g.poll.handler }
    else none
  | .lift e => (callStep clock g.poll e).map fun t => g.polled t
  | .push doc => if g.changed = [] then none else some (g.pushOnChange doc)
  | .daily doc => if g.sending .daily then none else some (g.pushDaily doc)
  | .sent who =>
    if g.sending who then some { g with sending := fun w => if w = who then false else g.sending w }
    else none
  | .write param value reads replies =>
    if g.listening then some (g.write param value reads replies) else none
  | .tell => g.written.map fun p =>
    ({ g with written := none } : Gateway).sendParams .ddm "la.parameter.ddm" [p]
  | .ask cmd type reads =>
    if g.listening then
      let h := g.poll.handler
      some (g.withHandler { h with
        saved := (Rs232Handler.ask h.available cmd type reads h.saved).2 })
    else none

/-! ### What was told -/

/-- Everything that was told of the parameters, oldest first. -/
def Gateway.history (g : Gateway) : List (Int × Json) := g.updates.flatMap Update.data

/-- The parameter is on a list that has not been pushed yet, or a write of it is not told of. -/
def Gateway.Waits (g : Gateway) (p : Int) : Prop :=
  p ∈ g.changed ∨ g.written = some p ∨ g.poll.phase.isIdle = false ∧ p ∈ collected g.poll

/-- The parameter has a value other than the one that was told last. -/
def Gateway.Behind (g : Gateway) (p : Int) : Prop := Stale (known g.poll.handler.lib) g.history p

/-- If the parameter is behind, an update is due. -/
def Gateway.Current (g : Gateway) (p : Int) : Prop := g.Behind p → g.Waits p

/-- The stretch gives up a parameter of which another value was told last: the poll loses it,
or the push after the poll leaves it out, or reading the push list raises. -/
def Drops (clock : Int → Int) (p : Int) (g : Gateway) : Event → Prop
  | .lift e => Loses clock p g.poll e ∧ ∃ t, callStep clock g.poll e = some t ∧
      Stale (known t.handler.lib) g.history p
  | .push doc => p ∈ g.changed ∧ g.written ≠ some p ∧ g.Behind p ∧
      ∀ pushList, getParamPushList (some doc) (some .thousand) "onChange" = .ok pushList →
        p ∉ pushList
  | _ => False

section Known

variable {lib lib' : Lib} {p : Int}

theorem known_congr (h : lib'.value p = lib.value p) : known lib' p = known lib p := by
  have hparam : getParam p lib' = getParam p lib := by
    unfold getParam
    rw [h]
  have hvalue : getParamValue (some (.thousand lib')) p =
      getParamValue (some (.thousand lib)) p := by
    simp only [getParamValue, hparam]
  unfold known
  rw [hvalue]

theorem known_fresh (p : Int) : known Lib.fresh p = none := by
  have hunset : getParam p Lib.fresh = (.int (-1), .PARAM_NOT_IN_DB) ∨
      getParam p Lib.fresh = (.int (-1), .PARAM_NOT_SET) := by
    unfold getParam
    cases inDatabase p with
    | false => exact .inl rfl
    | true => exact .inr rfl
  rcases hunset with h | h <;> simp [known, getParamValue, h, DirectMethods.ofRs232Code]

end Known

section Sending

variable {g : Gateway} {p : Int}

@[simp] theorem sendParams_poll (who : Sender) (source : String) (paramIds : List Int)
    (g : Gateway) : (g.sendParams who source paramIds).poll = g.poll := by
  unfold Gateway.sendParams
  split <;> rfl

@[simp] theorem sendParams_changed (who : Sender) (source : String) (paramIds : List Int)
    (g : Gateway) : (g.sendParams who source paramIds).changed = g.changed := by
  unfold Gateway.sendParams
  split <;> rfl

@[simp] theorem sendParams_written (who : Sender) (source : String) (paramIds : List Int)
    (g : Gateway) : (g.sendParams who source paramIds).written = g.written := by
  unfold Gateway.sendParams
  split <;> rfl

theorem sendParams_history (who : Sender) (source : String) (paramIds : List Int)
    (g : Gateway) : (g.sendParams who source paramIds).history =
      g.history ++ batch (known g.poll.handler.lib) paramIds := by
  unfold Gateway.sendParams Gateway.history
  split
  · rename_i hnone
    simp [hnone]
  · rename_i item data hsome
    simp [hsome]

theorem sendParams_behind (who : Sender) (source : String) (paramIds : List Int) (g : Gateway)
    (p : Int) : (g.sendParams who source paramIds).Behind p ↔ p ∉ paramIds ∧ g.Behind p := by
  unfold Gateway.Behind
  rw [sendParams_poll, sendParams_history, stale_announced]

theorem sendParams_waits (who : Sender) (source : String) (paramIds : List Int) (g : Gateway)
    (p : Int) : (g.sendParams who source paramIds).Waits p ↔ g.Waits p := by
  unfold Gateway.Waits
  rw [sendParams_changed, sendParams_written, sendParams_poll]

end Sending

/-! ### What is told follows the database -/

/-- While a poll is under way nothing else is due. -/
structure Sound (g : Gateway) : Prop where
  tracked : g.poll.phase.isIdle = false → Tracked g.poll
  alone : g.poll.phase.isIdle = false → g.changed = [] ∧ g.written = none

section Following

variable {clock : Int → Int} {g g' : Gateway} {e : Event} {p : Int}

theorem Sound.idle (h : g.poll.phase.isIdle = true) : Sound g where
  tracked hbusy := by simp [h] at hbusy
  alone hbusy := by simp [h] at hbusy

theorem sound_congr (h : Sound g) (hpoll : g'.poll = g.poll) (hchanged : g'.changed = g.changed)
    (hwritten : g'.written = g.written) : Sound g' := by
  constructor
  · rw [hpoll]
    exact h.tracked
  · rw [hpoll, hchanged, hwritten]
    exact h.alone

/-- A list is pushed, and a write is told of, only after a poll. -/
theorem Sound.idle_of (h : Sound g) (hdue : g.changed ≠ [] ∨ g.written ≠ none) :
    g.poll.phase.isIdle = true := by
  by_contra hbusy
  obtain ⟨hchanged, hwritten⟩ := h.alone (by simpa using hbusy)
  exact hdue.elim (fun hne => hne hchanged) fun hne => hne hwritten

theorem busy_of_callStep {s t : Poll} {event : Rs232Handler.Event}
    (h : callStep clock s event = some t) : s.phase.isIdle = false := by
  obtain ⟨hbusy, -⟩ := Option.ite_none_left_eq_some.mp h
  simpa using hbusy

theorem listening_idle (h : g.listening = true) :
    g.poll.phase.isIdle = true ∧ g.written = none := by
  simp only [Gateway.listening, Bool.and_eq_true, Option.isNone_iff_eq_none] at h
  exact ⟨h.1.1, h.2⟩

theorem step_sound (h : Sound g) (hstep : step clock g e = some g') : Sound g' := by
  cases e with
  | begin forceReadAll =>
    obtain ⟨⟨hidle, hchanged, hwritten, -⟩, ⟨⟩⟩ := Option.ite_none_right_eq_some.mp hstep
    exact ⟨fun _ => tracked_beginPoll forceReadAll g.poll.handler, fun _ => ⟨hchanged, hwritten⟩⟩
  | lift e =>
    obtain ⟨t, ht, rfl⟩ := Option.map_eq_some_iff.mp hstep
    have hbusy := busy_of_callStep ht
    constructor
    · intro _
      exact (callStep_follows (h.tracked hbusy) ht).tracked
    · intro hgoing
      have hgoing' : t.phase.isIdle = false := hgoing
      refine ⟨?_, (h.alone hbusy).2⟩
      simp [Gateway.polled, hgoing']
  | push doc =>
    obtain ⟨hdue, ⟨⟩⟩ := Option.ite_none_left_eq_some.mp hstep
    have hidle := h.idle_of (.inl hdue)
    apply Sound.idle
    unfold Gateway.pushOnChange
    split
    · exact hidle
    · rw [sendParams_poll]
      exact hidle
  | daily doc =>
    obtain ⟨-, ⟨⟩⟩ := Option.ite_none_left_eq_some.mp hstep
    unfold Gateway.pushDaily
    split
    · exact h
    · exact sound_congr h (sendParams_poll ..) (sendParams_changed ..) (sendParams_written ..)
  | sent who =>
    obtain ⟨-, ⟨⟩⟩ := Option.ite_none_right_eq_some.mp hstep
    exact sound_congr h rfl rfl rfl
  | write param value reads replies =>
    obtain ⟨hlistening, ⟨⟩⟩ := Option.ite_none_right_eq_some.mp hstep
    exact .idle (listening_idle hlistening).1
  | tell =>
    obtain ⟨q, hq, rfl⟩ := Option.map_eq_some_iff.mp hstep
    apply Sound.idle
    rw [sendParams_poll]
    exact h.idle_of (.inr (by simp [hq]))
  | ask cmd type reads =>
    obtain ⟨hlistening, ⟨⟩⟩ := Option.ite_none_right_eq_some.mp hstep
    exact .idle (listening_idle hlistening).1

/-- What waits for its push behind a poll waited in its list before. -/
theorem polled_waits (h : Sound g) (hbusy : g.poll.phase.isIdle = false) (t : Poll) :
    (g.polled t).Waits p ↔ p ∈ collected t := by
  obtain ⟨-, hwritten⟩ := h.alone hbusy
  unfold Gateway.Waits Gateway.polled
  cases hidle : t.phase.isIdle with
  | true => simp [hwritten, collected_idle hidle]
  | false => simp [hwritten]

theorem lift_current_iff (hs : Sound g) (hp : Visible p) (h : g.Current p)
    {event : Rs232Handler.Event} {t : Poll} (ht : callStep clock g.poll event = some t) :
    (g.polled t).Current p ↔ ¬ Drops clock p g (.lift event) := by
  have hbusy := busy_of_callStep ht
  obtain ⟨hchanged, hwritten⟩ := hs.alone hbusy
  have hkeeps := callStep_keeps (hs.tracked hbusy) hp ht
  have hbehind : (g.polled t).Behind p ↔ Stale (known t.handler.lib) g.history p := Iff.rfl
  have hdrops : Drops clock p g (.lift event) ↔ Loses clock p g.poll event ∧
      Stale (known t.handler.lib) g.history p := by
    simp [Drops, ht]
  rw [Gateway.Current, polled_waits hs hbusy, hbehind, hdrops]
  by_cases hloses : Loses clock p g.poll event
  · simp [hloses, hkeeps.lost hloses]
  · refine iff_of_true (fun hstale => hkeeps.kept hloses ?_) fun hd => hloses hd.1
    by_contra hno
    obtain ⟨hout, hsame⟩ := not_or.mp hno
    have hbefore : g.Behind p := by
      rw [not_not] at hsame
      unfold Gateway.Behind Stale
      rw [← known_congr hsame]
      exact hstale
    have hwaits := h hbefore
    simp [Gateway.Waits, hchanged, hwritten, hbusy, hout] at hwaits

theorem push_current_iff (hs : Sound g) (h : g.Current p) (hdue : g.changed ≠ []) (doc : Json) :
    (g.pushOnChange doc).Current p ↔ ¬ Drops clock p g (.push doc) := by
  have hidle := hs.idle_of (.inl hdue)
  have hbefore : g.Behind p → p ∈ g.changed ∨ g.written = some p := by
    intro hbehind
    simpa [Gateway.Waits, hidle] using h hbehind
  have hwaits : ({ g with changed := [] } : Gateway).Waits p ↔ g.written = some p := by
    simp [Gateway.Waits, hidle]
  unfold Gateway.pushOnChange
  cases hlist : getParamPushList (some doc) (some .thousand) "onChange" with
  | error exception =>
    have hcurrent : ({ g with changed := [] } : Gateway).Current p ↔
        (g.Behind p → g.written = some p) := by
      rw [Gateway.Current, hwaits]
      rfl
    simp only [hcurrent, Drops, hlist, reduceCtorEq, false_imp_iff, implies_true, and_true]
    constructor
    · rintro hkept ⟨-, hunwritten, hbehind⟩
      exact hunwritten (hkept hbehind)
    · intro hkept hbehind
      by_contra hunwritten
      exact hkept ⟨(hbefore hbehind).resolve_right hunwritten, hunwritten, hbehind⟩
  | ok pushList =>
    have hcurrent : (({ g with changed := [] } : Gateway).sendParams .polling pollingSource
        (g.changed.filter fun p => p ∈ pushList)).Current p ↔
        (¬ (p ∈ g.changed ∧ p ∈ pushList) ∧ g.Behind p → g.written = some p) := by
      rw [Gateway.Current, sendParams_behind, sendParams_waits, hwaits, List.mem_filter,
        decide_eq_true_eq]
      rfl
    simp only [hcurrent, Drops, hlist, Except.ok.injEq, forall_eq']
    constructor
    · rintro hkept ⟨hmem, hunwritten, hbehind, hout⟩
      exact hunwritten (hkept ⟨fun hin => hout hin.2, hbehind⟩)
    · rintro hkept ⟨hleft, hbehind⟩
      by_contra hunwritten
      have hmem := (hbefore hbehind).resolve_right hunwritten
      exact hkept ⟨hmem, hunwritten, hbehind, fun hin => hleft ⟨hmem, hin⟩⟩

/-- A write leaves the other parameters as they are, and what it has stored is to be told. -/
theorem writeParameter_value (h : Rs232Handler.Handler) (param value : String)
    (reads replies : List FrameRead) :
    (writeParameter h param value reads replies).2.lib.value p = h.lib.value p ∨
      (writeParameter h param value reads replies).1.result = .ok .NO_ERR ∧
        PyNumber.int param = some p := by
  unfold writeParameter
  split
  · rename_i q v hq hv
    dsimp only
    split
    · exact .inl rfl
    · split
      · rename_i hok
        by_cases hsame : p = q
        · subst hsame
          exact .inr ⟨hok, hq⟩
        · exact .inl (set_value_other _ _ hsame)
      · exact .inl rfl
  · exact .inl rfl

theorem write_current (h : g.Current p) (hidle : g.poll.phase.isIdle = true)
    (hwritten : g.written = none) (param value : String) (reads replies : List FrameRead) :
    (g.write param value reads replies).Current p := by
  intro hbehind
  rcases writeParameter_value (p := p) g.poll.handler param value reads replies with
    hsame | ⟨hok, hparam⟩
  · have hbefore : g.Behind p := by
      unfold Gateway.Behind Stale
      rw [← known_congr hsame]
      exact hbehind
    rcases h hbefore with hmem | hdue | hbusy
    · exact .inl hmem
    · rw [hwritten] at hdue
      cases hdue
    · rw [hidle] at hbusy
      cases hbusy.1
  · refine .inr (.inl ?_)
    simp only [Gateway.write, hok]
    exact hparam

theorem step_current_iff (hs : Sound g) (hp : Visible p) (h : g.Current p)
    (hstep : step clock g e = some g') : g'.Current p ↔ ¬ Drops clock p g e := by
  cases e with
  | begin forceReadAll =>
    obtain ⟨⟨hidle, hchanged, hwritten, -⟩, ⟨⟩⟩ := Option.ite_none_right_eq_some.mp hstep
    refine iff_of_true (fun hbehind => absurd (h ?_) ?_) id
    · have hsame := beginPoll_value forceReadAll g.poll.handler hp
      unfold Gateway.Behind Stale
      rw [← known_congr hsame]
      exact hbehind
    · simp [Gateway.Waits, hidle, hchanged, hwritten]
  | lift event =>
    obtain ⟨t, ht, rfl⟩ := Option.map_eq_some_iff.mp hstep
    exact lift_current_iff hs hp h ht
  | push doc =>
    obtain ⟨hdue, ⟨⟩⟩ := Option.ite_none_left_eq_some.mp hstep
    exact push_current_iff hs h hdue doc
  | daily doc =>
    obtain ⟨-, ⟨⟩⟩ := Option.ite_none_left_eq_some.mp hstep
    refine iff_of_true ?_ id
    unfold Gateway.pushDaily
    split
    · exact h
    · intro hbehind
      rw [sendParams_behind] at hbehind
      exact (sendParams_waits ..).mpr (h hbehind.2)
  | sent who =>
    obtain ⟨-, ⟨⟩⟩ := Option.ite_none_right_eq_some.mp hstep
    exact iff_of_true h id
  | write param value reads replies =>
    obtain ⟨hlistening, ⟨⟩⟩ := Option.ite_none_right_eq_some.mp hstep
    obtain ⟨hidle, hwritten⟩ := listening_idle hlistening
    exact iff_of_true (write_current h hidle hwritten param value reads replies) id
  | tell =>
    obtain ⟨q, hq, rfl⟩ := Option.map_eq_some_iff.mp hstep
    refine iff_of_true (fun hbehind => ?_) id
    rw [sendParams_behind, List.mem_singleton] at hbehind
    obtain ⟨hne, hbefore⟩ := hbehind
    rw [sendParams_waits]
    rcases h hbefore with hmem | hdue | hbusy
    · exact .inl hmem
    · rw [hq] at hdue
      exact absurd (Option.some.inj hdue).symm hne
    · exact .inr (.inr hbusy)
  | ask cmd type reads =>
    obtain ⟨-, ⟨⟩⟩ := Option.ite_none_right_eq_some.mp hstep
    exact iff_of_true h id

/-- If another value of a parameter was told last than the database has, an update is due, in
every state of exactly the runs in which no poll loses the parameter and no push leaves it out
while another value was told last. -/
theorem cloud_current_iff (hp : Visible p) (available : Bool) {path : List (Gateway × Event)}
    {g : Gateway} (r : Run (step clock) (started available) path g) :
    Always (fun g => g.Current p) path g ↔ Meets (fun g e => ¬ Drops clock p g e) path := by
  refine r.always_iff (fun _ _ _ h hstep => step_sound h hstep)
    (fun _ _ _ hs h hstep => step_current_iff hs hp h hstep) (.idle rfl) ?_
  rintro ⟨v, hv, -⟩
  rw [show (started available).poll.handler.lib = Lib.fresh from rfl, known_fresh] at hv
  cases hv

/-- The lift sends two of its references and then garbled frames; the twin asks for the first
one only. -/
def references : List Event :=
  .begin false :: (textsOnly [("liftRef1", "AR1"), ("liftRef2", "T1")]).map .lift ++
    [.lift .finish, .push (.dict [("paramPush", .dict [("onChange", .list [.int 0])])])]

theorem cloud_current_iff_references : ∃ g : Gateway,
    (told g.history 0).bind Json.text = some "AR1" ∧
    (Always (fun g => g.Current 0) (trace (step fun _ => 0) (started true) references) g ↔
      Meets (fun g e => ¬ Drops (fun _ => 0) 0 g e)
        (trace (step fun _ => 0) (started true) references)) := by
  have htold : (exec (step fun _ => 0) (started true) references).map
      (fun g => (told g.history 0).bind Json.text) = some (some "AR1") := by decide +kernel
  obtain ⟨g, hexec, htold⟩ := Option.map_eq_some_iff.mp htold
  exact ⟨g, htold, cloud_current_iff (by decide) true (exec_run hexec)⟩

end Following

end NexyGateway.ThousandTelemetry
