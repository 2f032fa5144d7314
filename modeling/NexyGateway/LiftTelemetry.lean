import NexyGateway.LiftBinding

/-!
# Lift type of the telemetry

The lift type is stored in the proxy and again in the event sender. The two differ
from the publication of a pair in the background until `_on_identified`, and a
parameter event has the wrong tag exactly when it is sent in between.
-/
namespace NexyGateway.LiftProxy

open Coroutines Runs

/-- A pair was published and the event sender has not been told since. -/
def pending : List Observation → Bool
  | [] => false
  | .published _ :: _ => true
  | .attached _ :: _ => false
  | .announced _ :: _ => false
  | _ :: log => pending log

/-- The sender's lift type is the proxy's, unless an announcement is pending. -/
def TagKnown (c : Proxy) : Prop :=
  ∀ tag, c.eventSender = some tag → (tag = c.liftType ↔ pending c.log = false)

theorem Effect.tagKnown {c c' : Proxy} {events : List (ParamEvent × LiftType)}
    (h : Effect c events c') (hc : TagKnown c) : TagKnown c' := by
  cases h with
  | lock l => exact hc
  | tell o ho =>
    intro tag htag
    obtain rfl : c.liftType = tag := Option.some.inj htag
    rcases ho with rfl | rfl <;> simp [Proxy.observe, pending]
  | send event => exact hc
  | call force => exact hc
  | finish => exact hc

theorem Effect.pending {c c' : Proxy} {events : List (ParamEvent × LiftType)}
    (h : Effect c events c') (hc : pending c.log = false) :
    LiftProxy.pending c'.log = false := by
  cases h with
  | lock l => exact hc
  | tell o ho => rcases ho with rfl | rfl <;> rfl
  | send event => exact hc
  | call force => exact hc
  | finish => exact hc

/-- A publication makes every earlier tag wrong. -/
theorem publish_tagKnown {c : Proxy} {b : Binding} (hc : TagKnown c) (hb : b ≠ .unbound)
    (hunbound : Represents c .unbound) (hquiet : pending c.log = false) (who : Round)
    (handler : Handler) (lib : Lib) (loser : Handler) :
    TagKnown (publish who b.liftType handler lib (some loser) c).1 := by
  intro tag htag
  have hold : tag = c.liftType := (hc tag htag).mpr hquiet
  rw [hunbound.liftType] at hold
  subst hold
  cases b with
  | unbound => exact absurd rfl hb
  | ahl newTable => simp [publish, Proxy.observe, pending, Binding.liftType]
  | oneK => simp [publish, Proxy.observe, pending, Binding.liftType]

theorem publish_sent (who : Round) (liftType : LiftType) (handler : Handler) (lib : Lib)
    (loser : Handler) (c : Proxy) :
    sentEvents (publish who liftType handler lib (some loser) c).1.log = sentEvents c.log := rfl

/-- What holds between stretches, with the binding the proxy stands for. -/
structure Tagged (s : System Proxy Point) (b : Binding) : Prop where
  sound : Sound s b
  known : TagKnown s.shared
  quiet : b = .unbound → pending s.shared.log = false

theorem boot_tagged : Tagged (boot createHandlers) .unbound where
  sound := boot_sound
  known tag htag := by simp [boot, createHandlers] at htag
  quiet _ := rfl

/-- One step keeps the tags known and sends exactly the due event. -/
theorem step_tagged {s s' : System Proxy Point} {b : Binding} {m : Move Request Outcome}
    (h : Tagged s b) (hstep : step program s m = some s') :
    (∃ b', Tagged s' b') ∧
      sentEvents s'.shared.log = moveEvents s m ++ sentEvents s.shared.log := by
  cases step_sound h.sound hstep with
  | effect heffect hs =>
    exact ⟨⟨b, hs, heffect.tagKnown h.known, fun hb => heffect.pending (h.quiet hb)⟩, heffect.sent⟩
  | publication b' who handler lib loser hb hb' hevents hshared hs =>
    subst hb
    refine ⟨⟨b', hs, ?_, fun hb => absurd hb hb'⟩, ?_⟩
    · rw [hshared]
      exact publish_tagKnown h.known hb' h.sound.represents (h.quiet rfl) who handler lib loser
    · rw [hshared, hevents]
      exact publish_sent who _ handler lib loser s.shared

/-- Every event was sent with the proxy's lift type, which was a known one. -/
def TagsAgree (log : List Observation) : Prop :=
  ∀ p ∈ sentEvents log, p.1.liftTypeProperty = p.2 ∧ p.1.liftTypeProperty ≠ .unknown

/-- Nothing is sent between the publication of a pair and its announcement: where a step finds
data to send, and the sender and a library are there, no announcement is pending. -/
def AnnouncedFirst (s : System Proxy Point) (m : Move Request Outcome) : Prop :=
  (moveData s m).1 ≠ [] → s.shared.eventSender ≠ none → s.shared.lib ≠ none →
    pending s.shared.log = false

theorem Represents.known_of_lib {c : Proxy} {b : Binding} (h : Represents c b)
    (hlib : c.lib ≠ none) : c.liftType ≠ .unknown := by
  rw [h.lib] at hlib
  rw [h.liftType]
  cases b with
  | unbound => exact absurd rfl hlib
  | ahl newTable => simp [Binding.liftType]
  | oneK => simp [Binding.liftType]

/-- The due event is tagged right exactly when no announcement is pending. -/
theorem dueEvents_agree {c : Proxy} {b : Binding} (hc : Represents c b) (hknown : TagKnown c)
    (data : List (Int × ParamValue)) (source : String) :
    (∀ p ∈ dueEvents data source c,
        p.1.liftTypeProperty = p.2 ∧ p.1.liftTypeProperty ≠ .unknown) ↔
      (data ≠ [] → c.eventSender ≠ none → c.lib ≠ none → pending c.log = false) := by
  by_cases hdata : data = []
  · simp [hdata, dueEvents_nil]
  cases htag : c.eventSender with
  | none => simp [dueEvents, htag]
  | some tag =>
    cases hlib : c.lib with
    | none => simp [dueEvents, hlib]
    | some lib =>
      have hbound : c.liftType ≠ .unknown := hc.known_of_lib (by simp [hlib])
      rw [← hknown tag htag]
      simp only [dueEvents, htag, hlib, if_neg hdata, List.mem_singleton, forall_eq]
      constructor
      · exact fun h _ _ _ => h.1
      · intro h
        have heq := h hdata (by simp) (by simp)
        exact ⟨heq, heq ▸ hbound⟩

theorem step_tagsAgree_iff {s s' : System Proxy Point} {m : Move Request Outcome}
    (h : ∃ b, Tagged s b) (hs : TagsAgree s.shared.log) (hstep : step program s m = some s') :
    TagsAgree s'.shared.log ↔ AnnouncedFirst s m := by
  obtain ⟨b, h⟩ := h
  have hsent := (step_tagged h hstep).2
  have hdue := dueEvents_agree h.sound.represents h.known (moveData s m).1 (moveData s m).2
  rw [AnnouncedFirst, ← hdue]
  constructor
  · intro hagree p hp
    exact hagree p (by rw [hsent]; exact List.mem_append_left _ hp)
  · intro hagree p hp
    rw [hsent] at hp
    cases List.mem_append.mp hp with
    | inl hnew => exact hagree p hnew
    | inr hold => exact hs p hold

/-- The parameter events of a run carry the proxy's lift type exactly when none of them is sent
between the publication of a pair in the background and its announcement. -/
theorem tagsAgree_iff_announcedFirst
    {path : List (System Proxy Point × Move Request Outcome)} {s : System Proxy Point}
    (r : Run (step program) (boot createHandlers) path s) :
    Always (fun s => TagsAgree s.shared.log) path s ↔ Meets AnnouncedFirst path := by
  refine r.always_iff (I := fun s => ∃ b, Tagged s b) ?_ ?_ ⟨.unbound, boot_tagged⟩ ?_
  · rintro s m s' ⟨b, h⟩ hstep
    exact (step_tagged h hstep).1
  · exact fun s m s' h hs hstep => step_tagsAgree_iff h hs hstep
  · intro p hp
    cases hp

def oneValue : View := ⟨some [7], fun _ => some (.int 1)⟩

/-- A lift found at startup, before there is an event sender, and a pushed parameter. -/
def startupRound : List (Move Request Outcome) :=
  [.call 0 .identify, .wake 0 .raised, .wake 0 (.answered "NO_ERR"), .wake 0 .acquired,
   .call 1 .run, .call 2 (.pushParamEvent [7] oneValue)]

theorem tagsAgree_startupRound : ∃ s : System Proxy Point, sentEvents s.shared.log ≠ [] ∧
    Always (fun s => TagsAgree s.shared.log)
      (trace (step program) (boot createHandlers) startupRound) s := by
  cases hexec : exec (step program) (boot createHandlers) startupRound with
  | none => cases hexec
  | some s =>
    refine ⟨s, ?_, (tagsAgree_iff_announcedFirst (exec_run hexec)).mpr ?_⟩
    · cases hexec
      simp [Proxy.observe, sentEvents]
    · -- only the last step finds data to send
      refine (meets_cons _ _ _).mpr ⟨fun h => absurd rfl h, (meets_cons _ _ _).mpr
        ⟨fun h => absurd rfl h, (meets_cons _ _ _).mpr ⟨fun h => absurd rfl h,
          (meets_cons _ _ _).mpr ⟨fun h => absurd rfl h, (meets_cons _ _ _).mpr
            ⟨fun h => absurd rfl h, (meets_cons _ _ _).mpr ⟨fun _ _ _ => rfl, meets_nil _⟩⟩⟩⟩⟩⟩

/-- A lift identified in the background: while its round closes the losing bus, the polling
loop makes its first poll and pushes what it read. -/
def earlyPush : List (Move Request Outcome) :=
  [.call 0 .run, .wake 0 .reported, .call 1 .reidentifyLoop, .call 2 .pollingLoop, .wake 1 .slept,
   .wake 1 .raised, .wake 1 (.answered "NO_ERR"), .wake 1 .acquired, .wake 2 .slept,
   .wake 2 .acquired, .wake 2 (.polled [7]), .wake 2 (.viewed oneValue)]

theorem not_always_tagsAgree : ¬ ∀ (path : List (System Proxy Point × Move Request Outcome))
    (s : System Proxy Point), Run (step program) (boot createHandlers) path s →
    Always (fun s => TagsAgree s.shared.log) path s := by
  intro hall
  cases hexec : exec (step program) (boot createHandlers) earlyPush with
  | none => cases hexec
  | some s =>
    have hagree := (hall _ s (exec_run hexec)).last
    cases hexec
    have htag := (hagree (⟨.unknown, pollingSource, [(7, .int 1)]⟩, .oneK) (by decide)).1
    cases htag

end NexyGateway.LiftProxy
