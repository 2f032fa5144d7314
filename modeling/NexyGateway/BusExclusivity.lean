import NexyGateway.LiftBinding

/-!
# Who uses a bus

The probes of an identification round run without the handler lock, and a consumer looks
at the handler before it queues for the lock. That the two never meet rests on the lift
type: a round only searches while the proxy is unbound, and a consumer only gets through
to a handler that is bound.
-/
namespace NexyGateway.LiftProxy

open Coroutines Runs

/-- Suspended in an identification round, or in the loop that starts the next one. -/
def Point.inRound : Point → Bool
  | .probingModbus .. | .probingRs232 _ | .bindWaiting .. | .detecting .. | .closing ..
  | .reidentifySleeping => true
  | _ => false

/-- The part of a round before a lift is bound. -/
def Point.isSearching : Point → Bool
  | .probingModbus .. | .probingRs232 _ | .bindWaiting .. | .detecting .. | .reidentifySleeping =>
    true
  | _ => false

/-- A probe of `identify_lift`. -/
def Point.isProbe : Point → Bool
  | .probingModbus .. | .probingRs232 _ => true
  | _ => false

/-- Past the check of the handler. -/
def Point.isConsumer : Point → Bool
  | .pollWaiting .. | .polling _ | .accessWaiting _ | .accessing _ | .readingBack => true
  | _ => false

/-- The handler that a worker thread is calling for the task. A poll stands for all of its calls,
which are made one after the other. -/
def Point.calls (c : Proxy) : Point → Option Handler
  | .probingModbus .. => some .modbus
  | .probingRs232 _ => some .rs232
  | .detecting _ handler _ => some handler
  | .polling _ | .accessing _ | .readingBack => c.handler
  | _ => none

/-- From the write of a `write_read_param` to the end of its read-back. -/
def Point.isWriteRead : Point → Bool
  | .accessing .writeReadParam | .readingBack => true
  | _ => false

structure BusExclusive (s : System Proxy Point) : Prop where
  single : ∀ i j t u h, s.shared.handler = some h → s.task i = some t → s.task j = some u →
    t.calls s.shared = some h → u.calls s.shared = some h → i = j
  apart : ∀ i j t u h, s.task i = some t → s.task j = some u → t.isProbe = true →
    u.isConsumer = true → t.calls s.shared = some h → u.calls s.shared ≠ some h
  closed : ∀ i t h, s.task i = some t → t.calls s.shared = some h → h ∉ closings s.shared.log
  writeRead : ∀ i j t u, s.task i = some t → s.task j = some u → t.isWriteRead = true → j ≠ i →
    u.calls s.shared = none

/-- A request that starts an identification round. -/
def Request.isRound : Request → Bool
  | .identify | .reidentifyLoop => true
  | _ => false

/-- No task is cancelled, and the rounds are run one at a time. -/
def OneRound (s : System Proxy Point) : Move Request Outcome → Prop
  | .call _ request => request.isRound = true → ∀ i t, s.task i = some t → t.inRound = false
  | .wake _ outcome => outcome ≠ .cancelled

/-- A point that the proxy can be at: searching while unbound, consuming once bound. -/
structure Fits (c : Proxy) (t : Point) : Prop where
  searching : t.isSearching = true → c.liftType = .unknown
  consuming : t.isConsumer = true → c.handler ≠ none

/-- Where a stretch leads: to a point that fits, and into a round only from a round. -/
def Follows (round : Bool) (r : Proxy × Option Point) : Prop :=
  ∀ u, r.2 = some u → Fits r.1 u ∧ (u.inRound = true → round = true)

section Follows

variable {c : Proxy} {round : Bool}

theorem follows_done (c : Proxy) : Follows round (c, none) := by
  intro u hu
  cases hu

/-- A point that is neither in a round nor past the check of the handler fits everywhere. -/
theorem follows_plain {t : Point} (c : Proxy) (hround : t.inRound = false)
    (hconsumer : t.isConsumer = false) : Follows round (c, some t) := by
  intro u hu
  cases hu
  have hsearching : t.isSearching = false := by
    cases t with
    | probingModbus | probingRs232 | bindWaiting | detecting | reidentifySleeping => cases hround
    | _ => rfl
  exact ⟨⟨by simp [hsearching], by simp [hconsumer]⟩, by simp [hround]⟩

theorem follows_searching {t : Point} (h : c.liftType = .unknown)
    (hconsumer : t.isConsumer = false) : Follows true (c, some t) := by
  intro u hu
  cases hu
  exact ⟨⟨fun _ => h, by simp [hconsumer]⟩, fun _ => rfl⟩

theorem follows_consuming {t : Point} (h : c.handler ≠ none) (ht : t.isConsumer = true) :
    Follows round (c, some t) := by
  intro u hu
  cases hu
  cases t with
  | pollWaiting | polling | accessWaiting | accessing | readingBack =>
    exact ⟨⟨by simp [Point.isSearching], fun _ => h⟩, by simp [Point.inRound]⟩
  | _ => cases ht

theorem reidentify_follows (c : Proxy) : Follows true (reidentify c) := by
  unfold reidentify
  split
  · exact follows_searching ‹_› rfl
  · exact follows_done c

theorem onIdentified_follows (c : Proxy) : Follows round (onIdentified c) := by
  unfold onIdentified
  split
  · exact follows_done c
  · exact follows_plain _ rfl rfl

theorem roundReturned_follows (who : Round) (c : Proxy) : Follows true (roundReturned who c) := by
  cases who with
  | startup => exact follows_done c
  | background =>
    simp only [roundReturned]
    split
    · exact reidentify_follows c
    · exact onIdentified_follows c

theorem roundFailed_follows (who : Round) (c : Proxy) : Follows true (roundFailed who c) := by
  cases who with
  | startup => exact follows_done c
  | background => exact reidentify_follows c

theorem probeRs232_follows (who : Round) {rs232 : Option Handler}
    (h : rs232 ≠ none → c.liftType = .unknown) : Follows true (probeRs232 who rs232 c) := by
  cases rs232 with
  | some handler => exact follows_searching (h (by simp)) rfl
  | none => exact roundFailed_follows who c

theorem Represents.unknown_of_modbus {b : Binding} (h : Represents c b)
    (hm : c.modbusHandler ≠ none) : c.liftType = .unknown := by
  rw [h.modbusHandler] at hm
  by_cases hb : b = .unbound
  · rw [h.liftType, hb]
    rfl
  · simp [hb] at hm

theorem Represents.unknown_of_rs232 {b : Binding} (h : Represents c b)
    (hr : c.rs232Handler ≠ none) : c.liftType = .unknown := by
  rw [h.rs232Handler] at hr
  by_cases hb : b = .unbound
  · rw [h.liftType, hb]
    rfl
  · simp [hb] at hr

theorem tryIdentify_follows (who : Round) {b : Binding} (h : Represents c b) :
    Follows true (tryIdentify who c) := by
  unfold tryIdentify
  split
  · exact follows_searching (h.unknown_of_modbus (by simp [*])) rfl
  · exact probeRs232_follows who h.unknown_of_rs232

theorem publish_follows (who : Round) (liftType : LiftType) (handler : Handler) (lib : Lib)
    (loser : Option Handler) (c : Proxy) :
    Follows true (publish who liftType handler lib loser c) := by
  cases loser with
  | some h =>
    intro u hu
    cases hu
    exact ⟨⟨by simp [Point.isSearching], by simp [Point.isConsumer]⟩, fun _ => rfl⟩
  | none => exact roundReturned_follows who _

theorem bindLocked_follows (who : Round) (liftType : LiftType) (h : c.liftType = .unknown) :
    Follows true (bindLocked who liftType c) := by
  cases liftType with
  | unknown => exact roundReturned_follows who c
  | ahl =>
    simp only [bindLocked]
    split
    · exact follows_searching h rfl
    · exact roundReturned_follows who c
  | oneK =>
    simp only [bindLocked]
    split
    · exact publish_follows who _ _ _ _ c
    · exact roundReturned_follows who c

theorem detected_follows (who : Round) (handler : Handler) (loser : Option Handler) (code : String)
    (c : Proxy) : Follows true (detected who handler loser code c) := by
  unfold detected
  split
  · exact publish_follows who _ _ _ _ c
  · split
    · exact publish_follows who _ _ _ _ c
    · exact roundFailed_follows who _

theorem pollFailed_follows (who : Caller) (c : Proxy) : Follows round (pollFailed who c) := by
  cases who with
  | consumer => exact follows_done c
  | loop => exact follows_plain c rfl rfl

theorem pollParams_follows (who : Caller) (force : Bool) (c : Proxy) :
    Follows round (pollParams who force c) := by
  unfold pollParams
  split
  · exact follows_consuming (by simp [*]) rfl
  · cases who with
    | consumer => exact follows_done c
    | loop => exact follows_plain c rfl rfl

theorem pollLocked_follows (who : Caller) (force : Bool) (h : c.handler ≠ none) :
    Follows round (pollLocked who force c) := by
  unfold pollLocked
  split
  · exact pollFailed_follows who c
  · exact follows_consuming h rfl

theorem pollReturned_follows (who : Caller) (changed : List Int) (c : Proxy) :
    Follows round (pollReturned who changed c) := by
  unfold pollReturned
  cases who with
  | consumer => exact follows_done _
  | loop =>
    simp only
    split
    · exact follows_plain _ rfl rfl
    · exact follows_plain _ rfl rfl

theorem pushOnChange_follows (changed : List Int) (view : View) (c : Proxy) :
    Follows round (pushOnChange changed view c) := by
  unfold pushOnChange
  simp only
  split
  · exact follows_plain _ rfl rfl
  · exact follows_plain _ rfl rfl

theorem pushDaily_follows (view : View) (c : Proxy) : Follows round (pushDaily view c) := by
  unfold pushDaily
  split
  · exact follows_plain _ rfl rfl
  · exact follows_plain _ rfl rfl

theorem pushParamEvent_follows (ids : List Int) (view : View) (c : Proxy) :
    Follows round (pushParamEvent ids view c) := by
  unfold pushParamEvent
  split
  · exact follows_plain _ rfl rfl
  · exact follows_done c

theorem sendReturned_follows (who : Sender) (c : Proxy) : Follows round (sendReturned who c) := by
  cases who with
  | polling => exact follows_plain c rfl rfl
  | daily => exact follows_plain c rfl rfl
  | ddm => exact follows_done c

theorem accessReturned_follows (kind : Access) (status : Int) (h : c.handler ≠ none) :
    Follows round (accessReturned kind status c) := by
  unfold accessReturned
  split
  · exact follows_consuming h rfl
  · exact follows_done _

theorem start_follows (request : Request) {b : Binding} (h : Represents c b) :
    Follows request.isRound (start request c) := by
  cases request with
  | run => exact follows_plain _ rfl rfl
  | identify => exact tryIdentify_follows .startup h
  | reidentifyLoop => exact reidentify_follows c
  | pollingLoop => exact pollParams_follows .loop false c
  | dailyLoop => exact follows_plain c rfl rfl
  | pollParams force => exact pollParams_follows .consumer force c
  | access kind =>
    simp only [start]
    split
    · refine follows_consuming ?_ rfl
      have hmay : mayAccess kind c = true := ‹_›
      intro hnone
      cases kind <;> simp [mayAccess, hnone] at hmay
      split at hmay <;> cases hmay
    · exact follows_done c
  | pushParamEvent ids view => exact pushParamEvent_follows ids view c

theorem resume_follows {t : Point} {o : Outcome} {r : Proxy × Option Point} {b : Binding}
    (h : Represents c b) (ht : Fits c t) (hlive : o ≠ .cancelled) (hr : resume t o c = some r) :
    Follows t.inRound r := by
  unfold resume at hr
  split at hr
  · exact absurd rfl hlive
  · split at hr <;> cases hr
    · exact follows_searching (ht.searching rfl) rfl
    · exact probeRs232_follows _ (fun _ => ht.searching rfl)
  · cases hr
    exact probeRs232_follows _ (fun _ => ht.searching rfl)
  · split at hr <;> cases hr
    · exact follows_searching (ht.searching rfl) rfl
    · exact roundFailed_follows _ c
  · cases hr
    exact roundFailed_follows _ c
  · split at hr <;> cases hr
    exact bindLocked_follows _ _ (ht.searching rfl)
  · cases hr
    exact detected_follows _ _ _ _ c
  · cases hr
    exact roundFailed_follows _ _
  · cases hr
    exact roundReturned_follows _ c
  · cases hr
    exact roundFailed_follows _ c
  · cases hr
    exact follows_done c
  · cases hr
    exact follows_done c
  · cases hr
    exact tryIdentify_follows _ h
  · split at hr <;> cases hr
    exact pollLocked_follows _ _ (ht.consuming rfl)
  · cases hr
    exact pollReturned_follows _ _ c
  · cases hr
    exact pollFailed_follows _ _
  · cases hr
    exact pushOnChange_follows _ _ c
  · cases hr
    exact sendReturned_follows _ c
  · cases hr
    exact pollParams_follows _ _ c
  · cases hr
    exact pushDaily_follows _ c
  · split at hr <;> cases hr
    exact follows_consuming (ht.consuming rfl) rfl
  · cases hr
    exact accessReturned_follows _ _ (ht.consuming rfl)
  · cases hr
    exact follows_done _
  · cases hr
    exact follows_done _
  · cases hr
    exact follows_done _
  · cases hr

end Follows

/-- A sound system in which every task is where it can be, and one task at most is in a round. -/
structure Serial (s : System Proxy Point) (b : Binding) : Prop where
  sound : Sound s b
  fits : ∀ i t, s.task i = some t → Fits s.shared t
  alone : ∀ i j t u, s.task i = some t → s.task j = some u → t.inRound = true →
    u.inRound = true → i = j

theorem boot_serial : Serial (boot createHandlers) .unbound where
  sound := boot_sound
  fits i t ht := by simp at ht
  alone i j t u ht := by simp at ht

theorem inRound_of_isSearching {t : Point} (h : t.isSearching = true) : t.inRound = true := by
  cases t with
  | probingModbus | probingRs232 | bindWaiting | detecting | reidentifySleeping => rfl
  | _ => cases h

section Step

variable {s s' : System Proxy Point} {b b' : Binding} {m : Move Request Outcome}

/-- A step keeps the tasks at points that fit, if those it does not move still do. -/
theorem Serial.of_follows (h : Serial s b) {id : Nat} {round : Bool} {r : Proxy × Option Point}
    (hfollows : Follows round r) (hround : round = true → ∀ i t, i ≠ id → s.task i = some t →
      t.inRound = false)
    (hs : Sound ⟨r.1, assign s.task id r.2⟩ b')
    (hkept : ∀ i t, i ≠ id → s.task i = some t → Fits r.1 t) :
    Serial ⟨r.1, assign s.task id r.2⟩ b' where
  sound := hs
  fits i t ht := by
    rcases assign_cases ht with ⟨-, hnew⟩ | ⟨hne, hold⟩
    · exact (hfollows t hnew).1
    · exact hkept i t hne hold
  alone i j t u ht hu htr hur := by
    rcases assign_cases ht with ⟨hi, hnew⟩ | ⟨hne, hold⟩
    · rcases assign_cases hu with ⟨hj, -⟩ | ⟨hne', hold'⟩
      · rw [hi, hj]
      · have hfalse := hround ((hfollows t hnew).2 htr) j u hne' hold'
        rw [hfalse] at hur
        cases hur
    · rcases assign_cases hu with ⟨hj, hnew'⟩ | ⟨hne', hold'⟩
      · have hfalse := hround ((hfollows u hnew').2 hur) i t hne hold
        rw [hfalse] at htr
        cases htr
      · exact h.alone i j t u hold hold' htr hur

/-- Where the binding stays, points go on fitting. -/
theorem Fits.kept {c c' : Proxy} {t : Point} (h : Fits c t) (hc : Represents c b)
    (hc' : Represents c' b) : Fits c' t where
  searching ht := by
    rw [hc'.liftType, ← hc.liftType]
    exact h.searching ht
  consuming ht := by
    rw [hc'.handler, ← hc.handler]
    exact h.consuming ht

/-- Once bound, the points outside of a round fit. -/
theorem Fits.bound {c : Proxy} {t : Point} (hc : Represents c b) (hb : b ≠ .unbound)
    (hround : t.inRound = false) : Fits c t where
  searching ht := by
    rw [inRound_of_isSearching ht] at hround
    cases hround
  consuming _ := by
    rw [hc.handler]
    cases b with
    | unbound => exact absurd rfl hb
    | ahl newTable => simp [Binding.handler]
    | oneK => simp [Binding.handler]

theorem Represents.unique {c : Proxy} (h : Represents c b) (h' : Represents c b') : b' = b := by
  have hlib : b'.lib = b.lib := h'.lib.symm.trans h.lib
  cases b <;> cases b' <;> simp_all [Binding.lib]

/-- A stretch that changes what the proxy is bound to publishes, and its task is in a round. -/
theorem inRound_of_publication {t : Point} {o : Outcome} {c : Proxy} {r : Proxy × Option Point}
    (hc : Represents c b) (hr : resume t o c = some r) (hc' : Represents r.1 b') (hne : b' ≠ b) :
    t.inRound = true := by
  have hnot : ∀ {events}, ¬ Effect c events r.1 :=
    fun heffect => hne ((heffect.represents hc).unique hc')
  rcases resume_cases hr with ⟨-, h⟩ | ⟨-, ⟨-, h⟩ | ⟨-, h⟩ | h⟩
  · exact absurd h.effect hnot
  · exact absurd h.effect hnot
  · exact absurd h.effect hnot
  · cases h with
    | ahl who handler newTable loser ht hr => rw [ht]; rfl
    | oneK who handler lib ht hfree hhandler hlib hr => rw [ht]; rfl

theorem step_serial (h : Serial s b) (hok : OneRound s m) (hstep : step program s m = some s') :
    ∃ b', Serial s' b' := by
  obtain ⟨b', hmove, hsound⟩ := (step_sound h.sound hstep).moves
  refine ⟨b', ?_⟩
  obtain ⟨id, request, rfl, hfresh, rfl⟩ | ⟨id, o, t, r, rfl, ht, hr, rfl⟩ := step_cases hstep
  · have heffect := (start_outside request s.shared).effect
    obtain rfl : b' = b := (heffect.represents h.sound.represents).unique hsound.represents
    refine h.of_follows (start_follows request h.sound.represents) ?_ hsound ?_
    · intro hround i t _ ht
      exact hok hround i t ht
    · intro i t _ ht
      exact (h.fits i t ht).kept h.sound.represents hsound.represents
  · have hfollows := resume_follows h.sound.represents (h.fits id t ht) hok hr
    have hothers : t.inRound = true → ∀ i u, i ≠ id → s.task i = some u → u.inRound = false := by
      intro hround i u hne hu
      by_contra hu'
      exact hne (h.alone i id u t hu ht (by simpa using hu') hround)
    refine h.of_follows hfollows hothers hsound ?_
    intro i u hne hu
    by_cases hsame : b' = b
    · subst hsame
      exact (h.fits i u hu).kept h.sound.represents hsound.represents
    · have hround := inRound_of_publication h.sound.represents hr hsound.represents hsame
      have hbound : b' ≠ .unbound := by
        cases hmove with
        | stay => exact absurd rfl hsame
        | bind => exact hsame
      exact Fits.bound hsound.represents hbound (hothers hround i u hne hu)

/-- A task that calls a handler is searching, or holds the lock past the check of the handler. -/
theorem calls_cases {c : Proxy} {t : Point} {handler : Handler} (h : t.calls c = some handler) :
    (t.isSearching = true ∧ t.inRound = true) ∨
      (t.isConsumer = true ∧ t.holdsLock = true ∧ c.handler = some handler) := by
  cases t with
  | probingModbus | probingRs232 | detecting => exact .inl ⟨rfl, rfl⟩
  | polling | accessing | readingBack => exact .inr ⟨rfl, rfl, h⟩
  | _ => cases h

/-- At most one call is executing, on whichever handler. -/
theorem Serial.one_call (h : Serial s b) {i j : Nat} {t u : Point} {x y : Handler}
    (ht : s.task i = some t) (hu : s.task j = some u) (htc : t.calls s.shared = some x)
    (huc : u.calls s.shared = some y) : i = j := by
  have hnot : ∀ {i j : Nat} {t u : Point}, s.task i = some t → s.task j = some u →
      t.isSearching = true → u.isConsumer = true → False := by
    intro i j t u ht hu hsearching hconsumer
    have hunknown := (h.fits i t ht).searching hsearching
    have hhandler := (h.fits j u hu).consuming hconsumer
    rw [h.sound.represents.liftType] at hunknown
    rw [h.sound.represents.handler] at hhandler
    cases b <;> simp_all [Binding.liftType, Binding.handler]
  rcases calls_cases htc with ⟨hts, htr⟩ | ⟨htu, htl, -⟩
  · rcases calls_cases huc with ⟨-, hur⟩ | ⟨huu, -, -⟩
    · exact h.alone i j t u ht hu htr hur
    · exact (hnot ht hu hts huu).elim
  · rcases calls_cases huc with ⟨hus, -⟩ | ⟨-, hul, -⟩
    · exact (hnot hu ht hus htu).elim
    · exact h.sound.exclusive.alone i j t u ht hu htl hul

/-- A handler whose close was started is not called. -/
theorem Serial.not_closed (h : Serial s b) {i : Nat} {t : Point} {x : Handler}
    (ht : s.task i = some t) (htc : t.calls s.shared = some x) : x ∉ closings s.shared.log := by
  rw [h.sound.represents.closed]
  rcases calls_cases htc with ⟨hts, -⟩ | ⟨-, -, hx⟩
  · have hunknown := (h.fits i t ht).searching hts
    rw [h.sound.represents.liftType] at hunknown
    cases b <;> simp_all [Binding.liftType, Binding.losers]
  · rw [h.sound.represents.handler] at hx
    cases b <;> simp_all [Binding.handler, Binding.losers]
    all_goals
      rw [← hx]
      decide

theorem isProbe_not_isConsumer {t : Point} (h : t.isProbe = true) : t.isConsumer = false := by
  cases t with
  | probingModbus | probingRs232 => rfl
  | _ => cases h

theorem Serial.busExclusive (h : Serial s b) : BusExclusive s where
  single i j t u x _ ht hu htc huc := h.one_call ht hu htc huc
  apart i j t u x ht hu hprobe hconsumer htc huc := by
    obtain rfl := h.one_call ht hu htc huc
    rw [ht] at hu
    cases hu
    rw [isProbe_not_isConsumer hprobe] at hconsumer
    cases hconsumer
  closed i t x ht htc := h.not_closed ht htc
  writeRead i j t u ht hu hwrite hne := by
    have hconsumer : t.isConsumer = true ∧ t.calls s.shared = s.shared.handler := by
      cases t with
      | accessing | readingBack => exact ⟨rfl, rfl⟩
      | _ => cases hwrite
    obtain ⟨x, hx⟩ := Option.ne_none_iff_exists'.mp ((h.fits i t ht).consuming hconsumer.1)
    by_contra hcalls
    obtain ⟨y, hy⟩ := Option.ne_none_iff_exists'.mp hcalls
    exact hne (h.one_call hu ht hy (hconsumer.2.trans hx))

end Step

/-- All along a run without cancellations whose identification rounds come one at a time, a bus
has one user at a time, and none once its handler is being closed. -/
theorem bus_exclusive {t : System Proxy Point}
    {path : List (System Proxy Point × Move Request Outcome)}
    (r : Run (step program) (boot createHandlers) path t) (hok : Meets OneRound path) :
    Always BusExclusive path t := by
  have hserial : Always (fun s => ∃ b, Serial s b) path t := by
    refine r.invariant ?_ ⟨.unbound, boot_serial⟩ hok
    rintro s m s' ⟨b, hs⟩ hround hstep
    exact step_serial hs hround hstep
  exact hserial.mono (fun s ⟨_, hs⟩ => hs.busExclusive)

/-- A write with its read-back, while the loser of the round is still being closed. -/
def boundWrite : List (Move Request Outcome) :=
  oneKRound ++ [.call 1 (.access .writeReadParam), .call 2 (.pollParams false), .wake 1 .acquired,
    .wake 1 (.accessed 0)]

theorem bus_exclusive_boundWrite : ∃ t : System Proxy Point,
    exec (step program) (boot createHandlers) boundWrite = some t ∧
      t.task 1 = some .readingBack ∧ BusExclusive t := by
  cases ht : exec (step program) (boot createHandlers) boundWrite with
  | none => cases ht
  | some t =>
    refine ⟨t, rfl, ?_, (bus_exclusive (exec_run ht) ?_).last⟩
    · cases ht
      rfl
    · refine (meets_cons ..).mpr ⟨fun _ i u hu => by simp at hu, ?_⟩
      iterate 7 refine (meets_cons ..).mpr ⟨by simp [OneRound, Request.isRound], ?_⟩
      exact meets_nil _

end NexyGateway.LiftProxy
