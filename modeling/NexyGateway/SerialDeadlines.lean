import NexyGateway.FrameRouting
import NexyGateway.SerialPort

/-!
# The deadline of a serial read

`read_serial` and `get_signal_from_serial_buffer` with the clock that they look at. The
surroundings decide what each operation meets, and the trace holds the operations in their
order. A reading loop that goes on has slept or has used up its polls, so the time that is
left and the polls together bound it. One deadline holds for all reads of a request.
-/
namespace NexyGateway.SerialDeadlines

open Rs232Handler

/-- The attributes of the handler, in units of its clock. -/
structure Handler where
  serialTimeout : Nat
  serialTotalTimeout : Nat

/-- What the operations meet, by their number: the client, the port, the time that goes by
before the operation, and the time that a sleep takes. -/
structure Surroundings where
  available : Nat → Bool
  port : Nat → Port
  passes : Nat → Nat
  sleeps : Nat → Nat → Nat

inductive Event where
  | readSerial (deadline : Option Int)
  | clock (now : Int)
  | poll (port : Port)
  | sleep (time : Nat)

structure World where
  now : Int
  trace : List Event

/-- The only assumption: a sleep takes at least the time that it was asked for. -/
structure Sleeps (handler : Handler) (env : Surroundings) : Prop where
  positive : 0 < handler.serialTimeout
  sleeps : ∀ n, handler.serialTimeout ≤ env.sleeps n handler.serialTimeout

section Operations

variable (handler : Handler) (env : Surroundings)

def World.call (deadline : Option Int) (w : World) : World :=
  { w with trace := w.trace ++ [.readSerial deadline] }

/-- `time.monotonic()`. The clock never goes back. -/
def World.askClock (w : World) : World :=
  ⟨w.now + env.passes w.trace.length, w.trace ++ [.clock (w.now + env.passes w.trace.length)]⟩

def World.poll (w : World) : World :=
  ⟨w.now + env.passes w.trace.length, w.trace ++ [.poll (env.port w.trace.length)]⟩

/-- `time.sleep(self.serial_timeout)`. -/
def World.sleep (w : World) : World :=
  ⟨w.now + env.sleeps w.trace.length handler.serialTimeout,
    w.trace ++ [.sleep handler.serialTimeout]⟩

/-- How one turn of the polling loop ends. -/
inductive Turned where
  | returns (reading : Reading) (w : World)
  | goesOn (i : Nat) (rsp : String) (w : World)

/-- The end of a turn: no sleep behind the last poll. -/
def wait (i : Nat) (rsp : String) (w : World) : Turned :=
  .goesOn i rsp (if i < retries then w.sleep handler env else w)

/-- A turn from its poll on. -/
def polled (port : Port) (i : Nat) (rsp : String) (w : World) : Turned :=
  match port with
  | .serialException => .returns ⟨none, .SERIAL_COM_ERR⟩ w
  | .waiting chunk =>
    match decodeUtf8 chunk with
    | none => .returns ⟨none, .SERIAL_DECODE_ERR⟩ w
    | some text =>
      if endsFrame (rsp ++ text) then .returns (closeFrame (rsp ++ text)) w
      else wait handler env (if chunk.size = 0 then i + 1 else 0) (rsp ++ text) w

/-- The clock is not asked when the polls are used up. -/
def turn (deadline : Int) (i : Nat) (rsp : String) (w : World) : Turned :=
  if retries ≤ i then .returns (giveUp rsp) w
  else if deadline ≤ (w.askClock env).now then .returns (giveUp rsp) (w.askClock env)
  else
    polled handler env (env.port (w.askClock env).trace.length) i rsp ((w.askClock env).poll env)

/-- The loop of `read_serial`; `none` means that the fuel is used up. -/
def readLoop (deadline : Int) : Nat → Nat → String → World → Option (Reading × World)
  | 0, _, _, _ => none
  | fuel + 1, i, rsp, w =>
    match turn handler env deadline i rsp w with
    | .returns reading w => some (reading, w)
    | .goesOn i rsp w => readLoop deadline fuel i rsp w

/-- The deadline of a read and the world in which its loop begins. -/
def setDeadline (deadline : Option Int) (w : World) : Int × World :=
  match deadline with
  | some deadline => (deadline, w)
  | none => ((w.askClock env).now + handler.serialTotalTimeout, w.askClock env)

def readSerial (fuel : Nat) (deadline : Option Int) (w : World) : Option (Reading × World) :=
  if env.available w.trace.length then
    readLoop handler env (setDeadline handler env deadline (w.call deadline)).1 fuel 0 ""
      (setDeadline handler env deadline (w.call deadline)).2
  else some (⟨none, .SERIAL_COM_ERR⟩, w.call deadline)

/-- A reading as the request sees it. -/
def frameRead (reading : Reading) : FrameRead :=
  if h : reading.errCode = .NO_ERR then .text (reading.rsp.bind (fun s => documents s.toList))
  else .failed reading.errCode h

/-- What `get_signal_from_serial_buffer` returns, with the saved notifications. -/
abbrev Signal := Except PyNumber.PyError Split × Saved

/-- A turn of the request: what it returns, or the notifications with which it reads again. -/
def takeReading (cmd type : String) (reading : FrameRead) (saved : Saved) : Signal ⊕ Saved :=
  match reading with
  | .failed code _ => .inl (.ok (.empty code), saved)
  | .text documents =>
    match splitResponse cmd type documents saved with
    | (.error e, saved') => .inl (.error e, saved')
    | (.ok split, saved') =>
      if split.errCode = .NO_ERR ∧ split.isPending type then .inr saved'
      else .inl (.ok split, saved')

def signalLoop (fuel : Nat) (cmd type : String) (deadline : Int) :
    Nat → Saved → World → Option (Signal × World)
  | 0, saved, w =>
    some ((.ok (.empty (if cmd = "getOpenCount" then .PARTIAL_ERR else .SERIAL_COM_ERR)), saved), w)
  | n + 1, saved, w =>
    (readSerial handler env fuel (some deadline) w).bind fun r =>
      match takeReading cmd type (frameRead r.1) saved with
      | .inl signal => some (signal, r.2)
      | .inr saved => signalLoop fuel cmd type deadline n saved (r.2.sleep handler env)

def getSignalFromSerialBuffer (fuel : Nat) (cmd type : String) (saved : Saved) (w : World) :
    Option (Signal × World) :=
  signalLoop handler env fuel cmd type ((w.askClock env).now + handler.serialTotalTimeout)
    readRetries saved (w.askClock env)

end Operations

/-! ### What a trace tells -/

def Event.isPoll : Event → Bool
  | .poll _ => true
  | _ => false

/-- The clock has shown the deadline as passed. -/
def Event.showsPassed (deadline : Int) : Event → Bool
  | .clock now => decide (deadline ≤ now)
  | _ => false

/-- Nothing is read behind a look at the clock that showed the deadline as passed. -/
def NoReadAfter (deadline : Int) (events : List Event) : Prop :=
  events.Pairwise (fun e later => e.showsPassed deadline = true → later.isPoll = false)

def Unpassed (deadline : Int) (events : List Event) : Prop :=
  ∀ e ∈ events, e.showsPassed deadline = false

/-- The turns of a trace. The last look at the clock may come without a poll. -/
def turnsOf : List Event → List Turn
  | .clock now :: .poll port :: events => ⟨now, port⟩ :: turnsOf events
  | [.clock now] => [⟨now, .serialException⟩]
  | _ :: events => turnsOf events
  | [] => []

theorem unpassed_cons {deadline : Int} {e : Event} {events : List Event} :
    Unpassed deadline (e :: events) ↔
      e.showsPassed deadline = false ∧ Unpassed deadline events := by
  simp [Unpassed]

theorem noReadAfter_append {deadline : Int} {before later : List Event}
    (hbefore : Unpassed deadline before) (hlater : NoReadAfter deadline later) :
    NoReadAfter deadline (before ++ later) := by
  induction before with
  | nil => exact hlater
  | cons e before ih =>
    obtain ⟨he, hrest⟩ := unpassed_cons.mp hbefore
    refine List.Pairwise.cons ?_ (ih hrest)
    simp [he]

theorem noReadAfter_of_unpassed {deadline : Int} {events : List Event}
    (h : Unpassed deadline events) : NoReadAfter deadline events := by
  simpa using noReadAfter_append h (List.Pairwise.nil (R := fun e later : Event =>
    e.showsPassed deadline = true → later.isPoll = false))

theorem Unpassed.append {deadline : Int} {before later : List Event}
    (hbefore : Unpassed deadline before) (hlater : Unpassed deadline later) :
    Unpassed deadline (before ++ later) := by
  intro e he
  rcases List.mem_append.mp he with h | h
  · exact hbefore e h
  · exact hlater e h

/-! ### One read -/

/-- What the loop has done when it returns. -/
structure Looped (deadline : Int) (i : Nat) (rsp : String) (w : World) (reading : Reading)
    (w' : World) (events : List Event) : Prop where
  trace : w'.trace = w.trace ++ events
  now : w.now ≤ w'.now
  inTime : NoReadAfter deadline events
  late : deadline ≤ w.now → ∀ e ∈ events, e.isPoll = false
  unpassed : reading.errCode = .NO_ERR → Unpassed deadline events
  quiet : ∀ d, .readSerial d ∉ events
  turns : Rs232Handler.readLoop deadline (turnsOf events) i rsp = some reading

/-- What a turn has done that goes on: it has slept, or the polls are used up. -/
structure WentOn (handler : Handler) (deadline : Int) (i : Nat) (rsp : String) (w : World)
    (i' : Nat) (rsp' : String) (w' : World) (events : List Event) : Prop where
  trace : w'.trace = w.trace ++ events
  now : w.now ≤ w'.now
  early : w.now < deadline
  progress : retries ≤ i' ∨ w.now + handler.serialTimeout ≤ w'.now
  unpassed : Unpassed deadline events
  quiet : ∀ d, .readSerial d ∉ events
  turns : ∀ later, Rs232Handler.readLoop deadline (turnsOf (events ++ later)) i rsp =
    Rs232Handler.readLoop deadline (turnsOf later) i' rsp'

/-- What a turn does, by the way it ends. -/
def TurnDoes (handler : Handler) (deadline : Int) (i : Nat) (rsp : String) (w : World) :
    Turned → Prop
  | .returns reading w' => ∃ events, Looped deadline i rsp w reading w' events
  | .goesOn i' rsp' w' => ∃ events, WentOn handler deadline i rsp w i' rsp' w' events

section Reads

variable {handler : Handler} {env : Surroundings} {deadline : Int} {i : Nat} {rsp : String}
  {w w' : World}

theorem giveUp_errCode (rsp : String) : (giveUp rsp).errCode ≠ .NO_ERR := by
  unfold giveUp
  split <;> simp

theorem now_askClock (env : Surroundings) (w : World) : w.now ≤ (w.askClock env).now := by
  simp only [World.askClock]
  omega

theorem now_poll (env : Surroundings) (w : World) : w.now ≤ (w.poll env).now := by
  simp only [World.poll]
  omega

theorem now_sleep (hsleeps : Sleeps handler env) (w : World) :
    w.now + handler.serialTimeout ≤ (w.sleep handler env).now := by
  have := hsleeps.sleeps w.trace.length
  simp only [World.sleep]
  omega

/-- The operations of a turn that polls. -/
def pollEvents (env : Surroundings) (w : World) : List Event :=
  [.clock (w.askClock env).now, .poll (env.port (w.askClock env).trace.length)]

theorem trace_poll (w : World) :
    ((w.askClock env).poll env).trace = w.trace ++ pollEvents env w := by
  simp [World.askClock, World.poll, pollEvents]

theorem unpassed_poll (h : (w.askClock env).now < deadline) :
    Unpassed deadline (pollEvents env w) := by
  simp [Unpassed, pollEvents, Event.showsPassed, h]

theorem quiet_poll (w : World) (d : Option Int) : .readSerial d ∉ pollEvents env w := by
  simp [pollEvents]

/-- A turn that has polled in time returns what the untimed loop returns in it. -/
theorem looped_polled {reading : Reading} (hearly : (w.askClock env).now < deadline)
    (hreading : ∀ turns, Rs232Handler.readLoop deadline
      (⟨(w.askClock env).now, env.port (w.askClock env).trace.length⟩ :: turns) i rsp =
        some reading) :
    Looped deadline i rsp w reading ((w.askClock env).poll env) (pollEvents env w) := by
  have hstart := now_askClock env w
  have hunpassed := unpassed_poll hearly
  exact ⟨trace_poll w, Int.le_trans hstart (now_poll env _), noReadAfter_of_unpassed hunpassed,
    fun h => by omega, fun _ => hunpassed, quiet_poll w, hreading _⟩

theorem wentOn_wait {i' : Nat} {rsp' : String} (hsleeps : Sleeps handler env)
    (hearly : (w.askClock env).now < deadline)
    (hreading : ∀ turns, Rs232Handler.readLoop deadline
      (⟨(w.askClock env).now, env.port (w.askClock env).trace.length⟩ :: turns) i rsp =
        Rs232Handler.readLoop deadline turns i' rsp') :
    TurnDoes handler deadline i rsp w (wait handler env i' rsp' ((w.askClock env).poll env)) := by
  have hstart := now_askClock env w
  have hpoll := now_poll env (w.askClock env)
  have hslept := now_sleep hsleeps ((w.askClock env).poll env)
  have hunpassed := unpassed_poll hearly
  unfold wait
  by_cases hi : i' < retries
  · have hsleep : Unpassed deadline [.sleep handler.serialTimeout] := by
      simp [Unpassed, Event.showsPassed]
    rw [if_pos hi]
    refine ⟨pollEvents env w ++ [.sleep handler.serialTimeout], ?_, by omega, by omega,
      .inr (by omega), hunpassed.append hsleep, ?_, ?_⟩
    · simp [World.sleep, trace_poll]
    · intro d
      simp [quiet_poll]
    · intro later
      simpa [turnsOf, pollEvents] using hreading _
  · rw [if_neg hi]
    refine ⟨pollEvents env w, trace_poll w, by omega, by omega, .inl (by omega), hunpassed,
      quiet_poll w, ?_⟩
    intro later
    simpa [turnsOf, pollEvents] using hreading _

/-- Every turn, by its poll. -/
theorem turn_does (hsleeps : Sleeps handler env) (deadline : Int) (i : Nat) (rsp : String)
    (w : World) : TurnDoes handler deadline i rsp w (turn handler env deadline i rsp w) := by
  unfold turn
  split_ifs with hi hlate
  · exact ⟨[], by simp, Int.le_refl _, List.Pairwise.nil, by simp,
      fun h => absurd h (giveUp_errCode rsp), by simp, by simp [turnsOf, Rs232Handler.readLoop, hi]⟩
  · refine ⟨[.clock (w.askClock env).now], rfl, now_askClock env w, List.pairwise_singleton _ _,
      by simp [Event.isPoll], fun h => absurd h (giveUp_errCode rsp), by simp, ?_⟩
    simp [turnsOf, Rs232Handler.readLoop, hlate]
  · have hturn : ¬(retries ≤ i ∨ deadline ≤ (w.askClock env).now) := not_or.mpr ⟨hi, hlate⟩
    unfold polled
    cases hport : env.port (w.askClock env).trace.length with
    | serialException =>
      refine ⟨_, looped_polled (by omega) ?_⟩
      intro turns
      simp only [Rs232Handler.readLoop, if_neg hturn, hport]
    | waiting chunk =>
      cases hchunk : decodeUtf8 chunk with
      | none =>
        simp only [hchunk]
        refine ⟨_, looped_polled (by omega) ?_⟩
        intro turns
        simp only [Rs232Handler.readLoop, if_neg hturn, hport, hchunk]
      | some text =>
        by_cases hend : endsFrame (rsp ++ text) = true
        · simp only [hchunk, if_pos hend]
          refine ⟨_, looped_polled (by omega) ?_⟩
          intro turns
          simp only [Rs232Handler.readLoop, if_neg hturn, hport, hchunk, if_pos hend]
        · simp only [hchunk, if_neg hend]
          refine wentOn_wait hsleeps (by omega) ?_
          intro turns
          simp only [Rs232Handler.readLoop, if_neg hturn, hport, hchunk, if_neg hend]

/-- A turn that goes on and then the rest of the loop. -/
theorem WentOn.looped {i' : Nat} {rsp' : String} {w₁ : World} {before later : List Event}
    {reading : Reading} (hturn : WentOn handler deadline i rsp w i' rsp' w₁ before)
    (hloop : Looped deadline i' rsp' w₁ reading w' later) :
    Looped deadline i rsp w reading w' (before ++ later) where
  trace := by rw [hloop.trace, hturn.trace, List.append_assoc]
  now := Int.le_trans hturn.now hloop.now
  inTime := noReadAfter_append hturn.unpassed hloop.inTime
  late h := absurd hturn.early (Int.not_lt.mpr h)
  unpassed h := hturn.unpassed.append (hloop.unpassed h)
  quiet d h := (List.mem_append.mp h).elim (hturn.quiet d) (hloop.quiet d)
  turns := by rw [hturn.turns, hloop.turns]

theorem readLoop_returns {fuel : Nat} {reading : Reading}
    (h : turn handler env deadline i rsp w = .returns reading w') (hfuel : 0 < fuel) :
    readLoop handler env deadline fuel i rsp w = some (reading, w') := by
  obtain ⟨fuel, rfl⟩ := Nat.exists_eq_add_one.mpr hfuel
  rw [readLoop, h]

theorem readLoop_goesOn {fuel i' : Nat} {rsp' : String}
    (h : turn handler env deadline i rsp w = .goesOn i' rsp' w') (hfuel : 0 < fuel) :
    readLoop handler env deadline fuel i rsp w =
      readLoop handler env deadline (fuel - 1) i' rsp' w' := by
  obtain ⟨fuel, rfl⟩ := Nat.exists_eq_add_one.mpr hfuel
  rw [readLoop, h, Nat.add_sub_cancel]

/-- By induction on the fuel, one turn at a time. -/
theorem readLoop_does (hsleeps : Sleeps handler env) {fuel : Nat} {reading : Reading}
    (h : readLoop handler env deadline fuel i rsp w = some (reading, w')) :
    ∃ events, Looped deadline i rsp w reading w' events := by
  induction fuel generalizing i rsp w with
  | zero => cases h
  | succ fuel ih =>
    have hdoes := turn_does hsleeps deadline i rsp w
    rw [readLoop] at h
    cases hturn : turn handler env deadline i rsp w with
    | returns reading₁ w₁ =>
      rw [hturn] at h hdoes
      cases h
      exact hdoes
    | goesOn i₁ rsp₁ w₁ =>
      rw [hturn] at h hdoes
      obtain ⟨before, hbefore⟩ := hdoes
      obtain ⟨later, hlater⟩ := ih h
      exact ⟨before ++ later, hbefore.looped hlater⟩

/-- The loop ends: each turn sleeps away some of the time that is left, and the turn in which
the polls are used up is the last but one. -/
theorem readLoop_ends (hsleeps : Sleeps handler env) {n : Nat}
    (hn : (deadline - w.now).toNat ≤ n) :
    ∃ r, ∀ fuel, n + 2 ≤ fuel → readLoop handler env deadline fuel i rsp w = some r := by
  have hpositive := hsleeps.positive
  induction n generalizing i rsp w with
  | zero =>
    have hdoes := turn_does hsleeps deadline i rsp w
    cases hturn : turn handler env deadline i rsp w with
    | returns reading w₁ => exact ⟨(reading, w₁), fun fuel _ => readLoop_returns hturn (by omega)⟩
    | goesOn i₁ rsp₁ w₁ =>
      rw [hturn] at hdoes
      obtain ⟨events, hwent⟩ := hdoes
      have := hwent.early
      omega
  | succ n ih =>
    have hdoes := turn_does hsleeps deadline i rsp w
    cases hturn : turn handler env deadline i rsp w with
    | returns reading w₁ => exact ⟨(reading, w₁), fun fuel _ => readLoop_returns hturn (by omega)⟩
    | goesOn i₁ rsp₁ w₁ =>
      rw [hturn] at hdoes
      obtain ⟨events, hwent⟩ := hdoes
      rcases hwent.progress with hused | hslept
      · have hlast : turn handler env deadline i₁ rsp₁ w₁ = .returns (giveUp rsp₁) w₁ := by
          rw [turn, if_pos hused]
        refine ⟨(giveUp rsp₁, w₁), fun fuel _ => ?_⟩
        rw [readLoop_goesOn hturn (by omega), readLoop_returns hlast (by omega)]
      · have hearly := hwent.early
        obtain ⟨r, hr⟩ := @ih i₁ rsp₁ w₁ (by omega)
        refine ⟨r, fun fuel _ => ?_⟩
        rw [readLoop_goesOn hturn (by omega), hr _ (by omega)]

/-- The deadline of a read, given or set, and the loop that it begins. -/
theorem readSerial_does (hsleeps : Sleeps handler env) {fuel : Nat} {deadline : Option Int}
    {reading : Reading} (h : readSerial handler env fuel deadline w = some (reading, w')) :
    ∃ events, w'.trace = w.trace ++ .readSerial deadline :: events ∧ w.now ≤ w'.now ∧
      NoReadAfter (setDeadline handler env deadline (w.call deadline)).1 events := by
  unfold readSerial at h
  split_ifs at h with havailable
  · obtain ⟨events, hloop⟩ := readLoop_does hsleeps h
    cases deadline with
    | some deadline =>
      exact ⟨events, by simpa [World.call, setDeadline] using hloop.trace, hloop.now,
        hloop.inTime⟩
    | none =>
      refine ⟨.clock ((w.call none).askClock env).now :: events, ?_, ?_, ?_⟩
      · simpa [World.call, World.askClock, setDeadline] using hloop.trace
      · exact Int.le_trans (now_askClock env (w.call none)) hloop.now
      · refine List.Pairwise.cons ?_ hloop.inTime
        intro e he hpassed
        exact hloop.late (of_decide_eq_true hpassed) e he
  · cases h
    exact ⟨[], by simp [World.call], Int.le_refl _, List.Pairwise.nil⟩

theorem readSerial_ends (hsleeps : Sleeps handler env) {deadline : Option Int} {n : Nat}
    (hn : ((setDeadline handler env deadline (w.call deadline)).1 -
      (setDeadline handler env deadline (w.call deadline)).2.now).toNat ≤ n) :
    ∃ r, ∀ fuel, n + 2 ≤ fuel → readSerial handler env fuel deadline w = some r := by
  by_cases havailable : env.available w.trace.length = true
  · obtain ⟨r, hr⟩ := readLoop_ends hsleeps hn
    refine ⟨r, fun fuel hfuel => ?_⟩
    rw [readSerial, if_pos havailable]
    exact hr fuel hfuel
  · exact ⟨_, fun fuel _ => by rw [readSerial, if_neg havailable]⟩

/-! ### The reads of a request -/

/-- What a read does that was given a deadline. -/
structure Answered (deadline : Int) (w : World) (reading : Reading) (w' : World)
    (events : List Event) : Prop where
  trace : w'.trace = w.trace ++ events
  now : w.now ≤ w'.now
  inTime : NoReadAfter deadline events
  late : deadline ≤ w.now → ∀ e ∈ events, e.isPoll = false
  unpassed : reading.errCode = .NO_ERR → Unpassed deadline events
  calls : ∀ d, .readSerial d ∈ events → d = some deadline
  untimed : ∃ available turns, Rs232Handler.readSerial available deadline turns = some reading

theorem readSerial_answered (hsleeps : Sleeps handler env) {fuel : Nat} {reading : Reading}
    (h : readSerial handler env fuel (some deadline) w = some (reading, w')) :
    ∃ events, Answered deadline w reading w' events := by
  unfold readSerial at h
  split_ifs at h with havailable
  · obtain ⟨events, hloop⟩ := readLoop_does hsleeps h
    refine ⟨.readSerial (some deadline) :: events, ?_, hloop.now, ?_, ?_, ?_, ?_, ?_⟩
    · simpa [World.call, setDeadline] using hloop.trace
    · exact List.Pairwise.cons (by simp [Event.showsPassed]) hloop.inTime
    · intro hlate
      simpa [Event.isPoll] using hloop.late hlate
    · intro hcode
      exact unpassed_cons.mpr ⟨rfl, hloop.unpassed hcode⟩
    · intro d hd
      rcases List.mem_cons.mp hd with hd | hd
      · cases hd
        rfl
      · exact absurd hd (hloop.quiet d)
    · exact ⟨true, turnsOf events, hloop.turns⟩
  · cases h
    exact ⟨[.readSerial (some deadline)], rfl, Int.le_refl _, List.pairwise_singleton _ _,
      by simp [Event.isPoll], by simp, by simp, false, [], rfl⟩

theorem takeReading_again {cmd type : String} {reading : Reading} {saved saved' : Saved}
    (h : takeReading cmd type (frameRead reading) saved = .inr saved') :
    reading.errCode = .NO_ERR := by
  unfold frameRead at h
  split_ifs at h with hcode
  · exact hcode
  · cases h

/-- The loop of a request over the readings it has taken is the loop without a clock. -/
theorem readSignal_cons {cmd type : String} {n : Nat} (read : FrameRead) (reads : List FrameRead)
    (saved : Saved) :
    readSignal cmd type (n + 1) (read :: reads) saved =
      match takeReading cmd type read saved with
      | .inl signal => signal
      | .inr saved => readSignal cmd type n reads saved := by
  cases read with
  | failed code hcode => rfl
  | text documents =>
    simp only [readSignal, takeReading]
    rcases splitResponse cmd type documents saved with ⟨_ | split, saved'⟩
    · rfl
    · by_cases hpending : split.errCode = .NO_ERR ∧ split.isPending type = true
      · simp only [if_pos hpending]
      · simp only [if_neg hpending]

/-- What the reads of a request do with their one deadline. -/
structure Signalled (cmd type : String) (deadline : Int) (n : Nat) (saved : Saved) (w : World)
    (signal : Signal) (w' : World) (events : List Event) : Prop where
  trace : w'.trace = w.trace ++ events
  inTime : NoReadAfter deadline events
  late : deadline ≤ w.now → ∀ e ∈ events, e.isPoll = false
  calls : ∀ d, .readSerial d ∈ events → d = some deadline
  untimed : ∃ readings : List Reading,
    (∀ r ∈ readings, ∃ available turns,
      Rs232Handler.readSerial available deadline turns = some r) ∧
    readSignal cmd type n (readings.map frameRead) saved = signal

/-- A read that did not have what was waited for, the sleep behind it, and the other reads. -/
theorem Answered.signalled {cmd type : String} {n : Nat} {saved saved' : Saved} {w₁ : World}
    {reading : Reading} {signal : Signal} {before later : List Event}
    (hread : Answered deadline w reading w₁ before)
    (hagain : takeReading cmd type (frameRead reading) saved = .inr saved')
    (hrest : Signalled cmd type deadline n saved' (w₁.sleep handler env) signal w' later) :
    Signalled cmd type deadline (n + 1) saved w signal w'
      (before ++ .sleep handler.serialTimeout :: later) := by
  have hunpassed := hread.unpassed (takeReading_again hagain)
  have hlater : NoReadAfter deadline (.sleep handler.serialTimeout :: later) :=
    List.Pairwise.cons (by simp [Event.showsPassed]) hrest.inTime
  refine ⟨?_, noReadAfter_append hunpassed hlater, ?_, ?_, ?_⟩
  · simp [hrest.trace, World.sleep, hread.trace]
  · intro hlate e he
    have hslept : deadline ≤ (w₁.sleep handler env).now := by
      have := hread.now
      simp only [World.sleep]
      omega
    rcases List.mem_append.mp he with h | h
    · exact hread.late hlate e h
    · rcases List.mem_cons.mp h with rfl | h
      · rfl
      · exact hrest.late hslept e h
  · intro d hd
    rcases List.mem_append.mp hd with h | h
    · exact hread.calls d h
    · exact hrest.calls d (by simpa using h)
  · obtain ⟨readings, hreadings, hsignal⟩ := hrest.untimed
    refine ⟨reading :: readings, ?_, ?_⟩
    · intro r hr
      rcases List.mem_cons.mp hr with rfl | hr
      · exact hread.untimed
      · exact hreadings r hr
    · rw [List.map_cons, readSignal_cons, hagain]
      exact hsignal

/-- By induction on the number of reads that are left. -/
theorem signalLoop_does (hsleeps : Sleeps handler env) {cmd type : String} {fuel n : Nat}
    {saved : Saved} {signal : Signal}
    (h : signalLoop handler env fuel cmd type deadline n saved w = some (signal, w')) :
    ∃ events, Signalled cmd type deadline n saved w signal w' events := by
  induction n generalizing saved w with
  | zero =>
    cases h
    exact ⟨[], by simp, List.Pairwise.nil, by simp, by simp, [], by simp, rfl⟩
  | succ n ih =>
    obtain ⟨r, hread, hrest⟩ := Option.bind_eq_some_iff.mp h
    obtain ⟨before, hbefore⟩ := readSerial_answered hsleeps hread
    cases htake : takeReading cmd type (frameRead r.1) saved with
    | inl signal₁ =>
      rw [htake] at hrest
      cases hrest
      refine ⟨before, hbefore.trace, hbefore.inTime, hbefore.late, hbefore.calls, [r.1], ?_, ?_⟩
      · simpa using hbefore.untimed
      · rw [List.map_cons, readSignal_cons, htake]
    | inr saved₁ =>
      rw [htake] at hrest
      obtain ⟨later, hlater⟩ := ih hrest
      exact ⟨_, hbefore.signalled htake hlater⟩

/-- The clock never goes back, so the fuel of the first read is enough for the others. -/
theorem signalLoop_ends (hsleeps : Sleeps handler env) {cmd type : String} {m n : Nat}
    {saved : Saved} (hm : (deadline - w.now).toNat ≤ m) :
    ∃ r, ∀ fuel, m + 2 ≤ fuel →
      signalLoop handler env fuel cmd type deadline n saved w = some r := by
  induction n generalizing saved w with
  | zero => exact ⟨_, fun _ _ => rfl⟩
  | succ n ih =>
    obtain ⟨r, hr⟩ := @readSerial_ends _ _ w hsleeps (some deadline) m hm
    obtain ⟨before, hbefore⟩ := readSerial_answered hsleeps (hr (m + 2) (Nat.le_refl _))
    cases htake : takeReading cmd type (frameRead r.1) saved with
    | inl signal =>
      refine ⟨(signal, r.2), fun fuel hfuel => ?_⟩
      simp only [signalLoop, hr fuel hfuel, Option.bind_some, htake]
    | inr saved₁ =>
      have hleft : (deadline - (r.2.sleep handler env).now).toNat ≤ m := by
        have := hbefore.now
        simp only [World.sleep]
        omega
      obtain ⟨r₁, hr₁⟩ := @ih _ saved₁ hleft
      refine ⟨r₁, fun fuel hfuel => ?_⟩
      simp only [signalLoop, hr fuel hfuel, Option.bind_some, htake]
      exact hr₁ fuel hfuel

end Reads

/-! ### Every read ends -/

section Ends

variable (handler : Handler) (env : Surroundings)

/-- From some fuel on the read returns, and it reads nothing behind its deadline. -/
def ReadEnds (deadline : Option Int) (w : World) : Prop :=
  ∃ enough reading w' events,
    (∀ fuel, enough ≤ fuel → readSerial handler env fuel deadline w = some (reading, w')) ∧
    w'.trace = w.trace ++ .readSerial deadline :: events ∧
    NoReadAfter (setDeadline handler env deadline (w.call deadline)).1 events

/-- From some fuel on the request returns, and the deadline that it has set at its beginning is
the one of all its reads. -/
def SignalEnds (cmd type : String) (saved : Saved) (w : World) : Prop :=
  ∃ enough signal w' events, ∃ now : Int,
    (∀ fuel, enough ≤ fuel →
      getSignalFromSerialBuffer handler env fuel cmd type saved w = some (signal, w')) ∧
    w'.trace = w.trace ++ .clock now :: events ∧
    (∀ d, .readSerial d ∈ events → d = some (now + handler.serialTotalTimeout)) ∧
    NoReadAfter (now + handler.serialTotalTimeout) (.clock now :: events)

end Ends

/-- Whatever comes in, and in whatever pieces. -/
theorem serialReading_ends (handler : Handler) (env : Surroundings)
    (hsleeps : Sleeps handler env) :
    (∀ deadline w, ReadEnds handler env deadline w) ∧
      ∀ cmd type saved w, SignalEnds handler env cmd type saved w := by
  constructor
  · intro deadline w
    obtain ⟨r, hr⟩ := @readSerial_ends _ _ w hsleeps deadline _ (Nat.le_refl _)
    obtain ⟨events, htrace, -, htime⟩ := readSerial_does hsleeps (hr _ (Nat.le_refl _))
    exact ⟨_, r.1, r.2, events, hr, htrace, htime⟩
  · intro cmd type saved w
    obtain ⟨r, hr⟩ := signalLoop_ends hsleeps (Nat.le_refl _)
    obtain ⟨events, hsignal⟩ := signalLoop_does hsleeps (hr _ (Nat.le_refl _))
    refine ⟨_, r.1, r.2, events, (w.askClock env).now, hr, ?_, hsignal.calls, ?_⟩
    · rw [hsignal.trace]
      simp [World.askClock]
    · refine List.Pairwise.cons ?_ hsignal.inTime
      intro e he hpassed
      exact hsignal.late (of_decide_eq_true hpassed) e he

/-- A bus that never stops sending and never closes a frame; every sleep is exact. -/
def garbage : Surroundings where
  available _ := true
  port _ := .waiting "garbage".toByteArray
  passes _ := 0
  sleeps _ time := time

theorem serialReading_ends_garbage :
    (∀ deadline w, ReadEnds ⟨1, 20⟩ garbage deadline w) ∧
      ∀ cmd type saved w, SignalEnds ⟨1, 20⟩ garbage cmd type saved w :=
  serialReading_ends ⟨1, 20⟩ garbage ⟨by decide, fun _ => Nat.le_refl _⟩

end NexyGateway.SerialDeadlines
