import NexyGateway.ModbusGuards

/-!
# Outcomes of an AHL write

When `write_parameter` raises, and what the status zero says about the bus. Three
special cases run outside of the handler's `try` block, and two of them compute with
a number that the lift controller has sent.
-/
namespace NexyGateway.ModbusHandler

open PyNumber (PyError)

/-- The read loop goes on to the next try after this reply. -/
def Retried (response : Response) : Prop :=
  (validateReadParamResponse response).2.2 ≠ .NO_ERR ∧
    (validateReadParamResponse response).2.2 ≠ .LCM_ERR

/-- The first of the next `n` replies that ends the read loop carries the value. -/
def ReadsAs (replies : Nat → Response) (value : Int) (n : Nat) : Prop :=
  ∃ k < n, validateReadParamResponse (replies k) = (value, MbCode.source, .NO_ERR) ∧
    ∀ j < k, Retried (replies j)

theorem readsAs_zero (replies : Nat → Response) (value : Int) : ¬ ReadsAs replies value 0 := by
  rintro ⟨k, hk, -⟩
  omega

/-- The value is in the first reply, or the first is retried and the value is in a later one. -/
theorem readsAs_succ (replies : Nat → Response) (value : Int) (n : Nat) :
    ReadsAs replies value (n + 1) ↔
      validateReadParamResponse (replies 0) = (value, MbCode.source, .NO_ERR) ∨
        Retried (replies 0) ∧ ReadsAs (fun k => replies (k + 1)) value n := by
  constructor
  · rintro ⟨k, hk, hvalue, hbefore⟩
    cases k with
    | zero => exact Or.inl hvalue
    | succ k =>
      refine Or.inr ⟨hbefore 0 (by omega), k, by omega, hvalue, ?_⟩
      intro j hj
      exact hbefore (j + 1) (by omega)
  · rintro (hvalue | ⟨hfirst, k, hk, hvalue, hbefore⟩)
    · exact ⟨0, by omega, hvalue, by intro j hj; omega⟩
    · refine ⟨k + 1, by omega, hvalue, ?_⟩
      intro j hj
      cases j with
      | zero => exact hfirst
      | succ j => exact hbefore j (by omega)

/-- At most one value can be read. -/
theorem ReadsAs.unique {replies : Nat → Response} {v w : Int} {n : Nat}
    (hv : ReadsAs replies v n) (hw : ReadsAs replies w n) : v = w := by
  obtain ⟨k, -, hvk, hk⟩ := hv
  obtain ⟨l, -, hwl, hl⟩ := hw
  rcases Nat.lt_trichotomy k l with hlt | rfl | hlt
  · exact absurd (by rw [hvk]) (hl k hlt).1
  · rw [hvk] at hwl
    exact (Prod.mk.inj hwl).1
  · exact absurd (by rw [hwl]) (hk l hlt).1

/-- The replies that the session has not used yet. -/
def Session.coming (s : Session) : Nat → Response := fun k => s.replies (s.sent + k)

theorem readTries_eq_iff (param : String) {addr : Nat} (ha : convertParamAddr param = some addr)
    (n : Nat) (ret : Triple) (s : Session) (value : Int) (hret : ret.2.2 ≠ .NO_ERR ∨ n ≠ 0) :
    (readTries param n ret s).1 = (value, MbCode.source, .NO_ERR) ↔
      ReadsAs s.coming value n := by
  induction n generalizing ret s with
  | zero =>
    have hret := hret.resolve_right (by omega)
    refine ⟨fun h => absurd (by rw [show ret = _ from h]) hret, fun h => ?_⟩
    exact absurd h (readsAs_zero _ _)
  | succ n ih =>
    have hsend : serialReadParam param s = s.send (.read addr 2) := by
      simp [serialReadParam, ha]
    have hnext : (s.send (.read addr 2)).2.coming = fun k => s.coming (k + 1) := by
      funext k
      simp [Session.coming, Session.send, Nat.add_assoc, Nat.add_comm 1 k]
    rw [readsAs_succ, readTries, hsend]
    have hfirst : (s.send (.read addr 2)).1 = s.coming 0 := rfl
    simp only [hfirst]
    by_cases hdone : (validateReadParamResponse (s.coming 0)).2.2 = .NO_ERR ∨
        (validateReadParamResponse (s.coming 0)).2.2 = .LCM_ERR
    · rw [if_pos hdone]
      constructor
      · exact Or.inl
      · rintro (h | ⟨⟨hne, hne'⟩, -⟩)
        · exact h
        · exact absurd hdone (by simp [hne, hne'])
    · rw [if_neg hdone, ih _ _ (Or.inl fun h => hdone (Or.inl h)), hnext]
      obtain ⟨hne, hne'⟩ := not_or.mp hdone
      constructor
      · exact fun h => Or.inr ⟨⟨hne, hne'⟩, h⟩
      · rintro (h | ⟨-, h⟩)
        · exact absurd (by rw [h]) hne
        · exact h

/-- A read of a well-formed parameter brings back a value exactly when the link is up and the
replies carry it. -/
theorem readParameter_eq_iff {param : String} {addr : Nat} {s : Session} (value : Int)
    (hv : (parseIntValue param).isSome) (ha : convertParamAddr param = some addr) :
    (readParameter [param] s).1 = (value, MbCode.source, .NO_ERR) ↔
      s.up s.checks = true ∧ ReadsAs s.coming value maxTries := by
  unfold readParameter checkModbusConnection
  by_cases hup : s.up s.checks = true
  · have hvalid : validateInputs [param] 1 = accepted := by simp [validateInputs, hv]
    simp only [if_pos hup, hvalid]
    have hok : ¬ (accepted.1 ≠ 0) := by simp [accepted]
    rw [if_neg hok, readTries_eq_iff param ha maxTries _ _ value (Or.inr (by decide))]
    exact ⟨fun h => ⟨hup, h⟩, fun h => h.2⟩
  · simp [hup, failed]

theorem readTries_source (param : String) (n : Nat) (ret : Triple) (s : Session)
    (h : (readTries param (n + 1) ret s).1.2.2 = .NO_ERR) :
    (readTries param (n + 1) ret s).1 =
      ((readTries param (n + 1) ret s).1.1, MbCode.source, .NO_ERR) := by
  induction n generalizing ret s with
  | zero =>
    simp only [readTries, ite_self] at h ⊢
    exact validateReadParamResponse_source _ h
  | succ n ih =>
    rw [readTries] at h ⊢
    dsimp only at h ⊢
    split at h
    · rename_i hdone
      rw [if_pos hdone]
      exact validateReadParamResponse_source _ h
    · rename_i hdone
      rw [if_neg hdone]
      exact ih _ _ h

/-- A triple without an error code holds a value that was read. -/
theorem readParameter_source {param : String} {s : Session}
    (h : (readParameter [param] s).1.2.2 = .NO_ERR) :
    (readParameter [param] s).1 = ((readParameter [param] s).1.1, MbCode.source, .NO_ERR) := by
  unfold readParameter checkModbusConnection at h ⊢
  by_cases hup : s.up s.checks = true
  · simp only [if_pos hup] at h ⊢
    by_cases hvalid : (validateInputs [param] 1).1 ≠ 0
    · simp only [if_pos hvalid] at h
      simp only [validateInputs] at h hvalid
      split at h <;> simp_all [failed, accepted]
      split at h <;> simp_all
    · simp only [if_neg hvalid] at h ⊢
      exact readTries_source param 2 _ _ h
  · simp [hup, failed] at h

/-- The code is `NO_ERR` exactly when some value was read, and then the value is the status. -/
theorem readParameter_noErr_iff {param : String} {addr : Nat} {s : Session}
    (hv : (parseIntValue param).isSome) (ha : convertParamAddr param = some addr) :
    (readParameter [param] s).1.2.2 = .NO_ERR ↔
      s.up s.checks = true ∧ ReadsAs s.coming (readParameter [param] s).1.1 maxTries := by
  constructor
  · exact fun h => (readParameter_eq_iff _ hv ha).mp (readParameter_source h)
  · intro h
    rw [(readParameter_eq_iff _ hv ha).mpr h]

theorem osm_valid : (parseIntValue osmSpeedParameter).isSome := by decide
theorem osm_addr : convertParamAddr osmSpeedParameter = some 718 := by decide
theorem fireFloor_valid : (parseIntValue fireFloorParameter).isSome := by decide
theorem fireFloor_addr : convertParamAddr fireFloorParameter = some 22 := by decide

/-- The rated speed is checked by decimal conversion, which refuses a hexadecimal text. -/
theorem handleSpeedConfig_error_iff (value : String) (s : Session) :
    (∃ e, (handleSpeedConfig value s).1 = .error e) ↔
      s.up s.checks = true ∧ ReadsAs s.coming 300 maxTries ∧ PyNumber.int value = none := by
  have hread := readParameter_noErr_iff osm_valid osm_addr (s := s)
  unfold handleSpeedConfig
  by_cases hc : (readParameter [osmSpeedParameter] s).1.2.2 = .NO_ERR
  · obtain ⟨hup, hvalue⟩ := hread.mp hc
    simp only [ne_eq, hc, not_true_eq_false, if_false]
    by_cases hosm : (readParameter [osmSpeedParameter] s).1.1 = 300
    · rw [hosm] at hvalue
      simp only [hosm, not_true_eq_false, if_false]
      cases PyNumber.int value with
      | none => simp [hup, hvalue]
      | some speed =>
        simp only [reduceCtorEq, and_false, iff_false]
        split <;> simp
    · simp only [hosm, not_false_eq_true, if_true]
      constructor
      · rintro ⟨e, he⟩
        cases he
      · rintro ⟨-, h300, -⟩
        exact absurd (hvalue.unique h300) hosm
  · simp only [ne_eq, hc, not_false_eq_true, if_true]
    constructor
    · rintro ⟨e, he⟩
      cases he
    · rintro ⟨hup, h300, -⟩
      have hok := (readParameter_eq_iff 300 osm_valid osm_addr).mpr ⟨hup, h300⟩
      exact absurd (by rw [hok]) hc

/-- A fire floor below one makes the shift count negative. -/
theorem handleFloorLock_error_iff {value : String} (hvalue : (parseIntValue value).isSome)
    (s : Session) :
    (∃ e, (handleFloorLock value s).1 = .error e) ↔
      s.up s.checks = true ∧ ∃ f < 1, ReadsAs s.coming f maxTries := by
  have hread := readParameter_noErr_iff fireFloor_valid fireFloor_addr (s := s)
  obtain ⟨v, hv⟩ := Option.isSome_iff_exists.mp hvalue
  unfold handleFloorLock
  by_cases hc : (readParameter [fireFloorParameter] s).1.2.2 = .NO_ERR
  · obtain ⟨hup, hfloor⟩ := hread.mp hc
    simp only [ne_eq, hc, not_true_eq_false, if_false, hv]
    by_cases hlow : (readParameter [fireFloorParameter] s).1.1 - 1 < 0
    · simp only [if_pos hlow]
      exact ⟨fun _ => ⟨hup, _, by omega, hfloor⟩, fun _ => ⟨_, rfl⟩⟩
    · simp only [if_neg hlow]
      constructor
      · rintro ⟨e, he⟩
        split at he <;> cases he
      · rintro ⟨-, f, hf, hreads⟩
        rw [hreads.unique hfloor] at hf
        omega
  · simp only [ne_eq, hc, not_false_eq_true, if_true]
    constructor
    · rintro ⟨e, he⟩
      cases he
    · rintro ⟨hup, f, -, hreads⟩
      have hok := (readParameter_eq_iff f fireFloor_valid fireFloor_addr).mpr ⟨hup, hreads⟩
      exact absurd (by rw [hok]) hc

/-- The replies to the first read of a call lead one of the two special cases astray: it meets
a rated speed spelled in hexadecimal, or a fire floor below one. -/
def Astray (param value : String) (up : Bool) (coming : Nat → Response) : Prop :=
  up = true ∧
    (param = liftSpeedParameter ∧ PyNumber.int value = none ∧ ReadsAs coming 300 maxTries ∨
      param = floorLockParameter ∧ ∃ f < 1, ReadsAs coming f maxTries)

theorem customParameter_error_iff {param value : String} (hvalue : (parseIntValue value).isSome)
    (s : Session) :
    (∃ e, (customParameter param value s).1 = .error e) ↔
      Astray param value (s.up s.checks) s.coming := by
  unfold customParameter Astray
  by_cases hspeed : param = liftSpeedParameter
  · -- only one of the two checks can apply
    rw [if_pos hspeed, handleSpeedConfig_error_iff]
    simp [hspeed, and_comm, show liftSpeedParameter ≠ floorLockParameter by decide]
  · rw [if_neg hspeed]
    by_cases hfloor : param = floorLockParameter
    · rw [if_pos hfloor, handleFloorLock_error_iff hvalue]
      simp [hfloor, show floorLockParameter ≠ liftSpeedParameter by decide]
    · rw [if_neg hfloor]
      simp [hspeed, hfloor]

/-! ### Writes -/

def Event.isWrite : Event → Bool
  | .exchange (.write _ _) _ => true
  | _ => false

def writeCount (log : List Event) : Nat := log.countP Event.isWrite

theorem writeCount_append (es fs : List Event) :
    writeCount (es ++ fs) = writeCount es + writeCount fs := List.countP_append

theorem writeCount_onlyReads {es : List Event} (h : OnlyReads es) : writeCount es = 0 := by
  refine List.countP_eq_zero.mpr fun e he => ?_
  obtain ⟨a, c, r, rfl⟩ := h e he
  simp [Event.isWrite]

/-- The last thing on the bus is a register write, and its reply is no error and echoes twice
the parameter number and two registers. -/
def LastAcknowledged (param : String) (log : List Event) : Prop :=
  ∃ (before : List Event) (address : Nat) (values : List Int) (functionCode : Int)
    (registers : Option (List Int)) (n : Int), log = before ++ [.exchange (.write address values)
      (.pdu false functionCode registers (some (address : Int)) (some 2))] ∧
    PyNumber.int param = some n ∧ (address : Int) = 2 * n

theorem LastAcknowledged.append {param : String} {log : List Event} (es : List Event)
    (h : LastAcknowledged param log) : LastAcknowledged param (es ++ log) := by
  obtain ⟨before, address, values, functionCode, registers, n, rfl, hn⟩ := h
  exact ⟨es ++ before, address, values, functionCode, registers, n,
    (List.append_assoc ..).symm, hn⟩

theorem convertParamAddr_int {param : String} {addr : Nat}
    (h : convertParamAddr param = some addr) :
    ∃ n, PyNumber.int param = some n ∧ (addr : Int) = 2 * n := by
  unfold convertParamAddr at h
  split at h
  · obtain ⟨n, hn, hpos⟩ := Option.bind_eq_some_iff.mp h
    split at hpos
    · cases hpos
    · refine ⟨n, hn, ?_⟩
      have := Option.some.inj hpos
      omega
  · cases h

theorem validateWriteParamResponse_status {response : Response} {param : String}
    (h : (validateWriteParamResponse response param).1 = 0) :
    (validateWriteParamResponse response param).2.2 = .NO_ERR ∧
      ∃ functionCode registers, response = .pdu false functionCode registers
        ((convertParamAddr param).map (fun a : Nat => (a : Int))) (some 2) := by
  unfold validateWriteParamResponse at h ⊢
  split at h
  · simp [failed] at h
  · simp [failed] at h
  · simp [failed] at h
  split at h
  · simp [failed] at h
  · rename_i functionCode registers address count hack
    obtain ⟨haddr, hcount⟩ := not_or.mp hack
    rw [if_neg hack]
    refine ⟨rfl, functionCode, registers, ?_⟩
    rw [not_not.mp haddr, not_not.mp hcount]
    cases convertParamAddr param <;> rfl

/-- One try of the write loop issues at most one write, the one whose reply it judges. -/
theorem serialWriteParam_tried (param val : String) (s : Session) :
    ∃ es, (serialWriteParam param val s).2.log = s.log ++ es ∧ writeCount es ≤ 1 ∧
      ((validateWriteParamResponse (serialWriteParam param val s).1 param).1 = 0 →
        LastAcknowledged param es) := by
  unfold serialWriteParam
  cases hc : convertParamAddr param with
  | none => exact ⟨[], by simp, by simp [writeCount], by simp [validateWriteParamResponse, failed]⟩
  | some addr =>
    cases hp : packValue val with
    | none =>
      exact ⟨[], by simp, by simp [writeCount], by simp [validateWriteParamResponse, failed]⟩
    | some values =>
      refine ⟨[.exchange (.write addr values) (s.replies s.sent)], rfl,
        by simp [writeCount, Event.isWrite], fun h => ?_⟩
      obtain ⟨-, functionCode, registers, hack⟩ := validateWriteParamResponse_status h
      obtain ⟨n, hn, haddr⟩ := convertParamAddr_int hc
      rw [hc] at hack
      refine ⟨[], addr, values, functionCode, registers, n, ?_, hn, haddr⟩
      have hreply : s.replies s.sent = .pdu false functionCode registers (some (addr : Int))
          (some 2) := hack
      rw [hreply, List.nil_append]

theorem writeTries_tried (param val : String) (n : Nat) (ret : Triple) (s : Session) :
    ∃ es, (writeTries param val (n + 1) ret s).2.log = s.log ++ es ∧ writeCount es ≤ n + 1 ∧
      ((writeTries param val (n + 1) ret s).1.1 = 0 → LastAcknowledged param es) := by
  induction n generalizing ret s with
  | zero =>
    obtain ⟨es, hlog, hcount, hack⟩ := serialWriteParam_tried param val s
    refine ⟨es, ?_, hcount, ?_⟩ <;> simp only [writeTries, ite_self] <;> assumption
  | succ n ih =>
    obtain ⟨es, hlog, hcount, hack⟩ := serialWriteParam_tried param val s
    rw [writeTries]
    by_cases hd : (validateWriteParamResponse (serialWriteParam param val s).1 param).2.2 = .NO_ERR
    · simp only [if_pos hd]
      exact ⟨es, hlog, by omega, hack⟩
    · simp only [if_neg hd]
      obtain ⟨fs, hlog', hcount', hack'⟩ := ih
        (validateWriteParamResponse (serialWriteParam param val s).1 param)
        (serialWriteParam param val s).2
      refine ⟨es ++ fs, by rw [hlog', hlog, List.append_assoc], ?_, fun h => (hack' h).append es⟩
      rw [writeCount_append]
      omega

/-- What a call that returns has done: at most three writes, and zero is its status only if the
last one was acknowledged. -/
def Truthful (param : String) (r : Except PyError Triple × Session) : Prop :=
  ∃ ret, r.1 = .ok ret ∧ (ret.1 = 0 → LastAcknowledged param r.2.log) ∧ writeCount r.2.log ≤ 3

theorem handleRebootRequest_bus (value : String) (s : Session) :
    (handleRebootRequest value s).up = s.up ∧ (handleRebootRequest value s).checks = s.checks ∧
      (handleRebootRequest value s).coming = s.coming := by
  unfold handleRebootRequest
  split <;> exact ⟨rfl, rfl, rfl⟩

/-- The session in which the special cases of a call run. -/
def afterReboot (param value : String) (s : Session) : Session :=
  if param = swInstallationCmd then handleRebootRequest value s else s

theorem afterReboot_log (param value : String) (s : Session) :
    ∃ es, (afterReboot param value s).log = s.log ++ es ∧ ∀ e ∈ es, e = .diskSync := by
  unfold afterReboot
  split
  · exact handleRebootRequest_log value s
  · exact ⟨[], by simp, by simp⟩

theorem afterReboot_bus (param value : String) (s : Session) :
    (afterReboot param value s).up = s.up ∧ (afterReboot param value s).checks = s.checks ∧
      (afterReboot param value s).coming = s.coming := by
  unfold afterReboot
  split
  · exact handleRebootRequest_bus value s
  · exact ⟨rfl, rfl, rfl⟩

/-- The write that follows the reset of alarms. -/
def afterReset (param : String) (ret : Triple) :
    (String × MbCode) × Session → Except PyError Triple × Session
  | ((value, err), s) =>
    if err ≠ .NO_ERR then (.ok (failed err), s)
    else (.ok (writeTries param value maxTries ret s).1, (writeTries param value maxTries ret s).2)

/-- The rest of a call once its special case has run. -/
def afterCustom (param value : String) (ret : Triple) :
    Except PyError MbCode × Session → Except PyError Triple × Session
  | (.error e, s) => (.error e, s)
  | (.ok err, s) =>
    if err ≠ .NO_ERR then (.ok (failed err), s)
    else afterReset param ret (handleResetAlarms param value s)

theorem writeValidated_eq (param value : String) (ret : Triple) (s : Session) :
    writeValidated param value ret s =
      afterCustom param value ret (customParameter param value (afterReboot param value s)) := by
  unfold writeValidated afterReboot
  dsimp only
  split <;> rename_i hcustom <;> rw [hcustom] <;> rfl

theorem afterReset_ok (param : String) (ret : Triple) (r : (String × MbCode) × Session) :
    ∃ t, (afterReset param ret r).1 = .ok t := by
  obtain ⟨⟨value, err⟩, s⟩ := r
  unfold afterReset
  dsimp only
  split <;> exact ⟨_, rfl⟩

theorem afterCustom_raises_iff (param value : String) (ret : Triple)
    (r : Except PyError MbCode × Session) :
    (∃ e, (afterCustom param value ret r).1 = .error e) ↔ ∃ e, r.1 = .error e := by
  obtain ⟨outcome, s⟩ := r
  cases outcome with
  | error e => exact ⟨fun _ => ⟨e, rfl⟩, fun _ => ⟨e, rfl⟩⟩
  | ok err =>
    refine iff_of_false ?_ (by rintro ⟨e, he⟩; cases he)
    rintro ⟨e, he⟩
    simp only [afterCustom] at he
    split at he
    · cases he
    · obtain ⟨t, ht⟩ := afterReset_ok param ret (handleResetAlarms param value s)
      rw [ht] at he
      cases he

/-- A call raises out of a special case or not at all. -/
theorem writeValidated_raises_iff {param value : String} (hvalue : (parseIntValue value).isSome)
    (ret : Triple) (s : Session) :
    (∃ e, (writeValidated param value ret s).1 = .error e) ↔
      Astray param value (s.up s.checks) s.coming := by
  obtain ⟨hup, hchecks, hcoming⟩ := afterReboot_bus param value s
  rw [writeValidated_eq, afterCustom_raises_iff, customParameter_error_iff hvalue, hup, hchecks,
    hcoming]

/-- Reads add nothing to what there is to tell about writes. -/
theorem afterReset_truthful (param : String) (ret : Triple) (r : (String × MbCode) × Session)
    (hnone : writeCount r.2.log = 0) : Truthful param (afterReset param ret r) := by
  obtain ⟨⟨value, err⟩, s⟩ := r
  unfold afterReset
  dsimp only at hnone ⊢
  split
  · exact ⟨_, rfl, by simp [failed], by simp only; omega⟩
  · obtain ⟨ws, hlog, hcount, hack⟩ := writeTries_tried param value 2 ret s
    refine ⟨_, rfl, fun h => ?_, ?_⟩
    · simp only [maxTries, hlog]
      exact (hack h).append _
    · simp only [maxTries, hlog, writeCount_append]
      omega

theorem afterCustom_truthful {param value : String} {ret : Triple}
    {r : Except PyError MbCode × Session} (hok : ¬ ∃ e, r.1 = .error e)
    (hnone : writeCount r.2.log = 0) : Truthful param (afterCustom param value ret r) := by
  obtain ⟨outcome, s⟩ := r
  cases outcome with
  | error e => exact absurd ⟨e, rfl⟩ hok
  | ok err =>
    simp only [afterCustom]
    split
    · exact ⟨_, rfl, by simp [failed], by simp only at hnone ⊢; omega⟩
    · obtain ⟨es, hlog, hreads, -⟩ := handleResetAlarms_log param value s
      refine afterReset_truthful param ret _ ?_
      rw [hlog, writeCount_append, writeCount_onlyReads hreads]
      exact hnone

/-- Where the special cases let the call through, it writes and tells the truth about it. -/
theorem writeValidated_truthful {param value : String} (hvalue : (parseIntValue value).isSome)
    (ret : Triple) {s : Session} (hlog : s.log = []) :
    Truthful param (writeValidated param value ret s) ↔
      ¬ Astray param value (s.up s.checks) s.coming := by
  rw [← writeValidated_raises_iff hvalue ret s]
  constructor
  · rintro ⟨t, ht, -⟩ ⟨e, he⟩
    rw [ht] at he
    cases he
  · intro h
    rw [writeValidated_eq] at h ⊢
    rw [afterCustom_raises_iff] at h
    refine afterCustom_truthful h ?_
    obtain ⟨syncs, hsync, hsyncs⟩ := afterReboot_log param value s
    obtain ⟨es, hreads, honly, -⟩ := customParameter_log param value (afterReboot param value s)
    have hzero : writeCount syncs = 0 := by
      refine List.countP_eq_zero.mpr fun e he => ?_
      rw [hsyncs e he]
      simp [Event.isWrite]
    rw [hreads, hsync, hlog, List.nil_append, writeCount_append, writeCount_onlyReads honly, hzero]

theorem coming_started (replies : Nat → Response) (up : Nat → Bool) :
    Session.coming ⟨replies, up, 1, 0, []⟩ = replies := by
  funext k
  simp [Session.coming]

theorem writeParameter_pair (replies : Nat → Response) (up : Nat → Bool) (param value : String) :
    writeParameter [param, value] (Session.start replies up) =
      if up 0 = true then
        if (validateInputs [param, value] 2).1 ≠ 0 then
          (.ok (validateInputs [param, value] 2), ⟨replies, up, 1, 0, []⟩)
        else
          writeValidated param value (validateInputs [param, value] 2) ⟨replies, up, 1, 0, []⟩
      else (.ok (failed .LINK_ERR), ⟨replies, up, 1, 0, []⟩) := rfl

/-- A call with two valid arguments on an open link comes to its special cases. -/
theorem writeParameter_started {replies : Nat → Response} {up : Nat → Bool} {param value : String}
    (hup : up 0 = true) (hparam : (parseIntValue param).isSome)
    (hvalue : (parseIntValue value).isSome) :
    writeParameter [param, value] (Session.start replies up) =
      writeValidated param value accepted ⟨replies, up, 1, 0, []⟩ := by
  have hvalid : validateInputs [param, value] 2 = accepted := by
    simp [validateInputs, hparam, hvalue]
  rw [writeParameter_pair, if_pos hup, hvalid, if_neg (by simp [accepted])]

/-- Every other call is refused before anything is done. -/
theorem writeParameter_refused {replies : Nat → Response} {up : Nat → Bool} {param value : String}
    (h : ¬ (up 0 = true ∧ (parseIntValue param).isSome ∧ (parseIntValue value).isSome)) :
    writeParameter [param, value] (Session.start replies up) =
      (.ok (failed (if up 0 = true then .ARG_INT_ERR else .LINK_ERR)), ⟨replies, up, 1, 0, []⟩) := by
  rw [writeParameter_pair]
  by_cases hup : up 0 = true
  · have hvalid : validateInputs [param, value] 2 = failed .ARG_INT_ERR := by
      have hsome : ¬ ((parseIntValue param).isSome ∧ (parseIntValue value).isSome) :=
        fun hsome => h ⟨hup, hsome⟩
      unfold validateInputs
      rw [if_neg (by simp), if_neg (by simpa using hsome)]
    rw [if_pos hup, if_pos hup, hvalid, if_pos (by simp [failed])]
  · rw [if_neg hup, if_neg hup]

theorem truthful_refused (param : String) (code : MbCode) {s : Session} (h : s.log = []) :
    Truthful param (.ok (failed code), s) :=
  ⟨_, rfl, by simp [failed], by simp [h, writeCount]⟩

theorem not_astray_of_invalid {param value : String} {up : Bool} {coming : Nat → Response}
    (h : ¬ (parseIntValue param).isSome) : ¬ Astray param value up coming := by
  rintro ⟨-, ⟨rfl, -⟩ | ⟨rfl, -⟩⟩ <;> exact h (by decide)

/-- A call returns, with a status that is true and after at most three writes, exactly when its
value can be parsed by every special case and the fire floor is one it can shift by. -/
theorem writeParameter_truthful_iff (replies : Nat → Response) (up : Nat → Bool)
    (param value : String) :
    Truthful param (writeParameter [param, value] (Session.start replies up)) ↔
      ¬ (up 0 = true ∧ (parseIntValue value).isSome ∧ Astray param value (up 1) replies) := by
  by_cases hvalid : up 0 = true ∧ (parseIntValue param).isSome ∧ (parseIntValue value).isSome
  · obtain ⟨hup, hparam, hvalue⟩ := hvalid
    rw [writeParameter_started hup hparam hvalue, writeValidated_truthful hvalue accepted rfl,
      coming_started]
    simp only [hup, hvalue, true_and]
  · rw [writeParameter_refused hvalid]
    refine iff_of_true (truthful_refused param _ rfl) ?_
    rintro ⟨hup, hvalue, hastray⟩
    exact not_astray_of_invalid (fun hparam => hvalid ⟨hup, hparam, hvalue⟩) hastray

/-- The rated speed of a lift that supports custom speeds. -/
def osmSpeedReply : Response := .pdu false 3 (some [0, 300]) none none

/-- A custom speed of 200, spelled in hexadecimal, raises out of the call. -/
theorem writeParameter_not_truthful :
    ¬ Truthful "30" (writeParameter ["30", "0xC8"]
      (Session.start (fun _ => osmSpeedReply) (fun _ => true))) := by
  have hraised : (writeParameter ["30", "0xC8"]
      (Session.start (fun _ => osmSpeedReply) (fun _ => true))).1 = .error .valueError := by
    decide
  rintro ⟨ret, hret, -⟩
  rw [hraised] at hret
  cases hret

end NexyGateway.ModbusHandler
