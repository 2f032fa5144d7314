import NexyGateway.ModbusHandler

/-!
# The AHL write guards

A write of the floor lock (parameter 363) or of the rated speed (parameter 30)
must follow a successful read of the parameter it is checked against. The guard
is chosen by the text of the parameter number and the address by its value, so
the guards hold exactly for the texts that do not spell these numbers otherwise.
-/
namespace NexyGateway.ModbusHandler

/-- Only register reads, the part of a call before its first write. -/
def OnlyReads (es : List Event) : Prop := ∀ e ∈ es, ∃ a c r, e = .exchange (.read a c) r

/-- Some read of the parameter among the events was answered with this value. -/
def ReadIn (es : List Event) (param : String) (value : Int) : Prop :=
  ∃ addr response, convertParamAddr param = some addr ∧ .exchange (.read addr 2) response ∈ es ∧
    validateReadParamResponse response = (value, MbCode.source, .NO_ERR)

/-- The number carried by a register pair, most significant word first. -/
def packed : List Int → Int
  | [msb, lsb] => msb * 2 ^ 16 + lsb
  | _ => 0

def FloorLockGuarded (before : List Event) (values : List Int) : Prop :=
  ∃ f, ReadIn before fireFloorParameter f ∧ (packed values).testBit (f - 1).toNat = false

def RatedSpeedGuarded (before : List Event) (values : List Int) : Prop :=
  ReadIn before osmSpeedParameter 300 ∧ 150 ≤ packed values ∧ packed values ≤ 300

/-- Every write at 726 = 2 * 363 and at 60 = 2 * 30 comes after the read that permits it. -/
def Guarded (log : List Event) : Prop :=
  ∀ before after values response,
    (log = before ++ .exchange (.write 726 values) response :: after →
      FloorLockGuarded before values) ∧
    (log = before ++ .exchange (.write 60 values) response :: after →
      RatedSpeedGuarded before values)

/-- A digit text for 363 or 30 other than the literal one, with a value the registers hold. -/
def Respelled (param value : String) : Prop :=
  PyNumber.isDigit param = true ∧
  (PyNumber.int param = some 363 ∨ PyNumber.int param = some 30) ∧
  param ≠ floorLockParameter ∧ param ≠ liftSpeedParameter ∧
  ∃ v, parseIntValue value = some v ∧ -2 ^ 31 ≤ v ∧ v < 2 ^ 31

theorem onlyReads_nil : OnlyReads [] := by intro e he; cases he

theorem onlyReads_append {es fs : List Event} (he : OnlyReads es) (hf : OnlyReads fs) :
    OnlyReads (es ++ fs) := by
  intro e h
  rcases List.mem_append.mp h with h | h
  · exact he e h
  · exact hf e h

theorem readIn_append_left {es : List Event} {param : String} {value : Int} (fs : List Event)
    (h : ReadIn es param value) : ReadIn (es ++ fs) param value := by
  obtain ⟨addr, response, ha, hm, hv⟩ := h
  exact ⟨addr, response, ha, List.mem_append_left _ hm, hv⟩

theorem readIn_append_right {fs : List Event} {param : String} {value : Int} (es : List Event)
    (h : ReadIn fs param value) : ReadIn (es ++ fs) param value := by
  obtain ⟨addr, response, ha, hm, hv⟩ := h
  exact ⟨addr, response, ha, List.mem_append_right _ hm, hv⟩

/-- Every triple with code `NO_ERR` comes from a register pair and names the handler. -/
theorem validateReadParamResponse_source (r : Response)
    (h : (validateReadParamResponse r).2.2 = .NO_ERR) :
    validateReadParamResponse r = ((validateReadParamResponse r).1, MbCode.source, .NO_ERR) := by
  unfold validateReadParamResponse at h ⊢
  split <;> simp_all [failed]
  split <;> simp_all

theorem serialReadParam_log (param : String) (s : Session) :
    ∃ es, (serialReadParam param s).2.log = s.log ++ es ∧ OnlyReads es ∧
      ((validateReadParamResponse (serialReadParam param s).1).2.2 = .NO_ERR →
        ReadIn es param (validateReadParamResponse (serialReadParam param s).1).1) := by
  cases hc : convertParamAddr param with
  | none =>
    refine ⟨[], by simp [serialReadParam, hc], onlyReads_nil, ?_⟩
    intro h
    simp [serialReadParam, hc, validateReadParamResponse, failed] at h
  | some addr =>
    refine ⟨[.exchange (.read addr 2) (s.replies s.sent)], by simp [serialReadParam, hc,
      Session.send], ?_, ?_⟩
    · intro e he
      exact ⟨addr, 2, _, List.mem_singleton.mp he⟩
    · intro h
      simp only [serialReadParam, hc, Session.send] at h ⊢
      exact ⟨addr, _, hc, List.mem_singleton.mpr rfl, validateReadParamResponse_source _ h⟩

/-- At least one round of the loop: the answer it accepts is among the events. -/
theorem readTries_log (param : String) (n : Nat) (ret : Triple) (s : Session) :
    ∃ es, (readTries param (n + 1) ret s).2.log = s.log ++ es ∧ OnlyReads es ∧
      ((readTries param (n + 1) ret s).1.2.2 = .NO_ERR →
        ReadIn es param (readTries param (n + 1) ret s).1.1) := by
  induction n generalizing ret s with
  | zero =>
    obtain ⟨es, hl, ho, hr⟩ := serialReadParam_log param s
    refine ⟨es, ?_, ho, ?_⟩ <;> simp only [readTries, ite_self] <;> assumption
  | succ n ih =>
    obtain ⟨es, hl, ho, hr⟩ := serialReadParam_log param s
    rw [readTries]
    by_cases hd : (validateReadParamResponse (serialReadParam param s).1).2.2 = .NO_ERR ∨
        (validateReadParamResponse (serialReadParam param s).1).2.2 = .LCM_ERR
    · simp only [if_pos hd]
      exact ⟨es, hl, ho, hr⟩
    · simp only [if_neg hd]
      obtain ⟨fs, hl', ho', hr'⟩ := ih (validateReadParamResponse (serialReadParam param s).1)
        (serialReadParam param s).2
      refine ⟨es ++ fs, ?_, onlyReads_append ho ho', ?_⟩
      · rw [hl', hl, List.append_assoc]
      · intro h; exact readIn_append_right es (hr' h)

theorem readParameter_log (param : String) (s : Session) :
    ∃ es, (readParameter [param] s).2.log = s.log ++ es ∧ OnlyReads es ∧
      ((readParameter [param] s).1.2.2 = .NO_ERR →
        ReadIn es param (readParameter [param] s).1.1) := by
  unfold readParameter checkModbusConnection
  by_cases hu : s.up s.checks = true
  · simp only [if_pos hu]
    by_cases hv : (validateInputs [param] 1).1 ≠ 0
    · simp only [if_pos hv]
      refine ⟨[], by simp, onlyReads_nil, ?_⟩
      intro h
      simp only [validateInputs] at h hv
      split at h <;> simp_all [failed, accepted]
      split at h <;> simp_all
    · simp only [if_neg hv]
      exact readTries_log param 2 _ { s with checks := s.checks + 1 }
  · simp only [if_neg hu]
    exact ⟨[], by simp, onlyReads_nil, by simp [failed]⟩

/-! ### Writes -/

theorem packValue_eq {val : String} {values : List Int} (h : packValue val = some values) :
    ∃ v, parseIntValue val = some v ∧ -2 ^ 31 ≤ v ∧ v < 2 ^ 31 ∧ packed values = v % 2 ^ 32 := by
  obtain ⟨v, hv, hp⟩ := Option.bind_eq_some_iff.mp h
  split at hp
  · cases hp
  · cases hp
    refine ⟨v, hv, by omega, by omega, ?_⟩
    simp only [packed]
    omega

theorem packValue_some {val : String} {v : Int} (h : parseIntValue val = some v)
    (hl : -2 ^ 31 ≤ v) (hu : v < 2 ^ 31) : ∃ values, packValue val = some values := by
  refine ⟨[v / 2 ^ 16 % 2 ^ 16, v % 2 ^ 16], ?_⟩
  simp only [packValue, h, Option.bind_some]
  rw [if_neg (by omega)]

/-- A write of the call carries the converted address and the packed value. -/
def WriteOf (param val : String) (e : Event) : Prop :=
  ∃ addr values response, convertParamAddr param = some addr ∧ packValue val = some values ∧
    e = .exchange (.write addr values) response

theorem serialWriteParam_log (param val : String) (s : Session) :
    ∃ es, (serialWriteParam param val s).2.log = s.log ++ es ∧ ∀ e ∈ es, WriteOf param val e := by
  cases hc : convertParamAddr param with
  | none => exact ⟨[], by simp [serialWriteParam, hc], by simp⟩
  | some addr =>
    cases hp : packValue val with
    | none => exact ⟨[], by simp [serialWriteParam, hc, hp], by simp⟩
    | some values =>
      refine ⟨[.exchange (.write addr values) (s.replies s.sent)], by simp [serialWriteParam, hc,
        hp, Session.send], ?_⟩
      intro e he
      exact ⟨addr, values, _, hc, hp, List.mem_singleton.mp he⟩

theorem writeTries_log (param val : String) (n : Nat) (ret : Triple) (s : Session) :
    ∃ es, (writeTries param val n ret s).2.log = s.log ++ es ∧
      ∀ e ∈ es, WriteOf param val e := by
  induction n generalizing ret s with
  | zero => exact ⟨[], by simp [writeTries], by simp⟩
  | succ n ih =>
    obtain ⟨es, hl, hw⟩ := serialWriteParam_log param val s
    rw [writeTries]
    by_cases hd : (validateWriteParamResponse (serialWriteParam param val s).1 param).2.2 = .NO_ERR
    · simp only [if_pos hd]
      exact ⟨es, hl, hw⟩
    · simp only [if_neg hd]
      obtain ⟨fs, hl', hw'⟩ := ih (validateWriteParamResponse (serialWriteParam param val s).1
        param) (serialWriteParam param val s).2
      refine ⟨es ++ fs, by rw [hl', hl, List.append_assoc], ?_⟩
      intro e he
      rcases List.mem_append.mp he with he | he
      · exact hw e he
      · exact hw' e he

/-- With an address and a packable value the first thing a write call does is the write. -/
theorem writeTries_first (param val : String) (n : Nat) (ret : Triple) (s : Session)
    {addr : Nat} {values : List Int} (hc : convertParamAddr param = some addr)
    (hp : packValue val = some values) :
    ∃ es, (writeTries param val (n + 1) ret s).2.log =
      s.log ++ .exchange (.write addr values) (s.replies s.sent) :: es := by
  have hs : (serialWriteParam param val s).2.log =
      s.log ++ [.exchange (.write addr values) (s.replies s.sent)] := by
    simp [serialWriteParam, hc, hp, Session.send]
  rw [writeTries]
  by_cases hd : (validateWriteParamResponse (serialWriteParam param val s).1 param).2.2 = .NO_ERR
  · simp only [if_pos hd]
    exact ⟨[], hs⟩
  · simp only [if_neg hd]
    obtain ⟨es, hl, -⟩ := writeTries_log param val n
      (validateWriteParamResponse (serialWriteParam param val s).1 param)
      (serialWriteParam param val s).2
    exact ⟨es, by rw [hl, hs, List.append_assoc, List.singleton_append]⟩

/-! ### The two checks -/

theorem land_two_pow_pos (k : Nat) (v : Int) (h : ¬ Int.land (2 ^ k) v > 0) :
    v.testBit k = false := by
  have hn : 0 ≤ Int.land (2 ^ k) v := by
    have hp : (2 : Int) ^ k = ((2 ^ k : Nat) : Int) := by push_cast; rfl
    rw [hp]
    cases v <;> simp [Int.land]
  have hz : Int.land (2 ^ k) v = 0 := by omega
  have hb := Int.testBit_land (2 ^ k) v k
  rw [hz] at hb
  have hp : Int.testBit (2 ^ k) k = true := by
    have he : (2 : Int) ^ k = ((2 ^ k : Nat) : Int) := by push_cast; rfl
    rw [he]
    exact Nat.testBit_two_pow_self
  have h0 : Int.testBit 0 k = false := Nat.zero_testBit k
  rw [h0, hp, Bool.true_and] at hb
  exact hb.symm

/-- Cutting a number to 32 bits clears bits and sets none. -/
theorem testBit_emod (v : Int) (k : Nat) (h : v.testBit k = false) :
    (v % 2 ^ 32).testBit k = false := by
  cases v with
  | ofNat n =>
    have he : (Int.ofNat n : Int) % 2 ^ 32 = ((n % 2 ^ 32 : Nat) : Int) := by
      simp only [Int.ofNat_eq_natCast]; omega
    rw [he]
    change n.testBit k = false at h
    change (n % 2 ^ 32).testBit k = false
    rw [Nat.testBit_mod_two_pow, h, Bool.and_false]
  | negSucc n =>
    have hlt : n % 2 ^ 32 < 2 ^ 32 := Nat.mod_lt _ (by decide)
    have he : (Int.negSucc n : Int) % 2 ^ 32 = ((2 ^ 32 - (n % 2 ^ 32 + 1) : Nat) : Int) := by
      omega
    rw [he]
    change (!n.testBit k) = false at h
    change (2 ^ 32 - (n % 2 ^ 32 + 1)).testBit k = false
    rw [Nat.testBit_two_pow_sub_succ hlt, Nat.testBit_mod_two_pow]
    simp only [Bool.not_eq_false'] at h
    by_cases hk : k < 32 <;> simp [h, hk]

theorem handleFloorLock_log (value : String) (s : Session) :
    ∃ es, (handleFloorLock value s).2.log = s.log ++ es ∧ OnlyReads es ∧
      ((handleFloorLock value s).1 = .ok .NO_ERR →
        ∃ f v, ReadIn es fireFloorParameter f ∧ parseIntValue value = some v ∧
          v.testBit (f - 1).toNat = false) := by
  obtain ⟨es, hl, ho, hr⟩ := readParameter_log fireFloorParameter s
  unfold handleFloorLock
  by_cases hc : (readParameter [fireFloorParameter] s).1.2.2 ≠ .NO_ERR
  · simp only [if_pos hc]
    exact ⟨es, hl, ho, fun h => absurd (Except.ok.inj h) hc⟩
  · simp only [if_neg hc]
    by_cases hf : (readParameter [fireFloorParameter] s).1.1 - 1 < 0
    · simp only [if_pos hf]
      exact ⟨es, hl, ho, fun h => by cases h⟩
    · simp only [if_neg hf]
      cases hv : parseIntValue value with
      | none => exact ⟨es, hl, ho, fun h => by cases h⟩
      | some v =>
        by_cases hb : Int.land (2 ^ ((readParameter [fireFloorParameter] s).1.1 - 1).toNat) v > 0
        · simp only [if_pos hb]
          exact ⟨es, hl, ho, fun h => by cases h⟩
        · simp only [if_neg hb]
          exact ⟨es, hl, ho, fun _ => ⟨_, v, hr (not_not.mp hc), rfl, land_two_pow_pos _ v hb⟩⟩

theorem handleSpeedConfig_log (value : String) (s : Session) :
    ∃ es, (handleSpeedConfig value s).2.log = s.log ++ es ∧ OnlyReads es ∧
      ((handleSpeedConfig value s).1 = .ok .NO_ERR →
        ReadIn es osmSpeedParameter 300 ∧ ∃ v, PyNumber.int value = some v ∧
          150 ≤ v ∧ v ≤ 300) := by
  obtain ⟨es, hl, ho, hr⟩ := readParameter_log osmSpeedParameter s
  unfold handleSpeedConfig
  by_cases hc : (readParameter [osmSpeedParameter] s).1.2.2 ≠ .NO_ERR
  · simp only [if_pos hc]
    exact ⟨es, hl, ho, fun h => absurd (Except.ok.inj h) hc⟩
  · simp only [if_neg hc]
    by_cases hs : (readParameter [osmSpeedParameter] s).1.1 ≠ 300
    · simp only [if_pos hs]
      exact ⟨es, hl, ho, fun h => by cases h⟩
    · simp only [if_neg hs]
      have hread : ReadIn es osmSpeedParameter 300 := by
        have h := hr (not_not.mp hc)
        rwa [not_not.mp hs] at h
      cases hv : PyNumber.int value with
      | none => exact ⟨es, hl, ho, fun h => by cases h⟩
      | some v =>
        by_cases hb : 150 ≤ v ∧ v ≤ 300
        · simp only [if_pos hb]
          exact ⟨es, hl, ho, fun _ => ⟨hread, v, rfl, hb⟩⟩
        · simp only [if_neg hb]
          exact ⟨es, hl, ho, fun h => by cases h⟩

/-! ### The whole call -/

theorem parseIntValue_of_int {val : String} {v : Int} (h : PyNumber.int val = some v) :
    parseIntValue val = some v := by
  unfold parseIntValue
  by_cases hx : PyNumber.hexSpelled val = true
  · rw [PyNumber.int_hexSpelled val hx] at h; cases h
  · rw [if_neg hx]; exact h

/-- What the checks chosen by the parameter text have established when they pass. -/
def Checked (param value : String) (es : List Event) : Prop :=
  (param = floorLockParameter → ∃ f v, ReadIn es fireFloorParameter f ∧
    parseIntValue value = some v ∧ v.testBit (f - 1).toNat = false) ∧
  (param = liftSpeedParameter → ReadIn es osmSpeedParameter 300 ∧
    ∃ v, parseIntValue value = some v ∧ 150 ≤ v ∧ v ≤ 300)

theorem checked_append {param value : String} {es : List Event} (fs : List Event)
    (h : Checked param value es) : Checked param value (es ++ fs) := by
  refine ⟨fun hp => ?_, fun hp => ?_⟩
  · obtain ⟨f, v, hr, hv⟩ := h.1 hp
    exact ⟨f, v, readIn_append_left fs hr, hv⟩
  · exact ⟨readIn_append_left fs (h.2 hp).1, (h.2 hp).2⟩

theorem checked_append_right {param value : String} {fs : List Event} (es : List Event)
    (h : Checked param value fs) : Checked param value (es ++ fs) := by
  refine ⟨fun hp => ?_, fun hp => ?_⟩
  · obtain ⟨f, v, hr, hv⟩ := h.1 hp
    exact ⟨f, v, readIn_append_right es hr, hv⟩
  · exact ⟨readIn_append_right es (h.2 hp).1, (h.2 hp).2⟩

theorem customParameter_log (param value : String) (s : Session) :
    ∃ es, (customParameter param value s).2.log = s.log ++ es ∧ OnlyReads es ∧
      ((customParameter param value s).1 = .ok .NO_ERR → Checked param value es) := by
  unfold customParameter
  by_cases hs : param = liftSpeedParameter
  · rw [if_pos hs]
    obtain ⟨es, hl, ho, hr⟩ := handleSpeedConfig_log value s
    refine ⟨es, hl, ho, fun h => ⟨fun hp => ?_, fun _ => ?_⟩⟩
    · rw [hs] at hp; exact absurd hp (by decide)
    · obtain ⟨hread, v, hv, hb⟩ := hr h
      exact ⟨hread, v, parseIntValue_of_int hv, hb⟩
  · rw [if_neg hs]
    by_cases hf : param = floorLockParameter
    · rw [if_pos hf]
      obtain ⟨es, hl, ho, hr⟩ := handleFloorLock_log value s
      exact ⟨es, hl, ho, fun h => ⟨fun _ => hr h, fun hp => absurd hp hs⟩⟩
    · rw [if_neg hf]
      exact ⟨[], by simp, onlyReads_nil, fun _ => ⟨fun hp => absurd hp hf, fun hp => absurd hp hs⟩⟩

/-- Only the three reset parameters have their value rewritten before the write. -/
theorem handleResetAlarms_log (param value : String) (s : Session) :
    ∃ es, (handleResetAlarms param value s).2.log = s.log ++ es ∧ OnlyReads es ∧
      (param ∉ resetAlarmParams → (handleResetAlarms param value s).1.1 = value) := by
  unfold handleResetAlarms
  by_cases hm : param ∈ resetAlarmParams
  · rw [if_pos hm]
    obtain ⟨es, hl, ho, -⟩ := readParameter_log lcmSoftwareVersion s
    refine ⟨es, ?_, ho, fun hn => absurd hm hn⟩
    simp only
    split
    · exact hl
    · split
      · split <;> exact hl
      · exact hl
  · rw [if_neg hm]
    exact ⟨[], by simp, onlyReads_nil, fun _ => rfl⟩

/-- Reads and a disk sync at most, then writes of one address with one value that
the checks have passed. -/
structure Shape (param value val : String) (before writes : List Event) : Prop where
  noWrite : ∀ a vs r, Event.exchange (.write a vs) r ∉ before
  onlyWrites : ∀ e ∈ writes, WriteOf param val e
  checked : writes ≠ [] → Checked param value before
  kept : param ∉ resetAlarmParams → val = value

theorem noWrite_onlyReads {es : List Event} (h : OnlyReads es) (a : Nat) (vs : List Int)
    (r : Response) : Event.exchange (.write a vs) r ∉ es := by
  intro hm
  obtain ⟨a', c, r', he⟩ := h _ hm
  simp at he

theorem shape_noWrites {param value : String} {es : List Event}
    (h : ∀ a vs r, Event.exchange (.write a vs) r ∉ es) : Shape param value value es [] :=
  ⟨h, by simp, fun hn => absurd rfl hn, fun _ => rfl⟩

theorem handleRebootRequest_log (value : String) (s : Session) :
    ∃ es, (handleRebootRequest value s).log = s.log ++ es ∧ ∀ e ∈ es, e = .diskSync := by
  unfold handleRebootRequest
  split
  · exact ⟨[.diskSync], rfl, by simp⟩
  · exact ⟨[], by simp, by simp⟩

theorem writeValidated_shape (param value : String) (ret : Triple) (s : Session) :
    ∃ before writes val, (writeValidated param value ret s).2.log = s.log ++ (before ++ writes) ∧
      Shape param value val before writes := by
  obtain ⟨syncs, hsync, hsyncs⟩ : ∃ es, (if param = swInstallationCmd then
      handleRebootRequest value s else s).log = s.log ++ es ∧ ∀ e ∈ es, e = .diskSync := by
    split
    · exact handleRebootRequest_log value s
    · exact ⟨[], by simp, by simp⟩
  generalize hs₁ : (if param = swInstallationCmd then handleRebootRequest value s else s) = s₁
    at hsync
  have hnosync : ∀ a vs r, Event.exchange (.write a vs) r ∉ syncs := by
    intro a vs r hm
    cases hsyncs _ hm
  obtain ⟨es, hl, ho, hc⟩ := customParameter_log param value s₁
  have hno : ∀ a vs r, Event.exchange (.write a vs) r ∉ syncs ++ es := by
    intro a vs r hm
    rcases List.mem_append.mp hm with hm | hm
    · exact hnosync a vs r hm
    · exact noWrite_onlyReads ho a vs r hm
  unfold writeValidated
  simp only [hs₁]
  rcases hcp : customParameter param value s₁ with ⟨e | err, s₂⟩
  · rw [hcp] at hl
    simp only at hl
    exact ⟨syncs ++ es, [], value, by simp [hl, hsync], shape_noWrites hno⟩
  · rw [hcp] at hl hc
    simp only at hl hc ⊢
    by_cases herr : err ≠ .NO_ERR
    · rw [if_pos herr]
      exact ⟨syncs ++ es, [], value, by simp [hl, hsync], shape_noWrites hno⟩
    · rw [if_neg herr]
      have hchecked := hc (by rw [not_not.mp herr])
      obtain ⟨fs, hl', ho', hval⟩ := handleResetAlarms_log param value s₂
      rcases har : handleResetAlarms param value s₂ with ⟨⟨val, err'⟩, s₃⟩
      rw [har] at hl' hval
      simp only at hl' hval ⊢
      have hno' : ∀ a vs r, Event.exchange (.write a vs) r ∉ syncs ++ (es ++ fs) := by
        intro a vs r hm
        rcases List.mem_append.mp hm with hm | hm
        · exact hnosync a vs r hm
        · exact noWrite_onlyReads (onlyReads_append ho ho') a vs r hm
      by_cases herr' : err' ≠ .NO_ERR
      · rw [if_pos herr']
        exact ⟨syncs ++ (es ++ fs), [], value, by simp [hl', hl, hsync], shape_noWrites hno'⟩
      · rw [if_neg herr']
        obtain ⟨ws, hlw, hw⟩ := writeTries_log param val maxTries ret s₃
        refine ⟨syncs ++ (es ++ fs), ws, val, by simp [hlw, hl', hl, hsync], hno', hw, fun _ => ?_,
          hval⟩
        exact checked_append_right syncs (checked_append fs hchecked)

theorem writeParameter_shape (param value : String) (s : Session) :
    ∃ before writes val, (writeParameter [param, value] s).2.log = s.log ++ (before ++ writes) ∧
      Shape param value val before writes := by
  have hnone : ∃ before writes val, s.log = s.log ++ (before ++ writes) ∧
      Shape param value val before writes :=
    ⟨[], [], value, by simp, shape_noWrites (by simp)⟩
  unfold writeParameter checkModbusConnection
  by_cases hu : s.up s.checks = true
  · simp only [if_pos hu]
    by_cases hv : (validateInputs [param, value] 2).1 ≠ 0
    · simp only [if_pos hv]
      exact hnone
    · simp only [if_neg hv]
      exact writeValidated_shape param value _ { s with checks := s.checks + 1 }
  · simp only [if_neg hu]
    exact hnone

/-- In such a log everything before the writes precedes each of them. -/
theorem before_of_split {before writes front after : List Event} {e : Event}
    (hno : e ∉ before) (h : before ++ writes = front ++ e :: after) :
    e ∈ writes ∧ ∃ rest, front = before ++ rest := by
  have hm : e ∈ before ++ writes := by rw [h]; simp
  have hw : e ∈ writes := (List.mem_append.mp hm).resolve_left hno
  refine ⟨hw, ?_⟩
  rcases List.append_eq_append_iff.mp h with ⟨rest, hf, -⟩ | ⟨rest, hb, hr⟩
  · exact ⟨rest, hf⟩
  · cases rest with
    | nil => exact ⟨[], by simpa using hb.symm⟩
    | cons d rest =>
      have hd : d = e := by simpa using (List.cons.inj hr).1.symm
      exact absurd (by rw [hb, hd]; simp) hno

theorem convertParamAddr_eq {param : String} {n : Nat}
    (h : convertParamAddr param = some (2 * n)) :
    PyNumber.isDigit param = true ∧ PyNumber.int param = some (n : Int) := by
  unfold convertParamAddr at h
  split at h
  · rename_i hd
    obtain ⟨v, hv, hn⟩ := Option.bind_eq_some_iff.mp h
    split at hn
    · cases hn
    · have he := Option.some.inj hn
      refine ⟨hd, ?_⟩
      rw [hv, show v = (n : Int) by omega]
  · cases h

theorem convertParamAddr_of_int {param : String} {n : Nat} (hd : PyNumber.isDigit param = true)
    (hi : PyNumber.int param = some (n : Int)) : convertParamAddr param = some (2 * n) := by
  unfold convertParamAddr
  rw [if_pos hd, hi, Option.bind_some, if_neg (by omega)]
  congr 1

theorem not_readIn_nil (param : String) (value : Int) : ¬ ReadIn [] param value := by
  rintro ⟨addr, r, -, hm, -⟩
  cases hm

/-- No check is made for a number that is neither guarded nor special by its text. -/
theorem writeValidated_plain (param value : String) (ret : Triple) (s : Session)
    (h : param ∉ swInstallationCmd :: liftSpeedParameter :: floorLockParameter :: resetAlarmParams) :
    (writeValidated param value ret s).2 = (writeTries param value maxTries ret s).2 := by
  simp only [List.mem_cons, not_or] at h
  obtain ⟨h₁, h₂, h₃, h₄⟩ := h
  have hr : param ∉ resetAlarmParams := by simpa [resetAlarmParams] using h₄
  simp [writeValidated, customParameter, handleResetAlarms, h₁, h₂, h₃, hr]

/-- A respelled number passes validation and is written without any read. -/
theorem respelled_unguarded (replies : Nat → Response) (up : Nat → Bool) (param value : String)
    (hu : up 0 = true) (h : Respelled param value) :
    ¬ Guarded (writeParameter [param, value] (Session.start replies up)).2.log := by
  obtain ⟨hd, hi, hfloor, hspeed, v, hv, hl, hh⟩ := h
  have hplain : param ∉ swInstallationCmd :: liftSpeedParameter :: floorLockParameter ::
      resetAlarmParams := by
    have hne : ∀ text n, PyNumber.int text = some n → n ≠ 363 → n ≠ 30 → param ≠ text := by
      intro text n ht h₁ h₂ he
      rw [he, ht] at hi
      rcases hi with hi | hi <;> simp_all
    simp only [List.mem_cons, not_or, resetAlarmParams, List.not_mem_nil, not_false_eq_true,
      and_true]
    exact ⟨hne _ 108 (by decide) (by decide) (by decide), hspeed, hfloor,
      hne _ 102 (by decide) (by decide) (by decide), hne _ 103 (by decide) (by decide) (by decide),
      hne _ 104 (by decide) (by decide) (by decide)⟩
  obtain ⟨values, hp⟩ := packValue_some hv hl hh
  have hvalid : validateInputs [param, value] 2 = accepted := by
    have hparam : (parseIntValue param).isSome = true := by
      rcases hi with hi | hi <;> rw [parseIntValue_of_int hi] <;> rfl
    simp [validateInputs, hparam, hv]
  have hlog : (writeParameter [param, value] (Session.start replies up)).2.log =
      (writeTries param value maxTries accepted
        ⟨replies, up, 1, 0, []⟩).2.log := by
    unfold writeParameter checkModbusConnection
    rw [if_pos (by simpa [Session.start] using hu)]
    simp only [hvalid]
    rw [if_neg (by simp [accepted]), writeValidated_plain _ _ _ _ hplain]
    rfl
  intro hg
  rcases hi with hi | hi
  · obtain ⟨es, he⟩ := writeTries_first param value 2 accepted ⟨replies, up, 1, 0, []⟩
      (convertParamAddr_of_int (n := 363) hd hi) hp
    obtain ⟨f, hf, -⟩ := (hg [] es values _).1 (by rw [hlog]; exact he)
    exact not_readIn_nil _ _ hf
  · obtain ⟨es, he⟩ := writeTries_first param value 2 accepted ⟨replies, up, 1, 0, []⟩
      (convertParamAddr_of_int (n := 30) hd hi) hp
    obtain ⟨hr, -⟩ := (hg [] es values _).2 (by rw [hlog]; exact he)
    exact not_readIn_nil _ _ hr

theorem writeParameter_down (replies : Nat → Response) (up : Nat → Bool) (param value : String)
    (h : up 0 = false) : (writeParameter [param, value] (Session.start replies up)).2.log = [] := by
  simp [writeParameter, checkModbusConnection, Session.start, h]

/-- Where a write of 363 or 30 is issued without being respelled, its text is the literal one. -/
theorem literal_of_write {param value val : String} {n : Nat} {e : Event} {before writes : List Event}
    (hs : Shape param value val before writes) (hn : n = 363 ∨ n = 30)
    (hr : ¬ Respelled param value) (he : e ∈ writes) {values : List Int} {response : Response}
    (hev : e = .exchange (.write (2 * n) values) response) :
    PyNumber.int param = some (n : Int) ∧ val = value ∧ packValue value = some values ∧
      (param = floorLockParameter ∨ param = liftSpeedParameter) := by
  obtain ⟨addr, vs, r, hc, hp, hw⟩ := hs.onlyWrites e he
  rw [hev] at hw
  obtain ⟨⟨rfl, rfl⟩, -⟩ : (2 * n = addr ∧ values = vs) ∧ response = r := by simpa using hw
  obtain ⟨hd, hi⟩ := convertParamAddr_eq hc
  have hval : val = value := by
    apply hs.kept
    intro hm
    have hm' : param = "102" ∨ param = "103" ∨ param = "104" := by simpa [resetAlarmParams] using hm
    have hi' : PyNumber.int param = some 102 ∨ PyNumber.int param = some 103 ∨
        PyNumber.int param = some 104 := by
      rcases hm' with h | h | h <;> rw [h] <;> decide
    rw [hi] at hi'
    rcases hn with hn | hn <;> subst hn <;> simp at hi'
  subst hval
  refine ⟨hi, rfl, hp, ?_⟩
  by_contra hne
  obtain ⟨hf, hl⟩ := not_or.mp hne
  obtain ⟨v, hv, hlo, hhi, -⟩ := packValue_eq hp
  apply hr
  refine ⟨hd, ?_, hf, hl, v, hv, hlo, hhi⟩
  rcases hn with hn | hn <;> subst hn <;> simp [hi]

/-- The guards hold for exactly the calls that do not respell a guarded number. -/
theorem writeParameter_guarded_iff (replies : Nat → Response) (up : Nat → Bool)
    (param value : String) :
    Guarded (writeParameter [param, value] (Session.start replies up)).2.log ↔
      ¬ (up 0 = true ∧ Respelled param value) := by
  constructor
  · rintro hg ⟨hu, hr⟩
    exact respelled_unguarded replies up param value hu hr hg
  · intro h before after values response
    obtain ⟨reads, writes, val, hlog, hs⟩ :=
      writeParameter_shape param value (Session.start replies up)
    have hlog' : (writeParameter [param, value] (Session.start replies up)).2.log =
        reads ++ writes := by simpa [Session.start] using hlog
    have hup : ∀ e, e ∈ (writeParameter [param, value] (Session.start replies up)).2.log →
        ¬ Respelled param value := by
      intro e he hr
      cases hu : up 0 with
      | true => exact h ⟨hu, hr⟩
      | false =>
        rw [writeParameter_down replies up param value hu] at he
        cases he
    constructor
    · intro he
      have hr := hup (.exchange (.write 726 values) response) (by rw [he]; simp)
      rw [hlog'] at he
      obtain ⟨hw, rest, rfl⟩ := before_of_split (hs.noWrite _ _ _) he
      obtain ⟨hi, rfl, hp, hlit⟩ := literal_of_write hs (n := 363) (Or.inl rfl) hr hw rfl
      have hfloor : param = floorLockParameter := by
        refine hlit.resolve_right fun hl => ?_
        rw [hl] at hi
        exact absurd hi (by decide)
      obtain ⟨f, v, hread, hv, hbit⟩ := (hs.checked (List.ne_nil_of_mem hw)).1 hfloor
      obtain ⟨v', hv', -, -, hpack⟩ := packValue_eq hp
      obtain rfl : v = v' := Option.some.inj (hv.symm.trans hv')
      exact ⟨f, readIn_append_left rest hread, by rw [hpack]; exact testBit_emod v _ hbit⟩
    · intro he
      have hr := hup (.exchange (.write 60 values) response) (by rw [he]; simp)
      rw [hlog'] at he
      obtain ⟨hw, rest, rfl⟩ := before_of_split (hs.noWrite _ _ _) he
      obtain ⟨hi, rfl, hp, hlit⟩ := literal_of_write hs (n := 30) (Or.inr rfl) hr hw rfl
      have hspeed : param = liftSpeedParameter := by
        refine hlit.resolve_left fun hl => ?_
        rw [hl] at hi
        exact absurd hi (by decide)
      obtain ⟨hread, v, hv, hlo, hhi⟩ := (hs.checked (List.ne_nil_of_mem hw)).2 hspeed
      obtain ⟨v', hv', -, -, hpack⟩ := packValue_eq hp
      obtain rfl : v = v' := Option.some.inj (hv.symm.trans hv')
      exact ⟨readIn_append_left rest hread, by omega, by omega⟩

/-- Acknowledges every write of the floor lock register pair. -/
def floorLockAck : Response := .pdu false 16 none (some 726) (some 2)

/-- A leading zero locks floor one without the fire floor being read. -/
theorem writeParameter_not_guarded :
    ¬ Guarded (writeParameter ["0363", "1"]
      (Session.start (fun _ => floorLockAck) (fun _ => true))).2.log :=
  respelled_unguarded _ _ "0363" "1" rfl
    ⟨by decide, Or.inl (by decide), by decide, by decide, 1, by decide, by decide, by decide⟩

end NexyGateway.ModbusHandler
