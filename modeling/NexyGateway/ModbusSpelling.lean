import NexyGateway.AhlLib
import NexyGateway.ModbusOutcomes

/-!
# Spellings of an AHL value

`write_param` of the proxy on an AHL lift, with the mirror of a successful write in
the library's cache. Two spellings of one value have the same effect unless one of
the special cases reads the text by itself.
-/
namespace NexyGateway.ModbusHandler

open PyNumber (PyError)
open AhlLib (Cache)

/-- `_mirror_ahl_write_to_cache` on an AHL lift; the database has no negative numbers. -/
def mirrorAhlWriteToCache (param value : String) (cache : Cache) : Except PyError Cache :=
  match PyNumber.int param, parseIntValue value with
  | some p, some v => .ok (if p < 0 then cache else (AhlLib.setParam p.toNat v cache).1)
  | _, _ => .error .valueError

/-- `LiftProxy.write_param` with an AHL handler. -/
def writeParam (param value : String) (s : Session) (cache : Cache) :
    Except PyError (Triple × Cache) × Session :=
  match writeParameter [param, value] s with
  | (.error e, s) => (.error e, s)
  | (.ok ret, s) =>
    if ret.1 = 0 then
      match mirrorAhlWriteToCache param value cache with
      | .error e => (.error e, s)
      | .ok cache => (.ok (ret, cache), s)
    else (.ok (ret, cache), s)

/-- Both texts are answered, in the same way, after the same exchanges and disk syncs, and with
the same cache. -/
def SameEffect (param value₁ value₂ : String) (s : Session) (cache : Cache) : Prop :=
  (∃ ret, (writeParam param value₁ s cache).1 = .ok ret) ∧
    writeParam param value₁ s cache = writeParam param value₂ s cache

/-! ### What depends on the value alone -/

theorem packValue_congr {value₁ value₂ : String} (h : parseIntValue value₁ = parseIntValue value₂) :
    packValue value₁ = packValue value₂ := by
  unfold packValue
  rw [h]

theorem writeTries_congr {value₁ value₂ : String}
    (h : parseIntValue value₁ = parseIntValue value₂) (param : String) (n : Nat) (ret : Triple)
    (s : Session) : writeTries param value₁ n ret s = writeTries param value₂ n ret s := by
  have hserial : ∀ s, serialWriteParam param value₁ s = serialWriteParam param value₂ s := by
    intro s
    unfold serialWriteParam
    rw [packValue_congr h]
  induction n generalizing ret s with
  | zero => rfl
  | succ n ih =>
    simp only [writeTries, hserial]
    split
    · rfl
    · exact ih _ _

theorem handleFloorLock_congr {value₁ value₂ : String}
    (h : parseIntValue value₁ = parseIntValue value₂) (s : Session) :
    handleFloorLock value₁ s = handleFloorLock value₂ s := by
  unfold handleFloorLock
  rw [h]

/-- `int` reads a text as the common grammar does, unless it is spelled in hexadecimal. -/
theorem int_eq_parseIntValue (value : String) :
    PyNumber.int value = if PyNumber.hexSpelled value then none else parseIntValue value := by
  unfold parseIntValue
  split
  · rename_i h
    exact PyNumber.int_hexSpelled value h
  · rfl

/-! ### What depends on the text -/

theorem handleRebootRequest_congr {value₁ value₂ : String}
    (h : value₁ ∈ restartValues ↔ value₂ ∈ restartValues) (s : Session) :
    handleRebootRequest value₁ s = handleRebootRequest value₂ s := by
  unfold handleRebootRequest
  simp only [h]

/-- The special case of the parameter number tells two spellings of a value apart, given the
replies to its read: one text asks for the disk sync; a rated speed or a reset value is
spelled in hexadecimal; or the fire floor raises for every value. -/
def ToldApart (param value₁ value₂ : String) (v : Int) (up : Bool) (coming : Nat → Response) :
    Prop :=
  param = swInstallationCmd ∧ ¬ (value₁ ∈ restartValues ↔ value₂ ∈ restartValues) ∨
  up = true ∧ param = liftSpeedParameter ∧ ReadsAs coming 300 maxTries ∧
    (PyNumber.hexSpelled value₁ = true ∨ PyNumber.hexSpelled value₂ = true) ∨
  up = true ∧ param = floorLockParameter ∧ (∃ f < 1, ReadsAs coming f maxTries) ∨
  up = true ∧ param ∈ resetAlarmParams ∧ (∃ version ≤ 349, ReadsAs coming version maxTries) ∧
    PyNumber.hexSpelled value₁ ≠ PyNumber.hexSpelled value₂ ∧ (PyNumber.str (v * 2)).isSome

theorem handleSpeedConfig_congr {value₁ value₂ : String}
    (h : PyNumber.int value₁ = PyNumber.int value₂) (s : Session) :
    handleSpeedConfig value₁ s = handleSpeedConfig value₂ s := by
  unfold handleSpeedConfig
  rw [h]

/-- The rated speed only matters once the lift has told that it supports a custom one. -/
theorem handleSpeedConfig_unread {value₁ value₂ : String} {s : Session}
    (h : ¬ (s.up s.checks = true ∧ ReadsAs s.coming 300 maxTries)) :
    handleSpeedConfig value₁ s = handleSpeedConfig value₂ s := by
  have hread := readParameter_noErr_iff osm_valid osm_addr (s := s)
  unfold handleSpeedConfig
  dsimp only
  by_cases hc : (readParameter [osmSpeedParameter] s).1.2.2 = .NO_ERR
  · obtain ⟨hup, hvalue⟩ := hread.mp hc
    have hosm : (readParameter [osmSpeedParameter] s).1.1 ≠ 300 := by
      intro h300
      rw [h300] at hvalue
      exact h ⟨hup, hvalue⟩
    simp only [hc, ne_eq, not_true_eq_false, if_false, if_pos hosm]
  · simp only [ne_eq, hc, not_false_eq_true, if_true]

/-- The special case of the number treats both texts alike. -/
theorem customParameter_congr {param value₁ value₂ : String}
    (h : parseIntValue value₁ = parseIntValue value₂) {s : Session}
    (hspeed : param = liftSpeedParameter → s.up s.checks = true → ReadsAs s.coming 300 maxTries →
      PyNumber.int value₁ = PyNumber.int value₂) :
    customParameter param value₁ s = customParameter param value₂ s := by
  unfold customParameter
  split
  · rename_i hparam
    by_cases hread : s.up s.checks = true ∧ ReadsAs s.coming 300 maxTries
    · exact handleSpeedConfig_congr (hspeed hparam hread.1 hread.2) s
    · exact handleSpeedConfig_unread hread
  · split
    · exact handleFloorLock_congr h s
    · rfl

/-- What is written after the reset of alarms, up to the spelling of the value. -/
def SameReset (r₁ r₂ : (String × MbCode) × Session) : Prop :=
  r₁.1.2 = r₂.1.2 ∧ r₁.2 = r₂.2 ∧ parseIntValue r₁.1.1 = parseIntValue r₂.1.1

theorem afterReset_congr {r₁ r₂ : (String × MbCode) × Session} (h : SameReset r₁ r₂)
    (param : String) (ret : Triple) : afterReset param ret r₁ = afterReset param ret r₂ := by
  obtain ⟨⟨value₁, err⟩, s⟩ := r₁
  obtain ⟨⟨value₂, err₂⟩, s₂⟩ := r₂
  obtain ⟨herr, hs, hparse⟩ := h
  simp only at herr hs hparse
  subst herr hs
  simp only [afterReset, writeTries_congr hparse]

theorem version_valid : (parseIntValue lcmSoftwareVersion).isSome := by decide
theorem version_addr : convertParamAddr lcmSoftwareVersion = some 154 := by decide

/-- The replies make the gateway shift the value of a reset parameter. -/
def Shifts (param : String) (s : Session) : Prop :=
  param ∈ resetAlarmParams ∧ s.up s.checks = true ∧
    ∃ version ≤ 349, ReadsAs s.coming version maxTries

/-- An old controller gets the decimal text of twice the value, where there is one. -/
theorem handleResetAlarms_shifts {param : String} {s : Session} (h : Shifts param s)
    (value : String) :
    handleResetAlarms param value s =
      (((PyNumber.int value).bind (fun v => PyNumber.str (v * 2))).elim (value, .ARG_INT_ERR)
        (fun shifted => (shifted, .NO_ERR)), (readParameter [lcmSoftwareVersion] s).2) := by
  obtain ⟨hparam, hup, version, hversion, hreads⟩ := h
  have hread := (readParameter_eq_iff version version_valid version_addr).mpr ⟨hup, hreads⟩
  unfold handleResetAlarms
  rw [if_pos hparam]
  simp only [hread, ne_eq, not_true_eq_false, if_false, if_pos hversion]
  cases (PyNumber.int value).bind (fun v => PyNumber.str (v * 2)) <;> rfl

/-- Otherwise the text goes on as it came. -/
theorem handleResetAlarms_kept {param : String} {s : Session} (h : ¬ Shifts param s) :
    ∃ code s', ∀ value, handleResetAlarms param value s = ((value, code), s') := by
  have hread := readParameter_noErr_iff version_valid version_addr (s := s)
  by_cases hparam : param ∈ resetAlarmParams
  · by_cases hc : (readParameter [lcmSoftwareVersion] s).1.2.2 = .NO_ERR
    · obtain ⟨hup, hvalue⟩ := hread.mp hc
      have hnew : ¬ (readParameter [lcmSoftwareVersion] s).1.1 ≤ 349 :=
        fun hold => h ⟨hparam, hup, _, hold, hvalue⟩
      refine ⟨.NO_ERR, (readParameter [lcmSoftwareVersion] s).2, fun value => ?_⟩
      simp only [handleResetAlarms, if_pos hparam, hc, ne_eq, not_true_eq_false, if_false,
        if_neg hnew]
    · refine ⟨(readParameter [lcmSoftwareVersion] s).1.2.2,
        (readParameter [lcmSoftwareVersion] s).2, fun value => ?_⟩
      simp only [handleResetAlarms, if_pos hparam, ne_eq, hc, not_false_eq_true, if_true]
  · exact ⟨.NO_ERR, s, fun value => by simp [handleResetAlarms, hparam]⟩

theorem handleResetAlarms_congr {param value₁ value₂ : String}
    (h : parseIntValue value₁ = parseIntValue value₂) {s : Session}
    (hshift : Shifts param s → (PyNumber.int value₁).bind (fun v => PyNumber.str (v * 2)) =
      (PyNumber.int value₂).bind (fun v => PyNumber.str (v * 2))) :
    SameReset (handleResetAlarms param value₁ s) (handleResetAlarms param value₂ s) := by
  by_cases hs : Shifts param s
  · rw [handleResetAlarms_shifts hs value₁, handleResetAlarms_shifts hs value₂, hshift hs]
    cases (PyNumber.int value₂).bind (fun v => PyNumber.str (v * 2)) with
    | none => exact ⟨rfl, rfl, h⟩
    | some shifted => exact ⟨rfl, rfl, rfl⟩
  · obtain ⟨code, s', hkept⟩ := handleResetAlarms_kept hs
    rw [hkept value₁, hkept value₂]
    exact ⟨rfl, rfl, h⟩

/-- No special case but that of its own number touches a parameter. -/
theorem customParameter_other {param : String} (h₁ : param ≠ liftSpeedParameter)
    (h₂ : param ≠ floorLockParameter) (value : String) (s : Session) :
    customParameter param value s = (.ok .NO_ERR, s) := by
  simp [customParameter, h₁, h₂]

theorem afterReboot_other {param : String} (h : param ≠ swInstallationCmd) (value : String)
    (s : Session) : afterReboot param value s = s := by
  simp [afterReboot, h]

theorem reset_other {param : String} (h : param ∈ resetAlarmParams) :
    param ≠ swInstallationCmd ∧ param ≠ liftSpeedParameter ∧ param ≠ floorLockParameter := by
  refine ⟨?_, ?_, ?_⟩ <;> rintro rfl <;> revert h <;> decide

/-- Texts that nothing tells apart are written in the same way. -/
theorem writeValidated_congr {param value₁ value₂ : String} {v : Int}
    (h₁ : parseIntValue value₁ = some v) (h₂ : parseIntValue value₂ = some v) (ret : Triple)
    {s : Session} (hsame : ¬ ToldApart param value₁ value₂ v (s.up s.checks) s.coming) :
    writeValidated param value₁ ret s = writeValidated param value₂ ret s := by
  have hparse : parseIntValue value₁ = parseIntValue value₂ := by rw [h₁, h₂]
  obtain ⟨hsync, hspeed, -, hreset⟩ : _ ∧ _ ∧ _ ∧ _ := by simpa only [ToldApart, not_or] using hsame
  have hreboot : afterReboot param value₁ s = afterReboot param value₂ s := by
    unfold afterReboot
    split
    · rename_i hparam
      exact handleRebootRequest_congr (by_contra fun hne => hsync ⟨hparam, hne⟩) s
    · rfl
  obtain ⟨hup, hchecks, hcoming⟩ := afterReboot_bus param value₂ s
  have hcustom : customParameter param value₁ (afterReboot param value₂ s) =
      customParameter param value₂ (afterReboot param value₂ s) := by
    refine customParameter_congr hparse fun hparam hlink hread => ?_
    rw [hup, hchecks] at hlink
    rw [hcoming] at hread
    have hdecimal : ¬ (PyNumber.hexSpelled value₁ = true ∨ PyNumber.hexSpelled value₂ = true) :=
      fun hhex => hspeed ⟨hlink, hparam, hread, hhex⟩
    obtain ⟨hdec₁, hdec₂⟩ := not_or.mp hdecimal
    rw [int_eq_parseIntValue, int_eq_parseIntValue, if_neg hdec₁, if_neg hdec₂, hparse]
  rw [writeValidated_eq, writeValidated_eq, hreboot, hcustom]
  cases hresult : customParameter param value₂ (afterReboot param value₂ s) with
  | mk outcome s₂ =>
    cases outcome with
    | error e => rfl
    | ok err =>
      simp only [afterCustom]
      split
      · rfl
      · refine afterReset_congr (handleResetAlarms_congr hparse fun hshift => ?_) param ret
        obtain ⟨hne, hne₁, hne₂⟩ := reset_other hshift.1
        rw [afterReboot_other hne, customParameter_other hne₁ hne₂] at hresult
        obtain rfl : s = s₂ := (Prod.mk.inj hresult).2
        obtain ⟨hparam, hlink, hversion⟩ := hshift
        rw [int_eq_parseIntValue, int_eq_parseIntValue, h₁, h₂]
        by_cases hstr : (PyNumber.str (v * 2)).isSome = true
        · have hspelled : PyNumber.hexSpelled value₁ = PyNumber.hexSpelled value₂ :=
            by_contra fun hne => hreset ⟨hlink, hparam, hversion, hne, hstr⟩
          rw [hspelled]
        · have hnone : PyNumber.str (v * 2) = none := Option.not_isSome_iff_eq_none.mp hstr
          split <;> split <;> simp [hnone]

/-! ### What tells two spellings apart -/

/-- The call syncs the disk once for the two texts and never otherwise. -/
theorem writeValidated_syncs (value : String) (ret : Triple) {s : Session} (hlog : s.log = []) :
    (writeValidated swInstallationCmd value ret s).2.log.count .diskSync =
      if value ∈ restartValues then 1 else 0 := by
  have hkept : handleResetAlarms swInstallationCmd value (afterReboot swInstallationCmd value s) =
      ((value, .NO_ERR), afterReboot swInstallationCmd value s) := by
    simp [handleResetAlarms, show swInstallationCmd ∉ resetAlarmParams by decide]
  obtain ⟨ws, hwrites, hws⟩ := writeTries_log swInstallationCmd value maxTries ret
    (afterReboot swInstallationCmd value s)
  have hnone : ws.count .diskSync = 0 := by
    refine List.count_eq_zero.mpr fun hmem => ?_
    obtain ⟨addr, values, response, -, -, he⟩ := hws _ hmem
    cases he
  have hsync : (afterReboot swInstallationCmd value s).log.count .diskSync =
      if value ∈ restartValues then 1 else 0 := by
    unfold afterReboot handleRebootRequest
    rw [if_pos rfl]
    split <;> simp [hlog]
  rw [writeValidated_eq, customParameter_other (by decide) (by decide)]
  simp only [afterCustom, ne_eq, not_true_eq_false, if_false, hkept, afterReset]
  rw [hwrites, List.count_append, hsync, hnone, Nat.add_zero]

theorem writeTries_code (param val : String) (n : Nat) (ret : Triple) (s : Session) :
    (writeTries param val (n + 1) ret s).1.2.2 ≠ .ARG_INT_ERR := by
  have hcode : ∀ response, (validateWriteParamResponse response param).2.2 ≠ .ARG_INT_ERR := by
    intro response
    unfold validateWriteParamResponse
    split <;> try simp [failed]
    split <;> simp [accepted]
  induction n generalizing ret s with
  | zero =>
    simp only [writeTries, ite_self]
    exact hcode _
  | succ n ih =>
    rw [writeTries]
    dsimp only
    split
    · exact hcode _
    · exact ih _ _

/-- A reset value spelled in hexadecimal is refused by an old controller's special case, and only
such a value is refused with that code. -/
theorem writeValidated_reset {param value : String} {v : Int} (hv : parseIntValue value = some v)
    (ret : Triple) {s : Session} (hshift : Shifts param s) (hstr : (PyNumber.str (v * 2)).isSome) :
    (∃ t, (writeValidated param value ret s).1 = .ok t ∧ t.2.2 = .ARG_INT_ERR) ↔
      PyNumber.hexSpelled value = true := by
  obtain ⟨hne, hne₁, hne₂⟩ := reset_other hshift.1
  obtain ⟨shifted, hshifted⟩ := Option.isSome_iff_exists.mp hstr
  rw [writeValidated_eq, afterReboot_other hne, customParameter_other hne₁ hne₂]
  simp only [afterCustom, ne_eq, not_true_eq_false, if_false]
  rw [handleResetAlarms_shifts hshift, int_eq_parseIntValue, hv]
  by_cases hhex : PyNumber.hexSpelled value = true
  · rw [if_pos hhex]
    refine iff_of_true ⟨failed .ARG_INT_ERR, ?_, rfl⟩ hhex
    simp [afterReset]
  · rw [if_neg hhex, Option.bind_some, hshifted]
    refine iff_of_false ?_ hhex
    rintro ⟨t, ht, hcode⟩
    simp only [Option.elim_some, afterReset, ne_eq, not_true_eq_false, if_false] at ht
    rw [← Except.ok.inj ht] at hcode
    exact writeTries_code param shifted 2 ret _ hcode

/-- What is told apart is not written in the same way, or it raises. -/
theorem not_same_of_toldApart {param value₁ value₂ : String} {v : Int}
    (h₁ : parseIntValue value₁ = some v) (h₂ : parseIntValue value₂ = some v) (ret : Triple)
    {s : Session} (hlog : s.log = [])
    (hapart : ToldApart param value₁ value₂ v (s.up s.checks) s.coming) :
    ¬ ((∃ t, (writeValidated param value₁ ret s).1 = .ok t) ∧
      writeValidated param value₁ ret s = writeValidated param value₂ ret s) := by
  rintro ⟨⟨t, ht⟩, hsame⟩
  have hraise₁ : ¬ Astray param value₁ (s.up s.checks) s.coming := by
    intro hastray
    obtain ⟨e, he⟩ := (writeValidated_raises_iff (by rw [h₁]; rfl) ret s).mpr hastray
    rw [ht] at he
    cases he
  have hraise₂ : ¬ Astray param value₂ (s.up s.checks) s.coming := by
    intro hastray
    obtain ⟨e, he⟩ := (writeValidated_raises_iff (by rw [h₂]; rfl) ret s).mpr hastray
    rw [← hsame, ht] at he
    cases he
  rcases hapart with ⟨rfl, hsync⟩ | ⟨hlink, hparam, hread, hhex⟩ | ⟨hlink, hparam, hfloor⟩ |
    ⟨hlink, hparam, hversion, hspelled, hstr⟩
  · have hcount := congrArg (fun r => r.2.log.count .diskSync) hsame
    simp only [writeValidated_syncs _ ret hlog] at hcount
    apply hsync
    by_cases hmem₁ : value₁ ∈ restartValues <;> by_cases hmem₂ : value₂ ∈ restartValues <;>
      simp_all
  · rcases hhex with hhex | hhex
    · exact hraise₁ ⟨hlink, Or.inl ⟨hparam, PyNumber.int_hexSpelled _ hhex, hread⟩⟩
    · exact hraise₂ ⟨hlink, Or.inl ⟨hparam, PyNumber.int_hexSpelled _ hhex, hread⟩⟩
  · exact hraise₁ ⟨hlink, Or.inr ⟨hparam, hfloor⟩⟩
  · have hshift : Shifts param s := ⟨hparam, hlink, hversion⟩
    have hiff₁ := writeValidated_reset h₁ ret hshift hstr
    have hiff₂ := writeValidated_reset h₂ ret hshift hstr
    rw [← hsame] at hiff₂
    exact hspelled (Bool.eq_iff_iff.mpr (hiff₁.symm.trans hiff₂))

/-! ### The mirror in the cache -/

/-- The mirror sees the value only. -/
theorem writeParam_congr {param value₁ value₂ : String}
    (h : parseIntValue value₁ = parseIntValue value₂) {s : Session} (cache : Cache)
    (hsame : writeParameter [param, value₁] s = writeParameter [param, value₂] s) :
    writeParam param value₁ s cache = writeParam param value₂ s cache := by
  unfold writeParam mirrorAhlWriteToCache
  rw [hsame, h]

/-- The result of the proxy's call holds that of the handler. -/
theorem writeParameter_of_writeParam {param value₁ value₂ : String} {s : Session} {cache : Cache}
    {ret : Triple × Cache} (hok : (writeParam param value₁ s cache).1 = .ok ret)
    (hsame : writeParam param value₁ s cache = writeParam param value₂ s cache) :
    (writeParameter [param, value₁] s).1 = .ok ret.1 ∧
      writeParameter [param, value₁] s = writeParameter [param, value₂] s := by
  have hinner : ∀ value, (writeParam param value s cache).1 = .ok ret →
      (writeParameter [param, value] s).1 = .ok ret.1 ∧
        (writeParam param value s cache).2 = (writeParameter [param, value] s).2 := by
    intro value h
    unfold writeParam at h ⊢
    cases hwrite : writeParameter [param, value] s with
    | mk outcome s' =>
      rw [hwrite] at h
      cases outcome with
      | error e => cases h
      | ok t =>
        simp only at h ⊢
        by_cases hzero : t.1 = 0
        · simp only [if_pos hzero] at h ⊢
          cases hmirror : mirrorAhlWriteToCache param value cache with
          | error e =>
            rw [hmirror] at h
            cases h
          | ok cache' =>
            rw [hmirror] at h
            cases h
            exact ⟨rfl, rfl⟩
        · simp only [if_neg hzero] at h ⊢
          cases h
          exact ⟨rfl, trivial⟩
  obtain ⟨hret₁, hs₁⟩ := hinner value₁ hok
  obtain ⟨hret₂, hs₂⟩ := hinner value₂ (by rw [← hsame]; exact hok)
  refine ⟨hret₁, Prod.ext (hret₁.trans hret₂.symm) ?_⟩
  rw [← hs₁, ← hs₂, hsame]

/-- An acknowledged write can be mirrored: its number is one that the database could hold. -/
theorem writeParam_ok {param value : String} {v : Int} (hv : parseIntValue value = some v)
    {s : Session} (htrue : Truthful param (writeParameter [param, value] s)) (cache : Cache) :
    ∃ ret, (writeParam param value s cache).1 = .ok ret := by
  obtain ⟨t, ht, hack, -⟩ := htrue
  cases hwrite : writeParameter [param, value] s with
  | mk outcome s' =>
    rw [hwrite] at ht hack
    simp only at ht hack
    subst ht
    unfold writeParam
    rw [hwrite]
    by_cases hzero : t.1 = 0
    · obtain ⟨-, -, -, -, -, n, -, hn, -⟩ := hack hzero
      simp only [if_pos hzero, mirrorAhlWriteToCache, hn, hv]
      exact ⟨_, rfl⟩
    · simp only [if_neg hzero]
      exact ⟨_, rfl⟩

theorem not_toldApart_of_invalid {param value₁ value₂ : String} {v : Int} {up : Bool}
    {coming : Nat → Response} (h : ¬ (parseIntValue param).isSome) :
    ¬ ToldApart param value₁ value₂ v up coming := by
  rintro (⟨rfl, -⟩ | ⟨-, rfl, -⟩ | ⟨-, rfl, -⟩ | ⟨-, hmem, -⟩)
  · exact h (by decide)
  · exact h (by decide)
  · exact h (by decide)
  · rcases List.mem_cons.mp hmem with rfl | hmem
    · exact h (by decide)
    · rcases List.mem_cons.mp hmem with rfl | hmem
      · exact h (by decide)
      · obtain rfl := List.mem_singleton.mp hmem
        exact h (by decide)

/-- What is refused is refused for both texts. -/
theorem writeParameter_congr {replies : Nat → Response} {up : Nat → Bool}
    {param value₁ value₂ : String} {v : Int} (h₁ : parseIntValue value₁ = some v)
    (h₂ : parseIntValue value₂ = some v)
    (hsame : ¬ (up 0 = true ∧ ToldApart param value₁ value₂ v (up 1) replies)) :
    writeParameter [param, value₁] (Session.start replies up) =
      writeParameter [param, value₂] (Session.start replies up) := by
  by_cases hvalid : up 0 = true ∧ (parseIntValue param).isSome
  · obtain ⟨hup, hparam⟩ := hvalid
    rw [writeParameter_started hup hparam (by rw [h₁]; rfl),
      writeParameter_started hup hparam (by rw [h₂]; rfl)]
    refine writeValidated_congr h₁ h₂ accepted fun hapart => hsame ⟨hup, ?_⟩
    rwa [coming_started] at hapart
  · rw [writeParameter_refused (fun h => hvalid ⟨h.1, h.2.1⟩),
      writeParameter_refused (fun h => hvalid ⟨h.1, h.2.1⟩)]

/-- A call that goes astray is told apart, whatever the other text is. -/
theorem ToldApart.of_astray {param value₁ value₂ : String} {v : Int}
    (h₁ : parseIntValue value₁ = some v) {up : Bool} {coming : Nat → Response}
    (h : Astray param value₁ up coming) : ToldApart param value₁ value₂ v up coming := by
  obtain ⟨hup, ⟨hparam, hint, hread⟩ | ⟨hparam, hfloor⟩⟩ := h
  · refine Or.inr (Or.inl ⟨hup, hparam, hread, Or.inl ?_⟩)
    by_contra hhex
    rw [int_eq_parseIntValue, if_neg hhex, h₁] at hint
    cases hint
  · exact Or.inr (Or.inr (Or.inl ⟨hup, hparam, hfloor⟩))

/-- Two spellings of a value have the same effect exactly when the link is down or no special
case tells them apart. -/
theorem writeParam_sameEffect_iff (replies : Nat → Response) (up : Nat → Bool)
    (param value₁ value₂ : String) (v : Int) (cache : Cache) (h₁ : parseIntValue value₁ = some v)
    (h₂ : parseIntValue value₂ = some v) :
    SameEffect param value₁ value₂ (Session.start replies up) cache ↔
      ¬ (up 0 = true ∧ ToldApart param value₁ value₂ v (up 1) replies) := by
  constructor
  · rintro ⟨⟨ret, hok⟩, hsame⟩ ⟨hup, hapart⟩
    have hparam : (parseIntValue param).isSome :=
      by_contra fun hparam => not_toldApart_of_invalid hparam hapart
    obtain ⟨hret, heq⟩ := writeParameter_of_writeParam hok hsame
    rw [writeParameter_started hup hparam (by rw [h₁]; rfl)] at hret heq
    rw [writeParameter_started hup hparam (by rw [h₂]; rfl)] at heq
    refine not_same_of_toldApart h₁ h₂ accepted (s := ⟨replies, up, 1, 0, []⟩) rfl ?_
      ⟨⟨_, hret⟩, heq⟩
    rw [coming_started]
    exact hapart
  · intro hsame
    have htrue : Truthful param (writeParameter [param, value₁] (Session.start replies up)) := by
      by_cases hvalid : up 0 = true ∧ (parseIntValue param).isSome
      · obtain ⟨hup, hparam⟩ := hvalid
        rw [writeParameter_started hup hparam (by rw [h₁]; rfl),
          writeValidated_truthful (by rw [h₁]; rfl) accepted rfl, coming_started]
        exact fun hastray => hsame ⟨hup, .of_astray h₁ hastray⟩
      · rw [writeParameter_refused (fun h => hvalid ⟨h.1, h.2.1⟩)]
        exact truthful_refused param _ rfl
    exact ⟨writeParam_ok h₁ htrue cache,
      writeParam_congr (h₁.trans h₂.symm) cache (writeParameter_congr h₁ h₂ hsame)⟩

/-- The acknowledgement of a write to the parameter. -/
def writeAck (param : Int) : Response := .pdu false 16 none (some (2 * param)) (some 2)

/-- Ten is written in the same way in both spellings. -/
theorem writeParam_sameEffect_ten :
    SameEffect "40" "10" "0xA" (Session.start (fun _ => writeAck 40) (fun _ => true))
      (fun _ => none) :=
  (writeParam_sameEffect_iff _ _ "40" "10" "0xA" 10 _ (by decide) (by decide)).mpr (by
    rintro ⟨-, ⟨h, -⟩ | ⟨-, h, -⟩ | ⟨-, h, -⟩ | ⟨-, h, -⟩⟩ <;> revert h <;> decide)

/-- The restart command with a leading zero restarts the lift without the disk sync. -/
theorem writeParam_not_sameEffect :
    ¬ SameEffect "108" "2" "02" (Session.start (fun _ => writeAck 108) (fun _ => true))
      (fun _ => none) := by
  rintro ⟨-, hsame⟩
  have hcount := congrArg (fun r => r.2.log.count .diskSync) hsame
  revert hcount
  decide

end NexyGateway.ModbusHandler
