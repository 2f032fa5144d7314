import NexyGateway.DatabaseUpdates

/-!
# Updates that are not reported

When the counters report an error, and when the virtual signals store something before
an exception takes their report away.
-/
namespace NexyGateway.ThousandLib

open PyNumber PyJson

section Counters

variable {clock : Int → Int} {response : Json}

theorem countIn_errCode (sig : Signal) (i : Nat) (read : Int) (u : Update) :
    (u.countIn sig i read).errCode = u.errCode := store_errCode ..

/-- Without an exception the code is an error exactly if a counter does not unpack. -/
theorem recalculate_errCode_iff {sigs : List Signal} (hsigs : ∀ sig ∈ sigs, IsCounter sig) {i : Nat}
    {u : Update} (hu : u.errCode = .NO_ERR)
    (herror : (recalculate clock response sigs i u).error = none) :
    (recalculate clock response sigs i u).errCode ≠ .NO_ERR ↔
      ∃ sig ∈ sigs, ¬ Unpacks clock response sig := by
  induction sigs generalizing i u with
  | nil => simp [recalculate, hu]
  | cons sig rest ih =>
    obtain ⟨hsig, hrest⟩ := List.forall_mem_cons.mp hsigs
    rw [List.exists_mem_cons_iff]
    rcases recalculate_cases clock response hsig rest i u with
      ⟨e, -, hr⟩ | ⟨v, code, hv, hcode, hr⟩ | ⟨v, read, hv, -, hr⟩
    · rw [hr] at herror
      cases herror
    · have hnot : ¬ Unpacks clock response sig := not_unpacks_of_code hv hcode
      rw [hr]
      simp [hcode, hnot]
    · have hunpacks : Unpacks clock response sig := ⟨v, hv⟩
      rw [hr] at herror ⊢
      rw [ih hrest ((countIn_errCode ..).trans hu) herror]
      simp [hunpacks]

end Counters

section Virtual

variable {clock : Int → Int} {lib : Lib}

abbrev VirtualSignal := Int × (Lib → Except PyError (Json × Rs232Code))

/-- A virtual signal that is reached has another value than the database. -/
def AltersVirtual (lib : Lib) (signals : List VirtualSignal) : Prop :=
  ∃ before signal after v, signals = before ++ signal :: after ∧
    (∀ s ∈ before, ¬ ∃ e, s.2 lib = .error e) ∧ signal.2 lib = .ok (v, .NO_ERR) ∧
    lib.value signal.1 ≠ v

/-- What the virtual signals are put together from. -/
structure SameSources (params : List Int) (lib lib' : Lib) : Prop where
  latest : lib'.latestResponses = lib.latestResponses
  value : ∀ p, p ∉ params → lib'.value p = lib.value p

theorem SameSources.store {params : List Int} {u : Update} (h : SameSources params lib u.lib)
    {param : Int} (hparam : param ∈ params) (v : Json) :
    SameSources params lib (u.store param v).lib where
  latest := (store_latestResponses ..).trans h.latest
  value p hp := by
    rw [(within_store param v u).frame p fun hmem => hp (List.mem_singleton.mp hmem ▸ hparam)]
    exact h.value p hp

/-- A virtual signal makes a text from its sources, which are no virtual signals. -/
structure Derived (params : List Int) (signal : VirtualSignal) : Prop where
  param : signal.1 ∈ params
  text : ∀ lib v, signal.2 lib = .ok (v, .NO_ERR) → ∃ s, v = .str s
  stable : ∀ lib lib', SameSources params lib lib' → signal.2 lib' = signal.2 lib

section Steps

variable {signal : VirtualSignal} {rest : List VirtualSignal} {u : Update}

theorem updateVirtual_raised {e : PyError} (h : signal.2 u.lib = .error e) :
    updateVirtual (signal :: rest) u = { u with error := some e } := by
  simp [updateVirtual, h]

theorem updateVirtual_skipped {v : Json} {code : Rs232Code} (h : signal.2 u.lib = .ok (v, code))
    (hcode : code ≠ .NO_ERR) :
    updateVirtual (signal :: rest) u = updateVirtual rest { u with errCode := code } := by
  simp [updateVirtual, h, hcode]

theorem updateVirtual_stored {v : Json} (h : signal.2 u.lib = .ok (v, .NO_ERR)) :
    updateVirtual (signal :: rest) u = updateVirtual rest (u.store signal.1 v) := by
  simp [updateVirtual, h]

end Steps

theorem AltersVirtual.cons {signal : VirtualSignal} {rest : List VirtualSignal}
    (hsignal : ¬ ∃ e, signal.2 lib = .error e) (h : AltersVirtual lib rest) :
    AltersVirtual lib (signal :: rest) := by
  obtain ⟨before, s, after, v, rfl, hbefore, hv, hne⟩ := h
  exact ⟨signal :: before, s, after, v, rfl, List.forall_mem_cons.mpr ⟨hsignal, hbefore⟩, hv, hne⟩

/-- Where no virtual signal is altered, nothing is stored. -/
theorem updateVirtual_steady {params : List Int} {signals : List VirtualSignal} {u : Update}
    (hsame : SameSources params lib u.lib) (hvalue : u.lib.value = lib.value)
    (hderived : ∀ signal ∈ signals, Derived params signal) (h : ¬ AltersVirtual lib signals) :
    (updateVirtual signals u).lib.value = lib.value := by
  induction signals generalizing u with
  | nil => exact hvalue
  | cons signal rest ih =>
    obtain ⟨hone, hrest⟩ := List.forall_mem_cons.mp hderived
    have hstable := hone.stable lib u.lib hsame
    cases hval : signal.2 lib with
    | error e =>
      rw [updateVirtual_raised (hstable.trans hval)]
      exact hvalue
    | ok r =>
      obtain ⟨v, code⟩ := r
      have hok : ¬ ∃ e, signal.2 lib = .error e := by simp [hval]
      have hnext : ¬ AltersVirtual lib rest := fun halters => h (halters.cons hok)
      by_cases hcode : code = .NO_ERR
      · subst hcode
        obtain ⟨s, rfl⟩ := hone.text lib v hval
        have heq : u.lib.value signal.1 = .str s := by
          by_contra hne
          exact h ⟨[], signal, rest, _, rfl, by simp, hval, hvalue ▸ hne⟩
        rw [updateVirtual_stored (hstable.trans hval), store_of_eq heq]
        exact ih hsame hvalue hrest hnext
      · rw [updateVirtual_skipped (hstable.trans hval) hcode]
        exact ih (u := { u with errCode := code }) hsame hvalue hrest hnext

/-- An altered virtual signal stays altered. -/
theorem updateVirtual_altered {params : List Int} {signals : List VirtualSignal} {u : Update}
    (hsame : SameSources params lib u.lib)
    (hvalue : ∀ signal ∈ signals, u.lib.value signal.1 = lib.value signal.1)
    (hderived : ∀ signal ∈ signals, Derived params signal)
    (hnodup : (signals.map (fun signal => signal.1)).Nodup) (h : AltersVirtual lib signals) :
    ∃ signal ∈ signals, (updateVirtual signals u).lib.value signal.1 ≠ lib.value signal.1 := by
  obtain ⟨before, signal, after, v, rfl, hbefore, hv, hne⟩ := h
  induction before generalizing u with
  | nil =>
    have hone := hderived signal (by simp)
    obtain ⟨s, rfl⟩ := hone.text lib v hv
    have hfresh : signal.1 ∉ after.map (fun signal => signal.1) := by
      simpa using (List.nodup_cons.mp hnodup).1
    have hstored : (u.store signal.1 (.str s)).lib.value signal.1 = .str s := by
      have hold := hvalue signal (by simp)
      rw [← hold] at hne
      unfold Update.store
      rw [if_neg (by simpa using hne)]
      exact set_value_same ..
    refine ⟨signal, by simp, ?_⟩
    rw [List.nil_append, updateVirtual_stored ((hone.stable lib u.lib hsame).trans hv),
      (within_updateVirtual after _).frame _ hfresh, hstored]
    exact Ne.symm hne
  | cons s before ih =>
    obtain ⟨hs, hbefore⟩ := List.forall_mem_cons.mp hbefore
    obtain ⟨hone, hrest⟩ := List.forall_mem_cons.mp hderived
    obtain ⟨-, hvalueRest⟩ := List.forall_mem_cons.mp hvalue
    rw [List.cons_append, List.map_cons, List.nodup_cons] at hnodup
    have hstable := hone.stable lib u.lib hsame
    cases hval : s.2 lib with
    | error e => exact absurd ⟨e, hval⟩ hs
    | ok r =>
      obtain ⟨v', code⟩ := r
      rw [List.cons_append]
      by_cases hcode : code = .NO_ERR
      · subst hcode
        have hvalue' : ∀ other ∈ before ++ signal :: after,
            (u.store s.1 v').lib.value other.1 = lib.value other.1 := by
          intro s' hs'
          rw [(within_store s.1 v' u).frame _ ?_]
          · exact hvalueRest s' hs'
          · intro hmem
            exact hnodup.1 (List.mem_singleton.mp hmem ▸ List.mem_map_of_mem hs')
        obtain ⟨s', hs', hne'⟩ := ih (hsame.store hone.param v') hvalue' hrest hnodup.2 hbefore
        rw [updateVirtual_stored (hstable.trans hval)]
        exact ⟨s', List.mem_cons_of_mem _ hs', hne'⟩
      · obtain ⟨s', hs', hne'⟩ :=
          ih (u := { u with errCode := code }) hsame hvalueRest hrest hnodup.2 hbefore
        rw [updateVirtual_skipped (hstable.trans hval) hcode]
        exact ⟨s', List.mem_cons_of_mem _ hs', hne'⟩

theorem found_text {text : String} {v : Json} (h : found text = .ok (v, .NO_ERR)) :
    ∃ s, v = .str s := by
  cases h
  exact ⟨text, rfl⟩

theorem failed_ne {code : Rs232Code} {v : Json} (hcode : code ≠ .NO_ERR) :
    failed code ≠ .ok (v, .NO_ERR) := by
  intro h
  cases h
  exact hcode rfl

theorem SameSources.unpackLatest {params : List Int} {lib' : Lib} (h : SameSources params lib lib')
    (sig : Signal) (package : Package) :
    unpackLatest clock sig package lib' = unpackLatest clock sig package lib := by
  unfold ThousandLib.unpackLatest
  rw [h.latest]

theorem derived_batteryState :
    Derived virtualParams (batteryState.param, updateBatteryState clock) where
  param := List.mem_cons_self
  text lib v h := by
    simp only [updateBatteryState] at h
    repeat' split at h
    all_goals first | exact found_text h | exact absurd h (failed_ne (by decide)) | cases h
  stable lib lib' h := by
    simp only [updateBatteryState, h.unpackLatest]

theorem derived_impulse : Derived virtualParams (impulse.param, updateImpulse) where
  param := by decide
  text lib v h := by
    simp only [updateImpulse] at h
    repeat' split at h
    all_goals first | exact found_text h | exact absurd h (failed_ne (by decide)) | cases h
  stable lib lib' h := by
    simp only [updateImpulse, h.value 4 (by decide)]

theorem derived_temp : Derived virtualParams (temp.param, updateTemp clock) where
  param := show temp.param ∈ virtualParams by decide
  text lib v h := by
    simp only [updateTemp] at h
    repeat' split at h
    all_goals first | exact found_text h | exact absurd h (failed_ne (by decide)) | cases h
  stable lib lib' h := by
    simp only [updateTemp, h.unpackLatest]

theorem derived_floorLock : Derived virtualParams (floorLock.param, updateFloorLock) where
  param := by decide
  text lib v h := by
    simp only [updateFloorLock] at h
    split at h
    · exact found_text h
    · exact absurd h (failed_ne (by decide))
  stable lib lib' h := by
    have hfloors : ([151, 150, 149, 148, 147, 146] : List Int).mapM (fun p => (lib'.value p).text) =
        ([151, 150, 149, 148, 147, 146] : List Int).mapM (fun p => (lib.value p).text) := by
      simp [h.value, virtualParams]
    simp only [updateFloorLock, hfloors]

theorem derived_paramsVirtual :
    ∀ signal ∈ paramsVirtual clock, Derived virtualParams signal := by
  simp only [paramsVirtual, List.forall_mem_cons]
  exact ⟨derived_batteryState, derived_impulse, derived_temp, derived_floorLock, by simp⟩

/-- The virtual signals store something exactly if one that is reached has another value. -/
theorem updateVirtualSignals_altered_iff : AltersVirtual lib (paramsVirtual clock) ↔
    ∃ p ∈ virtualParams, (updateVirtualSignals clock lib).lib.value p ≠ lib.value p := by
  have hsame : SameSources virtualParams lib (Update.start lib).lib := ⟨rfl, fun _ _ => rfl⟩
  have hnodup : virtualParams.Nodup := by decide
  constructor
  · intro halters
    obtain ⟨signal, hmem, hne⟩ := updateVirtual_altered hsame (fun _ _ => rfl)
      derived_paramsVirtual hnodup halters
    exact ⟨signal.1, (derived_paramsVirtual signal hmem).param, hne⟩
  · rintro ⟨p, -, hne⟩
    by_contra halters
    have hsteady := updateVirtual_steady hsame rfl derived_paramsVirtual halters
    exact hne (congrFun hsteady p)

end Virtual

end NexyGateway.ThousandLib
