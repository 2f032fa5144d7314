import NexyGateway.DroppedUpdates
import NexyGateway.PollFaults

/-!
# What a package reports

A package that unpacks reports everything that it changes. One with a signal that does
not unpack reports nothing, whatever the others have stored.
-/
namespace NexyGateway.Rs232Handler

open PyNumber PyJson ThousandLib

section Packages

variable {clock : Int → Int} {package : Package} {response : Json} {lib : Lib}

def params (package : Package) : List Int := package.signals.map (fun sig => sig.param)

/-- A signal of the package does not unpack. -/
def Misses (clock : Int → Int) (package : Package) (response : Json) : Prop :=
  ∃ sig ∈ package.signals, ¬ Unpacks clock response sig

/-- A signal of the package that is reached has another value than the database. -/
def Stores (clock : Int → Int) (package : Package) (response : Json) (lib : Lib) : Prop :=
  if package = .doorOpenCount then AltersCounter clock response lib 0 paramsDoorOpenCount
  else Alters clock response lib package.signals

/-- No number occurs twice, and none is in the set of bits. -/
def distinct : Nat → List Nat → Bool
  | _, [] => true
  | seen, n :: rest => !seen.testBit n && distinct (seen ||| 2 ^ n) rest

theorem distinct_nodup {seen : Nat} {l : List Nat} (h : distinct seen l = true) :
    l.Nodup ∧ ∀ n ∈ l, seen.testBit n = false := by
  induction l generalizing seen with
  | nil => exact ⟨List.nodup_nil, fun n hn => by cases hn⟩
  | cons n rest ih =>
    simp only [distinct, Bool.and_eq_true, Bool.not_eq_true'] at h
    obtain ⟨hnodup, hunseen⟩ := ih h.2
    have hrest : ∀ m ∈ rest, seen.testBit m = false ∧ n ≠ m := by
      intro m hm
      have hbit := hunseen m hm
      rw [Nat.testBit_or, Bool.or_eq_false_iff, Nat.testBit_two_pow] at hbit
      exact ⟨hbit.1, by simpa using hbit.2⟩
    have hfresh : n ∉ rest := fun hn => (hrest n hn).2 rfl
    refine ⟨List.nodup_cons.mpr ⟨hfresh, hnodup⟩, ?_⟩
    exact List.forall_mem_cons.mpr ⟨h.1, fun m hm => (hrest m hm).1⟩

/-- A table of parameters is checked with one bit for each, not in pairs. -/
theorem nodup_of_distinct {l : List Int} (h : distinct 0 (l.map Int.toNat) = true) : l.Nodup :=
  List.Pairwise.of_map Int.toNat (fun _ _ hne heq => hne (congrArg Int.toNat heq))
    (distinct_nodup h).1

theorem params_nodup (package : Package) : (params package).Nodup := by
  cases package <;> exact nodup_of_distinct (by decide)

theorem doorOpenCount_lib (clock : Int → Int) (response : Json) (lib : Lib) :
    (updateFor clock .doorOpenCount response lib).lib =
      (recalculate clock response paramsDoorOpenCount 0 (.start lib)).lib :=
  (doorOpenCountRecalculate_fields clock response lib).1

theorem updateFor_other (clock : Int → Int) (response : Json) (lib : Lib)
    (h : package ≠ .doorOpenCount) : updateFor clock package response lib =
      updateSignals clock response package.signals (.start (lib.remember package response)) :=
  if_neg h

/-- The counters hold their changes back if one of them does not unpack. -/
theorem doorOpenCount_changed (clock : Int → Int) (response : Json) (lib : Lib) :
    let u := recalculate clock response paramsDoorOpenCount 0 (.start lib)
    (updateFor clock .doorOpenCount response lib).changed =
      if u.errCode ≠ .NO_ERR then [] else u.changed := by
  have hupdate : updateFor clock .doorOpenCount response lib =
      { doorOpenCountRecalculate clock response lib with errCode := .NO_ERR } := if_pos rfl
  simp only [hupdate, doorOpenCountRecalculate]
  split <;> rfl

theorem within_counters (clock : Int → Int) (response : Json) (lib : Lib) :
    Within (params .doorOpenCount) (.start lib)
      (recalculate clock response paramsDoorOpenCount 0 (.start lib)) :=
  within_recalculate isCounter_doorOpenCount 0 _

theorem updateFor_frame {p : Int} (hp : p ∉ params package) :
    (updateFor clock package response lib).lib.value p = lib.value p := by
  by_cases hdoor : package = .doorOpenCount
  · subst hdoor
    rw [doorOpenCount_lib]
    exact (within_counters clock response lib).frame p hp
  · rw [updateFor_other clock response lib hdoor]
    exact (within_updateSignals _ _).frame p hp

theorem updateFor_known {p : Int} (hp : p ∈ (updateFor clock package response lib).changed) :
    p ∈ params package := by
  by_cases hdoor : package = .doorOpenCount
  · subst hdoor
    rw [doorOpenCount_changed] at hp
    split at hp
    · cases hp
    · exact ((within_counters clock response lib).known p hp).resolve_left (by simp [Update.start])
  · rw [updateFor_other clock response lib hdoor] at hp
    exact ((within_updateSignals _ _).known p hp).resolve_left (by simp [Update.start])

theorem Unusable.misses (h : Unusable clock package response) : Misses clock package response := by
  unfold Unusable at h
  split at h
  · rename_i hdoor
    subst hdoor
    obtain ⟨before, sig, after, hsigs, -, hgarbled⟩ := h
    have hmem : sig ∈ Package.doorOpenCount.signals := by
      change sig ∈ paramsDoorOpenCount
      simp [hsigs]
    exact ⟨sig, hmem, fun hunpacks => hunpacks.not_garbled hgarbled⟩
  · obtain ⟨sig, hmem, hgarbled⟩ := h
    exact ⟨sig, hmem, fun hunpacks => hunpacks.not_garbled hgarbled⟩

/-- A package that unpacks reports all that it changes. -/
theorem updateFor_reported (lib : Lib) (h : ¬ Misses clock package response) :
    (updateFor clock package response lib).error = none ∧
    (updateFor clock package response lib).errCode = .NO_ERR ∧
    ∀ p, (updateFor clock package response lib).lib.value p ≠ lib.value p →
      p ∈ (updateFor clock package response lib).changed := by
  have herror : (updateFor clock package response lib).error = none := by
    by_contra hraises
    exact h (updateFor_error_iff.mp hraises).misses
  refine ⟨herror, ?_⟩
  by_cases hdoor : package = .doorOpenCount
  · subst hdoor
    have hcode : ¬ (recalculate clock response paramsDoorOpenCount 0 (.start lib)).errCode ≠
        .NO_ERR := by
      rw [recalculate_errCode_iff isCounter_doorOpenCount rfl]
      · exact h
      · rw [← (doorOpenCountRecalculate_fields clock response lib).2]
        exact herror
    refine ⟨rfl, fun p hp => ?_⟩
    rw [doorOpenCount_lib] at hp
    rw [doorOpenCount_changed, if_neg hcode]
    exact (within_counters clock response lib).reported p hp
  · rw [updateFor_other clock response lib hdoor] at herror ⊢
    refine ⟨?_, fun p hp => (within_updateSignals _ _).reported p hp⟩
    by_contra hcode
    exact h (((updateSignals_errCode_iff herror).mp hcode).resolve_left (by simp [Update.start]))

/-- A package that does not raises, or reports nothing. -/
theorem updateFor_missed (lib : Lib) (h : Misses clock package response) :
    (updateFor clock package response lib).error ≠ none ∨
    (updateFor clock package response lib).errCode ≠ .NO_ERR ∨
    (updateFor clock package response lib).changed = [] := by
  by_cases herror : (updateFor clock package response lib).error = none
  · right
    by_cases hdoor : package = .doorOpenCount
    · subst hdoor
      have hcode : (recalculate clock response paramsDoorOpenCount 0 (.start lib)).errCode ≠
          .NO_ERR := by
        rw [recalculate_errCode_iff isCounter_doorOpenCount rfl]
        · exact h
        · rw [← (doorOpenCountRecalculate_fields clock response lib).2]
          exact herror
      right
      rw [doorOpenCount_changed, if_pos hcode]
    · left
      rw [updateFor_other clock response lib hdoor] at herror ⊢
      exact (updateSignals_errCode_iff herror).mpr (.inr h)
  · exact .inl herror

/-- A text that does not unpack raises. -/
theorem text_missed {param : Int} (h : ¬ Unpacks clock response (genericText param)) :
    ∃ e, unpackSignal clock (genericText param) response = .error e := by
  rcases unpackSignal_cases clock (genericText param) response with hraised | ⟨v, code, hv, hcode⟩ |
    hunpacks
  · exact hraised
  · have htype : (genericText param).type = .genericText := rfl
    rw [unpackSignal, if_pos htype] at hv
    cases htext : unpackGenericText (genericText param) response with
    | error e => simp [htext, Except.map] at hv
    | ok v' =>
      simp only [htext, Except.map, Except.ok.injEq, Prod.mk.injEq] at hv
      exact absurd hv.2.symm hcode
  · exact absurd hunpacks h

theorem text_stores_iff (u : Update) {param : Int}
    (h : ∃ sig ∈ [genericText param], ¬ Unpacks clock response sig) :
    Alters clock response u.lib [genericText param] ↔ ∃ p ∈ [param],
      (updateSignals clock response [genericText param] u).lib.value p ≠ u.lib.value p := by
  obtain ⟨sig, hmem, hmiss⟩ := h
  rw [List.mem_singleton.mp hmem] at hmiss
  obtain ⟨e, he⟩ := text_missed hmiss
  rw [updateSignals_raised he]
  refine iff_of_false ?_ (by simp)
  rintro ⟨before, sig', after, v, hsigs, -, hv, -⟩
  have hmem' : sig' ∈ [genericText param] := by simp [hsigs]
  rw [List.mem_singleton.mp hmem', he] at hv
  cases hv

theorem bytes_stores_iff (u : Update) {sigs : List Signal}
    (htype : ∀ sig ∈ sigs, sig.type ≠ .genericText)
    (hnodup : (sigs.map (fun sig => sig.param)).Nodup) :
    Alters clock response u.lib sigs ↔ ∃ p ∈ sigs.map (fun sig => sig.param),
      (updateSignals clock response sigs u).lib.value p ≠ u.lib.value p := by
  constructor
  · intro halters
    obtain ⟨sig, hmem, hne⟩ := updateSignals_altered htype hnodup halters
    exact ⟨sig.param, List.mem_map_of_mem hmem, hne⟩
  · rintro ⟨p, -, hne⟩
    by_contra halters
    exact hne (congrArg (fun lib => lib.value p) (updateSignals_steady htype halters).1)

theorem counters_store_iff (u : Update) :
    AltersCounter clock response u.lib 0 paramsDoorOpenCount ↔ ∃ p ∈ params .doorOpenCount,
      (recalculate clock response paramsDoorOpenCount 0 u).lib.value p ≠ u.lib.value p := by
  constructor
  · intro halters
    obtain ⟨sig, hmem, hne⟩ :=
      recalculate_altered isCounter_doorOpenCount (params_nodup .doorOpenCount) halters
    exact ⟨sig.param, List.mem_map_of_mem hmem, hne⟩
  · rintro ⟨p, -, hne⟩
    by_contra halters
    exact hne (congrFun (recalculate_steady isCounter_doorOpenCount halters) p)

/-- A package with a signal that does not unpack stores something exactly if another signal that
is reached has a new value. -/
theorem stores_iff (lib : Lib) (h : Misses clock package response) :
    Stores clock package response lib ↔ ∃ p ∈ params package,
      (updateFor clock package response lib).lib.value p ≠ lib.value p := by
  by_cases hdoor : package = .doorOpenCount
  · subst hdoor
    rw [doorOpenCount_lib, Stores, if_pos rfl]
    exact counters_store_iff (.start lib)
  · rw [updateFor_other clock response lib hdoor, Stores, if_neg hdoor]
    cases package
    case liftRef1 | liftRef2 | liftName => exact text_stores_iff (.start (lib.remember _ _)) h
    case doorOpenCount => exact absurd rfl hdoor
    all_goals exact bytes_stores_iff (.start (lib.remember _ _)) (by decide) (params_nodup _)

end Packages

end NexyGateway.Rs232Handler
