import NexyGateway.PackageReports
import NexyGateway.SignalReferences

/-!
# What a package changes

A response sets every signal that it has the bytes of to its reference decoding, leaves
the rest of the database as it is, and reports the difference. A second time it changes
nothing.
-/
namespace NexyGateway.ThousandLib

open PyNumber PyJson

/-- The packages by their ids. -/
def packageIds : List (String × Package) :=
  [("liftRef1", .liftRef1), ("liftRef2", .liftRef2), ("liftName", .liftName),
   ("version", .version), ("131", .package131), ("130", .package130), ("2", .package2),
   ("133", .package133), ("134", .package134), ("readFileParam", .readFileParam),
   ("readFileIntern", .readFileIntern), ("readFileNode", .readFileNode),
   ("readFileLock", .readFileLock), ("readFileDoor", .readFileDoor)]

def params135 : List Signal := [doorNumber, doorClosingTime]

/-- `get_updated_params` for any id. The latest response of package 135 is never looked at, and
is not kept here. -/
def getUpdatedParamsOf (clock : Int → Int) (packageId : String) (response : Json) (lib : Lib) :
    Update :=
  if packageId = "135" then updateSignals clock response params135 (.start lib)
  else if packageId = "virtual" then updateVirtualSignals clock lib
  else
    match packageIds.lookup packageId with
    | some package => getUpdatedParams clock package response lib
    | none => { Update.start lib with errCode := .PACKAGE_NOT_SUPPORTED }

def signalsToUnpack (packageId : String) : Option (List Signal) :=
  if packageId = "135" then some params135 else (packageIds.lookup packageId).map Package.signals

/-- Every signal with a reference value is set to it, and nothing else; what has become another
value is reported, once. -/
structure ExactDiff (ref : Signal → Option String) (sigs : List Signal) (lib : Lib) (u : Update) :
    Prop where
  error : u.error = none
  set : ∀ sig ∈ sigs, ∀ text, ref sig = some text → u.lib.value sig.param = .str text
  frame : ∀ p, (∀ sig ∈ sigs, sig.param = p → ref sig = none) → u.lib.value p = lib.value p
  changed : ∀ p, p ∈ u.changed ↔ u.lib.value p ≠ lib.value p
  once : u.changed.Nodup
  code : u.errCode = .NO_ERR ↔ ∀ sig ∈ sigs, (ref sig).isSome

/-- The reference value of the signal is not the one in the database. -/
def differs (ref : Signal → Option String) (lib : Lib) (sig : Signal) : Bool :=
  match ref sig with
  | some text => !(lib.value sig.param).eq (.str text)
  | none => false

section Loop

variable {clock : Int → Int} {response : Json} {ref : Signal → Option String}

theorem differs_congr {lib lib' : Lib} {sig : Signal}
    (h : lib'.value sig.param = lib.value sig.param) :
    differs ref lib' sig = differs ref lib sig := by
  simp only [differs, h]

theorem differs_iff {lib : Lib} {sig : Signal} : differs ref lib sig = true ↔
    ∃ text, ref sig = some text ∧ lib.value sig.param ≠ .str text := by
  unfold differs
  cases ref sig with
  | none => simp
  | some text => simp [← Bool.not_eq_true]

/-- One signal after the other: what the loop has done to the update that it started from. -/
structure Looped (ref : Signal → Option String) (sigs : List Signal) (u u' : Update) : Prop where
  error : u'.error = u.error
  value : ∀ p, u'.lib.value p =
    match sigs.find? (fun sig => sig.param = p) with
    | some sig => (ref sig).elim (u.lib.value p) .str
    | none => u.lib.value p
  changed : u'.changed = u.changed ++ (sigs.filter (differs ref u.lib)).map (fun sig => sig.param)
  code : u'.errCode = .NO_ERR ↔ u.errCode = .NO_ERR ∧ ∀ sig ∈ sigs, (ref sig).isSome

/-- A signal without a reference value is passed over. -/
theorem Looped.skip {sig : Signal} {rest : List Signal} {u u' : Update} {code : Rs232Code}
    (hcode : code ≠ .NO_ERR) (hnone : ref sig = none) (hfresh : ∀ s ∈ rest, s.param ≠ sig.param)
    (h : Looped ref rest { u with errCode := code } u') : Looped ref (sig :: rest) u u' where
  error := h.error
  value p := by
    rw [h.value p]
    by_cases hp : sig.param = p
    · have hrest : rest.find? (fun s => s.param = p) = none := by
        simpa [← hp] using hfresh
      simp [hp, hrest, hnone]
    · simp [hp]
  changed := by
    have hsame : ¬ differs ref u.lib sig = true := by simp [differs, hnone]
    rw [h.changed, List.filter_cons_of_neg hsame]
  code := by
    rw [h.code]
    simp [hcode, hnone]

/-- A signal with a reference value is stored. -/
theorem Looped.store {sig : Signal} {rest : List Signal} {u u' : Update} {text : String}
    (hsome : ref sig = some text) (hfresh : ∀ s ∈ rest, s.param ≠ sig.param)
    (h : Looped ref rest (u.store sig.param (.str text)) u') : Looped ref (sig :: rest) u u' := by
  have hother : ∀ p, p ≠ sig.param → (u.store sig.param (.str text)).lib.value p = u.lib.value p :=
    fun p hp => (within_store sig.param (.str text) u).frame p (by simpa using hp)
  have hstored : (u.store sig.param (.str text)).lib.value sig.param = .str text := by
    unfold Update.store
    split
    · rename_i heq
      exact (eq_str _ _).mp heq
    · exact set_value_same ..
  constructor
  · rw [h.error, store_error]
  · intro p
    rw [h.value p]
    by_cases hp : sig.param = p
    · subst hp
      have hrest : rest.find? (fun s => s.param = sig.param) = none := by
        simpa using hfresh
      simp [hrest, hsome, hstored]
    · simp [hp, hother p (Ne.symm hp)]
  · have hsame : rest.filter (differs ref (u.store sig.param (.str text)).lib) =
        rest.filter (differs ref u.lib) := by
      apply List.filter_congr
      intro s hs
      exact differs_congr (hother _ (hfresh s hs))
    rw [h.changed, hsame, List.filter_cons]
    unfold Update.store
    by_cases heq : (u.lib.value sig.param).eq (.str text) = true
    · simp [differs, hsome, heq]
    · simp [differs, hsome, heq]
  · rw [h.code, store_errCode]
    simp [hsome]

theorem updateSignals_looped {sigs : List Signal} {u : Update}
    (hunpack : ∀ sig ∈ sigs, unpackSignal clock sig response = outcome (ref sig))
    (hnodup : (sigs.map (fun sig => sig.param)).Nodup) :
    Looped ref sigs u (updateSignals clock response sigs u) := by
  induction sigs generalizing u with
  | nil => exact ⟨rfl, fun _ => rfl, by simp [updateSignals], by simp [updateSignals]⟩
  | cons sig rest ih =>
    obtain ⟨hsig, hrest⟩ := List.forall_mem_cons.mp hunpack
    obtain ⟨hparam, hnodup⟩ := List.nodup_cons.mp hnodup
    have hfresh : ∀ s ∈ rest, s.param ≠ sig.param := by
      intro s hs heq
      exact hparam (List.mem_map.mpr ⟨s, hs, heq⟩)
    cases href : ref sig with
    | none =>
      rw [href] at hsig
      rw [updateSignals_skipped hsig (by decide)]
      exact (ih hrest hnodup).skip (by decide) href hfresh
    | some text =>
      rw [href] at hsig
      rw [updateSignals_stored hsig]
      exact (ih hrest hnodup).store href hfresh

theorem find?_param {sigs : List Signal} (hnodup : (sigs.map (fun sig => sig.param)).Nodup)
    {sig : Signal} (hsig : sig ∈ sigs) :
    sigs.find? (fun s => s.param = sig.param) = some sig := by
  induction sigs with
  | nil => cases hsig
  | cons s rest ih =>
    obtain ⟨hparam, hnodup⟩ := List.nodup_cons.mp hnodup
    rcases List.mem_cons.mp hsig with rfl | hrest
    · simp
    · have hne : s.param ≠ sig.param :=
        fun heq => hparam (List.mem_map.mpr ⟨sig, hrest, heq.symm⟩)
      rw [List.find?_cons_of_neg (by simpa using hne)]
      exact ih hnodup hrest

/-- What a whole loop leaves is the exact difference. -/
theorem Looped.exact {sigs : List Signal} {lib lib' : Lib} {u : Update}
    (hnodup : (sigs.map (fun sig => sig.param)).Nodup) (hvalue : lib'.value = lib.value)
    (h : Looped ref sigs (.start lib') u) : ExactDiff ref sigs lib u := by
  have hset : ∀ sig ∈ sigs, ∀ text, ref sig = some text → u.lib.value sig.param = .str text := by
    intro sig hsig text htext
    rw [h.value sig.param, find?_param hnodup hsig]
    simp [htext]
  have hframe : ∀ p, (∀ sig ∈ sigs, sig.param = p → ref sig = none) →
      u.lib.value p = lib.value p := by
    intro p hp
    rw [h.value p, ← hvalue]
    cases hfind : sigs.find? (fun sig => sig.param = p) with
    | none => rfl
    | some sig =>
      have hparam : sig.param = p := by simpa using List.find?_some hfind
      simp [hp sig (List.mem_of_find?_eq_some hfind) hparam, Update.start]
  have hchanged : u.changed = (sigs.filter (differs ref lib)).map (fun sig => sig.param) := by
    have hsame : sigs.filter (differs ref lib') = sigs.filter (differs ref lib) :=
      List.filter_congr fun sig _ => differs_congr (congrFun hvalue sig.param)
    rw [h.changed, ← hsame]
    rfl
  refine ⟨h.error, hset, hframe, fun p => ?_, ?_, ?_⟩
  · rw [hchanged, List.mem_map]
    constructor
    · rintro ⟨sig, hmem, rfl⟩
      obtain ⟨hsig, hdiffers⟩ := List.mem_filter.mp hmem
      obtain ⟨text, htext, hne⟩ := differs_iff.mp hdiffers
      rw [hset sig hsig text htext]
      exact Ne.symm hne
    · intro hne
      by_contra hnone
      refine hne (hframe p fun sig hsig hparam => ?_)
      by_contra hsome
      obtain ⟨text, htext⟩ := Option.ne_none_iff_exists'.mp hsome
      refine hnone ⟨sig, List.mem_filter.mpr ⟨hsig, differs_iff.mpr ⟨text, htext, ?_⟩⟩, hparam⟩
      rw [hparam, ← hset sig hsig text htext, hparam]
      exact Ne.symm hne
  · rw [hchanged]
    exact hnodup.sublist (List.filter_sublist.map _)
  · simpa [Update.start] using h.code

theorem updateSignals_exact {sigs : List Signal} {lib lib' : Lib}
    (hunpack : ∀ sig ∈ sigs, unpackSignal clock sig response = outcome (ref sig))
    (hnodup : (sigs.map (fun sig => sig.param)).Nodup) (hvalue : lib'.value = lib.value) :
    ExactDiff ref sigs lib (updateSignals clock response sigs (.start lib')) :=
  (updateSignals_looped hunpack hnodup).exact hnodup hvalue

/-- Where the database has every reference value, nothing is changed. -/
theorem ExactDiff.nothing {sigs : List Signal} {lib : Lib} {u : Update}
    (h : ExactDiff ref sigs lib u)
    (hsettled : ∀ sig ∈ sigs, ∀ text, ref sig = some text → lib.value sig.param = .str text) :
    u.changed = [] := by
  apply List.eq_nil_iff_forall_not_mem.mpr
  intro p hp
  refine (h.changed p).mp hp ?_
  by_cases hsome : ∃ sig ∈ sigs, sig.param = p ∧ ref sig ≠ none
  · obtain ⟨sig, hsig, rfl, hne⟩ := hsome
    obtain ⟨text, htext⟩ := Option.ne_none_iff_exists'.mp hne
    rw [h.set sig hsig text htext, hsettled sig hsig text htext]
  · refine h.frame p fun sig hsig hparam => ?_
    by_contra hne
    exact hsome ⟨sig, hsig, hparam, hne⟩

end Loop

section Packages

theorem regular_signals (package : Package) : ∀ sig ∈ package.signals, sig.Regular := by
  cases package <;> decide

/-- The signals of a package have its parameters once each, and are as the table has them. -/
theorem signalsToUnpack_table {packageId : String} {sigs : List Signal}
    (h : signalsToUnpack packageId = some sigs) :
    (sigs.map (fun sig => sig.param)).Nodup ∧ ∀ sig ∈ sigs, sig.Regular := by
  unfold signalsToUnpack at h
  split at h
  · cases h
    decide
  · obtain ⟨package, -, rfl⟩ := Option.map_eq_some_iff.mp h
    exact ⟨Rs232Handler.params_nodup package, regular_signals package⟩

theorem getUpdatedParamsOf_signals (clock : Int → Int) {packageId : String} {sigs : List Signal}
    (h : signalsToUnpack packageId = some sigs) (response : Json) (lib : Lib) :
    ∃ lib' : Lib, lib'.value = lib.value ∧ getUpdatedParamsOf clock packageId response lib =
      updateSignals clock response sigs (.start lib') := by
  unfold signalsToUnpack at h
  unfold getUpdatedParamsOf
  by_cases hid : packageId = "135"
  · rw [if_pos hid] at h ⊢
    cases h
    exact ⟨lib, rfl, rfl⟩
  · rw [if_neg hid] at h ⊢
    obtain ⟨package, hpackage, rfl⟩ := Option.map_eq_some_iff.mp h
    have hvirtual : packageId ≠ "virtual" := by
      rintro rfl
      have hnone : packageIds.lookup "virtual" = none := by decide
      rw [hnone] at hpackage
      cases hpackage
    rw [if_neg hvirtual, hpackage]
    exact ⟨lib.remember package response, rfl, rfl⟩

/-- A package makes the database agree with the reference decoding of the response, reports
exactly what that changes, and finds nothing to change the second time. -/
theorem getUpdatedParamsOf_exact (clock : Int → Int) {packageId : String} {sigs : List Signal}
    (h : signalsToUnpack packageId = some sigs) {answer : Answer}
    (hsuits : ∀ sig ∈ sigs, answer.Suits sig) (lib : Lib) :
    let u := getUpdatedParamsOf clock packageId answer.response lib
    ExactDiff (reference clock answer) sigs lib u ∧
      (getUpdatedParamsOf clock packageId answer.response u.lib).changed = [] := by
  obtain ⟨hnodup, hregular⟩ := signalsToUnpack_table h
  have hexact : ∀ lib, ExactDiff (reference clock answer) sigs lib
      (getUpdatedParamsOf clock packageId answer.response lib) := by
    intro lib
    obtain ⟨lib', hvalue, hupdate⟩ :=
      getUpdatedParamsOf_signals clock h answer.response lib
    rw [hupdate]
    refine updateSignals_exact (fun sig hsig => ?_) hnodup hvalue
    exact unpackSignal_reference (hregular sig hsig) (hsuits sig hsig)
  exact ⟨hexact lib, (hexact _).nothing (hexact lib).set⟩

/-- Two bytes of package 134 set the current, and leave the two counters behind it. -/
theorem getUpdatedParamsOf_exact_134 :
    let u := getUpdatedParamsOf (fun _ => 0) "134" (Answer.integers [16, 39]).response Lib.fresh
    u.lib.value 91 = .str "10000" ∧ u.lib.value 66 = .str "" ∧ u.errCode ≠ .NO_ERR ∧
      (getUpdatedParamsOf (fun _ => 0) "134" (Answer.integers [16, 39]).response u.lib).changed =
        [] := by
  have htype : ∀ sig ∈ params134, sig.type ≠ .genericText := by decide
  have hid : signalsToUnpack "134" = some params134 := rfl
  have hsuits : ∀ sig ∈ params134, (Answer.integers [16, 39]).Suits sig := htype
  have h := getUpdatedParamsOf_exact (fun _ => 0) hid hsuits Lib.fresh
  refine ⟨h.1.set (uint16 91 0) (by decide) _ (by decide), h.1.frame 66 (by decide), ?_, h.2⟩
  rw [ne_eq, h.1.code]
  decide

end Packages

end NexyGateway.ThousandLib
