import NexyGateway.ExactDiffs

/-!
# Sources of the virtual signals

What the four virtual signals stand for, told from the responses and the texts that they
are put together from. Two of the derivations take sources for valid that are not: the
temperature does not look at the code of its unpacking, and the floor lock joins whatever
the six texts are.
-/
namespace NexyGateway.ThousandLib

open PyNumber PyJson

def virtualSignals : List Signal := [batteryState, impulse, temp, floorLock]

/-- The battery states of the lift, as the cloud numbers them. -/
def batteryRemap : Nat → Option Nat
  | 1 => some 1
  | 2 | 3 => some 2
  | 4 => some 3
  | 5 | 6 | 7 => some 4
  | _ => none

def batteryReference (status : Option (List Int)) : Option String :=
  ((status.bind batteryState.octets).bind (fun octets => batteryRemap (octets.headD 0 % 16))).map
    (fun n => toString n)

/-- Automatic run or hold to run, by the name of the program. -/
def impulseReference (progName : Json) : Option String :=
  match progName with
  | .str s =>
    if "AritcoI".toList <+: s.toList then some "1"
    else if "AritcoH".toList <+: s.toList then some "0"
    else none
  | _ => none

def tempReference (current : Option (List Int)) : Option String :=
  (current.bind temp.octets).map (fun octets => toString (Nat.ofDigits 256 octets / 100))

def lockBit (v : Json) : Option Nat :=
  if v.text = some "0" then some 0 else if v.text = some "1" then some 1 else none

/-- The number with the lock of floor `f` for its bit `f - 1`. -/
def floorLockReference (lib : Lib) : Option String :=
  (([146, 147, 148, 149, 150, 151] : List Int).mapM (fun p => lockBit (lib.value p))).map
    (fun bits => toString (Nat.ofDigits 2 bits))

/-- What a virtual signal stands for, by the latest packages 130 and 134 and the database. -/
def virtualReference (status current : Option (List Int)) (lib : Lib) (sig : Signal) :
    Option String :=
  if sig = batteryState then batteryReference status
  else if sig = impulse then impulseReference (lib.value 4)
  else if sig = temp then tempReference current
  else floorLockReference lib

/-- What the six texts make when they are written one after the other. -/
def joinedLocks (lib : Lib) : Option Int :=
  (([151, 150, 149, 148, 147, 146] : List Int).mapM (fun p => (lib.value p).text)).bind
    (fun texts => PyNumber.intBin (String.join texts))

/-- Some source is missing in a way that is noticed. -/
def Noticed (status current : Option (List Int)) (lib : Lib) : Prop :=
  batteryReference status = none ∨ impulseReference (lib.value 4) = none ∨ current = none ∨
    joinedLocks lib = none

/-- The sources are valid, or their faults are noticed, or hidden by what the database has. -/
structure SoundSources (status current : Option (List Int)) (lib : Lib) : Prop where
  progName : (∃ s, lib.value 4 = .str s) ∨ ∃ items, lib.value 4 = .list items
  temp : ∀ items, current = some items → temp.octets items = none →
    lib.value temp.param = .str "0" ∧ Noticed status current lib
  floorLock : ∀ n, joinedLocks lib = some n → floorLockReference lib = none →
    lib.value floorLock.param = .str (toString n) ∧ Noticed status current lib

section Diffs

variable {ref computed : Signal → Option String} {sigs : List Signal} {lib : Lib} {u : Update}

/-- What is computed beyond the reference has to be there already, and to be covered by a code. -/
theorem exactDiff_iff (hnodup : (sigs.map (fun sig => sig.param)).Nodup)
    (h : ExactDiff computed sigs lib u)
    (hsub : ∀ sig ∈ sigs, ref sig = none ∨ ref sig = computed sig) :
    ExactDiff ref sigs lib u ↔ ∀ sig ∈ sigs, ∀ text, computed sig = some text → ref sig = none →
      lib.value sig.param = .str text ∧ ∃ s ∈ sigs, computed s = none := by
  have hsome : ∀ sig ∈ sigs, ∀ text, ref sig = some text → computed sig = some text := by
    intro sig hsig text htext
    rcases hsub sig hsig with hnone | heq
    · rw [htext] at hnone
      cases hnone
    · rw [← heq, htext]
  constructor
  · intro href sig hsig text htext hnone
    constructor
    · have honly : ∀ s ∈ sigs, s.param = sig.param → ref s = none := by
        intro s hs hparam
        have hsame : s = sig := by
          have hfind := find?_param hnodup hsig
          have hfind' := find?_param hnodup hs
          rw [hparam, hfind] at hfind'
          exact (Option.some.inj hfind').symm
        rw [hsame, hnone]
      rw [← href.frame sig.param honly, h.set sig hsig text htext]
    · by_contra hall
      have hcode : u.errCode = .NO_ERR := by
        refine h.code.mpr fun s hs => ?_
        rw [Option.isSome_iff_ne_none]
        exact fun hs' => hall ⟨s, hs, hs'⟩
      have := href.code.mp hcode sig hsig
      rw [hnone] at this
      cases this
  · intro hextra
    refine ⟨h.error, ?_, ?_, h.changed, h.once, ?_⟩
    · intro sig hsig text htext
      exact h.set sig hsig text (hsome sig hsig text htext)
    · intro p hp
      by_cases hcomputed : ∀ sig ∈ sigs, sig.param = p → computed sig = none
      · exact h.frame p hcomputed
      · simp only [not_forall] at hcomputed
        obtain ⟨sig, hsig, rfl, hne⟩ := hcomputed
        obtain ⟨text, htext⟩ := Option.ne_none_iff_exists'.mp hne
        rw [h.set sig hsig text htext, (hextra sig hsig text htext (hp sig hsig rfl)).1]
    · rw [h.code]
      constructor
      · intro hall sig hsig
        obtain ⟨text, htext⟩ := Option.isSome_iff_exists.mp (hall sig hsig)
        rw [Option.isSome_iff_ne_none]
        intro hnone
        obtain ⟨s, hs, hs'⟩ := (hextra sig hsig text htext hnone).2
        have := hall s hs
        rw [hs'] at this
        cases this
      · intro hall sig hsig
        obtain ⟨text, htext⟩ := Option.isSome_iff_exists.mp (hall sig hsig)
        rw [hsome sig hsig text htext]
        rfl

/-- What a virtual signal is put together to. -/
def Puts (derive : Lib → Except PyError (Json × Rs232Code)) (lib : Lib) : Option String → Prop
  | some text => derive lib = .ok (.str text, .NO_ERR)
  | none => ∃ v code, derive lib = .ok (v, code) ∧ code ≠ .NO_ERR

/-- The loop over virtual signals without an exception. -/
theorem updateVirtual_looped {params : List Int}
    {derive : Signal → Lib → Except PyError (Json × Rs232Code)}
    (hderived : ∀ sig ∈ sigs, Derived params (sig.param, derive sig))
    (hputs : ∀ sig ∈ sigs, Puts (derive sig) lib (computed sig))
    (hnodup : (sigs.map (fun sig => sig.param)).Nodup) (hsame : SameSources params lib u.lib) :
    Looped computed sigs u (updateVirtual (sigs.map (fun sig => (sig.param, derive sig))) u) := by
  induction sigs generalizing u with
  | nil => exact ⟨rfl, fun _ => rfl, by simp [updateVirtual], by simp [updateVirtual]⟩
  | cons sig rest ih =>
    obtain ⟨hsig, hderived⟩ := List.forall_mem_cons.mp hderived
    obtain ⟨hput, hputs⟩ := List.forall_mem_cons.mp hputs
    obtain ⟨hparam, hnodup⟩ := List.nodup_cons.mp hnodup
    have hfresh : ∀ s ∈ rest, s.param ≠ sig.param := by
      intro s hs heq
      exact hparam (List.mem_map.mpr ⟨s, hs, heq⟩)
    have hstable : derive sig u.lib = derive sig lib := hsig.stable lib u.lib hsame
    rw [List.map_cons]
    cases hcomputed : computed sig with
    | none =>
      rw [hcomputed] at hput
      obtain ⟨v, code, hv, hcode⟩ := hput
      rw [updateVirtual_skipped (hstable.trans hv) hcode]
      have htail := ih (u := { u with errCode := code }) hderived hputs hnodup hsame
      exact htail.skip hcode hcomputed hfresh
    | some text =>
      rw [hcomputed] at hput
      rw [updateVirtual_stored (hstable.trans hput)]
      exact (ih hderived hputs hnodup (hsame.store hsig.param _)).store hcomputed hfresh

end Diffs

section Derivations

variable {clock : Int → Int} {lib : Lib} {status current : Option (List Int)}

/-- The latest response of a package, a list of integers. -/
def Latest (package : Package) (latest : Option (List Int)) (lib : Lib) : Prop :=
  lib.latestResponses package = latest.map (fun items => (Answer.integers items).response)

theorem unpackLatest_none {package : Package} {sig : Signal} (h : Latest package none lib) :
    unpackLatest clock sig package lib = .error .keyError := by
  simp [unpackLatest, show lib.latestResponses package = none from h]

theorem unpackLatest_some {package : Package} {sig : Signal} {items : List Int}
    (h : Latest package (some items) lib) (hregular : sig.Regular)
    (htype : sig.type ≠ .genericText) :
    unpackLatest clock sig package lib = outcome (reference clock (.integers items) sig) := by
  rw [unpackLatest, show lib.latestResponses package = some (Answer.integers items).response from h]
  exact unpackSignal_integers hregular htype items

theorem puts_failed {derive : Lib → Except PyError (Json × Rs232Code)} {code : Rs232Code}
    (h : derive lib = failed code) (hcode : code ≠ .NO_ERR) : Puts derive lib none :=
  ⟨unset, code, h, hcode⟩

/-- The states are compared as texts. -/
theorem battery_texts {k : Nat} (hk : k < 16) :
    (if isAnyOf ["1"] (.str (toString (k : Int))) then found "1"
    else if isAnyOf ["2", "3"] (.str (toString (k : Int))) then found "2"
    else if isAnyOf ["4"] (.str (toString (k : Int))) then found "3"
    else if isAnyOf ["5", "6", "7"] (.str (toString (k : Int))) then found "4"
    else failed .PARTIAL_ERR) =
      ((batteryRemap k).map (fun n => toString n)).elim (failed .PARTIAL_ERR) found := by
  interval_cases k <;> rfl

theorem puts_batteryState (h : Latest .package130 status lib) :
    Puts (updateBatteryState clock) lib (batteryReference status) := by
  have hnone : updateBatteryState clock lib = failed .PARTIAL_ERR →
      Puts (updateBatteryState clock) lib none := fun heq => puts_failed heq (by decide)
  cases status with
  | none =>
    refine hnone ?_
    simp only [updateBatteryState, unpackLatest_none h]
  | some items =>
    have hunpack : unpackLatest clock batteryState .package130 lib =
        outcome (reference clock (.integers items) batteryState) :=
      unpackLatest_some h (by decide) (by decide)
    cases hoctets : batteryState.octets items with
    | none =>
      have href : batteryReference (some items) = none := by simp [batteryReference, hoctets]
      rw [href]
      refine hnone ?_
      simp [updateBatteryState, hunpack, reference, hoctets, outcome]
    | some octets =>
      have hlt : octets.headD 0 % 16 < 16 := Nat.mod_lt _ (by decide)
      have href : batteryReference (some items) =
          (batteryRemap (octets.headD 0 % 16)).map (fun n => toString n) := by
        simp [batteryReference, hoctets]
      have hstate : batteryState.decoded (clock batteryState.param) octets =
          toString ((octets.headD 0 % 16 : Nat) : Int) := by
        simp [Signal.decoded, batteryState, nibble]
      have hupdate : updateBatteryState clock lib =
          (batteryReference (some items)).elim (failed .PARTIAL_ERR) found := by
        rw [href, ← battery_texts hlt]
        simp only [updateBatteryState, hunpack, reference, hoctets, Option.map_some, outcome,
          hstate, ne_eq, not_true, if_false]
      cases hbattery : batteryReference (some items) with
      | none =>
        rw [hbattery] at hupdate
        exact hnone hupdate
      | some text =>
        rw [hbattery] at hupdate
        exact hupdate

theorem take_eq_iff_prefix (name : String) (s : List Char) :
    s.take name.toList.length = name.toList ↔ name.toList <+: s := by
  rw [List.prefix_iff_eq_take, eq_comm]

theorem puts_impulse
    (h : (∃ s, lib.value 4 = .str s) ∨ ∃ items, lib.value 4 = .list items) :
    Puts updateImpulse lib (impulseReference (lib.value 4)) := by
  rcases h with ⟨s, hs⟩ | ⟨items, hitems⟩
  · have hauto : s.toList.take 7 = "AritcoI".toList ↔ "AritcoI".toList <+: s.toList :=
      take_eq_iff_prefix "AritcoI" s.toList
    have hhold : s.toList.take 7 = "AritcoH".toList ↔ "AritcoH".toList <+: s.toList :=
      take_eq_iff_prefix "AritcoH" s.toList
    simp only [impulseReference, hs]
    by_cases hempty : s = ""
    · subst hempty
      have hfailed : updateImpulse lib = failed .PARTIAL_ERR := by simp [updateImpulse, hs]
      exact puts_failed hfailed (by decide)
    · by_cases ha : "AritcoI".toList <+: s.toList
      · rw [if_pos ha]
        simp only [Puts, updateImpulse, hs, if_neg hempty, if_pos (hauto.mpr ha), found]
      · rw [if_neg ha]
        have hna : ¬ s.toList.take 7 = "AritcoI".toList := fun h => ha (hauto.mp h)
        by_cases hh : "AritcoH".toList <+: s.toList
        · rw [if_pos hh]
          simp only [Puts, updateImpulse, hs, if_neg hempty, if_neg hna, if_pos (hhold.mpr hh),
            found]
        · rw [if_neg hh]
          have hnh : ¬ s.toList.take 7 = "AritcoH".toList := fun h => hh (hhold.mp h)
          have hfailed : updateImpulse lib = failed .DATA_ERR := by
            simp only [updateImpulse, hs, if_neg hempty, if_neg hna, if_neg hnh]
          exact puts_failed hfailed (by decide)
  · have hnone : impulseReference (.list items) = none := rfl
    rw [hitems, hnone]
    have hfailed : updateImpulse lib = failed .DATA_ERR := by simp only [updateImpulse, hitems]
    exact puts_failed hfailed (by decide)

/-- What the temperature is put together to: without valid bytes it is zero. -/
def tempComputed (current : Option (List Int)) : Option String :=
  current.map (fun _ => (tempReference current).getD "0")

theorem puts_temp (h : Latest .package134 current lib) :
    Puts (updateTemp clock) lib (tempComputed current) := by
  cases current with
  | none =>
    have hfailed : updateTemp clock lib = failed .PARTIAL_ERR := by
      simp only [updateTemp, unpackLatest_none h]
    exact puts_failed hfailed (by decide)
  | some items =>
    have hunpack : unpackLatest clock temp .package134 lib =
        outcome (reference clock (.integers items) temp) :=
      unpackLatest_some h (by decide) (by decide)
    simp only [Puts, tempComputed, Option.map_some, tempReference, Option.bind_some]
    cases hoctets : temp.octets items with
    | none =>
      simp only [updateTemp, hunpack, reference, hoctets, Option.map_none, outcome]
      rfl
    | some octets =>
      have hstate : temp.decoded (clock temp.param) octets =
          toString ((Nat.ofDigits 256 octets : Nat) : Int) := rfl
      have hint : PyNumber.int (toString ((Nat.ofDigits 256 octets : Nat) : Int)) =
          some ((Nat.ofDigits 256 octets : Nat) : Int) := by
        obtain ⟨hlength, hbytes, -⟩ := octets_some hoctets
        refine PyNumber.int_toString_word ?_
        calc Nat.ofDigits 256 octets < 256 ^ octets.length :=
              Nat.ofDigits_lt_base_pow_length (by decide) hbytes
          _ = 256 ^ 2 := by rw [hlength]; rfl
          _ ≤ 2 ^ 32 := by decide
      have hhundreds : ((Nat.ofDigits 256 octets : Nat) : Int).tdiv 100 =
          (Nat.ofDigits 256 octets / 100 : Nat) := (Int.ofNat_tdiv _ _).symm
      simp only [updateTemp, hunpack, reference, hoctets, Option.map_some, outcome, hstate,
        Json.toInt, hint, found, Option.getD_some, hhundreds]
      rfl

theorem puts_floorLock (lib : Lib) :
    Puts updateFloorLock lib ((joinedLocks lib).map (fun n => toString n)) := by
  cases hjoined : joinedLocks lib with
  | none =>
    have hfailed : updateFloorLock lib = failed .PARTIAL_ERR := by
      rw [joinedLocks] at hjoined
      simp only [updateFloorLock, hjoined]
    exact puts_failed hfailed (by decide)
  | some n =>
    rw [joinedLocks] at hjoined
    simp only [Puts, Option.map_some, updateFloorLock, hjoined, found]

/-- Six bits make the number that has them for its digits. -/
theorem joined_bits : ∀ a b c d e f : Bool, PyNumber.intBin (String.join
    ([f, e, d, c, b, a].map (fun bit => if bit then "1" else "0"))) =
      some (Nat.ofDigits 2 ([a, b, c, d, e, f].map Bool.toNat) : Nat) := by
  decide +kernel

theorem lockBit_some {v : Json} {n : Nat} (h : lockBit v = some n) :
    ∃ bit : Bool, v.text = some (if bit then "1" else "0") ∧ n = bit.toNat := by
  unfold lockBit at h
  split at h
  · rename_i htext
    cases h
    exact ⟨false, htext, rfl⟩
  · split at h
    · rename_i htext
      cases h
      exact ⟨true, htext, rfl⟩
    · cases h

/-- Six valid locks are joined to their number. -/
theorem joinedLocks_of_reference {text : String} (h : floorLockReference lib = some text) :
    ∃ n, joinedLocks lib = some n ∧ text = toString n := by
  obtain ⟨bits, hbits, rfl⟩ := Option.map_eq_some_iff.mp h
  simp only [List.mapM_cons, List.mapM_nil, bind, pure, Option.bind_eq_some_iff,
    Option.some.injEq] at hbits
  obtain ⟨a, ha, _, ⟨b, hb, _, ⟨c, hc, _, ⟨d, hd, _, ⟨e, he, _, ⟨f, hf, _, rfl, rfl⟩, rfl⟩, rfl⟩,
    rfl⟩, rfl⟩, rfl⟩ := hbits
  obtain ⟨a, hta, rfl⟩ := lockBit_some ha
  obtain ⟨b, htb, rfl⟩ := lockBit_some hb
  obtain ⟨c, htc, rfl⟩ := lockBit_some hc
  obtain ⟨d, htd, rfl⟩ := lockBit_some hd
  obtain ⟨e, hte, rfl⟩ := lockBit_some he
  obtain ⟨f, htf, rfl⟩ := lockBit_some hf
  have hjoined : joinedLocks lib =
      some (Nat.ofDigits 2 ([a, b, c, d, e, f].map Bool.toNat) : Nat) := by
    rw [← joined_bits a b c d e f]
    simp only [joinedLocks, List.mapM_cons, List.mapM_nil, hta, htb, htc, htd, hte, htf, bind, pure,
      Option.bind_some, List.map_cons, List.map_nil]
  exact ⟨_, hjoined, rfl⟩

end Derivations

section Claim

variable {clock : Int → Int} {lib : Lib} {status current : Option (List Int)}

def deriveVirtual (clock : Int → Int) (sig : Signal) : Lib → Except PyError (Json × Rs232Code) :=
  if sig = batteryState then updateBatteryState clock
  else if sig = impulse then updateImpulse
  else if sig = temp then updateTemp clock
  else updateFloorLock

/-- What the virtual signals are put together to, valid or not. -/
def virtualComputed (status current : Option (List Int)) (lib : Lib) (sig : Signal) :
    Option String :=
  if sig = batteryState then batteryReference status
  else if sig = impulse then impulseReference (lib.value 4)
  else if sig = temp then tempComputed current
  else (joinedLocks lib).map (fun n => toString n)

theorem paramsVirtual_derive (clock : Int → Int) : paramsVirtual clock =
    virtualSignals.map (fun sig => (sig.param, deriveVirtual clock sig)) := rfl

theorem virtualSignals_nodup : (virtualSignals.map (fun sig => sig.param)).Nodup := by decide

theorem forall_virtualSignals {P : Signal → Prop} (hbattery : P batteryState) (himpulse : P impulse)
    (htemp : P temp) (hfloor : P floorLock) : ∀ sig ∈ virtualSignals, P sig := by
  simp only [virtualSignals, List.forall_mem_cons]
  exact ⟨hbattery, himpulse, htemp, hfloor, by simp⟩

theorem updateVirtualSignals_computed (h130 : Latest .package130 status lib)
    (h134 : Latest .package134 current lib)
    (hprog : (∃ s, lib.value 4 = .str s) ∨ ∃ items, lib.value 4 = .list items) :
    ExactDiff (virtualComputed status current lib) virtualSignals lib
      (updateVirtualSignals clock lib) := by
  have hderived : ∀ sig ∈ virtualSignals,
      Derived virtualParams (sig.param, deriveVirtual clock sig) := by
    intro sig hsig
    have hmem : (sig.param, deriveVirtual clock sig) ∈ paramsVirtual clock := by
      rw [paramsVirtual_derive]
      exact List.mem_map_of_mem hsig
    exact derived_paramsVirtual _ hmem
  have hputs : ∀ sig ∈ virtualSignals,
      Puts (deriveVirtual clock sig) lib (virtualComputed status current lib sig) :=
    forall_virtualSignals (puts_batteryState h130) (puts_impulse hprog) (puts_temp h134)
      (puts_floorLock lib)
  have hlooped := updateVirtual_looped hderived hputs virtualSignals_nodup (u := .start lib)
    ⟨rfl, fun _ _ => rfl⟩
  rw [← paramsVirtual_derive] at hlooped
  exact hlooped.exact virtualSignals_nodup rfl

/-- What is no text and no list has no prefix to look at. -/
theorem updateVirtualSignals_raises (h130 : Latest .package130 status lib)
    (hprog : ¬ ((∃ s, lib.value 4 = .str s) ∨ ∃ items, lib.value 4 = .list items)) :
    (updateVirtualSignals clock lib).error ≠ none := by
  have himpulse : ∀ lib' : Lib, lib'.value 4 = lib.value 4 →
      ∃ e, updateImpulse lib' = .error e := by
    intro lib' hvalue
    rw [updateImpulse, hvalue]
    cases hv : lib.value 4 with
    | str s => exact absurd (.inl ⟨s, hv⟩) hprog
    | list items => exact absurd (.inr ⟨items, hv⟩) hprog
    | _ => exact ⟨_, rfl⟩
  have hraised : ∀ u : Update, u.lib.value 4 = lib.value 4 →
      (updateVirtual ((paramsVirtual clock).drop 1) u).error ≠ none := by
    intro u hvalue
    obtain ⟨e, he⟩ := himpulse u.lib hvalue
    have hstep : updateVirtual ((paramsVirtual clock).drop 1) u = { u with error := some e } :=
      updateVirtual_raised he
    rw [hstep]
    exact Option.some_ne_none e
  have hputs : Puts (updateBatteryState clock) lib (batteryReference status) :=
    puts_batteryState h130
  cases hbattery : batteryReference status with
  | none =>
    rw [hbattery] at hputs
    obtain ⟨v, code, hv, hcode⟩ := hputs
    have hstep : updateVirtualSignals clock lib = updateVirtual ((paramsVirtual clock).drop 1)
        { Update.start lib with errCode := code } := updateVirtual_skipped hv hcode
    rw [hstep]
    exact hraised _ rfl
  | some text =>
    rw [hbattery] at hputs
    have hstep : updateVirtualSignals clock lib = updateVirtual ((paramsVirtual clock).drop 1)
        ((Update.start lib).store batteryState.param (.str text)) := updateVirtual_stored hputs
    rw [hstep]
    exact hraised _ ((within_store _ _ (Update.start lib)).frame 4 (by decide))

/-- A source that is noticed makes a computation fail. -/
theorem noticed_iff : (∃ sig ∈ virtualSignals, virtualComputed status current lib sig = none) ↔
    Noticed status current lib := by
  simp only [virtualSignals, List.exists_mem_cons_iff, List.not_mem_nil, false_and, exists_false,
    or_false]
  have htemp : tempComputed current = none ↔ current = none := by simp [tempComputed]
  have hfloor : (joinedLocks lib).map (fun n => toString n) = none ↔ joinedLocks lib = none := by
    simp
  rw [Noticed, ← htemp, ← hfloor]
  rfl

/-- The virtual signals are updated from valid sources exactly if no source is invalid without
being noticed. -/
theorem updateVirtualSignals_iff (clock : Int → Int) (h130 : Latest .package130 status lib)
    (h134 : Latest .package134 current lib) :
    ExactDiff (virtualReference status current lib) virtualSignals lib
        (updateVirtualSignals clock lib) ↔ SoundSources status current lib := by
  by_cases hprog : (∃ s, lib.value 4 = .str s) ∨ ∃ items, lib.value 4 = .list items
  · have hcomputed : ExactDiff (virtualComputed status current lib) virtualSignals lib
        (updateVirtualSignals clock lib) := updateVirtualSignals_computed h130 h134 hprog
    have htemp : tempReference current = none ∨ tempReference current = tempComputed current := by
      cases hreference : tempReference current with
      | none => exact .inl rfl
      | some text =>
        cases current with
        | none => cases hreference
        | some items => simp [tempComputed, hreference]
    have hfloor : floorLockReference lib = none ∨
        floorLockReference lib = (joinedLocks lib).map (fun n => toString n) := by
      cases hreference : floorLockReference lib with
      | none => exact .inl rfl
      | some text =>
        obtain ⟨n, hn, rfl⟩ := joinedLocks_of_reference hreference
        exact .inr (by rw [hn]; rfl)
    have hsub : ∀ sig ∈ virtualSignals, virtualReference status current lib sig = none ∨
        virtualReference status current lib sig = virtualComputed status current lib sig :=
      forall_virtualSignals (.inr rfl) (.inr rfl) htemp hfloor
    rw [exactDiff_iff virtualSignals_nodup hcomputed hsub, noticed_iff]
    constructor
    · intro h
      refine ⟨hprog, ?_, ?_⟩
      · rintro items rfl hoctets
        have hnone : tempReference (some items) = none := by simp [tempReference, hoctets]
        have hzero : tempComputed (some items) = some "0" := by simp [tempComputed, hnone]
        exact h temp (by decide) "0" hzero hnone
      · intro n hn hnone
        have hjoined : (joinedLocks lib).map (fun n => toString n) = some (toString n) := by
          rw [hn]
          rfl
        exact h floorLock (by decide) (toString n) hjoined hnone
    · intro h
      -- the first two are computed as they are referred to
      have hsame : ∀ {x : Option String} {text : String} {P : Prop},
          x = some text → x = none → P := by
        intro x text P hsome hnone
        rw [hsome] at hnone
        cases hnone
      refine forall_virtualSignals (fun text => hsame) (fun text => hsame) ?_ ?_
      · intro text htext hnone
        cases current with
        | none => cases htext
        | some items =>
          have hoctets : temp.octets items = none := Option.map_eq_none_iff.mp hnone
          have hreference : tempReference (some items) = none := hnone
          have hzero : tempComputed (some items) = some "0" := by simp [tempComputed, hreference]
          cases hzero.symm.trans htext
          exact h.temp items rfl hoctets
      · intro text htext hnone
        obtain ⟨n, hn, rfl⟩ := Option.map_eq_some_iff.mp htext
        exact h.floorLock n hn hnone
  · refine iff_of_false (fun h => updateVirtualSignals_raises h130 hprog h.error) ?_
    exact fun h => hprog h.progName

/-- The status package has been received, the others have not. -/
def statusOnly : Lib := Lib.fresh.remember .package130 (.list [.int 5])

/-- The battery state is taken over, and nothing else changes. -/
theorem updateVirtualSignals_iff_status :
    ExactDiff (virtualReference (some [5]) none statusOnly) virtualSignals statusOnly
      (updateVirtualSignals (fun _ => 0) statusOnly) := by
  have h130 : Latest .package130 (some [5]) statusOnly := rfl
  have h134 : Latest .package134 none statusOnly := rfl
  refine (updateVirtualSignals_iff (fun _ => 0) h130 h134).mpr ⟨.inl ⟨"", rfl⟩, ?_, ?_⟩
  · intro items hitems
    cases hitems
  · intro n hn
    have hnone : joinedLocks statusOnly = none := rfl
    rw [hnone] at hn
    cases hn

/-- A package 134 without a byte in it makes the temperature zero. -/
theorem not_always_sound : ¬ ∀ (clock : Int → Int) (lib : Lib) (status current : Option (List Int)),
    Latest .package130 status lib → Latest .package134 current lib →
      ExactDiff (virtualReference status current lib) virtualSignals lib
        (updateVirtualSignals clock lib) := by
  intro hall
  have h := hall (fun _ => 0) (getUpdatedParams (fun _ => 0) .package134 (.list []) Lib.fresh).lib
    none (some []) rfl rfl
  have hkept := h.frame temp.param
    (forall_virtualSignals (by decide) (by decide) (fun _ => rfl) (by decide))
  have hzero : (updateVirtualSignals (fun _ => 0)
      (getUpdatedParams (fun _ => 0) .package134 (.list []) Lib.fresh).lib).lib.value temp.param =
        .str "0" := rfl
  rw [hzero] at hkept
  have htext : "0" = "" := Json.str.inj hkept
  exact absurd htext (by decide)

end Claim

end NexyGateway.ThousandLib
