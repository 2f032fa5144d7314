import NexyGateway.DoorCounters

/-!
# Counter files that fail

The two counter files are written one after the other, and each write may fail on its
own. What further readings make of the files that are left is decided door by door.
-/
namespace NexyGateway.CounterWrites

open PyJson ThousandLib DoorCounters Runs

/-! ### One door -/

/-- What is carried over from before the lift's last restart. -/
def carryOver (total previous r : Int) : Int := if r + previous < total then total else previous

/-- A total and a previous counter that no further reading counts twice. -/
def Safe (rs : List Int) (total previous : Int) : Prop :=
  previous ≤ carried rs ∧ (total ≤ carried rs ∨ total ≤ rs.getLastD 0 + previous)

theorem carried_le_concat {rs : List Int} (h : 0 ≤ rs.getLastD 0) (r : Int) :
    carried rs ≤ carried (rs ++ [r]) := by
  rw [carried_concat]
  split <;> omega

/-- A reading that has fallen adds the one before it. -/
theorem safe_total {rs : List Int} {total previous r : Int} (hlast : 0 ≤ rs.getLastD 0)
    (h : Safe rs total previous) :
    total ≤ carried (rs ++ [r]) ∨ total ≤ r + previous := by
  obtain ⟨hprevious, htotal⟩ := h
  rw [carried_concat]
  split <;> omega

theorem Safe.concat {rs : List Int} {total previous : Int} (hlast : 0 ≤ rs.getLastD 0)
    (h : Safe rs total previous) (r : Int) : Safe (rs ++ [r]) total previous := by
  refine ⟨Int.le_trans h.1 (carried_le_concat hlast r), ?_⟩
  rw [List.getLastD_concat]
  exact safe_total hlast h

theorem Safe.carryOver_le {rs : List Int} {total previous : Int} (hlast : 0 ≤ rs.getLastD 0)
    (h : Safe rs total previous) (r : Int) : carryOver total previous r ≤ carried (rs ++ [r]) := by
  have hprevious := Int.le_trans h.1 (carried_le_concat hlast r)
  have htotal := safe_total (r := r) hlast h
  unfold carryOver
  split <;> omega

/-- Counters that are not safe are found out as soon as a reading comes again. -/
theorem lt_carryOver_of_not_safe {rs : List Int} {total previous : Int} (hlast : 0 ≤ rs.getLastD 0)
    (h : ¬ Safe rs total previous) :
    carried (rs ++ [rs.getLastD 0]) < carryOver total previous (rs.getLastD 0) := by
  rw [carried_concat, if_neg (by omega)]
  unfold Safe at h
  unfold carryOver
  split <;> omega

theorem le_carryOver {total previous r : Int} (h : 0 ≤ r) :
    previous ≤ carryOver total previous r := by
  unfold carryOver
  split <;> omega

theorem count_carryOver (lib : Lib) (i : Nat) (r : Int) :
    (lib.count i r).previousOpenDoorCounters i =
        carryOver (lib.totalOpenDoorCounters i) (lib.previousOpenDoorCounters i) r ∧
      (lib.count i r).totalOpenDoorCounters i =
        r + carryOver (lib.totalOpenDoorCounters i) (lib.previousOpenDoorCounters i) r := by
  simp [Lib.count, carryOver]

/-! ### Moves with writes that may fail -/

inductive Move where
  | poll (reading : Reading) (total previous : Write)
  /-- The process ends in the middle of a poll, behind or within one of its writes. -/
  | crash (reading : Reading) (total previous : Write)
  | restart

/-- The counters that a poll starts from. -/
def loaded (g : Gateway) : Lib := Rs232Handler.loadCounters g.files.counters g.lib

def poll (clock : Int → Int) (reading : Reading) (total previous : Write) (g : Gateway) :
    Gateway :=
  let (u, files) := getUpdatedOpenDoorCounterParameters clock total previous reading.response
    g.files (loaded g)
  ⟨u.lib, files⟩

/-- A gateway and the readings that each of its doors has had, oldest first. -/
structure Observed where
  rs : Nat → List Int
  gateway : Gateway

def started : Observed := ⟨fun _ => [], ⟨Lib.fresh, {}⟩⟩

def move (clock : Int → Int) (s : Observed) : Move → Option Observed
  | .poll reading total previous =>
    some ⟨extended s.rs reading, poll clock reading total previous s.gateway⟩
  | .crash reading total previous =>
    some ⟨extended s.rs reading,
      { poll clock reading total previous s.gateway with lib := Lib.fresh }⟩
  | .restart => some ⟨s.rs, { s.gateway with lib := Lib.fresh }⟩

theorem poll_written (clock : Int → Int) (reading : Reading) (g : Gateway) :
    poll clock reading .written .written g = g.poll clock reading := by
  rfl

/-- No door is reported with more openings than its readings account for. -/
def NotOvercounted (s : Observed) : Prop :=
  ∀ i sig, paramsDoorOpenCount[i]? = some sig →
    s.gateway.lib.totalOpenDoorCounters i ≤ total (s.rs i) ∧
      ∀ n, s.gateway.lib.value sig.param = .int n → n ≤ total (s.rs i)

/-! ### What a poll leaves -/

/-- What is carried over for a door with this reading. -/
def carriedOver (g : Gateway) (reading : Reading) (i : Nat) : Int :=
  carryOver ((loaded g).totalOpenDoorCounters i) ((loaded g).previousOpenDoorCounters i)
    (reading.count i)

/-- The reading of some door has fallen behind what has been counted. -/
def Fallen (g : Gateway) (reading : Reading) : Prop :=
  ∃ i < 6, reading.count i + (loaded g).previousOpenDoorCounters i <
    (loaded g).totalOpenDoorCounters i

theorem counterOf_leave (f : Nat → Int) (old : Option (List Json)) (w : Write) {i : Nat}
    (hi : i < 6) :
    counterOf (readOpenDoorCounterFromFile (w.leave (listed f) old)) i =
      w.left (f i) (counterOf (readOpenDoorCounterFromFile old) i) := by
  cases w with
  | written => exact counterOf_listed f hi
  | kept err => rfl
  | emptied =>
    exact counterOf_listed (fun _ => 0) hi

/-- Memory and files after a poll, door by door. -/
structure Polled (g : Gateway) (reading : Reading) (w w' : Write) (g' : Gateway) : Prop where
  total : ∀ i < 6, g'.lib.totalOpenDoorCounters i = reading.count i + carriedOver g reading i
  previous : ∀ i < 6, g'.lib.previousOpenDoorCounters i = carriedOver g reading i
  flag : g'.lib.resetSavedOpenDoorCounter = true ↔ Fallen g reading
  value : ∀ i sig, paramsDoorOpenCount[i]? = some sig →
    g'.lib.value sig.param = .int (g'.lib.totalOpenDoorCounters i)
  totalFile : ∀ i < 6, g'.files.counters.total i =
    w.left (reading.count i + carriedOver g reading i) (g.files.counters.total i)
  fallenFile : Fallen g reading → ∀ i < 6, g'.files.counters.previous i =
    w'.left (carriedOver g reading i) (g.files.counters.previous i)
  steadyFile : ¬ Fallen g reading → g'.files.previous = g.files.previous

theorem loaded_flag (g : Gateway) : (loaded g).resetSavedOpenDoorCounter = false := by
  unfold loaded Rs232Handler.loadCounters
  split
  · rfl
  · next hflag => simpa using hflag

theorem loaded_value (g : Gateway) : (loaded g).value = g.lib.value := loadCounters_value _ _

/-- What the poll keeps of counters that have all been unpacked. -/
theorem poll_kept {u : Update} (total previous : Write)
    (hu : doorOpenCountRecalculate clock reading.response (loaded g) = u) (herror : u.error = none)
    (hcode : u.errCode = .NO_ERR) (hvalue : ∀ i sig, paramsDoorOpenCount[i]? = some sig →
      u.lib.value sig.param = .int (u.lib.totalOpenDoorCounters i)) :
    (poll clock reading total previous g).lib = u.lib ∧
      (poll clock reading total previous g).files.total =
        total.leave (listed u.lib.totalOpenDoorCounters) g.files.total ∧
      (poll clock reading total previous g).files.previous =
        if u.lib.resetSavedOpenDoorCounter = true then
          previous.leave (listed u.lib.previousOpenDoorCounters) g.files.previous
        else g.files.previous := by
  have htotal : paramsDoorOpenCount.map (fun sig => u.lib.value sig.param) =
      listed u.lib.totalOpenDoorCounters := map_eq_listed params_door_length hvalue
  have hprevious : (List.range 6).map (fun i => Json.int (u.lib.previousOpenDoorCounters i)) =
      listed u.lib.previousOpenDoorCounters := rfl
  simp only [poll, getUpdatedOpenDoorCounterParameters, hu, herror, hcode, htotal, hprevious]
  cases u.lib.resetSavedOpenDoorCounter <;> exact ⟨rfl, rfl, rfl⟩

theorem poll_polled (clock : Int → Int) (reading : Reading) (total previous : Write) {g : Gateway}
    (hplain : ∀ sig ∈ paramsDoorOpenCount, IsPlain (g.lib.value sig.param)) :
    Polled g reading total previous (poll clock reading total previous g) := by
  have hloaded : ∀ sig ∈ paramsDoorOpenCount, IsPlain ((loaded g).value sig.param) := by
    rw [loaded_value]
    exact hplain
  have h := reading_recalculated clock reading hloaded
  generalize hu : doorOpenCountRecalculate clock reading.response (loaded g) = u at h
  have hvalue : ∀ i sig, paramsDoorOpenCount[i]? = some sig →
      u.lib.value sig.param = .int (u.lib.totalOpenDoorCounters i) := by
    intro i sig hi
    have := h.value i sig hi
    rwa [Nat.zero_add] at this
  have hcounted : ∀ i < 6, u.lib.previousOpenDoorCounters i = carriedOver g reading i ∧
      u.lib.totalOpenDoorCounters i = reading.count i + carriedOver g reading i := by
    intro i hi
    have hrange : 0 ≤ i ∧ i < 0 + paramsDoorOpenCount.length := by
      rw [params_door_length]
      omega
    rw [h.counted.total i, h.counted.previous i, if_pos hrange, if_pos hrange]
    exact count_carryOver (loaded g) i (reading.count i)
  have hflag : u.lib.resetSavedOpenDoorCounter = true ↔ Fallen g reading := by
    rw [h.counted.flag]
    simp only [Update.start, loaded_flag, params_door_length, Nat.zero_add, Nat.zero_le, true_and,
      reduceCtorEq, false_or]
    rfl
  obtain ⟨hlib, htotalFile, hpreviousFile⟩ := poll_kept total previous hu h.error h.errCode hvalue
  constructor
  · intro i hi
    rw [hlib]
    exact (hcounted i hi).2
  · intro i hi
    rw [hlib]
    exact (hcounted i hi).1
  · rw [hlib]
    exact hflag
  · rw [hlib]
    exact hvalue
  · intro i hi
    rw [← (hcounted i hi).2]
    simp only [Files.counters, htotalFile]
    exact counterOf_leave _ _ _ hi
  · intro hfallen i hi
    rw [← (hcounted i hi).1]
    simp only [Files.counters, hpreviousFile, if_pos (hflag.mpr hfallen)]
    exact counterOf_leave _ _ _ hi
  · intro hsteady
    rw [hpreviousFile, if_neg (mt hflag.mp hsteady)]

/-! ### Guarded runs -/

/-- A poll with a fallen counter leaves files for a door that it cannot be counted twice from:
a total that is left without its previous counter is covered by what was carried over before,
or the new reading comes up to it. -/
def Survives (carried r brought total previous : Int) : Write → Write → Prop
  | .written, .written => True
  | .written, .kept _ => r + brought ≤ carried ∨ brought ≤ previous
  | .written, .emptied => r + brought ≤ carried ∨ brought ≤ 0
  | .kept _, .written => True
  | .kept _, .kept _ => True
  | .kept _, .emptied => total ≤ carried ∨ total ≤ r
  | .emptied, _ => True

/-- The outcomes of the writes of a poll, where some counter has fallen. -/
def Guarded (rs : Nat → List Int) (g : Gateway) (reading : Reading) (w w' : Write) : Prop :=
  Fallen g reading → ∀ i < 6, Survives (carried (extended rs reading i)) (reading.count i)
    (carriedOver g reading i) (g.files.counters.total i) (g.files.counters.previous i) w w'

def GuardedMove (s : Observed) : Move → Prop
  | .poll reading w w' => Guarded s.rs s.gateway reading w w'
  | .crash reading w w' => Guarded s.rs s.gateway reading w w'
  | .restart => True

/-- The invariant between polls: memory agrees with the previous counters in the file unless it
is loaded anew, and no file is counted twice. -/
structure Covered (rs : Nat → List Int) (g : Gateway) : Prop where
  last : ∀ i < 6, 0 ≤ (rs i).getLastD 0
  safe : ∀ i < 6, Safe (rs i) (g.files.counters.total i) (g.files.counters.previous i)
  nonneg : ∀ i < 6, 0 ≤ g.files.counters.previous i
  memory : g.lib.resetSavedOpenDoorCounter = false → ∀ i < 6,
    g.lib.previousOpenDoorCounters i = g.files.counters.previous i ∧
      g.lib.totalOpenDoorCounters i = (rs i).getLastD 0 + g.files.counters.previous i
  plain : ∀ sig ∈ paramsDoorOpenCount, IsPlain (g.lib.value sig.param)
  reported : NotOvercounted ⟨rs, g⟩

theorem loaded_files {g : Gateway} (h : g.lib.resetSavedOpenDoorCounter = true) (i : Nat) :
    (loaded g).totalOpenDoorCounters i = g.files.counters.total i ∧
      (loaded g).previousOpenDoorCounters i = g.files.counters.previous i := by
  rw [loaded, Rs232Handler.loadCounters, if_pos h]
  exact ⟨rfl, rfl⟩

/-- A poll starts from counters that are safe too. -/
theorem Covered.loaded {rs : Nat → List Int} {g : Gateway} (h : Covered rs g) {i : Nat}
    (hi : i < 6) :
    (CounterWrites.loaded g).previousOpenDoorCounters i = g.files.counters.previous i ∧
      Safe (rs i) ((CounterWrites.loaded g).totalOpenDoorCounters i)
        (g.files.counters.previous i) := by
  have hsafe := h.safe i hi
  cases hflag : g.lib.resetSavedOpenDoorCounter with
  | true =>
    obtain ⟨htotal, hprevious⟩ := loaded_files hflag i
    exact ⟨hprevious, htotal ▸ hsafe⟩
  | false =>
    obtain ⟨hprevious, htotal⟩ := h.memory hflag i hi
    have hlib : CounterWrites.loaded g = g.lib := by
      rw [CounterWrites.loaded, Rs232Handler.loadCounters, if_neg (by simp [hflag])]
    rw [hlib, htotal]
    exact ⟨hprevious, hsafe.1, Or.inr (Int.le_refl _)⟩

/-- What is carried over lies between the previous counter in the file and the true one. -/
theorem Covered.carryOver_le {rs : Nat → List Int} {g : Gateway} (h : Covered rs g)
    (reading : Reading) {i : Nat} (hi : i < 6) :
    g.files.counters.previous i ≤ carriedOver g reading i ∧
      carriedOver g reading i ≤ carried (extended rs reading i) := by
  obtain ⟨hprevious, hsafe⟩ := h.loaded hi
  rw [carriedOver, hprevious]
  exact ⟨le_carryOver (reading.nonneg i hi), hsafe.carryOver_le (h.last i hi) (reading.count i)⟩

theorem carryOver_steady {rs : Nat → List Int} {g : Gateway} (h : Covered rs g) {reading : Reading}
    (hsteady : ¬ Fallen g reading) {i : Nat} (hi : i < 6) :
    carriedOver g reading i = g.files.counters.previous i := by
  obtain ⟨hprevious, -⟩ := h.loaded hi
  have hnot : ¬ reading.count i + (loaded g).previousOpenDoorCounters i <
      (loaded g).totalOpenDoorCounters i := fun hfall => hsteady ⟨i, hi, hfall⟩
  rw [carriedOver, carryOver, if_neg hnot, hprevious]

/-- The condition on one door is that its files are safe. -/
theorem survives_iff {rs : Nat → List Int} {g : Gateway} (h : Covered rs g) (reading : Reading)
    {i : Nat} (hi : i < 6) (w w' : Write) :
    Survives (carried (extended rs reading i)) (reading.count i) (carriedOver g reading i)
        (g.files.counters.total i) (g.files.counters.previous i) w w' ↔
      Safe (extended rs reading i)
        (w.left (reading.count i + carriedOver g reading i) (g.files.counters.total i))
        (w'.left (carriedOver g reading i) (g.files.counters.previous i)) := by
  obtain ⟨hle, hover⟩ := h.carryOver_le reading hi
  have hnonneg := h.nonneg i hi
  have hreading := reading.nonneg i hi
  have hkept := safe_total (r := reading.count i) (h.last i hi) (h.safe i hi)
  change _ ≤ carried (extended rs reading i) ∨ _ at hkept
  have hlast : (extended rs reading i).getLastD 0 = reading.count i := List.getLastD_concat
  unfold Safe
  rw [hlast]
  cases w <;> cases w' <;> simp only [Survives, Write.left, true_iff] <;> omega

/-- The files that a guarded poll leaves. -/
theorem poll_files {rs : Nat → List Int} {g g' : Gateway} {reading : Reading} {w w' : Write}
    (h : Covered rs g) (hpoll : Polled g reading w w' g') (hguarded : Guarded rs g reading w w')
    {i : Nat} (hi : i < 6) :
    Safe (extended rs reading i) (g'.files.counters.total i) (g'.files.counters.previous i) ∧
      0 ≤ g'.files.counters.previous i := by
  obtain ⟨hle, hover⟩ := h.carryOver_le reading hi
  have hnonneg := h.nonneg i hi
  by_cases hfallen : Fallen g reading
  · rw [hpoll.totalFile i hi, hpoll.fallenFile hfallen i hi]
    refine ⟨(survives_iff h reading hi w w').mp (hguarded hfallen i hi), ?_⟩
    cases w' <;> simp only [Write.left] <;> omega
  · have hprevious : g'.files.counters.previous i = g.files.counters.previous i := by
      simp only [Files.counters, hpoll.steadyFile hfallen]
    rw [hpoll.totalFile i hi, hprevious, carryOver_steady h hfallen hi]
    have hkept : Safe (extended rs reading i) (g.files.counters.total i)
        (g.files.counters.previous i) := (h.safe i hi).concat (h.last i hi) _
    have hlast : (extended rs reading i).getLastD 0 = reading.count i := List.getLastD_concat
    have hreading := reading.nonneg i hi
    refine ⟨?_, hnonneg⟩
    cases w with
    | written => exact ⟨hkept.1, Or.inr (Int.le_of_eq (by rw [hlast, Write.left]))⟩
    | kept err => exact hkept
    | emptied => exact ⟨hkept.1, Or.inr (by rw [hlast, Write.left]; omega)⟩

theorem total_extended (rs : Nat → List Int) (reading : Reading) (i : Nat) :
    total (extended rs reading i) = reading.count i + carried (extended rs reading i) := by
  rw [total, extended, List.getLastD_concat]

theorem poll_covered (clock : Int → Int) {rs : Nat → List Int} {g : Gateway} (h : Covered rs g)
    {reading : Reading} {w w' : Write} (hguarded : Guarded rs g reading w w') :
    Covered (extended rs reading) (poll clock reading w w' g) := by
  have hpoll := poll_polled clock reading w w' h.plain
  constructor
  · intro i hi
    rw [extended, List.getLastD_concat]
    exact reading.nonneg i hi
  · intro i hi
    exact (poll_files h hpoll hguarded hi).1
  · intro i hi
    exact (poll_files h hpoll hguarded hi).2
  · intro hflag i hi
    have hsteady : ¬ Fallen g reading := by
      rw [← hpoll.flag, hflag]
      simp
    have hfile : (poll clock reading w w' g).files.counters.previous i =
        g.files.counters.previous i := by
      simp only [Files.counters, hpoll.steadyFile hsteady]
    rw [hpoll.previous i hi, hpoll.total i hi, carryOver_steady h hsteady hi, hfile, extended,
      List.getLastD_concat]
    exact ⟨rfl, rfl⟩
  · intro sig hsig
    obtain ⟨i, hi⟩ := List.mem_iff_getElem?.mp hsig
    exact Or.inr ⟨_, hpoll.value i sig hi⟩
  · intro i sig hsig
    have hi := (doorOpenCount_layout hsig).1
    have hle : (poll clock reading w w' g).lib.totalOpenDoorCounters i ≤
        total (extended rs reading i) := by
      rw [hpoll.total i hi, total_extended]
      exact Int.add_le_add_left (h.carryOver_le reading hi).2 _
    refine ⟨hle, fun n hn => ?_⟩
    rw [hpoll.value i sig hsig] at hn
    cases hn
    exact hle

/-- A new process has reported nothing yet. -/
theorem Covered.restart {rs : Nat → List Int} {g : Gateway} (h : Covered rs g) :
    Covered rs { g with lib := Lib.fresh } where
  last := h.last
  safe := h.safe
  nonneg := h.nonneg
  memory hflag := by cases hflag
  plain _ _ := Or.inl ⟨"", rfl⟩
  reported i sig hsig := by
    have hi := (doorOpenCount_layout hsig).1
    have hprevious := (h.safe i hi).1
    have hnonneg := h.nonneg i hi
    have hlast := h.last i hi
    refine ⟨?_, fun n hn => by cases hn⟩
    change 0 ≤ total (rs i)
    rw [total]
    omega

theorem started_covered : Covered started.rs started.gateway where
  last _ _ := Int.le_refl 0
  safe i hi := ⟨Int.le_of_eq (counterOf_listed (fun _ => 0) hi),
    Or.inl (Int.le_of_eq (counterOf_listed (fun _ => 0) hi))⟩
  nonneg i hi := Int.le_of_eq (counterOf_listed (fun _ => 0) hi).symm
  memory hflag := by cases hflag
  plain _ _ := Or.inl ⟨"", rfl⟩
  reported _ _ _ := ⟨Int.le_refl 0, fun n hn => by cases hn⟩

theorem move_covered (clock : Int → Int) (s : Observed) (m : Move) (s' : Observed)
    (h : Covered s.rs s.gateway) (hguarded : GuardedMove s m) (hmove : move clock s m = some s') :
    Covered s'.rs s'.gateway := by
  cases m with
  | poll reading w w' =>
    cases hmove
    exact poll_covered clock h hguarded
  | crash reading w w' =>
    cases hmove
    exact (poll_covered clock h hguarded).restart
  | restart =>
    cases hmove
    exact h.restart

/-- Files that are not safe are counted twice when the same reading comes again. -/
theorem poll_overcounted (clock : Int → Int) {s : Observed} {reading : Reading} {i : Nat}
    (hi : i < 6) (hlast : (s.rs i).getLastD 0 = reading.count i)
    (hflag : s.gateway.lib.resetSavedOpenDoorCounter = true)
    (hplain : ∀ sig ∈ paramsDoorOpenCount, IsPlain (s.gateway.lib.value sig.param))
    (hlost : ¬ Safe (s.rs i) (s.gateway.files.counters.total i)
      (s.gateway.files.counters.previous i)) :
    ¬ NotOvercounted ⟨extended s.rs reading, poll clock reading .written .written s.gateway⟩ := by
  intro h
  have hpoll := poll_polled clock reading .written .written hplain
  have hsig : paramsDoorOpenCount[i]? = some paramsDoorOpenCount[i] :=
    List.getElem?_eq_getElem hi
  have hle := (h i _ hsig).1
  have hlt := lt_carryOver_of_not_safe (by rw [hlast]; exact reading.nonneg i hi) hlost
  obtain ⟨htotal, hprevious⟩ := loaded_files hflag i
  change (poll clock reading .written .written s.gateway).lib.totalOpenDoorCounters i ≤
    total (extended s.rs reading i) at hle
  rw [hpoll.total i hi, total_extended, carriedOver, htotal, hprevious, extended] at hle
  rw [hlast] at hlt
  omega

/-- The first move that is not guarded leaves files that are counted twice. -/
theorem unguarded_overcounted (clock : Int → Int) {s : Observed} (h : Covered s.rs s.gateway)
    {m : Move} (hm : ¬ GuardedMove s m) : ∃ reading s' s'', move clock s m = some s' ∧
      move clock s' (.poll reading .written .written) = some s'' ∧ ¬ NotOvercounted s'' := by
  have hfiles : ∀ reading w w', ¬ Guarded s.rs s.gateway reading w w' →
      Fallen s.gateway reading ∧ ∃ i < 6, ¬ Safe (extended s.rs reading i)
        ((poll clock reading w w' s.gateway).files.counters.total i)
        ((poll clock reading w w' s.gateway).files.counters.previous i) := by
    intro reading w w' hnot
    have hpoll := poll_polled clock reading w w' h.plain
    simp only [Guarded, Classical.not_imp, not_forall] at hnot
    obtain ⟨hfallen, i, hi, hdoor⟩ := hnot
    refine ⟨hfallen, i, hi, ?_⟩
    rw [hpoll.totalFile i hi, hpoll.fallenFile hfallen i hi]
    exact fun hsafe => hdoor ((survives_iff h reading hi w w').mpr hsafe)
  have hlast : ∀ (reading : Reading) i, (extended s.rs reading i).getLastD 0 = reading.count i :=
    fun reading i => List.getLastD_concat
  cases m with
  | poll reading w w' =>
    obtain ⟨hfallen, i, hi, hlost⟩ := hfiles reading w w' hm
    have hpoll := poll_polled clock reading w w' h.plain
    refine ⟨reading, _, _, rfl, rfl, ?_⟩
    refine poll_overcounted clock hi (hlast reading i) (hpoll.flag.mpr hfallen) ?_ hlost
    intro sig hsig
    obtain ⟨k, hk⟩ := List.mem_iff_getElem?.mp hsig
    exact Or.inr ⟨_, hpoll.value k sig hk⟩
  | crash reading w w' =>
    obtain ⟨-, i, hi, hlost⟩ := hfiles reading w w' hm
    refine ⟨reading, _, _, rfl, rfl, ?_⟩
    exact poll_overcounted clock hi (hlast reading i) rfl (fun _ _ => Or.inl ⟨"", rfl⟩) hlost
  | restart => exact absurd trivial hm

/-- In a run whose moves are all guarded no door is counted twice; the first move that is not
guarded is followed by an overcount as soon as its reading comes again. -/
theorem notOvercounted_of_guarded (clock : Int → Int) (path : List (Observed × Move))
    (s : Observed) (r : Run (move clock) started path s) (hguarded : Meets GuardedMove path) :
    Always NotOvercounted path s ∧
      ∀ m, ¬ GuardedMove s m → ∃ reading s' s'', move clock s m = some s' ∧
        move clock s' (.poll reading .written .written) = some s'' ∧ ¬ NotOvercounted s'' := by
  have hcovered : Always (fun s => Covered s.rs s.gateway) path s :=
    r.invariant (move_covered clock) started_covered hguarded
  constructor
  · exact hcovered.mono fun s h => h.reported
  · intro m hm
    exact unguarded_overcounted clock hcovered.last hm

/-- The same counter at every door. -/
def opened (n : BitVec 32) : Reading := Reading.ofCounts fun _ => n

/-- The lift restarts behind ten openings; the process ends before the previous counters are
written, but has left the totals empty. -/
theorem notOvercounted_emptied : ∃ path s, Run (move id) started path s ∧
    path.map (fun p => p.2) = [.poll (opened 10) .written .written,
      .crash (opened 3) .emptied (.kept .LOG_FILE_EXCEPTION),
      .poll (opened 4) .written .written] ∧
    s.rs 0 = [10, 3, 4] ∧ Always NotOvercounted path s := by
  refine ⟨_, _, .cons rfl (.cons rfl (.cons rfl (.nil _))), rfl, rfl, ?_⟩
  refine (notOvercounted_of_guarded id _ _ (.cons rfl (.cons rfl (.cons rfl (.nil _)))) ?_).1
  simp only [meets_cons, meets_nil, and_true]
  exact ⟨fun _ _ _ => trivial, fun _ _ _ => trivial, fun _ _ _ => trivial⟩

/-- The same with the totals written: they are carried over in place of the ten openings. -/
theorem not_always_notOvercounted : ∃ path s, Run (move id) started path s ∧
    path.map (fun p => p.2) = [.poll (opened 10) .written .written,
      .crash (opened 3) .written (.kept .LOG_FILE_EXCEPTION),
      .poll (opened 4) .written .written] ∧
    s.rs 0 = [10, 3, 4] ∧ total (s.rs 0) = 14 ∧ s.gateway.lib.totalOpenDoorCounters 0 = 17 ∧
    integerOf (s.gateway.lib.value 173) = 17 ∧ ¬ NotOvercounted s := by
  refine ⟨_, _, .cons rfl (.cons rfl (.cons rfl (.nil _))), rfl, rfl, by decide, ?_, ?_, ?_⟩
  · decide +kernel
  · decide +kernel
  · intro h
    have hle := (h 0 _ rfl).1
    revert hle
    decide +kernel

end NexyGateway.CounterWrites
