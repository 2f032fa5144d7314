import NexyGateway.PollLift
import NexyGateway.SignalReferences

/-!
# Door counters across restarts

The counters of door openings with the two files that they are kept in. The lift
counts from zero again when it restarts, and the gateway loses its memory when its
process does; the total goes on from where it was in both cases.
-/
namespace NexyGateway.DoorCounters

open PyJson ThousandLib

/-- Content of the two counter files, each a list of six; an absent file has none. -/
structure Files where
  total : Option (List Json) := none
  previous : Option (List Json) := none

def readOpenDoorCounterFromFile (file : Option (List Json)) : List Json :=
  file.getD (List.replicate 6 (.int 0))

/-- The files hold nothing but integers. -/
def integerOf : Json → Int
  | .int n => n
  | _ => 0

def counterOf (items : List Json) (i : Nat) : Int := integerOf (items.getD i (.int 0))

def Files.counters (files : Files) : Rs232Handler.CounterFiles :=
  ⟨counterOf (readOpenDoorCounterFromFile files.total),
    counterOf (readOpenDoorCounterFromFile files.previous)⟩

/-- Outcome of `__write_to_open_door_counter_file`: a failed write leaves the old content, an
interrupted one an empty file. -/
inductive Write where
  | written
  | kept (err : Rs232Code)
  | emptied

def Write.code : Write → Rs232Code
  | .written => .NO_ERR
  | .kept err => err
  | .emptied => .LOG_FILE_EXCEPTION

/-- The content of the file afterwards; an empty file is read like an absent one. -/
def Write.leave (data : List Json) (old : Option (List Json)) : Write → Option (List Json)
  | .written => some data
  | .kept _ => old
  | .emptied => none

/-- What a write leaves of a counter. -/
def Write.left (new old : Int) : Write → Int
  | .written => new
  | .kept _ => old
  | .emptied => 0

/-- `get_updated_open_door_counter_parameters`: the totals are saved as the database has them,
the previous counters only if one of them may have changed. The code is that of the last write. -/
def getUpdatedOpenDoorCounterParameters (clock : Int → Int) (total previous : Write)
    (response : Json) (files : Files) (lib : Lib) : Update × Files :=
  let u := doorOpenCountRecalculate clock response lib
  if u.error.isSome then (u, files)
  else if u.errCode ≠ .NO_ERR then (u, files)
  else
    let files := { files with
      total := total.leave (paramsDoorOpenCount.map (fun sig => u.lib.value sig.param))
        files.total }
    if u.lib.resetSavedOpenDoorCounter then
      ({ u with errCode := previous.code }, { files with
        previous := previous.leave
          ((List.range 6).map (fun i => .int (u.lib.previousOpenDoorCounters i))) files.previous })
    else ({ u with errCode := total.code }, files)

/-- A successful answer to `getOpenCount`: six unsigned counters of 32 bits. -/
structure Reading where
  response : Json
  count : Nat → Int
  nonneg : ∀ i < 6, 0 ≤ count i
  bounded : ∀ i < 6, count i < 2 ^ 32
  unpacks : ∀ clock i sig, paramsDoorOpenCount[i]? = some sig →
    ∃ v, unpackSignal clock sig response = .ok (v, .NO_ERR) ∧ v.toInt = .ok (count i)

/-- The bytes that a lift sends for six counters, each with its lowest byte first. -/
def encoded (counts : Nat → BitVec 32) : Json :=
  .list ((List.range 24).map fun k => .int ((counts (k / 4)).toNat / 256 ^ (k % 4) % 256 : Nat))

/-- The counter of each door stands in four bytes of its own. -/
theorem doorOpenCount_layout {i : Nat} {sig : Signal} (h : paramsDoorOpenCount[i]? = some sig) :
    i < 6 ∧ sig.type = .uint ∧ sig.byteStart = 4 * i ∧ sig.byteSize = 4 := by
  match i, h with
  | 0, h | 1, h | 2, h | 3, h | 4, h | 5, h =>
    cases h
    exact ⟨by decide, rfl, rfl, rfl⟩

theorem encoded_byte {counts : Nat → BitVec 32} {data : List Json}
    (hdata : encoded counts = .list data) {i j : Nat} (hi : i < 6) (hj : j < 4) :
    data[4 * i + j]? = some (.int ((counts i).toNat / 256 ^ j % 256 : Nat)) := by
  have hdiv : (4 * i + j) / 4 = i := by omega
  have hmod : (4 * i + j) % 4 = j := by omega
  cases hdata
  rw [List.getElem?_map, List.getElem?_range (by omega), Option.map_some, hdiv, hmod]

/-- The bytes of a counter read back as the counter. -/
theorem unpackSignal_encoded (clock : Int → Int) (counts : Nat → BitVec 32) {i : Nat} {sig : Signal}
    (h : paramsDoorOpenCount[i]? = some sig) :
    ∃ v, unpackSignal clock sig (encoded counts) = .ok (v, .NO_ERR) ∧
      v.toInt = .ok ((counts i).toNat : Int) := by
  obtain ⟨hi, htype, hstart, hsize⟩ := doorOpenCount_layout h
  have hfits : (counts i).toNat < 256 ^ sig.byteSize := by
    rw [hsize]
    exact (counts i).isLt
  generalize hdata : (List.range 24).map (fun k =>
    Json.int ((counts (k / 4)).toNat / 256 ^ (k % 4) % 256 : Nat)) = data
  have hencoded : encoded counts = .list data := congrArg Json.list hdata
  have hbytes : ∀ j < sig.byteSize,
      data[sig.byteStart + j]? = some (.int ((counts i).toNat / 256 ^ j % 256 : Nat)) := by
    intro j hj
    rw [hstart]
    exact encoded_byte hencoded hi (hsize ▸ hj)
  have hint : PyNumber.int (toString ((counts i).toNat : Int)) = some ((counts i).toNat : Int) :=
    PyNumber.int_toString_word (counts i).isLt
  rw [hencoded]
  refine ⟨_, unpackSignal_cut clock htype hfits (region_cut hbytes), ?_⟩
  simp only [Json.toInt, hint]

/-- Every six counters of 32 bits can be read. -/
def Reading.ofCounts (counts : Nat → BitVec 32) : Reading where
  response := encoded counts
  count i := (counts i).toNat
  nonneg i _ := by omega
  bounded i _ := by
    have := (counts i).isLt
    omega
  unpacks clock _ _ h := unpackSignal_encoded clock counts h

/-- The cache of the running process, and the files. -/
structure Gateway where
  lib : Lib
  files : Files

inductive Move where
  | poll (reading : Reading)
  | restart

/-- One poll of the counters, from `get_door_open_count` on. -/
def Gateway.poll (clock : Int → Int) (reading : Reading) (g : Gateway) : Gateway :=
  let lib := Rs232Handler.loadCounters g.files.counters g.lib
  let (u, files) := getUpdatedOpenDoorCounterParameters clock .written .written reading.response
    g.files lib
  ⟨u.lib, files⟩

/-- A new process starts with an empty cache. -/
def Gateway.move (clock : Int → Int) (g : Gateway) : Move → Gateway
  | .poll reading => g.poll clock reading
  | .restart => { g with lib := Lib.fresh }

def Gateway.run (clock : Int → Int) (moves : List Move) : Gateway :=
  moves.foldl (Gateway.move clock) ⟨Lib.fresh, {}⟩

/-- The readings of one door, oldest first. -/
def readings (i : Nat) : List Move → List Int
  | [] => []
  | .poll reading :: moves => reading.count i :: readings i moves
  | .restart :: moves => readings i moves

/-- The sum of the readings that were followed by a smaller one. -/
def carried : List Int → Int
  | r :: r' :: rest => (if r' < r then r else 0) + carried (r' :: rest)
  | _ => 0

/-- The newest reading and all that was counted before the lift's restarts. -/
def total (rs : List Int) : Int := rs.getLastD 0 + carried rs

theorem carried_concat (rs : List Int) (r : Int) :
    carried (rs ++ [r]) = carried rs + if r < rs.getLastD 0 then rs.getLastD 0 else 0 := by
  induction rs with
  | nil => simp [carried]
  | cons a rest ih =>
    cases rest with
    | nil => simp [carried]
    | cons b rest =>
      simp only [List.cons_append, carried] at ih ⊢
      rw [ih]
      simp only [List.getLastD_cons]
      omega

theorem readings_append (i : Nat) (moves moves' : List Move) :
    readings i (moves ++ moves') = readings i moves ++ readings i moves' := by
  induction moves with
  | nil => rfl
  | cons m moves ih => cases m <;> simp [readings, ih]

/-- With every further reading the total grows or stays. -/
theorem total_le_concat (rs : List Int) {r : Int} (h : 0 ≤ r) :
    total rs ≤ total (rs ++ [r]) := by
  unfold total
  rw [carried_concat, List.getLastD_concat]
  split <;> omega

theorem total_mono {rs rs' : List Int} (h : ∀ r ∈ rs', 0 ≤ r) : total rs ≤ total (rs ++ rs') := by
  induction rs' generalizing rs with
  | nil => simp
  | cons r rest ih =>
    obtain ⟨hr, hrest⟩ := List.forall_mem_cons.mp h
    have hstep := total_le_concat rs hr
    have htail : total (rs ++ [r]) ≤ total (rs ++ [r] ++ rest) := ih hrest
    rw [List.append_assoc, List.singleton_append] at htail
    omega

/-! ### One poll -/

theorem count_total_same (lib : Lib) (i : Nat) (r : Int) :
    (lib.count i r).totalOpenDoorCounters i = r + (lib.count i r).previousOpenDoorCounters i := by
  simp [Lib.count]

/-- The counters from `i` up to `n` are counted on with their readings, the others are left. -/
structure CountedOn (reads : Nat → Int) (i n : Nat) (lib lib' : Lib) : Prop where
  total : ∀ j, lib'.totalOpenDoorCounters j =
    if i ≤ j ∧ j < n then (lib.count j (reads j)).totalOpenDoorCounters j
    else lib.totalOpenDoorCounters j
  previous : ∀ j, lib'.previousOpenDoorCounters j =
    if i ≤ j ∧ j < n then (lib.count j (reads j)).previousOpenDoorCounters j
    else lib.previousOpenDoorCounters j
  flag : lib'.resetSavedOpenDoorCounter = true ↔ lib.resetSavedOpenDoorCounter = true ∨
    ∃ j, i ≤ j ∧ j < n ∧
      reads j + lib.previousOpenDoorCounters j < lib.totalOpenDoorCounters j

theorem countedOn_refl (reads : Nat → Int) (i : Nat) (lib : Lib) : CountedOn reads i i lib lib where
  total j := by rw [if_neg (by omega)]
  previous j := by rw [if_neg (by omega)]
  flag := by
    constructor
    · exact Or.inl
    · rintro (h | ⟨j, h, h', -⟩)
      · exact h
      · omega

/-- One counter, then the ones behind it. -/
theorem CountedOn.step {reads : Nat → Int} {i n : Nat} {lib lib' : Lib} (hi : i < n)
    (h : CountedOn reads (i + 1) n (lib.count i (reads i)) lib') : CountedOn reads i n lib lib' where
  total j := by
    rw [h.total j]
    by_cases hj : j = i
    · subst hj
      rw [if_neg (by omega), if_pos ⟨Nat.le_refl _, hi⟩]
    · by_cases hrange : i + 1 ≤ j ∧ j < n
      · rw [if_pos hrange, if_pos ⟨by omega, hrange.2⟩]
        simp [Lib.count, hj]
      · rw [if_neg hrange, if_neg (by omega)]
        simp [Lib.count, hj]
  previous j := by
    rw [h.previous j]
    by_cases hj : j = i
    · subst hj
      rw [if_neg (by omega), if_pos ⟨Nat.le_refl _, hi⟩]
    · by_cases hrange : i + 1 ≤ j ∧ j < n
      · rw [if_pos hrange, if_pos ⟨by omega, hrange.2⟩]
        simp [Lib.count, hj]
      · rw [if_neg hrange, if_neg (by omega)]
        simp [Lib.count, hj]
  flag := by
    have hother : ∀ j, j ≠ i → (lib.count i (reads i)).totalOpenDoorCounters j =
        lib.totalOpenDoorCounters j ∧ (lib.count i (reads i)).previousOpenDoorCounters j =
        lib.previousOpenDoorCounters j := by
      intro j hj
      simp [Lib.count, hj]
    have hflag : (lib.count i (reads i)).resetSavedOpenDoorCounter = true ↔
        reads i + lib.previousOpenDoorCounters i < lib.totalOpenDoorCounters i ∨
          lib.resetSavedOpenDoorCounter = true := by
      simp [Lib.count]
    rw [h.flag, hflag]
    constructor
    · rintro ((hi' | hold) | ⟨j, hj, hn, hfall⟩)
      · exact Or.inr ⟨i, Nat.le_refl i, hi, hi'⟩
      · exact Or.inl hold
      · obtain ⟨htotal, hprevious⟩ := hother j (by omega)
        exact Or.inr ⟨j, by omega, hn, by rwa [htotal, hprevious] at hfall⟩
    · rintro (hold | ⟨j, hj, hn, hfall⟩)
      · exact Or.inl (Or.inr hold)
      · by_cases hji : j = i
        · subst hji
          exact Or.inl (Or.inl hfall)
        · obtain ⟨htotal, hprevious⟩ := hother j hji
          exact Or.inr ⟨j, by omega, hn, by rwa [htotal, hprevious]⟩

/-- A value in the database that compares equal to an integer only if it is that integer. -/
def IsPlain (v : Json) : Prop := (∃ s, v = .str s) ∨ ∃ n, v = .int n

theorem IsPlain.eq_int {v : Json} (h : IsPlain v) {n : Int} (heq : v.eq (.int n) = true) :
    v = .int n := by
  rcases h with ⟨s, rfl⟩ | ⟨m, rfl⟩
  · simp [Json.eq, Json.number] at heq
  · simp only [Json.eq, Json.number, decide_eq_true_eq, PyFloat.finite.injEq, Rat.intCast_inj]
      at heq
    rw [heq]

theorem countedOn_congr {reads : Nat → Int} {i n : Nat} {lib lib₂ lib' : Lib}
    (h : CountedOn reads i n lib lib')
    (hcounters : lib₂.totalOpenDoorCounters = lib.totalOpenDoorCounters ∧
      lib₂.previousOpenDoorCounters = lib.previousOpenDoorCounters ∧
      lib₂.resetSavedOpenDoorCounter = lib.resetSavedOpenDoorCounter) :
    CountedOn reads i n lib₂ lib' := by
  obtain ⟨htotal, hprevious, hflag⟩ := hcounters
  refine ⟨fun j => ?_, fun j => ?_, ?_⟩
  · rw [h.total j]
    simp [Lib.count, htotal, hprevious]
  · rw [h.previous j]
    simp [Lib.count, htotal, hprevious]
  · rw [h.flag, htotal, hprevious, hflag]

theorem countIn_value (sig : Signal) (i : Nat) (read : Int) {u : Update}
    (h : IsPlain (u.lib.value sig.param)) :
    (u.countIn sig i read).lib.value sig.param = .int (counted u.lib i read) := by
  unfold Update.countIn Update.store
  split
  · rename_i heq
    exact h.eq_int heq
  · exact set_value_same ..

/-- A whole recalculation: it counts every counter on and leaves the totals in the database. -/
structure Recalculated (reads : Nat → Int) (sigs : List Signal) (i : Nat) (u u' : Update) :
    Prop where
  error : u'.error = u.error
  errCode : u'.errCode = u.errCode
  counted : CountedOn reads i (i + sigs.length) u.lib u'.lib
  value : ∀ k sig, sigs[k]? = some sig →
    u'.lib.value sig.param = .int (u'.lib.totalOpenDoorCounters (i + k))

theorem recalculate_counts {clock : Int → Int} {response : Json} {reads : Nat → Int}
    {sigs : List Signal} (hsigs : ∀ sig ∈ sigs, IsCounter sig)
    (hnodup : (sigs.map (fun sig => sig.param)).Nodup) {i : Nat} {u : Update}
    (hplain : ∀ sig ∈ sigs, IsPlain (u.lib.value sig.param))
    (hreads : ∀ k sig, sigs[k]? = some sig →
      ∃ v, unpackSignal clock sig response = .ok (v, .NO_ERR) ∧ v.toInt = .ok (reads (i + k))) :
    Recalculated reads sigs i u (recalculate clock response sigs i u) := by
  induction sigs generalizing i u with
  | nil => exact ⟨rfl, rfl, countedOn_refl reads i u.lib, fun k sig hk => by simp at hk⟩
  | cons sig rest ih =>
    obtain ⟨v, hv, hread⟩ := hreads 0 sig rfl
    obtain ⟨hsig, hrest⟩ := List.forall_mem_cons.mp hsigs
    obtain ⟨hfresh, hnodup⟩ := List.nodup_cons.mp hnodup
    rw [Nat.add_zero] at hread
    have hkept : ∀ s ∈ rest, (u.countIn sig i (reads i)).lib.value s.param =
        u.lib.value s.param := by
      intro s hs
      refine (within_countIn sig i (reads i) u).frame _ ?_
      intro hmem
      have hparam : s.param = sig.param := List.mem_singleton.mp hmem
      exact hfresh (List.mem_map.mpr ⟨s, hs, hparam⟩)
    have htail := ih hrest hnodup (i := i + 1) (u := u.countIn sig i (reads i))
      (fun s hs => by rw [hkept s hs]; exact hplain s (List.mem_cons_of_mem _ hs))
      (fun k s hk => by
        obtain ⟨w, hw, hwread⟩ := hreads (k + 1) s hk
        exact ⟨w, hw, by rwa [show i + (k + 1) = i + 1 + k by omega] at hwread⟩)
    rw [recalculate_counted hv hread]
    have hcounted : CountedOn reads i (i + (sig :: rest).length) u.lib
        (recalculate clock response rest (i + 1) (u.countIn sig i (reads i))).lib := by
      have hlast : i + 1 + rest.length = i + (sig :: rest).length := by
        rw [List.length_cons]
        omega
      have h : CountedOn reads (i + 1) (i + 1 + rest.length) (u.lib.count i (reads i))
          (recalculate clock response rest (i + 1) (u.countIn sig i (reads i))).lib := by
        obtain ⟨h₁, h₂, h₃⟩ := countIn_counters sig i (reads i) u
        exact countedOn_congr htail.counted ⟨h₁.symm, h₂.symm, h₃.symm⟩
      rw [hlast] at h
      exact h.step (by rw [List.length_cons]; omega)
    refine ⟨htail.error.trans (countIn_error ..), htail.errCode.trans (store_errCode ..),
      hcounted, fun k s hk => ?_⟩
    cases k with
    | zero =>
      obtain rfl : sig = s := Option.some.inj hk
      have hwithin : Within (rest.map (·.param)) (u.countIn sig i (reads i))
          (recalculate clock response rest (i + 1) (u.countIn sig i (reads i))) :=
        within_recalculate hrest (i + 1) _
      have hframe := hwithin.frame sig.param hfresh
      have htotal := hcounted.total i
      rw [if_pos ⟨Nat.le_refl _, by rw [List.length_cons]; omega⟩] at htotal
      rw [hframe, countIn_value sig i (reads i) (hplain sig (by simp))]
      exact congrArg Json.int htotal.symm
    | succ k =>
      have := htail.value k s hk
      rwa [show i + 1 + k = i + (k + 1) by omega] at this

/-! ### The run -/

/-- Six counters as a list of integers. -/
def listed (f : Nat → Int) : List Json := (List.range 6).map (fun i => .int (f i))

theorem counterOf_listed (f : Nat → Int) {i : Nat} (h : i < 6) : counterOf (listed f) i = f i := by
  simp [counterOf, listed, integerOf, h]

theorem listed_congr {f g : Nat → Int} (h : ∀ i < 6, f i = g i) : listed f = listed g :=
  List.map_congr_left (fun i hi => by rw [h i (List.mem_range.mp hi)])

/-- What the files say, an absent one being all zeros, is what has been counted. -/
structure Kept (rs : Nat → List Int) (files : Files) : Prop where
  total : readOpenDoorCounterFromFile files.total = listed (fun i => DoorCounters.total (rs i))
  previous : readOpenDoorCounterFromFile files.previous = listed (fun i => carried (rs i))

/-- The invariant between polls: memory agrees with the files unless it is loaded anew. -/
structure Sound (rs : Nat → List Int) (g : Gateway) : Prop where
  kept : Kept rs g.files
  total : g.lib.resetSavedOpenDoorCounter = false →
    ∀ i < 6, g.lib.totalOpenDoorCounters i = DoorCounters.total (rs i)
  previous : g.lib.resetSavedOpenDoorCounter = false →
    ∀ i < 6, g.lib.previousOpenDoorCounters i = carried (rs i)
  plain : ∀ sig ∈ paramsDoorOpenCount, IsPlain (g.lib.value sig.param)

/-- The counters that a poll starts from are those of the readings so far. -/
theorem Sound.loaded {rs : Nat → List Int} {g : Gateway} (h : Sound rs g) {i : Nat} (hi : i < 6) :
    (Rs232Handler.loadCounters g.files.counters g.lib).totalOpenDoorCounters i =
        DoorCounters.total (rs i) ∧
      (Rs232Handler.loadCounters g.files.counters g.lib).previousOpenDoorCounters i =
        carried (rs i) := by
  unfold Rs232Handler.loadCounters
  cases hflag : g.lib.resetSavedOpenDoorCounter with
  | true =>
    rw [if_pos rfl]
    simp only [Files.counters, h.kept.total, h.kept.previous]
    exact ⟨counterOf_listed _ hi, counterOf_listed _ hi⟩
  | false =>
    rw [if_neg (by simp)]
    exact ⟨h.total hflag i hi, h.previous hflag i hi⟩

theorem loadCounters_value (files : Rs232Handler.CounterFiles) (lib : Lib) :
    (Rs232Handler.loadCounters files lib).value = lib.value := by
  unfold Rs232Handler.loadCounters
  split <;> rfl

/-- A door goes on from its last total exactly when its counter has fallen. -/
theorem count_carried {rs : List Int} {lib : Lib} {i : Nat} (r : Int)
    (htotal : lib.totalOpenDoorCounters i = total rs)
    (hprevious : lib.previousOpenDoorCounters i = carried rs) :
    (lib.count i r).totalOpenDoorCounters i = total (rs ++ [r]) ∧
      (lib.count i r).previousOpenDoorCounters i = carried (rs ++ [r]) := by
  have hprev : (lib.count i r).previousOpenDoorCounters i = carried (rs ++ [r]) := by
    rw [carried_concat]
    simp only [Lib.count, if_true, htotal, hprevious, total]
    by_cases hfall : r < rs.getLastD 0
    · rw [if_pos (by omega), if_pos hfall]
      omega
    · rw [if_neg (by omega), if_neg hfall]
      omega
  refine ⟨?_, hprev⟩
  rw [count_total_same, hprev, total, List.getLastD_concat]

theorem params_door_length : paramsDoorOpenCount.length = 6 := rfl

theorem params_door_nodup : (paramsDoorOpenCount.map (fun sig => sig.param)).Nodup := by decide

/-- What a successful reading leaves in memory and in the database. -/
theorem reading_recalculated (clock : Int → Int) (reading : Reading) {lib : Lib}
    (hplain : ∀ sig ∈ paramsDoorOpenCount, IsPlain (lib.value sig.param)) :
    Recalculated reading.count paramsDoorOpenCount 0 (.start lib)
      (doorOpenCountRecalculate clock reading.response lib) := by
  have h : Recalculated reading.count paramsDoorOpenCount 0 (.start lib)
      (recalculate clock reading.response paramsDoorOpenCount 0 (.start lib)) := by
    refine recalculate_counts isCounter_doorOpenCount params_door_nodup hplain ?_
    intro k sig hk
    rw [Nat.zero_add]
    exact reading.unpacks clock k sig hk
  have hcode : (recalculate clock reading.response paramsDoorOpenCount 0 (.start lib)).errCode =
      .NO_ERR := h.errCode
  rwa [doorOpenCountRecalculate, if_neg (by simp [hcode])]

theorem poll_recalculated (clock : Int → Int) (reading : Reading) {rs : Nat → List Int}
    {g : Gateway} (h : Sound rs g) :
    Recalculated reading.count paramsDoorOpenCount 0
      (.start (Rs232Handler.loadCounters g.files.counters g.lib))
      (doorOpenCountRecalculate clock reading.response
        (Rs232Handler.loadCounters g.files.counters g.lib)) := by
  refine reading_recalculated clock reading ?_
  intro sig hsig
  rw [loadCounters_value]
  exact h.plain sig hsig

/-- A reading for every door, behind those it has had. -/
def extended (rs : Nat → List Int) (reading : Reading) (i : Nat) : List Int :=
  rs i ++ [reading.count i]

/-- After a poll memory, database and files agree on what has been counted. -/
structure Agreed (rs : Nat → List Int) (g : Gateway) : Prop where
  total : ∀ i < 6, g.lib.totalOpenDoorCounters i = DoorCounters.total (rs i)
  previous : ∀ i < 6, g.lib.previousOpenDoorCounters i = carried (rs i)
  value : ∀ i sig, paramsDoorOpenCount[i]? = some sig →
    g.lib.value sig.param = .int (g.lib.totalOpenDoorCounters i)
  files : Kept rs g.files

/-- Where no counter has fallen, what had been counted before the lift's restarts is unchanged. -/
theorem carried_extended {rs : Nat → List Int} (reading : Reading) {i : Nat}
    (h : ¬ reading.count i < (rs i).getLastD 0) : carried (extended rs reading i) = carried (rs i) := by
  rw [extended, carried_concat, if_neg h, Int.add_zero]

theorem map_eq_listed {sigs : List Signal} {value : Int → Json} {f : Nat → Int}
    (hlength : sigs.length = 6)
    (h : ∀ i sig, sigs[i]? = some sig → value sig.param = .int (f i)) :
    sigs.map (fun sig => value sig.param) = listed f := by
  refine List.ext_getElem (by simp [listed, hlength]) fun i hi _ => ?_
  rw [List.length_map] at hi
  simpa [listed] using h i sigs[i] (List.getElem?_eq_getElem hi)

/-- The recalculation of a poll counts every door on from all of its readings. -/
theorem poll_counted (reading : Reading) {rs : Nat → List Int} {g : Gateway}
    (h : Sound rs g) {u : Update}
    (hpoll : Recalculated reading.count paramsDoorOpenCount 0
      (.start (Rs232Handler.loadCounters g.files.counters g.lib)) u) {i : Nat} (hi : i < 6) :
    u.lib.totalOpenDoorCounters i = total (extended rs reading i) ∧
      u.lib.previousOpenDoorCounters i = carried (extended rs reading i) := by
  obtain ⟨htotal, hprevious⟩ := h.loaded hi
  have hrange : 0 ≤ i ∧ i < 0 + paramsDoorOpenCount.length := by
    rw [params_door_length]
    omega
  rw [hpoll.counted.total i, hpoll.counted.previous i, if_pos hrange, if_pos hrange]
  exact count_carried (reading.count i) htotal hprevious

/-- Without the flag no counter has fallen, so the file of the previous counters is still good. -/
theorem poll_unfallen (reading : Reading) {rs : Nat → List Int} {g : Gateway}
    (h : Sound rs g) {u : Update}
    (hpoll : Recalculated reading.count paramsDoorOpenCount 0
      (.start (Rs232Handler.loadCounters g.files.counters g.lib)) u)
    (hflag : u.lib.resetSavedOpenDoorCounter = false) {i : Nat} (hi : i < 6) :
    carried (rs i) = carried (extended rs reading i) := by
  obtain ⟨htotal, hprevious⟩ := h.loaded hi
  refine (carried_extended reading fun hfall => ?_).symm
  have hset := hpoll.counted.flag.mpr (Or.inr ⟨i, Nat.zero_le i, by
    rw [params_door_length]
    omega, by
    simp only [Update.start]
    rw [htotal, hprevious, total]
    omega⟩)
  rw [hflag] at hset
  cases hset

theorem poll_agreed (clock : Int → Int) (reading : Reading) {rs : Nat → List Int} {g : Gateway}
    (h : Sound rs g) : Agreed (extended rs reading) (g.poll clock reading) := by
  have hpoll := poll_recalculated clock reading h
  generalize hdoor : doorOpenCountRecalculate clock reading.response
    (Rs232Handler.loadCounters g.files.counters g.lib) = u at hpoll
  have hcode : u.errCode = .NO_ERR := hpoll.errCode
  have herror : u.error = none := hpoll.error
  have hvalue : ∀ i sig, paramsDoorOpenCount[i]? = some sig →
      u.lib.value sig.param = .int (u.lib.totalOpenDoorCounters i) := by
    intro i sig hi
    have := hpoll.value i sig hi
    rwa [Nat.zero_add] at this
  have hsaved : paramsDoorOpenCount.map (fun sig => u.lib.value sig.param) =
      listed (fun i => total (extended rs reading i)) :=
    (map_eq_listed params_door_length hvalue).trans
      (listed_congr fun i hi => (poll_counted reading h hpoll hi).1)
  have hlib : (g.poll clock reading).lib = u.lib := by
    simp only [Gateway.poll, getUpdatedOpenDoorCounterParameters, hdoor, herror, hcode]
    cases u.lib.resetSavedOpenDoorCounter <;> rfl
  refine ⟨fun i hi => ?_, fun i hi => ?_, ?_, ?_⟩
  · rw [hlib, (poll_counted reading h hpoll hi).1]
  · rw [hlib, (poll_counted reading h hpoll hi).2]
  · rw [hlib]
    exact hvalue
  · simp only [Gateway.poll, getUpdatedOpenDoorCounterParameters, hdoor, herror, hcode, hsaved]
    cases hflag : u.lib.resetSavedOpenDoorCounter with
    | true =>
      exact ⟨rfl, listed_congr fun i hi => (poll_counted reading h hpoll hi).2⟩
    | false =>
      refine ⟨rfl, ?_⟩
      exact h.kept.previous.trans
        (listed_congr fun i hi => poll_unfallen reading h hpoll hflag hi)

theorem Agreed.sound {rs : Nat → List Int} {g : Gateway} (h : Agreed rs g) : Sound rs g where
  kept := h.files
  total _ := h.total
  previous _ := h.previous
  plain sig hsig := by
    obtain ⟨i, hi⟩ := List.mem_iff_getElem?.mp hsig
    exact Or.inr ⟨_, h.value i sig hi⟩

/-- A restart forgets what is in memory, and what is in memory is in the files. -/
theorem restart_sound {rs : Nat → List Int} {g : Gateway} (h : Sound rs g) :
    Sound rs { g with lib := Lib.fresh } where
  kept := h.kept
  total hflag := by cases hflag
  previous hflag := by cases hflag
  plain _ _ := Or.inl ⟨"", rfl⟩

theorem start_sound : Sound (fun _ => []) ⟨Lib.fresh, {}⟩ where
  kept := ⟨rfl, rfl⟩
  total hflag := by cases hflag
  previous hflag := by cases hflag
  plain _ _ := Or.inl ⟨"", rfl⟩

theorem move_sound (clock : Int → Int) {rs : Nat → List Int} {g : Gateway} (h : Sound rs g)
    (m : Move) : Sound (fun i => rs i ++ readings i [m]) (g.move clock m) := by
  cases m with
  | poll reading => exact (poll_agreed clock reading h).sound
  | restart =>
    simp only [readings, List.append_nil]
    exact restart_sound h

theorem foldl_sound (clock : Int → Int) (moves : List Move) {rs : Nat → List Int} {g : Gateway}
    (h : Sound rs g) :
    Sound (fun i => rs i ++ readings i moves) (moves.foldl (Gateway.move clock) g) := by
  induction moves generalizing rs g with
  | nil => simpa [readings] using h
  | cons m moves ih =>
    have hrest := ih (move_sound clock h m)
    simp only [List.append_assoc, ← readings_append] at hrest
    exact hrest

/-- Between any two polls the gateway has all readings so far, in memory or in the files. -/
theorem run_sound (clock : Int → Int) (moves : List Move) :
    Sound (fun i => readings i moves) (Gateway.run clock moves) := by
  have h := foldl_sound clock moves start_sound
  simp only [List.nil_append] at h
  exact h

theorem run_agreed (clock : Int → Int) (moves : List Move) (reading : Reading) :
    Agreed (fun i => readings i (moves ++ [.poll reading]))
      (Gateway.run clock (moves ++ [.poll reading])) := by
  have h := poll_agreed clock reading (run_sound clock moves)
  simp only [Gateway.run, List.foldl_append, readings_append]
  exact h

theorem readings_nonneg {i : Nat} (hi : i < 6) (moves : List Move) :
    ∀ r ∈ readings i moves, 0 ≤ r := by
  induction moves with
  | nil => simp [readings]
  | cons m moves ih =>
    cases m with
    | poll reading => exact List.forall_mem_cons.mpr ⟨reading.nonneg i hi, ih⟩
    | restart => exact ih

/-- The totals never go down from one poll to a later one. -/
theorem run_mono (clock : Int → Int) (before after : List Move) (reading reading' : Reading)
    {i : Nat} (hi : i < 6) :
    (Gateway.run clock (before ++ [.poll reading])).lib.totalOpenDoorCounters i ≤
      (Gateway.run clock
        (before ++ .poll reading :: after ++ [.poll reading'])).lib.totalOpenDoorCounters i := by
  rw [(run_agreed clock before reading).total i hi,
    (run_agreed clock (before ++ .poll reading :: after) reading').total i hi]
  have hsplit : before ++ .poll reading :: after ++ [.poll reading'] =
      (before ++ [.poll reading]) ++ (after ++ [.poll reading']) := by simp
  rw [hsplit, readings_append i (before ++ [Move.poll reading]) (after ++ [Move.poll reading'])]
  exact total_mono (readings_nonneg hi _)

/-- After every poll each door's total is its newest reading and all that the lift had counted
before it restarted, in memory, in the database and in the file, whenever the gateway itself
was restarted in between. -/
theorem doorCounters_survive (clock : Int → Int) (moves : List Move) (reading : Reading) :
    let g := Gateway.run clock (moves ++ [.poll reading])
    (∀ i < 6,
      g.lib.totalOpenDoorCounters i = total (readings i (moves ++ [.poll reading])) ∧
      g.lib.previousOpenDoorCounters i ≤ g.lib.totalOpenDoorCounters i ∧
      ∀ before reading' after, moves = before ++ .poll reading' :: after →
        (Gateway.run clock (before ++ [.poll reading'])).lib.totalOpenDoorCounters i ≤
          g.lib.totalOpenDoorCounters i) ∧
    (∀ i sig, paramsDoorOpenCount[i]? = some sig →
      g.lib.value sig.param = .int (g.lib.totalOpenDoorCounters i)) ∧
    readOpenDoorCounterFromFile g.files.total = listed g.lib.totalOpenDoorCounters ∧
    readOpenDoorCounterFromFile g.files.previous = listed g.lib.previousOpenDoorCounters := by
  intro g
  have h := run_agreed clock moves reading
  refine ⟨fun i hi => ⟨h.total i hi, ?_, ?_⟩, h.value, ?_, ?_⟩
  · rw [h.total i hi, h.previous i hi, total, readings_append, readings, readings,
      List.getLastD_concat]
    have := reading.nonneg i hi
    omega
  · rintro before reading' after rfl
    exact run_mono clock before after reading' reading hi
  · rw [h.files.total]
    exact listed_congr fun i hi => (h.total i hi).symm
  · rw [h.files.previous]
    exact listed_congr fun i hi => (h.previous i hi).symm

end NexyGateway.DoorCounters
