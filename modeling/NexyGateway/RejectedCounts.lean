import NexyGateway.DroppedUpdates

/-!
# Counts of a rejected response

The doors are counted one after another, so a response that is rejected at a later door
leaves the earlier ones counted. It changes nothing exactly if these stand already where
their readings put them.
-/
namespace NexyGateway.ThousandLib

open PyJson

section Settled

variable {clock : Int → Int} {response : Json}

/-- A counter that stands where its reading puts it, in memory and in the database. -/
def Settled (clock : Int → Int) (response : Json) (lib : Lib) (i : Nat) (sig : Signal) : Prop :=
  ∃ v read, unpackSignal clock sig response = .ok (v, .NO_ERR) ∧ v.toInt = .ok read ∧
    read + lib.previousOpenDoorCounters i = lib.totalOpenDoorCounters i ∧
    (lib.value sig.param).eq (.int (lib.totalOpenDoorCounters i)) = true

/-- All counters up to the first one that does not unpack are settled. -/
def SettledUpTo (clock : Int → Int) (response : Json) (lib : Lib) (i : Nat)
    (sigs : List Signal) : Prop :=
  ∀ before sig after, sigs = before ++ sig :: after →
    (∀ s ∈ before, Unpacks clock response s) → Unpacks clock response sig →
    Settled clock response lib (i + before.length) sig

theorem settledUpTo_of_not_unpacks {lib : Lib} {i : Nat} {sig : Signal} {rest : List Signal}
    (h : ¬ Unpacks clock response sig) : SettledUpTo clock response lib i (sig :: rest) := by
  intro before s after heq hbefore hs
  cases before with
  | nil =>
    cases heq
    exact absurd hs h
  | cons s' before =>
    cases heq
    exact absurd (hbefore sig List.mem_cons_self) h

theorem settledUpTo_cons {lib : Lib} {i : Nat} {sig : Signal} {rest : List Signal}
    (h : Unpacks clock response sig) : SettledUpTo clock response lib i (sig :: rest) ↔
      Settled clock response lib i sig ∧ SettledUpTo clock response lib (i + 1) rest := by
  constructor
  · intro hall
    refine ⟨hall [] sig rest rfl (by simp) h, ?_⟩
    intro before s after heq hbefore hs
    have hone := hall (sig :: before) s after (by rw [heq]; rfl)
      (List.forall_mem_cons.mpr ⟨h, hbefore⟩) hs
    rwa [List.length_cons, show i + (before.length + 1) = i + 1 + before.length by omega] at hone
  · intro ⟨hone, hrest⟩ before s after heq hbefore hs
    cases before with
    | nil =>
      cases heq
      exact hone
    | cons s' before =>
      cases heq
      have htail := hrest before s after rfl (List.forall_mem_cons.mp hbefore).2 hs
      rwa [List.length_cons, show i + (before.length + 1) = i + 1 + before.length by omega]

/-- Counting on leaves a settled counter as it is. -/
theorem count_settled {lib : Lib} {i : Nat} {read : Int}
    (h : read + lib.previousOpenDoorCounters i = lib.totalOpenDoorCounters i) :
    lib.count i read = lib := by
  have hprevious : (fun j => if j = i then lib.previousOpenDoorCounters i
      else lib.previousOpenDoorCounters j) = lib.previousOpenDoorCounters := by
    funext j
    split
    · next hj => rw [hj]
    · rfl
  have htotal : (fun j => if j = i then lib.totalOpenDoorCounters i
      else lib.totalOpenDoorCounters j) = lib.totalOpenDoorCounters := by
    funext j
    split
    · next hj => rw [hj]
    · rfl
  simp [Lib.count, h, hprevious, htotal]

/-- A counter that counting on leaves as it is had not fallen. -/
theorem settled_of_count {lib : Lib} {i : Nat} {read : Int}
    (htotal : (lib.count i read).totalOpenDoorCounters i = lib.totalOpenDoorCounters i)
    (hprevious : (lib.count i read).previousOpenDoorCounters i = lib.previousOpenDoorCounters i) :
    read + lib.previousOpenDoorCounters i = lib.totalOpenDoorCounters i := by
  simp only [Lib.count, if_true] at htotal hprevious
  split at hprevious
  · rw [if_pos ‹_›] at htotal
    omega
  · rw [if_neg ‹_›] at htotal
    exact htotal

theorem countIn_settled {sig : Signal} {i : Nat} {read : Int} {u : Update}
    (h : read + u.lib.previousOpenDoorCounters i = u.lib.totalOpenDoorCounters i)
    (hvalue : (u.lib.value sig.param).eq (.int (u.lib.totalOpenDoorCounters i)) = true) :
    u.countIn sig i read = u := by
  have hcount := count_settled h
  have hcounted : counted u.lib i read = u.lib.totalOpenDoorCounters i := by
    rw [counted, hcount]
  rw [countIn_steady (by rw [hcounted]; exact hvalue), hcount]

/-- The doors behind do not touch a counter. -/
structure SameBelow (i : Nat) (lib lib' : Lib) : Prop where
  total : ∀ j < i, lib'.totalOpenDoorCounters j = lib.totalOpenDoorCounters j
  previous : ∀ j < i, lib'.previousOpenDoorCounters j = lib.previousOpenDoorCounters j

theorem sameBelow_recalculate {sigs : List Signal} (hsigs : ∀ sig ∈ sigs, IsCounter sig) {i : Nat}
    {u : Update} : SameBelow i u.lib (recalculate clock response sigs i u).lib := by
  induction sigs generalizing i u with
  | nil => exact ⟨fun _ _ => rfl, fun _ _ => rfl⟩
  | cons sig rest ih =>
    obtain ⟨hsig, hrest⟩ := List.forall_mem_cons.mp hsigs
    rcases recalculate_cases clock response hsig rest i u with
      ⟨e, -, hr⟩ | ⟨v, code, -, -, hr⟩ | ⟨v, read, -, -, hr⟩
    · rw [hr]
      exact ⟨fun _ _ => rfl, fun _ _ => rfl⟩
    · rw [hr]
      exact ⟨fun _ _ => rfl, fun _ _ => rfl⟩
    · have hlater : SameBelow (i + 1) (u.countIn sig i read).lib
          (recalculate clock response rest (i + 1) (u.countIn sig i read)).lib := ih hrest
      obtain ⟨htotal, hprevious, -⟩ := countIn_counters sig i read u
      rw [hr]
      constructor
      · intro j hj
        have hother : j ≠ i := by omega
        rw [hlater.total j (by omega), htotal]
        simp [Lib.count, hother]
      · intro j hj
        have hother : j ≠ i := by omega
        rw [hlater.previous j (by omega), hprevious]
        simp [Lib.count, hother]

/-- What is left unchanged in the end was settled when its turn came. -/
theorem settled_of_unchanged {sig : Signal} {rest : List Signal} {i : Nat} {read : Int}
    {u : Update} (hrest : ∀ s ∈ rest, IsCounter s)
    (hfresh : sig.param ∉ rest.map (fun s => s.param))
    (h : (recalculate clock response rest (i + 1) (u.countIn sig i read)).lib = u.lib) :
    read + u.lib.previousOpenDoorCounters i = u.lib.totalOpenDoorCounters i ∧
      (u.lib.value sig.param).eq (.int (u.lib.totalOpenDoorCounters i)) = true := by
  have hbelow : SameBelow (i + 1) (u.countIn sig i read).lib
      (recalculate clock response rest (i + 1) (u.countIn sig i read)).lib :=
    sameBelow_recalculate hrest
  have hwithin : Within (rest.map (fun s => s.param)) (u.countIn sig i read)
      (recalculate clock response rest (i + 1) (u.countIn sig i read)) :=
    within_recalculate hrest (i + 1) _
  have hframe := hwithin.frame _ hfresh
  obtain ⟨hcountTotal, hcountPrevious, -⟩ := countIn_counters sig i read u
  rw [h] at hbelow hframe
  have htotal : counted u.lib i read = u.lib.totalOpenDoorCounters i := by
    rw [counted, ← hcountTotal]
    exact (hbelow.total i (by omega)).symm
  have hprevious : (u.lib.count i read).previousOpenDoorCounters i =
      u.lib.previousOpenDoorCounters i := by
    rw [← hcountPrevious]
    exact (hbelow.previous i (by omega)).symm
  refine ⟨settled_of_count htotal hprevious, ?_⟩
  -- a value that differs would have been stored and would stay
  by_contra hne
  rw [← htotal] at hne
  have hstored : (u.countIn sig i read).lib.value sig.param = .int (counted u.lib i read) := by
    unfold Update.countIn Update.store
    rw [if_neg (by simpa using hne)]
    exact set_value_same ..
  rw [hframe, hstored] at hne
  exact hne (eq_int _)

theorem recalculate_unchanged_iff {sigs : List Signal} (hsigs : ∀ sig ∈ sigs, IsCounter sig)
    (hnodup : (sigs.map (fun sig => sig.param)).Nodup) {i : Nat} {u : Update} :
    (recalculate clock response sigs i u).lib = u.lib ↔
      SettledUpTo clock response u.lib i sigs := by
  induction sigs generalizing i u with
  | nil =>
    constructor
    · intro _ before sig after heq
      cases before <;> cases heq
    · intro _
      rfl
  | cons sig rest ih =>
    obtain ⟨hsig, hrest⟩ := List.forall_mem_cons.mp hsigs
    obtain ⟨hfresh, hnodup⟩ := List.nodup_cons.mp hnodup
    rcases recalculate_cases clock response hsig rest i u with
      ⟨e, hv, hr⟩ | ⟨v, code, hv, hcode, hr⟩ | ⟨v, read, hv, hread, hr⟩
    · have hnot : ¬ Unpacks clock response sig := not_unpacks_of_error hv
      rw [hr]
      exact ⟨fun _ => settledUpTo_of_not_unpacks hnot, fun _ => rfl⟩
    · have hnot : ¬ Unpacks clock response sig := not_unpacks_of_code hv hcode
      rw [hr]
      exact ⟨fun _ => settledUpTo_of_not_unpacks hnot, fun _ => rfl⟩
    · rw [settledUpTo_cons ⟨v, hv⟩, hr]
      constructor
      · intro h
        obtain ⟨hsum, hvalue⟩ := settled_of_unchanged hrest hfresh h
        rw [countIn_settled hsum hvalue] at h
        exact ⟨⟨v, read, hv, hread, hsum, hvalue⟩, (ih hrest hnodup).mp h⟩
      · intro ⟨⟨v', read', hv', hread', hsum, hvalue⟩, hlater⟩
        have heq : v' = v ∧ read' = read := by
          rw [hv] at hv'
          cases hv'
          rw [hread] at hread'
          cases hread'
          exact ⟨rfl, rfl⟩
        rw [heq.2] at hsum
        rw [countIn_settled hsum hvalue]
        exact (ih hrest hnodup).mpr hlater

/-- What is in the database after an accepted response and was not there before is reported. -/
theorem doorOpenCountRecalculate_reports (clock : Int → Int) (response : Json) (lib : Lib)
    (haccepted : (doorOpenCountRecalculate clock response lib).errCode = .NO_ERR) (p : Int)
    (h : (doorOpenCountRecalculate clock response lib).lib.value p ≠ lib.value p) :
    p ∈ (doorOpenCountRecalculate clock response lib).changed := by
  have hwithin : Within (paramsDoorOpenCount.map (fun sig => sig.param)) (.start lib)
      (recalculate clock response paramsDoorOpenCount 0 (.start lib)) :=
    within_recalculate isCounter_doorOpenCount 0 _
  simp only [doorOpenCountRecalculate] at haccepted h ⊢
  split at haccepted
  · contradiction
  · rw [if_neg ‹_›] at h ⊢
    exact hwithin.reported p h

/-- The next accepted response reports everything that is not as it was before. -/
def ReportedLater (before after : Lib) : Prop :=
  ∀ clock response,
    (doorOpenCountRecalculate clock response after).error = none →
    (doorOpenCountRecalculate clock response after).errCode = .NO_ERR →
    ∀ p, (doorOpenCountRecalculate clock response after).lib.value p ≠ before.value p →
      p ∈ (doorOpenCountRecalculate clock response after).changed

/-- A rejected response changes nothing, and the next accepted one reports every change, exactly
if all doors before the first one that is not accepted have nothing to be counted on. -/
theorem rejected_unchanged_iff (clock : Int → Int) (response : Json) (lib : Lib) :
    (doorOpenCountRecalculate clock response lib).error = none →
    (doorOpenCountRecalculate clock response lib).errCode ≠ .NO_ERR →
    ((doorOpenCountRecalculate clock response lib).lib = lib ∧
        ReportedLater lib (doorOpenCountRecalculate clock response lib).lib ↔
      SettledUpTo clock response lib 0 paramsDoorOpenCount) := by
  intro _ _
  have hunchanged : (doorOpenCountRecalculate clock response lib).lib = lib ↔
      SettledUpTo clock response lib 0 paramsDoorOpenCount := by
    rw [(doorOpenCountRecalculate_fields clock response lib).1]
    exact recalculate_unchanged_iff isCounter_doorOpenCount (by decide)
  constructor
  · intro ⟨h, _⟩
    exact hunchanged.mp h
  · intro h
    have hlib := hunchanged.mpr h
    refine ⟨hlib, ?_⟩
    rw [hlib]
    intro clock' response' _ haccepted p hp
    exact doorOpenCountRecalculate_reports clock' response' lib haccepted p hp

/-- The first door stands at five and is read as five again, the others are missing. -/
theorem rejected_unchanged_five :
    let lib := { Lib.fresh.set 173 (.int 5) with totalOpenDoorCounters := fun _ => 5 }
    let u := doorOpenCountRecalculate id (.list [.int 5, .int 0, .int 0, .int 0]) lib
    u.errCode = .PARTIAL_ERR ∧ u.lib = lib := by
  intro lib u
  have hfirst : Settled id (.list [.int 5, .int 0, .int 0, .int 0]) lib 0 (uint32 173 0) :=
    ⟨.str "5", 5, rfl, rfl, rfl, rfl⟩
  have hsecond : ¬ Unpacks id (.list [.int 5, .int 0, .int 0, .int 0]) (uint32 174 4) := by
    rintro ⟨v, hv⟩
    cases hv
  have hsettled : SettledUpTo id (.list [.int 5, .int 0, .int 0, .int 0]) lib 0
      paramsDoorOpenCount :=
    (settledUpTo_cons ⟨.str "5", rfl⟩).mpr ⟨hfirst, settledUpTo_of_not_unpacks hsecond⟩
  exact ⟨rfl, ((rejected_unchanged_iff id _ lib rfl (by decide)).mpr hsettled).1⟩

/-- A new cache that gets the first door only: the door is counted all the same, and the whole
response after it does not report it. -/
theorem not_always_unchanged :
    let u := doorOpenCountRecalculate id (.list [.int 5, .int 0, .int 0, .int 0]) Lib.fresh
    let later := doorOpenCountRecalculate id
      (.list (.int 5 :: List.replicate 23 (.int 0))) u.lib
    (u.error = none ∧ u.errCode = .PARTIAL_ERR) ∧
      (Lib.fresh.totalOpenDoorCounters 0 = 0 ∧ u.lib.totalOpenDoorCounters 0 = 5) ∧
      (Lib.fresh.value 173 = .str "" ∧ u.lib.value 173 = .int 5) ∧
      (later.error = none ∧ later.errCode = .NO_ERR) ∧
      later.changed = [174, 175, 176, 177, 178] := by
  intro u later
  refine ⟨⟨rfl, rfl⟩, ⟨rfl, rfl⟩, ⟨rfl, rfl⟩, ?_, ?_⟩
  · decide +kernel
  · decide +kernel

end Settled

end NexyGateway.ThousandLib
