import NexyGateway.AhlLib
import NexyGateway.ModbusOutcomes
import NexyGateway.PollFaults

/-!
# The cold-start sweep

`LiftProxy.poll_params` forces the library to read everything until a poll has come
back, and does not ask what that poll has read. The runs in which the flag stands for
a sweep of the whole lift are those in which no poll comes back before one has read
everything.
-/
namespace NexyGateway.ColdStart

open Runs

/-- The flag of the proxy, the poll under way with what it has read so far, and whether some
forced sweep since the bind has come back with everything read. -/
structure Watch (α : Type) where
  forceReadAll : Bool := true
  forced : Bool := false
  outcomes : List (α × Bool) := []
  swept : Bool := false

namespace Watch

variable {α : Type} {w : Watch α}

def begin (callerForce : Bool) (w : Watch α) : Watch α :=
  { w with forced := callerForce || w.forceReadAll, outcomes := [] }

def note (item : α) (ok : Bool) (w : Watch α) : Watch α :=
  { w with outcomes := w.outcomes ++ [(item, ok)] }

/-- The library has come back, and the flag is cleared whatever it has read. -/
def returned [DecidableEq α] (everything : List α) (w : Watch α) : Watch α :=
  { w with
    forceReadAll := false
    swept := w.swept || (w.forced && decide (w.outcomes = everything.map (fun a => (a, true)))) }

/-- Without the flag the whole lift has been read. -/
def Guaranteed (w : Watch α) : Prop := w.forceReadAll = false → w.swept = true

/-- Nothing has been swept as long as the flag stands. -/
def Fresh (w : Watch α) : Prop := w.forceReadAll = true → w.swept = false

/-- The poll under way is forced if it has to be, and a forced one has `rest` still to read. -/
structure Sweeping (everything rest : List α) (w : Watch α) : Prop where
  due : w.forceReadAll = true → w.forced = true
  covered : w.forced = true → w.outcomes.map Prod.fst ++ rest = everything

theorem begin_sweeping (everything : List α) (callerForce : Bool) (w : Watch α) {rest : List α}
    (h : (w.begin callerForce).forced = true → rest = everything) :
    (w.begin callerForce).Sweeping everything rest where
  due hflag := by simp_all [begin]
  covered hforced := by simpa [begin] using h hforced

theorem Sweeping.note {everything rest : List α} {item : α} (ok : Bool)
    (h : w.Sweeping everything (item :: rest)) : (w.note item ok).Sweeping everything rest where
  due := h.due
  covered hforced := by simpa [Watch.note] using h.covered hforced

theorem all_read {items : List (α × Bool)} :
    items = (items.map Prod.fst).map (fun a => (a, true)) ↔ ∀ o ∈ items, o.2 = true := by
  induction items with
  | nil => simp
  | cons o items ih =>
    simp only [List.map_cons, List.cons.injEq, List.forall_mem_cons, ← ih, Prod.ext_iff, true_and]

theorem returned_fresh [DecidableEq α] (everything : List α) (w : Watch α) :
    (w.returned everything).Fresh := by
  intro h
  cases h

/-- A poll that comes back keeps the guarantee exactly if a due sweep has read everything. -/
theorem returned_guaranteed_iff [DecidableEq α] {everything rest : List α}
    (hg : w.Guaranteed) (hfresh : w.Fresh) (h : w.Sweeping everything rest) :
    (w.returned everything).Guaranteed ↔
      (w.forceReadAll = true → rest = [] ∧ ∀ o ∈ w.outcomes, o.2 = true) := by
  have hswept : (w.returned everything).Guaranteed ↔ w.swept = true ∨
      w.forced = true ∧ w.outcomes = everything.map (fun a => (a, true)) := by
    simp [Guaranteed, returned]
  rw [hswept]
  cases hflag : w.forceReadAll with
  | false => simp [hg hflag]
  | true =>
    have hforced := h.due hflag
    have hcovered := h.covered hforced
    simp only [hfresh hflag, Bool.false_eq_true, false_or, hforced, true_and, forall_true_left]
    constructor
    · intro hall
      have hfst := congrArg (List.map Prod.fst) hall
      rw [List.map_map, show (Prod.fst ∘ fun a : α => (a, true)) = id from rfl, List.map_id,
        ← hcovered, List.self_eq_append_right] at hfst
      rw [hfst, List.append_nil] at hcovered
      rw [← hcovered] at hall
      exact ⟨hfst, all_read.mp hall⟩
    · rintro ⟨hrest, hall⟩
      rw [hrest, List.append_nil] at hcovered
      rw [← hcovered]
      exact all_read.mpr hall

end Watch

/-! ### AHL -/

section Ahl

open PyNumber ModbusHandler AhlLib

/-- One call of `read_parameter` on its thread: it raises, or the bus gives its replies. -/
inductive Call where
  | raised (e : PyError)
  | bus (replies : Nat → Response) (up : Nat → Bool)

def readCall (param : Nat) (replies : Nat → Response) (up : Nat → Bool) : Triple :=
  (readParameter [toString param] (Session.start replies up)).1

/-- A parameter that the controller does not have counts as read. -/
def isRead (code : MbCode) : Bool := code = .NO_ERR || code = .LCM_ERR

/-- The link is up, and one of the replies that the read waits for is a value, or says that the
parameter does not exist. -/
def Answered (replies : Nat → Response) (up : Nat → Bool) : Prop :=
  up 0 = true ∧ ∃ k < maxTries, ¬ Retried (replies k)

theorem isRead_iff (response : Response) :
    isRead (validateReadParamResponse response).2.2 = true ↔ ¬ Retried response := by
  simp [isRead, Retried, imp_iff_not_or]

theorem readTries_isRead_iff {param : String} {addr : Nat}
    (ha : convertParamAddr param = some addr) (n : Nat) (ret : Triple) (s : Session)
    (hret : isRead ret.2.2 = false ∨ n ≠ 0) :
    isRead (readTries param n ret s).1.2.2 = true ↔ ∃ k < n, ¬ Retried (s.coming k) := by
  induction n generalizing ret s with
  | zero => simp [readTries, hret.resolve_right (by omega)]
  | succ n ih =>
    have hsend : serialReadParam param s = s.send (.read addr 2) := by
      simp [serialReadParam, ha]
    have hnext : ∀ k, (s.send (.read addr 2)).2.coming k = s.coming (k + 1) := by
      intro k
      simp [Session.coming, Session.send, Nat.add_assoc, Nat.add_comm 1 k]
    have hdone := isRead_iff (s.coming 0)
    rw [readTries, hsend, Nat.exists_lt_succ_left]
    have hfirst : (s.send (.read addr 2)).1 = s.coming 0 := rfl
    simp only [hfirst]
    by_cases hread : isRead (validateReadParamResponse (s.coming 0)).2.2 = true
    · rw [if_pos (by simpa [isRead] using hread)]
      exact iff_of_true hread (.inl (hdone.mp hread))
    · rw [if_neg (by simpa [isRead] using hread), ih _ _ (.inl (Bool.not_eq_true _ ▸ hread))]
      simp only [hnext]
      rw [or_iff_right (mt hdone.mpr hread)]

/-- What a call reads of a parameter of the database is up to the bus. -/
theorem readCall_isRead_iff {param : Nat} (h : inDatabase param = true)
    (replies : Nat → Response) (up : Nat → Bool) :
    isRead (readCall param replies up).2.2 = true ↔ Answered replies up := by
  have hle : param ≤ 381 := by
    simp only [inDatabase, databaseRanges, List.any_cons, List.any_nil, Bool.or_false,
      Bool.or_eq_true, Bool.and_eq_true, decide_eq_true_eq] at h
    omega
  have hint := int_toString_word (n := param) (by omega)
  have haddr := convertParamAddr_of_int (isDigit_toString param) hint
  have hvalue := parseIntValue_of_int hint
  have hvalid : validateInputs [toString param] 1 = accepted := by
    simp only [validateInputs, List.all_cons, hvalue]
    rfl
  unfold readCall readParameter checkModbusConnection Answered
  by_cases hup : up 0 = true
  · have hcheck : (Session.start replies up).up (Session.start replies up).checks = true := hup
    simp only [if_pos hcheck, hvalid]
    rw [if_neg (by simp [accepted]), readTries_isRead_iff haddr _ _ _ (.inr (by decide))]
    simp [hup, Session.coming, Session.start]
  · have hcheck : ¬ (Session.start replies up).up (Session.start replies up).checks = true := hup
    rw [if_neg hcheck]
    simp [hup, failed, isRead]

/-- The cache, the parameters that the poll under way has still to read, and the flag. -/
structure Ahl where
  cache : Cache
  remaining : Option (List Nat)
  watch : Watch Nat

inductive AhlEvent where
  | poll (forceReadAll : Bool) (call : Call)
  | read (call : Call)
  /-- Any other operation; none of them touches the flag. -/
  | other (cache : Cache)

/-- The parameters of the groups that are in the database. -/
def candidateParams (newTable : Bool) (bitmask : Int) : List Nat :=
  (decodeChangeFlags (pollingTable newTable) bitmask).filter (fun p => inDatabase p)

def everyParam (newTable : Bool) : List Nat := candidateParams newTable 0x7FFFFFFF

/-- The next parameter is read, or the library's poll comes back. -/
def Ahl.sweep (newTable : Bool) (params : List Nat) (s : Ahl) : Ahl :=
  match params with
  | [] => { s with remaining := none, watch := s.watch.returned (everyParam newTable) }
  | _ => { s with remaining := some params }

/-- The first call of `poll_params`. A forced poll does not look at what it has read. -/
def Ahl.poll (newTable callerForce : Bool) (call : Call) (s : Ahl) : Ahl :=
  let s := { s with watch := s.watch.begin callerForce }
  match call with
  | .raised _ => s
  | .bus replies up =>
    let ret := readCall 2 replies up
    if s.watch.forced then s.sweep newTable (everyParam newTable)
    else if ret.2.2 ≠ .NO_ERR then s.sweep newTable []
    else if ret.1 = 0 then s.sweep newTable []
    else s.sweep newTable (candidateParams newTable ret.1)

def Ahl.read (newTable : Bool) (param : Nat) (rest : List Nat) (call : Call) (s : Ahl) : Ahl :=
  match call with
  | .raised _ => { s with remaining := none }
  | .bus replies up =>
    let ret := readCall param replies up
    let s := { s with watch := s.watch.note param (isRead ret.2.2) }
    if ret.2.2 ≠ .NO_ERR then s.sweep newTable rest
    else { s with cache := (setParam param ret.1 s.cache).1 }.sweep newTable rest

def ahlStep (newTable : Bool) (s : Ahl) : AhlEvent → Option Ahl
  | .poll callerForce call =>
    match s.remaining with
    | none => some (s.poll newTable callerForce call)
    | some _ => none
  | .read call =>
    match s.remaining with
    | some (param :: rest) => some (s.read newTable param rest call)
    | _ => none
  | .other cache =>
    match s.remaining with
    | none => some { s with cache := cache }
    | some _ => none

/-- Right after the bind. -/
def ahlBound (cache : Cache) : Ahl := ⟨cache, none, {}⟩

variable {newTable : Bool} {s t : Ahl}

structure AhlSound (newTable : Bool) (s : Ahl) : Prop where
  fresh : s.watch.Fresh
  sweeping : ∀ rest, s.remaining = some rest → s.watch.Sweeping (everyParam newTable) rest

/-- Everything that has been asked for in the poll under way was read. -/
def AllRead {α : Type} (w : Watch α) : Prop := ∀ o ∈ w.outcomes, o.2 = true

theorem sweep_sound {params : List Nat} (hfresh : s.watch.Fresh)
    (h : s.watch.Sweeping (everyParam newTable) params) :
    AhlSound newTable (s.sweep newTable params) := by
  cases params with
  | nil => exact ⟨Watch.returned_fresh _ _, by intro rest h; cases h⟩
  | cons param rest =>
    refine ⟨hfresh, ?_⟩
    intro rest' hrest
    obtain rfl : param :: rest = rest' := Option.some.inj hrest
    exact h

theorem sweep_guaranteed {params : List Nat} (hg : s.watch.Guaranteed) (hfresh : s.watch.Fresh)
    (h : s.watch.Sweeping (everyParam newTable) params) :
    (s.sweep newTable params).watch.Guaranteed ↔
      (params = [] → s.watch.forceReadAll = true → AllRead s.watch) := by
  cases params with
  | nil =>
    rw [Ahl.sweep, Watch.returned_guaranteed_iff hg hfresh h]
    simp [AllRead]
  | cons param rest => exact iff_of_true hg (by simp)

theorem everyParam_ne_nil (newTable : Bool) : everyParam newTable ≠ [] := by
  have hmem : 1 ∈ everyParam newTable := by
    refine List.mem_filter.mpr ⟨mem_decodeChangeFlags.mpr ⟨0, by decide, by decide, ?_⟩, by decide⟩
    cases newTable <;> decide
  intro h
  rw [h] at hmem
  cases hmem

/-- The reply to the first call of a poll leads to a sweep, or ends a poll that was not due. -/
theorem poll_sound (h : AhlSound newTable s) (hidle : s.remaining = none) (callerForce : Bool)
    (call : Call) : AhlSound newTable (s.poll newTable callerForce call) ∧
      (s.watch.Guaranteed → (s.poll newTable callerForce call).watch.Guaranteed) := by
  set w := s.watch.begin callerForce with hw
  have hfresh : w.Fresh := h.fresh
  cases call with
  | raised e =>
    refine ⟨⟨hfresh, ?_⟩, id⟩
    intro rest hrest
    rw [show (s.poll newTable callerForce (.raised e)).remaining = s.remaining from rfl, hidle]
      at hrest
    cases hrest
  | bus replies up =>
    have hsweep : ∀ params, (w.forced = true → params = everyParam newTable) →
        AhlSound newTable ({ s with watch := w }.sweep newTable params) ∧
          (s.watch.Guaranteed → ({ s with watch := w }.sweep newTable params).watch.Guaranteed) := by
      intro params hparams
      have hsweeping : w.Sweeping (everyParam newTable) params :=
        Watch.begin_sweeping _ callerForce s.watch hparams
      refine ⟨sweep_sound hfresh hsweeping, fun hg => ?_⟩
      refine (sweep_guaranteed (s := { s with watch := w }) hg hfresh hsweeping).mpr ?_
      intro hnil hflag
      exact absurd ((hparams (hsweeping.due hflag)).symm.trans hnil) (everyParam_ne_nil newTable)
    unfold Ahl.poll
    simp only [← hw]
    split
    · exact hsweep _ (fun _ => rfl)
    · rename_i hforced
      split
      · exact hsweep _ (fun h => absurd h hforced)
      · split
        · exact hsweep _ (fun h => absurd h hforced)
        · exact hsweep _ (fun h => absurd h hforced)

/-- The last parameter of a due sweep does not complete it: that one or an earlier one was not
answered, and the call did not raise. -/
def Unfinished (call : Call) (w : Watch Nat) : Prop :=
  ∃ replies up, call = .bus replies up ∧ w.forceReadAll = true ∧
    ¬ (AllRead w ∧ Answered replies up)

theorem mem_inDatabase {param : Nat} (h : param ∈ everyParam newTable) :
    inDatabase param = true := (List.mem_filter.mp h).2

theorem read_sound {param : Nat} {rest : List Nat} (h : AhlSound newTable s)
    (hrest : s.remaining = some (param :: rest)) (call : Call) :
    AhlSound newTable (s.read newTable param rest call) ∧ (s.watch.Guaranteed →
      ((s.read newTable param rest call).watch.Guaranteed ↔
        (rest = [] → ¬ Unfinished call s.watch))) := by
  cases call with
  | raised e =>
    refine ⟨⟨h.fresh, by intro rest h; cases h⟩, fun hg => iff_of_true hg ?_⟩
    rintro - ⟨replies, up, hcall, -⟩
    cases hcall
  | bus replies up =>
    set w := s.watch.note param (isRead (readCall param replies up).2.2) with hw
    have hbefore := h.sweeping _ hrest
    have hsweeping : w.Sweeping (everyParam newTable) rest := hbefore.note _
    have hfresh : w.Fresh := h.fresh
    have hall (hdue : s.watch.forceReadAll = true) :
        AllRead w ↔ AllRead s.watch ∧ Answered replies up := by
      have hmem : param ∈ everyParam newTable := by
        rw [← hbefore.covered (hbefore.due hdue)]
        simp
      rw [← readCall_isRead_iff (mem_inDatabase hmem)]
      simp [AllRead, hw, Watch.note, or_imp, forall_and]
    have hsweep : ∀ cache, AhlSound newTable
        (Ahl.sweep newTable rest ⟨cache, s.remaining, w⟩) ∧ (s.watch.Guaranteed →
        ((Ahl.sweep newTable rest ⟨cache, s.remaining, w⟩).watch.Guaranteed ↔
          (rest = [] → ¬ Unfinished (.bus replies up) s.watch))) := by
      intro cache
      refine ⟨sweep_sound hfresh hsweeping, fun hg => ?_⟩
      rw [sweep_guaranteed (s := ⟨cache, s.remaining, w⟩) hg hfresh hsweeping]
      constructor
      · rintro hread hnil ⟨replies', up', hcall, hdue, hnot⟩
        cases hcall
        exact hnot ((hall hdue).mp (hread hnil hdue))
      · intro hread hnil hdue
        refine (hall hdue).mpr ?_
        by_contra hnot
        exact hread hnil ⟨replies, up, rfl, hdue, hnot⟩
    unfold Ahl.read
    simp only [← hw]
    split
    · exact hsweep s.cache
    · exact hsweep _

/-- No due sweep comes back with a parameter unread. -/
def AhlThorough (s : Ahl) : AhlEvent → Prop
  | .read call => ∀ param, s.remaining = some [param] → ¬ Unfinished call s.watch
  | _ => True

theorem ahl_step {e : AhlEvent} (h : AhlSound newTable s)
    (hstep : ahlStep newTable s e = some t) : AhlSound newTable t ∧
      (s.watch.Guaranteed → (t.watch.Guaranteed ↔ AhlThorough s e)) := by
  cases e with
  | poll callerForce call =>
    simp only [ahlStep] at hstep
    split at hstep
    · rename_i hidle
      cases hstep
      obtain ⟨hsound, hkept⟩ := poll_sound h hidle callerForce call
      exact ⟨hsound, fun hg => iff_of_true (hkept hg) trivial⟩
    · cases hstep
  | read call =>
    simp only [ahlStep] at hstep
    split at hstep
    · rename_i param rest hrest
      cases hstep
      obtain ⟨hsound, hiff⟩ := read_sound h hrest call
      refine ⟨hsound, fun hg => (hiff hg).trans ?_⟩
      constructor
      · intro hthorough param' hlast
        rw [hrest] at hlast
        cases hlast
        exact hthorough rfl
      · rintro hthorough rfl
        exact hthorough param hrest
    · cases hstep
  | other cache =>
    simp only [ahlStep] at hstep
    split at hstep
    · rename_i hidle
      cases hstep
      refine ⟨⟨h.fresh, ?_⟩, fun hg => iff_of_true hg trivial⟩
      intro rest hrest
      rw [show s.remaining = none from hidle] at hrest
      cases hrest
    · cases hstep

theorem ahlBound_sound (cache : Cache) : AhlSound newTable (ahlBound cache) where
  fresh _ := rfl
  sweeping rest h := by cases h

/-- The guarantee on an AHL lift. -/
theorem ahl_guaranteed_iff (cache : Cache) {path : List (Ahl × AhlEvent)}
    (r : Run (ahlStep newTable) (ahlBound cache) path t) :
    Always (fun s => s.watch.Guaranteed) path t ↔ Meets AhlThorough path :=
  r.always_iff (fun _ _ _ hs hstep => (ahl_step hs hstep).1)
    (fun _ _ _ hs hg hstep => (ahl_step hs hstep).2 hg) (ahlBound_sound cache)
    (by intro h; cases h)

end Ahl

/-! ### 1k -/

section OneK

open PyNumber PyJson ThousandLib Rs232Handler

/-- The handler with its library, and the flag. -/
structure OneK where
  poll : Poll
  watch : Watch Package

/-- The request for the package is answered without an error and every signal unpacks, or the
package does not exist in the version of this lift. -/
def packageRead (clock : Int → Int) (package : Package) (reads : List FrameRead) (s : Poll) :
    Bool :=
  match isPolled package s.handler.lib with
  | .error _ => false
  | .ok false => true
  | .ok true =>
    match (exchange s.handler.available package reads s.handler.saved).1 with
    | .error _ => false
    | .ok (response, code) => code = .NO_ERR && package.signals.all (fun sig =>
        match unpackSignal clock sig response with
        | .ok (_, code) => code = .NO_ERR
        | .error _ => false)

def everyPackage : List Package := alwaysPolledPackages ++ filePackages

/-- What a step tells about the poll under way. -/
def watchStep (clock : Int → Int) (s : Poll) (e : Event) (w : Watch Package) : Watch Package :=
  match e, s.phase with
  | .package reads _, .polling (package :: _) => w.note package (packageRead clock package reads s)
  | _, _ => w

/-- A poll that has come back clears the flag, one that has raised does not. -/
def OneK.after (w : Watch Package) (t : Poll) : OneK :=
  match t.phase with
  | .returned .. => ⟨t, w.returned everyPackage⟩
  | _ => ⟨t, w⟩

/-- `LiftProxy.poll_params` around a step of the handler. -/
def oneKStep (clock : Int → Int) (s : OneK) : Event → Option OneK
  | .begin callerForce =>
    let w := s.watch.begin callerForce
    (Rs232Handler.step clock s.poll (.begin w.forced)).map (fun t => ⟨t, w⟩)
  | e => (Rs232Handler.step clock s.poll e).map (OneK.after (watchStep clock s.poll e s.watch))

/-- Right after the bind, with whatever the identification has left in the library. -/
def oneKBound (h : Handler) : OneK := ⟨resting h, {}⟩

variable {clock : Int → Int} {s t : OneK}

/-- The request for the package finds the bus dead, which ends the poll. -/
def BusDead (package : Package) (reads : List FrameRead) (s : Poll) : Prop :=
  isPolled package s.handler.lib = .ok true ∧ ∃ response code,
    (exchange s.handler.available package reads s.handler.saved).1 = .ok (response, code) ∧
      isDead code = true

theorem prepared_saved (package : Package) (files : CounterFiles) (h : Handler) :
    (prepared package files h).saved = h.saved := by
  unfold prepared
  split <;> rfl

theorem take_not_returned (u : Update) (rest : List Package) (s : Poll) :
    ¬ ∃ response code, (s.take u rest).phase = .returned response code := by
  rintro ⟨response, code, hphase⟩
  rcases take_phase u rest s with ⟨e, he⟩ | he
  · rw [he] at hphase
    cases hphase
  · rw [he] at hphase
    cases hphase

theorem receive_returned_iff (package : Package) (rest : List Package)
    (outcome : Except PyError (Json × Rs232Code)) (s : Poll) :
    (∃ response code, (s.receive clock package rest outcome).phase = .returned response code) ↔
      ∃ response code, outcome = .ok (response, code) ∧ isDead code = true := by
  rcases receive_cases clock package rest outcome s with ⟨e, rfl, heq⟩ |
    ⟨response, code, rfl, hdead, heq⟩ | ⟨response, code, rfl, hdead, -, heq⟩ | ⟨response, rfl, heq⟩
  · rw [heq]
    simp [Poll.raise]
  · rw [heq]
    exact iff_of_true ⟨none, code, rfl⟩ ⟨response, code, rfl, hdead⟩
  · rw [heq]
    simp [hdead]
  · rw [heq]
    refine iff_of_false (take_not_returned _ _ _) ?_
    simp [isDead]

/-- The loop itself comes back only on a dead bus. -/
theorem pollPackage_returned_iff (clock : Int → Int) (package : Package) (rest : List Package)
    (reads : List FrameRead) (files : CounterFiles) (s : Poll) :
    (∃ response code, (pollPackage clock package rest reads files s).phase =
      .returned response code) ↔ BusDead package reads s := by
  simp only [pollPackage, BusDead]
  cases isPolled package s.handler.lib with
  | error e => simp [Poll.raise]
  | ok polled =>
    cases polled with
    | false => simp
    | true =>
      simp only [true_and, receive_returned_iff, prepared_available, prepared_saved]

theorem packageRead_of_busDead {package : Package} {reads : List FrameRead} {s : Poll}
    (h : BusDead package reads s) : packageRead clock package reads s = false := by
  obtain ⟨hpolled, response, code, hexchange, hdead⟩ := h
  have hcode : code ≠ .NO_ERR := by
    rintro rfl
    cases hdead
  simp [packageRead, hpolled, hexchange, hcode]

/-- What the poll under way has still to read. -/
def pending : Phase → Option (List Package)
  | .polling rest => some rest
  | .notifying | .draining .. => some []
  | _ => none

structure OneKSound (s : OneK) : Prop where
  fresh : s.watch.Fresh
  sweeping : ∀ rest, pending s.poll.phase = some rest → s.watch.Sweeping everyPackage rest

theorem after_running {w : Watch Package} {u : Poll}
    (h : ¬ ∃ response code, u.phase = .returned response code) : OneK.after w u = ⟨u, w⟩ := by
  unfold OneK.after
  split
  · exact absurd ⟨_, _, ‹_›⟩ h
  · rfl

theorem after_returned {w : Watch Package} {u : Poll}
    (h : ∃ response code, u.phase = .returned response code) :
    OneK.after w u = ⟨u, w.returned everyPackage⟩ := by
  obtain ⟨response, code, hphase⟩ := h
  simp only [OneK.after, hphase]

theorem after_sound {w : Watch Package} {u : Poll} (hfresh : w.Fresh)
    (h : ∀ rest, pending u.phase = some rest → w.Sweeping everyPackage rest) :
    OneKSound (OneK.after w u) := by
  by_cases hreturned : ∃ response code, u.phase = .returned response code
  · rw [after_returned hreturned]
    refine ⟨Watch.returned_fresh _ _, ?_⟩
    obtain ⟨response, code, hphase⟩ := hreturned
    intro rest hrest
    rw [show pending u.phase = none from congrArg pending hphase] at hrest
    cases hrest
  · rw [after_running hreturned]
    exact ⟨hfresh, h⟩

/-- No due sweep comes back with a package unread: on a dead bus there is one. -/
def OneKThorough (s : OneK) : Event → Prop
  | .package reads _ => ∀ package rest, s.poll.phase = .polling (package :: rest) →
      s.watch.forceReadAll = true → ¬ BusDead package reads s.poll
  | .finish => s.watch.forceReadAll = true → AllRead s.watch
  | _ => True

theorem package_step (clock : Int → Int) {package : Package} {rest : List Package}
    (h : OneKSound s) (hpolling : s.poll.phase = .polling (package :: rest))
    (reads : List FrameRead) (files : CounterFiles) :
    let w := s.watch.note package (packageRead clock package reads s.poll)
    let t := OneK.after w (pollPackage clock package rest reads files s.poll)
    OneKSound t ∧ (s.watch.Guaranteed → (t.watch.Guaranteed ↔
      (s.watch.forceReadAll = true → ¬ BusDead package reads s.poll))) := by
  intro w t
  have hsweeping : w.Sweeping everyPackage rest :=
    (h.sweeping _ (congrArg pending hpolling)).note _
  have hfresh : w.Fresh := h.fresh
  constructor
  · refine after_sound hfresh ?_
    intro rest' hrest
    rcases pollPackage_phase clock package rest reads files s.poll with
      ⟨e, hphase⟩ | ⟨code, -, hphase⟩ | hphase
    all_goals
      rw [congrArg pending hphase] at hrest
      cases hrest
    exact hsweeping
  · intro hg
    by_cases hdead : BusDead package reads s.poll
    · have hreturned := (pollPackage_returned_iff clock package rest reads files s.poll).mpr hdead
      have hunread : ¬ AllRead w := by
        intro hall
        have hread := hall (package, packageRead clock package reads s.poll)
          (List.mem_append_right _ (List.mem_singleton.mpr rfl))
        rw [packageRead_of_busDead hdead] at hread
        cases hread
      have hiff := Watch.returned_guaranteed_iff (w := w) hg hfresh hsweeping
      rw [show t = _ from after_returned hreturned]
      refine hiff.trans ?_
      constructor
      · intro hread hdue
        exact absurd (hread hdue).2 hunread
      · intro hthorough hdue
        exact absurd hdead (hthorough hdue)
    · have hrunning := mt (pollPackage_returned_iff clock package rest reads files s.poll).mp hdead
      rw [show t = _ from after_running hrunning]
      exact iff_of_true hg (fun _ => hdead)

/-- A stage behind the packages reads nothing more. -/
theorem behind_step {u : Poll} (h : OneKSound s) (hbehind : pending s.poll.phase = some [])
    (hphase : (∃ e, u.phase = .raised e) ∨ u.phase = .notifying ∨
      ∃ remaining params code, u.phase = .draining remaining params code) :
    OneKSound (OneK.after s.watch u) ∧
      (s.watch.Guaranteed → (OneK.after s.watch u).watch.Guaranteed) := by
  have hrunning : ¬ ∃ response code, u.phase = .returned response code := by
    rintro ⟨response, code, hreturned⟩
    rcases hphase with ⟨e, he⟩ | he | ⟨remaining, params, code', he⟩
    all_goals
      rw [he] at hreturned
      cases hreturned
  refine ⟨after_sound h.fresh ?_, ?_⟩
  · intro rest hrest
    rcases hphase with ⟨e, he⟩ | he | ⟨remaining, params, code', he⟩
    all_goals
      rw [congrArg pending he] at hrest
      cases hrest
    all_goals exact h.sweeping _ hbehind
  · rw [after_running hrunning]
    exact id

theorem finish_step {params : List Int} {code : Rs232Code} (h : OneKSound s)
    (hdraining : s.poll.phase = .draining [] params code) :
    let t := OneK.after s.watch (finishPoll params code s.poll)
    OneKSound t ∧ (s.watch.Guaranteed →
      (t.watch.Guaranteed ↔ (s.watch.forceReadAll = true → AllRead s.watch))) := by
  have hreturned : ∃ response code', (finishPoll params code s.poll).phase =
      .returned response code' := by
    simp only [finishPoll, response]
    split
    · exact ⟨_, _, rfl⟩
    · exact ⟨_, _, rfl⟩
  have hsweeping := h.sweeping [] (congrArg pending hdraining)
  refine ⟨after_sound h.fresh ?_, fun hg => ?_⟩
  · obtain ⟨response, code', hphase⟩ := hreturned
    intro rest hrest
    rw [congrArg pending hphase] at hrest
    cases hrest
  · rw [after_returned hreturned, Watch.returned_guaranteed_iff hg h.fresh hsweeping]
    simp [AllRead]

/-- Another operation on the bus is not part of any poll. -/
theorem idle_step {u : Poll} (h : OneKSound s) (hphase : u.phase = .ready) :
    OneKSound (OneK.after s.watch u) ∧
      (s.watch.Guaranteed → (OneK.after s.watch u).watch.Guaranteed) := by
  have hrunning : ¬ ∃ response code, u.phase = .returned response code := by
    rw [hphase]
    rintro ⟨response, code, hreturned⟩
    cases hreturned
  refine ⟨after_sound h.fresh ?_, ?_⟩
  · intro rest hrest
    rw [congrArg pending hphase] at hrest
    cases hrest
  · rw [after_running hrunning]
    exact id

theorem oneK_step {e : Event} (h : OneKSound s) (hstep : oneKStep clock s e = some t) :
    OneKSound t ∧ (s.watch.Guaranteed → (t.watch.Guaranteed ↔ OneKThorough s e)) := by
  cases e with
  | begin callerForce =>
    obtain ⟨u, hu, rfl⟩ := Option.map_eq_some_iff.mp hstep
    cases stepped hu with
    | begin forceReadAll idle =>
      refine ⟨⟨h.fresh, ?_⟩, fun hg => iff_of_true hg trivial⟩
      intro rest hrest
      cases hrest
      refine Watch.begin_sweeping _ callerForce s.watch ?_
      intro hforced
      rw [hforced]
      rfl
  | package reads files =>
    obtain ⟨u, hu, rfl⟩ := Option.map_eq_some_iff.mp hstep
    cases stepped hu with
    | @package _ _ package rest hpolling =>
      simp only [watchStep, hpolling]
      obtain ⟨hsound, hiff⟩ := package_step clock h hpolling reads files
      refine ⟨hsound, fun hg => (hiff hg).trans ?_⟩
      constructor
      · intro hthorough package' rest' hpolling'
        rw [hpolling] at hpolling'
        cases hpolling'
        exact hthorough
      · intro hthorough
        exact hthorough package rest hpolling
  | virtual =>
    obtain ⟨u, hu, rfl⟩ := Option.map_eq_some_iff.mp hstep
    cases stepped hu with
    | virtual hpolling =>
      obtain ⟨hsound, hkept⟩ := behind_step (u := pollVirtual clock s.poll) h
        (congrArg pending hpolling) (by
          simp only [pollVirtual]
          split
          · exact .inl ⟨_, rfl⟩
          · exact .inr (.inl rfl))
      exact ⟨hsound, fun hg => iff_of_true (hkept hg) trivial⟩
  | notification =>
    obtain ⟨u, hu, rfl⟩ := Option.map_eq_some_iff.mp hstep
    cases stepped hu with
    | notification hnotifying =>
      obtain ⟨hsound, hkept⟩ := behind_step (u := pollNotification clock s.poll) h
        (congrArg pending hnotifying) (by
          simp only [pollNotification]
          split
          · exact .inl ⟨_, rfl⟩
          · exact .inr (.inr ⟨_, _, _, rfl⟩))
      exact ⟨hsound, fun hg => iff_of_true (hkept hg) trivial⟩
  | vfdResult =>
    obtain ⟨u, hu, rfl⟩ := Option.map_eq_some_iff.mp hstep
    cases stepped hu with
    | @vfdResult resp remaining params code hdraining =>
      obtain ⟨hsound, hkept⟩ := behind_step (u := pollVfdResult resp remaining params s.poll) h
        (congrArg pending hdraining) (by
          simp only [pollVfdResult]
          split
          · exact .inl ⟨_, rfl⟩
          · exact .inr (.inr ⟨_, _, _, rfl⟩))
      exact ⟨hsound, fun hg => iff_of_true (hkept hg) trivial⟩
  | finish =>
    obtain ⟨u, hu, rfl⟩ := Option.map_eq_some_iff.mp hstep
    cases stepped hu with
    | finish hdraining => exact finish_step h hdraining
  | read cmd type reads =>
    obtain ⟨u, hu, rfl⟩ := Option.map_eq_some_iff.mp hstep
    cases stepped hu with
    | read _ _ _ idle =>
      exact ⟨(idle_step h rfl).1, fun hg => iff_of_true ((idle_step h rfl).2 hg) trivial⟩
  | write param value =>
    obtain ⟨u, hu, rfl⟩ := Option.map_eq_some_iff.mp hstep
    cases stepped hu with
    | write _ _ idle =>
      exact ⟨(idle_step h rfl).1, fun hg => iff_of_true ((idle_step h rfl).2 hg) trivial⟩

theorem oneKBound_sound (h : Handler) : OneKSound (oneKBound h) where
  fresh _ := rfl
  sweeping rest h := by cases h

/-- The guarantee on a 1k lift. -/
theorem oneK_guaranteed_iff (h : Handler) {path : List (OneK × Event)}
    (r : Run (oneKStep clock) (oneKBound h) path t) :
    Always (fun s => s.watch.Guaranteed) path t ↔ Meets OneKThorough path :=
  r.always_iff (fun _ _ _ hs hstep => (oneK_step hs hstep).1)
    (fun _ _ _ hs hg hstep => (oneK_step hs hstep).2 hg) (oneKBound_sound h)
    (by intro h; cases h)

end OneK

/-! ### The guarantee -/

section Guarantee

open PyNumber PyJson ModbusHandler AhlLib Rs232Handler

/-- Without the flag some forced sweep since the bind has read everything, all along a run,
exactly if no due sweep of the run comes back with something unread. -/
theorem coldStart_guaranteed_iff (newTable : Bool) (cache : Cache) (clock : Int → Int)
    (h : Handler) :
    (∀ path t, Run (ahlStep newTable) (ahlBound cache) path t →
      (Always (fun s => s.watch.Guaranteed) path t ↔ Meets AhlThorough path)) ∧
    ∀ path t, Run (oneKStep clock) (oneKBound h) path t →
      (Always (fun s => s.watch.Guaranteed) path t ↔ Meets OneKThorough path) :=
  ⟨fun _ _ r => ahl_guaranteed_iff cache r, fun _ _ r => oneK_guaranteed_iff h r⟩

def noCache : Cache := fun _ => none

/-- A call with the link down. -/
def down : Call := .bus (fun _ => .foreign) (fun _ => false)

/-- A call that gets a value. -/
def valued : Call := .bus (fun _ => .pdu false 3 (some [0, 7]) none none) (fun _ => true)

/-- The bus raises in the first poll. The next one reads every parameter, and the one behind it
finds the link down. -/
def ahlSweep : List AhlEvent :=
  [.poll false down, .read (.raised .valueError), .poll false valued] ++
    List.replicate 153 (.read valued) ++ [.poll false down]

/-- The first reply of the last call is enough, and so were the calls before it. -/
def completes (s : Ahl) : AhlEvent → Bool
  | .read (.bus replies up) =>
    match s.remaining with
    | some [_] => s.watch.outcomes.all (fun o => o.2) && up 0 &&
        isRead (validateReadParamResponse (replies 0)).2.2
    | _ => true
  | _ => true

theorem thorough_of_completes (s : Ahl) (e : AhlEvent) (h : completes s e = true) :
    AhlThorough s e := by
  cases e with
  | read call =>
    rintro param hlast ⟨replies, up, rfl, -, hunread⟩
    simp only [completes, hlast, Bool.and_eq_true, List.all_eq_true] at h
    obtain ⟨⟨hall, hup⟩, hread⟩ := h
    exact hunread ⟨hall, hup, 0, by decide, (isRead_iff _).mp hread⟩
  | poll | other => trivial

/-- A frame that answers the request for a package. -/
def replyTo (package : ThousandLib.Package) : Dict :=
  let q := query package
  let bytes : Json := .list (List.replicate 100 (.int 9))
  if q.cmd = "readFile" then
    [("cmd", .str q.cmd), ("name", .str "/aritco/param"), ("err", .int 0), ("data", bytes)]
  else if q.cmd ∈ ["liftRef1", "liftRef2", "liftName"] then
    [("cmd", .str q.cmd), ("data", .str "lift")]
  else
    [("cmd", .str q.cmd), ("data", bytes)] ++ if q.type = "" then [] else [("type", .str q.type)]

/-- Every package is answered. The poll behind it finds the bus dead. -/
def oneKSweep : List Rs232Handler.Event :=
  .begin false ::
    everyPackage.map (fun package => .package [.text (some [.object (replyTo package)])] noFiles) ++
    [.virtual, .notification, .finish, .begin false, .package [] noFiles]

/-- A package that is due is read, and at the end they all are. -/
def fulfils (s : OneK) : Rs232Handler.Event → Bool
  | .package reads _ =>
    match s.poll.phase with
    | .polling (package :: _) =>
      !s.watch.forceReadAll || packageRead id package reads s.poll
    | _ => false
  | .finish => s.watch.outcomes.all (fun o => o.2)
  | _ => true

theorem thorough_of_fulfils (s : OneK) (e : Rs232Handler.Event) (h : fulfils s e = true) :
    OneKThorough s e := by
  cases e with
  | package reads files =>
    intro package rest hphase hdue hdead
    simp [fulfils, hphase, hdue, packageRead_of_busDead hdead] at h
  | finish =>
    intro _ o ho
    exact List.all_eq_true.mp h o ho
  | _ => trivial

/-- On both libraries a poll that reads everything clears the flag. -/
theorem coldStart_guaranteed_iff_sweep :
    (∃ t, exec (ahlStep false) (ahlBound noCache) ahlSweep = some t ∧
      t.watch.forceReadAll = false ∧ Always (fun s => s.watch.Guaranteed)
        (trace (ahlStep false) (ahlBound noCache) ahlSweep) t) ∧
    ∃ t, exec (oneKStep id) (oneKBound (booted true).handler) oneKSweep = some t ∧
      t.watch.forceReadAll = false ∧ Always (fun s => s.watch.Guaranteed)
        (trace (oneKStep id) (oneKBound (booted true).handler) oneKSweep) t := by
  obtain ⟨hahl, honeK⟩ := coldStart_guaranteed_iff false noCache id (booted true).handler
  constructor
  · have hrun : (exec (ahlStep false) (ahlBound noCache) ahlSweep).map
          (fun t => t.watch.forceReadAll) = some false ∧
        (trace (ahlStep false) (ahlBound noCache) ahlSweep).all (fun p => completes p.1 p.2) =
          true := by decide +kernel
    obtain ⟨t, ht, hflag⟩ := Option.map_eq_some_iff.mp hrun.1
    exact ⟨t, ht, hflag,
      (hahl _ _ (exec_run ht)).mpr (meets_of_check thorough_of_completes hrun.2)⟩
  · have hrun : (exec (oneKStep id) (oneKBound (booted true).handler) oneKSweep).map
          (fun t => t.watch.forceReadAll) = some false ∧
        (trace (oneKStep id) (oneKBound (booted true).handler) oneKSweep).all
          (fun p => fulfils p.1 p.2) = true := by decide +kernel
    obtain ⟨t, ht, hflag⟩ := Option.map_eq_some_iff.mp hrun.1
    exact ⟨t, ht, hflag,
      (honeK _ _ (exec_run ht)).mpr (meets_of_check thorough_of_fulfils hrun.2)⟩

/-- With the link down all along, and with a 1k lift that is silent, the first poll clears the
flag. -/
theorem coldStart_not_guaranteed :
    (∃ path t, Run (ahlStep true) (ahlBound noCache) path t ∧ ¬ t.watch.Guaranteed) ∧
    ∃ path t, Run (oneKStep id) (oneKBound (booted true).handler) path t ∧
      ¬ t.watch.Guaranteed := by
  constructor
  · have hflags : (exec (ahlStep true) (ahlBound noCache)
        (.poll false down :: List.replicate (everyParam true).length (.read down))).map
          (fun t => (t.watch.forceReadAll, t.watch.swept)) = some (false, false) := by
      decide +kernel
    obtain ⟨t, ht, hflag⟩ := Option.map_eq_some_iff.mp hflags
    obtain ⟨hforce, hswept⟩ := Prod.mk.inj hflag
    refine ⟨_, t, exec_run ht, ?_⟩
    simp [Watch.Guaranteed, hforce, hswept]
  · have hflags : (exec (oneKStep id) (oneKBound (booted true).handler)
        [.begin false, .package [] noFiles]).map
          (fun t => (t.watch.forceReadAll, t.watch.swept)) = some (false, false) := by
      decide +kernel
    obtain ⟨t, ht, hflag⟩ := Option.map_eq_some_iff.mp hflags
    obtain ⟨hforce, hswept⟩ := Prod.mk.inj hflag
    refine ⟨_, t, exec_run ht, ?_⟩
    simp [Watch.Guaranteed, hforce, hswept]

end Guarantee

end NexyGateway.ColdStart
