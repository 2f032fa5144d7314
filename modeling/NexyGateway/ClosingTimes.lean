import NexyGateway.PollLift
import NexyGateway.SignalReferences

/-!
# Door closing times

The notifications of package 135 that have come in during a poll wait in a queue until
`Rs232Handler.get_notification` looks at them. It goes through the same helper as a status, of
which only the latest counts.
-/
namespace NexyGateway.Rs232Handler

open PyNumber PyJson ThousandLib

/-- The parameters that are up to date with a code, or the exception, and the handler left. -/
def getNotification (clock : Int → Int) (h : Handler) :
    Except PyError (List Int × Rs232Code) × Handler :=
  let u := notificationUpdate clock h
  match u.error with
  | some e => (.error e, h.withLib u.lib)
  | none =>
    (.ok (u.changed, u.errCode),
      { h with lib := reset135Params u.lib, saved := { h.saved with operation := [] } })

/-- The poll takes over what `get_notification` returns. -/
theorem pollNotification_eq (clock : Int → Int) (s : Poll) :
    pollNotification clock s =
      match getNotification clock s.handler with
      | (.error e, h) => { s with handler := h }.raise e
      | (.ok (ids, code), h) =>
        { s with
          handler := h
          errCode := if code ≠ .NO_ERR then .PARTIAL_ERR else s.errCode
          updated := s.updated ++ ids
          phase := .draining s.handler.saved.vfdResult [] .NO_ERR } := by
  simp only [pollNotification, getNotification]
  cases (notificationUpdate clock s.handler).error <;> rfl

/-- A door, and how long it took to close. -/
structure ClosingTime where
  door : Nat
  time : Nat
  isDoor : 1 ≤ door ∧ door ≤ 6
  isWord : time < 2 ^ 16

namespace ClosingTime

/-- The parameter that keeps the closing time of the door. -/
def param (c : ClosingTime) : Int := 154 + c.door

def text (c : ClosingTime) : String := toString (c.time : Int)

/-- Two words of two bytes, little endian. -/
def bytes (c : ClosingTime) : List Json :=
  [.int c.door, .int 0, .int (c.time % 256 : Nat), .int (c.time / 256 : Nat)]

/-- The notification is one of package 135 and tells this time, whatever comes behind it. -/
def ToldBy (c : ClosingTime) (rsp : Dict) : Prop :=
  typeIs rsp doorClosingTimeType = true ∧
    ∃ more, rsp.lookup "data" = some (.list (c.bytes ++ more))

variable {c : ClosingTime} {clock : Int → Int} {lib : Lib}

theorem param_mem (c : ClosingTime) : c.param ∈ doorClosingTimeParams := by
  obtain ⟨door, time, ⟨hlow, hhigh⟩, hword⟩ := c
  simp only [param, doorClosingTimeParams, List.mem_cons, List.not_mem_nil, or_false]
  omega

theorem param_inj {c c' : ClosingTime} : c.param = c'.param ↔ c.door = c'.door := by
  simp [param]

theorem unpackSignal_door (c : ClosingTime) (more : List Json) :
    unpackSignal clock doorNumber (.list (c.bytes ++ more)) =
      .ok (.str (toString (c.door : Int)), .NO_ERR) := by
  obtain ⟨door, time, ⟨hlow, hhigh⟩, hword⟩ := c
  refine unpackSignal_cut clock rfl (n := door) (by simp only [doorNumber, uint16]; omega)
    (region_cut fun j hj => ?_)
  change j < 2 at hj
  have hsmall : door % 256 = door ∧ door / 256 = 0 := by omega
  interval_cases j
  · simp [doorNumber, uint16, bytes, hsmall.1]
  · simp [doorNumber, uint16, bytes, hsmall.2]

theorem unpackSignal_time (c : ClosingTime) (more : List Json) :
    unpackSignal clock doorClosingTime (.list (c.bytes ++ more)) = .ok (.str c.text, .NO_ERR) := by
  obtain ⟨door, time, hdoor, hword⟩ := c
  refine unpackSignal_cut clock rfl (n := time) (by simp only [doorClosingTime, uint16]; omega)
    (region_cut fun j hj => ?_)
  change j < 2 at hj
  have hsmall : time / 256 % 256 = time / 256 := by omega
  interval_cases j
  · simp [doorClosingTime, uint16, bytes]
  · simp [doorClosingTime, uint16, bytes, hsmall]

theorem closingTimeParam_door (c : ClosingTime) :
    closingTimeParam (.str (toString (c.door : Int))) = some c.param := by
  have hall : ∀ door < 7, 1 ≤ door → closingTimeParam (.str (toString ((door : Nat) : Int))) =
      some (154 + (door : Int)) := by decide +kernel
  exact hall c.door (by have := c.isDoor; omega) c.isDoor.1

/-- A well-formed notification sets the parameter of its door. -/
theorem updateDoorClosingTime_told (c : ClosingTime) (more : List Json) :
    updateDoorClosingTime clock (.list (c.bytes ++ more)) lib =
      ⟨lib.set c.param (.str c.text), [c.param], .NO_ERR, none⟩ := by
  simp only [updateDoorClosingTime, unpackSignal_door, unpackSignal_time, closingTimeParam_door,
    ne_eq, not_true_eq_false, if_false]

end ClosingTime

section Claim

variable {clock : Int → Int} {h : Handler} {operation : List Dict} {times : List ClosingTime}

/-- Each notification of the queue tells the closing time in its place. -/
def Told (operation : List Dict) (times : List ClosingTime) : Prop :=
  List.Forall₂ (fun rsp c => ClosingTime.ToldBy c rsp) operation times

theorem Told.filter (htold : Told operation times) :
    operation.filter (fun rsp => typeIs rsp doorClosingTimeType) = operation := by
  apply List.filter_eq_self.mpr
  induction htold with
  | nil => simp
  | cons hfirst _ ih => exact List.forall_mem_cons.mpr ⟨hfirst.1, ih⟩

/-- What `__repackage_status` makes of one notification. -/
def listOf (rsp : Dict) : Option (List Json) :=
  match rsp.lookup "data" with
  | some (.list data) => some data
  | _ => none

theorem repackageStatus_eq (status : List Dict) :
    repackageStatus status =
      match status.mapM listOf with
      | none => .error .ARG_TYPE_ERR
      | some lists =>
        match lists.getLast? with
        | none => .error .STATUS_ERR
        | some data => .ok data := rfl

theorem Told.lists (htold : Told operation times) : ∃ lists, operation.mapM listOf = some lists ∧
    List.Forall₂ (fun (data : List Json) c => ∃ more, data = c.bytes ++ more) lists times := by
  induction htold with
  | nil => exact ⟨[], rfl, .nil⟩
  | cons hfirst _ ih =>
    obtain ⟨lists, hlists, hall⟩ := ih
    obtain ⟨-, more, hdata⟩ := hfirst
    exact ⟨_, by simp [listOf, hdata, hlists], .cons ⟨more, rfl⟩ hall⟩

/-- Only the last of the notifications is handed on. -/
theorem Told.closingTimes (htold : Told operation times) :
    (times = [] ∧ closingTimes operation = []) ∨
      ∃ c more, times.getLast? = some c ∧ closingTimes operation = c.bytes ++ more := by
  obtain ⟨lists, hlists, hall⟩ := htold.lists
  have hlast := List.forall₂_reverse_iff.mpr hall
  unfold Rs232Handler.closingTimes
  rw [htold.filter, repackageStatus_eq, hlists]
  simp only [List.getLast?_eq_head?_reverse]
  generalize hreverse : times.reverse = told at hlast
  generalize lists.reverse = read at hlast
  cases hlast with
  | nil => exact .inl ⟨List.reverse_eq_nil_iff.mp hreverse, rfl⟩
  | cons hfirst _ =>
    obtain ⟨more, rfl⟩ := hfirst
    exact .inr ⟨_, more, rfl, rfl⟩

/-- What `get_notification` leaves of a well-formed queue: the time that was told last. -/
theorem getNotification_told (htold : Told h.saved.operation times) :
    getNotification clock h =
      (.ok ((times.getLast?.map ClosingTime.param).toList, .NO_ERR),
        { h with
          lib := reset135Params (times.getLast?.elim h.lib fun c => h.lib.set c.param (.str c.text))
          saved := { h.saved with operation := [] } }) := by
  unfold getNotification notificationUpdate
  rcases htold.closingTimes with ⟨rfl, hempty⟩ | ⟨c, more, hlast, hbytes⟩
  · rw [hempty]
    rfl
  · have hsome : (c.bytes ++ more).isEmpty = false := rfl
    rw [hbytes, hsome, hlast]
    simp [ClosingTime.updateDoorClosingTime_told]

/-- The last closing time that a list tells of a parameter. -/
def lastTime (param : Int) (times : List ClosingTime) : Option ClosingTime :=
  (times.filter (fun c => c.param = param)).getLast?

/-- What becomes of the closing times that have been told: each door has its last one, and just
these parameters are returned. -/
structure NoTimeLost (times : List ClosingTime) (h : Handler) (ids : List Int) (h' : Handler) :
    Prop where
  kept : ∀ param c, lastTime param times = some c → h'.lib.value param = .str c.text
  returned : ∀ param, param ∈ ids ↔ ∃ c ∈ times, c.param = param
  others : ∀ param ∈ doorClosingTimeParams, (∀ c ∈ times, c.param ≠ param) →
    h'.lib.value param = h.lib.value param
  emptied : h'.saved.operation = []

theorem reset135_value {param : Int} (hparam : param ∈ doorClosingTimeParams) (lib : Lib) :
    (reset135Params lib).value param = lib.value param := by
  refine setAll_value_other _ _ fun hmem => ?_
  simp only [doorClosingTimeParams, doorNumber, doorClosingTime, uint16, List.mem_cons,
    List.not_mem_nil, or_false] at hparam hmem
  omega

/-- Where one door only has been told of, its last time is the last one of all. -/
theorem lastTime_of_one {c : ClosingTime} (hlast : times.getLast? = some c)
    (hone : ∀ c' ∈ times, c'.door = c.door) : lastTime c.param times = some c := by
  have hall : times.filter (fun c' => c'.param = c.param) = times := by
    apply List.filter_eq_self.mpr
    intro c' hc'
    exact decide_eq_true (ClosingTime.param_inj.mpr (hone c' hc'))
  rw [lastTime, hall, hlast]

/-- No closing time is lost exactly when all that have come in are of one door. -/
theorem getNotification_noTimeLost_iff (clock : Int → Int) (h : Handler)
    (times : List ClosingTime) (htold : Told h.saved.operation times) :
    (∃ ids code h', getNotification clock h = (.ok (ids, code), h') ∧
      NoTimeLost times h ids h') ↔ ∀ c ∈ times, ∀ c' ∈ times, c.door = c'.door := by
  rw [getNotification_told htold]
  cases hlast : times.getLast? with
  | none =>
    have hempty : times = [] := List.getLast?_eq_none_iff.mp hlast
    subst hempty
    refine iff_of_true ⟨_, _, _, rfl, ?_⟩ (by simp)
    constructor
    · simp [lastTime]
    · simp
    · intro param hparam _
      exact reset135_value hparam _
    · rfl
  | some c =>
    have hmem : c ∈ times := List.mem_of_getLast? hlast
    constructor
    · rintro ⟨ids, code, h', hresult, hkept⟩ c₁ hc₁ c₂ hc₂
      cases hresult
      have hparam : ∀ c' ∈ times, c'.door = c.door := by
        intro c' hc'
        have hreturned := (hkept.returned c'.param).mpr ⟨c', hc', rfl⟩
        simp only [Option.map_some, Option.toList_some, List.mem_singleton] at hreturned
        exact ClosingTime.param_inj.mp hreturned
      rw [hparam c₁ hc₁, hparam c₂ hc₂]
    · intro hone
      have hdoor : ∀ c' ∈ times, c'.door = c.door := fun c' hc' => hone c' hc' c hmem
      refine ⟨_, _, _, rfl, ?_⟩
      constructor
      · intro param c' hc'
        obtain ⟨hin, hparam⟩ := List.mem_filter.mp (List.mem_of_getLast? hc')
        have hparam : c'.param = param := of_decide_eq_true hparam
        have hsame : c'.param = c.param := ClosingTime.param_inj.mpr (hdoor c' hin)
        have hlastTime : lastTime c.param times = some c := lastTime_of_one hlast hdoor
        rw [← hsame, hparam, hc'] at hlastTime
        obtain rfl := Option.some.inj hlastTime
        rw [← hparam, reset135_value c'.param_mem]
        exact set_value_same _ _ _
      · intro param
        simp only [Option.map_some, Option.toList_some, List.mem_singleton]
        constructor
        · rintro rfl
          exact ⟨c, hmem, rfl⟩
        · rintro ⟨c', hc', rfl⟩
          exact ClosingTime.param_inj.mpr (hdoor c' hc')
      · intro param hparam hnone
        rw [reset135_value hparam]
        exact set_value_other _ _ (fun heq => hnone c hmem heq.symm)
      · rfl

/-- A notification of package 135 as it comes off the bus. -/
def notification (c : ClosingTime) : Dict :=
  [("cmd", .str "operation"), ("type", .str "135"), ("data", .list c.bytes)]

theorem told_notifications (times : List ClosingTime) : Told (times.map notification) times := by
  induction times with
  | nil => exact .nil
  | cons c times ih =>
    refine .cons ⟨rfl, [], ?_⟩ ih
    rw [List.append_nil]
    rfl

/-- A handler of a new gateway with a queue of notifications. -/
def queued (times : List ClosingTime) : Handler :=
  ⟨.fresh, ⟨times.map notification, []⟩, 0, true⟩

/-- The first door closes twice between two polls. -/
theorem getNotification_noTimeLost_twice : ∃ ids code h',
    getNotification (fun _ => 0) (queued [⟨1, 300, by decide, by decide⟩,
      ⟨1, 500, by decide, by decide⟩]) = (.ok (ids, code), h') ∧
    NoTimeLost [⟨1, 300, by decide, by decide⟩, ⟨1, 500, by decide, by decide⟩]
      (queued [⟨1, 300, by decide, by decide⟩, ⟨1, 500, by decide, by decide⟩]) ids h' :=
  (getNotification_noTimeLost_iff (fun _ => 0) _ _ (told_notifications _)).mpr (by simp)

/-- The first door closes, and then the second one: the first time is dropped. -/
theorem not_always_noTimeLost : ¬ ∀ (clock : Int → Int) (h : Handler) (times : List ClosingTime),
    Told h.saved.operation times → ∃ ids code h', getNotification clock h = (.ok (ids, code), h') ∧
      NoTimeLost times h ids h' := by
  intro hall
  let times : List ClosingTime := [⟨1, 300, by decide, by decide⟩, ⟨2, 400, by decide, by decide⟩]
  obtain ⟨ids, code, h', hresult, hkept⟩ :=
    hall (fun _ => 0) (queued times) times (told_notifications times)
  rw [getNotification_told (told_notifications times)] at hresult
  cases hresult
  have hfirst := hkept.kept 155 ⟨1, 300, by decide, by decide⟩ rfl
  change Json.str "" = _ at hfirst
  have htext := Json.str.inj hfirst
  revert htext
  decide

end Claim

end NexyGateway.Rs232Handler
