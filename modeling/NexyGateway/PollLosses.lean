import NexyGateway.PollReports

/-!
# What a poll loses of one parameter

A parameter that a step changes is collected, and one that has been collected stays so up
to the reply, unless the step gives it up.
-/
namespace NexyGateway.Rs232Handler

open PyNumber PyJson ThousandLib Runs

section Losses

variable {clock : Int → Int} {package : Package} {rest : List Package} {p : Int} {s t : Poll}
  {event : Event}

/-- The response ends the poll, or it stores a value of a package that does not unpack. -/
def LosesUpdate (clock : Int → Int) (package : Package) (response : Json) (lib : Lib) (p : Int)
    (s : Poll) : Prop :=
  (Unusable clock package response ∧ p ∈ s.updated) ∨
    (Misses clock package response ∧
      (updateFor clock package response lib).lib.value p ≠ lib.value p)

def LosesOutcome (clock : Int → Int) (package : Package)
    (outcome : Except PyError (Json × Rs232Code)) (lib : Lib) (p : Int) (s : Poll) : Prop :=
  match outcome with
  | .error _ => p ∈ s.updated
  | .ok (response, code) => (isDead code = true ∧ p ∈ s.updated) ∨
      (code = .NO_ERR ∧ LosesUpdate clock package response lib p s)

def LosesPackage (clock : Int → Int) (package : Package) (reads : List FrameRead)
    (files : CounterFiles) (p : Int) (s : Poll) : Prop :=
  match isPolled package s.handler.lib with
  | .error _ => p ∈ s.updated
  | .ok false => False
  | .ok true =>
    LosesOutcome clock package
      (exchange s.handler.available package reads s.handler.saved).1
      (prepared package files s.handler).lib p s

/-- The step gives the parameter up: the poll ends without a reply that should have it, or a
stage stores it and does not report it. -/
def Loses (clock : Int → Int) (p : Int) (s : Poll) : Event → Prop
  | .package reads files => ∃ package rest, s.phase = .polling (package :: rest) ∧
      LosesPackage clock package reads files p s
  | .virtual => VirtualFault s.handler.lib ∧ (p ∈ s.updated ∨
      (updateVirtualSignals clock s.handler.lib).lib.value p ≠ s.handler.lib.value p)
  | .notification => SavedTimeFault clock s.handler.saved ∧ p ∈ s.updated
  | .vfdResult => ∃ resp remaining params code,
      s.phase = .draining (resp :: remaining) params code ∧ VfdFault resp ∧
        p ∈ s.updated ++ params
  | .finish => ∃ params code, s.phase = .draining [] params code ∧
      s.updated ++ vfdIds params = [0] ∧ p = 0
  | _ => False

/-- A step keeps a parameter, or gives it up. -/
structure Keeps (p : Int) (s t : Poll) (loses : Prop) : Prop where
  kept : ¬ loses → p ∈ collected s ∨ t.handler.lib.value p ≠ s.handler.lib.value p →
    p ∈ collected t
  lost : loses → p ∉ collected t

theorem Keeps.congr {loses loses' : Prop} (h : Keeps p s t loses) (hiff : loses ↔ loses') :
    Keeps p s t loses' :=
  ⟨fun hno => h.kept (mt hiff.mp hno), fun hyes => h.lost (hiff.mpr hyes)⟩

/-- A poll that ends without a reply gives up what it has collected and what it changes. -/
theorem keeps_silent (hreply : collected t = []) :
    Keeps p s t (p ∈ collected s ∨ t.handler.lib.value p ≠ s.handler.lib.value p) where
  kept hno h := absurd h hno
  lost _ hmem := by
    rw [hreply] at hmem
    cases hmem

/-- A stage that reports what it changes gives nothing up. -/
theorem keeps_reported (hcollected : ∀ p ∈ collected s, p ∈ collected t)
    (hreported : t.handler.lib.value p ≠ s.handler.lib.value p → p ∈ collected t) :
    Keeps p s t False where
  kept _ h := h.elim (hcollected p) hreported
  lost h := h.elim

theorem take_keeps (hs : Tracked s) (hphase : s.phase = .polling (package :: rest))
    (response : Json) : Keeps p s (s.take (updateFor clock package response s.handler.lib) rest)
      (LosesUpdate clock package response s.handler.lib p s) := by
  have hcollected : collected s = s.updated := collected_polling hphase
  by_cases hmisses : Misses clock package response
  · by_cases hraises : (updateFor clock package response s.handler.lib).error = none
    · have husable : ¬ Unusable clock package response := fun h => updateFor_error_iff.mpr h hraises
      obtain ⟨hupdated, hnext⟩ := take_on hraises rest s
      have hsame : (s.take (updateFor clock package response s.handler.lib) rest).updated =
          s.updated := by
        rw [hupdated]
        rcases updateFor_missed s.handler.lib hmisses with h | h | h
        · exact absurd hraises h
        · simp [h]
        · simp [h]
      have hloses : LosesUpdate clock package response s.handler.lib p s ↔
          (updateFor clock package response s.handler.lib).lib.value p ≠
            s.handler.lib.value p := by
        simp [LosesUpdate, husable, hmisses]
      constructor
      · intro hno h
        rw [collected_polling hnext, hsame]
        rw [hloses] at hno
        rw [take_lib] at h
        exact hcollected ▸ h.resolve_right hno
      · intro hyes hmem
        have hp : p ∈ params package := by
          by_contra hout
          exact hloses.mp hyes (updateFor_frame hout)
        have hpending : p ∈ pending s.phase := by
          have hwritable := params_writable hphase hp
          rw [hphase] at hwritable ⊢
          exact hwritable
        rw [collected_polling hnext, hsame] at hmem
        exact (hs.fresh p hpending).2 hmem
    · have husable : Unusable clock package response := updateFor_error_iff.mp hraises
      obtain ⟨-, -, e, he⟩ := take_raised hraises rest s
      refine (keeps_silent ?_).congr ?_
      · rw [collected, he]
        rfl
      · rw [take_lib, hcollected]
        simp [LosesUpdate, husable, hmisses]
  · have husable : ¬ Unusable clock package response := fun h => hmisses h.misses
    obtain ⟨herror, hcode, hreported⟩ := updateFor_reported s.handler.lib hmisses
    obtain ⟨hupdated, hnext⟩ := take_on herror rest s
    rw [if_neg (by simpa using hcode)] at hupdated
    refine (keeps_reported ?_ ?_).congr ?_
    · intro q hq
      rw [collected_polling hnext, hupdated]
      exact List.mem_append_left _ (hcollected ▸ hq)
    · intro hne
      rw [take_lib] at hne
      rw [collected_polling hnext, hupdated]
      exact List.mem_append_right _ (hreported p hne)
    · simp [LosesUpdate, husable, hmisses]

theorem receive_keeps (hs : Tracked s) (hphase : s.phase = .polling (package :: rest))
    (outcome : Except PyError (Json × Rs232Code)) :
    Keeps p s (s.receive clock package rest outcome)
      (LosesOutcome clock package outcome s.handler.lib p s) := by
  have hcollected : collected s = s.updated := collected_polling hphase
  rcases receive_cases clock package rest outcome s with ⟨e, rfl, heq⟩ |
    ⟨response, code, rfl, hdead, heq⟩ | ⟨response, code, rfl, hdead, hcode, heq⟩ |
    ⟨response, rfl, heq⟩
  · rw [heq]
    have hend : Keeps p s (s.raise e) _ := keeps_silent rfl
    refine hend.congr ?_
    simp [Poll.raise, LosesOutcome, hcollected]
  · rw [heq]
    have hcode : code ≠ .NO_ERR := by
      rintro rfl
      cases hdead
    have hreply : (Phase.returned none code).reply = [] := reply_dead hdead
    have hend : Keeps p s { s with phase := .returned none code } _ := keeps_silent hreply
    refine hend.congr ?_
    simp [LosesOutcome, hcollected, hdead, hcode]
  · rw [heq]
    have hon : Keeps p s { s with errCode := .PARTIAL_ERR, phase := .polling rest } False := by
      refine keeps_reported ?_ fun hne => absurd rfl hne
      intro q hq
      exact hcollected ▸ hq
    refine hon.congr ?_
    simp [LosesOutcome, hdead, hcode]
  · rw [heq]
    refine (take_keeps hs hphase response).congr ?_
    simp [LosesOutcome, isDead]

theorem pollPackage_keeps (hs : Tracked s) (hphase : s.phase = .polling (package :: rest))
    (reads : List FrameRead) (files : CounterFiles) :
    Keeps p s (pollPackage clock package rest reads files s)
      (LosesPackage clock package reads files p s) := by
  have hcollected : collected s = s.updated := collected_polling hphase
  unfold pollPackage LosesPackage
  cases isPolled package s.handler.lib with
  | error e =>
    have hend : Keeps p s (s.raise e) _ := keeps_silent rfl
    refine hend.congr ?_
    simp [Poll.raise, hcollected]
  | ok polled =>
    cases polled with
    | false => exact keeps_reported (fun q hq => hcollected ▸ hq) fun hne => absurd rfl hne
    | true =>
      have hsame : exchange (prepared package files s.handler).available package reads
          (prepared package files s.handler).saved =
            exchange s.handler.available package reads s.handler.saved := by
        rw [prepared_available, prepared_saved]
      simp only [hsame]
      cases exchange s.handler.available package reads s.handler.saved with
      | mk outcome saved =>
        have hvalue : ({ prepared package files s.handler with saved := saved } :
            Handler).lib.value = s.handler.lib.value := prepared_value package files s.handler
        constructor
        · intro hno h
          refine (receive_keeps (tracked_with hvalue hs) hphase outcome).kept hno ?_
          rwa [hvalue]
        · exact (receive_keeps (tracked_with hvalue hs) hphase outcome).lost

theorem pollVirtual_keeps (hphase : s.phase = .polling []) :
    Keeps p s (pollVirtual clock s) (VirtualFault s.handler.lib ∧ (p ∈ s.updated ∨
      (updateVirtualSignals clock s.handler.lib).lib.value p ≠ s.handler.lib.value p)) := by
  have hcollected : collected s = s.updated := collected_polling hphase
  have hwithin := within_updateVirtualSignals clock s.handler.lib
  simp only [pollVirtual]
  cases herror : (updateVirtualSignals clock s.handler.lib).error with
  | some e =>
    have hfault : VirtualFault s.handler.lib :=
      updateVirtualSignals_error_iff.mp (by rw [herror]; simp)
    refine (keeps_silent rfl).congr ?_
    simp [Poll.raise, Handler.withLib, hcollected, hfault]
  | none =>
    have hsafe : ¬ VirtualFault s.handler.lib := fun hfault =>
      updateVirtualSignals_error_iff.mpr hfault herror
    refine (keeps_reported ?_ ?_).congr ?_
    · intro q hq
      exact List.mem_append_left _ (hcollected ▸ hq)
    · intro hne
      exact List.mem_append_right _ (hwithin.reported p hne)
    · simp [hsafe]

theorem pollNotification_keeps (hphase : s.phase = .notifying) (hp : Visible p) :
    Keeps p s (pollNotification clock s)
      (SavedTimeFault clock s.handler.saved ∧ p ∈ s.updated) := by
  have hcollected : collected s = s.updated := by rw [collected, hphase]
  have hframe : (notificationUpdate clock s.handler).lib.value p = s.handler.lib.value p :=
    notificationUpdate_frame s.handler hp.2
  have hfault := notificationUpdate_error_iff clock s
  simp only [pollNotification]
  cases herror : (notificationUpdate clock s.handler).error with
  | some e =>
    rw [herror] at hfault
    refine (keeps_silent rfl).congr ?_
    simp [Poll.raise, Handler.withLib, hcollected, hframe, hfault.mp]
  | none =>
    rw [herror] at hfault
    have hsafe : ¬ SavedTimeFault clock s.handler.saved := fun h => hfault.mpr h rfl
    have hvalue : (reset135Params (notificationUpdate clock s.handler).lib).value p =
        s.handler.lib.value p := (setAll_value_other _ _ hp.1).trans hframe
    refine (keeps_reported ?_ fun hne => absurd hvalue hne).congr ?_
    · intro q hq
      simp only [collected, List.append_nil]
      exact List.mem_append_left _ (hcollected ▸ hq)
    · simp [hsafe]

theorem pollVfdResult_keeps {resp : Dict} {remaining : List Dict} {params : List Int}
    {code : Rs232Code} (hphase : s.phase = .draining (resp :: remaining) params code) :
    Keeps p s (pollVfdResult resp remaining params s)
      (VfdFault resp ∧ p ∈ s.updated ++ params) := by
  have hwithin := within_updateVfdParams resp s.handler.lib
  have hcollected : collected s = s.updated ++ params := by rw [collected, hphase]
  have hfault : (updateVfdParams resp s.handler.lib).error ≠ none ↔ VfdFault resp :=
    updateVfdParams_error_iff s.handler.lib
  simp only [pollVfdResult]
  cases herror : (updateVfdParams resp s.handler.lib).error with
  | some e =>
    have hlib : (updateVfdParams resp s.handler.lib).lib = s.handler.lib :=
      updateVfdParams_raised (by simp [herror])
    rw [herror] at hfault
    refine (keeps_silent rfl).congr ?_
    simp [Poll.raise, Handler.withLib, hcollected, hlib, hfault.mp]
  | none =>
    rw [herror] at hfault
    have hsafe : ¬ VfdFault resp := fun h => hfault.mpr h rfl
    refine (keeps_reported ?_ ?_).congr ?_
    · intro q hq
      change q ∈ s.updated ++ (params ++ _)
      rw [← List.append_assoc, ← hcollected]
      exact List.mem_append_left _ hq
    · intro hne
      change p ∈ s.updated ++ (params ++ _)
      rw [← List.append_assoc]
      exact List.mem_append_right _ (hwithin.reported p hne)
    · simp [hsafe]

theorem finishPoll_collected (hs : Tracked s) {params : List Int} {code : Rs232Code}
    (hphase : s.phase = .draining [] params code) : collected (finishPoll params code s) =
      if s.updated ++ vfdIds params = [0] then [] else s.updated ++ vfdIds params := by
  have htracked : Tracked (finishPoll params code s) := (finishPoll_follows hs hphase).tracked
  exact (collected_idle (response_isIdle _ _)).trans (reply_response htracked.ids htracked.code)

theorem finishPoll_keeps (hs : Tracked s) {params : List Int} {code : Rs232Code}
    (hphase : s.phase = .draining [] params code) :
    Keeps p s (finishPoll params code s) (s.updated ++ vfdIds params = [0] ∧ p = 0) := by
  obtain ⟨hparams, -⟩ := hs.results _ _ _ hphase
  have hids : p ∈ s.updated ++ vfdIds params ↔ p ∈ collected s := by
    rw [collected, hphase, List.mem_append, List.mem_append, mem_vfdIds hparams]
  have hreply := finishPoll_collected hs hphase
  constructor
  · intro hno h
    have hmem := hids.mpr (h.resolve_right fun hne => hne rfl)
    rw [hreply]
    split
    · rename_i hzero
      rw [hzero, List.mem_singleton] at hmem
      exact absurd ⟨hzero, hmem⟩ hno
    · exact hmem
  · rintro ⟨hzero, -⟩ hmem
    rw [hreply, if_pos hzero] at hmem
    cases hmem

/-- What a step changes is collected behind it, and what was collected still is, exactly if the
step does not give it up. -/
theorem callStep_keeps (hs : Tracked s) (hp : Visible p) (hstep : callStep clock s event = some t) :
    Keeps p s t (Loses clock p s event) := by
  obtain ⟨hbusy, hstep⟩ := Option.ite_none_left_eq_some.mp hstep
  cases stepped hstep with
  | begin forceReadAll idle => exact absurd idle hbusy
  | package reads files polling =>
    refine (pollPackage_keeps hs polling reads files).congr ?_
    simp [Loses, polling]
  | virtual polling => exact pollVirtual_keeps polling
  | notification notifying => exact pollNotification_keeps notifying hp
  | vfdResult draining =>
    refine (pollVfdResult_keeps draining).congr ?_
    simp only [Loses, draining, Phase.draining.injEq, List.cons.injEq]
    constructor
    · exact fun h => ⟨_, _, _, _, ⟨⟨rfl, rfl⟩, rfl, rfl⟩, h⟩
    · rintro ⟨_, _, _, _, ⟨⟨rfl, -⟩, rfl, -⟩, h⟩
      exact h
  | finish draining =>
    refine (finishPoll_keeps hs draining).congr ?_
    simp [Loses, draining]
  | read cmd type reads idle => exact absurd idle hbusy
  | write param value idle => exact absurd idle hbusy

end Losses

end NexyGateway.Rs232Handler
