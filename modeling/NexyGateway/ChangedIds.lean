import NexyGateway.PollReports

/-!
# The list of changed ids as a text

`poll_lift` writes the ids into one text and `poll_params` reads them from it. The text
that stands for no ids is also the text of parameter 0 alone.
-/
namespace NexyGateway.Rs232Handler

open PyNumber PyJson ThousandLib Runs

/-- `poll_params` returns what has been collected. -/
structure ReturnsIds (t : Poll) (code : Rs232Code) : Prop where
  collected : (code = .NO_ERR ∨ code = .PARTIAL_ERR) → t.updated ≠ [] → t.phase.reply = t.updated
  nothing : t.updated = [] → t.phase.reply = []

section Ends

variable {clock : Int → Int} {s t : Poll} {event : Event} {response : Option String}
  {code : Rs232Code}

theorem take_unreturned (u : Update) (rest : List Package) (s : Poll) :
    (s.take u rest).phase ≠ .returned response code := by
  unfold Poll.take
  cases u.error with
  | some e => simp [Poll.raise]
  | none => by_cases hcode : u.errCode = .NO_ERR <;> simp [hcode]

/-- A package ends the call only for a dead bus. -/
theorem pollPackage_returned {package : Package} {rest : List Package} {reads : List FrameRead}
    {files : CounterFiles}
    (h : (pollPackage clock package rest reads files s).phase = .returned response code) :
    isDead code = true := by
  unfold pollPackage at h
  split at h
  · cases h
  · cases h
  · simp only at h
    rcases receive_cases clock package rest _ _ with
      ⟨e, -, hres⟩ | ⟨v, code', -, hdead, hres⟩ | ⟨v, code', -, -, -, hres⟩ | ⟨v, -, hres⟩
    · rw [hres] at h
      cases h
    · rw [hres] at h
      cases h
      exact hdead
    · rw [hres] at h
      cases h
    · rw [hres] at h
      exact absurd h (take_unreturned _ _ _)

/-- A call that returns has found the bus dead, or has gone through to its reply. -/
theorem callStep_returned (hstep : callStep clock s event = some t)
    (hreturned : t.phase = .returned response code) :
    isDead code = true ∨ t.phase = Rs232Handler.response t.updated t.errCode := by
  obtain ⟨hbusy, hstep⟩ := Option.ite_none_left_eq_some.mp hstep
  cases stepped hstep with
  | begin forceReadAll idle => exact absurd idle hbusy
  | package reads files polling => exact .inl (pollPackage_returned hreturned)
  | virtual polling =>
    unfold pollVirtual at hreturned
    simp only at hreturned
    split at hreturned <;> cases hreturned
  | notification notifying =>
    unfold pollNotification at hreturned
    simp only at hreturned
    split at hreturned <;> cases hreturned
  | vfdResult draining =>
    unfold pollVfdResult at hreturned
    simp only at hreturned
    split at hreturned <;> cases hreturned
  | finish draining => exact .inr rfl
  | read cmd type reads idle => exact absurd idle hbusy
  | write param value idle => exact absurd idle hbusy

end Ends

section Claim

variable {clock : Int → Int} {s t : Poll} {event : Event} {text : Option String}
  {code : Rs232Code}

/-- The ids of a poll are returned as they were collected exactly if parameter 0 is not the only
one. -/
theorem returnsIds_iff (hstep : callStep clock s event = some t)
    (hreturned : t.phase = .returned text code) (hids : ∀ p ∈ t.updated, IsId p) :
    ReturnsIds t code ↔ ((code = .NO_ERR ∨ code = .PARTIAL_ERR) → t.updated ≠ [0]) := by
  rcases callStep_returned hstep hreturned with hdead | hresponse
  · have hreply : t.phase.reply = [] := by rw [hreturned, reply_dead hdead]
    have hcode : ¬ (code = .NO_ERR ∨ code = .PARTIAL_ERR) := by
      rintro (rfl | rfl) <;> cases hdead
    exact iff_of_true ⟨fun h => absurd h hcode, fun _ => hreply⟩ fun h => absurd h hcode
  · by_cases hempty : t.updated = []
    · have hreply : t.phase.reply = [] := by
        rw [hresponse, hempty]
        simp [Rs232Handler.response, Phase.reply, pollParams]
      exact iff_of_true ⟨fun _ hne => absurd hempty hne, fun _ => hreply⟩ fun _ => by simp [hempty]
    · have hcode : code = t.errCode := by
        have hfull : t.updated.isEmpty = false := by simpa using hempty
        rw [hresponse, Rs232Handler.response, hfull] at hreturned
        cases hreturned
        rfl
      subst hcode
      by_cases hgood : t.errCode = .NO_ERR ∨ t.errCode = .PARTIAL_ERR
      · have hreply : t.phase.reply = if t.updated = [0] then [] else t.updated := by
          rw [hresponse, reply_response hids hgood]
        constructor
        · intro h _ hzero
          have hall := h.collected hgood hempty
          rw [hreply, if_pos hzero] at hall
          exact hempty hall.symm
        · intro h
          rw [if_neg (h hgood)] at hreply
          exact ⟨fun _ _ => hreply, fun hno => absurd hno hempty⟩
      · exact iff_of_true ⟨fun h => absurd h hgood, fun hno => absurd hno hempty⟩
          fun h => absurd h hgood

/-- The texts that the lift sends, then garbled frames up to the reply. -/
def textsOnly (texts : List (String × String)) : List Event :=
  texts.map (fun text => .package (texted text.1 text.2 []) noFiles)
    ++ List.replicate (11 - texts.length) garbled ++ [.virtual, .notification]

/-- The call before its last step. -/
def untilReply (texts : List (String × String)) : Option Poll :=
  exec (callStep fun _ => 0) (beginPoll false unused) (textsOnly texts)

/-- Parameters 0 and 1 come back. -/
theorem returnsIds_both : ∃ s t,
    untilReply [("liftRef1", "AR1"), ("liftRef2", "T1")] = some s ∧
      callStep (fun _ => 0) s .finish = some t ∧ t.updated = [0, 1] ∧
      ReturnsIds t .PARTIAL_ERR := by
  have hend : ((untilReply [("liftRef1", "AR1"), ("liftRef2", "T1")]).bind
      (fun s => callStep (fun _ => 0) s .finish)).map (fun t => (t.updated, t.phase)) =
        some ([0, 1], .returned (some "0x1") .PARTIAL_ERR) := rfl
  obtain ⟨t, ht, hfields⟩ := Option.map_eq_some_iff.mp hend
  obtain ⟨s, hs, hstep⟩ := Option.bind_eq_some_iff.mp ht
  obtain ⟨hupdated, hphase⟩ := Prod.mk.inj hfields
  have hids : ∀ p ∈ t.updated, IsId p := by
    rw [hupdated]
    decide
  refine ⟨s, t, hs, hstep, hupdated, (returnsIds_iff hstep hphase hids).mpr fun _ => ?_⟩
  rw [hupdated]
  decide

/-- Parameter 0 alone does not. -/
theorem not_always_returnsIds : ¬ ∀ (clock : Int → Int) (h : Handler) (forceReadAll : Bool)
    (path : List (Poll × Event)) (s t : Poll) (event : Event) (text : Option String)
    (code : Rs232Code), Run (callStep clock) (beginPoll forceReadAll h) path s →
      callStep clock s event = some t → t.phase = .returned text code →
      (∀ p ∈ t.updated, IsId p) → ReturnsIds t code := by
  intro hall
  have hend : ((untilReply [("liftRef1", "AR1")]).bind
      (fun s => callStep (fun _ => 0) s .finish)).map
        (fun t => (t.updated, t.phase, t.phase.reply)) =
          some ([0], .returned (some "0") .PARTIAL_ERR, []) := rfl
  obtain ⟨t, ht, hfields⟩ := Option.map_eq_some_iff.mp hend
  obtain ⟨s, hs, hstep⟩ := Option.bind_eq_some_iff.mp ht
  simp only [Prod.mk.injEq] at hfields
  obtain ⟨hupdated, hphase, hreply⟩ := hfields
  have hids : ∀ p ∈ t.updated, IsId p := by
    rw [hupdated]
    decide
  have hreturns := hall _ unused false _ s t _ _ _ (exec_run hs) hstep hphase hids
  have hcollected := hreturns.collected (.inr rfl) (by simp [hupdated])
  rw [hreply, hupdated] at hcollected
  cases hcollected

end Claim

end NexyGateway.Rs232Handler
