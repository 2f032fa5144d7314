import Mathlib.Data.List.Flatten
import NexyGateway.PackageReports

/-!
# What a poll reports

A call of `poll_lift` with everything it has changed, and the ids that `poll_params`
returns for it. What a poll has stored and not reported stays unreported: the next poll
compares with the value that is already there.
-/
namespace NexyGateway.Rs232Handler

open PyNumber PyJson ThousandLib Runs

section Replies

/-- The ids of a reply are those of the database. -/
def IsId (p : Int) : Prop := 0 ≤ p ∧ p ≤ 181

instance : DecidablePred IsId := fun _ => inferInstanceAs (Decidable (_ ∧ _))

def idText (p : Int) : List Char := (toString p).toList

theorem idText_of_isId {p : Int} (hp : IsId p) : 'x' ∉ idText p ∧ idText p ≠ [] ∧
    PyNumber.int (String.ofList (idText p)) = some p := by
  obtain ⟨n, rfl⟩ := Int.eq_ofNat_of_zero_le hp.1
  have htext : idText n = Nat.toDigits 10 n := by
    change (toString n).toList = _
    rw [Nat.toString_eq_ofList_toDigits, String.toList_ofList]
  have hint : PyNumber.int (toString n) = some (n : Int) := by
    have hn := hp.2
    exact int_toString_word (by omega)
  rw [htext]
  refine ⟨?_, ?_, ?_⟩
  · intro hmem
    exact absurd (Nat.isDigit_of_mem_toDigits (by decide) (by decide) hmem) (by decide)
  · exact List.ne_nil_of_length_pos Nat.length_toDigits_pos
  · rw [← Nat.toString_eq_ofList_toDigits]
    exact hint

/-- The ids that `poll_params` returns for a call that is over; an exception returns none. -/
def Phase.reply : Phase → List Int
  | .returned response code => pollParams response code
  | _ => []

theorem joinIds_split {ids : List Int} (hids : ∀ p ∈ ids, IsId p) (hne : ids ≠ []) :
    (joinIds ids).toList.splitOn 'x' = ids.map idText := by
  unfold joinIds
  rw [String.toList_ofList]
  apply List.splitOn_intercalate
  · intro l hl
    obtain ⟨p, hp, rfl⟩ := List.mem_map.mp hl
    exact (idText_of_isId (hids p hp)).1
  · simpa using hne

theorem idTexts_read {ids : List Int} (hids : ∀ p ∈ ids, IsId p) :
    (ids.map idText).mapM (fun part => PyNumber.int (String.ofList part)) = some ids := by
  induction ids with
  | nil => rfl
  | cons p ids ih =>
    obtain ⟨hp, hrest⟩ := List.forall_mem_cons.mp hids
    simp [(idText_of_isId hp).2.2, ih hrest]

/-- The text of the ids is the text of no ids only if it is the one of parameter 0. -/
theorem joinIds_zero {ids : List Int} (hids : ∀ p ∈ ids, IsId p) (hne : ids ≠ []) :
    joinIds ids = "0" ↔ ids = [0] := by
  constructor
  · intro hjoin
    have hsplit := joinIds_split hids hne
    rw [hjoin] at hsplit
    have hzero : ("0".toList).splitOn 'x' = ([0] : List Int).map idText := by decide
    have hread := idTexts_read hids
    rw [← hsplit, hzero, idTexts_read (by simp [IsId])] at hread
    exact (Option.some.inj hread).symm
  · rintro rfl
    rfl

/-- Every id is returned, unless parameter 0 is the only one. -/
theorem reply_response {ids : List Int} {code : Rs232Code} (hids : ∀ p ∈ ids, IsId p)
    (hcode : code = .NO_ERR ∨ code = .PARTIAL_ERR) :
    (response ids code).reply = if ids = [0] then [] else ids := by
  by_cases hne : ids = []
  · subst hne
    rcases hcode with rfl | rfl <;> rfl
  · have hpass : ¬ (code ≠ .NO_ERR ∧ code ≠ .PARTIAL_ERR) := by
      rcases hcode with rfl | rfl <;> decide
    have hempty : ids.isEmpty = false := by simpa using hne
    simp only [response, hempty, Bool.false_eq_true, if_false, Phase.reply, pollParams,
      if_neg hpass]
    by_cases hzero : ids = [0]
    · rw [if_pos ((joinIds_zero hids hne).mpr hzero), if_pos hzero]
    · rw [if_neg (mt (joinIds_zero hids hne).mp hzero), if_neg hzero, joinIds_split hids hne]
      have hparts : (ids.map idText).filter (fun part => !part.isEmpty) = ids.map idText := by
        rw [List.filter_eq_self]
        intro part hpart
        obtain ⟨p, hp, rfl⟩ := List.mem_map.mp hpart
        simpa using (idText_of_isId (hids p hp)).2.1
      rw [hparts, idTexts_read hids]
      rfl

theorem reply_dead {response : Option String} {code : Rs232Code} (h : isDead code = true) :
    (Phase.returned response code).reply = [] := by
  have hcode : code ≠ .NO_ERR ∧ code ≠ .PARTIAL_ERR := by
    constructor <;> rintro rfl <;> cases h
  simp [Phase.reply, pollParams, hcode]

end Replies

section Calls

variable {clock : Int → Int} {s t u : Poll}

/-- Parameters that are compared: all but the scratch values and the closing times, which every
poll resets. -/
def Visible (p : Int) : Prop :=
  p ∉ [doorNumber.param, doorClosingTime.param] ∧ p ∉ doorClosingTimeParams

instance : DecidablePred Visible := fun _ => inferInstanceAs (Decidable (_ ∧ _))

/-- Every parameter that the call has changed is in its reply. -/
def Reports (before : Lib) (t : Poll) : Prop :=
  ∀ p, Visible p → t.handler.lib.value p ≠ before.value p → p ∈ t.phase.reply

/-- The call has not changed anything so far. -/
def Unchanged (s : Poll) : Prop := ∀ p, Visible p → s.handler.lib.value p = s.start p

/-- What the poll has collected, and what it returns when it is over. -/
def collected (s : Poll) : List Int :=
  match s.phase with
  | .draining _ params _ => s.updated ++ params
  | .polling _ | .notifying => s.updated
  | phase => phase.reply

/-- What has been changed has been collected. -/
def Kept (s : Poll) : Prop :=
  ∀ p, Visible p → s.handler.lib.value p ≠ s.start p → p ∈ collected s

/-- The parameters that the packages to come and the stages behind them write. -/
def writable : Phase → List Int
  | .polling rest => rest.flatMap params ++ (virtualParams ++ vfdParams)
  | .notifying | .draining .. => vfdParams
  | _ => []

/-- Up to the notifications, what is still to be written is as it was. -/
def pending : Phase → List Int
  | .draining .. => []
  | phase => writable phase

structure Tracked (s : Poll) : Prop where
  ids : ∀ p ∈ s.updated, IsId p
  code : s.errCode = .NO_ERR ∨ s.errCode = .PARTIAL_ERR
  known : ∀ p ∈ writable s.phase, IsId p ∧ Visible p
  once : (writable s.phase).Nodup
  fresh : ∀ p ∈ pending s.phase, s.handler.lib.value p = s.start p ∧ p ∉ s.updated
  results : ∀ remaining params code, s.phase = .draining remaining params code →
    (∀ p ∈ params, p ∈ vfdParams) ∧
      ∀ p ∈ vfdParams, s.handler.lib.value p ≠ s.start p → p ∈ params

/-- What a step changes, and what it adds to the collected ids. -/
structure Effect (s t : Poll) : Prop where
  start : t.start = s.start
  frame : ∀ p, Visible p → p ∉ writable s.phase →
    t.handler.lib.value p = s.handler.lib.value p
  added : ∀ p ∈ collected t, Visible p → p ∈ collected s ∨ p ∈ writable s.phase

/-- What is changed and still writable is collected. -/
theorem Tracked.settled (h : Tracked s) {p : Int} (hp : p ∈ writable s.phase)
    (hne : s.handler.lib.value p ≠ s.start p) : p ∈ collected s := by
  cases hphase : s.phase with
  | draining remaining params code =>
    rw [hphase] at hp
    have hmem := (h.results remaining params code hphase).2 p hp hne
    rw [collected, hphase]
    exact List.mem_append_right s.updated hmem
  | ready | returned _ _ | raised _ =>
    rw [hphase] at hp
    cases hp
  | polling rest | notifying =>
    refine absurd (h.fresh p ?_).1 hne
    rw [hphase] at hp ⊢
    exact hp

/-- What is lost stays lost. -/
theorem Effect.kept (h : Effect s t) (hs : Tracked s) (ht : Kept t) : Kept s := by
  intro p hp hne
  by_contra hlost
  have hout : p ∉ writable s.phase := fun hmem => hlost (hs.settled hmem hne)
  have hframe := h.frame p hp hout
  have hmem : p ∈ collected t := ht p hp (by rw [hframe, h.start]; exact hne)
  exact (h.added p hmem hp).elim hlost hout

/-- What a step from one state to the next is known by. -/
structure Follows (s t : Poll) (harmless : Prop) : Prop where
  tracked : Tracked t
  effect : Effect s t
  kept : Kept s → (Kept t ↔ harmless)

theorem Follows.congr {harmless harmless' : Prop} (h : Follows s t harmless)
    (hiff : harmless ↔ harmless') : Follows s t harmless' :=
  ⟨h.tracked, h.effect, fun hkept => (h.kept hkept).trans hiff⟩

/-- Nothing is left to be written when the poll is over. -/
theorem tracked_idle (hids : ∀ p ∈ t.updated, IsId p)
    (hcode : t.errCode = .NO_ERR ∨ t.errCode = .PARTIAL_ERR) (hidle : t.phase.isIdle = true) :
    Tracked t := by
  cases hphase : t.phase with
  | ready | returned _ _ | raised _ =>
    exact ⟨hids, hcode, by simp [hphase, writable], by simp [hphase, writable],
      by simp [hphase, pending, writable], by simp [hphase]⟩
  | polling _ | notifying | draining _ _ _ => simp [hphase, Phase.isIdle] at hidle

/-- A poll that ends without a reply has reported everything if it has not changed anything. -/
theorem follows_silent (hs : Tracked s) (hstart : t.start = s.start)
    (hupdated : t.updated = s.updated) (hcode : t.errCode = s.errCode)
    (hidle : t.phase.isIdle = true) (hreply : collected t = [])
    (hframe : ∀ p, Visible p → p ∉ writable s.phase →
      t.handler.lib.value p = s.handler.lib.value p) : Follows s t (Unchanged t) where
  tracked := tracked_idle (hupdated ▸ hs.ids) (hcode ▸ hs.code) hidle
  effect := ⟨hstart, hframe, by simp [hreply]⟩
  kept _ := by
    unfold Kept Unchanged
    rw [hreply]
    constructor
    · intro h p hp
      by_contra hne
      cases h p hp hne
    · intro h p hp hne
      exact absurd (h p hp) hne

/-- Among the parameters that have been written only, a change shows in the step itself. -/
theorem unchanged_iff (s : Poll) (written : List Int) (hstart : t.start = s.start)
    (hframe : ∀ p, Visible p → p ∉ written → t.handler.lib.value p = s.handler.lib.value p)
    (hfresh : ∀ p ∈ written, s.handler.lib.value p = s.start p ∧ Visible p) :
    Unchanged t ↔ Unchanged s ∧
      ¬ ∃ p ∈ written, t.handler.lib.value p ≠ s.handler.lib.value p := by
  constructor
  · intro h
    constructor
    · intro p hp
      by_cases hmem : p ∈ written
      · exact (hfresh p hmem).1
      · rw [← hframe p hp hmem, h p hp, hstart]
    · rintro ⟨p, hmem, hne⟩
      obtain ⟨hvalue, hp⟩ := hfresh p hmem
      exact hne (by rw [h p hp, hstart, hvalue])
  · rintro ⟨h, hsame⟩ p hp
    by_cases hmem : p ∈ written
    · have hvalue : t.handler.lib.value p = s.handler.lib.value p := by
        by_contra hne
        exact hsame ⟨p, hmem, hne⟩
      rw [hvalue, (hfresh p hmem).1, hstart]
    · rw [hframe p hp hmem, h p hp, hstart]

/-- The same holds for what has been collected, if the written parameters are not added. -/
theorem kept_iff {written : List Int} (hkept : Kept s) (hstart : t.start = s.start)
    (hcollected : collected t = collected s)
    (hframe : ∀ p, Visible p → p ∉ written → t.handler.lib.value p = s.handler.lib.value p)
    (hfresh : ∀ p ∈ written, s.handler.lib.value p = s.start p ∧ p ∉ collected s ∧ Visible p) :
    Kept t ↔ ¬ ∃ p ∈ written, t.handler.lib.value p ≠ s.handler.lib.value p := by
  constructor
  · rintro h ⟨p, hmem, hne⟩
    obtain ⟨hvalue, hlost, hp⟩ := hfresh p hmem
    exact hlost (hcollected ▸ h p hp (by rw [hstart, ← hvalue]; exact hne))
  · intro hsame p hp hne
    by_cases hmem : p ∈ written
    · have hvalue : t.handler.lib.value p = s.handler.lib.value p := by
        by_contra hne'
        exact hsame ⟨p, hmem, hne'⟩
      rw [hvalue, (hfresh p hmem).1, hstart] at hne
      exact absurd rfl hne
    · rw [hframe p hp hmem, hstart] at hne
      rw [hcollected]
      exact hkept p hp hne

end Calls

section Packages

variable {clock : Int → Int} {package : Package} {rest : List Package} {response : Json}
  {s t : Poll}

theorem Tracked.params_fresh (hs : Tracked s) (hphase : s.phase = .polling (package :: rest)) :
    ∀ p ∈ params package, s.handler.lib.value p = s.start p ∧ p ∉ collected s ∧ Visible p ∧ IsId p ∧
      p ∉ writable (.polling rest) := by
  intro p hp
  have hwritable : writable s.phase = params package ++ writable (.polling rest) := by
    rw [hphase, writable, writable, List.flatMap_cons, List.append_assoc]
  have hmem : p ∈ writable s.phase := by
    rw [hwritable]
    exact List.mem_append_left _ hp
  have hpending : p ∈ pending s.phase := by
    rw [hphase] at hmem ⊢
    exact hmem
  obtain ⟨hvalue, hlost⟩ := hs.fresh p hpending
  obtain ⟨hid, hvisible⟩ := hs.known p hmem
  refine ⟨hvalue, ?_, hvisible, hid, ?_⟩
  · rw [collected, hphase]
    exact hlost
  · have honce := hs.once
    rw [hwritable] at honce
    exact fun hrest => (List.nodup_append.mp honce).2.2 p hp p hrest rfl

/-- The poll goes on with the other packages. -/
theorem Tracked.next (hs : Tracked s) (hphase : s.phase = .polling (package :: rest))
    (ht : t.phase = .polling rest) (hstart : t.start = s.start)
    (hcode : t.errCode = s.errCode ∨ t.errCode = .PARTIAL_ERR)
    (hframe : ∀ p, p ∉ params package → t.handler.lib.value p = s.handler.lib.value p)
    (hupdated : ∀ p ∈ t.updated, p ∈ s.updated ∨ p ∈ params package) : Tracked t := by
  have hwritable : writable s.phase = params package ++ writable t.phase := by
    rw [hphase, ht, writable, writable, List.flatMap_cons, List.append_assoc]
  have hother : ∀ p ∈ writable t.phase, p ∉ params package := by
    intro p hp hmem
    rw [ht] at hp
    exact (hs.params_fresh hphase p hmem).2.2.2.2 hp
  have hsub : ∀ p ∈ writable t.phase, p ∈ writable s.phase := by
    intro p hp
    rw [hwritable]
    exact List.mem_append_right _ hp
  have hpending : pending t.phase = writable t.phase := by
    rw [ht]
    rfl
  constructor
  · intro p hp
    rcases hupdated p hp with hold | hnew
    · exact hs.ids p hold
    · exact (hs.params_fresh hphase p hnew).2.2.2.1
  · exact hcode.elim (fun hsame => hsame ▸ hs.code) .inr
  · exact fun p hp => hs.known p (hsub p hp)
  · have honce := hs.once
    rw [hwritable] at honce
    exact (List.nodup_append.mp honce).2.1
  · intro p hp
    rw [hpending] at hp
    have hmem : p ∈ pending s.phase := by
      have := hsub p hp
      rw [hphase] at this ⊢
      exact this
    obtain ⟨hvalue, hlost⟩ := hs.fresh p hmem
    refine ⟨by rw [hframe p (hother p hp), hvalue, hstart], fun hin => ?_⟩
    rcases hupdated p hin with hold | hnew
    · exact hlost hold
    · exact hother p hp hnew
  · simp [ht]

theorem params_writable (hphase : s.phase = .polling (package :: rest)) {p : Int}
    (hp : p ∈ params package) : p ∈ writable s.phase := by
  rw [hphase, writable, List.flatMap_cons]
  exact List.mem_append_left _ (List.mem_append_left _ hp)

theorem effect_of_params (hphase : s.phase = .polling (package :: rest))
    (hstart : t.start = s.start)
    (hframe : ∀ p, p ∉ params package → t.handler.lib.value p = s.handler.lib.value p)
    (hadded : ∀ p ∈ collected t, p ∈ collected s ∨ p ∈ params package) : Effect s t where
  start := hstart
  frame p _ hp := hframe p (fun hmem => hp (params_writable hphase hmem))
  added p hp _ := (hadded p hp).imp_right (params_writable hphase)

/-- What the poll takes over does not get lost. -/
def HarmlessUpdate (clock : Int → Int) (package : Package) (response : Json) (lib : Lib)
    (s : Poll) : Prop :=
  (Misses clock package response → ¬ Stores clock package response lib) ∧
    (Unusable clock package response → Unchanged s)

/-- The same for what a request has come to. -/
def HarmlessOutcome (clock : Int → Int) (package : Package)
    (outcome : Except PyError (Json × Rs232Code)) (lib : Lib) (s : Poll) : Prop :=
  match outcome with
  | .error _ => Unchanged s
  | .ok (response, code) => (isDead code = true → Unchanged s) ∧
      (code = .NO_ERR → HarmlessUpdate clock package response lib s)

theorem take_start (u : Update) (rest : List Package) (s : Poll) :
    (s.take u rest).start = s.start := by
  unfold Poll.take
  cases u.error with
  | some e => rfl
  | none => by_cases hcode : u.errCode = .NO_ERR <;> simp [hcode]

theorem take_errCode (u : Update) (rest : List Package) (s : Poll) :
    (s.take u rest).errCode = s.errCode ∨ (s.take u rest).errCode = .PARTIAL_ERR := by
  unfold Poll.take
  cases u.error with
  | some e => exact .inl rfl
  | none => by_cases hcode : u.errCode = .NO_ERR <;> simp [hcode]

theorem take_raised {u : Update} (h : u.error ≠ none) (rest : List Package) (s : Poll) :
    (s.take u rest).updated = s.updated ∧ (s.take u rest).errCode = s.errCode ∧
      ∃ e, (s.take u rest).phase = .raised e := by
  obtain ⟨e, he⟩ := Option.ne_none_iff_exists'.mp h
  simp [Poll.take, he, Poll.raise]

theorem take_on {u : Update} (h : u.error = none) (rest : List Package) (s : Poll) :
    (s.take u rest).updated = s.updated ++ (if u.errCode ≠ .NO_ERR then [] else u.changed) ∧
      (s.take u rest).phase = .polling rest := by
  by_cases hcode : u.errCode = .NO_ERR <;> simp [Poll.take, h, hcode]

theorem collected_polling (h : s.phase = .polling rest) : collected s = s.updated := by
  rw [collected, h]

theorem take_frame (clock : Int → Int) (package : Package) (rest : List Package)
    (response : Json) (s : Poll) : ∀ p, p ∉ params package →
      (s.take (updateFor clock package response s.handler.lib) rest).handler.lib.value p =
        s.handler.lib.value p := by
  intro p hp
  rw [take_lib]
  exact updateFor_frame hp

/-- A package that unpacks is collected as a whole. -/
theorem take_follows_unpacked (hs : Tracked s) (hphase : s.phase = .polling (package :: rest))
    (hunpacks : ¬ Misses clock package response) :
    Follows s (s.take (updateFor clock package response s.handler.lib) rest)
      (HarmlessUpdate clock package response s.handler.lib s) := by
  obtain ⟨herror, hcode, hreported⟩ := updateFor_reported s.handler.lib hunpacks
  obtain ⟨hupdated, hnext⟩ := take_on herror rest s
  have hframe := take_frame clock package rest response s
  rw [if_neg (by simpa using hcode)] at hupdated
  have hadded : ∀ p ∈ (s.take (updateFor clock package response s.handler.lib) rest).updated,
      p ∈ s.updated ∨ p ∈ params package := by
    intro p hp
    rw [hupdated] at hp
    exact (List.mem_append.mp hp).imp_right updateFor_known
  refine ⟨hs.next hphase hnext (take_start ..) (take_errCode ..) hframe hadded,
    effect_of_params hphase (take_start ..) hframe ?_, fun hkept => ?_⟩
  · rw [collected_polling hnext, collected_polling hphase]
    exact hadded
  · refine iff_of_true ?_ ⟨fun hmiss => absurd hmiss hunpacks,
      fun hunusable => absurd hunusable.misses hunpacks⟩
    intro p hp hne
    rw [collected_polling hnext, hupdated, List.mem_append]
    rw [take_lib, take_start] at hne
    by_cases hsame : (updateFor clock package response s.handler.lib).lib.value p =
        s.handler.lib.value p
    · rw [hsame] at hne
      exact .inl (collected_polling hphase ▸ hkept p hp hne)
    · exact .inr (hreported p hsame)

/-- A package with a signal that does not unpack is not collected at all. -/
theorem take_follows_missed (hs : Tracked s) (hphase : s.phase = .polling (package :: rest))
    (hmisses : Misses clock package response) :
    Follows s (s.take (updateFor clock package response s.handler.lib) rest)
      (HarmlessUpdate clock package response s.handler.lib s) := by
  have hframe := take_frame clock package rest response s
  have hfresh := hs.params_fresh hphase
  have hstores := stores_iff s.handler.lib hmisses
  rw [← take_lib _ rest s] at hstores
  by_cases herror : (updateFor clock package response s.handler.lib).error = none
  · obtain ⟨hupdated, hnext⟩ := take_on herror rest s
    have hnothing : (if (updateFor clock package response s.handler.lib).errCode ≠ .NO_ERR then []
        else (updateFor clock package response s.handler.lib).changed) = [] := by
      rcases updateFor_missed s.handler.lib hmisses with hraises | hcode | hchanged
      · exact absurd herror hraises
      · exact if_pos hcode
      · rw [hchanged, ite_self]
    rw [hnothing, List.append_nil] at hupdated
    have hcollected : collected (s.take (updateFor clock package response s.handler.lib) rest) =
        collected s := by
      rw [collected_polling hnext, collected_polling hphase, hupdated]
    have hsafe : ¬ Unusable clock package response := fun hunusable =>
      updateFor_error_iff.mpr hunusable herror
    refine ⟨hs.next hphase hnext (take_start ..) (take_errCode ..) hframe ?_,
      effect_of_params hphase (take_start ..) hframe ?_, fun hkept => ?_⟩
    · rw [hupdated]
      exact fun p hp => .inl hp
    · rw [hcollected]
      exact fun p hp => .inl hp
    · rw [kept_iff hkept (take_start ..) hcollected (fun p _ => hframe p)
        (fun p hp => ⟨(hfresh p hp).1, (hfresh p hp).2.1, (hfresh p hp).2.2.1⟩), ← hstores]
      simp [HarmlessUpdate, hmisses, hsafe]
  · obtain ⟨hupdated, hcode, e, hraised⟩ := take_raised herror rest s
    have hunusable := updateFor_error_iff.mp herror
    have hreply : collected (s.take (updateFor clock package response s.handler.lib) rest) = [] := by
      rw [collected, hraised]
      rfl
    refine (follows_silent hs (take_start ..) hupdated hcode (by rw [hraised]; rfl) hreply
      (fun p _ hp => hframe p (fun hmem => hp (params_writable hphase hmem)))).congr ?_
    rw [unchanged_iff s (params package) (take_start ..) (fun p _ => hframe p)
      (fun p hp => ⟨(hfresh p hp).1, (hfresh p hp).2.2.1⟩), ← hstores]
    simp [HarmlessUpdate, hmisses, hunusable, and_comm]

theorem take_follows (hs : Tracked s) (hphase : s.phase = .polling (package :: rest))
    (response : Json) : Follows s (s.take (updateFor clock package response s.handler.lib) rest)
      (HarmlessUpdate clock package response s.handler.lib s) := by
  by_cases hmisses : Misses clock package response
  · exact take_follows_missed hs hphase hmisses
  · exact take_follows_unpacked hs hphase hmisses

/-- An end on the spot. -/
theorem follows_end (hs : Tracked s) {phase : Phase} (hidle : phase.isIdle = true)
    (hreply : collected { s with phase := phase } = []) :
    Follows s { s with phase := phase } (Unchanged s) :=
  follows_silent hs rfl rfl rfl hidle hreply fun _ _ _ => rfl

theorem receive_follows (hs : Tracked s) (hphase : s.phase = .polling (package :: rest))
    (outcome : Except PyError (Json × Rs232Code)) :
    Follows s (s.receive clock package rest outcome)
      (HarmlessOutcome clock package outcome s.handler.lib s) := by
  rcases receive_cases clock package rest outcome s with ⟨e, rfl, heq⟩ |
    ⟨response, code, rfl, hdead, heq⟩ | ⟨response, code, rfl, hdead, hcode, heq⟩ |
    ⟨response, rfl, heq⟩
  · rw [heq]
    exact follows_end hs rfl rfl
  · rw [heq]
    have hcode : code ≠ .NO_ERR := by
      rintro rfl
      cases hdead
    have hreply : (Phase.returned none code).reply = [] := reply_dead hdead
    have hend : Follows s { s with phase := .returned none code } (Unchanged s) :=
      follows_end hs rfl hreply
    refine hend.congr ?_
    simp [HarmlessOutcome, hdead, hcode]
  · rw [heq]
    refine ⟨hs.next hphase rfl rfl (.inr rfl) (fun _ _ => rfl) (fun p hp => .inl hp),
      effect_of_params hphase rfl (fun _ _ => rfl) ?_, fun hkept => iff_of_true ?_ ?_⟩
    · rw [collected_polling hphase]
      exact fun p hp => .inl hp
    · intro p hp hne
      exact collected_polling hphase ▸ hkept p hp hne
    · simp [HarmlessOutcome, hdead, hcode]
  · rw [heq]
    refine (take_follows hs hphase response).congr ?_
    simp [HarmlessOutcome, isDead]

section Prepared

variable {h : Handler} (hvalue : h.lib.value = s.handler.lib.value)

include hvalue

theorem tracked_with (hs : Tracked s) : Tracked { s with handler := h } where
  ids := hs.ids
  code := hs.code
  known := hs.known
  once := hs.once
  fresh := by
    simp only [hvalue]
    exact hs.fresh
  results := by
    simp only [hvalue]
    exact hs.results

theorem kept_with (hkept : Kept s) : Kept { s with handler := h } := by
  intro p hp hne
  simp only [hvalue] at hne
  exact hkept p hp hne

theorem unchanged_with : Unchanged { s with handler := h } ↔ Unchanged s := by
  simp only [Unchanged, hvalue]

/-- A step from a handler whose values are the same. -/
theorem follows_with {harmless : Prop} (hfollows : Follows { s with handler := h } t harmless) :
    Follows s t harmless where
  tracked := hfollows.tracked
  effect := ⟨hfollows.effect.start,
    fun p hp hout => (hfollows.effect.frame p hp hout).trans (congrFun hvalue p),
    hfollows.effect.added⟩
  kept hkept := hfollows.kept (kept_with hvalue hkept)

end Prepared

/-- The package is not asked for, or what the request comes to is harmless. -/
def HarmlessPackage (clock : Int → Int) (package : Package) (reads : List FrameRead)
    (files : CounterFiles) (s : Poll) : Prop :=
  match isPolled package s.handler.lib with
  | .error _ => Unchanged s
  | .ok false => True
  | .ok true =>
    HarmlessOutcome clock package
      (exchange s.handler.available package reads s.handler.saved).1
      (prepared package files s.handler).lib s

theorem prepared_saved (package : Package) (files : CounterFiles) (h : Handler) :
    (prepared package files h).saved = h.saved := by
  unfold prepared
  split <;> rfl

theorem harmlessOutcome_with {h : Handler} (hvalue : h.lib.value = s.handler.lib.value)
    {outcome : Except PyError (Json × Rs232Code)} {lib : Lib} :
    HarmlessOutcome clock package outcome lib { s with handler := h } ↔
      HarmlessOutcome clock package outcome lib s := by
  unfold HarmlessOutcome HarmlessUpdate
  simp only [unchanged_with hvalue]

theorem pollPackage_follows (hs : Tracked s) (hphase : s.phase = .polling (package :: rest))
    (reads : List FrameRead) (files : CounterFiles) :
    Follows s (pollPackage clock package rest reads files s)
      (HarmlessPackage clock package reads files s) := by
  unfold pollPackage HarmlessPackage
  cases isPolled package s.handler.lib with
  | error e => exact follows_end hs rfl rfl
  | ok polled =>
    cases polled with
    | false =>
      refine ⟨hs.next hphase rfl rfl (.inl rfl) (fun _ _ => rfl) (fun p hp => .inl hp),
        effect_of_params hphase rfl (fun _ _ => rfl) ?_, fun hkept => iff_of_true ?_ trivial⟩
      · rw [collected_polling hphase]
        exact fun p hp => .inl hp
      · intro p hp hne
        exact collected_polling hphase ▸ hkept p hp hne
    | true =>
      have hsame : exchange (prepared package files s.handler).available package reads
          (prepared package files s.handler).saved =
            exchange s.handler.available package reads s.handler.saved := by
        rw [prepared_available, prepared_saved]
      simp only [hsame]
      cases exchange s.handler.available package reads s.handler.saved with
      | mk outcome saved =>
        have hvalue : ({ prepared package files s.handler with saved := saved } : Handler).lib.value =
            s.handler.lib.value := prepared_value package files s.handler
        exact follows_with hvalue ((receive_follows (tracked_with hvalue hs) hphase outcome).congr
          (harmlessOutcome_with hvalue))

end Packages

section Stages

variable {clock : Int → Int} {s t : Poll}

/-- Behind the packages the motor values and the virtual signals are still as they were. -/
theorem Tracked.virtual_fresh (hs : Tracked s) (hphase : s.phase = .polling []) :
    ∀ p ∈ virtualParams ++ vfdParams, s.handler.lib.value p = s.start p ∧ p ∉ s.updated := by
  intro p hp
  apply hs.fresh
  rw [hphase]
  exact hp

theorem pollVirtual_follows (hs : Tracked s) (hphase : s.phase = .polling []) :
    Follows s (pollVirtual clock s) (VirtualFault s.handler.lib →
      Unchanged s ∧ ¬ AltersVirtual s.handler.lib (paramsVirtual clock)) := by
  have hwithin := within_updateVirtualSignals clock s.handler.lib
  have hfresh := hs.virtual_fresh hphase
  have hwritable : writable s.phase = virtualParams ++ vfdParams := by
    rw [hphase]
    rfl
  have hframe : ∀ p, p ∉ virtualParams →
      (updateVirtualSignals clock s.handler.lib).lib.value p = s.handler.lib.value p :=
    hwithin.frame
  have hout : ∀ p, Visible p → p ∉ writable s.phase →
      (updateVirtualSignals clock s.handler.lib).lib.value p = s.handler.lib.value p := by
    intro p _ hp
    rw [hwritable, List.mem_append, not_or] at hp
    exact hframe p hp.1
  simp only [pollVirtual]
  cases herror : (updateVirtualSignals clock s.handler.lib).error with
  | some e =>
    have hfault : VirtualFault s.handler.lib :=
      updateVirtualSignals_error_iff.mp (by rw [herror]; simp)
    refine Follows.congr (follows_silent hs rfl rfl rfl rfl rfl hout) ?_
    refine Iff.trans (unchanged_iff s virtualParams rfl (fun p _ => hframe p)
      fun p hp => ⟨?_, ?_⟩) ?_
    · exact (hfresh p (List.mem_append_left _ hp)).1
    · exact (hs.known p (hwritable ▸ List.mem_append_left _ hp)).2
    · simp only [hfault, true_implies, updateVirtualSignals_altered_iff]
      rfl
  | none =>
    have hsafe : ¬ VirtualFault s.handler.lib := fun hfault =>
      updateVirtualSignals_error_iff.mpr hfault herror
    have hchanged : ∀ p ∈ (updateVirtualSignals clock s.handler.lib).changed, p ∈ virtualParams :=
      fun p hp => (hwithin.known p hp).resolve_left (by simp [Update.start])
    have hvfd : ∀ p ∈ vfdParams, p ∉ virtualParams ∧ p ∈ virtualParams ++ vfdParams := by decide
    have hids : ∀ p ∈ virtualParams ++ vfdParams, IsId p ∧ Visible p := by decide
    refine ⟨⟨?_, ?_, ?_, ?_, ?_, ?_⟩, ⟨rfl, hout, ?_⟩, fun hkept => iff_of_true ?_ ?_⟩
    · intro p hp
      rcases List.mem_append.mp hp with hold | hnew
      · exact hs.ids p hold
      · exact (hids p (List.mem_append_left _ (hchanged p hnew))).1
    · by_cases hcode : (updateVirtualSignals clock s.handler.lib).errCode = .NO_ERR
      · simpa [hcode] using hs.code
      · simp [hcode]
    · exact fun p hp => hids p (hvfd p hp).2
    · exact (by decide : vfdParams.Nodup)
    · intro p hp
      obtain ⟨hother, hmem⟩ := hvfd p hp
      refine ⟨(hframe p hother).trans (hfresh p hmem).1, fun hin => ?_⟩
      rcases List.mem_append.mp hin with hold | hnew
      · exact (hfresh p hmem).2 hold
      · exact hother (hchanged p hnew)
    · rintro _ _ _ ⟨⟩
    · intro p hp _
      rw [collected_polling hphase, hwritable]
      exact (List.mem_append.mp hp).imp_right fun hnew => List.mem_append_left _ (hchanged p hnew)
    · intro p hp hne
      change p ∈ s.updated ++ (updateVirtualSignals clock s.handler.lib).changed
      rw [List.mem_append]
      by_cases hsame : (updateVirtualSignals clock s.handler.lib).lib.value p =
          s.handler.lib.value p
      · exact .inl (collected_polling hphase ▸ hkept p hp (hsame ▸ hne))
      · exact .inr (hwithin.reported p hsame)
    · exact fun hfault => absurd hfault hsafe

theorem notificationUpdate_frame (h : Handler) {p : Int} (hp : p ∉ doorClosingTimeParams) :
    (notificationUpdate clock h).lib.value p = h.lib.value p := by
  unfold notificationUpdate
  split
  · rfl
  · exact updateDoorClosingTime_frame hp

theorem notificationUpdate_changed (clock : Int → Int) (h : Handler) :
    ∀ p ∈ (notificationUpdate clock h).changed, p ∈ doorClosingTimeParams := by
  unfold notificationUpdate
  split
  · intro p hp
    cases hp
  · exact updateDoorClosingTime_changed

theorem notificationUpdate_error_iff (clock : Int → Int) (s : Poll) :
    (notificationUpdate clock s.handler).error ≠ none ↔ SavedTimeFault clock s.handler.saved := by
  rw [← pollNotification_raised_iff]
  simp only [pollNotification]
  cases (notificationUpdate clock s.handler).error <;> simp [Poll.raise]

theorem pollNotification_follows (hs : Tracked s) (hphase : s.phase = .notifying) :
    Follows s (pollNotification clock s)
      (SavedTimeFault clock s.handler.saved → Unchanged s) := by
  have hchanged := notificationUpdate_changed clock s.handler
  have hframe : ∀ p, Visible p →
      (notificationUpdate clock s.handler).lib.value p = s.handler.lib.value p :=
    fun p hp => notificationUpdate_frame s.handler hp.2
  have hcollected : collected s = s.updated := by rw [collected, hphase]
  have hfault := notificationUpdate_error_iff clock s
  simp only [pollNotification]
  cases herror : (notificationUpdate clock s.handler).error with
  | some e =>
    rw [herror] at hfault
    refine Follows.congr (follows_silent hs rfl rfl rfl rfl rfl fun p hp _ => hframe p hp) ?_
    simp only [Unchanged, hfault.mp (by simp), true_implies]
    exact forall₂_congr fun p hp => by rw [← hframe p hp]; rfl
  | none =>
    rw [herror] at hfault
    have hsafe : ¬ SavedTimeFault clock s.handler.saved := fun h => hfault.mpr h rfl
    have hvalue : ∀ p, Visible p →
        (reset135Params (notificationUpdate clock s.handler).lib).value p =
          s.handler.lib.value p :=
      fun p hp => (setAll_value_other _ _ hp.1).trans (hframe p hp)
    have htimes : ∀ p ∈ doorClosingTimeParams, IsId p ∧ ¬ Visible p := by decide
    have hvfd : ∀ p ∈ vfdParams, IsId p ∧ Visible p := by decide
    refine ⟨⟨?_, ?_, hvfd, (by decide : vfdParams.Nodup), ?_, ?_⟩, ⟨rfl, ?_, ?_⟩,
      fun hkept => iff_of_true ?_ ?_⟩
    · intro p hp
      rcases List.mem_append.mp hp with hold | hnew
      · exact hs.ids p hold
      · exact (htimes p (hchanged p hnew)).1
    · by_cases hcode : (notificationUpdate clock s.handler).errCode = .NO_ERR
      · simpa [hcode] using hs.code
      · simp [hcode]
    · intro p hp
      cases hp
    · rintro _ _ _ ⟨⟩
      refine ⟨by simp, fun p hp hne => absurd ?_ hne⟩
      have hpending : p ∈ pending s.phase := by
        rw [hphase]
        exact hp
      exact (hvalue p (hvfd p hp).2).trans (hs.fresh p hpending).1
    · exact fun p hp _ => hvalue p hp
    · intro p hp hvisible
      rw [hcollected]
      simp only [collected, List.append_nil] at hp
      rcases List.mem_append.mp hp with hold | hnew
      · exact .inl hold
      · exact absurd hvisible (htimes p (hchanged p hnew)).2
    · intro p hp hne
      simp only [hvalue p hp] at hne
      have hmem := hcollected ▸ hkept p hp hne
      simp only [collected, List.append_nil]
      exact List.mem_append_left _ hmem
    · exact fun h => absurd h hsafe

theorem updateVfdParams_raised {resp : Dict} {lib : Lib}
    (h : (updateVfdParams resp lib).error ≠ none) : (updateVfdParams resp lib).lib = lib := by
  unfold updateVfdParams at h ⊢
  repeat' split at h
  all_goals simp_all

theorem pollVfdResult_follows (hs : Tracked s) {resp : Dict} {remaining : List Dict}
    {params : List Int} {code : Rs232Code}
    (hphase : s.phase = .draining (resp :: remaining) params code) :
    Follows s (pollVfdResult resp remaining params s) (VfdFault resp → Unchanged s) := by
  have hwithin := within_updateVfdParams resp s.handler.lib
  obtain ⟨hparams, hresults⟩ := hs.results _ _ _ hphase
  have hwritable : writable s.phase = vfdParams := by
    rw [hphase]
    rfl
  have hcollected : collected s = s.updated ++ params := by rw [collected, hphase]
  have hfault : (updateVfdParams resp s.handler.lib).error ≠ none ↔ VfdFault resp :=
    updateVfdParams_error_iff s.handler.lib
  simp only [pollVfdResult]
  cases herror : (updateVfdParams resp s.handler.lib).error with
  | some e =>
    have hlib : (updateVfdParams resp s.handler.lib).lib = s.handler.lib :=
      updateVfdParams_raised (by simp [herror])
    rw [herror] at hfault
    rw [hlib]
    refine Follows.congr (follows_silent hs rfl rfl rfl rfl rfl fun _ _ _ => rfl) ?_
    simp only [hfault.mp (by simp), true_implies]
    rfl
  | none =>
    rw [herror] at hfault
    have hsafe : ¬ VfdFault resp := fun h => hfault.mpr h rfl
    have hchanged : ∀ p ∈ (updateVfdParams resp s.handler.lib).changed, p ∈ vfdParams :=
      fun p hp => (hwithin.known p hp).resolve_left (by simp [Update.start])
    have hvfd : ∀ p ∈ vfdParams, IsId p ∧ Visible p := by decide
    have hreported : ∀ p, (updateVfdParams resp s.handler.lib).lib.value p ≠
        s.handler.lib.value p → p ∈ (updateVfdParams resp s.handler.lib).changed :=
      hwithin.reported
    refine ⟨⟨hs.ids, hs.code, hvfd, (by decide : vfdParams.Nodup), ?_, ?_⟩, ⟨rfl, ?_, ?_⟩,
      fun hkept => iff_of_true ?_ ?_⟩
    · intro p hp
      cases hp
    · rintro _ _ _ ⟨⟩
      constructor
      · intro p hp
        exact (List.mem_append.mp hp).elim (hparams p) (hchanged p)
      · intro p hp hne
        rw [List.mem_append]
        by_cases hsame : (updateVfdParams resp s.handler.lib).lib.value p = s.handler.lib.value p
        · exact .inl (hresults p hp (hsame ▸ hne))
        · exact .inr (hreported p hsame)
    · intro p _ hp
      exact hwithin.frame p (hwritable ▸ hp)
    · intro p hp _
      rw [hcollected, hwritable]
      change p ∈ s.updated ++ (params ++ _) at hp
      rw [← List.append_assoc] at hp
      exact (List.mem_append.mp hp).imp_right (hchanged p)
    · intro p hp hne
      change p ∈ s.updated ++ (params ++ _)
      rw [← List.append_assoc, List.mem_append, ← hcollected]
      by_cases hsame : (updateVfdParams resp s.handler.lib).lib.value p = s.handler.lib.value p
      · exact .inl (hkept p hp (hsame ▸ hne))
      · exact .inr (hreported p hsame)
    · exact fun h => absurd h hsafe

theorem mem_vfdIds {params : List Int} {p : Int} (hparams : ∀ p ∈ params, p ∈ vfdParams) :
    p ∈ vfdIds params ↔ p ∈ params := by
  simp only [vfdIds, List.mem_filter, decide_eq_true_eq]
  exact ⟨fun h => h.2, fun h => ⟨hparams p h, h⟩⟩

theorem response_isIdle (ids : List Int) (errCode : Rs232Code) :
    (response ids errCode).isIdle = true := by
  unfold response
  split <;> rfl

theorem collected_idle (h : s.phase.isIdle = true) : collected s = s.phase.reply := by
  unfold collected
  cases hphase : s.phase with
  | ready | returned _ _ | raised _ => rfl
  | polling _ | notifying | draining _ _ _ => simp [hphase, Phase.isIdle] at h

theorem finishPoll_follows (hs : Tracked s) {params : List Int} {code : Rs232Code}
    (hphase : s.phase = .draining [] params code) :
    Follows s (finishPoll params code s)
      (s.updated ++ vfdIds params = [0] → s.handler.lib.value 0 = s.start 0) := by
  obtain ⟨hparams, -⟩ := hs.results _ _ _ hphase
  have hcollected : collected s = s.updated ++ params := by rw [collected, hphase]
  have hids : ∀ p, p ∈ s.updated ++ vfdIds params ↔ p ∈ collected s := by
    intro p
    rw [hcollected, List.mem_append, List.mem_append, mem_vfdIds hparams]
  have hknown : ∀ p ∈ s.updated ++ vfdIds params, IsId p := by
    have hvfd : ∀ p ∈ vfdParams, IsId p := by decide
    intro p hp
    rcases List.mem_append.mp hp with hold | hnew
    · exact hs.ids p hold
    · exact hvfd p (hparams p ((mem_vfdIds hparams).mp hnew))
  have hcode : (finishPoll params code s).errCode = .NO_ERR ∨
      (finishPoll params code s).errCode = .PARTIAL_ERR := by
    by_cases hcode : code = .NO_ERR
    · simpa [finishPoll, hcode] using hs.code
    · simp [finishPoll, hcode]
  have hidle : (finishPoll params code s).phase.isIdle = true := response_isIdle _ _
  have hreply : collected (finishPoll params code s) =
      if s.updated ++ vfdIds params = [0] then [] else s.updated ++ vfdIds params :=
    (collected_idle hidle).trans (reply_response hknown hcode)
  refine ⟨tracked_idle hknown hcode hidle, ⟨rfl, fun _ _ _ => rfl, ?_⟩, fun hkept => ?_⟩
  · intro p hp _
    rw [hreply] at hp
    split at hp
    · cases hp
    · exact .inl ((hids p).mp hp)
  · unfold Kept
    rw [hreply]
    by_cases hzero : s.updated ++ vfdIds params = [0]
    · rw [if_pos hzero]
      simp only [hzero, true_implies]
      constructor
      · intro h
        by_contra hne
        cases h 0 (by decide) hne
      · intro hsame p hp hne
        have hmem := (hids p).mpr (hkept p hp hne)
        rw [hzero, List.mem_singleton] at hmem
        subst hmem
        exact absurd hsame hne
    · rw [if_neg hzero]
      refine iff_of_true (fun p hp hne => (hids p).mpr (hkept p hp hne)) ?_
      exact fun h => absurd h hzero

end Stages

section Runs

variable {clock : Int → Int} {s t : Poll} {event : Event}

/-- The steps of one call: none once it is over. -/
def callStep (clock : Int → Int) (s : Poll) (event : Event) : Option Poll :=
  if s.phase.isIdle then none else step clock s event

/-- What the step takes in does not make a change go unreported: an end without a reply finds
nothing changed, a package that does not unpack as a whole stores nothing, and parameter 0,
whose id is the text for no changes, is not the only one. -/
def Harmless (clock : Int → Int) (s : Poll) : Event → Prop
  | .package reads files => ∀ package rest, s.phase = .polling (package :: rest) →
      HarmlessPackage clock package reads files s
  | .virtual => VirtualFault s.handler.lib →
      Unchanged s ∧ ¬ AltersVirtual s.handler.lib (paramsVirtual clock)
  | .notification => SavedTimeFault clock s.handler.saved → Unchanged s
  | .vfdResult => ∀ resp remaining params code,
      s.phase = .draining (resp :: remaining) params code → VfdFault resp → Unchanged s
  | .finish => ∀ params code, s.phase = .draining [] params code →
      s.updated ++ vfdIds params = [0] → s.handler.lib.value 0 = s.start 0
  | _ => True

theorem callStep_follows (hs : Tracked s) (hstep : callStep clock s event = some t) :
    Follows s t (Harmless clock s event) := by
  obtain ⟨hbusy, hstep⟩ := Option.ite_none_left_eq_some.mp hstep
  cases stepped hstep with
  | begin forceReadAll idle => exact absurd idle hbusy
  | @package reads files package rest polling =>
    refine (pollPackage_follows hs polling reads files).congr ?_
    simp [Harmless, polling]
  | virtual polling => exact pollVirtual_follows hs polling
  | notification notifying => exact pollNotification_follows hs notifying
  | @vfdResult resp remaining params code draining =>
    refine (pollVfdResult_follows hs draining).congr ⟨?_, fun h => h _ _ _ _ draining⟩
    intro h resp' remaining' params' code' draining'
    rw [draining] at draining'
    cases draining'
    exact h
  | @finish params code draining =>
    refine (finishPoll_follows hs draining).congr ?_
    simp [Harmless, draining]
  | read cmd type reads idle => exact absurd idle hbusy
  | write param value idle => exact absurd idle hbusy

/-- Every poll takes in packages of the forced one only. -/
theorem polledPackages_sublist (forceReadAll : Bool) (turn : Fin 5) :
    (polledPackages forceReadAll turn).Sublist (alwaysPolledPackages ++ filePackages) := by
  apply List.Sublist.append_left
  cases forceReadAll with
  | true => exact List.Sublist.refl filePackages
  | false => exact List.singleton_sublist.mpr (List.get_mem ..)

theorem writable_sublist (forceReadAll : Bool) (turn : Fin 5) :
    (writable (.polling (polledPackages forceReadAll turn))).Sublist
      (writable (.polling (alwaysPolledPackages ++ filePackages))) :=
  ((polledPackages_sublist forceReadAll turn).flatMap params).append_right _

/-- What a poll may write is visible and in the database, each parameter once. -/
theorem writable_polled (forceReadAll : Bool) (turn : Fin 5) :
    (∀ p ∈ writable (.polling (polledPackages forceReadAll turn)), IsId p ∧ Visible p) ∧
      (writable (.polling (polledPackages forceReadAll turn))).Nodup := by
  have hall : ∀ p ∈ writable (.polling (alwaysPolledPackages ++ filePackages)),
      IsId p ∧ Visible p := by decide +kernel
  have hnodup : (writable (.polling (alwaysPolledPackages ++ filePackages))).Nodup :=
    nodup_of_distinct (by decide +kernel)
  have hsub := writable_sublist forceReadAll turn
  exact ⟨fun p hp => hall p (hsub.subset hp), hnodup.sublist hsub⟩

theorem beginPoll_value (forceReadAll : Bool) (h : Handler) {p : Int} (hp : Visible p) :
    (beginPoll forceReadAll h).handler.lib.value p = (beginPoll forceReadAll h).start p :=
  setAll_value_other _ _ hp.2

theorem tracked_beginPoll (forceReadAll : Bool) (h : Handler) :
    Tracked (beginPoll forceReadAll h) where
  ids p hp := by cases hp
  code := .inl rfl
  known := (writable_polled forceReadAll h.polledFilePackage).1
  once := (writable_polled forceReadAll h.polledFilePackage).2
  fresh p hp := by
    have hvisible := ((writable_polled forceReadAll h.polledFilePackage).1 p hp).2
    exact ⟨beginPoll_value forceReadAll h hvisible, List.not_mem_nil⟩
  results := by rintro _ _ _ ⟨⟩

theorem kept_beginPoll (forceReadAll : Bool) (h : Handler) : Kept (beginPoll forceReadAll h) :=
  fun _ hp hne => absurd (beginPoll_value forceReadAll h hp) hne

theorem start_step (hs : Tracked s) (hstep : callStep clock s event = some t) :
    t.start = s.start := (callStep_follows hs hstep).effect.start

/-- The values before the call stay on record through it. -/
theorem start_of_run {path : List (Poll × Event)} (r : Run (callStep clock) s path t)
    (hs : Tracked s) : t.start = s.start := by
  induction r with
  | nil s => rfl
  | cons first rest ih =>
    exact (ih (callStep_follows hs first).tracked).trans (start_step hs first)

theorem reports_iff_kept {before : Lib} (hstart : t.start = before.value)
    (ended : t.phase.isIdle = true) : Reports before t ↔ Kept t := by
  unfold Reports Kept
  rw [collected_idle ended, hstart]

/-- A call reports every parameter that it has changed exactly if all of its steps are harmless. -/
theorem reports_iff_harmless {h : Handler} {forceReadAll : Bool} {path : List (Poll × Event)}
    (r : Run (callStep clock) (beginPoll forceReadAll h) path t) (ended : t.phase.isIdle = true) :
    Reports h.lib t ↔ Meets (Harmless clock) path := by
  have hs := tracked_beginPoll forceReadAll h
  have hinv : ∀ s e t, Tracked s → callStep clock s e = some t → Tracked t :=
    fun s e t hs hstep => (callStep_follows hs hstep).tracked
  have hkept : Kept t ↔ Always Kept path t :=
    ⟨r.always_of_last hinv (fun s e t hs hstep => (callStep_follows hs hstep).effect.kept hs) hs,
      Always.last⟩
  rw [reports_iff_kept (start_of_run r hs) ended, hkept]
  exact r.always_iff hinv (fun s e t hs hk hstep => (callStep_follows hs hstep).kept hk) hs
    (kept_beginPoll forceReadAll h)

/-- A handler that has not been used, with its port open. -/
def unused : Handler := ⟨.fresh, ⟨[], []⟩, 0, true⟩

/-- Nothing comes in for the package, or it reports what it stores. -/
def tameOutcome (clock : Int → Int) (package : Package) (lib : Lib) :
    Except PyError (Json × Rs232Code) → Bool
  | .error _ => false
  | .ok (response, code) =>
    let u := updateFor clock package response lib
    !isDead code &&
      (code ≠ .NO_ERR || (u.error.isNone && u.errCode = .NO_ERR && !u.changed.isEmpty))

theorem harmlessOutcome_of_tame {package : Package} {lib : Lib}
    {outcome : Except PyError (Json × Rs232Code)}
    (h : tameOutcome clock package lib outcome = true) :
    HarmlessOutcome clock package outcome lib s := by
  cases outcome with
  | error e => cases h
  | ok result =>
    obtain ⟨response, code⟩ := result
    simp only [tameOutcome, Bool.and_eq_true, Bool.or_eq_true, Bool.not_eq_true',
      decide_eq_true_eq, Option.isNone_iff_eq_none, List.isEmpty_eq_false_iff] at h
    obtain ⟨halive, hreports⟩ := h
    refine ⟨fun hdead => absurd hdead (by simp [halive]), fun hcode => ?_⟩
    obtain ⟨⟨herror, hgood⟩, hchanged⟩ := hreports.resolve_left (by simp [hcode])
    have hunpacks : ¬ Misses clock package response := by
      intro hmisses
      rcases updateFor_missed lib hmisses with hraises | hbad | hnothing
      · exact hraises herror
      · exact hbad hgood
      · exact hchanged hnothing
    exact ⟨fun hmisses => absurd hmisses hunpacks,
      fun hunusable => absurd hunusable.misses hunpacks⟩

/-- No stage raises, every package is tame, and parameter 0 does not come alone. -/
def tame (clock : Int → Int) (s : Poll) : Event → Bool
  | .package reads files =>
    match s.phase with
    | .polling (package :: _) =>
      match isPolled package s.handler.lib with
      | .error _ => false
      | .ok false => true
      | .ok true => tameOutcome clock package (prepared package files s.handler).lib
          (exchange s.handler.available package reads s.handler.saved).1
    | _ => false
  | .virtual => (updateVirtualSignals clock s.handler.lib).error.isNone
  | .notification => (notificationUpdate clock s.handler).error.isNone
  | .vfdResult =>
    match s.phase with
    | .draining (resp :: _) _ _ => (updateVfdParams resp s.handler.lib).error.isNone
    | _ => false
  | .finish =>
    match s.phase with
    | .draining [] params _ => s.updated ++ vfdIds params ≠ [0]
    | _ => false
  | _ => true

theorem harmless_of_tame (s : Poll) (event : Event) (h : tame clock s event = true) :
    Harmless clock s event := by
  cases event with
  | package reads files =>
    intro package rest hphase
    simp only [tame, hphase] at h
    unfold HarmlessPackage
    cases hpolled : isPolled package s.handler.lib with
    | error e =>
      rw [hpolled] at h
      cases h
    | ok polled =>
      rw [hpolled] at h
      cases polled with
      | false => trivial
      | true => exact harmlessOutcome_of_tame h
  | virtual =>
    intro hfault
    exact absurd (Option.isNone_iff_eq_none.mp h) (updateVirtualSignals_error_iff.mpr hfault)
  | notification =>
    intro hfault
    exact absurd (Option.isNone_iff_eq_none.mp h)
      ((notificationUpdate_error_iff clock s).mpr hfault)
  | vfdResult =>
    intro resp remaining params code hphase hfault
    simp only [tame, hphase] at h
    exact absurd (Option.isNone_iff_eq_none.mp h)
      ((updateVfdParams_error_iff s.handler.lib).mpr hfault)
  | finish =>
    intro params code hphase hzero
    simp [tame, hphase, hzero] at h
  | begin | read | write => trivial

/-- A handler that has polled before, with notices in both of its queues. -/
def inService : Handler where
  lib := Lib.fresh.set 0 (.str "AR0")
  saved := (ask true "childLock" "" (texted "childLock" "0" notices) ⟨[], []⟩).2
  polledFilePackage := 2
  available := true

/-- Two texts, a closing time and a motor current have changed, the other packages fail, and all
the changes are reported. -/
theorem reports_busyPoll : ∃ t,
    exec (callStep fun _ => 0) (beginPoll false inService) busyPoll = some t ∧
      t.phase.reply = [0, 144, 155, 169] ∧ inService.lib.value 0 = .str "AR0" ∧
      t.handler.lib.value 0 = .str "AR1" ∧ t.errCode = .PARTIAL_ERR ∧
      Reports inService.lib t := by
  have hend : (exec (callStep fun _ => 0) (beginPoll false inService) busyPoll).map
      (fun t => (t.phase.isIdle, t.phase.reply, t.handler.lib.value 0, t.errCode)) =
        some (true, [0, 144, 155, 169], .str "AR1", .PARTIAL_ERR) := rfl
  have hcheck : (trace (callStep fun _ => 0) (beginPoll false inService) busyPoll).all
      (fun p => tame (fun _ => 0) p.1 p.2) = true := rfl
  obtain ⟨t, ht, hfields⟩ := Option.map_eq_some_iff.mp hend
  simp only [Prod.mk.injEq] at hfields
  obtain ⟨ended, hreply, hvalue, hcode⟩ := hfields
  exact ⟨t, ht, hreply, rfl, hvalue, hcode,
    (reports_iff_harmless (exec_run ht) ended).mpr (meets_of_check harmless_of_tame hcheck)⟩

/-- The reference of the lift, and then nothing more. -/
def cutShort : List Event :=
  [.package (texted "liftRef1" "AR1" []) noFiles, .package [] noFiles]

/-- Parameter 0 has its value, and its id is not in the reply. -/
theorem not_always_reports : ¬ ∀ (clock : Int → Int) (h : Handler) (forceReadAll : Bool)
    (path : List (Poll × Event)) (t : Poll),
    Run (callStep clock) (beginPoll forceReadAll h) path t → t.phase.isIdle = true →
    Reports h.lib t := by
  intro hall
  have hend : (exec (callStep fun _ => 0) (beginPoll false unused) cutShort).map
      (fun t => (t.phase.isIdle, t.phase.reply, t.handler.lib.value 0)) =
        some (true, [], .str "AR1") := rfl
  obtain ⟨t, hexec, hfields⟩ := Option.map_eq_some_iff.mp hend
  simp only [Prod.mk.injEq] at hfields
  obtain ⟨ended, hreply, hvalue⟩ := hfields
  have hreports := hall _ unused false _ t (exec_run hexec) ended 0 (by decide)
  rw [hvalue, hreply] at hreports
  exact absurd (hreports (by simp [unused, Lib.fresh])) List.not_mem_nil

end Runs

end NexyGateway.Rs232Handler
