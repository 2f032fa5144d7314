import NexyGateway.FileProvenance

/-!
# Frames that a request does not survive

A request raises on the id of a VFD result that is no number, and on a reply behind a
logs frame. Otherwise it has heard the frames of one read, or comes back with a code.
-/
namespace NexyGateway.Rs232Handler

open PyNumber PyJson

section Validation

/-- The id is compared with numbers, and nothing has looked at its type. -/
def BadVfdId (rsp : Dict) : Prop :=
  rsp.has "logs" = false ∧ rsp.lookup "cmd" = some (.str "vfdResult") ∧ rsp.length = 4 ∧
    ∃ id, rsp.lookup "id" = some id ∧ id.number = none

theorem between_error_iff {low high : Int} {v : Json} :
    (∃ e, v.between low high = .error e) ↔ v.number = none := by
  unfold Json.between
  cases hv : v.number with
  | none => simp
  | some x => cases x <;> simp

theorem validateVfdResult_error_iff {rsp : Dict} : (∃ e, validateVfdResult rsp = .error e) ↔
    rsp.length = 4 ∧ ∃ id, rsp.lookup "id" = some id ∧ id.number = none := by
  unfold validateVfdResult keyOr
  by_cases hlen : rsp.length = 4
  · cases hid : rsp.lookup "id" with
    | none => simp [hlen]
    | some id =>
      have hbetween : (∃ e, id.between 0 7 = .error e) ↔ id.number = none := between_error_iff
      simp only [hlen, ne_eq, not_true_eq_false, if_false, true_and, Option.some.injEq,
        exists_eq_left', ← hbetween]
      cases hin : id.between 0 7 with
      | error e => simp
      | ok inRange =>
        cases inRange
        · simp
        · by_cases htime : rsp.has "timestamp" = true <;> simp [htime]
  · simp [hlen]

theorem keyOr_ok {rsp : Dict} {key : String} {check : Json → Except PyError Rs232Code}
    (h : ∀ v, ∃ code, check v = .ok code) : ∃ code, keyOr rsp key check = .ok code := by
  unfold keyOr
  cases rsp.lookup key with
  | none => exact ⟨_, rfl⟩
  | some v => exact h v

theorem validateReadFile_ok (rsp : Dict) : ∃ code, validateReadFile rsp = .ok code := by
  apply keyOr_ok
  intro name
  repeat' split
  all_goals exact ⟨_, rfl⟩

theorem validateWriteFile_ok (rsp : Dict) : ∃ code, validateWriteFile rsp = .ok code := by
  apply keyOr_ok
  intro name
  repeat' split
  all_goals exact ⟨_, rfl⟩

theorem validateVfdId_ok (rsp : Dict) : ∃ code, validateVfdId rsp = .ok code := by
  unfold validateVfdId
  split
  · exact ⟨_, rfl⟩
  apply keyOr_ok
  intro data
  split
  · exact ⟨_, rfl⟩
  apply keyOr_ok
  intro error
  split <;> exact ⟨_, rfl⟩

theorem validateVfdRead_ok (rsp : Dict) : ∃ code, validateVfdRead rsp = .ok code := by
  unfold validateVfdRead
  split
  · exact ⟨_, rfl⟩
  split
  · exact ⟨_, rfl⟩
  apply keyOr_ok
  intro error
  split <;> exact ⟨_, rfl⟩

theorem validateData_ok (rsp : Dict) (cmd : Json) : ∃ code, validateData rsp cmd = .ok code := by
  unfold validateData
  repeat' split
  all_goals exact ⟨_, rfl⟩

/-- No other check of the validation raises. -/
theorem validateOther_ok {rsp : Dict} {cmd : Json} (hcmd : cmd ≠ .str "vfdResult")
    (hlogs : rsp.lookup "logs" = none) (hlookup : rsp.lookup "cmd" = some cmd) :
    ∃ code, validateObject rsp = .ok code := by
  simp only [validateObject, hlogs]
  rw [keyOr, hlookup]
  simp only [eq_str, hcmd, if_false]
  split
  · apply keyOr_ok
    intro updated
    split <;> exact ⟨_, rfl⟩
  split
  · exact validateReadFile_ok rsp
  split
  · exact validateWriteFile_ok rsp
  split
  · split <;> exact ⟨_, rfl⟩
  split
  · exact validateVfdId_ok rsp
  split
  · exact validateVfdRead_ok rsp
  · exact validateData_ok rsp cmd

theorem validateObject_error_iff {rsp : Dict} :
    (∃ e, validateObject rsp = .error e) ↔ BadVfdId rsp := by
  cases hlogs : rsp.lookup "logs" with
  | some logs =>
    have hhas : rsp.has "logs" = true := by simp [Dict.has, hlogs]
    simp only [validateObject, hlogs, BadVfdId, hhas, Bool.true_eq_false, false_and, iff_false]
    by_cases hlist : logs.isList = true <;> simp [hlist]
  | none =>
    have hhas : rsp.has "logs" = false := by simp [Dict.has, hlogs]
    cases hlookup : rsp.lookup "cmd" with
    | none => simp [validateObject, hlogs, keyOr, hlookup, BadVfdId]
    | some cmd =>
      by_cases hcmd : cmd = .str "vfdResult"
      · subst hcmd
        have hvalidate : validateObject rsp = validateVfdResult rsp := by
          simp [validateObject, hlogs, keyOr, hlookup]
        rw [hvalidate, validateVfdResult_error_iff]
        simp [BadVfdId, hhas, hlookup]
      · obtain ⟨code, hok⟩ := validateOther_ok hcmd hlogs hlookup
        simp [hok, BadVfdId, hlookup, hcmd]

theorem decodeAndValidate_error_iff {document : Received} :
    (∃ e, decodeAndValidate document = .error e) ↔
      ∃ rsp, document.rsp = some rsp ∧ BadVfdId rsp := by
  have hmap : ∀ rsp : Dict, (∃ e, (validateObject rsp).map (verdict rsp) = .error e) ↔
      BadVfdId rsp := by
    intro rsp
    rw [← validateObject_error_iff]
    cases validateObject rsp <;> simp [Except.map]
  cases document with
  | object rsp => simp [decodeAndValidate, Received.rsp, hmap]
  | other => simp [decodeAndValidate, Received.rsp]
  | quoted content =>
    cases content with
    | none => simp [decodeAndValidate, Received.rsp]
    | some v =>
      cases v with
      | dict rsp => simp [decodeAndValidate, Received.rsp, hmap]
      | _ => simp [decodeAndValidate, Received.rsp]

/-- A VFD result with a bad id, and only valid frames before it. -/
def UnreadableId (documents : List Received) : Prop :=
  ∃ before rsps bad rsp after, documents = before ++ bad :: after ∧
    List.Forall₂ Accepts before rsps ∧ bad.rsp = some rsp ∧ BadVfdId rsp

theorem unreadableId_cons {document : Received} {rest : List Received} :
    UnreadableId (document :: rest) ↔ (∃ e, decodeAndValidate document = .error e) ∨
      (∃ rsp, Accepts document rsp) ∧ UnreadableId rest := by
  rw [decodeAndValidate_error_iff]
  constructor
  · rintro ⟨before, rsps, bad, rsp, after, heq, hvalid, hbad⟩
    cases hvalid with
    | nil =>
      obtain ⟨rfl, -⟩ := List.cons.inj heq
      exact .inl ⟨rsp, hbad⟩
    | cons hfirst hrest =>
      obtain ⟨rfl, rfl⟩ := List.cons.inj heq
      exact .inr ⟨⟨_, hfirst⟩, _, _, bad, rsp, after, rfl, hrest, hbad⟩
  · rintro (⟨rsp, hbad⟩ | ⟨⟨first, hfirst⟩, before, rsps, bad, rsp, after, rfl, hrest, hbad⟩)
    · exact ⟨[], [], document, rsp, rest, rfl, .nil, hbad⟩
    · exact ⟨document :: before, first :: rsps, bad, rsp, after, rfl, .cons hfirst hrest, hbad⟩

theorem validateAll_error_iff {documents : List Received} :
    (∃ e, validateAll documents = .error e) ↔ UnreadableId documents := by
  induction documents with
  | nil => simp [validateAll, UnreadableId]
  | cons document rest ih =>
    rw [unreadableId_cons, ← ih]
    cases hd : decodeAndValidate document with
    | error e => simp [validateAll, hd]
    | ok checked =>
      cases checked with
      | error code => simp [validateAll, hd, Accepts]
      | ok rsp =>
        cases hrest : validateAll rest <;> simp [validateAll, hd, hrest, Except.map, Accepts]

/-- The frames that are handed on are the longest valid beginning. -/
theorem validateAll_ok {documents : List Received} {rsps : List Dict} {code : Rs232Code}
    (h : validateAll documents = .ok (rsps, code)) :
    (∃ before, before <+: documents ∧ List.Forall₂ Accepts before rsps) ∧
      ∀ before rsps', before <+: documents → List.Forall₂ Accepts before rsps' →
        rsps' <+: rsps := by
  induction documents generalizing rsps code with
  | nil =>
    cases h
    refine ⟨⟨[], List.prefix_rfl, .nil⟩, ?_⟩
    intro before rsps' hbefore hvalid
    rw [List.prefix_nil.mp hbefore] at hvalid
    cases hvalid
    exact List.prefix_rfl
  | cons document rest ih =>
    cases hd : decodeAndValidate document with
    | error e => simp [validateAll, hd] at h
    | ok checked =>
      cases checked with
      | error code' =>
        simp only [validateAll, hd, Except.ok.injEq, Prod.mk.injEq] at h
        obtain ⟨rfl, rfl⟩ := h
        refine ⟨⟨[], List.nil_prefix, .nil⟩, ?_⟩
        intro before rsps' hbefore hvalid
        cases hvalid with
        | nil => exact List.prefix_rfl
        | cons hfirst =>
          obtain ⟨rfl, -⟩ := List.cons_prefix_cons.mp hbefore
          simp [Accepts, hd] at hfirst
      | ok rsp =>
        cases hrest : validateAll rest with
        | error e => simp [validateAll, hd, hrest, Except.map] at h
        | ok r =>
          obtain ⟨rsps1, code1⟩ := r
          simp only [validateAll, hd, hrest, Except.map, Except.ok.injEq, Prod.mk.injEq] at h
          obtain ⟨rfl, rfl⟩ := h
          obtain ⟨⟨before, hbefore, hvalid⟩, hlongest⟩ := ih hrest
          refine ⟨⟨document :: before, ?_, .cons hd hvalid⟩, ?_⟩
          · exact List.cons_prefix_cons.mpr ⟨rfl, hbefore⟩
          · intro before' rsps' hbefore' hvalid'
            cases hvalid' with
            | nil => exact List.nil_prefix
            | cons hfirst hnext =>
              obtain ⟨rfl, hbegins⟩ := List.cons_prefix_cons.mp hbefore'
              rw [Accepts, hd] at hfirst
              cases hfirst
              exact List.cons_prefix_cons.mpr ⟨rfl, hlongest _ _ hbegins hnext⟩

end Validation

section Sorting

variable {cmd type : String} {rsp : Dict} {rsps : List Dict} {split : Split} {saved : Saved}

/-- A frame that is appended to what has been collected. -/
def Replies (cmd type : String) (rsp : Dict) : Prop :=
  rsp.has "logs" = false ∧ isReply cmd type rsp = true

/-- The frames that report the status. -/
def statuses (rsps : List Dict) : List Dict :=
  rsps.filter (fun rsp => !rsp.has "logs" && isStatus rsp)

/-- Nothing more can be collected. -/
def IsClosed (split : Split) : Prop := ∃ logs, split.wanted = .logs logs

theorem sortFrame_error_iff :
    (∃ e, (sortFrame cmd type rsp split saved).1 = .error e) ↔
      IsClosed split ∧ Replies cmd type rsp := by
  by_cases hlogs : rsp.has "logs" = true
  · simp [sortFrame, hlogs, Replies]
  · simp only [Bool.not_eq_true] at hlogs
    cases hw : split.wanted with
    | frames l =>
      obtain ⟨split', saved', hres, -, -⟩ := sortFrame_frames cmd type saved hlogs hw
      simp [hres, IsClosed, hw]
    | logs logs =>
      simp only [IsClosed, Replies, hw, hlogs, isReply, isNotification, sortFrame]
      by_cases hvfd : cmdIs rsp "vfdResult" = true
      · simp [hvfd]
      by_cases hop : cmdIs rsp "operation" = true
      · by_cases hstatus : typeIs rsp statusType = true
        · simp [hvfd, hop, hstatus]
        by_cases hdoor : typeIs rsp doorClosingTimeType = true
        · simp [hvfd, hop, hstatus, hdoor]
        by_cases hwanted : isWanted cmd type rsp = true <;>
          simp [hvfd, hop, hstatus, hdoor, hwanted]
      · by_cases hwanted : isWanted cmd type rsp = true <;> simp [hvfd, hop, hwanted]

theorem sortFrame_ok {split' : Split} {saved' : Saved}
    (h : sortFrame cmd type rsp split saved = (.ok split', saved')) :
    (IsClosed split' ↔ IsClosed split ∨ rsp.has "logs" = true) ∧
      split'.status = split.status ++ statuses [rsp] := by
  unfold sortFrame at h
  split at h
  · rename_i hlogs
    cases h
    simp [IsClosed, statuses, hlogs]
  rename_i hlogs
  split at h
  · rename_i hvfd
    cases h
    have hop : cmdIs rsp "operation" = false := by
      by_contra hop
      exact absurd (cmdIs_unique hvfd (by simpa using hop)) (by decide)
    simp [hlogs, statuses, isStatus, hop]
  split at h
  · rename_i hstatus
    cases h
    have hkeep : statuses [rsp] = [rsp] := by
      simp only [Bool.not_eq_true] at hlogs
      simp [statuses, isStatus, hlogs, Bool.and_eq_true_iff.mp hstatus]
    simp [hlogs, IsClosed, hkeep]
  rename_i hstatus
  have hdrop : statuses [rsp] = [] := by
    simp only [Bool.not_eq_true] at hstatus
    simp [statuses, isStatus, hstatus]
  rw [hdrop, List.append_nil]
  split at h
  · cases h
    simp [hlogs, IsClosed]
  split at h
  · split at h
    · rename_i hw
      cases h
      simp [hlogs, IsClosed, hw]
    · cases h
  · cases h
    simp [hlogs, IsClosed]

/-- A reply behind a logs frame, which has taken the place of the list. -/
def LogsThenReply (cmd type : String) (rsps : List Dict) : Prop :=
  ∃ logs reply, [logs, reply].Sublist rsps ∧ logs.has "logs" = true ∧ Replies cmd type reply

theorem logsThenReply_cons : LogsThenReply cmd type (rsp :: rsps) ↔
    LogsThenReply cmd type rsps ∨
      rsp.has "logs" = true ∧ ∃ reply ∈ rsps, Replies cmd type reply := by
  constructor
  · rintro ⟨logs, reply, hsub, hlogs, hreply⟩
    cases hsub with
    | cons _ hsub => exact .inl ⟨logs, reply, hsub, hlogs, hreply⟩
    | cons_cons _ hsub => exact .inr ⟨hlogs, reply, List.singleton_sublist.mp hsub, hreply⟩
  · rintro (⟨logs, reply, hsub, h⟩ | ⟨hlogs, reply, hmem, hreply⟩)
    · exact ⟨logs, reply, hsub.cons _, h⟩
    · exact ⟨rsp, reply, (List.singleton_sublist.mpr hmem).cons_cons _, hlogs, hreply⟩

theorem sortFrames_error_iff :
    (∃ e, (sortFrames cmd type rsps split saved).1 = .error e) ↔
      LogsThenReply cmd type rsps ∨
        IsClosed split ∧ ∃ reply ∈ rsps, Replies cmd type reply := by
  induction rsps generalizing split saved with
  | nil => simp [sortFrames, LogsThenReply]
  | cons rsp rest ih =>
    have hraises : (∃ e, (sortFrame cmd type rsp split saved).1 = .error e) ↔ _ :=
      sortFrame_error_iff
    rw [logsThenReply_cons, List.exists_mem_cons_iff, sortFrames]
    cases hone : sortFrame cmd type rsp split saved with
    | mk result saved' =>
      rw [hone] at hraises
      cases result with
      | error e =>
        have hclosed := hraises.mp ⟨e, rfl⟩
        exact ⟨fun _ => .inr ⟨hclosed.1, .inl hclosed.2⟩, fun _ => ⟨e, rfl⟩⟩
      | ok split' =>
        have hopen : ¬ (IsClosed split ∧ Replies cmd type rsp) := by
          rw [← hraises]
          simp
        simp only [ih, (sortFrame_ok hone).1]
        by_cases hclosed : IsClosed split
        · have hreply : ¬ Replies cmd type rsp := fun hreply => hopen ⟨hclosed, hreply⟩
          simp only [hclosed, hreply, true_or, true_and, false_or]
          tauto
        · simp only [hclosed, false_or, false_and, or_false]

theorem sortFrames_status {split' : Split} {saved' : Saved}
    (h : sortFrames cmd type rsps split saved = (.ok split', saved')) :
    split'.status = split.status ++ statuses rsps := by
  induction rsps generalizing split saved with
  | nil =>
    cases h
    simp [statuses]
  | cons rsp rest ih =>
    simp only [sortFrames] at h
    split at h
    · cases h
    · rename_i hone
      have hcons : statuses (rsp :: rest) = statuses [rsp] ++ statuses rest :=
        List.filter_append [rsp] rest
      rw [ih h, (sortFrame_ok hone).2, List.append_assoc, hcons]

end Sorting

section Reading

variable {cmd type : String} {rsps : List Dict} {split : Split} {saved saved' : Saved}

/-- A read that is taken in as a whole. -/
structure Passed (cmd type : String) (documents : List Received) (rsps : List Dict) : Prop where
  valid : List.Forall₂ Accepts documents rsps
  calm : ¬ LogsThenReply cmd type rsps

/-- The part that is waited for is among the frames. -/
def awaited (cmd type : String) (rsps : List Dict) : Bool :=
  if type = statusType then !(statuses rsps).isEmpty
  else rsps.any (fun rsp => rsp.has "logs" || isReply cmd type rsp)

/-- The parts of a read that has passed. -/
structure SplitInto (cmd type : String) (rsps : List Dict) (split : Split) : Prop where
  noError : split.errCode = .NO_ERR
  status : split.status = statuses rsps
  frames : NoLogs rsps → split.wanted = .frames (rsps.filter (isReply cmd type))
  logs : ¬ NoLogs rsps → IsClosed split

theorem SplitInto.isPending (h : SplitInto cmd type rsps split) :
    split.isPending type = !awaited cmd type rsps := by
  unfold Split.isPending awaited
  by_cases htype : type = statusType
  · simp [htype, h.status]
  · rw [if_neg htype, if_neg htype]
    by_cases hlogs : NoLogs rsps
    · have hany : rsps.any (fun rsp => rsp.has "logs" || isReply cmd type rsp) = true ↔
          rsps.filter (isReply cmd type) ≠ [] := by
        simp only [List.any_eq_true, Bool.or_eq_true, ne_eq, List.filter_eq_nil_iff, not_forall,
          not_not, exists_prop]
        constructor
        · rintro ⟨rsp, hmem, hrsp | hreply⟩
          · rw [hlogs rsp hmem] at hrsp
            cases hrsp
          · exact ⟨rsp, hmem, hreply⟩
        · rintro ⟨rsp, hmem, hreply⟩
          exact ⟨rsp, hmem, .inr hreply⟩
      rw [h.frames hlogs, Wanted.isEmpty, Bool.eq_iff_iff, Bool.not_eq_true', ← Bool.not_eq_true,
        hany, not_not, List.isEmpty_iff]
    · obtain ⟨logs, hw⟩ := h.logs hlogs
      simp only [NoLogs, not_forall, Bool.not_eq_false] at hlogs
      obtain ⟨rsp, hmem, hrsp⟩ := hlogs
      have hany : rsps.any (fun rsp => rsp.has "logs" || isReply cmd type rsp) = true :=
        List.any_eq_true.mpr ⟨rsp, hmem, by simp [hrsp]⟩
      simp [hw, Wanted.isEmpty, hany]

theorem splitInto_of_sortFrames
    (h : sortFrames cmd type rsps (.empty .NO_ERR) saved = (.ok split, saved')) :
    SplitInto cmd type rsps split where
  noError := sortFrames_errCode h
  status := by simpa [Split.empty] using sortFrames_status h
  frames hlogs := by
    obtain ⟨split', saved'', hres, hw, -⟩ :=
      sortFrames_noLogs cmd type saved hlogs (empty_wanted .NO_ERR)
    rw [h] at hres
    cases hres
    exact hw
  logs hlogs := sortFrames_logs (.inl hlogs) h

theorem not_isClosed_empty (code : Rs232Code) : ¬ IsClosed (.empty code) := by
  rintro ⟨logs, hw⟩
  cases hw

theorem splitResponse_passed {documents : List Received} (saved : Saved)
    (hcmd : ¬ (cmd = "operation" ∧ type = "")) (h : Passed cmd type documents rsps) :
    ∃ split saved', splitResponse cmd type (some documents) saved = (.ok split, saved') ∧
      SplitInto cmd type rsps split := by
  simp only [splitResponse, if_neg hcmd, validateAll_iff.mpr h.valid]
  cases hres : sortFrames cmd type rsps (.empty .NO_ERR) saved with
  | mk result saved' =>
    cases result with
    | ok split => exact ⟨split, saved', rfl, splitInto_of_sortFrames hres⟩
    | error e =>
      have hraises := sortFrames_error_iff.mp ⟨e, congrArg Prod.fst hres⟩
      exact (hraises.elim h.calm fun hclosed => not_isClosed_empty _ hclosed.1).elim

theorem passed_of_splitResponse {documents : Option (List Received)}
    (hres : splitResponse cmd type documents saved = (.ok split, saved'))
    (hcode : split.errCode = .NO_ERR) : ∃ docs rsps,
      documents = some docs ∧ Passed cmd type docs rsps ∧ SplitInto cmd type rsps split := by
  unfold splitResponse at hres
  split at hres
  · cases hres
    cases hcode
  cases documents with
  | none =>
    cases hres
    cases hcode
  | some docs =>
    simp only at hres
    split at hres
    · cases hres
    · rename_i rsps code hvalid
      have hcode' := sortFrames_errCode hres
      rw [hcode] at hcode'
      subst hcode'
      refine ⟨docs, rsps, rfl, ⟨validateAll_iff.mp hvalid, ?_⟩, splitInto_of_sortFrames hres⟩
      intro hlogs
      obtain ⟨e, he⟩ := sortFrames_error_iff.mpr (.inl hlogs)
      rw [hres] at he
      cases he

/-- The frames of the read make the request raise. -/
def SplitTrips (cmd type : String) (documents : List Received) : Prop :=
  UnreadableId documents ∨ ∃ before rsps, before <+: documents ∧
    List.Forall₂ Accepts before rsps ∧ LogsThenReply cmd type rsps

theorem LogsThenReply.of_prefix {rsps' : List Dict} (h : LogsThenReply cmd type rsps)
    (hbegins : rsps <+: rsps') : LogsThenReply cmd type rsps' := by
  obtain ⟨logs, reply, hsub, hboth⟩ := h
  exact ⟨logs, reply, hsub.trans hbegins.sublist, hboth⟩

theorem splitResponse_error_iff {documents : List Received}
    (hcmd : ¬ (cmd = "operation" ∧ type = "")) :
    (∃ e, (splitResponse cmd type (some documents) saved).1 = .error e) ↔
      SplitTrips cmd type documents := by
  simp only [splitResponse, if_neg hcmd, SplitTrips, ← validateAll_error_iff]
  cases hvalid : validateAll documents with
  | error e => simp
  | ok result =>
    obtain ⟨rsps, code⟩ := result
    obtain ⟨⟨before, hbefore, hforall⟩, hlongest⟩ := validateAll_ok hvalid
    simp only [reduceCtorEq, exists_false, false_or, sortFrames_error_iff]
    constructor
    · rintro (hlogs | hclosed)
      · exact ⟨before, rsps, hbefore, hforall, hlogs⟩
      · exact absurd hclosed.1 (not_isClosed_empty code)
    · rintro ⟨before', rsps', hbefore', hforall', hlogs⟩
      exact .inl (hlogs.of_prefix (hlongest _ _ hbefore' hforall'))

/-- Within the given number of reads, the first one with what is waited for has these frames. -/
inductive Heard (cmd type : String) : Nat → List FrameRead → List Dict → Prop
  | now {n : Nat} {documents : List Received} {reads : List FrameRead} {rsps : List Dict}
      (passed : Passed cmd type documents rsps) (found : awaited cmd type rsps = true) :
      Heard cmd type (n + 1) (.text (some documents) :: reads) rsps
  | later {n : Nat} {documents : List Received} {reads : List FrameRead} {rsps heard : List Dict}
      (passed : Passed cmd type documents rsps) (quiet : awaited cmd type rsps = false)
      (rest : Heard cmd type n reads heard) :
      Heard cmd type (n + 1) (.text (some documents) :: reads) heard

/-- A read makes the request raise before what is waited for has come. -/
inductive ReadsTrip (cmd type : String) : Nat → List FrameRead → Prop
  | now {n : Nat} {documents : List Received} {reads : List FrameRead}
      (trips : SplitTrips cmd type documents) :
      ReadsTrip cmd type (n + 1) (.text (some documents) :: reads)
  | later {n : Nat} {documents : List Received} {reads : List FrameRead} {rsps : List Dict}
      (passed : Passed cmd type documents rsps) (quiet : awaited cmd type rsps = false)
      (rest : ReadsTrip cmd type n reads) :
      ReadsTrip cmd type (n + 1) (.text (some documents) :: reads)

theorem readSignal_of_heard {n : Nat} {reads : List FrameRead} (saved : Saved)
    (hcmd : ¬ (cmd = "operation" ∧ type = "")) (h : Heard cmd type n reads rsps) :
    ∃ split saved', readSignal cmd type n reads saved = (.ok split, saved') ∧
      SplitInto cmd type rsps split := by
  induction h generalizing saved with
  | now passed found =>
    obtain ⟨split, saved', hres, hinto⟩ := splitResponse_passed saved hcmd passed
    refine ⟨split, saved', ?_, hinto⟩
    simp [readSignal, hres, hinto.isPending, found]
  | later passed quiet rest ih =>
    obtain ⟨split, saved1, hres, hinto⟩ := splitResponse_passed saved hcmd passed
    obtain ⟨split', saved', hres', hinto'⟩ := ih saved1
    refine ⟨split', saved', ?_, hinto'⟩
    simp only [readSignal, hres, hinto.noError, hinto.isPending, quiet, Bool.not_false, and_self,
      if_true]
    exact hres'

theorem heard_of_readSignal {n : Nat} {reads : List FrameRead}
    (hres : readSignal cmd type n reads saved = (.ok split, saved'))
    (hcode : split.errCode = .NO_ERR) :
    ∃ rsps, Heard cmd type n reads rsps ∧ SplitInto cmd type rsps split := by
  induction n generalizing reads saved with
  | zero =>
    simp only [readSignal] at hres
    split at hres <;> cases hres <;> cases hcode
  | succ n ih =>
    cases reads with
    | nil => cases hres; cases hcode
    | cons read reads =>
      cases read with
      | failed code isError => cases hres; exact absurd hcode isError
      | text documents =>
        simp only [readSignal] at hres
        split at hres
        · cases hres
        · rename_i split1 saved1 hsplit
          split at hres
          · rename_i hpending
            obtain ⟨docs, rsps1, rfl, passed, hinto1⟩ :=
              passed_of_splitResponse hsplit hpending.1
            obtain ⟨rsps, hheard, hinto⟩ := ih hres
            have hquiet := hpending.2
            rw [hinto1.isPending, Bool.not_eq_true'] at hquiet
            exact ⟨rsps, .later passed hquiet hheard, hinto⟩
          · rename_i hpending
            cases hres
            obtain ⟨docs, rsps, rfl, passed, hinto⟩ := passed_of_splitResponse hsplit hcode
            rw [hinto.isPending] at hpending
            exact ⟨rsps, .now passed (by simpa [hcode] using hpending), hinto⟩

theorem readSignal_error_iff {n : Nat} {reads : List FrameRead}
    (hcmd : ¬ (cmd = "operation" ∧ type = "")) :
    (∃ e, (readSignal cmd type n reads saved).1 = .error e) ↔ ReadsTrip cmd type n reads := by
  induction n generalizing reads saved with
  | zero =>
    refine iff_of_false ?_ (by rintro ⟨⟩)
    simp [readSignal]
  | succ n ih =>
    cases reads with
    | nil => exact iff_of_false (by simp [readSignal]) (by rintro ⟨⟩)
    | cons read reads =>
      cases read with
      | failed code isError => exact iff_of_false (by simp [readSignal]) (by rintro ⟨⟩)
      | text documents =>
        cases documents with
        | none =>
          refine iff_of_false ?_ (by rintro ⟨⟩)
          simp [readSignal, splitResponse, hcmd, Split.empty]
        | some docs =>
          have htrips : (∃ e, (splitResponse cmd type (some docs) saved).1 = .error e) ↔ _ :=
            splitResponse_error_iff hcmd
          simp only [readSignal]
          cases hsplit : splitResponse cmd type (some docs) saved with
          | mk result saved1 =>
            rw [hsplit] at htrips
            cases result with
            | error e => exact iff_of_true ⟨e, rfl⟩ (.now (htrips.mp ⟨e, rfl⟩))
            | ok split1 =>
              have hsafe : ¬ SplitTrips cmd type docs := by
                rw [← htrips]
                simp
              by_cases hpending : split1.errCode = .NO_ERR ∧ split1.isPending type = true
              · obtain ⟨_, rsps, ⟨⟩, passed, hinto⟩ := passed_of_splitResponse hsplit hpending.1
                have hquiet := hpending.2
                rw [hinto.isPending, Bool.not_eq_true'] at hquiet
                simp only [if_pos hpending, ih]
                constructor
                · exact fun hrest => .later passed hquiet hrest
                · intro h
                  cases h with
                  | now trips => exact absurd trips hsafe
                  | later _ _ rest => exact rest
              · simp only [if_neg hpending, reduceCtorEq, exists_false, false_iff]
                intro h
                cases h with
                | now trips => exact hsafe trips
                | later passed quiet _ =>
                  obtain ⟨_, _, hres, hinto⟩ := splitResponse_passed saved hcmd passed
                  rw [hsplit] at hres
                  cases hres
                  exact hpending ⟨hinto.noError, by rw [hinto.isPending, quiet]; rfl⟩

end Reading

end NexyGateway.Rs232Handler
