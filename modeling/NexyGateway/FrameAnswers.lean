import Mathlib.Data.List.Forall2
import NexyGateway.LiftFiles

/-!
# Answers in the frame stream

Which frames a request is answered with. Replies are found by their command (and type)
alone, in the first read that has any; every frame up to the end of that read has to
be valid.
-/
namespace NexyGateway.Rs232Handler

open PyNumber PyJson

/-- The document passes the validation as this object. -/
def Accepts (document : Received) (rsp : Dict) : Prop := decodeAndValidate document = .ok (.ok rsp)

def isStatus (rsp : Dict) : Bool := cmdIs rsp "operation" && typeIs rsp statusType

def isNotification (rsp : Dict) : Bool :=
  cmdIs rsp "vfdResult" ||
    (cmdIs rsp "operation" && (typeIs rsp statusType || typeIs rsp doorClosingTimeType))

/-- A frame that is taken for a reply. -/
def isReply (cmd type : String) (rsp : Dict) : Bool := !isNotification rsp && isWanted cmd type rsp

def NoLogs (rsps : List Dict) : Prop := ∀ rsp ∈ rsps, rsp.has "logs" = false

/-- Within the given number of reads, the first one with a reply has these replies. -/
inductive Answers (cmd type : String) : Nat → List FrameRead → List Dict → Prop
  | now {n : Nat} {documents : List Received} {reads : List FrameRead} {rsps : List Dict}
      (valid : List.Forall₂ Accepts documents rsps) (noLogs : NoLogs rsps)
      (found : rsps.filter (isReply cmd type) ≠ []) :
      Answers cmd type (n + 1) (.text (some documents) :: reads) (rsps.filter (isReply cmd type))
  | later {n : Nat} {documents : List Received} {reads : List FrameRead} {rsps replies : List Dict}
      (valid : List.Forall₂ Accepts documents rsps) (noLogs : NoLogs rsps)
      (quiet : rsps.filter (isReply cmd type) = []) (rest : Answers cmd type n reads replies) :
      Answers cmd type (n + 1) (.text (some documents) :: reads) replies

theorem verdict_ne {rsp : Dict} {checked : Except PyError Rs232Code} {code : Rs232Code}
    (h : checked.map (verdict rsp) = .ok (.error code)) : code ≠ .NO_ERR := by
  cases checked with
  | error e => cases h
  | ok c =>
    by_cases hc : c = .NO_ERR
    · simp [Except.map, verdict, hc] at h
    · simp only [Except.map, verdict, if_neg hc, Except.ok.injEq, Except.error.injEq] at h
      exact h ▸ hc

theorem rejected_ne {document : Received} {code : Rs232Code}
    (h : decodeAndValidate document = .ok (.error code)) : code ≠ .NO_ERR := by
  cases document with
  | object rsp => exact verdict_ne h
  | other => cases h; decide
  | quoted content =>
    cases content with
    | none => cases h; decide
    | some v =>
      cases v with
      | dict rsp => exact verdict_ne h
      | _ => cases h; decide

/-- All documents pass exactly when the validation gets to the end of them. -/
theorem validateAll_iff {documents : List Received} {rsps : List Dict} :
    validateAll documents = .ok (rsps, .NO_ERR) ↔ List.Forall₂ Accepts documents rsps := by
  induction documents generalizing rsps with
  | nil => simp [validateAll, List.forall₂_nil_left_iff]
  | cons document rest ih =>
    cases hd : decodeAndValidate document with
    | error e => simp [validateAll, hd, List.forall₂_cons_left_iff, Accepts]
    | ok checked =>
      cases checked with
      | error code =>
        have := rejected_ne hd
        simp [validateAll, hd, List.forall₂_cons_left_iff, Accepts, this]
      | ok rsp =>
        have hacc : ∀ rsp', Accepts document rsp' ↔ rsp' = rsp := by
          intro rsp'
          simp [Accepts, hd, eq_comm]
        cases hrest : validateAll rest with
        | error e =>
          simp only [validateAll, hd, hrest, Except.map, List.forall₂_cons_left_iff, hacc]
          constructor
          · intro h
            cases h
          · rintro ⟨_, rsps', -, hall, -⟩
            rw [ih.mpr hall] at hrest
            cases hrest
        | ok r =>
          obtain ⟨rsps', code⟩ := r
          simp only [validateAll, hd, hrest, Except.map, List.forall₂_cons_left_iff, hacc,
            Except.ok.injEq, Prod.mk.injEq]
          constructor
          · rintro ⟨rfl, rfl⟩
            exact ⟨rsp, rsps', rfl, ih.mp hrest, rfl⟩
          · rintro ⟨_, rsps'', rfl, hall, rfl⟩
            rw [ih.mpr hall] at hrest
            cases hrest
            exact ⟨rfl, rfl⟩

theorem spells_unique {v : Json} {a b : String} (ha : v.spells a = true) (hb : v.spells b = true) :
    a = b := by
  simp only [Json.spells, decide_eq_true_eq] at ha hb
  rw [ha] at hb
  exact Option.some.inj hb

theorem cmdIs_unique {rsp : Dict} {a b : String} (ha : cmdIs rsp a = true)
    (hb : cmdIs rsp b = true) : a = b := by
  unfold cmdIs at ha hb
  cases hcmd : rsp.lookup "cmd" with
  | none => simp [hcmd] at ha
  | some v =>
    simp only [hcmd] at ha hb
    exact spells_unique ha hb

section Sorting

variable {cmd type : String} {rsp : Dict} {split : Split}

/-- A frame that is no logs frame is collected if it is a reply. -/
theorem sortFrame_frames (cmd type : String) {l : List Dict} (saved : Saved)
    (hlogs : rsp.has "logs" = false) (hw : split.wanted = .frames l) : ∃ split' saved',
      sortFrame cmd type rsp split saved = (.ok split', saved') ∧
      split'.wanted = .frames (l ++ [rsp].filter (isReply cmd type)) ∧
      split'.errCode = split.errCode := by
  unfold sortFrame
  simp only [hlogs, Bool.false_eq_true, if_false, hw]
  by_cases hvfd : cmdIs rsp "vfdResult" = true
  · rw [if_pos hvfd]
    exact ⟨_, _, rfl, by simp [isReply, isNotification, hvfd, hw], rfl⟩
  rw [if_neg hvfd]
  by_cases hstatus : (cmdIs rsp "operation" && typeIs rsp statusType) = true
  · rw [if_pos hstatus]
    have := Bool.and_eq_true_iff.mp hstatus
    exact ⟨_, _, rfl, by simp [isReply, isNotification, this.1, this.2], rfl⟩
  rw [if_neg hstatus]
  by_cases hdoor : (cmdIs rsp "operation" && typeIs rsp doorClosingTimeType) = true
  · rw [if_pos hdoor]
    have := Bool.and_eq_true_iff.mp hdoor
    exact ⟨_, _, rfl, by simp [isReply, isNotification, this.1, this.2, hw], rfl⟩
  rw [if_neg hdoor]
  have hreply : isReply cmd type rsp = isWanted cmd type rsp := by
    simp only [Bool.not_eq_true] at hvfd hstatus hdoor
    simp [isReply, isNotification, hvfd, Bool.and_or_distrib_left, hstatus, hdoor]
  by_cases hwanted : isWanted cmd type rsp = true
  · rw [if_pos hwanted]
    exact ⟨_, _, rfl, by simp [hreply, hwanted], rfl⟩
  · rw [if_neg hwanted]
    exact ⟨_, _, rfl, by simp [hreply, hwanted], rfl⟩

/-- A logs frame stays, or is replaced by another one. -/
theorem sortFrame_logs {split' : Split} {saved saved' : Saved}
    (h : rsp.has "logs" = true ∨ ∃ logs, split.wanted = .logs logs)
    (hres : sortFrame cmd type rsp split saved = (.ok split', saved')) :
    ∃ logs, split'.wanted = .logs logs := by
  unfold sortFrame at hres
  split at hres
  · cases hres
    exact ⟨_, rfl⟩
  · rename_i hlogs
    obtain ⟨logs, hw⟩ := h.resolve_left hlogs
    rw [hw] at hres
    split at hres
    · cases hres; exact ⟨logs, hw⟩
    split at hres
    · cases hres; exact ⟨logs, rfl⟩
    split at hres
    · cases hres; exact ⟨logs, hw⟩
    split at hres
    · cases hres
    · cases hres; exact ⟨logs, rfl⟩

/-- Without a logs frame the replies are collected in their order. -/
theorem sortFrames_noLogs (cmd type : String) {rsps l : List Dict} (saved : Saved) (h : NoLogs rsps)
    (hw : split.wanted = .frames l) : ∃ split' saved',
      sortFrames cmd type rsps split saved = (.ok split', saved') ∧
      split'.wanted = .frames (l ++ rsps.filter (isReply cmd type)) ∧
      split'.errCode = split.errCode := by
  induction rsps generalizing split saved l with
  | nil => exact ⟨split, saved, rfl, by simp [hw], rfl⟩
  | cons rsp rest ih =>
    obtain ⟨hrsp, hrest⟩ := List.forall_mem_cons.mp h
    obtain ⟨split', saved', heq, hw', hcode⟩ := sortFrame_frames cmd type saved hrsp hw
    obtain ⟨split'', saved'', hres, hw'', hcode'⟩ := ih saved' hrest hw'
    refine ⟨split'', saved'', ?_, ?_, hcode'.trans hcode⟩
    · simp only [sortFrames, heq]
      exact hres
    · rw [hw'', List.append_assoc, ← List.filter_append, List.singleton_append]

/-- After a logs frame no list is ever returned. -/
theorem sortFrames_logs {rsps : List Dict} {split' : Split} {saved saved' : Saved}
    (h : ¬ NoLogs rsps ∨ ∃ logs, split.wanted = .logs logs)
    (hres : sortFrames cmd type rsps split saved = (.ok split', saved')) :
    ∃ logs, split'.wanted = .logs logs := by
  induction rsps generalizing split saved with
  | nil =>
    cases hres
    exact h.resolve_left fun hno => hno (by simp [NoLogs])
  | cons rsp rest ih =>
    simp only [sortFrames] at hres
    split at hres
    · cases hres
    · rename_i split1 saved1 hone
      refine ih ?_ hres
      by_cases hlogs : rsp.has "logs" = true
      · exact .inr (sortFrame_logs (.inl hlogs) hone)
      · rcases h with hno | hw
        · refine .inl fun hrest => hno (List.forall_mem_cons.mpr ⟨?_, hrest⟩)
          exact Bool.not_eq_true _ ▸ hlogs
        · exact .inr (sortFrame_logs (.inr hw) hone)

/-- An error code of the validation is handed on. -/
theorem sortFrame_errCode {split' : Split} {saved saved' : Saved}
    (hres : sortFrame cmd type rsp split saved = (.ok split', saved')) :
    split'.errCode = split.errCode := by
  unfold sortFrame at hres
  repeat' split at hres
  all_goals cases hres
  all_goals rfl

theorem sortFrames_errCode {rsps : List Dict} {split' : Split} {saved saved' : Saved}
    (hres : sortFrames cmd type rsps split saved = (.ok split', saved')) :
    split'.errCode = split.errCode := by
  induction rsps generalizing split saved with
  | nil => cases hres; rfl
  | cons rsp rest ih =>
    simp only [sortFrames] at hres
    split at hres
    · cases hres
    · rename_i hone
      exact (ih hres).trans (sortFrame_errCode hone)

end Sorting

section Reading

variable {cmd type : String} {split : Split} {saved saved' : Saved}

theorem splitResponse_valid {documents : List Received} {rsps : List Dict} (saved : Saved)
    (hcmd : ¬ (cmd = "operation" ∧ type = "")) (valid : List.Forall₂ Accepts documents rsps)
    (noLogs : NoLogs rsps) : ∃ split saved',
      splitResponse cmd type (some documents) saved = (.ok split, saved') ∧
      split.errCode = .NO_ERR ∧ split.wanted = .frames (rsps.filter (isReply cmd type)) := by
  obtain ⟨split, saved', hres, hw, hcode⟩ := sortFrames_noLogs cmd type saved noLogs
    (empty_wanted .NO_ERR)
  refine ⟨split, saved', ?_, hcode, hw⟩
  simp only [splitResponse, if_neg hcmd, validateAll_iff.mpr valid]
  exact hres

theorem splitResponse_frames {documents : Option (List Received)} {l : List Dict}
    (hres : splitResponse cmd type documents saved = (.ok split, saved'))
    (hcode : split.errCode = .NO_ERR) (hw : split.wanted = .frames l) : ∃ docs rsps,
      documents = some docs ∧ List.Forall₂ Accepts docs rsps ∧ NoLogs rsps ∧
      l = rsps.filter (isReply cmd type) := by
  unfold splitResponse at hres
  split at hres
  · cases hres
    cases hcode
  cases documents with
  | none =>
    cases hres
    cases hcode
  | some docs =>
    simp only at hres
    split at hres
    · cases hres
    · rename_i rsps code hvalid
      have hcode' := sortFrames_errCode hres
      rw [hcode] at hcode'
      subst hcode'
      have hno : NoLogs rsps := by
        by_contra hlogs
        obtain ⟨logs, hw'⟩ := sortFrames_logs (.inl hlogs) hres
        rw [hw] at hw'
        cases hw'
      obtain ⟨split', saved'', hres', hw', -⟩ := sortFrames_noLogs cmd type saved hno
        (empty_wanted .NO_ERR)
      rw [hres] at hres'
      cases hres'
      rw [hw] at hw'
      cases hw'
      exact ⟨docs, rsps, rfl, validateAll_iff.mp hvalid, hno, rfl⟩

theorem isPending_frames {l : List Dict} (htype : type ≠ statusType)
    (hw : split.wanted = .frames l) : split.isPending type = l.isEmpty := by
  simp [Split.isPending, if_neg htype, hw, Wanted.isEmpty]

theorem readSignal_of_answers {n : Nat} {reads : List FrameRead} {replies : List Dict}
    (saved : Saved) (hcmd : ¬ (cmd = "operation" ∧ type = "")) (htype : type ≠ statusType)
    (h : Answers cmd type n reads replies) : ∃ split saved',
      readSignal cmd type n reads saved = (.ok split, saved') ∧ split.errCode = .NO_ERR ∧
      split.wanted = .frames replies := by
  induction h generalizing saved with
  | now valid noLogs found =>
    obtain ⟨split, saved', hres, hcode, hw⟩ := splitResponse_valid saved hcmd valid noLogs
    refine ⟨split, saved', ?_, hcode, hw⟩
    have hpending : split.isPending type = false := by
      rw [isPending_frames htype hw]
      simpa using found
    simp [readSignal, hres, hpending]
  | later valid noLogs quiet rest ih =>
    obtain ⟨split, saved1, hres, hcode, hw⟩ := splitResponse_valid saved hcmd valid noLogs
    obtain ⟨split', saved', hres', hcode', hw'⟩ := ih saved1
    refine ⟨split', saved', ?_, hcode', hw'⟩
    have hpending : split.isPending type = true := by
      rw [isPending_frames htype hw, quiet]
      rfl
    simp only [readSignal, hres, hcode, hpending, and_self, if_true]
    exact hres'

theorem answers_of_readSignal {n : Nat} {reads : List FrameRead} {l : List Dict}
    (htype : type ≠ statusType) (hres : readSignal cmd type n reads saved = (.ok split, saved'))
    (hcode : split.errCode = .NO_ERR) (hw : split.wanted = .frames l) :
    Answers cmd type n reads l := by
  induction n generalizing reads saved with
  | zero =>
    simp only [readSignal] at hres
    split at hres <;> cases hres <;> cases hcode
  | succ n ih =>
    cases reads with
    | nil => cases hres; cases hcode
    | cons read reads =>
      cases read with
      | failed code isError => cases hres; exact absurd hcode isError
      | text documents =>
        simp only [readSignal] at hres
        split at hres
        · cases hres
        · rename_i split1 saved1 hsplit
          split at hres
          · rename_i hpending
            cases hw1 : split1.wanted with
            | logs logs => simp [Split.isPending, htype, hw1, Wanted.isEmpty] at hpending
            | frames l1 =>
              obtain ⟨docs, rsps, rfl, valid, noLogs, rfl⟩ :=
                splitResponse_frames hsplit hpending.1 hw1
              rw [isPending_frames htype hw1] at hpending
              exact .later valid noLogs (List.isEmpty_iff.mp hpending.2) (ih hres)
          · rename_i hpending
            cases hres
            obtain ⟨docs, rsps, rfl, valid, noLogs, rfl⟩ := splitResponse_frames hsplit hcode hw
            refine .now valid noLogs fun hempty => hpending ⟨hcode, ?_⟩
            rw [isPending_frames htype hw, hempty]
            rfl

end Reading

end NexyGateway.Rs232Handler
