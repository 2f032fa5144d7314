import Mathlib.Data.List.DropRight
import NexyGateway.DecoderLaws
import NexyGateway.FrameFaults

/-!
# Frames of a text

`__split_response` from the text on: the frames are decoded one behind the other, and each of
them has one place to land. A logs frame takes the place of the frames that were wanted, so
the routing conserves the frames only as long as it comes alone.
-/
namespace NexyGateway.Rs232Handler

open PyNumber PyJson PyDecoder

/-! ### From the text to its documents -/

/-- What the validation looks at in a decoded value. -/
def Received.ofJson : Json → Received
  | .dict members => .object members
  | .str s => .quoted (loads s).toOption
  | _ => .other

/-- Python's `str.isspace` for one character. -/
def isSpaceChar (c : Char) : Bool := isSpace c || (0x1c ≤ c.toNat && c.toNat ≤ 0x1f)

/-- The loop over the text. Every document takes up some of it. -/
def decodeFrames : Nat → List Char → Option (List Json)
  | _, [] => some []
  | 0, _ :: _ => none
  | n + 1, c :: cs =>
    match rawDecode (c :: cs) with
    | .error _ => none
    | .ok (v, rest) => (decodeFrames n (rest.dropWhile isSpaceChar)).map (fun vs => v :: vs)

def documents (rspFull : List Char) : Option (List Received) :=
  if rspFull = [] then none
  else (decodeFrames rspFull.length rspFull).map (fun vs => vs.map Received.ofJson)

/-- `__split_response` with the text of a read. -/
def splitText (cmd type : String) (rspFull : List Char) (saved : Saved) :
    Except PyError Split × Saved :=
  splitResponse cmd type (documents rspFull) saved

/-- A text whose document passes the validation, and the white space behind it. -/
structure Frame where
  text : List Char
  rsp : Dict
  gap : List Char
  accepted : ∃ v, rawDecode text = .ok (v, []) ∧ Accepts (Received.ofJson v) rsp
  blank : ∀ c ∈ gap, isBlank c = true

def stream (frames : List Frame) : List Char := frames.flatMap (fun f => f.text ++ f.gap)

theorem ends_of_accepts {v : Json} {rsp : Dict} (h : Accepts (Received.ofJson v) rsp)
    (rest : List Char) : Ends v rest := by
  left
  constructor
  · rintro n rfl
    cases h
  · rintro x rfl
    cases h

/-- The first character of a document is no white space. -/
theorem rawDecode_head {c : Char} {cs : List Char} {r : Json × List Char}
    (h : rawDecode (c :: cs) = .ok r) : isSpaceChar c = false := by
  have hstarts := rawDecode_starts h
  simp only [startsValue, Bool.or_eq_true, List.contains_eq_mem, decide_eq_true_eq] at hstarts
  rcases hstarts with hmem | hdigit
  · have hall : ['{', '[', '"', '-', 'n', 't', 'f', 'N', 'I'].all (fun c => !isSpaceChar c) =
        true := by decide
    simpa using List.all_eq_true.mp hall c hmem
  · obtain ⟨hlow, hhigh⟩ := isDigit_range hdigit
    simp only [isSpaceChar, isSpace_digit hdigit, Bool.false_or, Bool.and_eq_false_iff,
      decide_eq_false_iff_not]
    omega

theorem isSpaceChar_of_isBlank {c : Char} (h : isBlank c = true) : isSpaceChar c = true := by
  simp only [isBlank, Bool.or_eq_true, decide_eq_true_eq] at h
  rcases h with ((rfl | rfl) | rfl) | rfl
  all_goals rfl

theorem Frame.text_cons (f : Frame) : ∃ c cs, f.text = c :: cs ∧ isSpaceChar c = false := by
  obtain ⟨v, hdecode, -⟩ := f.accepted
  cases htext : f.text with
  | nil =>
    rw [htext] at hdecode
    cases hdecode
  | cons c cs =>
    rw [htext] at hdecode
    exact ⟨c, cs, rfl, rawDecode_head hdecode⟩

/-- Behind a frame the loop goes on with the next one. -/
theorem dropWhile_gap (f : Frame) (frames : List Frame) :
    (f.gap ++ stream frames).dropWhile isSpaceChar = stream frames := by
  have hgap : ∀ c ∈ f.gap, isSpaceChar c = true :=
    fun c hc => isSpaceChar_of_isBlank (f.blank c hc)
  rw [List.dropWhile_append_of_pos hgap]
  cases frames with
  | nil => rfl
  | cons g frames =>
    obtain ⟨c, cs, htext, hc⟩ := g.text_cons
    simp [stream, htext, hc]

/-- The documents of a stream are those of its frames, whatever their strings hold. -/
theorem decodeFrames_stream (frames : List Frame) {n : Nat} (h : (stream frames).length ≤ n) :
    ∃ vs, decodeFrames n (stream frames) = some vs ∧
      List.Forall₂ (fun v (f : Frame) => Accepts (Received.ofJson v) f.rsp) vs frames := by
  induction frames generalizing n with
  | nil => exact ⟨[], by cases n <;> rfl, .nil⟩
  | cons f frames ih =>
    obtain ⟨v, hdecode, haccept⟩ := f.accepted
    obtain ⟨c, cs, htext, -⟩ := f.text_cons
    have hstream : stream (f :: frames) = f.text ++ (f.gap ++ stream frames) := by
      simp [stream]
    have hread : rawDecode (stream (f :: frames)) = .ok (v, f.gap ++ stream frames) := by
      rw [hstream]
      exact rawDecode_append hdecode (ends_of_accepts haccept _)
    rw [hstream, htext, List.cons_append, List.length_cons] at h
    rw [hstream, htext, List.cons_append] at hread ⊢
    obtain ⟨m, rfl⟩ : ∃ m, n = m + 1 := ⟨n - 1, by omega⟩
    obtain ⟨vs, hvs, hall⟩ := ih (n := m) (by simp only [List.length_append] at h; omega)
    refine ⟨v :: vs, ?_, .cons haccept hall⟩
    simp only [decodeFrames, hread, dropWhile_gap, hvs, Option.map_some]

/-- The text of some frames is validated as exactly these frames. -/
theorem documents_stream {frames : List Frame} (hne : frames ≠ []) : ∃ docs,
    documents (stream frames) = some docs ∧ List.Forall₂ Accepts docs (frames.map (·.rsp)) := by
  obtain ⟨vs, hvs, hall⟩ := decodeFrames_stream frames (Nat.le_refl _)
  have htext : stream frames ≠ [] := by
    cases frames with
    | nil => exact absurd rfl hne
    | cons f frames =>
      obtain ⟨c, cs, htext, -⟩ := f.text_cons
      simp [stream, htext]
  refine ⟨vs.map Received.ofJson, by simp [documents, htext, hvs], ?_⟩
  rw [List.forall₂_map_left_iff, List.forall₂_map_right_iff]
  exact hall

/-! ### Where a frame lands -/

inductive Destination where
  | status | wanted | other | operation | vfdResult
  deriving DecidableEq

/-- Where a frame is put; a logs frame is wanted by every request. -/
def destination (cmd type : String) (rsp : Dict) : Destination :=
  if rsp.has "logs" then .wanted
  else if cmdIs rsp "vfdResult" then .vfdResult
  else if cmdIs rsp "operation" && typeIs rsp statusType then .status
  else if cmdIs rsp "operation" && typeIs rsp doorClosingTimeType then .operation
  else if isWanted cmd type rsp then .wanted
  else .other

def goesTo (cmd type : String) (d : Destination) (rsp : Dict) : Bool :=
  destination cmd type rsp = d

/-- What the queue of VFD results keeps. -/
def lastResults (rsps : List Dict) : List Dict := rsps.rtake maxSavedVfdResults

def Wanted.contents : Wanted → List Dict
  | .frames rsps => rsps
  | .logs rsp => [rsp]

/-- Everything but the wanted frames is where it belongs. -/
structure Sorted (cmd type : String) (rsps : List Dict) (split : Split) (saved : Saved)
    (split' : Split) (saved' : Saved) : Prop where
  status : split'.status = split.status ++ rsps.filter (goesTo cmd type .status)
  other : split'.other = split.other ++ rsps.filter (goesTo cmd type .other)
  operation : saved'.operation = saved.operation ++ rsps.filter (goesTo cmd type .operation)
  vfdResult : saved'.vfdResult =
    lastResults (saved.vfdResult ++ rsps.filter (goesTo cmd type .vfdResult))

theorem rtake_rtake_append {α : Type} (n : Nat) (l l' : List α) :
    (l.rtake n ++ l').rtake n = (l ++ l').rtake n := by
  simp only [List.rtake_eq_reverse_take_reverse, List.reverse_append, List.reverse_reverse,
    List.take_append, List.take_take]
  congr 2
  rw [Nat.min_eq_left (Nat.sub_le ..)]

theorem lastResults_of_le {rsps : List Dict} (h : rsps.length ≤ maxSavedVfdResults) :
    lastResults rsps = rsps := by
  unfold lastResults List.rtake
  rw [Nat.sub_eq_zero_of_le h, List.drop_zero]

section Sorting

variable {cmd type : String} {rsp : Dict} {rsps : List Dict} {split split' : Split}
  {saved saved' : Saved}

theorem pushVfdResult_eq (rsp : Dict) (saved : Saved) :
    (saved.pushVfdResult rsp).vfdResult = lastResults (saved.vfdResult ++ [rsp]) := by
  simp [Saved.pushVfdResult, lastResults, List.rtake]

/-- One frame goes to its destination. -/
theorem sortFrame_sorted (hcap : saved.vfdResult.length ≤ maxSavedVfdResults)
    (h : sortFrame cmd type rsp split saved = (.ok split', saved')) :
    Sorted cmd type [rsp] split saved split' saved' := by
  have hkept := lastResults_of_le hcap
  unfold sortFrame at h
  split at h
  · rename_i hlogs
    have hd : destination cmd type rsp = .wanted := by simp [destination, hlogs]
    cases h
    constructor <;> simp [goesTo, hd, hkept]
  rename_i hlogs
  split at h
  · rename_i hvfd
    have hd : destination cmd type rsp = .vfdResult := by simp [destination, hlogs, hvfd]
    cases h
    constructor <;> simp [goesTo, hd, pushVfdResult_eq]
    all_goals rfl
  rename_i hvfd
  split at h
  · rename_i hstatus
    have hd : destination cmd type rsp = .status := by
      simp only [destination, if_neg hlogs, if_neg hvfd, if_pos hstatus]
    cases h
    constructor <;> simp [goesTo, hd, hkept]
  rename_i hstatus
  split at h
  · rename_i hdoor
    have hd : destination cmd type rsp = .operation := by
      simp only [destination, if_neg hlogs, if_neg hvfd, if_neg hstatus, if_pos hdoor]
    cases h
    constructor <;> simp [goesTo, hd, hkept, Saved.pushOperation]
  rename_i hdoor
  split at h
  · rename_i hwanted
    have hd : destination cmd type rsp = .wanted := by
      simp only [destination, if_neg hlogs, if_neg hvfd, if_neg hstatus, if_neg hdoor,
        if_pos hwanted]
    split at h
    · cases h
      constructor <;> simp [goesTo, hd, hkept]
    · cases h
  · rename_i hwanted
    have hd : destination cmd type rsp = .other := by
      simp only [destination, if_neg hlogs, if_neg hvfd, if_neg hstatus, if_neg hdoor,
        if_neg hwanted]
    cases h
    constructor <;> simp [goesTo, hd, hkept]

theorem Sorted.append {rsps' : List Dict} {split'' : Split} {saved'' : Saved}
    (h : Sorted cmd type rsps split saved split' saved')
    (h' : Sorted cmd type rsps' split' saved' split'' saved'') :
    Sorted cmd type (rsps ++ rsps') split saved split'' saved'' where
  status := by rw [h'.status, h.status, List.filter_append, List.append_assoc]
  other := by rw [h'.other, h.other, List.filter_append, List.append_assoc]
  operation := by rw [h'.operation, h.operation, List.filter_append, List.append_assoc]
  vfdResult := by
    rw [h'.vfdResult, h.vfdResult, List.filter_append, ← List.append_assoc]
    exact rtake_rtake_append ..

theorem lastResults_length (rsps : List Dict) : (lastResults rsps).length ≤ maxSavedVfdResults := by
  unfold lastResults List.rtake
  rw [List.length_drop]
  omega

theorem sortFrames_sorted (hcap : saved.vfdResult.length ≤ maxSavedVfdResults)
    (h : sortFrames cmd type rsps split saved = (.ok split', saved')) :
    Sorted cmd type rsps split saved split' saved' := by
  induction rsps generalizing split saved with
  | nil =>
    cases h
    constructor <;> simp [lastResults_of_le hcap]
  | cons rsp rest ih =>
    simp only [sortFrames] at h
    split at h
    · cases h
    · rename_i split1 saved1 hone
      have hfirst := sortFrame_sorted hcap hone
      have hcap1 : saved1.vfdResult.length ≤ maxSavedVfdResults := by
        rw [hfirst.vfdResult]
        exact lastResults_length _
      exact hfirst.append (ih hcap1 h)

theorem goesTo_wanted (cmd type : String) (rsp : Dict) :
    goesTo cmd type .wanted rsp = (rsp.has "logs" || isReply cmd type rsp) := by
  unfold goesTo destination isReply isNotification
  rw [Bool.and_or_distrib_left]
  cases rsp.has "logs" <;> cases cmdIs rsp "vfdResult" <;>
    cases cmdIs rsp "operation" && typeIs rsp statusType <;>
    cases cmdIs rsp "operation" && typeIs rsp doorClosingTimeType <;>
    cases isWanted cmd type rsp <;> rfl

theorem sortFrame_logs_mem {logs : Dict} (hw : split'.wanted = .logs logs)
    (h : sortFrame cmd type rsp split saved = (.ok split', saved')) :
    split.wanted = .logs logs ∨ rsp = logs ∧ rsp.has "logs" = true := by
  unfold sortFrame at h
  split at h
  · rename_i hlogs
    cases h
    exact .inr ⟨Wanted.logs.inj hw, hlogs⟩
  split at h
  · cases h
    exact .inl hw
  split at h
  · cases h
    exact .inl hw
  split at h
  · cases h
    exact .inl hw
  split at h
  · split at h
    · cases h
      cases hw
    · cases h
  · cases h
    exact .inl hw

theorem sortFrames_logs_mem {logs : Dict} (hw : split'.wanted = .logs logs)
    (h : sortFrames cmd type rsps split saved = (.ok split', saved')) :
    split.wanted = .logs logs ∨ logs ∈ rsps ∧ logs.has "logs" = true := by
  induction rsps generalizing split saved with
  | nil =>
    cases h
    exact .inl hw
  | cons rsp rest ih =>
    simp only [sortFrames] at h
    split at h
    · cases h
    · rename_i split1 saved1 hone
      rcases ih h with hw1 | ⟨hmem, hlogs⟩
      · rcases sortFrame_logs_mem hw1 hone with hw0 | ⟨rfl, hlogs⟩
        · exact .inl hw0
        · exact .inr ⟨List.mem_cons_self, hlogs⟩
      · exact .inr ⟨List.mem_cons_of_mem _ hmem, hlogs⟩

end Sorting

/-! ### Conservation -/

/-- The frames that have landed in one place, in their order. -/
def landed (routed : List (Dict × Destination)) (d : Destination) : List Dict :=
  (routed.filter (fun r => r.2 = d)).map Prod.fst

/-- A frame answers the command that it carries, with the type if it has one. The logs of the
lift carry none and answer `logfile`. -/
def answers (cmd type : String) (rsp : Dict) : Bool :=
  isWanted cmd type rsp || (rsp.has "logs" && cmd = "logfile")

/-- Every frame has landed in the one place that goes with it, and none is anywhere else. -/
structure Conserves (cmd type : String) (routed : List (Dict × Destination)) (saved : Saved)
    (split : Split) (saved' : Saved) : Prop where
  noError : split.errCode = .NO_ERR
  status : split.status = landed routed .status
  wanted : split.wanted.contents = landed routed .wanted
  other : split.other = landed routed .other
  operation : saved'.operation = saved.operation ++ landed routed .operation
  vfdResult : saved'.vfdResult = lastResults (saved.vfdResult ++ landed routed .vfdResult)
  answered : ∀ rsp ∈ landed routed .wanted, answers cmd type rsp = true
  queued : ∀ rsp ∈ landed routed .vfdResult,
    rsp.has "logs" = false ∧ cmdIs rsp "vfdResult" = true

/-- The response conserves these frames. -/
def Conserved (cmd type : String) (rsps : List Dict) (saved : Saved)
    (out : Except PyError Split × Saved) : Prop :=
  ∃ split saved' routed, out = (.ok split, saved') ∧ routed.map Prod.fst = rsps ∧
    Conserves cmd type routed saved split saved'

/-- There is one logs frame, it answers, and nothing else does. -/
def LoneLogs (cmd type : String) (rsps : List Dict) : Prop :=
  ∃ logs, rsps.filter (fun rsp => rsp.has "logs") = [logs] ∧ answers cmd type logs = true ∧
    ∀ rsp ∈ rsps, ¬ Replies cmd type rsp

section Conservation

variable {cmd type : String} {rsps : List Dict} {split split' : Split} {saved saved' : Saved}

theorem landed_map (rsps : List Dict) (d : Destination) :
    landed (rsps.map (fun rsp => (rsp, destination cmd type rsp))) d =
      rsps.filter (goesTo cmd type d) := by
  induction rsps with
  | nil => rfl
  | cons rsp rest ih =>
    simp only [landed, List.map_cons, List.filter_cons, goesTo] at ih ⊢
    split <;> simp_all

theorem mem_landed {routed : List (Dict × Destination)} {rsp : Dict} {d : Destination} :
    rsp ∈ landed routed d ↔ (rsp, d) ∈ routed := by
  simp [landed]

/-- A frame that has landed elsewhere than among the wanted ones has been sent there. -/
theorem goesTo_of_conserves {routed : List (Dict × Destination)} {rsp : Dict} {d : Destination}
    (hsorted : Sorted cmd type rsps (.empty .NO_ERR) saved split saved')
    (h : Conserves cmd type routed saved split saved') (hmem : (rsp, d) ∈ routed)
    (hd : d ≠ .wanted) : goesTo cmd type d rsp = true := by
  have hlanded := mem_landed.mpr hmem
  cases d with
  | wanted => exact absurd rfl hd
  | status =>
    rw [← h.status, hsorted.status] at hlanded
    exact (List.mem_filter.mp hlanded).2
  | other =>
    rw [← h.other, hsorted.other] at hlanded
    exact (List.mem_filter.mp hlanded).2
  | operation =>
    rw [← List.append_cancel_left (hsorted.operation.symm.trans h.operation)] at hlanded
    exact (List.mem_filter.mp hlanded).2
  | vfdResult =>
    obtain ⟨hlogs, hvfd⟩ := h.queued rsp hlanded
    simp [goesTo, destination, hlogs, hvfd]

/-- Among conserved frames all that were taken for wanted ones are there. -/
theorem wanted_sublist {routed : List (Dict × Destination)}
    (hsorted : Sorted cmd type rsps (.empty .NO_ERR) saved split saved')
    (h : Conserves cmd type routed saved split saved') :
    ((routed.map Prod.fst).filter (goesTo cmd type .wanted)).Sublist (landed routed .wanted) := by
  have hall : ∀ r ∈ routed, goesTo cmd type .wanted r.1 = true → r.2 = .wanted := by
    rintro ⟨rsp, d⟩ hr hgoes
    by_contra hd
    have hsent := goesTo_of_conserves hsorted h hr hd
    simp only [goesTo, decide_eq_true_eq] at hgoes hsent
    exact hd (hsent.symm.trans hgoes)
  have hsame : routed.filter (goesTo cmd type .wanted ∘ Prod.fst) =
      routed.filter (fun r => goesTo cmd type .wanted r.1 && r.2 = .wanted) := by
    apply List.filter_congr
    intro r hr
    by_cases hgoes : goesTo cmd type .wanted r.1 = true
    · simp [hgoes, hall r hr hgoes]
    · simp [hgoes]
  rw [List.filter_map, hsame]
  apply List.Sublist.map
  apply List.monotone_filter_right
  intro r hr
  exact (Bool.and_eq_true_iff.mp hr).2

theorem loneLogs_of_conserves {routed : List (Dict × Destination)} {logs : Dict}
    (hsorted : Sorted cmd type (routed.map Prod.fst) (.empty .NO_ERR) saved split saved')
    (h : Conserves cmd type routed saved split saved') (hw : split.wanted = .logs logs)
    (hmem : logs ∈ routed.map Prod.fst) (hlogs : logs.has "logs" = true) :
    LoneLogs cmd type (routed.map Prod.fst) := by
  have hlanded : landed routed .wanted = [logs] := by
    rw [← h.wanted, hw]
    rfl
  have hsub := wanted_sublist hsorted h
  rw [hlanded] at hsub
  have honly : ∀ rsp ∈ routed.map Prod.fst, goesTo cmd type .wanted rsp = true → rsp = logs := by
    intro rsp hrsp hgoes
    exact List.mem_singleton.mp (hsub.subset (List.mem_filter.mpr ⟨hrsp, hgoes⟩))
  refine ⟨logs, ?_, h.answered logs (by simp [hlanded]), ?_⟩
  · have hlogsSub : ((routed.map Prod.fst).filter (fun rsp => rsp.has "logs")).Sublist [logs] := by
      refine List.Sublist.trans ?_ hsub
      apply List.monotone_filter_right
      intro rsp hrsp
      rw [goesTo_wanted, hrsp, Bool.true_or]
    have hne : logs ∈ (routed.map Prod.fst).filter (fun rsp => rsp.has "logs") :=
      List.mem_filter.mpr ⟨hmem, hlogs⟩
    exact hlogsSub.eq_of_length_le (List.length_pos_of_mem hne)
  · rintro rsp hrsp ⟨hno, hreply⟩
    have hgoes : goesTo cmd type .wanted rsp = true := by
      rw [goesTo_wanted, hreply, Bool.or_true]
    rw [honly rsp hrsp hgoes, hlogs] at hno
    cases hno

theorem goesTo_vfdResult {rsp : Dict} (h : goesTo cmd type .vfdResult rsp = true) :
    rsp.has "logs" = false ∧ cmdIs rsp "vfdResult" = true := by
  simp only [goesTo, destination] at h
  split at h
  · cases h
  rename_i hlogs
  split at h
  · rename_i hvfd
    exact ⟨by simpa using hlogs, hvfd⟩
  · split at h
    · cases h
    · split at h
      · cases h
      · split at h <;> cases h

theorem not_logsThenReply (h : NoLogs rsps ∨ LoneLogs cmd type rsps) :
    ¬ LogsThenReply cmd type rsps := by
  rintro ⟨logs, reply, hsub, hlogs, hreply⟩
  rcases h with hno | ⟨-, -, -, hnone⟩
  · rw [hno logs (hsub.subset (by simp))] at hlogs
    cases hlogs
  · exact hnone reply (hsub.subset (by simp)) hreply

theorem sortFrames_ok (saved : Saved) (h : ¬ LogsThenReply cmd type rsps) : ∃ split saved',
    sortFrames cmd type rsps (.empty .NO_ERR) saved = (.ok split, saved') := by
  cases hres : sortFrames cmd type rsps (.empty .NO_ERR) saved with
  | mk result saved' =>
    cases result with
    | ok split => exact ⟨split, saved', rfl⟩
    | error e =>
      rcases sortFrames_error_iff.mp ⟨e, congrArg Prod.fst hres⟩ with htrip | ⟨hclosed, -⟩
      · exact absurd htrip h
      · exact absurd hclosed (not_isClosed_empty _)

/-- The wanted frames are all that were taken for wanted ones, and they answer. -/
def WantedKept (cmd type : String) (rsps : List Dict) (split : Split) : Prop :=
  split.wanted.contents = rsps.filter (goesTo cmd type .wanted) ∧
    ∀ rsp ∈ rsps, goesTo cmd type .wanted rsp = true → answers cmd type rsp = true

theorem wantedKept_of_noLogs (h : NoLogs rsps)
    (hres : sortFrames cmd type rsps (.empty .NO_ERR) saved = (.ok split, saved')) :
    WantedKept cmd type rsps split := by
  have hreply : ∀ rsp ∈ rsps, goesTo cmd type .wanted rsp = isReply cmd type rsp := by
    intro rsp hrsp
    rw [goesTo_wanted, h rsp hrsp, Bool.false_or]
  obtain ⟨split1, saved1, hres1, hw, -⟩ :=
    sortFrames_noLogs cmd type saved h (empty_wanted .NO_ERR)
  rw [hres] at hres1
  cases hres1
  constructor
  · rw [hw, List.filter_congr hreply]
    rfl
  · intro rsp hrsp hgoes
    rw [hreply rsp hrsp, isReply, Bool.and_eq_true] at hgoes
    rw [answers, hgoes.2, Bool.true_or]

theorem wantedKept_of_loneLogs (h : LoneLogs cmd type rsps)
    (hres : sortFrames cmd type rsps (.empty .NO_ERR) saved = (.ok split, saved')) :
    WantedKept cmd type rsps split := by
  obtain ⟨logs, hfilter, hanswers, hnone⟩ := h
  have hgoes : ∀ rsp ∈ rsps, goesTo cmd type .wanted rsp = rsp.has "logs" := by
    intro rsp hrsp
    rw [goesTo_wanted]
    cases hhas : rsp.has "logs" with
    | true => rfl
    | false =>
      cases hreply : isReply cmd type rsp with
      | false => rfl
      | true => exact absurd ⟨hhas, hreply⟩ (hnone rsp hrsp)
  have honly : ∀ rsp ∈ rsps, rsp.has "logs" = true → rsp = logs := by
    intro rsp hrsp hhas
    have hmem : rsp ∈ rsps.filter (fun rsp => rsp.has "logs") := List.mem_filter.mpr ⟨hrsp, hhas⟩
    rw [hfilter] at hmem
    exact List.mem_singleton.mp hmem
  have hlogs : ¬ NoLogs rsps := by
    intro hno
    have hmem : logs ∈ rsps.filter (fun rsp => rsp.has "logs") := by simp [hfilter]
    obtain ⟨hin, hhas⟩ := List.mem_filter.mp hmem
    rw [hno logs hin] at hhas
    cases hhas
  obtain ⟨last, hw⟩ := sortFrames_logs (.inl hlogs) hres
  have hlast : last = logs := by
    rcases sortFrames_logs_mem hw hres with hw0 | ⟨hin, hhas⟩
    · cases hw0
    · exact honly last hin hhas
  constructor
  · rw [hw, List.filter_congr hgoes, hfilter, hlast]
    rfl
  · intro rsp hrsp hwanted
    rw [hgoes rsp hrsp] at hwanted
    rw [honly rsp hrsp hwanted]
    exact hanswers

theorem conserves_of_sorted
    (hsorted : Sorted cmd type rsps (.empty .NO_ERR) saved split saved')
    (hcode : split.errCode = .NO_ERR) (hkept : WantedKept cmd type rsps split) :
    Conserves cmd type (rsps.map (fun rsp => (rsp, destination cmd type rsp))) saved split
      saved' where
  noError := hcode
  status := by
    rw [landed_map, hsorted.status]
    rfl
  wanted := by rw [landed_map, hkept.1]
  other := by
    rw [landed_map, hsorted.other]
    rfl
  operation := by rw [landed_map, hsorted.operation]
  vfdResult := by rw [landed_map, hsorted.vfdResult]
  answered := by
    intro rsp hrsp
    rw [landed_map] at hrsp
    obtain ⟨hin, hgoes⟩ := List.mem_filter.mp hrsp
    exact hkept.2 rsp hin hgoes
  queued := by
    intro rsp hrsp
    rw [landed_map] at hrsp
    exact goesTo_vfdResult (List.mem_filter.mp hrsp).2

/-- Sorting conserves the frames exactly if there are no logs frames, or a lone one. -/
theorem sortFrames_conserved_iff (hcap : saved.vfdResult.length ≤ maxSavedVfdResults) :
    Conserved cmd type rsps saved (sortFrames cmd type rsps (.empty .NO_ERR) saved) ↔
      NoLogs rsps ∨ LoneLogs cmd type rsps := by
  constructor
  · rintro ⟨split, saved', routed, hres, rfl, h⟩
    by_cases hno : NoLogs (routed.map Prod.fst)
    · exact .inl hno
    · obtain ⟨logs, hw⟩ := sortFrames_logs (.inl hno) hres
      rcases sortFrames_logs_mem hw hres with hw0 | ⟨hmem, hlogs⟩
      · cases hw0
      · exact .inr (loneLogs_of_conserves (sortFrames_sorted hcap hres) h hw hmem hlogs)
  · intro h
    obtain ⟨split, saved', hres⟩ := sortFrames_ok saved (not_logsThenReply h)
    have hkept : WantedKept cmd type rsps split := by
      rcases h with hno | hlone
      · exact wantedKept_of_noLogs hno hres
      · exact wantedKept_of_loneLogs hlone hres
    have hroutes : (rsps.map (fun rsp => (rsp, destination cmd type rsp))).map Prod.fst = rsps := by
      rw [List.map_map]
      exact List.map_id _
    exact ⟨split, saved', _, hres, hroutes,
      conserves_of_sorted (sortFrames_sorted hcap hres) (sortFrames_errCode hres) hkept⟩

theorem splitText_stream {frames : List Frame} (hne : frames ≠ [])
    (hcmd : ¬ (cmd = "operation" ∧ type = "")) (saved : Saved) :
    splitText cmd type (stream frames) saved =
      sortFrames cmd type (frames.map (·.rsp)) (.empty .NO_ERR) saved := by
  obtain ⟨docs, hdocs, hvalid⟩ := documents_stream hne
  simp only [splitText, splitResponse, if_neg hcmd, hdocs, validateAll_iff.mpr hvalid]

/-- The frames of a text are conserved exactly if none of them is a logs frame, or a single
one that answers and has no other answer beside it. -/
theorem splitText_conserved_iff {frames : List Frame} (hne : frames ≠ [])
    (hcmd : ¬ (cmd = "operation" ∧ type = ""))
    (hcap : saved.vfdResult.length ≤ maxSavedVfdResults) :
    Conserved cmd type (frames.map (·.rsp)) saved (splitText cmd type (stream frames) saved) ↔
      NoLogs (frames.map (·.rsp)) ∨ LoneLogs cmd type (frames.map (·.rsp)) := by
  rw [splitText_stream hne hcmd]
  exact sortFrames_conserved_iff hcap

end Conservation

def nothingSaved : Saved := ⟨[], []⟩

def replyFrame : Frame where
  text := ['{', '"', 'c', 'm', 'd', '"', ':', '"', 'l', 'i', 'f', 't', 'R', 'e', 'f', '1', '"', ',',
    '"', 'd', 'a', 't', 'a', '"', ':', '"', 'A', '}', '{', 'B', '"', '}']
  rsp := [("cmd", .str "liftRef1"), ("data", .str "A\x7d\x7bB")]
  gap := ['\n']
  accepted := ⟨.dict _, rfl, rfl⟩
  blank := List.all_eq_true.mp rfl

def logsFrame : Frame where
  text := ['{', '"', 'l', 'o', 'g', 's', '"', ':', '[', ']', '}']
  rsp := [("logs", .list [])]
  gap := []
  accepted := ⟨.dict _, rfl, rfl⟩
  blank := List.forall_mem_nil _

def statusFrame : Frame where
  text := ['{', '"', 'c', 'm', 'd', '"', ':', '"', 'o', 'p', 'e', 'r', 'a', 't', 'i', 'o', 'n',
    '"', ',', '"', 't', 'y', 'p', 'e', '"', ':', '"', '1', '3', '0', '"', ',', '"', 'd', 'a', 't',
    'a', '"', ':', '[', '1', ']', '}']
  rsp := [("cmd", .str "operation"), ("type", .str "130"), ("data", .list [.int 1])]
  gap := ['\n']
  accepted := ⟨.dict _, rfl, rfl⟩
  blank := List.all_eq_true.mp rfl

def doorFrame : Frame where
  text := ['{', '"', 'c', 'm', 'd', '"', ':', '"', 'o', 'p', 'e', 'r', 'a', 't', 'i', 'o', 'n',
    '"', ',', '"', 't', 'y', 'p', 'e', '"', ':', '"', '1', '3', '5', '"', ',', '"', 'd', 'a', 't',
    'a', '"', ':', '[', '3', ',', '0', ',', '4', '2', ',', '0', ']', '}']
  rsp := [("cmd", .str "operation"), ("type", .str "135"),
    ("data", .list [.int 3, .int 0, .int 42, .int 0])]
  gap := ['\n']
  accepted := ⟨.dict _, rfl, rfl⟩
  blank := List.all_eq_true.mp rfl

def resultFrame : Frame where
  text := ['{', '"', 'c', 'm', 'd', '"', ':', '"', 'v', 'f', 'd', 'R', 'e', 's', 'u', 'l', 't',
    '"', ',', '"', 'i', 'd', '"', ':', '3', ',', '"', 'd', 'a', 't', 'a', '"', ':', '"', '1', ',',
    '2', '"', ',', '"', 't', 'i', 'm', 'e', 's', 't', 'a', 'm', 'p', '"', ':', '7', '}']
  rsp := [("cmd", .str "vfdResult"), ("id", .int 3), ("data", .str "1,2"), ("timestamp", .int 7)]
  gap := []
  accepted := ⟨.dict _, rfl, rfl⟩
  blank := List.forall_mem_nil _

/-- Every kind of frame that is not a logs frame, and a reply with braces inside. -/
def mixedFrames : List Frame := [statusFrame, replyFrame, doorFrame, resultFrame]

/-- The queue of VFD results has no room left. -/
def filledQueue : Saved where
  operation := [doorFrame.rsp]
  vfdResult := (List.range maxSavedVfdResults).map fun n =>
    [("cmd", .str "vfdResult"), ("id", .int 0), ("data", .str "0,0"), ("timestamp", .int n)]

/-- A brace inside the reply is no boundary, and each frame lands where it belongs. -/
theorem splitText_conserved_mixedFrames :
    filledQueue.vfdResult.length = maxSavedVfdResults ∧
      Conserved "liftRef1" "" (mixedFrames.map (·.rsp)) filledQueue
        (splitText "liftRef1" "" (stream mixedFrames) filledQueue) := by
  have hfull : filledQueue.vfdResult.length = maxSavedVfdResults := by simp [filledQueue]
  have hcmd : ¬ ("liftRef1" = "operation" ∧ "" = "") := by decide
  have hlogs : (mixedFrames.map (·.rsp)).all (fun rsp => !rsp.has "logs") = true := by decide
  refine ⟨hfull, (splitText_conserved_iff (List.cons_ne_nil _ _) hcmd hfull.le).mpr (.inl ?_)⟩
  intro rsp hrsp
  simpa using List.all_eq_true.mp hlogs rsp hrsp

/-- A logs frame behind the reply takes its place, and in front of it makes the request raise. -/
theorem splitText_not_conserved :
    ¬ Conserved "liftRef1" "" [replyFrame.rsp, logsFrame.rsp] nothingSaved
      (splitText "liftRef1" "" (stream [replyFrame, logsFrame]) nothingSaved) ∧
    (splitText "liftRef1" "" (stream [logsFrame, replyFrame]) nothingSaved).1 =
      .error .attributeError := by
  have hcmd : ¬ ("liftRef1" = "operation" ∧ "" = "") := by decide
  rw [splitText_stream (List.cons_ne_nil _ _) hcmd, splitText_stream (List.cons_ne_nil _ _) hcmd]
  refine ⟨fun h => ?_, rfl⟩
  rcases (sortFrames_conserved_iff (Nat.zero_le _)).mp h with hno | ⟨logs, -, -, hnone⟩
  · cases hno logsFrame.rsp (List.mem_cons_of_mem _ List.mem_cons_self)
  · exact hnone replyFrame.rsp List.mem_cons_self ⟨rfl, rfl⟩

end NexyGateway.Rs232Handler
