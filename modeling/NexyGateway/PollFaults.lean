import NexyGateway.DatabaseUpdates
import NexyGateway.FrameFaults
import NexyGateway.PollLift

/-!
# What a poll does not survive

A poll raises on frames that the request for a package does not survive, on values that
the unpackers cannot use, and on saved notifications that nothing has looked into. The
steps that do are named by what comes in and by what is in the database and the queues.
-/
namespace NexyGateway.Rs232Handler

open PyNumber PyJson ThousandLib Runs

section Exchange

variable {package : Package} {cmd type : String} {n : Nat} {reads : List FrameRead}
  {rsps : List Dict} {rsp : Dict} {split : Split} {saved : Saved} {available : Bool}
  {response : Json}

theorem Heard.passed (h : Heard cmd type n reads rsps) :
    awaited cmd type rsps = true ∧ ∀ rsp ∈ rsps, validateObject rsp = .ok .NO_ERR := by
  induction h with
  | now passed found => exact ⟨found, fun rsp hmem => (mem_rsps passed.valid hmem).2⟩
  | later _ _ _ ih => exact ih

/-- The first reply, with no logs frame in its place. -/
def FirstReply (cmd type : String) (rsps : List Dict) (rsp : Dict) : Prop :=
  NoLogs rsps ∧ ∃ rest, rsps.filter (isReply cmd type) = rsp :: rest

/-- What is made of the frames for a package. -/
def Carries (package : Package) (rsps : List Dict) (response : Json) : Prop :=
  let first := FirstReply (query package).cmd (query package).type rsps
  match package with
  | .liftRef1 | .liftRef2 | .liftName =>
    ∃ rsp data, first rsp ∧ rsp.lookup "data" = some data ∧ response = .list [data]
  | .version | .doorOpenCount => ∃ rsp, first rsp ∧ rsp.lookup "data" = some response
  | .package130 => ∃ items, repackageStatus (statuses rsps) = .ok items ∧
      response = if items.isEmpty then minusOne else .list items
  | .package2 | .package131 | .package134 | .package133 => ∃ rsp, first rsp ∧
      rsp.lookup "data" = some response ∧ response.truthy = true ∧ response.isList = true
  | .readFileParam | .readFileIntern | .readFileNode | .readFileLock | .readFileDoor =>
    ∃ rsp err, first rsp ∧ rsp.lookup "err" = some err ∧ err.eq (.int 0) = true ∧
      rsp.lookup "data" = some response

/-- Requests that take the first element of the reply and do not catch what that raises. -/
def indexesReply : Package → Bool
  | .version | .doorOpenCount | .package130 => false
  | _ => true

/-- A reply to a request without a file or a VFD has data. -/
theorem validateObject_data (hvalid : validateObject rsp = .ok .NO_ERR)
    (hlogs : rsp.has "logs" = false) (hcmd : rsp.lookup "cmd" = some (.str cmd))
    (hother : cmd ∉ ["time", "readFile", "writeFile", "vfdClearTable", "vfdId", "vfdRead",
      "vfdResult"]) : ∃ data, rsp.lookup "data" = some data := by
  have hnone : rsp.lookup "logs" = none := by simpa [Dict.has] using hlogs
  simp only [List.mem_cons, List.not_mem_nil, or_false, not_or] at hother
  simp only [validateObject, hnone, keyOr, hcmd, eq_str, Json.str.injEq, hother, if_false,
    validateData] at hvalid
  by_cases hdata : rsp.has "data" = true
  · exact lookup_of_has hdata
  · simp [hdata] at hvalid

/-- Without a logs frame there is a first reply. -/
theorem firstReply_of_awaited (htype : type ≠ statusType) (hawaited : awaited cmd type rsps = true)
    (hlogs : NoLogs rsps) : ∃ rsp, FirstReply cmd type rsps rsp := by
  rw [awaited, if_neg htype, List.any_eq_true] at hawaited
  obtain ⟨reply, hmem, hreply⟩ := hawaited
  rw [hlogs reply hmem, Bool.false_or] at hreply
  cases hfilter : rsps.filter (isReply cmd type) with
  | nil => exact absurd hreply (List.filter_eq_nil_iff.mp hfilter reply hmem)
  | cons rsp rest => exact ⟨rsp, hlogs, rest, hfilter⟩

theorem FirstReply.unique {rsp' : Dict} (h : FirstReply cmd type rsps rsp)
    (h' : FirstReply cmd type rsps rsp') : rsp' = rsp := by
  obtain ⟨-, rest, hfilter⟩ := h
  obtain ⟨-, rest', hfilter'⟩ := h'
  rw [hfilter] at hfilter'
  exact (List.cons.inj hfilter').1.symm

theorem FirstReply.reply (h : FirstReply cmd type rsps rsp)
    (hvalid : ∀ rsp ∈ rsps, validateObject rsp = .ok .NO_ERR) :
    validateObject rsp = .ok .NO_ERR ∧ rsp.has "logs" = false ∧
      rsp.lookup "cmd" = some (.str cmd) := by
  obtain ⟨hlogs, rest, hfilter⟩ := h
  have hmem : rsp ∈ rsps.filter (isReply cmd type) := by simp [hfilter]
  obtain ⟨hmem, hreply⟩ := List.mem_filter.mp hmem
  have hcmd : cmdIs rsp cmd = true := by
    simp only [isReply, isWanted, Bool.and_eq_true] at hreply
    exact hreply.2.1
  obtain ⟨cmd', hlookup⟩ := validateObject_cmd (hvalid rsp hmem) (hlogs rsp hmem)
  rw [(cmdIs_str hlookup).mp hcmd] at hlookup
  exact ⟨hvalid rsp hmem, hlogs rsp hmem, hlookup⟩

theorem SplitInto.wantedData (h : SplitInto cmd type rsps split)
    (hfirst : FirstReply cmd type rsps rsp) {data : Json} (hdata : rsp.lookup "data" = some data) :
    wantedData split = .ok data := by
  obtain ⟨hlogs, rest, hfilter⟩ := hfirst
  simp [Rs232Handler.wantedData, h.frames hlogs, hfilter, hdata]

theorem SplitInto.wantedData_logs (h : SplitInto cmd type rsps split) (hlogs : ¬ NoLogs rsps) :
    Rs232Handler.wantedData split = .error .keyError := by
  obtain ⟨logs, hw⟩ := h.logs hlogs
  simp [Rs232Handler.wantedData, hw]

/-- What a request comes to, once it has heard its frames. -/
structure Makes (indexes : Bool) (rsps : List Dict) (carries : Json → Prop)
    (result : Except PyError (Json × Rs232Code)) : Prop where
  raises : (∃ e, result = .error e) ↔ indexes = true ∧ ¬ NoLogs rsps
  gives : ∀ response, result = .ok (response, .NO_ERR) ↔ carries response

/-- Frames that a request for data of a package has heard. -/
structure Answered (cmd type : String) (rsps : List Dict) (split : Split) : Prop where
  into : SplitInto cmd type rsps split
  awaited : awaited cmd type rsps = true
  valid : ∀ rsp ∈ rsps, validateObject rsp = .ok .NO_ERR

/-- The commands whose replies have data of any form. -/
def dataCmds : List String := ["liftRef1", "liftRef2", "liftName", "version", "operation", "getOpenCount"]

/-- There is a logs frame, or a first reply with data. -/
theorem Answered.cases (h : Answered cmd type rsps split) (htype : type ≠ statusType)
    (hcmd : cmd ∈ dataCmds) : ¬ NoLogs rsps ∨ ∃ rsp data, FirstReply cmd type rsps rsp ∧
      rsp.lookup "data" = some data ∧ wantedData split = .ok data := by
  by_cases hlogs : NoLogs rsps
  · obtain ⟨rsp, hfirst⟩ := firstReply_of_awaited htype h.awaited hlogs
    obtain ⟨hvalid, hrsp, hlookup⟩ := hfirst.reply h.valid
    have hother : cmd ∉ ["time", "readFile", "writeFile", "vfdClearTable", "vfdId", "vfdRead",
        "vfdResult"] := by
      simp only [dataCmds, List.mem_cons, List.not_mem_nil, or_false] at hcmd
      rcases hcmd with rfl | rfl | rfl | rfl | rfl | rfl <;> decide
    obtain ⟨data, hdata⟩ := validateObject_data hvalid hrsp hlookup hother
    exact .inr ⟨rsp, data, hfirst, hdata, h.into.wantedData hfirst hdata⟩
  · exact .inl hlogs

theorem FirstReply.noLogs (h : FirstReply cmd type rsps rsp) : NoLogs rsps := h.1

theorem textResponse_makes (h : Answered cmd type rsps split) (htype : type ≠ statusType)
    (hcmd : cmd ∈ dataCmds) :
    Makes true rsps (fun response => ∃ rsp data, FirstReply cmd type rsps rsp ∧
      rsp.lookup "data" = some data ∧ response = .list [data]) (textResponse split) := by
  rcases h.cases htype hcmd with hlogs | ⟨rsp, data, hfirst, hdata, hwanted⟩
  · have hresult : textResponse split = .error .keyError := by
      simp [textResponse, h.into.wantedData_logs hlogs, Except.map]
    rw [hresult]
    refine ⟨by simp [hlogs], fun response => iff_of_false (by simp) ?_⟩
    rintro ⟨rsp, data, hfirst, -⟩
    exact hlogs hfirst.noLogs
  · have hresult : textResponse split = .ok (.list [data], .NO_ERR) := by
      simp [textResponse, hwanted, Except.map]
    rw [hresult]
    refine ⟨by simp [hfirst.noLogs], fun response => ?_⟩
    constructor
    · intro heq
      cases heq
      exact ⟨rsp, data, hfirst, hdata, rfl⟩
    · rintro ⟨rsp', data', hfirst', hdata', rfl⟩
      rw [hfirst.unique hfirst', hdata] at hdata'
      cases hdata'
      rfl

theorem caughtResponse_makes (h : Answered cmd type rsps split) (htype : type ≠ statusType)
    (hcmd : cmd ∈ dataCmds) :
    Makes false rsps (fun response => ∃ rsp, FirstReply cmd type rsps rsp ∧
      rsp.lookup "data" = some response) (caughtResponse split) := by
  rcases h.cases htype hcmd with hlogs | ⟨rsp, data, hfirst, hdata, hwanted⟩
  · have hresult : caughtResponse split = .ok (minusOne, .DATA_LEN_ERR) := by
      simp [caughtResponse, h.into.wantedData_logs hlogs]
    rw [hresult]
    refine ⟨by simp, fun response => iff_of_false (by simp) ?_⟩
    rintro ⟨rsp, hfirst, -⟩
    exact hlogs hfirst.noLogs
  · have hresult : caughtResponse split = .ok (data, .NO_ERR) := by
      simp [caughtResponse, hwanted]
    rw [hresult]
    refine ⟨by simp, fun response => ?_⟩
    constructor
    · intro heq
      cases heq
      exact ⟨rsp, hfirst, hdata⟩
    · rintro ⟨rsp', hfirst', hdata'⟩
      rw [hfirst.unique hfirst', hdata] at hdata'
      cases hdata'
      rfl

theorem operationResponse_makes (h : Answered cmd type rsps split) (htype : type ≠ statusType)
    (hcmd : cmd ∈ dataCmds) :
    Makes true rsps (fun response => ∃ rsp, FirstReply cmd type rsps rsp ∧
      rsp.lookup "data" = some response ∧ response.truthy = true ∧ response.isList = true)
      (operationResponse split) := by
  rcases h.cases htype hcmd with hlogs | ⟨rsp, data, hfirst, hdata, hwanted⟩
  · have hresult : operationResponse split = .error .keyError := by
      simp [operationResponse, h.into.wantedData_logs hlogs, Except.map]
    rw [hresult]
    refine ⟨by simp [hlogs], fun response => iff_of_false (by simp) ?_⟩
    rintro ⟨rsp, hfirst, -⟩
    exact hlogs hfirst.noLogs
  · have hresult : operationResponse split =
        .ok (if data.truthy && data.isList then (data, .NO_ERR) else (minusOne, .DATA_TYPE_ERR)) := by
      simp [operationResponse, hwanted, Except.map]
    rw [hresult]
    refine ⟨by simp [hfirst.noLogs], fun response => ?_⟩
    constructor
    · intro heq
      by_cases hlist : (data.truthy && data.isList) = true
      · rw [if_pos hlist] at heq
        cases heq
        exact ⟨rsp, hfirst, hdata, Bool.and_eq_true_iff.mp hlist⟩
      · rw [if_neg hlist] at heq
        cases heq
    · rintro ⟨rsp', hfirst', hdata', hlist⟩
      rw [hfirst.unique hfirst', hdata] at hdata'
      cases hdata'
      rw [if_pos (Bool.and_eq_true_iff.mpr hlist)]

theorem repackageStatus_ne {status : List Dict} {code : Rs232Code}
    (h : repackageStatus status = .error code) : code ≠ .NO_ERR := by
  simp only [repackageStatus] at h
  split at h
  · cases h
    decide
  · split at h <;> cases h
    decide

theorem statusResponse_ok {items : List Json} (h : repackageStatus split.status = .ok items) :
    statusResponse split = .ok (if items.isEmpty then minusOne else .list items, .NO_ERR) := by
  unfold statusResponse
  rw [h]
  cases items <;> rfl

theorem statusResponse_makes (h : SplitInto cmd type rsps split) :
    Makes false rsps (fun response => ∃ items, repackageStatus (statuses rsps) = .ok items ∧
      response = if items.isEmpty then minusOne else .list items) (statusResponse split) := by
  rw [← h.status]
  cases hstatus : repackageStatus split.status with
  | error code =>
    have hne := repackageStatus_ne hstatus
    rw [statusResponse, hstatus]
    refine ⟨by simp, fun response => iff_of_false ?_ (by simp)⟩
    intro heq
    cases heq
    exact hne rfl
  | ok items =>
    rw [statusResponse_ok hstatus]
    refine ⟨by simp, fun response => ?_⟩
    constructor
    · intro heq
      cases heq
      exact ⟨items, rfl, rfl⟩
    · rintro ⟨_, ⟨⟩, rfl⟩
      rfl

theorem fileResponse_makes (h : Answered "readFile" "" rsps split) :
    Makes true rsps (fun response => ∃ rsp err, FirstReply "readFile" "" rsps rsp ∧
      rsp.lookup "err" = some err ∧ err.eq (.int 0) = true ∧ rsp.lookup "data" = some response)
      (fileResponse split) := by
  by_cases hlogs : NoLogs rsps
  · obtain ⟨rsp, hfirst⟩ := firstReply_of_awaited (by decide) h.awaited hlogs
    obtain ⟨-, rest, hfilter⟩ := hfirst
    have hw := h.into.frames hlogs
    rw [hfilter] at hw
    have hfirst : FirstReply "readFile" "" rsps rsp := ⟨hlogs, rest, hfilter⟩
    unfold fileResponse fileReply
    simp only [hw]
    constructor
    · refine iff_of_false ?_ (by simp [hlogs])
      repeat' split
      all_goals simp [Except.map]
    · intro response
      constructor
      · intro heq
        repeat' split at heq
        all_goals cases heq
        rename_i err herr hzero _ _ hdata
        exact ⟨rsp, err, hfirst, herr, by simpa using hzero, hdata⟩
      · rintro ⟨rsp', err, hfirst', herr, hzero, hdata⟩
        cases hfirst.unique hfirst'
        simp [herr, hzero, hdata, Except.map]
  · obtain ⟨logs, hw⟩ := h.into.logs hlogs
    have hresult : fileResponse split = .error .keyError := by
      simp [fileResponse, fileReply, hw, Except.map]
    rw [hresult]
    refine ⟨by simp [hlogs], fun response => iff_of_false (by simp) ?_⟩
    rintro ⟨rsp, err, hfirst, -⟩
    exact hlogs hfirst.noLogs

theorem query_makes (h : Answered (query package).cmd (query package).type rsps split) :
    Makes (indexesReply package) rsps (Carries package rsps) ((query package).response split) := by
  cases package
  case liftRef1 | liftRef2 | liftName => exact textResponse_makes h (by decide) (by decide)
  case version | doorOpenCount => exact caughtResponse_makes h (by decide) (by decide)
  case package130 => exact statusResponse_makes h.into
  case package2 | package131 | package134 | package133 =>
    exact operationResponse_makes h (by decide) (by decide)
  all_goals exact fileResponse_makes h

theorem query_typed (package : Package) :
    ¬ ((query package).cmd = "operation" ∧ (query package).type = "") := by
  cases package <;> decide

/-- The request for the package raises while it reads. -/
def RequestTrips (package : Package) (reads : List FrameRead) : Prop :=
  ReadsTrip (query package).cmd (query package).type readRetries reads

def RequestHears (package : Package) (reads : List FrameRead) (rsps : List Dict) : Prop :=
  Heard (query package).cmd (query package).type readRetries reads rsps

theorem exchange_hears (saved : Saved) (h : RequestHears package reads rsps) :
    ¬ RequestTrips package reads ∧ Makes (indexesReply package) rsps (Carries package rsps)
      (exchange true package reads saved).1 := by
  obtain ⟨split, saved', hres, hinto⟩ := readSignal_of_heard saved (query_typed package) h
  constructor
  · rw [RequestTrips, ← readSignal_error_iff (query_typed package), hres]
    simp
  · have hresult : (exchange true package reads saved).1 = (query package).response split := by
      simp [exchange, ask, getSignalFromSerialBuffer, hres, hinto.noError]
    rw [hresult]
    exact query_makes ⟨hinto, h.passed.1, h.passed.2⟩

theorem exchange_unheard (saved : Saved) (h : ∀ rsps, ¬ RequestHears package reads rsps) :
    RequestTrips package reads ∧ (∃ e, (exchange true package reads saved).1 = .error e) ∨
      ¬ RequestTrips package reads ∧ ∃ response code,
        (exchange true package reads saved).1 = .ok (response, code) ∧ code ≠ .NO_ERR := by
  have htrips : (∃ e, (readSignal (query package).cmd (query package).type readRetries reads
      saved).1 = .error e) ↔ RequestTrips package reads :=
    readSignal_error_iff (query_typed package)
  cases hres : readSignal (query package).cmd (query package).type readRetries reads saved with
  | mk result saved' =>
    rw [hres] at htrips
    simp only [exchange, ask, getSignalFromSerialBuffer, if_true, hres]
    cases result with
    | error e => exact .inl ⟨htrips.mp ⟨e, rfl⟩, e, rfl⟩
    | ok split =>
      have hcode : split.errCode ≠ .NO_ERR := by
        intro hcode
        obtain ⟨rsps, hheard, -⟩ := heard_of_readSignal hres hcode
        exact h rsps hheard
      refine .inr ⟨?_, minusOne, split.errCode, ?_, hcode⟩
      · rw [← htrips]
        simp
      · simp [hcode]

/-- A request raises on its frames, or on a logs frame in the place of the replies. -/
theorem exchange_error_iff :
    (∃ e, (exchange available package reads saved).1 = .error e) ↔ available = true ∧
      (RequestTrips package reads ∨ indexesReply package = true ∧
        ∃ rsps, RequestHears package reads rsps ∧ ¬ NoLogs rsps) := by
  cases available with
  | false => simp [exchange, ask, Split.empty]
  | true =>
    rw [eq_self, true_and]
    by_cases hheard : ∃ rsps, RequestHears package reads rsps
    · obtain ⟨rsps, hheard⟩ := hheard
      obtain ⟨htrips, hmakes⟩ := exchange_hears saved hheard
      constructor
      · intro hraises
        obtain ⟨hindexes, hlogs⟩ := hmakes.raises.mp hraises
        exact .inr ⟨hindexes, rsps, hheard, hlogs⟩
      · rintro (htrips' | ⟨hindexes, rsps', hheard', hlogs⟩)
        · exact absurd htrips' htrips
        · exact (exchange_hears saved hheard').2.raises.mpr ⟨hindexes, hlogs⟩
    · rw [not_exists] at hheard
      rcases exchange_unheard saved hheard with ⟨htrips, hraises⟩ | ⟨htrips, r, code, hres, -⟩
      · exact iff_of_true hraises (.inl htrips)
      · rw [hres]
        refine iff_of_false (by simp) ?_
        rintro (htrips' | ⟨-, rsps, hheard', -⟩)
        · exact htrips htrips'
        · exact hheard rsps hheard'

theorem exchange_ok_iff :
    (exchange available package reads saved).1 = .ok (response, .NO_ERR) ↔ available = true ∧
      ∃ rsps, RequestHears package reads rsps ∧ Carries package rsps response := by
  cases available with
  | false => simp [exchange, ask, Split.empty]
  | true =>
    rw [eq_self, true_and]
    constructor
    · intro hres
      by_cases hheard : ∃ rsps, RequestHears package reads rsps
      · obtain ⟨rsps, hheard⟩ := hheard
        exact ⟨rsps, hheard, ((exchange_hears saved hheard).2.gives response).mp hres⟩
      · rw [not_exists] at hheard
        rcases exchange_unheard saved hheard with ⟨-, e, he⟩ | ⟨-, r, code, hres', hcode⟩
        · rw [he] at hres
          cases hres
        · rw [hres'] at hres
          cases hres
          exact absurd rfl hcode
    · rintro ⟨rsps, hheard, hcarries⟩
      exact ((exchange_hears saved hheard).2.gives response).mpr hcarries

end Exchange

section Updates

variable {clock : Int → Int} {package : Package} {rest : List Package} {response : Json} {lib : Lib}
  {s : Poll}

/-- A response that the unpackers of the package raise on. -/
def Unusable (clock : Int → Int) (package : Package) (response : Json) : Prop :=
  if package = .doorOpenCount then GarbledCounter clock response paramsDoorOpenCount
  else ∃ sig ∈ package.signals, Garbled sig response

theorem updateFor_error_iff :
    (updateFor clock package response lib).error ≠ none ↔ Unusable clock package response := by
  unfold updateFor Unusable
  by_cases hdoor : package = .doorOpenCount
  · have hstart : (Update.start lib).error = none := rfl
    rw [if_pos hdoor, if_pos hdoor, ← recalculate_error_iff isCounter_doorOpenCount hstart,
      (doorOpenCountRecalculate_fields clock response lib).2]
  · rw [if_neg hdoor, if_neg hdoor]
    exact updateSignals_error_iff rfl

theorem texts_updateFor (h : Texts lib) : Texts (updateFor clock package response lib).lib := by
  unfold updateFor
  have hstart : Texts (Update.start (lib.remember package response)).lib := h
  by_cases hdoor : package = .doorOpenCount
  · rw [if_pos hdoor]
    rw [(doorOpenCountRecalculate_fields clock response lib).1]
    have hstart : Texts (Update.start lib).lib := h
    exact hstart.of_within (within_recalculate isCounter_doorOpenCount 0 _) (by decide)
  · rw [if_neg hdoor]
    cases package
    case liftRef1 | liftRef2 | liftName =>
      exact hstart.of_within (within_updateSignals _ _) (by decide)
    case doorOpenCount => exact absurd rfl hdoor
    all_goals exact texts_updateSignals (by decide) hstart

/-- A text is a number, or it raises a `ValueError`. -/
theorem toInt_texts {vs : List Json} (h : ∀ v ∈ vs, ∃ s, v = .str s) :
    (∃ l, vs.mapM Json.toInt = .ok l) ∨ vs.mapM Json.toInt = .error .valueError := by
  induction vs with
  | nil => exact .inl ⟨[], rfl⟩
  | cons v vs ih =>
    obtain ⟨⟨s, rfl⟩, hrest⟩ := List.forall_mem_cons.mp h
    rw [List.mapM_cons]
    cases hs : PyNumber.int s with
    | none => exact .inr (by simp [Json.toInt, hs, bind, Except.bind])
    | some n =>
      rcases ih hrest with ⟨l, hl⟩ | hl
      · exact .inl ⟨n :: l, by simp [Json.toInt, hs, hl, bind, Except.bind, pure, Except.pure]⟩
      · exact .inr (by simp [Json.toInt, hs, hl, bind, Except.bind])

/-- Versions that are texts compare, if only as not high enough. -/
theorem isPolled_ok (h : Texts lib) (package : Package) : ∃ b, isPolled package lib = .ok b := by
  unfold isPolled
  split
  · have hversions : ∀ v ∈ ([5, 6, 93, 94] : List Int).map lib.value, ∃ s, v = .str s := by
      intro v hv
      obtain ⟨p, hp, rfl⟩ := List.mem_map.mp hv
      exact h p (List.mem_cons_of_mem 4 hp)
    simp only [checkIfAboveOrEqualToVersions]
    split
    · exact ⟨_, rfl⟩
    rcases toInt_texts hversions with ⟨l, hl⟩ | hl
    · rw [hl]
      rcases l with _ | ⟨u1, _ | ⟨u1Sub, _ | ⟨u16, _ | ⟨u16Sub, _ | _⟩⟩⟩⟩ <;> exact ⟨_, rfl⟩
    · rw [hl]
      exact ⟨_, rfl⟩
  · exact ⟨_, rfl⟩

theorem take_raised_iff {u : Update} :
    (∃ e, (s.take u rest).phase = .raised e) ↔ u.error ≠ none := by
  unfold Poll.take
  cases hu : u.error with
  | some e => simp [Poll.raise]
  | none => by_cases hcode : u.errCode = .NO_ERR <;> simp [hcode]

theorem receive_ok (response : Json) : s.receive clock package rest (.ok (response, .NO_ERR)) =
    s.take (updateFor clock package response s.handler.lib) rest := rfl

theorem receive_code {code : Rs232Code} (response : Json) (hcode : code ≠ .NO_ERR) :
    ¬ ∃ e, (s.receive clock package rest (.ok (response, code))).phase = .raised e := by
  by_cases hdead : isDead code = true <;> simp [Poll.receive, hdead, hcode]

theorem receive_raised_iff {outcome : Except PyError (Json × Rs232Code)} :
    (∃ e, (s.receive clock package rest outcome).phase = .raised e) ↔
      (∃ e, outcome = .error e) ∨
        ∃ response, outcome = .ok (response, .NO_ERR) ∧ Unusable clock package response := by
  cases outcome with
  | error e => simp [Poll.receive, Poll.raise]
  | ok result =>
    obtain ⟨response, code⟩ := result
    by_cases hcode : code = .NO_ERR
    · subst hcode
      rw [receive_ok, take_raised_iff, updateFor_error_iff]
      simp
    · simp [receive_code response hcode, hcode]

/-- The frames that come in for a package make the poll raise. -/
def PackageFault (clock : Int → Int) (package : Package) (reads : List FrameRead) : Prop :=
  RequestTrips package reads ∨
    (indexesReply package = true ∧ ∃ rsps, RequestHears package reads rsps ∧ ¬ NoLogs rsps) ∨
    ∃ rsps response, RequestHears package reads rsps ∧ Carries package rsps response ∧
      Unusable clock package response

theorem prepared_available (package : Package) (files : CounterFiles) (h : Handler) :
    (prepared package files h).available = h.available := by
  unfold prepared
  split <;> rfl

theorem pollPackage_raised_iff {reads : List FrameRead} {files : CounterFiles}
    (h : Texts s.handler.lib) :
    (∃ e, (pollPackage clock package rest reads files s).phase = .raised e) ↔
      isPolled package s.handler.lib = .ok true ∧ s.handler.available = true ∧
        PackageFault clock package reads := by
  obtain ⟨polled, hpolled⟩ := isPolled_ok h package
  cases polled with
  | false => simp [pollPackage, hpolled]
  | true =>
    simp only [pollPackage, hpolled, receive_raised_iff, exchange_error_iff, exchange_ok_iff,
      prepared_available, true_and, PackageFault]
    constructor
    · rintro (⟨havailable, hfault⟩ | ⟨response, ⟨havailable, rsps, hhears, hcarries⟩, hunusable⟩)
      · exact ⟨havailable, hfault.imp_right .inl⟩
      · exact ⟨havailable, .inr (.inr ⟨rsps, response, hhears, hcarries, hunusable⟩)⟩
    · rintro ⟨havailable, htrips | hlogs | ⟨rsps, response, hhears, hcarries, hunusable⟩⟩
      · exact .inl ⟨havailable, .inl htrips⟩
      · exact .inl ⟨havailable, .inr hlogs⟩
      · exact .inr ⟨response, ⟨havailable, rsps, hhears, hcarries⟩, hunusable⟩

/-- The bytes that the virtual signals look at once more. -/
def LatestFault (lib : Lib) : Prop :=
  GarbledLatest batteryState .package130 lib ∨ GarbledLatest temp .package134 lib

theorem pollVirtual_raised_iff (h : Texts s.handler.lib) :
    (∃ e, (pollVirtual clock s).phase = .raised e) ↔ LatestFault s.handler.lib := by
  have hraises : (updateVirtualSignals clock s.handler.lib).error ≠ none ↔
      LatestFault s.handler.lib := by
    obtain ⟨progName, hprog⟩ := h progNameParam (by decide)
    have hcut : ¬ Uncut (s.handler.lib.value progNameParam) := by
      rw [hprog]
      rintro ⟨⟨⟩, -⟩
    rw [updateVirtualSignals_error_iff, VirtualFault, LatestFault]
    simp [hcut]
  rw [← hraises]
  simp only [pollVirtual]
  cases (updateVirtualSignals clock s.handler.lib).error <;> simp [Poll.raise]

/-- The last saved closing time cannot be unpacked. -/
def SavedTimeFault (clock : Int → Int) (saved : Saved) : Prop :=
  closingTimes saved.operation ≠ [] ∧
    ClosingTimeFault clock (.list (closingTimes saved.operation))

theorem pollNotification_raised_iff :
    (∃ e, (pollNotification clock s).phase = .raised e) ↔
      SavedTimeFault clock s.handler.saved := by
  have hraises : (notificationUpdate clock s.handler).error ≠ none ↔
      SavedTimeFault clock s.handler.saved := by
    unfold notificationUpdate SavedTimeFault
    cases htimes : closingTimes s.handler.saved.operation with
    | nil => simp [Update.start]
    | cons item items =>
      rw [← updateDoorClosingTime_error_iff s.handler.lib]
      simp
  rw [← hraises]
  simp only [pollNotification]
  cases (notificationUpdate clock s.handler).error <;> simp [Poll.raise]

theorem pollVfdResult_raised_iff {resp : Dict} {remaining : List Dict} {params : List Int} :
    (∃ e, (pollVfdResult resp remaining params s).phase = .raised e) ↔ VfdFault resp := by
  rw [← updateVfdParams_error_iff s.handler.lib]
  simp only [pollVfdResult]
  cases (updateVfdParams resp s.handler.lib).error <;> simp [Poll.raise]

end Updates

section Runs

variable {clock : Int → Int} {s t : Poll} {event : Event}

/-- A poll that is over has returned, with both queues empty or the bus dead. -/
def Survived (s : Poll) : Prop :=
  match s.phase with
  | .raised _ => False
  | .returned _ code => isDead code = true ∨ s.handler.saved = ⟨[], []⟩
  | _ => True

/-- Nothing that the step takes in makes it raise. -/
def Tolerable (clock : Int → Int) (s : Poll) : Event → Prop
  | .package reads _ => ∀ package rest, s.phase = .polling (package :: rest) →
      isPolled package s.handler.lib = .ok true → s.handler.available = true →
      ¬ PackageFault clock package reads
  | .virtual => ¬ LatestFault s.handler.lib
  | .notification => ¬ SavedTimeFault clock s.handler.saved
  | .vfdResult => ∀ resp remaining params code,
      s.phase = .draining (resp :: remaining) params code → ¬ VfdFault resp
  | _ => True

/-- The texts in the database are texts, and behind `get_notification` its queue is empty. -/
structure Sound (s : Poll) : Prop where
  texts : Texts s.handler.lib
  drained : ∀ remaining params code, s.phase = .draining remaining params code →
    s.handler.saved.operation = []

theorem sound_booted (available : Bool) : Sound (booted available) where
  texts p _ := ⟨"", rfl⟩
  drained := by simp [booted, resting]

theorem take_phase (u : Update) (rest : List Package) (s : Poll) :
    (∃ e, (s.take u rest).phase = .raised e) ∨ (s.take u rest).phase = .polling rest := by
  unfold Poll.take
  cases u.error with
  | some e => exact .inl ⟨e, rfl⟩
  | none => by_cases hcode : u.errCode = .NO_ERR <;> simp [hcode]

/-- A package ends the poll by an exception or on a dead bus, or the poll goes on. -/
theorem pollPackage_phase (clock : Int → Int) (package : Package) (rest : List Package)
    (reads : List FrameRead) (files : CounterFiles) (s : Poll) :
    let t := pollPackage clock package rest reads files s
    (∃ e, t.phase = .raised e) ∨ (∃ code, isDead code = true ∧ t.phase = .returned none code) ∨
      t.phase = .polling rest := by
  simp only [pollPackage]
  cases isPolled package s.handler.lib with
  | error e => exact .inl ⟨e, rfl⟩
  | ok polled =>
    cases polled with
    | false => exact .inr (.inr rfl)
    | true =>
      simp only
      rcases receive_cases clock package rest _ _ with ⟨e, -, heq⟩ | ⟨_, code, -, hdead, heq⟩ |
        ⟨_, _, -, -, -, heq⟩ | ⟨response, -, heq⟩
      · rw [heq]
        exact .inl ⟨e, rfl⟩
      · rw [heq]
        exact .inr (.inl ⟨code, hdead, rfl⟩)
      · rw [heq]
        exact .inr (.inr rfl)
      · rw [heq]
        exact (take_phase _ _ _).imp_right .inr

theorem texts_pollPackage (package : Package) (rest : List Package) (reads : List FrameRead)
    (files : CounterFiles) (h : Texts s.handler.lib) :
    Texts (pollPackage clock package rest reads files s).handler.lib := by
  have hprepared : Texts (prepared package files s.handler).lib :=
    h.of_value fun p _ => by rw [prepared_value]
  simp only [pollPackage]
  cases isPolled package s.handler.lib with
  | error e => exact h
  | ok polled =>
    cases polled with
    | false => exact h
    | true =>
      simp only
      rcases receive_cases clock package rest _ _ with ⟨e, -, heq⟩ | ⟨_, code, -, hdead, heq⟩ |
        ⟨_, _, -, -, -, heq⟩ | ⟨response, -, heq⟩
      · rw [heq]
        exact hprepared
      · rw [heq]
        exact hprepared
      · rw [heq]
        exact hprepared
      · rw [heq, take_lib]
        exact texts_updateFor hprepared

theorem texts_setAll {lib : Lib} (h : Texts lib) {params : List Int} (v : Json)
    (hclear : ∀ p ∈ textParams, p ∉ params) : Texts (lib.setAll params v) :=
  h.of_value fun p hp => setAll_value_other v lib (hclear p hp)

theorem texts_pollVirtual (h : Texts s.handler.lib) : Texts (pollVirtual clock s).handler.lib := by
  have hstart : Texts (Update.start s.handler.lib).lib := h
  have hupdated : Texts (updateVirtualSignals clock s.handler.lib).lib :=
    hstart.of_within (within_updateVirtualSignals clock _) (by decide)
  simp only [pollVirtual]
  cases (updateVirtualSignals clock s.handler.lib).error <;> exact hupdated

theorem texts_pollNotification (h : Texts s.handler.lib) :
    Texts (pollNotification clock s).handler.lib := by
  have hupdated : Texts (notificationUpdate clock s.handler).lib := by
    unfold notificationUpdate
    split
    · exact h
    · have hclear : ∀ p ∈ textParams, p ∉ doorClosingTimeParams := by decide
      exact h.of_value fun p hp => updateDoorClosingTime_frame (hclear p hp)
  simp only [pollNotification]
  cases (notificationUpdate clock s.handler).error with
  | some e => exact hupdated
  | none => exact texts_setAll hupdated _ (by decide)

theorem texts_pollVfdResult (resp : Dict) (remaining : List Dict) (params : List Int)
    (h : Texts s.handler.lib) : Texts (pollVfdResult resp remaining params s).handler.lib := by
  have hstart : Texts (Update.start s.handler.lib).lib := h
  have hupdated : Texts (updateVfdParams resp s.handler.lib).lib :=
    hstart.of_within (within_updateVfdParams resp _) (by decide)
  simp only [pollVfdResult]
  cases (updateVfdParams resp s.handler.lib).error <;> exact hupdated

theorem sound_step (h : Sound s) (hstep : step clock s event = some t) : Sound t := by
  cases stepped hstep with
  | begin forceReadAll idle =>
    exact ⟨texts_setAll h.texts _ (by decide), by simp [beginPoll]⟩
  | package reads files polling =>
    refine ⟨texts_pollPackage _ _ _ _ h.texts, fun remaining params code hdraining => ?_⟩
    rcases pollPackage_phase clock _ _ reads files s with ⟨e, hphase⟩ | ⟨code, -, hphase⟩ | hphase
    all_goals
      rw [hphase] at hdraining
      cases hdraining
  | virtual polling =>
    refine ⟨texts_pollVirtual h.texts, fun remaining params code hdraining => ?_⟩
    simp only [pollVirtual] at hdraining
    split at hdraining <;> cases hdraining
  | notification notifying =>
    refine ⟨texts_pollNotification h.texts, fun remaining params code hdraining => ?_⟩
    simp only [pollNotification] at hdraining ⊢
    split at hdraining
    · cases hdraining
    · rfl
  | vfdResult draining =>
    refine ⟨texts_pollVfdResult _ _ _ h.texts, fun remaining params code hdraining => ?_⟩
    have hdrained := h.drained _ _ _ draining
    simp only [pollVfdResult] at hdraining ⊢
    split at hdraining
    · cases hdraining
    · exact hdrained
  | finish draining =>
    refine ⟨h.texts, fun remaining params code hdraining => ?_⟩
    simp only [finishPoll, response] at hdraining
    split at hdraining <;> cases hdraining
  | read cmd type reads idle => exact ⟨h.texts, by simp⟩
  | write param value idle => exact ⟨h.texts.set param value, by simp⟩

theorem survived_of_running (hraised : ¬ ∃ e, s.phase = .raised e)
    (hreturned : ∀ response code, s.phase = .returned response code → isDead code = true) :
    Survived s := by
  unfold Survived
  split
  · exact hraised ⟨_, ‹_›⟩
  · exact .inl (hreturned _ _ ‹_›)
  · trivial

theorem not_survived_of_raised (h : ∃ e, s.phase = .raised e) : ¬ Survived s := by
  obtain ⟨e, he⟩ := h
  simp [Survived, he]

/-- A step that can only raise or go on survives exactly if it does not raise. -/
theorem survived_iff {fault : Prop} (hraised : (∃ e, s.phase = .raised e) ↔ fault)
    (hreturned : ∀ response code, s.phase = .returned response code → isDead code = true) :
    Survived s ↔ ¬ fault := by
  rw [← hraised]
  exact ⟨fun h hr => not_survived_of_raised hr h, fun h => survived_of_running h hreturned⟩

theorem survived_step (hs : Sound s) (hstep : step clock s event = some t) :
    Survived t ↔ Tolerable clock s event := by
  cases stepped hstep with
  | begin forceReadAll idle => exact iff_of_true trivial trivial
  | @package reads files package rest polling =>
    have hreturned : ∀ response code, (pollPackage clock package rest reads files s).phase =
        .returned response code → isDead code = true := by
      intro response code hreturned
      rcases pollPackage_phase clock package rest reads files s with
        ⟨e, hphase⟩ | ⟨code', hdead, hphase⟩ | hphase
      all_goals
        rw [hphase] at hreturned
        cases hreturned
      exact hdead
    rw [survived_iff (pollPackage_raised_iff hs.texts) hreturned]
    constructor
    · intro hsafe package' rest' hpolling hpolled havailable hfault
      rw [polling] at hpolling
      cases hpolling
      exact hsafe ⟨hpolled, havailable, hfault⟩
    · rintro h ⟨hpolled, havailable, hfault⟩
      exact h _ _ polling hpolled havailable hfault
  | virtual polling =>
    refine survived_iff (pollVirtual_raised_iff hs.texts) fun response code hreturned => ?_
    simp only [pollVirtual] at hreturned
    split at hreturned <;> cases hreturned
  | notification notifying =>
    refine survived_iff pollNotification_raised_iff fun response code hreturned => ?_
    simp only [pollNotification] at hreturned
    split at hreturned <;> cases hreturned
  | @vfdResult resp remaining params code draining =>
    have hreturned : ∀ response code, (pollVfdResult resp remaining params s).phase =
        .returned response code → isDead code = true := by
      intro response code hreturned
      simp only [pollVfdResult] at hreturned
      split at hreturned <;> cases hreturned
    rw [survived_iff pollVfdResult_raised_iff hreturned]
    constructor
    · intro hsafe resp' remaining' params' code' hdraining
      rw [draining] at hdraining
      cases hdraining
      exact hsafe
    · exact fun h => h _ _ _ _ draining
  | @finish params code draining =>
    refine iff_of_true ?_ trivial
    have hsaved : (finishPoll params code s).handler.saved = ⟨[], []⟩ :=
      congrArg (fun l => Saved.mk l []) (hs.drained _ _ _ draining)
    unfold Survived
    split
    · rename_i hphase
      simp only [finishPoll, response] at hphase
      split at hphase <;> cases hphase
    · exact .inr hsaved
    · trivial
  | read cmd type reads idle => exact iff_of_true trivial trivial
  | write param value idle => exact iff_of_true trivial trivial

/-- Polls never raise, and leave nothing in the queues unless the bus is dead, in exactly the
runs that take nothing in that a step does not survive. -/
theorem survived_iff_tolerable {available : Bool} {path : List (Poll × Event)}
    (r : Run (step clock) (booted available) path t) :
    Always Survived path t ↔ Meets (Tolerable clock) path :=
  r.always_iff (fun _ _ _ hs hstep => sound_step hs hstep)
    (fun _ _ _ hs _ hstep => survived_step hs hstep) (sound_booted available) trivial

/-- A door has closed, and a drive has measured its current. -/
def notices : List Received :=
  [.object [("cmd", .str "operation"), ("type", .str "135"),
    ("data", .list ([1, 0, 9, 0].map .int))],
   .object [("cmd", .str "vfdResult"), ("id", .int 0), ("data", .str "0,0,0,1,44"),
    ("timestamp", .int 7)]]

def noFiles : CounterFiles := ⟨fun _ => 0, fun _ => 0⟩

/-- The text of a command, and what comes in behind it. -/
def texted (cmd text : String) (behind : List Received) : List FrameRead :=
  [.text (some (.object [("cmd", .str cmd), ("data", .str text)] :: behind))]

def garbled : Event := .package [.failed .SERIAL_DECODE_ERR decode_error] noFiles

/-- Two texts come in, notices behind the second one, and every other package fails. The notices
of an earlier read are taken out with the new ones. -/
def busyPoll : List Event :=
  [.package (texted "liftRef1" "AR1" []) noFiles, garbled,
   .package (texted "liftName" "lift" notices) noFiles] ++ List.replicate 8 garbled ++
    [.virtual, .notification, .vfdResult, .vfdResult, .finish]

/-- Another operation hears both kinds of notices, and a poll follows. -/
def noticed : List Event :=
  .read "childLock" "" (texted "childLock" "0" notices) :: .begin false :: busyPoll

def survives (s : Poll) : Bool :=
  match s.phase with
  | .raised _ => false
  | .returned _ code =>
    isDead code || (s.handler.saved.operation.isEmpty && s.handler.saved.vfdResult.isEmpty)
  | _ => true

theorem survived_of_survives (s : Poll) (h : survives s = true) : Survived s := by
  unfold survives at h
  unfold Survived
  split at h
  · cases h
  · simp only [Bool.or_eq_true, Bool.and_eq_true, List.isEmpty_iff] at h
    exact h.imp_right fun hempty => congrArg₂ Saved.mk hempty.1 hempty.2
  · trivial

/-- The notices are queued by the read, and the poll takes all of them out. -/
theorem survived_noticed : ∃ s t,
    exec (step fun _ => 0) (booted true) (noticed.take 1) = some s ∧
      s.handler.saved.operation.length = 1 ∧ s.handler.saved.vfdResult.length = 1 ∧
    exec (step fun _ => 0) (booted true) noticed = some t ∧
      t.phase = .returned (some "0x144x155x169") .PARTIAL_ERR ∧ t.handler.saved = ⟨[], []⟩ ∧
    Always Survived (trace (step fun _ => 0) (booted true) noticed) t ∧
      Meets (Tolerable fun _ => 0) (trace (step fun _ => 0) (booted true) noticed) := by
  have hqueued : (exec (step fun _ => 0) (booted true) (noticed.take 1)).map
      (fun s => (s.handler.saved.operation.length, s.handler.saved.vfdResult.length)) =
        some (1, 1) := rfl
  have hend : (exec (step fun _ => 0) (booted true) noticed).map
      (fun t => (t.phase, t.handler.saved)) =
        some (.returned (some "0x144x155x169") .PARTIAL_ERR, ⟨[], []⟩) := rfl
  have hcheck : (trace (step fun _ => 0) (booted true) noticed).all (fun p => survives p.1) =
      true := rfl
  obtain ⟨s, hs, hlengths⟩ := Option.map_eq_some_iff.mp hqueued
  obtain ⟨t, ht, hfields⟩ := Option.map_eq_some_iff.mp hend
  obtain ⟨hoperation, hvfd⟩ := Prod.mk.inj hlengths
  obtain ⟨hphase, hsaved⟩ := Prod.mk.inj hfields
  have hlast : survives t = true := by simp [survives, hphase, hsaved]
  have hall : Always Survived (trace (step fun _ => 0) (booted true) noticed) t :=
    always_of_check survived_of_survives hcheck hlast
  exact ⟨s, t, hs, hoperation, hvfd, ht, hphase, hsaved, hall,
    (survived_iff_tolerable (exec_run ht)).mp hall⟩

/-- A result with too few fields, received by another operation, and two polls behind it whose
packages all fail. -/
def shortResult : List Event :=
  let poll : List Event :=
    .begin false :: List.replicate 11 garbled ++ [.virtual, .notification, .vfdResult]
  .read "childLock" "" [.text (some [.object [("cmd", .str "vfdResult"), ("id", .int 0),
    ("data", .str "1,2"), ("timestamp", .int 7)]])] :: poll ++ poll

/-- The result stays in its queue, and every later poll raises on it. -/
theorem not_always_survived : ¬ ∀ (clock : Int → Int) (available : Bool)
    (path : List (Poll × Event)) (t : Poll), Run (step clock) (booted available) path t →
    Always Survived path t := by
  intro hall
  have hphase : (exec (step fun _ => 0) (booted true) shortResult).map (fun t => t.phase) =
      some (.raised .indexError) := rfl
  obtain ⟨t, hexec, hraised⟩ := Option.map_eq_some_iff.mp hphase
  exact not_survived_of_raised ⟨_, hraised⟩ (hall _ _ _ _ (exec_run hexec)).last

end Runs

end NexyGateway.Rs232Handler
