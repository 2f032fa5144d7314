import NexyGateway.PollFaults

/-!
# Outcomes of a write to the 1k lift

`write_parameter` turns most of what can go wrong into a code. The writes on which it
raises are named by the frames of the lift, by the database and by the value.
-/
namespace NexyGateway.Rs232Handler

open PyNumber PyJson ThousandLib

/-- A code that is settled by the frames: the request raises on some, and on some it is done. -/
structure Settles (fault done : Prop) (o : Outcome Rs232Code) : Prop where
  raises : (∃ e, o.result = .error e) ↔ fault
  accepts : o.result = .ok .NO_ERR ↔ done

section Requests

variable {cmd : String} {reads replies : List FrameRead} {rsps : List Dict} {rsp : Dict}
  {split : Split} {available : Bool} {message : Message} {saved : Saved}

/-- The frames of a request without a type. -/
def Hears (cmd : String) (reads : List FrameRead) (rsps : List Dict) : Prop :=
  Heard cmd "" readRetries reads rsps

/-- The request raises while it reads. -/
def Trips (cmd : String) (reads : List FrameRead) : Prop := ReadsTrip cmd "" readRetries reads

/-- The first reply to the command is as wanted. -/
def RepliesWith (cmd : String) (reads : List FrameRead) (wanted : Dict → Prop) : Prop :=
  ∃ rsps rsp, Hears cmd reads rsps ∧ FirstReply cmd "" rsps rsp ∧ wanted rsp

def HearsLogs (cmd : String) (reads : List FrameRead) : Prop :=
  ∃ rsps, Hears cmd reads rsps ∧ ¬ NoLogs rsps

variable {α : Type}

theorem request_hears (message : Message) (saved : Saved) (refused : Rs232Code → α)
    (answered : Split → Except PyError α) (hcmd : cmd ≠ "operation") (h : Hears cmd reads rsps) :
    ¬ Trips cmd reads ∧ ∃ split, Answered cmd "" rsps split ∧
      (request true message cmd reads saved refused answered).result = answered split := by
  have htyped : ¬ (cmd = "operation" ∧ "" = "") := fun hboth => hcmd hboth.1
  obtain ⟨split, saved', hres, hinto⟩ := readSignal_of_heard saved htyped h
  constructor
  · have htrips : (∃ e, (readSignal cmd "" readRetries reads saved).1 = .error e) ↔
        Trips cmd reads := readSignal_error_iff htyped
    rw [← htrips, hres]
    simp
  · refine ⟨split, ⟨hinto, h.passed.1, h.passed.2⟩, ?_⟩
    simp [request, getSignalFromSerialBuffer, hres, hinto.noError]

theorem request_unheard (message : Message) (saved : Saved) (refused : Rs232Code → α)
    (answered : Split → Except PyError α) (hcmd : cmd ≠ "operation") (h : ∀ rsps, ¬ Hears cmd reads rsps) :
    let o := request true message cmd reads saved refused answered
    (Trips cmd reads ∧ ∃ e, o.result = .error e) ∨
      (¬ Trips cmd reads ∧ ∃ code ≠ .NO_ERR, o.result = .ok (refused code)) := by
  have htyped : ¬ (cmd = "operation" ∧ "" = "") := fun hboth => hcmd hboth.1
  have htrips : (∃ e, (readSignal cmd "" readRetries reads saved).1 = .error e) ↔
      Trips cmd reads := readSignal_error_iff htyped
  cases hres : readSignal cmd "" readRetries reads saved with
  | mk result saved' =>
    rw [hres] at htrips
    simp only [request, getSignalFromSerialBuffer, hres, Bool.not_true, Bool.false_eq_true, if_false]
    cases result with
    | error e => exact .inl ⟨htrips.mp ⟨e, rfl⟩, e, rfl⟩
    | ok split =>
      have hcode : split.errCode ≠ .NO_ERR := by
        intro hcode
        obtain ⟨rsps, hheard, -⟩ := heard_of_readSignal hres hcode
        exact h rsps hheard
      refine .inr ⟨?_, split.errCode, hcode, ?_⟩
      · rw [← htrips]
        simp
      · simp [hcode]

/-- What is made of the frames of a request that looks at the first reply only. -/
structure Judges (cmd : String) (indexes : Bool) (wanted : Dict → Prop)
    (answered : Split → Except PyError Rs232Code) : Prop where
  logs : ∀ rsps split, Answered cmd "" rsps split → ¬ NoLogs rsps →
    if indexes then ∃ e, answered split = .error e
    else ∃ code ≠ .NO_ERR, answered split = .ok code
  reply : ∀ rsps split rsp, Answered cmd "" rsps split → FirstReply cmd "" rsps rsp →
    ∃ code, answered split = .ok code ∧ (code = .NO_ERR ↔ wanted rsp)

theorem Judges.raises {indexes : Bool} {wanted : Dict → Prop}
    {answered : Split → Except PyError Rs232Code} (h : Judges cmd indexes wanted answered)
    (hanswered : Answered cmd "" rsps split) :
    (∃ e, answered split = .error e) ↔ indexes = true ∧ ¬ NoLogs rsps := by
  by_cases hlogs : NoLogs rsps
  · obtain ⟨rsp, hfirst⟩ := firstReply_of_awaited (by decide) hanswered.awaited hlogs
    obtain ⟨code, hcode, -⟩ := h.reply rsps split rsp hanswered hfirst
    simp [hcode, hlogs]
  · have hlogged := h.logs rsps split hanswered hlogs
    cases indexes with
    | true => exact iff_of_true hlogged ⟨rfl, hlogs⟩
    | false =>
      obtain ⟨code, -, hcode⟩ := hlogged
      simp [hcode]

theorem Judges.accepts {indexes : Bool} {wanted : Dict → Prop}
    {answered : Split → Except PyError Rs232Code} (h : Judges cmd indexes wanted answered)
    (hanswered : Answered cmd "" rsps split) :
    answered split = .ok .NO_ERR ↔ ∃ rsp, FirstReply cmd "" rsps rsp ∧ wanted rsp := by
  constructor
  · intro hok
    have hlogs : NoLogs rsps := by
      by_contra hlogs
      have hlogged := h.logs rsps split hanswered hlogs
      cases indexes with
      | true =>
        obtain ⟨e, he⟩ := hlogged
        rw [he] at hok
        cases hok
      | false =>
        obtain ⟨code, hne, hcode⟩ := hlogged
        rw [hcode] at hok
        exact hne (Except.ok.inj hok)
    obtain ⟨rsp, hfirst⟩ := firstReply_of_awaited (by decide) hanswered.awaited hlogs
    obtain ⟨code, hcode, hiff⟩ := h.reply rsps split rsp hanswered hfirst
    rw [hcode] at hok
    exact ⟨rsp, hfirst, hiff.mp (Except.ok.inj hok)⟩
  · rintro ⟨rsp, hfirst, hwanted⟩
    obtain ⟨code, hcode, hiff⟩ := h.reply rsps split rsp hanswered hfirst
    rw [hcode, hiff.mpr hwanted]

theorem settles_request (available : Bool) (message : Message) (reads : List FrameRead)
    (saved : Saved) {indexes : Bool} {wanted : Dict → Prop}
    {answered : Split → Except PyError Rs232Code} (hcmd : cmd ≠ "operation")
    (hjudges : Judges cmd indexes wanted answered) :
    Settles (available = true ∧ (Trips cmd reads ∨ indexes = true ∧ HearsLogs cmd reads))
      (available = true ∧ RepliesWith cmd reads wanted)
      (request available message cmd reads saved id answered) := by
  cases available with
  | false => exact ⟨by simp [request], by simp [request]⟩
  | true =>
    simp only [true_and]
    by_cases hheard : ∃ rsps, Hears cmd reads rsps
    · obtain ⟨rsps, hheard⟩ := hheard
      obtain ⟨htrips, split, hanswered, hres⟩ := request_hears message saved id answered hcmd
        hheard
      constructor
      · constructor
        · rintro ⟨e, he⟩
          obtain ⟨hindexes, hlogs⟩ := (hjudges.raises hanswered).mp ⟨e, hres.symm.trans he⟩
          exact .inr ⟨hindexes, rsps, hheard, hlogs⟩
        · rintro (htrips' | ⟨hindexes, rsps', hheard', hlogs⟩)
          · exact absurd htrips' htrips
          · obtain ⟨-, split', hanswered', hres'⟩ := request_hears message saved id answered hcmd
              hheard'
            obtain ⟨e, he⟩ := (hjudges.raises hanswered').mpr ⟨hindexes, hlogs⟩
            exact ⟨e, hres'.trans he⟩
      · constructor
        · intro hok
          obtain ⟨rsp, hfirst, hwanted⟩ := (hjudges.accepts hanswered).mp (hres.symm.trans hok)
          exact ⟨rsps, rsp, hheard, hfirst, hwanted⟩
        · rintro ⟨rsps', rsp, hheard', hfirst, hwanted⟩
          obtain ⟨-, split', hanswered', hres'⟩ := request_hears message saved id answered hcmd
            hheard'
          exact hres'.trans ((hjudges.accepts hanswered').mpr ⟨rsp, hfirst, hwanted⟩)
    · rw [not_exists] at hheard
      have hunheard := request_unheard message saved id answered hcmd hheard
      have hlogs : ¬ HearsLogs cmd reads := by
        rintro ⟨rsps, hrsps, -⟩
        exact hheard rsps hrsps
      have hreplies : ¬ RepliesWith cmd reads wanted := by
        rintro ⟨rsps, -, hrsps, -⟩
        exact hheard rsps hrsps
      rcases hunheard with ⟨htrips, e, he⟩ | ⟨htrips, code, hcode, hres⟩
      · exact ⟨iff_of_true ⟨e, he⟩ (.inl htrips), iff_of_false (by simp [he]) hreplies⟩
      · refine ⟨iff_of_false (by simp [hres]) (by simp [htrips, hlogs]), ?_⟩
        exact iff_of_false (by simpa [hres] using hcode) hreplies

theorem Answered.first (h : Answered cmd "" rsps split) (hfirst : FirstReply cmd "" rsps rsp) :
    ∃ rest, split.wanted = .frames (rsp :: rest) := by
  obtain ⟨hlogs, rest, hfilter⟩ := hfirst
  exact ⟨rest, by rw [h.into.frames hlogs, hfilter]⟩

end Requests

section Echoes

variable {available : Bool} {reads : List FrameRead} {saved : Saved}

def HasData (wanted : Json → Prop) (rsp : Dict) : Prop :=
  ∃ data, rsp.lookup "data" = some data ∧ wanted data

/-- Requests that catch what the first element raises, and judge its data. -/
theorem settles_data {cmd : String} {message : Message}
    {answered : Split → Except PyError Rs232Code} {wanted : Json → Prop} (hcmd : cmd ≠ "operation")
    (hnone : ∀ split, firstData split = none → answered split = .ok .DATA_ERR)
    (hsome : ∀ split data, firstData split = some data →
      ∃ code, answered split = .ok code ∧ (code = .NO_ERR ↔ wanted data)) :
    Settles (available = true ∧ Trips cmd reads)
      (available = true ∧ RepliesWith cmd reads (HasData wanted))
      (request available message cmd reads saved id answered) := by
  have hjudges : Judges cmd false (HasData wanted) answered := by
    constructor
    · intro rsps split h hlogs
      obtain ⟨logs, hw⟩ := h.into.logs hlogs
      have hdata : firstData split = none := by simp [firstData, hw]
      exact ⟨.DATA_ERR, by decide, hnone split hdata⟩
    · intro rsps split rsp h hfirst
      obtain ⟨rest, hw⟩ := h.first hfirst
      have hdata : firstData split = rsp.lookup "data" := by simp [firstData, hw]
      cases hlookup : rsp.lookup "data" with
      | none => exact ⟨.DATA_ERR, hnone split (hdata.trans hlookup), by simp [HasData, hlookup]⟩
      | some data =>
        obtain ⟨code, hcode, hiff⟩ := hsome split data (hdata.trans hlookup)
        exact ⟨code, hcode, by simp [HasData, hlookup, hiff]⟩
  have hsettles := settles_request available message reads saved hcmd hjudges
  simpa using hsettles

theorem settles_setChildLock (available : Bool) (reads : List FrameRead) (saved : Saved)
    (data : String) :
    Settles (available = true ∧ Trips "childLock" reads)
      (available = true ∧ RepliesWith "childLock" reads (HasData (fun v => v = .str data)))
      (setChildLock available data reads saved) := by
  refine settles_data (by decide) ?_ ?_
  · intro split h
    rw [h]
  · intro split v h
    rw [h]
    cases v with
    | str response => by_cases heq : data = response <;> simp [heq, eq_comm]
    | _ => exact ⟨_, rfl, by simp⟩

theorem settles_setFloorLock (available : Bool) (reads : List FrameRead) (saved : Saved)
    (floors : List Int) :
    Settles (available = true ∧ Trips "floorLock" reads)
      (available = true ∧ RepliesWith "floorLock" reads
        (HasData (fun v => ∃ items, v = .list items ∧ spellsFloors floors items = true)))
      (setFloorLock available floors reads saved) := by
  refine settles_data (by decide) ?_ ?_
  · intro split h
    rw [h]
  · intro split v h
    rw [h]
    cases v with
    | list items => by_cases heq : spellsFloors floors items = true <;> simp [heq]
    | _ => exact ⟨_, rfl, by simp⟩

theorem settles_setOilLevel (available : Bool) (reads : List FrameRead) (saved : Saved)
    (data : String) (previous : Json) :
    Settles (available = true ∧ Trips "oilLevel" reads)
      (available = true ∧ RepliesWith "oilLevel" reads
        (HasData (fun v => ∃ text, previous.text = some text ∧ v.spells text = true)))
      (setOilLevel available data previous reads saved) := by
  refine settles_data (by decide) ?_ ?_
  · intro split h
    rw [h]
  · intro split v h
    rw [h]
    cases htext : previous.text with
    | none => exact ⟨_, rfl, by simp⟩
    | some text => by_cases heq : v.spells text = true <;> simp [heq]

end Echoes

section Files

variable {available : Bool} {file : String} {reads replies : List FrameRead} {saved : Saved}
  {param value : Int} {rsp : Dict} {content : List Json} {h : Handler}

def ErrZero (rsp : Dict) : Prop := ∃ err, rsp.lookup "err" = some err ∧ err.eq (.int 0) = true

/-- A valid `writeFile` frame has an error status. -/
theorem validateObject_writeFile (hvalid : validateObject rsp = .ok .NO_ERR)
    (hlogs : rsp.has "logs" = false) (hcmd : rsp.lookup "cmd" = some (.str "writeFile")) :
    ∃ err, rsp.lookup "err" = some err := by
  have hnone : rsp.lookup "logs" = none := by simpa [Dict.has] using hlogs
  have hfile : validateWriteFile rsp = .ok .NO_ERR := by
    simpa [validateObject, hnone, keyOr, hcmd, Json.eq] using hvalid
  simp only [validateWriteFile, keyOr] at hfile
  cases hname : rsp.lookup "name" with
  | none => simp [hname] at hfile
  | some name =>
    by_cases herr : rsp.has "err" = true
    · exact lookup_of_has herr
    · simp only [hname, herr] at hfile
      split at hfile <;> cases hfile

theorem judges_writeReply : Judges "writeFile" true ErrZero writeReply where
  logs rsps split h hlogs := by
    obtain ⟨logs, hw⟩ := h.into.logs hlogs
    exact ⟨.keyError, by simp [writeReply, hw]⟩
  reply rsps split rsp h hfirst := by
    obtain ⟨rest, hw⟩ := h.first hfirst
    obtain ⟨hvalid, hlogs, hcmd⟩ := hfirst.reply h.valid
    obtain ⟨err, herr⟩ := validateObject_writeFile hvalid hlogs hcmd
    refine ⟨if err.eq (.int 0) then .NO_ERR else .DATA_ERR, by simp [writeReply, hw, herr], ?_⟩
    by_cases hzero : err.eq (.int 0) = true <;> simp [ErrZero, herr, hzero]

theorem settles_write1kFile (available : Bool) (replies : List FrameRead) (saved : Saved)
    (hfile : file ∈ validFileNames) (data : List Json) :
    Settles (available = true ∧ (Trips "writeFile" replies ∨ HearsLogs "writeFile" replies))
      (available = true ∧ RepliesWith "writeFile" replies ErrZero)
      (write1kFile available file data replies saved) := by
  have hgood : ¬ (available = true ∧ file ∉ validFileNames) := fun hbad => hbad.2 hfile
  rw [write1kFile, if_neg hgood]
  have hsettles := settles_request available (.writeFile file data) replies saved (by decide)
    judges_writeReply
  simpa using hsettles

/-- The first reply has no error, and this content. -/
def ReadsContent (reads : List FrameRead) (content : List Json) : Prop :=
  RepliesWith "readFile" reads
    (fun rsp => ErrZero rsp ∧ rsp.lookup "data" = some (.list content))

/-- What a read of a file comes to. -/
inductive FileRead (available : Bool) (reads : List FrameRead) : Except PyError FileReply → Prop
  | raised (e : PyError) (opened : available = true)
      (fault : Trips "readFile" reads ∨ HearsLogs "readFile" reads) :
      FileRead available reads (.error e)
  | refused (reply : FileReply) (code : reply.errCode ≠ .NO_ERR)
      (safe : ¬ (available = true ∧ (Trips "readFile" reads ∨ HearsLogs "readFile" reads)))
      (unread : available = true → ∀ content, ¬ ReadsContent reads content) :
      FileRead available reads (.ok reply)
  | content (rsp : Dict) (rest : List Dict) (content : List Json) (opened : available = true)
      (data : rsp.lookup "data" = some (.list content)) (holds : ReadsContent reads content)
      (safe : ¬ (Trips "readFile" reads ∨ HearsLogs "readFile" reads))
      (only : ∀ content', ReadsContent reads content' → content' = content) :
      FileRead available reads (.ok ⟨rsp :: rest, some (.list content), .NO_ERR⟩)

theorem fileReply_logs {cmd : String} {rsps : List Dict} {split : Split}
    (h : Answered cmd "" rsps split) (hlogs : ¬ NoLogs rsps) :
    fileReply split = .error .keyError := by
  obtain ⟨logs, hw⟩ := h.into.logs hlogs
  simp [fileReply, hw]

/-- The first reply of a file is a valid frame, so its data is a list. -/
theorem fileReply_first {rsps : List Dict} {split : Split} (h : Answered "readFile" "" rsps split)
    (hfirst : FirstReply "readFile" "" rsps rsp) : ∃ rest content,
      rsp.lookup "data" = some (.list content) ∧
      (ErrZero rsp → fileReply split = .ok ⟨rsp :: rest, some (.list content), .NO_ERR⟩) ∧
      (¬ ErrZero rsp → ∃ reply, fileReply split = .ok reply ∧ reply.errCode ≠ .NO_ERR) := by
  obtain ⟨rest, hw⟩ := h.first hfirst
  obtain ⟨hvalid, hlogs, hcmd⟩ := hfirst.reply h.valid
  obtain ⟨content, hdata⟩ := validateObject_readFile hvalid hlogs ((cmdIs_str hcmd).mpr rfl)
  refine ⟨rest, content, hdata, ?_, ?_⟩
  · rintro ⟨err, herr, hzero⟩
    simp [fileReply, hw, herr, hzero, hdata]
  · intro hno
    unfold fileReply
    simp only [hw]
    cases herr : rsp.lookup "err" with
    | none => exact ⟨_, rfl, by simp⟩
    | some err =>
      have hzero : err.eq (.int 0) = false := by
        rw [Bool.eq_false_iff]
        exact fun hzero => hno ⟨err, herr, hzero⟩
      simp only [hzero]
      exact ⟨_, rfl, by simp⟩

/-- A logs frame before the reply. -/
theorem readFile_logged (file : String) (saved : Saved) (h : HearsLogs "readFile" reads) :
    ∃ e, (request true (.readFile file) "readFile" reads saved
      (fun code => ⟨[], none, code⟩) fileReply).result = .error e := by
  obtain ⟨rsps, hheard, hlogs⟩ := h
  obtain ⟨-, split, hanswered, hres⟩ := request_hears (.readFile file) saved
    (fun code => ⟨[], none, code⟩) fileReply (by decide) hheard
  exact ⟨.keyError, hres.trans (fileReply_logs hanswered hlogs)⟩

theorem readFile_content (file : String) (saved : Saved) (h : ReadsContent reads content) :
    ∃ rsp rest, (request true (.readFile file) "readFile" reads saved
      (fun code => ⟨[], none, code⟩) fileReply).result =
        .ok ⟨rsp :: rest, some (.list content), .NO_ERR⟩ := by
  obtain ⟨rsps, rsp, hheard, hfirst, hzero, hdata⟩ := h
  obtain ⟨-, split, hanswered, hres⟩ := request_hears (.readFile file) saved
    (fun code => ⟨[], none, code⟩) fileReply (by decide) hheard
  obtain ⟨rest, content', hdata', hok, -⟩ := fileReply_first hanswered hfirst
  rw [hdata] at hdata'
  cases hdata'
  exact ⟨rsp, rest, hres.trans (hok hzero)⟩

theorem read1kFile_cases (available : Bool) (reads : List FrameRead) (saved : Saved)
    (hfile : file ∈ validFileNames) :
    FileRead available reads (read1kFile available file reads saved).result := by
  have hgood : ¬ (available = true ∧ file ∉ validFileNames) := fun hbad => hbad.2 hfile
  rw [read1kFile, if_neg hgood]
  cases available with
  | false => exact .refused _ (by decide) (by simp) (by simp)
  | true =>
    have hlogged : HearsLogs "readFile" reads → _ := readFile_logged file saved
    have hread : ∀ content, ReadsContent reads content → _ :=
      fun content => readFile_content file saved
    by_cases hheard : ∃ rsps, Hears "readFile" reads rsps
    · obtain ⟨rsps, hheard⟩ := hheard
      obtain ⟨htrips, split, hanswered, hres⟩ := request_hears (.readFile file) saved
        (fun code => ⟨[], none, code⟩) fileReply (by decide) hheard
      by_cases hlogs : NoLogs rsps
      · obtain ⟨rsp, hfirst⟩ := firstReply_of_awaited (by decide) hanswered.awaited hlogs
        obtain ⟨rest, content, hdata, hok, hbad⟩ := fileReply_first hanswered hfirst
        by_cases hzero : ErrZero rsp
        · have hsafe : ¬ (Trips "readFile" reads ∨ HearsLogs "readFile" reads) := by
            rintro (htrips' | hlogged')
            · exact htrips htrips'
            · obtain ⟨e, he⟩ := hlogged hlogged'
              rw [hres, hok hzero] at he
              cases he
          have honly : ∀ content', ReadsContent reads content' → content' = content := by
            intro content' hcontent
            obtain ⟨rsp', rest', hres'⟩ := hread content' hcontent
            rw [hres, hok hzero] at hres'
            cases hres'
            rfl
          rw [hres, hok hzero]
          exact .content rsp rest content rfl hdata ⟨rsps, rsp, hheard, hfirst, hzero, hdata⟩ hsafe
            honly
        · obtain ⟨reply, hreply, hcode⟩ := hbad hzero
          rw [hres, hreply] at hlogged hread ⊢
          refine .refused reply hcode ?_ ?_
          · rintro ⟨-, htrips' | hlogged'⟩
            · exact htrips htrips'
            · obtain ⟨e, he⟩ := hlogged hlogged'
              cases he
          · intro _ content' hcontent
            obtain ⟨rsp', rest', hres'⟩ := hread content' hcontent
            cases hres'
            exact hcode rfl
      · rw [hres, fileReply_logs hanswered hlogs]
        exact .raised _ rfl (.inr ⟨rsps, hheard, hlogs⟩)
    · rw [not_exists] at hheard
      rcases request_unheard (.readFile file) saved (fun code => ⟨[], none, code⟩) fileReply
        (by decide) hheard with
        ⟨htrips, e, he⟩ | ⟨htrips, code, hcode, hres⟩
      · rw [he]
        exact .raised e rfl (.inl htrips)
      · rw [hres]
        refine .refused _ hcode ?_ ?_
        · rintro ⟨-, htrips' | ⟨rsps, hrsps, -⟩⟩
          · exact htrips htrips'
          · exact hheard rsps hrsps
        · rintro - content ⟨rsps, rsp, hrsps, -⟩
          exact hheard rsps hrsps

/-- The value is a number of the size of the signal, and the content reaches up to it. -/
def Fits (sig : Signal) (value : Int) (content : List Json) : Prop :=
  (0 ≤ value ∧ value < 256 ^ sig.byteSize) ∧ sig.byteStart + sig.byteSize ≤ content.length

theorem replaceBytes_error_iff {data : List Json} {start : Nat} {bytes : List Nat} :
    (∃ e, replaceBytes data start bytes = .error e) ↔
      bytes ≠ [] ∧ data.length < start + bytes.length := by
  induction bytes generalizing data start with
  | nil => simp [replaceBytes]
  | cons b bytes ih =>
    by_cases hstart : start < data.length
    · simp only [replaceBytes, if_pos hstart, ih, List.length_set, List.length_cons]
      cases bytes with
      | nil => simp; omega
      | cons b' bytes => simp; omega
    · simp only [replaceBytes, if_neg hstart, List.length_cons]
      exact iff_of_true ⟨_, rfl⟩ ⟨by simp, by omega⟩

/-- A parameter with a file has its signal in that file. -/
theorem signalOf_of_file (hfile : getFileForParam param ≠ "") :
    getFileForParam param ∈ validFileNames ∧ ∃ sig, signalOf param = some sig := by
  unfold getFileForParam at hfile ⊢
  cases hfind : fileParams.find? (fun file => file.2.any (fun sig => sig.param = param)) with
  | none => simp [hfind] at hfile
  | some file =>
    have hmem := List.mem_of_find?_eq_some hfind
    have hany := List.find?_some hfind
    have hnames : ∀ file ∈ fileParams, file.1 ∈ validFileNames := by decide
    obtain ⟨sig, hsig, hparam⟩ := List.any_eq_true.mp hany
    refine ⟨hnames file hmem, ?_⟩
    rw [← Option.isSome_iff_exists, signalOf, List.find?_isSome]
    exact ⟨sig, List.mem_flatMap.mpr ⟨file, hmem, hsig⟩, hparam⟩

theorem file_of_signalOf {sig : Signal} (hsig : signalOf param = some sig) :
    getFileForParam param ≠ "" := by
  have hmem := List.mem_of_find?_eq_some hsig
  have hparam := List.find?_some hsig
  obtain ⟨file, hfile, hin⟩ := List.mem_flatMap.mp hmem
  have hsome : (fileParams.find? (fun file => file.2.any (fun sig => sig.param = param))).isSome =
      true := List.find?_isSome.mpr ⟨file, hfile, List.any_eq_true.mpr ⟨sig, hin, hparam⟩⟩
  obtain ⟨file', hfind⟩ := Option.isSome_iff_exists.mp hsome
  have hnames : ∀ file ∈ fileParams, file.1 ≠ "" := by decide
  rw [getFileForParam, hfind]
  exact hnames file' (List.mem_of_find?_eq_some hfind)

theorem signalOf_size {sig : Signal} (hsig : signalOf param = some sig) : sig.byteSize = 2 := by
  have hsizes : ∀ sig ∈ fileParams.flatMap (fun file => file.2), sig.byteSize = 2 := by decide
  exact hsizes sig (List.mem_of_find?_eq_some hsig)

/-- What becomes of the content of a file. -/
theorem overwritten_cases (value : Int) (rest : List Dict) (data : Option Json) (code : Rs232Code)
    {sig : Signal} (hsig : signalOf param = some sig) (hdata : rsp.lookup "data" = some (.list content)) :
    let result := overwritten param value ⟨rsp :: rest, data, code⟩
    (content = [] ∧ result = .ok none) ∨
    (content ≠ [] ∧ ¬ Fits sig value content ∧ ∃ e, result = .error e) ∨
    (content ≠ [] ∧ Fits sig value content ∧ ∃ data', result = .ok (some data')) := by
  have htruthy : (Json.list content).truthy = !content.isEmpty := rfl
  simp only [overwritten, hsig, hdata, htruthy, Bool.not_not]
  by_cases hempty : content = []
  · exact .inl ⟨hempty, by simp [hempty]⟩
  · refine .inr ?_
    rw [if_neg (by simpa using hempty)]
    simp only [hempty, not_false_eq_true, true_and, ne_eq]
    by_cases hvalue : 0 ≤ value ∧ value < 256 ^ sig.byteSize
    · obtain ⟨bytes, hbytes⟩ : ∃ bytes, toBytes sig.byteSize value = .ok bytes := by
        rw [toBytes, if_pos hvalue]
        exact ⟨_, rfl⟩
      have hlength := (toBytes_ok hbytes).1
      have hsome : bytes ≠ [] := by
        intro hnil
        rw [hnil, signalOf_size hsig] at hlength
        cases hlength
      simp only [hbytes, bind, Except.bind]
      cases hreplace : replaceBytes content sig.byteStart bytes with
      | error e =>
        have hshort := (replaceBytes_error_iff.mp ⟨e, hreplace⟩).2
        exact .inl ⟨fun hfits => by have := hfits.2; omega, e, rfl⟩
      | ok data' =>
        have hlong : ¬ content.length < sig.byteStart + bytes.length := by
          intro hshort
          obtain ⟨e, he⟩ := replaceBytes_error_iff.mpr ⟨hsome, hshort⟩
          rw [hreplace] at he
          cases he
        exact .inr ⟨⟨hvalue, by omega⟩, data', rfl⟩
    · have hbytes : toBytes sig.byteSize value = .error .overflowError := by
        rw [toBytes, if_neg hvalue]
      simp only [hbytes, bind, Except.bind]
      exact .inl ⟨fun hfits => hvalue hfits.1, _, rfl⟩

/-- The file is read, or its content is not one that the value can be put into, or the file is
written; one of them raises. -/
def FileFault (h : Handler) (param value : Int) (reads replies : List FrameRead) : Prop :=
  (getParam param h.lib).2 = .NO_ERR ∧ h.available = true ∧ ∃ sig, signalOf param = some sig ∧
    (Trips "readFile" reads ∨ HearsLogs "readFile" reads ∨
      ∃ content, ReadsContent reads content ∧ content ≠ [] ∧
        (¬ Fits sig value content ∨ Trips "writeFile" replies ∨ HearsLogs "writeFile" replies))

/-- Both requests for the file are answered without an error. -/
def FileDone (h : Handler) (reads replies : List FrameRead) : Prop :=
  h.available = true ∧ RepliesWith "readFile" reads ErrZero ∧ RepliesWith "writeFile" replies ErrZero

/-- Behind a content that was read, only that content and the second request count. -/
theorem contentFault_iff {sig : Signal} (hsig : signalOf param = some sig)
    (hcontent : ReadsContent reads content)
    (hsafe : ¬ (Trips "readFile" reads ∨ HearsLogs "readFile" reads))
    (honly : ∀ content', ReadsContent reads content' → content' = content) :
    (∃ sig', signalOf param = some sig' ∧
      (Trips "readFile" reads ∨ HearsLogs "readFile" reads ∨
        ∃ content', ReadsContent reads content' ∧ content' ≠ [] ∧
          (¬ Fits sig' value content' ∨ Trips "writeFile" replies ∨
            HearsLogs "writeFile" replies))) ↔
      content ≠ [] ∧ (¬ Fits sig value content ∨ Trips "writeFile" replies ∨
        HearsLogs "writeFile" replies) := by
  constructor
  · rintro ⟨sig', hsig', htrips | hlogs | ⟨content', hcontent', hrest⟩⟩
    · exact absurd (.inl htrips) hsafe
    · exact absurd (.inr hlogs) hsafe
    · rw [hsig] at hsig'
      cases hsig'
      rw [honly content' hcontent'] at hrest
      exact hrest
  · intro hrest
    exact ⟨sig, hsig, .inr (.inr ⟨content, hcontent, hrest⟩)⟩

theorem writeFileParam_settled :
    ((∃ e, (writeFileParam h param value reads replies).result = .error e) ↔
      FileFault h param value reads replies) ∧
    ((writeFileParam h param value reads replies).result = .ok .NO_ERR →
      FileDone h reads replies) := by
  unfold writeFileParam FileFault
  by_cases hset : (getParam param h.lib).2 = .NO_ERR
  · simp only [hset, ne_eq, not_true_eq_false, if_false, true_and]
    by_cases hname : getFileForParam param = ""
    · have hnone : ∀ sig, signalOf param ≠ some sig := fun sig hsig => file_of_signalOf hsig hname
      simp [hname, hnone]
    · obtain ⟨hfile, sig, hsig⟩ := signalOf_of_file hname
      have hread := read1kFile_cases h.available reads h.saved hfile
      simp only [hname, if_false]
      cases hres : (read1kFile h.available (getFileForParam param) reads h.saved).result with
      | error e =>
        rw [hres] at hread
        cases hread with
        | raised _ hopened hfault =>
          refine ⟨iff_of_true ⟨e, rfl⟩ ⟨hopened, sig, hsig, ?_⟩, by simp⟩
          rcases hfault with htrips | hlogs
          · exact .inl htrips
          · exact .inr (.inl hlogs)
      | ok reply =>
        rw [hres] at hread
        cases hread with
        | refused _ hcode hsafe hunread =>
          simp only [hcode, not_false_eq_true, if_true]
          refine ⟨iff_of_false (by simp) ?_, fun hok => absurd (Except.ok.inj hok) hcode⟩
          rintro ⟨hopened, sig', -, htrips | hlogs | ⟨content, hcontent, -⟩⟩
          · exact hsafe ⟨hopened, .inl htrips⟩
          · exact hsafe ⟨hopened, .inr hlogs⟩
          · exact hunread hopened content hcontent
        | content rsp rest content hopened hdata hcontent hsafe honly =>
          simp only [not_true_eq_false, if_false]
          have hcases := overwritten_cases value rest (some (.list content)) .NO_ERR hsig hdata
          rw [contentFault_iff hsig hcontent hsafe honly]
          rcases hcases with ⟨hempty, hover⟩ | ⟨hsome, hno, e, hover⟩ | ⟨hsome, hfits, data', hover⟩
          · rw [hover]
            exact ⟨iff_of_false (by simp) (fun h => h.2.1 hempty), by simp⟩
          · rw [hover]
            exact ⟨iff_of_true ⟨e, rfl⟩ ⟨hopened, hsome, .inl hno⟩, by simp⟩
          · rw [hover]
            have hwrite := settles_write1kFile h.available replies
              (read1kFile h.available (getFileForParam param) reads h.saved).saved hfile data'
            constructor
            · refine hwrite.raises.trans ?_
              simp only [hopened, true_and, hsome, hfits, not_true_eq_false, false_or, ne_eq,
                not_false_eq_true]
            · intro hok
              obtain ⟨-, hreplies⟩ := hwrite.accepts.mp hok
              obtain ⟨rsps, rsp', hheard, hfirst, hzero, -⟩ := hcontent
              exact ⟨hopened, ⟨rsps, rsp', hheard, hfirst, hzero⟩, hreplies⟩
  · simp [hset]

end Files

section Writes

variable {h : Handler} {param value : Int} {valueStr : String} {reads replies : List FrameRead}

/-- The fire floor is no number, or the lift does not survive the request. -/
def FloorLockFault (h : Handler) (value : Int) (reads : List FrameRead) : Prop :=
  (0 ≤ value ∧ value ≤ 63) ∧ ∃ fireFloor, getParam fireFloorParam h.lib = (fireFloor, .NO_ERR) ∧
    ((∃ e, fireFloor.toInt = .error e) ∨ ∃ floor, fireFloor.toInt = .ok floor ∧
      floor ∉ lockedFloors value ∧ h.available = true ∧ Trips "floorLock" reads)

/-- A write that gets past the check of the present value raises. -/
def WriteFault (h : Handler) (param value : Int) (reads replies : List FrameRead) : Prop :=
  if param = childLockParam then h.available = true ∧ Trips "childLock" reads
  else if param = floorLock.param then FloorLockFault h value reads
  else if param = oilLevelParam then
    (0 ≤ value ∧ value ≤ 100) ∧ h.available = true ∧ Trips "oilLevel" reads
  else FileFault h param value reads replies

/-- The lift has answered the command of the write without an error. -/
def Acknowledges (h : Handler) (param value : Int) (reads replies : List FrameRead) : Prop :=
  if param = childLockParam then
    h.available = true ∧ RepliesWith "childLock" reads
      (HasData (fun v => v = .str (if value = 0 then "off" else "on")))
  else if param = floorLock.param then
    h.available = true ∧ RepliesWith "floorLock" reads
      (HasData (fun v => ∃ items, v = .list items ∧ spellsFloors (lockedFloors value) items = true))
  else if param = oilLevelParam then
    h.available = true ∧ RepliesWith "oilLevel" reads (HasData (fun v => ∃ text,
      (getParam param h.lib).1.text = some text ∧ v.spells text = true))
  else FileDone h reads replies

theorem writeFloorLock_settled :
    ((∃ e, (writeFloorLock h value reads).result = .error e) ↔ FloorLockFault h value reads) ∧
    ((writeFloorLock h value reads).result = .ok .NO_ERR →
      h.available = true ∧ RepliesWith "floorLock" reads (HasData (fun v => ∃ items,
        v = .list items ∧ spellsFloors (lockedFloors value) items = true))) := by
  unfold writeFloorLock FloorLockFault
  by_cases hrange : value < 0 ∨ 63 < value
  · rw [if_pos hrange]
    exact ⟨iff_of_false (by simp) (fun hboth => by omega), by simp⟩
  · rw [if_neg hrange]
    have hvalue : 0 ≤ value ∧ value ≤ 63 := by omega
    simp only [hvalue, and_self, true_and]
    cases hfire : getParam fireFloorParam h.lib with
    | mk fireFloor error =>
      simp only
      by_cases herror : error = .NO_ERR
      · subst herror
        simp only [ne_eq, not_true_eq_false, if_false, Prod.mk.injEq, and_true]
        cases hfloor : fireFloor.toInt with
        | error e => simp [hfloor]
        | ok floor =>
          simp only [exists_eq_left', hfloor, reduceCtorEq, exists_false, false_or,
            Except.ok.injEq]
          by_cases hlocked : floor ∈ lockedFloors value
          · simp [hlocked]
          · have hsettles := settles_setFloorLock h.available reads h.saved (lockedFloors value)
            simp only [hlocked, if_false, not_false_eq_true, true_and]
            exact ⟨hsettles.raises, hsettles.accepts.mp⟩
      · simp [herror]

theorem writeDispatch_settled (h : Handler) (param value : Int) (valueStr : String)
    (reads replies : List FrameRead) :
    ((∃ e, (writeDispatch h param value valueStr reads replies).result = .error e) ↔
      WriteFault h param value reads replies) ∧
    ((writeDispatch h param value valueStr reads replies).result = .ok .NO_ERR →
      Acknowledges h param value reads replies) := by
  unfold writeDispatch WriteFault Acknowledges
  by_cases hchild : param = childLockParam
  · simp only [if_pos hchild]
    have hsettles := settles_setChildLock h.available reads h.saved
      (if value = 0 then "off" else "on")
    exact ⟨hsettles.raises, hsettles.accepts.mp⟩
  · simp only [if_neg hchild]
    by_cases hfloor : param = floorLock.param
    · simp only [if_pos hfloor]
      exact writeFloorLock_settled
    · simp only [if_neg hfloor]
      by_cases hoil : param = oilLevelParam
      · simp only [if_pos hoil]
        by_cases hrange : value < 0 ∨ 100 < value
        · rw [if_pos hrange]
          exact ⟨iff_of_false (by simp) (fun hboth => by omega), by simp⟩
        · rw [if_neg hrange]
          have hvalue : 0 ≤ value ∧ value ≤ 100 := by omega
          have hsettles := settles_setOilLevel h.available reads h.saved valueStr
            (getParam param h.lib).1
          simp only [hvalue, and_self, true_and]
          exact ⟨hsettles.raises, hsettles.accepts.mp⟩
      · simp only [if_neg hoil]
        exact writeFileParam_settled

/-- A write that is total and atomic: it comes back with a code, and the database has changed only
if the lift has taken the value, and only in the entry that was written. -/
structure TotalAtomic (h : Handler) (paramStr valueStr : String)
    (reads replies : List FrameRead) : Prop where
  total : ∃ code, (writeParameter h paramStr valueStr reads replies).1.result = .ok code
  failed : ∀ code, (writeParameter h paramStr valueStr reads replies).1.result = .ok code →
    code ≠ .NO_ERR → (writeParameter h paramStr valueStr reads replies).2.lib = h.lib
  done : (writeParameter h paramStr valueStr reads replies).1.result = .ok .NO_ERR →
    ∃ param value, PyNumber.int paramStr = some param ∧ PyNumber.int valueStr = some value ∧
      ((getParam param h.lib = (.str valueStr, .NO_ERR) ∧
          (writeParameter h paramStr valueStr reads replies).1.sent = [] ∧
          (writeParameter h paramStr valueStr reads replies).2.lib = h.lib) ∨
        (Acknowledges h param value reads replies ∧
          (writeParameter h paramStr valueStr reads replies).2.lib =
            h.lib.set param (.str valueStr)))

/-- Two numbers that are not written yet, and a request that raises. -/
def Faulty (h : Handler) (paramStr valueStr : String) (reads replies : List FrameRead) : Prop :=
  ∃ param value, PyNumber.int paramStr = some param ∧ PyNumber.int valueStr = some value ∧
    getParam param h.lib ≠ (.str valueStr, .NO_ERR) ∧ WriteFault h param value reads replies

/-- The code of a write that gets to its branch, and the database behind it. -/
theorem writeParameter_dispatch (reads replies : List FrameRead) {paramStr : String}
    (hparam : PyNumber.int paramStr = some param)
    (hvalue : PyNumber.int valueStr = some value)
    (hnew : getParam param h.lib ≠ (.str valueStr, .NO_ERR)) :
    let out := writeDispatch h param value valueStr reads replies
    let written := writeParameter h paramStr valueStr reads replies
    written.1 = out ∧ (out.result = .ok .NO_ERR → written.2.lib = h.lib.set param (.str valueStr)) ∧
      (out.result ≠ .ok .NO_ERR → written.2.lib = h.lib) := by
  have hno : ¬ ((getParam param h.lib).2 = .NO_ERR ∧
      (getParam param h.lib).1.eq (.str valueStr) = true) := by
    rintro ⟨hcode, heq⟩
    exact hnew (Prod.ext ((eq_str _ _).mp heq) hcode)
  simp only [writeParameter, hparam, hvalue, if_neg hno]
  split
  · rename_i hok
    exact ⟨rfl, fun _ => rfl, fun hbad => absurd hok hbad⟩
  · rename_i hbad
    exact ⟨rfl, fun hok => absurd hok hbad, fun _ => rfl⟩

theorem writeParameter_present (reads replies : List FrameRead) {paramStr : String}
    (hparam : PyNumber.int paramStr = some param)
    (hvalue : PyNumber.int valueStr = some value)
    (hsame : getParam param h.lib = (.str valueStr, .NO_ERR)) :
    writeParameter h paramStr valueStr reads replies = (⟨.ok .NO_ERR, h.saved, []⟩, h) := by
  simp [writeParameter, hparam, hvalue, hsame]

theorem writeParameter_unread (h : Handler) (reads replies : List FrameRead) {paramStr : String}
    (hnone : PyNumber.int paramStr = none ∨ PyNumber.int valueStr = none) :
    writeParameter h paramStr valueStr reads replies =
      (⟨.ok .ARGS_IN_ELEM_INT_ERR, h.saved, []⟩, h) := by
  unfold writeParameter
  split
  · rename_i param value hparam hvalue
    simp [hparam, hvalue] at hnone
  · rfl

theorem faulty_iff {paramStr : String} (hparam : PyNumber.int paramStr = some param)
    (hvalue : PyNumber.int valueStr = some value)
    (hnew : getParam param h.lib ≠ (.str valueStr, .NO_ERR)) :
    Faulty h paramStr valueStr reads replies ↔ WriteFault h param value reads replies := by
  constructor
  · rintro ⟨param', value', hparam', hvalue', -, hfault⟩
    rw [hparam] at hparam'
    rw [hvalue] at hvalue'
    cases hparam'
    cases hvalue'
    exact hfault
  · exact fun hfault => ⟨param, value, hparam, hvalue, hnew, hfault⟩

/-- A write to the 1k lift is total and atomic exactly if it does not meet a fault. -/
theorem writeParameter_totalAtomic_iff (h : Handler) (paramStr valueStr : String)
    (reads replies : List FrameRead) :
    TotalAtomic h paramStr valueStr reads replies ↔ ¬ Faulty h paramStr valueStr reads replies := by
  by_cases hnumbers : ∃ param value,
      PyNumber.int paramStr = some param ∧ PyNumber.int valueStr = some value
  · obtain ⟨param, value, hparam, hvalue⟩ := hnumbers
    by_cases hsame : getParam param h.lib = (.str valueStr, .NO_ERR)
    · have hwritten := writeParameter_present reads replies hparam hvalue hsame
      refine iff_of_true ⟨?_, ?_, ?_⟩ ?_
      · rw [hwritten]
        exact ⟨.NO_ERR, rfl⟩
      · rw [hwritten]
        exact fun _ _ _ => rfl
      · rw [hwritten]
        exact fun _ => ⟨param, value, hparam, hvalue, .inl ⟨hsame, rfl, rfl⟩⟩
      · rintro ⟨param', value', hparam', -, hnew, -⟩
        rw [hparam] at hparam'
        cases hparam'
        exact hnew hsame
    · obtain ⟨hout, hdone, hfailed⟩ := writeParameter_dispatch reads replies hparam hvalue hsame
      obtain ⟨hraises, haccepts⟩ := writeDispatch_settled h param value valueStr reads replies
      rw [faulty_iff hparam hvalue hsame, ← hraises]
      constructor
      · rintro ⟨⟨code, hcode⟩, -, -⟩ ⟨e, he⟩
        rw [hout, he] at hcode
        cases hcode
      · intro hsafe
        refine ⟨?_, ?_, ?_⟩
        · rw [hout]
          cases hres : (writeDispatch h param value valueStr reads replies).result with
          | error e => exact absurd ⟨e, hres⟩ hsafe
          | ok code => exact ⟨code, rfl⟩
        · intro code hcode hne
          rw [hout] at hcode
          refine hfailed ?_
          rw [hcode]
          exact fun heq => hne (Except.ok.inj heq)
        · intro hok
          rw [hout] at hok
          exact ⟨param, value, hparam, hvalue, .inr ⟨haccepts hok, hdone hok⟩⟩
  · have hnone : PyNumber.int paramStr = none ∨ PyNumber.int valueStr = none := by
      cases hparam : PyNumber.int paramStr with
      | none => exact .inl rfl
      | some param =>
        cases hvalue : PyNumber.int valueStr with
        | none => exact .inr rfl
        | some value => exact absurd ⟨param, value, hparam, hvalue⟩ hnumbers
    have hwritten := writeParameter_unread h reads replies hnone
    refine iff_of_true ⟨?_, ?_, ?_⟩ ?_
    · rw [hwritten]
      exact ⟨.ARGS_IN_ELEM_INT_ERR, rfl⟩
    · rw [hwritten]
      exact fun _ _ _ => rfl
    · rw [hwritten]
      exact fun hok => by cases hok
    · rintro ⟨param, value, hparam, hvalue, -⟩
      exact hnumbers ⟨param, value, hparam, hvalue⟩

/-- Parameter 97 has been polled, and its file reads back as thirty zeros. -/
def polledHandler : Handler :=
  { (booted true).handler with lib := Lib.fresh.set 97 (.str "5") }

def fileFrames : List FrameRead :=
  [.text (some [.object [("cmd", .str "readFile"), ("name", .str "/aritco/param"),
    ("data", .list (List.replicate 30 (.int 0))), ("err", .int 0)]])]

/-- A value above 65535 does not fit into the two bytes of a parameter, which raises. -/
theorem writeParameter_not_totalAtomic :
    ¬ TotalAtomic polledHandler "97" "65536" fileFrames [] := by
  rintro ⟨⟨code, hcode⟩, -, -⟩
  have hraised : (writeParameter polledHandler "97" "65536" fileFrames []).1.result =
      .error .overflowError := by rfl
  rw [hraised] at hcode
  cases hcode

end Writes

end NexyGateway.Rs232Handler
