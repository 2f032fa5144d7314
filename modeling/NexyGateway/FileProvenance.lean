import NexyGateway.FrameAnswers

/-!
# Where the content of a file comes from

The five files are read with one command, and nothing compares the name in a reply with
the name that was asked for. A file's content is its own exactly when the first reply in
the stream happens to be.
-/
namespace NexyGateway.Rs232Handler

open PyNumber PyJson ThousandLib

/-- The object that a document stands for. -/
def Received.rsp : Received → Option Dict
  | .object rsp => some rsp
  | .quoted (some (.dict rsp)) => some rsp
  | _ => none

def FrameRead.rsps : FrameRead → List Dict
  | .text (some documents) => documents.filterMap Received.rsp
  | _ => []

/-- A `readFile` frame of the stream with the given name. -/
structure FileFrame (file : String) (reads : List FrameRead) (rsp : Dict) : Prop where
  received : rsp ∈ reads.flatMap FrameRead.rsps
  cmd : cmdIs rsp "readFile" = true
  name : rsp.lookup "name" = some (.str file)

/-- The content with nothing but the bytes of the parameter replaced. -/
structure Replaced (param value : Int) (content data : List Json) : Prop where
  length : data.length = content.length
  bytes : ∃ sig, signalOf param = some sig ∧
    (∀ j < sig.byteSize, data[sig.byteStart + j]? = some (.int (value.toNat / 256 ^ j % 256 : Nat))) ∧
    (∀ i, i < sig.byteStart ∨ sig.byteStart + sig.byteSize ≤ i → data[i]? = content[i]?)

/-- What is read for a file, and what is sent back to it, comes from a frame of that file. -/
structure Provenance (file : String) (reads : List FrameRead) : Prop where
  read : ∀ available saved reply, (read1kFile available file reads saved).result = .ok reply →
    reply.errCode = .NO_ERR → ∃ rsp rest, reply.respData = rsp :: rest ∧
      reply.fileData = rsp.lookup "data" ∧ FileFrame file reads rsp
  write : ∀ h paramStr valueStr replies param value, PyNumber.int paramStr = some param →
    PyNumber.int valueStr = some value → getFileForParam param = file → ∀ name data,
    Message.writeFile name data ∈ (writeParameter h paramStr valueStr reads replies).1.sent →
    name = file ∧ ∃ rsp content, FileFrame file reads rsp ∧
      rsp.lookup "data" = some (.list content) ∧ Replaced param value content data

/-- The first reply in the stream that reports no error has the name of the file. -/
def AnsweredInName (file : String) (reads : List FrameRead) : Prop :=
  file ∈ validFileNames → ∀ rsp rest err, Answers "readFile" "" readRetries reads (rsp :: rest) →
    rsp.lookup "err" = some err → err.eq (.int 0) = true → rsp.lookup "name" = some (.str file)

section Frames

variable {document : Received} {rsp : Dict}

theorem accepts_rsp (h : Accepts document rsp) : document.rsp = some rsp ∧
    validateObject rsp = .ok .NO_ERR := by
  have hverdict : ∀ {rsp' : Dict}, (validateObject rsp').map (verdict rsp') = .ok (.ok rsp) →
      rsp' = rsp ∧ validateObject rsp = .ok .NO_ERR := by
    intro rsp' h
    cases hv : validateObject rsp' with
    | error e => simp [hv, Except.map] at h
    | ok code =>
      by_cases hcode : code = .NO_ERR
      · subst hcode
        simp only [hv, Except.map, verdict, if_true, Except.ok.injEq] at h
        subst h
        exact ⟨rfl, hv⟩
      · simp [hv, Except.map, verdict, hcode] at h
  unfold Accepts at h
  cases document with
  | object rsp' =>
    obtain ⟨rfl, hv⟩ := hverdict h
    exact ⟨rfl, hv⟩
  | other => cases h
  | quoted content =>
    cases content with
    | none => cases h
    | some v =>
      cases v with
      | dict rsp' =>
        obtain ⟨rfl, hv⟩ := hverdict h
        exact ⟨rfl, hv⟩
      | _ => cases h

theorem lookup_of_has {key : String} (h : rsp.has key = true) : ∃ v, rsp.lookup key = some v :=
  Option.isSome_iff_exists.mp h

/-- A valid frame that is no logs frame has a text for a command. -/
theorem validateObject_cmd (h : validateObject rsp = .ok .NO_ERR) (hlogs : rsp.has "logs" = false) :
    ∃ cmd, rsp.lookup "cmd" = some (.str cmd) := by
  have hnone : rsp.lookup "logs" = none := by simpa [Dict.has] using hlogs
  simp only [validateObject, hnone, keyOr] at h
  cases hcmd : rsp.lookup "cmd" with
  | none => simp [hcmd] at h
  | some v =>
    cases v with
    | str cmd => exact ⟨cmd, rfl⟩
    | _ =>
      simp only [hcmd, validateData, Json.isStr, Json.eq, Json.number, Bool.false_eq_true,
        if_false, Bool.false_and, Bool.not_false, if_true] at h
      split at h <;> cases h

theorem cmdIs_str {cmd text : String} (hcmd : rsp.lookup "cmd" = some (.str cmd)) :
    cmdIs rsp text = true ↔ cmd = text := by
  simp [cmdIs, hcmd, Json.spells, Json.text]

/-- A valid `readFile` frame has a list for its data. -/
theorem validateObject_readFile (h : validateObject rsp = .ok .NO_ERR)
    (hlogs : rsp.has "logs" = false) (hread : cmdIs rsp "readFile" = true) :
    ∃ content, rsp.lookup "data" = some (.list content) := by
  obtain ⟨cmd, hcmd⟩ := validateObject_cmd h hlogs
  obtain rfl := (cmdIs_str hcmd).mp hread
  have hnone : rsp.lookup "logs" = none := by simpa [Dict.has] using hlogs
  have hfile : validateReadFile rsp = .ok .NO_ERR := by
    simpa [validateObject, hnone, keyOr, hcmd, Json.eq] using h
  simp only [validateReadFile, keyOr] at hfile
  cases hname : rsp.lookup "name" with
  | none => simp [hname] at hfile
  | some name =>
    simp only [hname] at hfile
    split at hfile
    · cases hfile
    · cases hdata : rsp.lookup "data" with
      | none => simp [hdata] at hfile
      | some data =>
        cases data with
        | list content => exact ⟨content, rfl⟩
        | _ => simp [hdata, Json.isList] at hfile

theorem mem_rsps {documents : List Received} {rsps : List Dict}
    (h : List.Forall₂ Accepts documents rsps) (hmem : rsp ∈ rsps) :
    rsp ∈ documents.filterMap Received.rsp ∧ validateObject rsp = .ok .NO_ERR := by
  induction h with
  | nil => cases hmem
  | @cons document rsp' documents rsps hone _ ih =>
    obtain ⟨hrsp, hvalid⟩ := accepts_rsp hone
    rcases List.mem_cons.mp hmem with rfl | hrest
    · exact ⟨List.mem_filterMap.mpr ⟨document, List.mem_cons_self, hrsp⟩, hvalid⟩
    · refine ⟨?_, (ih hrest).2⟩
      obtain ⟨d, hd, hdr⟩ := List.mem_filterMap.mp (ih hrest).1
      exact List.mem_filterMap.mpr ⟨d, List.mem_cons_of_mem _ hd, hdr⟩

/-- Every reply has been received, and it is a valid frame of the command. -/
theorem Answers.reply {cmd type : String} {n : Nat} {reads : List FrameRead} {replies : List Dict}
    (h : Answers cmd type n reads replies) (hmem : rsp ∈ replies) :
    rsp ∈ reads.flatMap FrameRead.rsps ∧ cmdIs rsp cmd = true ∧ rsp.has "logs" = false ∧
      validateObject rsp = .ok .NO_ERR := by
  induction h with
  | now valid noLogs _ =>
    obtain ⟨hin, hreply⟩ := List.mem_filter.mp hmem
    obtain ⟨hrsp, hvalid⟩ := mem_rsps valid hin
    refine ⟨List.mem_flatMap.mpr ⟨_, List.mem_cons_self, hrsp⟩, ?_, noLogs rsp hin, hvalid⟩
    simp only [isReply, isWanted, Bool.and_eq_true] at hreply
    exact hreply.2.1
  | later _ _ _ _ ih =>
    obtain ⟨hin, hrest⟩ := ih hmem
    obtain ⟨read, hread, hrsp⟩ := List.mem_flatMap.mp hin
    exact ⟨List.mem_flatMap.mpr ⟨read, List.mem_cons_of_mem _ hread, hrsp⟩, hrest⟩

end Frames

section Read

variable {available : Bool} {file : String} {reads : List FrameRead} {saved : Saved}
  {reply : FileReply}

theorem fileReply_ok {split : Split} (h : fileReply split = .ok reply)
    (hcode : reply.errCode = .NO_ERR) : ∃ rsp rest err, split.wanted = .frames (rsp :: rest) ∧
      reply.respData = rsp :: rest ∧ reply.fileData = rsp.lookup "data" ∧
      rsp.lookup "err" = some err ∧ err.eq (.int 0) = true := by
  unfold fileReply at h
  split at h
  · cases h
  · cases h; cases hcode
  · rename_i rsp rest hw
    split at h
    · cases h; cases hcode
    · rename_i err herr
      split at h
      · cases h; cases hcode
      · rename_i hzero
        split at h
        · cases h; cases hcode
        · rename_i data hdata
          cases h
          exact ⟨rsp, rest, err, hw, rfl, hdata.symm, herr, by simpa using hzero⟩

/-- A file that is read is the content of the first reply. -/
theorem read1kFile_ok (h : (read1kFile available file reads saved).result = .ok reply)
    (hcode : reply.errCode = .NO_ERR) : file ∈ validFileNames ∧ ∃ rsp rest err,
      Answers "readFile" "" readRetries reads (rsp :: rest) ∧ reply.respData = rsp :: rest ∧
      reply.fileData = rsp.lookup "data" ∧ rsp.lookup "err" = some err ∧
      err.eq (.int 0) = true := by
  unfold read1kFile request at h
  split at h
  · cases h; cases hcode
  · rename_i hname
    split at h
    · cases h; cases hcode
    · rename_i havailable
      have hvalid : file ∈ validFileNames := by
        by_contra hno
        exact hname ⟨by simpa using havailable, hno⟩
      split at h
      · cases h
      · rename_i split saved' hread
        split at h
        · rename_i herr
          cases h
          exact absurd hcode herr
        · rename_i herr
          obtain ⟨rsp, rest, err, hw, hresp, hdata, herr', hzero⟩ := fileReply_ok h hcode
          refine ⟨hvalid, rsp, rest, err, ?_, hresp, hdata, herr', hzero⟩
          exact answers_of_readSignal (by decide) hread (by simpa using herr) hw

/-- The first reply is what a read returns, whatever its name. -/
theorem read1kFile_of_answers {rsp : Dict} {rest : List Dict} {err : Json} (saved : Saved)
    (hfile : file ∈ validFileNames) (h : Answers "readFile" "" readRetries reads (rsp :: rest))
    (herr : rsp.lookup "err" = some err) (hzero : err.eq (.int 0) = true) :
    ∃ reply, (read1kFile true file reads saved).result = .ok reply ∧ reply.errCode = .NO_ERR ∧
      reply.respData = rsp :: rest := by
  obtain ⟨-, hcmd, hlogs, hvalid⟩ := h.reply List.mem_cons_self
  obtain ⟨content, hdata⟩ := validateObject_readFile hvalid hlogs hcmd
  obtain ⟨split, saved', hread, hcode, hw⟩ :=
    readSignal_of_answers saved (by decide) (by decide) h
  refine ⟨⟨rsp :: rest, some (.list content), .NO_ERR⟩, ?_, rfl, rfl⟩
  have hgood : ¬ ((true : Bool) = true ∧ file ∉ validFileNames) := fun hbad => hbad.2 hfile
  rw [read1kFile, if_neg hgood]
  simp only [request, Bool.not_true, Bool.false_eq_true, if_false,
    getSignalFromSerialBuffer, hread, hcode, ne_eq, not_true, fileReply, hw, herr, hzero, hdata]

end Read

section Write

theorem replaceBytes_ok {data data' : List Json} {start : Nat} {bytes : List Nat}
    (h : replaceBytes data start bytes = .ok data') : data'.length = data.length ∧
      (∀ j, (hj : j < bytes.length) → data'[start + j]? = some (.int bytes[j])) ∧
      (∀ i, i < start ∨ start + bytes.length ≤ i → data'[i]? = data[i]?) := by
  induction bytes generalizing data start with
  | nil =>
    cases h
    exact ⟨rfl, fun j hj => by simp at hj, fun _ _ => rfl⟩
  | cons b bytes ih =>
    simp only [replaceBytes] at h
    split at h
    · rename_i hstart
      obtain ⟨hlength, hbytes, hother⟩ := ih h
      refine ⟨by simpa using hlength, fun j hj => ?_, fun i hi => ?_⟩
      · cases j with
        | zero =>
          rw [Nat.add_zero, hother start (.inl (Nat.lt_succ_self start))]
          simp [hstart]
        | succ j =>
          have := hbytes j (by simpa using hj)
          rw [show start + (j + 1) = start + 1 + j by omega]
          simpa using this
      · rw [List.length_cons] at hi
        rw [hother i (by omega), List.getElem?_set_ne (by omega)]
    · cases h

theorem toBytes_ok {size : Nat} {value : Int} {bytes : List Nat}
    (h : toBytes size value = .ok bytes) : bytes.length = size ∧
      ∀ j, (hj : j < bytes.length) → bytes[j] = value.toNat / 256 ^ j % 256 := by
  unfold toBytes at h
  split at h
  · cases h
    exact ⟨by simp, fun j hj => by simp⟩
  · cases h

/-- What is sent back is the data of the first reply, with the bytes of the parameter replaced. -/
theorem overwritten_ok {param value : Int} {reply : FileReply} {data : List Json}
    (h : overwritten param value reply = .ok (some data)) : ∃ rsp rest content,
      reply.respData = rsp :: rest ∧ rsp.lookup "data" = some (.list content) ∧
      Replaced param value content data := by
  unfold overwritten at h
  split at h
  · rename_i rsp rest sig hresp hsig
    split at h
    · cases h
    · rename_i v hdata
      split at h
      · cases h
      · cases hbytes : toBytes sig.byteSize value with
        | error e => simp [hbytes, bind, Except.bind] at h
        | ok bytes =>
          simp only [hbytes, bind, Except.bind] at h
          split at h
          · rename_i content _
            cases hreplace : replaceBytes content sig.byteStart bytes with
            | error e => simp [hreplace, Except.map] at h
            | ok data' =>
              simp only [hreplace, Except.map, Except.ok.injEq, Option.some.injEq] at h
              subst h
              obtain ⟨hlength, hat, hother⟩ := replaceBytes_ok hreplace
              obtain ⟨hsize, hvalue⟩ := toBytes_ok hbytes
              refine ⟨rsp, rest, content, hresp, hdata, hlength, sig, hsig, fun j hj => ?_,
                fun i hi => ?_⟩
              · have hj' : j < bytes.length := by omega
                rw [hat j hj', hvalue j hj']
              · exact hother i (by omega)
          · split at h <;> cases h
  · cases h
  · cases h

theorem request_sent {α : Type} {available : Bool} {message m : Message} {cmd : String}
    {reads : List FrameRead} {saved : Saved} {refused : Rs232Code → α}
    {answered : Split → Except PyError α}
    (h : m ∈ (request available message cmd reads saved refused answered).sent) : m = message := by
  unfold request at h
  split at h
  · simp at h
  · split at h
    · simpa using h
    · split at h <;> simpa using h

variable {h : Handler} {param value : Int} {reads replies : List FrameRead} {name : String}
  {data : List Json}

theorem writeFileParam_sent
    (hsent : Message.writeFile name data ∈ (writeFileParam h param value reads replies).sent) :
    name = getFileForParam param ∧ ∃ reply,
      (read1kFile h.available (getFileForParam param) reads h.saved).result = .ok reply ∧
      reply.errCode = .NO_ERR ∧ overwritten param value reply = .ok (some data) := by
  have hread : Message.writeFile name data ∉
      (read1kFile h.available (getFileForParam param) reads h.saved).sent := by
    intro hmem
    unfold read1kFile at hmem
    split at hmem
    · simp at hmem
    · cases request_sent hmem
  unfold writeFileParam at hsent
  simp only at hsent
  split at hsent
  · simp at hsent
  split at hsent
  · simp at hsent
  split at hsent
  · exact absurd hsent hread
  · rename_i reply hreply
    split at hsent
    · exact absurd hsent hread
    · rename_i hcode
      split at hsent
      · exact absurd hsent hread
      · exact absurd hsent hread
      · rename_i data' hdata
        rcases List.mem_append.mp hsent with hmem | hmem
        · exact absurd hmem hread
        · unfold write1kFile at hmem
          split at hmem
          · simp at hmem
          · cases request_sent hmem
            exact ⟨rfl, reply, hreply, by simpa using hcode, hdata⟩

variable {valueStr : String} {message : Message}

/-- What a write may send, by its branch. -/
inductive WriteSends (h : Handler) (param value : Int) (valueStr : String)
    (reads replies : List FrameRead) : Message → Prop
  | childLock (isParam : param = childLockParam) :
      WriteSends h param value valueStr reads replies
        (.childLock (if value = 0 then "off" else "on"))
  | floorLock (isParam : param = floorLock.param) (range : 0 ≤ value ∧ value ≤ 63) :
      WriteSends h param value valueStr reads replies (.floorLock (lockedFloors value))
  | oilLevel (isParam : param = oilLevelParam) (range : 0 ≤ value ∧ value ≤ 100) :
      WriteSends h param value valueStr reads replies (.oilLevel valueStr)
  | file {message : Message} (notChildLock : param ≠ childLockParam)
      (notFloorLock : param ≠ ThousandLib.floorLock.param)
      (sent : message ∈ (writeFileParam h param value reads replies).sent) :
      WriteSends h param value valueStr reads replies message

theorem writeFloorLock_sent (hsent : message ∈ (writeFloorLock h value reads).sent) :
    (0 ≤ value ∧ value ≤ 63) ∧ message = .floorLock (lockedFloors value) := by
  unfold writeFloorLock at hsent
  split at hsent
  · simp at hsent
  · rename_i hrange
    refine ⟨by omega, ?_⟩
    simp only at hsent
    split at hsent
    · simp at hsent
    · split at hsent
      · simp at hsent
      · split at hsent
        · simp at hsent
        · exact request_sent hsent

theorem writeDispatch_sends
    (hsent : message ∈ (writeDispatch h param value valueStr reads replies).sent) :
    WriteSends h param value valueStr reads replies message := by
  unfold writeDispatch at hsent
  split at hsent
  · rename_i hparam
    rw [request_sent hsent]
    exact .childLock hparam
  · rename_i hchild
    split at hsent
    · rename_i hparam
      obtain ⟨hrange, rfl⟩ := writeFloorLock_sent hsent
      exact .floorLock hparam hrange
    · rename_i hfloor
      split at hsent
      · rename_i hparam
        split at hsent
        · simp at hsent
        · rename_i hrange
          rw [request_sent hsent]
          exact .oilLevel hparam (by omega)
      · exact .file hchild hfloor hsent

/-- Only the file branch sends a file. -/
theorem writeParameter_sent {paramStr valueStr : String}
    (hparam : PyNumber.int paramStr = some param) (hvalue : PyNumber.int valueStr = some value)
    (hsent : Message.writeFile name data ∈
      (writeParameter h paramStr valueStr reads replies).1.sent) :
    Message.writeFile name data ∈ (writeFileParam h param value reads replies).sent := by
  have hdispatch : Message.writeFile name data ∈
      (writeDispatch h param value valueStr reads replies).sent := by
    simp only [writeParameter, hparam, hvalue] at hsent
    split at hsent
    · simp at hsent
    · split at hsent <;> exact hsent
  cases writeDispatch_sends hdispatch with
  | file _ _ hfile => exact hfile

end Write

section Claim

variable {file : String} {reads : List FrameRead}

theorem AnsweredInName.frame (h : AnsweredInName file reads) {available : Bool} {saved : Saved}
    {reply : FileReply} (hread : (read1kFile available file reads saved).result = .ok reply)
    (hcode : reply.errCode = .NO_ERR) : ∃ rsp rest, reply.respData = rsp :: rest ∧
      reply.fileData = rsp.lookup "data" ∧ FileFrame file reads rsp := by
  obtain ⟨hfile, rsp, rest, err, hanswer, hresp, hdata, herr, hzero⟩ := read1kFile_ok hread hcode
  obtain ⟨hreceived, hcmd, -, -⟩ := hanswer.reply List.mem_cons_self
  exact ⟨rsp, rest, hresp, hdata, hreceived, hcmd, h hfile rsp rest err hanswer herr hzero⟩

/-- A file's content, read or sent back, is its own exactly when the first reply in the stream has
its name. -/
theorem provenance_iff (file : String) (reads : List FrameRead) :
    Provenance file reads ↔ AnsweredInName file reads := by
  constructor
  · intro h hfile rsp rest err hanswer herr hzero
    obtain ⟨reply, hread, hcode, hresp⟩ :=
      read1kFile_of_answers ⟨[], []⟩ hfile hanswer herr hzero
    obtain ⟨rsp', rest', hresp', -, hframe⟩ := h.read true _ reply hread hcode
    rw [hresp] at hresp'
    cases hresp'
    exact hframe.name
  · intro h
    constructor
    · intro available saved reply hread hcode
      exact h.frame hread hcode
    · rintro hd paramStr valueStr replies param value hparam hvalue rfl name data hsent
      obtain ⟨hname, reply, hread, hcode, hdata⟩ :=
        writeFileParam_sent (writeParameter_sent hparam hvalue hsent)
      obtain ⟨rsp, rest, hresp, -, hframe⟩ := h.frame hread hcode
      obtain ⟨rsp', rest', content, hresp', hcontent, hreplaced⟩ := overwritten_ok hdata
      rw [hresp] at hresp'
      cases hresp'
      exact ⟨hname, rsp, content, hframe, hcontent, hreplaced⟩

/-- The reply to an earlier request, which had timed out, and no other frame. -/
def lateReply : List FrameRead :=
  [.text (some [.object [("cmd", .str "readFile"), ("name", .str "/aritco/param"),
    ("data", .list [.int 1, .int 0]), ("err", .int 0)]])]

/-- The content of `/aritco/param` is taken for the one of `/aritco/node`. -/
theorem not_always_provenance : ¬ ∀ file reads, Provenance file reads := by
  intro hall
  obtain ⟨reply, hread, hcode⟩ : ∃ reply : FileReply,
      (read1kFile true "/aritco/node" lateReply ⟨[], []⟩).result = .ok reply ∧
        reply.errCode = .NO_ERR := ⟨_, rfl, rfl⟩
  obtain ⟨rsp, rest, hresp, -, hframe⟩ := (hall "/aritco/node" lateReply).read true _ _ hread hcode
  have hmem := hframe.received
  simp only [lateReply, List.flatMap_cons, List.flatMap_nil, FrameRead.rsps, List.filterMap_cons,
    List.filterMap_nil, Received.rsp, List.append_nil, List.mem_singleton] at hmem
  have hname := hframe.name
  subst hmem
  exact absurd hname (by simp [List.lookup_cons])

end Claim

end NexyGateway.Rs232Handler
