import NexyGateway.Rs232Frames
import NexyGateway.ThousandLib

/-!
# Files and writes of the 1k lift

`Rs232Handler` from `read_1k_file` to `write_parameter`: a parameter of a file is written
by reading the file, replacing the parameter's bytes and sending the file back.
-/
namespace NexyGateway.Rs232Handler

open PyNumber PyJson ThousandLib

structure Handler where
  lib : Lib
  saved : Saved
  /-- Which of the five file packages is next. -/
  polledFilePackage : Fin 5
  /-- The port has been opened; then it takes every write. -/
  available : Bool

/-- A request on the serial bus. -/
inductive Message where
  | readFile (name : String)
  | writeFile (name : String) (data : List Json)
  | childLock (data : String)
  | floorLock (floors : List Int)
  | oilLevel (data : String)

/-- What `read_1k_file` returns: the response, the data in it, and a code. -/
structure FileReply where
  respData : List Dict
  fileData : Option Json
  errCode : Rs232Code

/-- What a request has come to: its value or its exception, with the state it leaves. -/
structure Outcome (α : Type) where
  result : Except PyError α
  saved : Saved
  sent : List Message

/-- A request and the frames that are read after it. Without a port it is neither sent nor
answered. -/
def request {α : Type} (available : Bool) (message : Message) (cmd : String)
    (reads : List FrameRead) (saved : Saved) (refused : Rs232Code → α)
    (answered : Split → Except PyError α) : Outcome α :=
  if !available then ⟨.ok (refused .SERIAL_COM_ERR), saved, []⟩
  else
    match getSignalFromSerialBuffer cmd "" reads saved with
    | (.error e, saved') => ⟨.error e, saved', [message]⟩
    | (.ok split, saved') =>
      if split.errCode ≠ .NO_ERR then ⟨.ok (refused split.errCode), saved', [message]⟩
      else ⟨answered split, saved', [message]⟩

/-- The first frame answers; a logs frame has no first one, its `[0]` is a `KeyError`. -/
def fileReply (split : Split) : Except PyError FileReply :=
  match split.wanted with
  | .logs _ => .error .keyError
  | .frames [] => .ok ⟨[], none, .LIST_INDEX_ERR⟩
  | .frames (rsp :: rest) =>
    match rsp.lookup "err" with
    | none => .ok ⟨rsp :: rest, none, .JSON_KEY_ERR⟩
    | some err =>
      if !err.eq (.int 0) then .ok ⟨rsp :: rest, none, .DATA_ERR⟩
      else
        match rsp.lookup "data" with
        | none => .ok ⟨rsp :: rest, none, .JSON_KEY_ERR⟩
        | some data => .ok ⟨rsp :: rest, some data, .NO_ERR⟩

def read1kFile (available : Bool) (fileName : String) (reads : List FrameRead) (saved : Saved) :
    Outcome FileReply :=
  if available ∧ fileName ∉ validFileNames then ⟨.ok ⟨[], none, .FILE_NAME_ERR⟩, saved, []⟩
  else
    request available (.readFile fileName) "readFile" reads saved
      (fun code => ⟨[], none, code⟩) fileReply

/-- The error code of a `writeFile` reply. -/
def writeReply (split : Split) : Except PyError Rs232Code :=
  match split.wanted with
  | .logs _ => .error .keyError
  | .frames [] => .error .indexError
  | .frames (rsp :: _) =>
    match rsp.lookup "err" with
    | none => .error .keyError
    | some err => .ok (if err.eq (.int 0) then .NO_ERR else .DATA_ERR)

def write1kFile (available : Bool) (fileName : String) (data : List Json)
    (reads : List FrameRead) (saved : Saved) : Outcome Rs232Code :=
  if available ∧ fileName ∉ validFileNames then ⟨.ok .FILE_NAME_ERR, saved, []⟩
  else request available (.writeFile fileName data) "writeFile" reads saved id writeReply

/-- The field `data` of the first reply; anything else is caught. -/
def firstData (split : Split) : Option Json :=
  match split.wanted with
  | .frames (rsp :: _) => rsp.lookup "data"
  | _ => none

def setChildLock (available : Bool) (data : String) (reads : List FrameRead) (saved : Saved) :
    Outcome Rs232Code :=
  request available (.childLock data) "childLock" reads saved id fun split =>
    match firstData split with
    | none => .ok .DATA_ERR
    | some (.str response) => .ok (if data = response then .NO_ERR else .DATA_ERR)
    | some _ => .ok .DATA_TYPE_ERR

/-- A list is written as the text of these numbers only if they are its elements. -/
def spellsFloors (floors : List Int) (items : List Json) : Bool :=
  items.length = floors.length &&
    (items.zip floors).all (fun pair =>
      match pair.1 with
      | .int n => n = pair.2
      | _ => false)

def setFloorLock (available : Bool) (floors : List Int) (reads : List FrameRead)
    (saved : Saved) : Outcome Rs232Code :=
  request available (.floorLock floors) "floorLock" reads saved id fun split =>
    match firstData split with
    | none => .ok .DATA_ERR
    | some (.list items) => .ok (if spellsFloors floors items then .NO_ERR else .FLOOR_LOCK_ERR)
    | some _ => .ok .DATA_TYPE_ERR

/-- The reply is compared with the level before the write. -/
def setOilLevel (available : Bool) (data : String) (previous : Json) (reads : List FrameRead)
    (saved : Saved) : Outcome Rs232Code :=
  request available (.oilLevel data) "oilLevel" reads saved id fun split =>
    match firstData split, previous.text with
    | some response, some text => .ok (if response.spells text then .NO_ERR else .DATA_ERR)
    | _, _ => .ok .DATA_ERR

/-- `value.to_bytes(size, "little", signed=False)`. -/
def toBytes (size : Nat) (value : Int) : Except PyError (List Nat) :=
  if 0 ≤ value ∧ value < 256 ^ size then
    .ok ((List.range size).map (fun i => value.toNat / 256 ^ i % 256))
  else .error .overflowError

/-- The bytes take the places from `start` on, which have to be there. -/
def replaceBytes (data : List Json) : Nat → List Nat → Except PyError (List Json)
  | _, [] => .ok data
  | start, b :: bytes =>
    if start < data.length then replaceBytes (data.set start (.int b)) (start + 1) bytes
    else .error .indexError

def lockedFloors (value : Int) : List Int :=
  ((List.range 6).filter (fun bit => value.toNat.testBit bit)).map (fun bit : Nat => (bit : Int) + 1)

def signalOf (param : Int) : Option Signal :=
  (fileParams.flatMap (fun file => file.2)).find? (fun sig => sig.param = param)

/-- The file branch of `write_parameter`, up to the data that is sent back. -/
def overwritten (param value : Int) (reply : FileReply) : Except PyError (Option (List Json)) :=
  match reply.respData, signalOf param with
  | rsp :: _, some sig =>
    match rsp.lookup "data" with
    | none => .ok none
    | some data =>
      if !data.truthy then .ok none
      else do
        let bytes ← toBytes sig.byteSize value
        match data with
        | .list items => (replaceBytes items sig.byteStart bytes).map some
        -- what is no list is still indexed before the assignment to it fails
        | data => (data.item sig.byteStart).bind (fun _ => .error .typeError)
  | [], _ => .error .indexError
  | _, none => .error .keyError

def writeFileParam (h : Handler) (param value : Int) (reads replies : List FrameRead) :
    Outcome Rs232Code :=
  let file := getFileForParam param
  if (getParam param h.lib).2 ≠ .NO_ERR then
    ⟨.ok .WRITE_PARAM_NOT_SUPPORTED_BY_1K, h.saved, []⟩
  else if file = "" then ⟨.ok .WRITE_PARAM_NOT_IN_FILES, h.saved, []⟩
  else
    let read := read1kFile h.available file reads h.saved
    match read.result with
    | .error e => { read with result := .error e }
    | .ok reply =>
      if reply.errCode ≠ .NO_ERR then { read with result := .ok reply.errCode }
      else
        match overwritten param value reply with
        | .error e => { read with result := .error e }
        | .ok none => { read with result := .ok .DATA_ERR }
        | .ok (some data) =>
          let write := write1kFile h.available file data replies read.saved
          { write with sent := read.sent ++ write.sent }

def childLockParam : Int := 145
def oilLevelParam : Int := 10
def fireFloorParam : Int := 102

def writeFloorLock (h : Handler) (value : Int) (reads : List FrameRead) : Outcome Rs232Code :=
  if value < 0 ∨ 63 < value then ⟨.ok .DATA_ERR, h.saved, []⟩
  else
    let (fireFloor, error) := getParam fireFloorParam h.lib
    if error ≠ .NO_ERR then ⟨.ok error, h.saved, []⟩
    else
      match fireFloor.toInt with
      | .error e => ⟨.error e, h.saved, []⟩
      | .ok floor =>
        if floor ∈ lockedFloors value then ⟨.ok .FLOOR_LOCK_ERR, h.saved, []⟩
        else setFloorLock h.available (lockedFloors value) reads h.saved

/-- The branches of `write_parameter` behind the check of the present value. -/
def writeDispatch (h : Handler) (param value : Int) (valueStr : String)
    (reads replies : List FrameRead) : Outcome Rs232Code :=
  if param = childLockParam then
    setChildLock h.available (if value = 0 then "off" else "on") reads h.saved
  else if param = floorLock.param then writeFloorLock h value reads
  else if param = oilLevelParam then
    if value < 0 ∨ 100 < value then ⟨.ok .DATA_ERR, h.saved, []⟩
    else setOilLevel h.available valueStr (getParam param h.lib).1 reads h.saved
  else writeFileParam h param value reads replies

/-- `write_parameter`: the code, and the value that the database has afterwards. -/
def writeParameter (h : Handler) (paramStr valueStr : String) (reads replies : List FrameRead) :
    Outcome Rs232Code × Handler :=
  match PyNumber.int paramStr, PyNumber.int valueStr with
  | some param, some value =>
    let (current, code) := getParam param h.lib
    if code = .NO_ERR ∧ current.eq (.str valueStr) then (⟨.ok .NO_ERR, h.saved, []⟩, h)
    else
      let out := writeDispatch h param value valueStr reads replies
      match out.result with
      | .ok .NO_ERR =>
        (out, { h with lib := h.lib.set param (.str valueStr), saved := out.saved })
      | _ => (out, { h with saved := out.saved })
  | _, _ => (⟨.ok .ARGS_IN_ELEM_INT_ERR, h.saved, []⟩, h)

end NexyGateway.Rs232Handler
