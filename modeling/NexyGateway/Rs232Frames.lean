import NexyGateway.ErrorSignals
import NexyGateway.PyJson

/-!
# Frames of the 1k lift

What `Rs232Handler` does with the text of a read: the frames are validated up to the
first bad one, notifications are put aside for the next poll, and the frames of the
command that was asked for are collected. A request reads up to five times.
-/
namespace NexyGateway.Rs232Handler

open PyNumber PyJson

/-- A document of the stream. A bare string is decoded once more by the validation, and only
what it then holds matters. -/
inductive Received where
  | object (members : Dict)
  | quoted (content : Option Json)
  | other

/-- A call of `read_serial`: an error code, or a text with its documents (`none` when the
text does not decode). -/
inductive FrameRead where
  | failed (errCode : Rs232Code) (isError : errCode ≠ .NO_ERR)
  | text (documents : Option (List Received))

theorem decode_error : Rs232Code.SERIAL_DECODE_ERR ≠ .NO_ERR := by decide

def validFileNames : List String :=
  ["/aritco/param", "/aritco/intern", "/aritco/node", "/aritco/lock", "/aritco/door"]

def statusType : String := "130"

def doorClosingTimeType : String := "135"

def maxSavedVfdResults : Nat := 50

/-- `rsp_json[key]`, with the `KeyError` that the validation catches. -/
def keyOr (rsp : Dict) (key : String) (check : Json → Except PyError Rs232Code) :
    Except PyError Rs232Code :=
  match rsp.lookup key with
  | none => .ok .JSON_KEY_ERR
  | some v => check v

def namesFile (name : Json) : Bool := validFileNames.any (fun file => name.eq (.str file))

def isOneOf (codes : List Int) (v : Json) : Bool := codes.any (fun n => v.eq (.int n))

def validateReadFile (rsp : Dict) : Except PyError Rs232Code :=
  keyOr rsp "name" fun name =>
    if !namesFile name then .ok .DATA_TYPE_ERR
    else
      match rsp.lookup "data" with
      | none => .ok .JSON_VALUE_TYPE_ERR
      | some data =>
        if !data.isList then .ok .JSON_ERR
        else if !rsp.has "err" then .ok .JSON_KEY_ERR
        else .ok .NO_ERR

def validateWriteFile (rsp : Dict) : Except PyError Rs232Code :=
  keyOr rsp "name" fun name =>
    if !namesFile name then .ok .DATA_TYPE_ERR
    else if !rsp.has "err" then .ok .JSON_KEY_ERR
    else .ok .NO_ERR

def validateVfdId (rsp : Dict) : Except PyError Rs232Code :=
  if rsp.length ≠ 3 then .ok .ARGS_IN_LEN_ERR
  else
    keyOr rsp "data" fun data =>
      if !data.isStr then .ok .DATA_TYPE_ERR
      else
        keyOr rsp "error" fun error =>
          if isOneOf [0, 1, 2] error then .ok .NO_ERR else .ok .DATA_ERR

def validateVfdRead (rsp : Dict) : Except PyError Rs232Code :=
  if rsp.length ≠ 3 then .ok .ARGS_IN_LEN_ERR
  else if !rsp.has "id" then .ok .JSON_KEY_ERR
  else
    keyOr rsp "error" fun error =>
      if isOneOf [0, 1] error then .ok .NO_ERR else .ok .DATA_ERR

/-- An id that is not a number raises: only `KeyError` is caught. -/
def validateVfdResult (rsp : Dict) : Except PyError Rs232Code :=
  if rsp.length ≠ 4 then .ok .ARGS_IN_LEN_ERR
  else
    keyOr rsp "id" fun id =>
      match id.between 0 7 with
      | .error e => .error e
      | .ok false => .ok .VFD_ID_ERR
      | .ok true => if rsp.has "timestamp" then .ok .NO_ERR else .ok .JSON_KEY_ERR

def validateData (rsp : Dict) (cmd : Json) : Except PyError Rs232Code :=
  if !rsp.has "data" then .ok .JSON_KEY_ERR
  else if cmd.eq (.str "operation") && !rsp.has "type" then .ok .JSON_KEY_ERR
  else if !cmd.isStr then .ok .JSON_VALUE_TYPE_ERR
  else .ok .NO_ERR

def validateObject (rsp : Dict) : Except PyError Rs232Code :=
  match rsp.lookup "logs" with
  | some logs => if logs.isList then .ok .NO_ERR else .ok .JSON_VALUE_TYPE_ERR
  | none =>
    keyOr rsp "cmd" fun cmd =>
      if cmd.eq (.str "time") then
        keyOr rsp "updated" fun updated =>
          if updated.isStr then .ok .NO_ERR else .ok .JSON_VALUE_TYPE_ERR
      else if cmd.eq (.str "readFile") then validateReadFile rsp
      else if cmd.eq (.str "writeFile") then validateWriteFile rsp
      else if cmd.eq (.str "vfdClearTable") then
        if rsp.length ≠ 1 then .ok .ARGS_IN_LEN_ERR else .ok .NO_ERR
      else if cmd.eq (.str "vfdId") then validateVfdId rsp
      else if cmd.eq (.str "vfdRead") then validateVfdRead rsp
      else if cmd.eq (.str "vfdResult") then validateVfdResult rsp
      else validateData rsp cmd

def verdict (rsp : Dict) (code : Rs232Code) : Except Rs232Code Dict :=
  if code = .NO_ERR then .ok rsp else .error code

/-- `__decode_and_validate_serial_response`: an error code, or the object that passed. -/
def decodeAndValidate : Received → Except PyError (Except Rs232Code Dict)
  | .object rsp => (validateObject rsp).map (verdict rsp)
  | .quoted none => .ok (.error .JSON_ERR)
  | .quoted (some (.dict rsp)) => (validateObject rsp).map (verdict rsp)
  | .quoted (some _) => .ok (.error .JSON_ERR)
  | .other => .ok (.error .SERIAL_COM_ERR)

/-- The frames before the first bad one, and its code. -/
def validateAll : List Received → Except PyError (List Dict × Rs232Code)
  | [] => .ok ([], .NO_ERR)
  | document :: rest =>
    match decodeAndValidate document with
    | .error e => .error e
    | .ok (.error code) => .ok ([], code)
    | .ok (.ok rsp) => (validateAll rest).map (fun r => (rsp :: r.1, r.2))

/-- Notifications that wait for the next poll; the queue of VFD results is capped. -/
structure Saved where
  operation : List Dict
  vfdResult : List Dict

def Saved.pushOperation (rsp : Dict) (saved : Saved) : Saved :=
  { saved with operation := saved.operation ++ [rsp] }

def Saved.pushVfdResult (rsp : Dict) (saved : Saved) : Saved :=
  { saved with
    vfdResult := (saved.vfdResult ++ [rsp]).drop (saved.vfdResult.length + 1 - maxSavedVfdResults) }

/-- `rsp_wanted`: a list, until a logs frame is assigned to it. -/
inductive Wanted where
  | frames (rsps : List Dict)
  | logs (rsp : Dict)

/-- The parts of a response. No request uses what else came in. -/
structure Split where
  status : List Dict
  wanted : Wanted
  other : List Dict
  errCode : Rs232Code

def Split.empty (errCode : Rs232Code) : Split := ⟨[], .frames [], [], errCode⟩

@[simp] theorem empty_wanted (code : Rs232Code) : (Split.empty code).wanted = .frames [] := rfl
@[simp] theorem empty_errCode (code : Rs232Code) : (Split.empty code).errCode = code := rfl

def typeIs (rsp : Dict) (text : String) : Bool :=
  match rsp.lookup "type" with
  | some v => v.spells text
  | none => false

def cmdIs (rsp : Dict) (text : String) : Bool :=
  match rsp.lookup "cmd" with
  | some v => v.spells text
  | none => false

/-- The frame carries the command, and the type if it has one. -/
def isWanted (cmd type : String) (rsp : Dict) : Bool :=
  cmdIs rsp cmd && ((type ≠ "" && typeIs rsp type) || !rsp.has "type")

/-- Where a frame goes. A list is no longer there to append to after a logs frame. -/
def sortFrame (cmd type : String) (rsp : Dict) (split : Split) (saved : Saved) :
    Except PyError Split × Saved :=
  if rsp.has "logs" then (.ok { split with wanted := .logs rsp }, saved)
  else if cmdIs rsp "vfdResult" then (.ok split, saved.pushVfdResult rsp)
  else if cmdIs rsp "operation" && typeIs rsp statusType then
    (.ok { split with status := split.status ++ [rsp] }, saved)
  else if cmdIs rsp "operation" && typeIs rsp doorClosingTimeType then
    (.ok split, saved.pushOperation rsp)
  else if isWanted cmd type rsp then
    match split.wanted with
    | .frames rsps => (.ok { split with wanted := .frames (rsps ++ [rsp]) }, saved)
    | .logs _ => (.error .attributeError, saved)
  else (.ok { split with other := split.other ++ [rsp] }, saved)

def sortFrames (cmd type : String) : List Dict → Split → Saved → Except PyError Split × Saved
  | [], split, saved => (.ok split, saved)
  | rsp :: rest, split, saved =>
    match sortFrame cmd type rsp split saved with
    | (.error e, saved') => (.error e, saved')
    | (.ok split', saved') => sortFrames cmd type rest split' saved'

/-- `__split_response`. -/
def splitResponse (cmd type : String) (documents : Option (List Received)) (saved : Saved) :
    Except PyError Split × Saved :=
  if cmd = "operation" ∧ type = "" then (.ok (.empty .ARG_TYPE_ERR), saved)
  else
    match documents with
    | none => (.ok (.empty .ARG_TYPE_ERR), saved)
    | some documents =>
      match validateAll documents with
      | .error e => (.error e, saved)
      | .ok (rsps, code) => sortFrames cmd type rsps (.empty code) saved

def Wanted.isEmpty : Wanted → Bool
  | .frames rsps => rsps.isEmpty
  | .logs _ => false

/-- A response without the part that is waited for. -/
def Split.isPending (type : String) (split : Split) : Bool :=
  if type = statusType then split.status.isEmpty else split.wanted.isEmpty

def readRetries : Nat := 5

/-- The loop of `get_signal_from_serial_buffer`. Nothing comes in after the reads of the list. -/
def readSignal (cmd type : String) : Nat → List FrameRead → Saved → Except PyError Split × Saved
  | 0, _, saved =>
    (.ok (.empty (if cmd = "getOpenCount" then .PARTIAL_ERR else .SERIAL_COM_ERR)), saved)
  | _ + 1, [], saved => (.ok (.empty .NO_WAITING_BYTES_ERR), saved)
  | _ + 1, .failed code _ :: _, saved => (.ok (.empty code), saved)
  | n + 1, .text documents :: reads, saved =>
    match splitResponse cmd type documents saved with
    | (.error e, saved') => (.error e, saved')
    | (.ok split, saved') =>
      if split.errCode = .NO_ERR ∧ split.isPending type then readSignal cmd type n reads saved'
      else (.ok split, saved')

def getSignalFromSerialBuffer (cmd type : String) (reads : List FrameRead) (saved : Saved) :
    Except PyError Split × Saved :=
  readSignal cmd type readRetries reads saved

end NexyGateway.Rs232Handler
