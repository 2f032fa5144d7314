import NexyGateway.NumberText
import NexyGateway.PollLift
import NexyGateway.PyRepr

/-!
# Messages to the lift

`Rs232Handler.write_serial`: the arguments are checked, and the message is put together from
them as a text. The texts of the arguments are put in as they are.
-/
namespace NexyGateway.Rs232Handler

open PyNumber PyJson PyDecoder PyRepr ThousandLib

inductive Command where
  | operation | liftRef1 | liftRef2 | liftName | version | oilLevel | logfile | time | readFile
  | writeFile | childLock | floorLock | vfdClearTable | vfdId | vfdRead | getOpenCount
  deriving DecidableEq, Repr

def Command.text : Command → String
  | .operation => "operation"
  | .liftRef1 => "liftRef1"
  | .liftRef2 => "liftRef2"
  | .liftName => "liftName"
  | .version => "version"
  | .oilLevel => "oilLevel"
  | .logfile => "logfile"
  | .time => "time"
  | .readFile => "readFile"
  | .writeFile => "writeFile"
  | .childLock => "childLock"
  | .floorLock => "floorLock"
  | .vfdClearTable => "vfdClearTable"
  | .vfdId => "vfdId"
  | .vfdRead => "vfdRead"
  | .getOpenCount => "getOpenCount"

def supportedCmds : List Command :=
  [.operation, .liftRef1, .liftRef2, .liftName, .version, .oilLevel, .logfile, .time, .readFile,
    .writeFile, .childLock, .floorLock, .vfdClearTable, .vfdId, .vfdRead, .getOpenCount]

section Validation

/-- What a request is put together from. What a command does not have is the empty text. -/
structure Inputs where
  cmd : Command
  operationType : Json := .str ""
  data : Json := .str ""
  fileName : Json := .str ""
  id : Json := .str ""
  interval : Json := .str ""

/-- What is returned for arguments that are not accepted: the command if it is one, the texts of
the identifier and the interval if they have been read, and `-1` for the rest. -/
structure Refusal where
  cmd : Option Command
  errCode : Rs232Code
  id : Json := minusOne
  interval : Json := minusOne

abbrev Validated := Except PyError (Except Refusal Inputs)

def accept (i : Inputs) : Validated := .ok (.ok i)

def refuse (cmd : Option Command) (code : Rs232Code) : Validated :=
  .ok (.error ⟨cmd, code, minusOne, minusOne⟩)

/-- A command without arguments. -/
def bareInputs (cmd : Command) : List String → Validated
  | [] => accept { cmd := cmd }
  | _ => refuse cmd .ARGS_IN_LEN_ERR

/-- A command that writes its argument, and reads without one. -/
def optionalInputs (cmd : Command) : List String → Validated
  | [] => accept { cmd := cmd }
  | [data] => accept { cmd := cmd, data := .str data }
  | _ => refuse cmd .ARGS_IN_LEN_ERR

/-- A command with one argument, which has to be one of its values. -/
def dataInputs (cmd : Command) (valid : String → Bool) : List String → Validated
  | [data] => if valid data then accept { cmd := cmd, data := .str data } else refuse cmd .DATA_ERR
  | _ => refuse cmd .ARGS_IN_LEN_ERR

/-- A number of log entries; zero stands for the default of the firmware. -/
def isLogLength (data : String) : Bool :=
  match PyNumber.int data with
  | none => false
  | some n => 0 ≤ n && n ≤ 64

def operationInputs : List String → Validated
  | [type] => operation type ""
  | [type, data] => operation type data
  | _ => refuse (some .operation) .ARGS_IN_LEN_ERR
where
  operation (type data : String) : Validated :=
    match PyNumber.int type with
    | none => refuse (some .operation) .ARGS_IN_ELEM_INT_ERR
    | some _ => accept { cmd := .operation, operationType := .str type, data := .str data }

def readFileInputs : List String → Validated
  | [name] =>
    if name ∈ validFileNames then accept { cmd := .readFile, fileName := .str name }
    else refuse (some .readFile) .FILE_NAME_ERR
  | _ => refuse (some .readFile) .ARGS_IN_LEN_ERR

/-- The data is a list in a document of its own. -/
def writeFileInputs : List String → Validated
  | [name, document] =>
    if name ∈ validFileNames then
      match loads document with
      | .error .jsonDecodeError => refuse (some .writeFile) .JSON_ERR
      | .error .valueError => .error .valueError
      | .ok (.dict request) =>
        match request.lookup "data" with
        | none => refuse (some .writeFile) .JSON_KEY_ERR
        | some (.list items) =>
          accept { cmd := .writeFile, operationType := minusOne, data := .list items,
                   fileName := .str name }
        | some _ => refuse (some .writeFile) .JSON_VALUE_TYPE_ERR
      | .ok _ => .error .typeError
    else refuse (some .writeFile) .FILE_NAME_ERR
  | _ => refuse (some .writeFile) .ARGS_IN_LEN_ERR

def vfdReadInputs : List String → Validated
  | [id, data, interval] =>
    match PyNumber.int id, PyNumber.int interval with
    | some n, some k =>
      if 0 ≤ n ∧ n ≤ 7 then
        accept { cmd := .vfdRead, data := .str data, id := .int n, interval := .int k }
      else .ok (.error ⟨some .vfdRead, .VFD_ID_ERR, .int n, minusOne⟩)
    | _, _ => .ok (.error ⟨some .vfdRead, .ARGS_IN_ELEM_INT_ERR, .str id, .str interval⟩)
  | _ => refuse (some .vfdRead) .ARGS_IN_LEN_ERR

def commandInputs : Command → List String → Validated
  | .operation => operationInputs
  | .liftRef1 => optionalInputs .liftRef1
  | .liftRef2 => optionalInputs .liftRef2
  | .liftName => optionalInputs .liftName
  | .version => bareInputs .version
  | .getOpenCount => bareInputs .getOpenCount
  | .time => dataInputs .time (fun _ => true)
  | .oilLevel => optionalInputs .oilLevel
  | .logfile => dataInputs .logfile isLogLength
  | .readFile => readFileInputs
  | .writeFile => writeFileInputs
  | .childLock => dataInputs .childLock (fun data => data = "on" || data = "off")
  | .floorLock => dataInputs .floorLock (fun _ => true)
  | .vfdClearTable => bareInputs .vfdClearTable
  | .vfdId => dataInputs .vfdId (fun _ => true)
  | .vfdRead => vfdReadInputs

def string? : Json → Option String
  | .str s => some s
  | _ => none

/-- `__validate_serial_inputs`. -/
def validateSerialInputs : Json → Validated
  | .list args =>
    match args.mapM string? with
    | none => refuse none .ARGS_IN_ELEM_ATTR_ERR
    | some [] => .error .indexError
    | some (cmd :: rest) =>
      match supportedCmds.find? (fun c => c.text = cmd) with
      | none => refuse none .CMD_NOT_SUPPORTED
      | some cmd => commandInputs cmd rest
  | _ => refuse none .ARG_TYPE_ERR

end Validation

section Message

def logfileLengthVersionLimits : (Int × Int) × (Int × Int) := ((4, 7), (1, 3))

/-- The number of log entries is only sent to a lift that knows it. -/
def logfileMessage (r : Rendering) (lib : Lib) (i : Inputs) : Except PyError (String × Json) :=
  (checkIfAboveOrEqualToVersions logfileLengthVersionLimits lib).map fun current =>
    if current then
      ("\x7b\"cmd\":\"" ++ i.cmd.text ++ "\",\"data\":\"" ++ format r i.data ++ "\"\x7d", i.data)
    else ("\x7b\"cmd\":\"" ++ i.cmd.text ++ "\"\x7d", .str "0")

/-- The message, and the data that is returned with it. -/
def message (r : Rendering) (lib : Lib) (i : Inputs) : Except PyError (String × Json) :=
  match i.cmd with
  | .operation =>
    if i.data.truthy then
      .ok ("\x7b\"cmd\":\"" ++ i.cmd.text ++ "\",\"type\":" ++ format r i.operationType ++
        ",\"data\":" ++ format r i.data ++ "\x7d", i.data)
    else
      .ok ("\x7b\"cmd\":\"" ++ i.cmd.text ++ "\",\"type\":" ++ format r i.operationType ++ "\x7d",
        i.data)
  | .liftRef1 | .liftRef2 | .liftName | .oilLevel =>
    if i.data.truthy then
      .ok ("\x7b\"cmd\":\"" ++ i.cmd.text ++ "\",\"data\":\"" ++ format r i.data ++ "\"\x7d", i.data)
    else .ok ("\x7b\"cmd\":\"" ++ i.cmd.text ++ "\"\x7d", i.data)
  | .time =>
    .ok ("\x7b\"cmd\":\"" ++ i.cmd.text ++ "\",\"data\":\"" ++ format r i.data ++ "\"\x7d", i.data)
  | .version | .getOpenCount | .vfdClearTable =>
    .ok ("\x7b\"cmd\":\"" ++ i.cmd.text ++ "\"\x7d", i.data)
  | .logfile => logfileMessage r lib i
  | .readFile =>
    .ok ("\x7b\"cmd\":\"" ++ i.cmd.text ++ "\", \"name\":\"" ++ format r i.fileName ++ "\"\x7d",
      i.data)
  | .writeFile =>
    .ok ("\x7b\"cmd\":\"" ++ i.cmd.text ++ "\", \"name\":\"" ++ format r i.fileName ++
      "\", \"data\":\"" ++ format r i.data ++ "\"\x7d", i.data)
  | .childLock | .floorLock | .vfdId =>
    .ok ("\x7b\"cmd\":\"" ++ i.cmd.text ++ "\", \"data\":\"" ++ format r i.data ++ "\"\x7d", i.data)
  | .vfdRead =>
    .ok ("\x7b\"cmd\":\"" ++ i.cmd.text ++ "\", \"id\":" ++ format r i.id ++ ", \"data\":\"" ++
      format r i.data ++ "\", \"interval\":" ++ format r i.interval ++ "\x7d", i.data)

/-- What `write_serial` returns, without the name of the handler. -/
structure Reply where
  cmd : Option Command
  operationType : Json
  data : Json
  errCode : Rs232Code

/-- What has gone out on the bus, and the value or the exception. -/
structure Written where
  bytes : Option ByteArray
  result : Except PyError Reply

/-- A `String` has no lone surrogates. On a text with one `msg.encode('utf-8')` raises. -/
def writeSerial (r : Rendering) (lib : Lib) (available : Bool) (args : Json) : Written :=
  if !available then ⟨none, .ok ⟨none, minusOne, minusOne, .SERIAL_COM_ERR⟩⟩
  else
    match validateSerialInputs args with
    | .error e => ⟨none, .error e⟩
    | .ok (.error refusal) => ⟨none, .ok ⟨refusal.cmd, minusOne, minusOne, refusal.errCode⟩⟩
    | .ok (.ok i) =>
      match message r lib i with
      | .error e => ⟨none, .error e⟩
      | .ok (msg, data) => ⟨some msg.toUTF8, .ok ⟨some i.cmd, i.operationType, data, .NO_ERR⟩⟩

/-- What `write_generic_text` has come to, and what has gone out on the bus. -/
structure GenericText where
  result : Except PyError (Json × Rs232Code)
  saved : Saved
  bytes : Option ByteArray

def genericTexts : List String := ["liftRef1", "liftRef2", "liftName"]

def writeGenericText (r : Rendering) (lib : Lib) (available : Bool) (package newText : String)
    (reads : List FrameRead) (saved : Saved) : GenericText :=
  if package ∉ genericTexts then ⟨.ok (minusOne, .CMD_NOT_SUPPORTED), saved, none⟩
  else
    let written := writeSerial r lib available (.list [.str package, .str newText])
    match written.result with
    | .error e => ⟨.error e, saved, written.bytes⟩
    | .ok reply =>
      if reply.errCode ≠ .NO_ERR then ⟨.ok (minusOne, reply.errCode), saved, written.bytes⟩
      else
        match getSignalFromSerialBuffer package "" reads saved with
        | (.error e, saved') => ⟨.error e, saved', written.bytes⟩
        | (.ok split, saved') =>
          if split.errCode ≠ .NO_ERR then ⟨.ok (minusOne, split.errCode), saved', written.bytes⟩
          else
            ⟨(wantedData split).map (fun data =>
              (data, if data.eq (.str newText) then .NO_ERR else .DATA_TYPE_ERR)), saved',
              written.bytes⟩

end Message

end NexyGateway.Rs232Handler
