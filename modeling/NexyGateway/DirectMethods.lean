import NexyGateway.AhlLib
import NexyGateway.FileDownload
import NexyGateway.ParamIds
import NexyGateway.PyRepr
import NexyGateway.SerialServer
import NexyGateway.ThousandLib

/-!
# Direct methods

`cloudApi/method_request_handler.py`: the table of methods, their handlers, and the loop that
receives a request and answers it. What the proxy, the reporter and the download give back is
the answer of an operation; what a handler reads without an await is found in a view.
-/
namespace NexyGateway

/-- `LpCode` without its `SOURCE` entry. -/
inductive LpCode where
  | NO_ERR | INIT_ERR | IDENTIFY_ERR | LINK_ERR | PARAM_NOT_IN_DB | PARAM_NOT_SET
  | PARAM_READ_ONLY | COM_ERR | ARG_ERR | POLL_ERR | LOG_ERR | FILE_ERR | PARTIAL_ERR | DATA_ERR
  deriving DecidableEq, Repr

def LpCode.source : String := "LiftProxy"

def LpCode.name : LpCode → String
  | .NO_ERR => "NO_ERR"
  | .INIT_ERR => "INIT_ERR"
  | .IDENTIFY_ERR => "IDENTIFY_ERR"
  | .LINK_ERR => "LINK_ERR"
  | .PARAM_NOT_IN_DB => "PARAM_NOT_IN_DB"
  | .PARAM_NOT_SET => "PARAM_NOT_SET"
  | .PARAM_READ_ONLY => "PARAM_READ_ONLY"
  | .COM_ERR => "COM_ERR"
  | .ARG_ERR => "ARG_ERR"
  | .POLL_ERR => "POLL_ERR"
  | .LOG_ERR => "LOG_ERR"
  | .FILE_ERR => "FILE_ERR"
  | .PARTIAL_ERR => "PARTIAL_ERR"
  | .DATA_ERR => "DATA_ERR"

/-- `MrhCode.SOURCE` -/
def FileDownload.MrhCode.source : String := "MethodRequestHandler"

def FileDownload.MrhCode.name : FileDownload.MrhCode → String
  | .NO_ERR => "NO_ERR"
  | .ARG_ERR => "ARG_ERR"
  | .TYPE_ERR => "TYPE_ERR"
  | .URL_ERR => "URL_ERR"
  | .FILE_NAME_ERR => "FILE_NAME_ERR"
  | .SIZE_ERR => "SIZE_ERR"
  | .DOWNLOAD_ERR => "DOWNLOAD_ERR"

namespace DirectMethods

open FileDownload PyNumber PyJson PyRepr SerialServer
open LiftProxy (LiftType)

/-! ### The cache -/

/-- The library that the proxy is bound to, with its values. -/
inductive Database where
  | ahl (cache : AhlLib.Cache)
  | thousand (lib : ThousandLib.Lib)

/-- `AhlLib.get_param`; the code is one of `MbCode`. -/
def ahlGetParam (cache : AhlLib.Cache) (param : Int) : Json × LpCode :=
  if 0 ≤ param ∧ AhlLib.inDatabase param.toNat = true then
    match cache param.toNat with
    | none => (.int (-1), .PARAM_NOT_SET)
    | some value => (.int value, .NO_ERR)
  else (.int (-1), .PARAM_NOT_IN_DB)

/-- The member of `LpCode` with the name of a code that the 1k library returns. -/
def ofRs232Code : Rs232Code → LpCode
  | .NO_ERR => .NO_ERR
  | .PARAM_NOT_IN_DB => .PARAM_NOT_IN_DB
  | .PARAM_NOT_SET => .PARAM_NOT_SET
  | .PARTIAL_ERR => .PARTIAL_ERR
  | .DATA_ERR => .DATA_ERR
  | _ => .COM_ERR

/-- `LiftProxy.get_param_value` -/
def getParamValue (db : Option Database) (param : Int) : Json × LpCode :=
  match db with
  | none => (.null, .INIT_ERR)
  | some (.ahl cache) => ahlGetParam cache param
  | some (.thousand lib) =>
    ((ThousandLib.getParam param lib).1, ofRs232Code (ThousandLib.getParam param lib).2)

/-- What a handler reads without an await. -/
structure View where
  now : Int
  liftType : LiftType
  lib : Option Database
  desired : Json

/-! ### The handlers -/

inductive Operation where
  | readArNumber
  | writeParam (param value : String)
  | writeReadParam (param value : String)
  | writeArNumber (value : String)
  | pushParamEvent (ids : List Int)
  | reportProperty (name value : String)
  | downloadFile (uri typeCode : String) (maxBytes : Int)
  deriving DecidableEq

abbrev Operation.Answer : Operation → Type
  | .readArNumber => Json × String × String
  | .writeParam _ _ => Int × String × String
  | .writeReadParam _ _ => Int × Json × String × String
  | .writeArNumber _ => Json × String × String
  | .pushParamEvent _ => Unit
  | .reportProperty _ _ => Unit
  | .downloadFile _ _ _ => Reply

/-- A payload with its status. -/
abbrev Response := Json × Nat

abbrev Method := Process Operation Operation.Answer View Response

/-- A payload with the current time in front. -/
def stamped (status : Nat) (members : Dict) : Method :=
  .look fun v => .ret (.dict (("ts", .int v.now) :: members), status)

/-- `_arg_error` -/
def argError : Method :=
  stamped 400 [("es", .str MrhCode.source), ("ec", .str MrhCode.ARG_ERR.name)]

section Handlers

variable (r : Rendering)

/-- `_get_str` -/
def getStr (payload : Json) (key : String) : Option String :=
  match payload with
  | .dict members => (members.lookup key).map (format r)
  | _ => none

/-- `_get_int_str` -/
def getIntStr (payload : Json) (key : String) : Option String :=
  match getStr r payload key with
  | none => none
  | some text => if (int text).isSome then some text else none

/-- A method that is answered and does nothing yet. -/
def executed (name : String) (_payload : Json) : Method :=
  .ret (.dict [("result", .bool true), ("message", .str (name ++ " method executed"))], 200)

def gwReadHostname : Json → Method := executed "gw.read.hostname"
def gwReadHwVersion : Json → Method := executed "gw.read.hw-version"
def gwReadBomRevision : Json → Method := executed "gw.read.bom-revision"
def gwReadSerialNumber : Json → Method := executed "gw.read.serial-number"
def gwReboot : Json → Method := executed "gw.reboot"
def laSendRebootRequest : Json → Method := executed "la.send.reboot-request"
def laSendResetServiceMemory : Json → Method := executed "la.send.reset-service-memory"
def laScriptRequest : Json → Method := executed "la.script-request"
def laGwLogGenerate : Json → Method := executed "la.gw-log-generate"
def laLiftLogGenerate : Json → Method := executed "la.lift-log-generate"
def laLlSendRequest : Json → Method := executed "la.ll.send-request"
def laFwuTrigger : Json → Method := executed "la.fwu-trigger"
def caSetConfigItem : Json → Method := executed "ca.set.config-item"
def caFwuTrigger : Json → Method := executed "ca.fwu-trigger"
def lcmFwuTrigger : Json → Method := executed "lcm.fwu-trigger"

def laReadArNumber (_payload : Json) : Method :=
  .call .readArNumber fun (value, source, code) =>
    if code = "NO_ERR" then stamped 200 [("v", .str (format r value))]
    else stamped 200 [("es", .str source), ("ec", .str code)]

/-- The item of a parameter, with its code unless it was read. -/
def readItem (text : String) (value : Json) (code : LpCode) : Json :=
  .dict ([("p", .str text), ("v", .str (format r value))] ++
    if code ≠ .NO_ERR then [("ec", .str code.name)] else [])

def laReadParameter (payload : Json) : Method :=
  match getIntStr r payload "parameter" with
  | none => argError
  | some param =>
    match int param with
    | none => .raise
    | some id =>
      .look fun v =>
        let read := getParamValue v.lib id
        .ret (.dict ([("ts", .int v.now), ("d", .list [readItem r param read.1 read.2])] ++
          if read.2 ≠ .NO_ERR then [("es", .str LpCode.source)] else []), 200)

def laReadParameters (payload : Json) : Method :=
  match (ParamIds.collectParamIds payload).1 with
  | .error _ => .raise
  | .ok none => argError
  | .ok (some ids) =>
    .look fun v =>
      let items := ids.map fun pid =>
        let read := getParamValue v.lib pid
        readItem r (toString pid) read.1 read.2
      let anyErr := ids.any fun pid => (getParamValue v.lib pid).2 ≠ .NO_ERR
      .ret (.dict ([("ts", .int v.now), ("d", .list items)] ++
        if anyErr then [("es", .str LpCode.source)] else []), 200)

/-- `_LIFT_TYPE_CODE` -/
def liftTypeCode : LiftType → String
  | .unknown => "0"
  | .ahl => "1"
  | .oneK => "2"

def laReadLiftType (_payload : Json) : Method :=
  .look fun v =>
    .ret (.dict [("ts", .int v.now), ("lt", .str (liftTypeCode v.liftType))], 200)

/-- The item of a write. -/
def writeItem (param value status : String) (rest : Dict) : Json :=
  .list [.dict ([("p", .str param), ("v", .str value), ("s", .str status)] ++ rest)]

/-- The time of a write without read-back is taken before its telemetry is sent. -/
def laWriteParameter (payload : Json) : Method :=
  match getIntStr r payload "parameter", getStr r payload "value" with
  | some param, some value =>
    .call (.writeParam param value) fun (status, source, code) =>
      .look fun v =>
        if status = 0 then
          match int param with
          | none => .raise
          | some id =>
            .call (.pushParamEvent [id]) fun _ =>
              .ret (.dict [("ts", .int v.now),
                ("d", writeItem param value (toString status) [])], 200)
        else
          .ret (.dict [("ts", .int v.now),
            ("d", writeItem param value (toString status) [("ec", .str code)]),
            ("es", .str source)], 200)
  | _, _ => argError

def laWriteReadParameter (payload : Json) : Method :=
  match getIntStr r payload "parameter", getStr r payload "value" with
  | some param, some value =>
    .call (.writeReadParam param value) fun (status, rbValue, source, code) =>
      if status ≠ 0 then
        stamped 200 [("es", .str source),
          ("d", writeItem param value (toString status) [("ec", .str code)])]
      else if code ≠ "NO_ERR" then
        stamped 200 [("es", .str source), ("d", writeItem param value "0" [("ec", .str code)])]
      else
        match int param with
        | none => .raise
        | some id =>
          .call (.pushParamEvent [id]) fun _ =>
            stamped 200 [("d", writeItem param (format r rbValue) "0" [])]
  | _, _ => argError

def laWriteArNumber (payload : Json) : Method :=
  match getStr r payload "value" with
  | none => argError
  | some value =>
    .call (.writeArNumber value) fun (actual, source, code) =>
      if code = "NO_ERR" then
        .call (.reportProperty "la.arNumber" (format r actual)) fun _ =>
          stamped 200 [("w", .str value), ("v", .str (format r actual)), ("s", .str "0")]
      else
        stamped 200 [("w", .str value), ("v", .str "-1"), ("s", .str "-1"), ("es", .str source),
          ("ec", .str code)]

def optionalText : Option String → Json
  | none => .null
  | some text => .str text

/-- The largest size is read from the desired properties, which can raise. -/
def caDownloadFile (payload : Json) : Method :=
  match getStr r payload "uri", getStr r payload "type" with
  | some uri, some typeCode =>
    .look fun v =>
      match DesiredTwin.downloadMaxBytes v.desired with
      | .error _ => .raise
      | .ok maxBytes =>
        .call (.downloadFile uri typeCode maxBytes) fun reply =>
          if reply.code = .NO_ERR then
            stamped 200 [("fn", optionalText reply.filename), ("fp", optionalText reply.fullpath)]
          else stamped 200 [("es", .str MrhCode.source), ("ec", .str reply.code.name)]
  | _, _ => argError

/-- `_dispatch` -/
def dispatch : List (String × (Json → Method)) :=
  [("gw.read.hostname", gwReadHostname), ("gw.read.hw-version", gwReadHwVersion),
   ("gw.read.bom-revision", gwReadBomRevision), ("gw.read.serial-number", gwReadSerialNumber),
   ("gw.reboot", gwReboot), ("la.read.ar-number", laReadArNumber r),
   ("la.read.parameter", laReadParameter r), ("la.read.parameters", laReadParameters r),
   ("la.read.lift-type", laReadLiftType), ("la.write.parameter", laWriteParameter r),
   ("la.write.read.parameter", laWriteReadParameter r), ("la.write.ar-number", laWriteArNumber r),
   ("la.send.reboot-request", laSendRebootRequest),
   ("la.send.reset-service-memory", laSendResetServiceMemory),
   ("la.script-request", laScriptRequest), ("la.gw-log-generate", laGwLogGenerate),
   ("la.lift-log-generate", laLiftLogGenerate), ("la.ll.send-request", laLlSendRequest),
   ("la.fwu-trigger", laFwuTrigger), ("ca.download-file", caDownloadFile r),
   ("ca.set.config-item", caSetConfigItem), ("ca.fwu-trigger", caFwuTrigger),
   ("lcm.fwu-trigger", lcmFwuTrigger)]

structure MethodRequest where
  name : String
  payload : Json

/-- The response without a handler. -/
def unknownMethod : Method :=
  .ret (.dict [("result", .bool false), ("message", .str "Unknown method")], 404)

def handle (request : MethodRequest) : Method :=
  match (dispatch r).lookup request.name with
  | some handler => handler request.payload
  | none => unknownMethod

end Handlers

/-- The response to a request whose handler, or whose response, has raised. -/
def internalError : Response :=
  (.dict [("result", .bool false), ("message", .str "Internal error")], 500)

abbrev Listener := Server Operation Operation.Answer View MethodRequest Response

/-- `listen_for_method` -/
def listenForMethod (r : Rendering) :
    Listener → Event Operation Operation.Answer View MethodRequest → Option Listener :=
  step (handle r) internalError

end DirectMethods

end NexyGateway
