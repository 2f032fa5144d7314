import Mathlib.Data.Int.Bitwise
import NexyGateway.ErrorSignals
import NexyGateway.PyNumber

/-!
# ModBusHandler

Parameter reads and writes of `liftApi/modbus_handler.py`. A session carries
the replies of the bus, one for each request in the order they are issued, and
the log of what the handler did. Nothing is assumed about the replies.
-/
namespace NexyGateway.ModbusHandler

open PyNumber (PyError)

/-- What the pymodbus client hands back for one request. -/
inductive Response where
  | raised (exception : String)
  /-- An object without `isError` or `function_code`. -/
  | foreign
  | pdu (isError : Bool) (functionCode : Int) (registers : Option (List Int))
      (address count : Option Int)
  deriving DecidableEq, Repr

inductive Request where
  | read (address count : Nat)
  | write (address : Nat) (values : List Int)
  deriving DecidableEq, Repr

inductive Event where
  | exchange (request : Request) (response : Response)
  | diskSync
  deriving DecidableEq, Repr

/-- `up` tells for each run of `check_modbus_connection` whether it lets the call through. -/
structure Session where
  replies : Nat → Response
  up : Nat → Bool
  checks : Nat
  sent : Nat
  log : List Event

def Session.start (replies : Nat → Response) (up : Nat → Bool) : Session := ⟨replies, up, 0, 0, []⟩

def Session.send (r : Request) (s : Session) : Response × Session :=
  let response := s.replies s.sent
  (response, { s with sent := s.sent + 1, log := s.log ++ [.exchange r response] })

/-- Status or value, handler name and error code. -/
abbrev Triple := Int × String × MbCode

def failed (code : MbCode) : Triple := (-1, MbCode.source, code)
def accepted : Triple := (0, MbCode.source, .NO_ERR)

def parseIntValue (val : String) : Option Int :=
  if PyNumber.hexSpelled val then
    (PyNumber.intHex val).map
      (fun parsed => if 0 ≤ parsed ∧ parsed < 2 ^ 32 then PyNumber.cInt32 parsed else parsed)
  else PyNumber.int val

def validateInputs (args : List String) (argsLen : Nat) : Triple :=
  if args.length ≠ argsLen then failed .ARG_ERR
  else if args.all (fun x => (parseIntValue x).isSome) then accepted
  else failed .ARG_INT_ERR

/-- Direction `send`: LCM addresses are doubled on the bus. -/
def convertParamAddr (param : String) : Option Nat :=
  if PyNumber.isDigit param then
    (PyNumber.int param).bind (fun n => if 2 * n < 0 then none else some (2 * n).toNat)
  else none

def packValue (val : String) : Option (List Int) :=
  (parseIntValue val).bind (fun v =>
    if v ≥ 2 ^ 31 ∨ v < -2 ^ 31 then none else some [v / 2 ^ 16 % 2 ^ 16, v % 2 ^ 16])

def validateReadParamResponse : Response → Triple
  | .raised _ => failed .COM_ERR
  | .foreign => failed .COM_ERR
  | .pdu _ _ none _ _ => failed .COM_ERR
  | .pdu true functionCode (some _) _ _ => (functionCode, MbCode.source, .COM_ERR)
  | .pdu false _ (some [r₀, r₁]) _ _ =>
    if r₀ = 0xDEAD ∧ r₁ = 0xDEAD then failed .LCM_ERR
    else (PyNumber.cInt32 (r₀ * 2 ^ 16 + r₁), MbCode.source, .NO_ERR)
  | .pdu false _ (some _) _ _ => failed .REG_ERR

def validateWriteParamResponse (response : Response) (param : String) : Triple :=
  match response with
  | .raised _ => failed .COM_ERR
  | .foreign => failed .COM_ERR
  | .pdu true _ _ _ _ => failed .COM_ERR
  | .pdu false _ _ address count =>
    if address ≠ (convertParamAddr param).map (fun a => (a : Int)) ∨ count ≠ some 2 then
      failed .COM_ERR
    else accepted

/-- An exception, raised by the conversion or by the client, becomes its class name. -/
def serialReadParam (param : String) (s : Session) : Response × Session :=
  match convertParamAddr param with
  | none => (.raised "ValueError", s)
  | some addr => s.send (.read addr 2)

def serialWriteParam (param val : String) (s : Session) : Response × Session :=
  match convertParamAddr param, packValue val with
  | some addr, some packed => s.send (.write addr packed)
  | _, _ => (.raised "ValueError", s)

def maxTries : Nat := 3

/-- The remaining rounds of the retry loop; an absent parameter is not retried. -/
def readTries (param : String) : Nat → Triple → Session → Triple × Session
  | 0, ret, s => (ret, s)
  | n + 1, _, s =>
    let (response, s) := serialReadParam param s
    let ret := validateReadParamResponse response
    if ret.2.2 = .NO_ERR ∨ ret.2.2 = .LCM_ERR then (ret, s) else readTries param n ret s

def writeTries (param val : String) : Nat → Triple → Session → Triple × Session
  | 0, ret, s => (ret, s)
  | n + 1, _, s =>
    let (response, s) := serialWriteParam param val s
    let ret := validateWriteParamResponse response param
    if ret.2.2 = .NO_ERR then (ret, s) else writeTries param val n ret s

def checkModbusConnection (method : Session → α × Session) (linkErr : α) (s : Session) :
    α × Session :=
  if s.up s.checks then method { s with checks := s.checks + 1 }
  else (linkErr, { s with checks := s.checks + 1 })

def readParameter (par : List String) : Session → Triple × Session :=
  checkModbusConnection (fun s =>
    let ret := validateInputs par 1
    match par with
    | [param] => if ret.1 ≠ 0 then (ret, s) else readTries param maxTries ret s
    | _ => (ret, s)) (failed .LINK_ERR)

def lcmSoftwareVersion : String := "77"
def resetAlarmParams : List String := ["102", "103", "104"]

/-- LCM versions up to 349 want the reset value shifted by one bit. -/
def handleResetAlarms (param value : String) (s : Session) : (String × MbCode) × Session :=
  if param ∈ resetAlarmParams then
    let (ret, s) := readParameter [lcmSoftwareVersion] s
    if ret.2.2 ≠ .NO_ERR then ((value, ret.2.2), s)
    else if ret.1 ≤ 349 then
      match (PyNumber.int value).bind (fun v => PyNumber.str (v * 2)) with
      | some shifted => ((shifted, .NO_ERR), s)
      | none => ((value, .ARG_INT_ERR), s)
    else ((value, .NO_ERR), s)
  else ((value, .NO_ERR), s)

/-- The disk is synced for two texts; the others that spell the same values go without. -/
def restartValues : List String := ["2", "4"]

def handleRebootRequest (value : String) (s : Session) : Session :=
  if value ∈ restartValues then { s with log := s.log ++ [.diskSync] } else s

def osmSpeedParameter : String := "359"

def handleSpeedConfig (value : String) (s : Session) : Except PyError MbCode × Session :=
  let (ret, s) := readParameter [osmSpeedParameter] s
  if ret.2.2 ≠ .NO_ERR then (.ok ret.2.2, s)
  else if ret.1 ≠ 300 then (.ok .CUSTOM_SPEED_ERR, s)
  else
    match PyNumber.int value with
    | none => (.error .valueError, s)
    | some newLiftSpeed =>
      if 150 ≤ newLiftSpeed ∧ newLiftSpeed ≤ 300 then (.ok .NO_ERR, s)
      else (.ok .CUSTOM_SPEED_ERR, s)

def fireFloorParameter : String := "11"

/-- A fire floor below one makes the shift count negative, which raises. -/
def handleFloorLock (value : String) (s : Session) : Except PyError MbCode × Session :=
  let (ret, s) := readParameter [fireFloorParameter] s
  if ret.2.2 ≠ .NO_ERR then (.ok ret.2.2, s)
  else if ret.1 - 1 < 0 then (.error .valueError, s)
  else
    match parseIntValue value with
    | none => (.error .valueError, s)
    | some valueInt =>
      if Int.land (2 ^ (ret.1 - 1).toNat) valueInt > 0 then (.ok .FLOOR_LOCK_ERR, s)
      else (.ok .NO_ERR, s)

def swInstallationCmd : String := "108"
def liftSpeedParameter : String := "30"
def floorLockParameter : String := "363"

/-- The checks chosen by comparing the text of the parameter number. -/
def customParameter (param value : String) (s : Session) : Except PyError MbCode × Session :=
  if param = liftSpeedParameter then handleSpeedConfig value s
  else if param = floorLockParameter then handleFloorLock value s
  else (.ok .NO_ERR, s)

def writeValidated (param value : String) (ret : Triple) (s : Session) :
    Except PyError Triple × Session :=
  let s := if param = swInstallationCmd then handleRebootRequest value s else s
  match customParameter param value s with
  | (.error e, s) => (.error e, s)
  | (.ok err, s) =>
    if err ≠ .NO_ERR then (.ok (failed err), s)
    else
      let ((value, err), s) := handleResetAlarms param value s
      if err ≠ .NO_ERR then (.ok (failed err), s)
      else
        let (ret, s) := writeTries param value maxTries ret s
        (.ok ret, s)

def writeParameter (args : List String) : Session → Except PyError Triple × Session :=
  checkModbusConnection (fun s =>
    let ret := validateInputs args 2
    match args with
    | [param, value] => if ret.1 ≠ 0 then (.ok ret, s) else writeValidated param value ret s
    | _ => (.ok ret, s)) (.ok (failed .LINK_ERR))

end NexyGateway.ModbusHandler
