import Mathlib.Data.Int.Bitwise
import NexyGateway.ThousandSignals

/-!
# Database of the 1k lift

The cache of `lib/thousand_lib.py` and the functions that bring it up to date. An
exception leaves the cache as far as it had been updated, so the outcome of an update
has the cache in it either way.
-/
namespace NexyGateway.ThousandLib

open PyNumber PyJson

/-- Packages of a poll. -/
inductive Package where
  | liftRef1 | liftRef2 | liftName | version
  | package130 | package2 | package131 | package134 | package133
  | doorOpenCount
  | readFileParam | readFileIntern | readFileNode | readFileLock | readFileDoor
  deriving DecidableEq

def Package.signals : Package → List Signal
  | .liftRef1 => paramsLiftAr
  | .liftRef2 => paramsLiftType
  | .liftName => paramsLiftName
  | .version => paramsVersion
  | .package130 => params130
  | .package2 => params2
  | .package131 => params131
  | .package134 => params134
  | .package133 => params133
  | .doorOpenCount => paramsDoorOpenCount
  | .readFileParam => paramsReadFileParam
  | .readFileIntern => paramsReadFileIntern
  | .readFileNode => paramsReadFileNode
  | .readFileLock => paramsReadFileLock
  | .readFileDoor => paramsReadFileDoor

structure Lib where
  value : Int → Json
  latestResponses : Package → Option Json
  previousOpenDoorCounters : Nat → Int
  totalOpenDoorCounters : Nat → Int
  resetSavedOpenDoorCounter : Bool

def Lib.fresh : Lib := ⟨fun _ => .str "", fun _ => none, fun _ => 0, fun _ => 0, true⟩

def Lib.set (param : Int) (v : Json) (lib : Lib) : Lib :=
  { lib with value := fun p => if p = param then v else lib.value p }

@[simp] theorem set_value_same (param : Int) (v : Json) (lib : Lib) :
    (lib.set param v).value param = v := if_pos rfl

theorem set_value_other {param p : Int} (v : Json) (lib : Lib) (h : p ≠ param) :
    (lib.set param v).value p = lib.value p := if_neg h

def Lib.setAll (params : List Int) (v : Json) (lib : Lib) : Lib :=
  params.foldr (fun param lib => lib.set param v) lib

/-- Outcome of an update: the cache, the parameters that have got a new value, and a code or
the exception that has ended it. -/
structure Update where
  lib : Lib
  changed : List Int
  errCode : Rs232Code
  error : Option PyError

def Update.start (lib : Lib) : Update := ⟨lib, [], .NO_ERR, none⟩

def Update.store (param : Int) (v : Json) (u : Update) : Update :=
  if (u.lib.value param).eq v then u
  else { u with lib := u.lib.set param v, changed := u.changed ++ [param] }

section Packages

variable (clock : Int → Int)

/-- The loop of `get_updated_params`. -/
def updateSignals (response : Json) : List Signal → Update → Update
  | [], u => u
  | sig :: rest, u =>
    match unpackSignal clock sig response with
    | .error e => { u with error := some e }
    | .ok (v, code) =>
      if code ≠ .NO_ERR then updateSignals response rest { u with errCode := code }
      else updateSignals response rest (u.store sig.param v)

def Lib.remember (package : Package) (response : Json) (lib : Lib) : Lib :=
  { lib with
    latestResponses := fun p => if p = package then some response else lib.latestResponses p }

def getUpdatedParams (package : Package) (response : Json) (lib : Lib) : Update :=
  updateSignals clock response package.signals (.start (lib.remember package response))

/-- A counter of the lift that has fallen was reset: what had been counted is carried over. -/
def Lib.count (i : Nat) (read : Int) (lib : Lib) : Lib :=
  let fallen := read + lib.previousOpenDoorCounters i < lib.totalOpenDoorCounters i
  let carried := if fallen then lib.totalOpenDoorCounters i else lib.previousOpenDoorCounters i
  { lib with
    previousOpenDoorCounters := fun j => if j = i then carried else lib.previousOpenDoorCounters j
    totalOpenDoorCounters := fun j => if j = i then read + carried else lib.totalOpenDoorCounters j
    resetSavedOpenDoorCounter := fallen || lib.resetSavedOpenDoorCounter }

/-- The loop of `door_open_count_recalculate`, which ends at the first counter that does not
unpack. -/
def recalculate (response : Json) : List Signal → Nat → Update → Update
  | [], _, u => u
  | sig :: rest, i, u =>
    match unpackSignal clock sig response with
    | .error e => { u with error := some e }
    | .ok (v, code) =>
      if code ≠ .NO_ERR then { u with errCode := code }
      else
        match v.toInt with
        | .error e => { u with error := some e }
        | .ok read =>
          let u' := { u with lib := u.lib.count i read }
          recalculate response rest (i + 1)
            (u'.store sig.param (.int (u'.lib.totalOpenDoorCounters i)))

def doorOpenCountRecalculate (response : Json) (lib : Lib) : Update :=
  let u := recalculate clock response paramsDoorOpenCount 0 (.start lib)
  if u.errCode ≠ .NO_ERR then { u with changed := [] } else u

end Packages

section Virtual

variable (clock : Int → Int)

/-- A value that could not be put together. -/
def failed (code : Rs232Code) : Except PyError (Json × Rs232Code) := .ok (unset, code)

def found (text : String) : Except PyError (Json × Rs232Code) := .ok (.str text, .NO_ERR)

/-- Unpacks from the latest response of a package; a `KeyError` is taken for a missing one. -/
def unpackLatest (sig : Signal) (package : Package) (lib : Lib) :
    Except PyError (Json × Rs232Code) :=
  match lib.latestResponses package with
  | none => .error .keyError
  | some response => unpackSignal clock sig response

def isAnyOf (texts : List String) (v : Json) : Bool := texts.any (fun text => v.eq (.str text))

def updateBatteryState (lib : Lib) : Except PyError (Json × Rs232Code) :=
  match unpackLatest clock batteryState .package130 lib with
  | .error .keyError => failed .PARTIAL_ERR
  | .error e => .error e
  | .ok (v, code) =>
    if code ≠ .NO_ERR then failed .PARTIAL_ERR
    else if isAnyOf ["1"] v then found "1"
    else if isAnyOf ["2", "3"] v then found "2"
    else if isAnyOf ["4"] v then found "3"
    else if isAnyOf ["5", "6", "7"] v then found "4"
    else failed .PARTIAL_ERR

def updateImpulse (lib : Lib) : Except PyError (Json × Rs232Code) :=
  match lib.value 4 with
  | .str progName =>
    if progName = "" then failed .PARTIAL_ERR
    else if progName.toList.take 7 = "AritcoI".toList then found "1"
    else if progName.toList.take 7 = "AritcoH".toList then found "0"
    else failed .DATA_ERR
  | .list _ => failed .DATA_ERR
  | .dict _ => .error .keyError
  | _ => .error .typeError

/-- The code of the unpacking is not looked at: hundredths of `-1` are `0`. -/
def updateTemp (lib : Lib) : Except PyError (Json × Rs232Code) :=
  match unpackLatest clock temp .package134 lib with
  | .error .keyError => failed .PARTIAL_ERR
  | .error e => .error e
  | .ok (v, _) =>
    match v.toInt with
    | .ok n => found (toString (n.tdiv 100))
    | .error _ => failed .PARTIAL_ERR

/-- One bit for each floor, the sixth floor first. Other values than texts and integers never
make a binary number. -/
def updateFloorLock (lib : Lib) : Except PyError (Json × Rs232Code) :=
  let texts := ([151, 150, 149, 148, 147, 146] : List Int).mapM (fun p => (lib.value p).text)
  match texts.bind (fun texts => PyNumber.intBin (String.join texts)) with
  | some n => found (toString n)
  | none => failed .PARTIAL_ERR

/-- The virtual signals, in the order of their update. -/
def paramsVirtual : List (Int × (Lib → Except PyError (Json × Rs232Code))) :=
  [(batteryState.param, updateBatteryState clock), (impulse.param, updateImpulse),
   (temp.param, updateTemp clock), (floorLock.param, updateFloorLock)]

def updateVirtual : List (Int × (Lib → Except PyError (Json × Rs232Code))) → Update → Update
  | [], u => u
  | (param, newVal) :: rest, u =>
    match newVal u.lib with
    | .error e => { u with error := some e }
    | .ok (v, code) =>
      if code ≠ .NO_ERR then updateVirtual rest { u with errCode := code }
      else updateVirtual rest (u.store param v)

def updateVirtualSignals (lib : Lib) : Update :=
  updateVirtual (paramsVirtual clock) (.start lib)

end Virtual

section Notifications

variable (clock : Int → Int)

def resetDoorClosingTimeParams (lib : Lib) : Lib := lib.setAll doorClosingTimeParams (.str "0")

def reset135Params (lib : Lib) : Lib :=
  lib.setAll [doorNumber.param, doorClosingTime.param] (.str "0")

/-- The parameter that a door's closing time is kept in. -/
def closingTimeParam (doorNo : Json) : Option Int :=
  doorClosingTimeParams.find? (fun param => doorNo.eq (.str (toString (param - 154))))

/-- `update_door_closing_time`, for a response that is not empty. -/
def updateDoorClosingTime (response : Json) (lib : Lib) : Update :=
  match unpackSignal clock doorNumber response with
  | .error e => ⟨lib, [], .NO_ERR, some e⟩
  | .ok (doorNo, code) =>
    if code ≠ .NO_ERR then ⟨lib, [], code, none⟩
    else
      match unpackSignal clock doorClosingTime response with
      | .error e => ⟨lib, [], .NO_ERR, some e⟩
      | .ok (doorTime, code) =>
        if code ≠ .NO_ERR then ⟨lib, [], code, none⟩
        else
          match closingTimeParam doorNo with
          | none => ⟨lib, [], .DATA_ERR, none⟩
          | some param => ⟨lib.set param doorTime, [param], .NO_ERR, none⟩

/-- `int(data_list[i], 16)`. -/
def vfdField (fields : List (List Char)) (i : Nat) : Except PyError Int :=
  match fields[i]? with
  | none => .error .indexError
  | some cs =>
    match PyNumber.intHex (String.ofList cs) with
    | none => .error .valueError
    | some n => .ok n

/-- Big endian; the fields before the signal's are not looked at. -/
def unpackVfdResultData (sig : Signal) (data : Json) : Except PyError Int :=
  match data with
  | .str s =>
    (List.range' (sig.byteStart - 1) sig.byteSize).foldlM
      (fun out i => (vfdField (s.toList.splitOn ',') i).map (fun n => Int.lor (out * 256) n)) 0
  | _ => .error .attributeError

def vfdSignal (id : Json) : Option Signal :=
  if id.eq (.int 0) then some vfdMotorCurrent
  else if id.eq (.int 1) then some vfdMotorPower
  else if id.eq (.int 2) then some vfdLineMainsVoltage
  else if id.eq (.int 3) then some vfdDriveThermalState
  else none

def updateVfdParams (resp : Dict) (lib : Lib) : Update :=
  match resp.lookup "id", resp.lookup "data" with
  | some id, some data =>
    match vfdSignal id with
    | none => ⟨lib, [], .VFD_ID_ERR, none⟩
    | some sig =>
      match unpackVfdResultData sig data with
      | .error e => ⟨lib, [], .NO_ERR, some e⟩
      | .ok n => ⟨lib.set sig.param (.int n), [sig.param], .NO_ERR, none⟩
  | _, _ => ⟨lib, [], .NO_ERR, some .keyError⟩

end Notifications

section Parameters

/-- Parameters with an entry in the database. -/
def inDatabase (param : Int) : Bool :=
  -2 ≤ param && param ≤ 181

def getParam (param : Int) (lib : Lib) : Json × Rs232Code :=
  if !inDatabase param then (.int (-1), .PARAM_NOT_IN_DB)
  else if (lib.value param).eq (.str "") then (.int (-1), .PARAM_NOT_SET)
  else (lib.value param, .NO_ERR)

/-- The signals of the files, with the file they are in. -/
def fileParams : List (String × List Signal) :=
  [("/aritco/param", paramsReadFileParam), ("/aritco/intern", paramsReadFileIntern),
   ("/aritco/node", paramsReadFileNode), ("/aritco/lock", paramsReadFileLock),
   ("/aritco/door", paramsReadFileDoor)]

def getFileForParam (param : Int) : String :=
  match fileParams.find? (fun file => file.2.any (fun sig => sig.param = param)) with
  | some file => file.1
  | none => ""

end Parameters

end NexyGateway.ThousandLib
