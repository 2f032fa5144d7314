import NexyGateway.ErrorSignals
import NexyGateway.PosixPath
import NexyGateway.TurnLoops

/-!
# Trace logs

`ModBusHandler.generate_trace_log` reads the records of a log one after another. The lift
keeps its own reading position, so any fault sends the loop back to the first record.
-/
namespace NexyGateway.TraceLogs

open TurnLoops
open PosixPath (joinPath)

abbrev Bytes := List UInt8

/-! ### The records -/

def headerSize : Nat := 3
def crcSize : Nat := 2
def filenameSize : Nat := 32

/-- Length of a record in words of two bytes. -/
def recordLength : Nat := 0x73

/-- `LogSizes` for one type of log: the bytes of the log and the number of its records, which
hold the name of the file in front of the log. -/
structure LogSizes where
  log : Nat
  nrRecords : Nat
  several : 1 < nrRecords
  whole : (nrRecords - 1) * (recordLength * 2) + (log + filenameSize) % (recordLength * 2) =
    log + filenameSize

def logHeader : UInt8 × UInt8 := (0x0a, 0x14)

def errCntMax : Nat := 10

/-- `LogConfig.types` with the sizes of each. -/
def logSizes (logType : String) : Option LogSizes :=
  if logType = "0x06" then some ⟨2048, 10, by decide, by decide⟩
  else if logType = "0x02" then some ⟨16 * 2048, 143, by decide, by decide⟩
  else none

/-- Length of the payload that is expected in a record; the last one has the rest. -/
def payloadLen (sizes : LogSizes) (recordNumber : Nat) : Nat :=
  if recordNumber < sizes.nrRecords - 1 then recordLength * 2
  else (sizes.log + filenameSize) % (recordLength * 2)

def expRspLen (sizes : LogSizes) (recordNumber : Nat) : Nat :=
  payloadLen sizes recordNumber + headerSize + crcSize

/-- The file that holds a type of log. -/
def fileNumber (logType : String) : Nat := 0x1700 + if logType = "0x02" then 0x03 else 0x00

/-- `ReadFileRecord.prepare_request`. -/
structure Request where
  unit : Nat
  fileNumber : Nat
  recordNumber : Nat
  recordLength : Nat
  expLen : Nat

def prepareRequest (unit : Nat) (logType : String) (sizes : LogSizes) (recordNumber : Nat) :
    Request :=
  ⟨unit, fileNumber logType, recordNumber, recordLength, expRspLen sizes recordNumber⟩

/-! ### One exchange -/

/-- What the response makes of `isError`. -/
inductive ErrorCheck where
  | missing
  | raises
  | returns (isError : Bool)

/-- Outcome of an exchange; data that is no byte string is `none`. -/
inductive Exchange where
  | unprepared
  | failed
  | answered (check : ErrorCheck) (data : Option Bytes)

/-- `b".sw_traces"` -/
def needle : Bytes := [46, 115, 119, 95, 116, 114, 97, 99, 101, 115]

/-- `bytes.find` -/
def find (sub : Bytes) : Bytes → Option Nat
  | [] => if sub.isPrefixOf [] then some 0 else none
  | b :: rest => if sub.isPrefixOf (b :: rest) then some 0 else (find sub rest).map (· + 1)

/-- `bytes.decode("utf-8")` -/
def decodeUtf8 (data : Bytes) : Option String := String.fromUTF8? ⟨data.toArray⟩

/-- Where a check has failed, the first one gives the code. -/
structure Verdict where
  valid : Bool
  err : MbCode

def Verdict.require (ok : Bool) (err : MbCode) (v : Verdict) : Verdict :=
  if !ok && v.valid then ⟨false, err⟩ else v

/-- The checks of the header and of the lengths. -/
def checkRecord (data : Bytes) (expLen : Nat) : Verdict :=
  let dataLen : Int := data.length - headerSize - crcSize
  let start : Verdict := ⟨true, .NO_ERR⟩
  let framed :=
    if dataLen ≤ 0 then start.require false .LOG_NO_LD_ERR
    else
      ((start.require (data.getD 0 0 = logHeader.1) .LOG_LD_PARSE_ERR).require
        (data.getD 1 0 = logHeader.2) .LOG_LD_PARSE_ERR).require
        (((data.getD 2 0).toNat : Int) = dataLen) .LOG_LD_PARSE_ERR
  framed.require (dataLen = (expLen : Int) - headerSize - crcSize) .LOG_REC_LEN_ERR

/-- The result of `_validate_read_file_response` with the name that it leaves. -/
structure Validated where
  valid : Bool
  idx : Nat
  err : MbCode
  filename : String

/-- An exception is `none`; it leaves the name as it is. -/
def validateReadFileResponse (storagePath : String) (recordNumber : Nat) (check : ErrorCheck)
    (data : Option Bytes) (expLen : Nat) (filename : String) : Option Validated :=
  match check, data with
  | .missing, _ => some ⟨false, 0, .LOG_ATTR_ERR, filename⟩
  | _, none => some ⟨false, 0, .LOG_ATTR_ERR, filename⟩
  | .raises, some _ => none
  | .returns isError, some data =>
    let v := (checkRecord data expLen).require (!isError) .LOG_RSP_ERR
    if recordNumber = 0 then
      let dataFname := (data.drop headerSize).take filenameSize
      match find needle dataFname with
      | some idx =>
        (decodeUtf8 (dataFname.take (idx + needle.length))).map fun name =>
          ⟨v.valid, filenameSize, v.err, joinPath storagePath name⟩
      | none =>
        let v := v.require false .LOG_FNAME_ERR
        some ⟨v.valid, 0, v.err, filename⟩
    else some ⟨v.valid, 0, v.err, filename⟩

/-! ### The loop -/

structure Assembly where
  recordNumber : Nat
  errCnt : Nat
  lastErr : MbCode
  data : Bytes
  filename : String

def Assembly.start : Assembly := ⟨0, 0, .NO_ERR, [], ""⟩

/-- From the first record on again, with one more error counted. -/
def Assembly.again (s : Assembly) : Assembly := { s with recordNumber := 0, errCnt := s.errCnt + 1 }

/-- The body of the loop. -/
def readRecord (storagePath : String) (sizes : LogSizes) (s : Assembly) (x : Exchange) :
    Assembly :=
  let s := if s.recordNumber = 0 then { s with data := [], filename := "" } else s
  match x with
  | .unprepared => s.again
  | .failed => { s.again with lastErr := .LOG_RUN_ERR }
  | .answered check data =>
    match validateReadFileResponse storagePath s.recordNumber check data
        (expRspLen sizes s.recordNumber) s.filename with
    | none => s.again
    | some r =>
      let s := { s with lastErr := r.err, filename := r.filename }
      if r.valid then
        let dataTmp := data.getD []
        { s with
          data := s.data ++ (dataTmp.take (dataTmp.length - crcSize)).drop (headerSize + r.idx)
          recordNumber := s.recordNumber + 1 }
      else { s.again with lastErr := if r.err = .NO_ERR then .LOG_RSP_ERR else r.err }

theorem readRecord_counts (storagePath : String) (sizes : LogSizes) (s : Assembly) (x : Exchange) :
    ((readRecord storagePath sizes s x).errCnt = s.errCnt + 1 ∧
      (readRecord storagePath sizes s x).recordNumber = 0) ∨
    ((readRecord storagePath sizes s x).errCnt = s.errCnt ∧
      (readRecord storagePath sizes s x).recordNumber = s.recordNumber + 1) := by
  have hstart : ∀ s : Assembly,
      (if s.recordNumber = 0 then { s with data := [], filename := "" } else s).errCnt = s.errCnt ∧
      (if s.recordNumber = 0 then { s with data := [], filename := "" } else s).recordNumber =
        s.recordNumber := by
    intro s
    split <;> exact ⟨rfl, rfl⟩
  obtain ⟨herr, hrecord⟩ := hstart s
  unfold readRecord
  generalize (if s.recordNumber = 0 then { s with data := [], filename := "" } else s) = t at *
  cases x with
  | unprepared => exact .inl ⟨congrArg (· + 1) herr, rfl⟩
  | failed => exact .inl ⟨congrArg (· + 1) herr, rfl⟩
  | answered check data =>
    simp only
    split
    · exact .inl ⟨congrArg (· + 1) herr, rfl⟩
    · split
      · exact .inr ⟨herr, congrArg (· + 1) hrecord⟩
      · exact .inl ⟨congrArg (· + 1) herr, rfl⟩

/-- Each error costs at most one pass through the records. -/
theorem left_readRecord (storagePath : String) (sizes : LogSizes) (s : Assembly) (x : Exchange)
    (hrecord : s.recordNumber < sizes.nrRecords) (herr : s.errCnt < errCntMax) :
    (errCntMax - (readRecord storagePath sizes s x).errCnt) * sizes.nrRecords +
        (sizes.nrRecords - (readRecord storagePath sizes s x).recordNumber) <
      (errCntMax - s.errCnt) * sizes.nrRecords + (sizes.nrRecords - s.recordNumber) := by
  have hone : errCntMax - s.errCnt = (errCntMax - (s.errCnt + 1)) + 1 := by omega
  rcases readRecord_counts storagePath sizes s x with ⟨he, hr⟩ | ⟨he, hr⟩
  · rw [he, hr, hone, Nat.succ_mul]
    omega
  · rw [he, hr]
    omega

def recordLoop (storagePath : String) (sizes : LogSizes) : Loop Assembly Exchange where
  goesOn s := s.recordNumber < sizes.nrRecords ∧ s.errCnt < errCntMax
  turn := readRecord storagePath sizes
  left s := (errCntMax - s.errCnt) * sizes.nrRecords + (sizes.nrRecords - s.recordNumber)
  left_lt s x h := by
    simp only [decide_eq_true_eq] at h
    exact left_readRecord storagePath sizes s x h.1 h.2

/-! ### The log -/

/-- What stays the same while a log is read: the lift's address, the directory of the logs, the
outcome of the `k`-th exchange for a request, the outcome of `_save_log`, and the disk. -/
structure Surroundings where
  unit : Nat
  storagePath : String
  exchange : Nat → Request → Exchange
  saveLog : String → Bytes → Bool × String
  enoughFreeSpace : Bool

/-- A call of `_save_log`: what it is given, and what it gives back. -/
structure SaveCall where
  fname : String
  data : Bytes
  ret : Bool
  savedAs : String

def Surroundings.callSaveLog (w : Surroundings) (fname : String) (data : Bytes) : SaveCall :=
  ⟨fname, data, (w.saveLog fname data).1, (w.saveLog fname data).2⟩

/-- The reply, without a name for -1, with the call of `_save_log`, if there was one, and with
what has been counted on the way. -/
structure Retrieval where
  fname : Option String
  code : MbCode
  saved : Option SaveCall
  exchanges : Nat
  errors : Nat

/-- The number of exchanges, and what the loop has put together from them. -/
def recordsRead (w : Surroundings) (logType : String) (sizes : LogSizes) : Nat × Assembly :=
  (recordLoop w.storagePath sizes).run
    (fun k s => w.exchange k (prepareRequest w.unit logType sizes s.recordNumber)) 0 .start

def generateTraceLog (w : Surroundings) (logType : String) : Retrieval :=
  match logSizes logType with
  | none => ⟨none, .LOG_TYPE_ERR, none, 0, 0⟩
  | some sizes =>
    let (exchanges, s) := recordsRead w logType sizes
    if errCntMax ≤ s.errCnt then
      ⟨none, if s.lastErr = .NO_ERR then .LOG_ERR_CNT else s.lastErr, none, exchanges, s.errCnt⟩
    else
      let call := w.callSaveLog s.filename s.data
      if !call.ret then ⟨none, .LOG_SAVE_ERR, some call, exchanges, s.errCnt⟩
      else
        let code := if !w.enoughFreeSpace && s.lastErr = .NO_ERR then .DISK_LIMIT_ERR else s.lastErr
        ⟨some call.savedAs, code, some call, exchanges, s.errCnt⟩

end NexyGateway.TraceLogs
