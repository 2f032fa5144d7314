import NexyGateway.LiftFiles
import NexyGateway.Runs

/-!
# Polling the 1k lift

`Rs232Handler.poll_lift`, one step for each package and for each stage behind them. An
exception ends a poll where it is raised, with everything that has been stored so far
left in place. Between polls other operations read the bus and write to the database.
-/
namespace NexyGateway.Rs232Handler

open PyNumber PyJson ThousandLib

def minusOne : Json := .int (-1)

section Requests

/-- A request for one command; without a port nothing comes in. -/
def ask (available : Bool) (cmd type : String) (reads : List FrameRead) (saved : Saved) :
    Except PyError Split × Saved :=
  if available then getSignalFromSerialBuffer cmd type reads saved
  else (.ok (.empty .SERIAL_COM_ERR), saved)

/-- `resp_wanted[0]['data']`. -/
def wantedData (split : Split) : Except PyError Json :=
  match split.wanted with
  | .logs _ => .error .keyError
  | .frames [] => .error .indexError
  | .frames (rsp :: _) =>
    match rsp.lookup "data" with
    | none => .error .keyError
    | some data => .ok data

def textResponse (split : Split) : Except PyError (Json × Rs232Code) :=
  (wantedData split).map (fun data => (.list [data], .NO_ERR))

/-- `get_ar_version` and `get_door_open_count` catch what the text requests do not. -/
def caughtResponse (split : Split) : Except PyError (Json × Rs232Code) :=
  match wantedData split with
  | .error _ => .ok (minusOne, .DATA_LEN_ERR)
  | .ok data => .ok (data, .NO_ERR)

def operationResponse (split : Split) : Except PyError (Json × Rs232Code) :=
  (wantedData split).map fun data =>
    if data.truthy && data.isList then (data, .NO_ERR) else (minusOne, .DATA_TYPE_ERR)

/-- `__repackage_status`: the data of the last frame, if every frame has a list. -/
def repackageStatus (status : List Dict) : Except Rs232Code (List Json) :=
  let lists := status.mapM (fun rsp =>
    match rsp.lookup "data" with
    | some (.list data) => some data
    | _ => none)
  match lists with
  | none => .error .ARG_TYPE_ERR
  | some lists =>
    match lists.getLast? with
    | none => .error .STATUS_ERR
    | some data => .ok data

/-- An empty status is no status, but the code says that it is one. -/
def statusResponse (split : Split) : Except PyError (Json × Rs232Code) :=
  match repackageStatus split.status with
  | .error code => .ok (minusOne, code)
  | .ok [] => .ok (minusOne, .NO_ERR)
  | .ok data => .ok (.list data, .NO_ERR)

/-- The command, its type, and what is made of the frames it gets. -/
structure Query where
  cmd : String
  type : String
  response : Split → Except PyError (Json × Rs232Code)

def fileResponse (split : Split) : Except PyError (Json × Rs232Code) :=
  (fileReply split).map (fun reply => (reply.fileData.getD minusOne, reply.errCode))

def query : Package → Query
  | .liftRef1 => ⟨"liftRef1", "", textResponse⟩
  | .liftRef2 => ⟨"liftRef2", "", textResponse⟩
  | .liftName => ⟨"liftName", "", textResponse⟩
  | .version => ⟨"version", "", caughtResponse⟩
  | .package130 => ⟨"operation", "130", statusResponse⟩
  | .package2 => ⟨"operation", "2", operationResponse⟩
  | .package131 => ⟨"operation", "131", operationResponse⟩
  | .package134 => ⟨"operation", "134", operationResponse⟩
  | .package133 => ⟨"operation", "133", operationResponse⟩
  | .doorOpenCount => ⟨"getOpenCount", "", caughtResponse⟩
  | .readFileParam | .readFileIntern | .readFileNode | .readFileLock | .readFileDoor =>
    ⟨"readFile", "", fileResponse⟩

/-- The request for a package: its response and code, or the exception. -/
def exchange (available : Bool) (package : Package) (reads : List FrameRead) (saved : Saved) :
    Except PyError (Json × Rs232Code) × Saved :=
  let q := query package
  match ask available q.cmd q.type reads saved with
  | (.error e, saved') => (.error e, saved')
  | (.ok split, saved') =>
    (if split.errCode ≠ .NO_ERR then .ok (minusOne, split.errCode) else q.response split, saved')

end Requests

section Versions

/-- `[U1, U16]` as main and sub version. -/
def doorOpenCountVersionLimits : (Int × Int) × (Int × Int) := ((4, 7), (1, 2))

def atLeast (installed required : Int × Int) : Bool :=
  required.1 < installed.1 || (required.1 = installed.1 && required.2 ≤ installed.2)

/-- A version that has not been polled, or does not read as a number, is below every limit. -/
def checkIfAboveOrEqualToVersions (limits : (Int × Int) × (Int × Int)) (lib : Lib) :
    Except PyError Bool :=
  let installed := ([5, 6, 93, 94] : List Int).map lib.value
  if installed.any (fun v => v.eq (.str "")) then .ok false
  else
    match installed.mapM Json.toInt with
    | .ok [u1, u1Sub, u16, u16Sub] => .ok (atLeast (u1, u1Sub) limits.1 && atLeast (u16, u16Sub) limits.2)
    | .ok _ => .ok false
    | .error .valueError => .ok false
    | .error .indexError => .ok false
    | .error e => .error e

end Versions

/-- What the two counter files hold when they are read. -/
structure CounterFiles where
  total : Nat → Int
  previous : Nat → Int

/-- The files are read on the first poll, and after the lift has reset a counter. -/
def loadCounters (files : CounterFiles) (lib : Lib) : Lib :=
  if lib.resetSavedOpenDoorCounter then
    { lib with
      totalOpenDoorCounters := files.total
      previousOpenDoorCounters := files.previous
      resetSavedOpenDoorCounter := false }
  else lib

inductive Phase where
  | ready
  | polling (pending : List Package)
  | notifying
  | draining (remaining : List Dict) (params : List Int) (errCode : Rs232Code)
  | returned (response : Option String) (errCode : Rs232Code)
  | raised (e : PyError)

/-- A handler at work: the ids that the poll has collected, its code so far, and the values
of the database at its start. -/
structure Poll where
  handler : Handler
  phase : Phase
  updated : List Int
  errCode : Rs232Code
  start : Int → Json

inductive Event where
  | begin (forceReadAll : Bool)
  | package (reads : List FrameRead) (files : CounterFiles)
  | virtual
  | notification
  | vfdResult
  | finish
  /-- Another operation reads the bus, or stores a written value. -/
  | read (cmd type : String) (reads : List FrameRead)
  | write (param : Int) (value : String)

def alwaysPolledPackages : List Package :=
  [.liftRef1, .liftRef2, .liftName, .version, .package130, .package2, .package131, .package134,
   .package133, .doorOpenCount]

def filePackages : List Package :=
  [.readFileParam, .readFileIntern, .readFileNode, .readFileLock, .readFileDoor]

/-- A forced poll takes in all file packages, any other one the next in turn. -/
def polledPackages (forceReadAll : Bool) (turn : Fin 5) : List Package :=
  alwaysPolledPackages ++ if forceReadAll then filePackages else [filePackages.get turn]

/-- There is a first file package. -/
instance filePackages_neZero : NeZero 5 := ⟨by decide⟩

/-- After the last file package it is the turn of the first one. -/
def nextTurn (forceReadAll : Bool) (turn : Fin 5) : Fin 5 :=
  if forceReadAll then turn else turn + 1

def Handler.withLib (lib : Lib) (h : Handler) : Handler := { h with lib := lib }

def beginPoll (forceReadAll : Bool) (h : Handler) : Poll where
  handler := { h with
    lib := resetDoorClosingTimeParams h.lib
    polledFilePackage := nextTurn forceReadAll h.polledFilePackage }
  phase := .polling (polledPackages forceReadAll h.polledFilePackage)
  updated := []
  errCode := .NO_ERR
  start := h.lib.value

def Poll.raise (e : PyError) (s : Poll) : Poll := { s with phase := .raised e }

/-- A code that ends the poll at once: the bus is dead. -/
def isDead (code : Rs232Code) : Bool := code = .NO_WAITING_BYTES_ERR || code = .SERIAL_COM_ERR

/-- Takes an update over. A partly unpacked package reports nothing of what it has stored. -/
def Poll.take (u : Update) (rest : List Package) (s : Poll) : Poll :=
  let s' := { s with handler := s.handler.withLib u.lib }
  match u.error with
  | some e => s'.raise e
  | none =>
    if u.errCode ≠ .NO_ERR then { s' with errCode := .PARTIAL_ERR, phase := .polling rest }
    else { s' with updated := s.updated ++ u.changed, phase := .polling rest }

def updateFor (clock : Int → Int) (package : Package) (response : Json) (lib : Lib) : Update :=
  if package = .doorOpenCount then
    -- the caller does not look at the code of the counters
    { doorOpenCountRecalculate clock response lib with errCode := .NO_ERR }
  else getUpdatedParams clock package response lib

/-- What is left of the loop body once the request has ended. -/
def Poll.receive (clock : Int → Int) (package : Package) (rest : List Package)
    (outcome : Except PyError (Json × Rs232Code)) (s : Poll) : Poll :=
  match outcome with
  | .error e => s.raise e
  | .ok (response, code) =>
    if isDead code then { s with phase := .returned none code }
    else if code ≠ .NO_ERR then { s with errCode := .PARTIAL_ERR, phase := .polling rest }
    else s.take (updateFor clock package response s.handler.lib) rest

/-- A package is asked for unless it is the door counters of an old lift. -/
def isPolled (package : Package) (lib : Lib) : Except PyError Bool :=
  if package = .doorOpenCount then checkIfAboveOrEqualToVersions doorOpenCountVersionLimits lib
  else .ok true

/-- The handler when a request for the package goes out. -/
def prepared (package : Package) (files : CounterFiles) (h : Handler) : Handler :=
  if package = .doorOpenCount then h.withLib (loadCounters files h.lib) else h

def pollPackage (clock : Int → Int) (package : Package) (rest : List Package)
    (reads : List FrameRead) (files : CounterFiles) (s : Poll) : Poll :=
  match isPolled package s.handler.lib with
  | .error e => s.raise e
  | .ok false => { s with phase := .polling rest }
  | .ok true =>
    let h := prepared package files s.handler
    let (outcome, saved) := exchange h.available package reads h.saved
    { s with handler := { h with saved := saved } }.receive clock package rest outcome

/-- The virtual parameters are reported even if some of them fail. -/
def pollVirtual (clock : Int → Int) (s : Poll) : Poll :=
  let u := updateVirtualSignals clock s.handler.lib
  let s' := { s with handler := s.handler.withLib u.lib }
  match u.error with
  | some e => s'.raise e
  | none =>
    { s' with
      errCode := if u.errCode ≠ .NO_ERR then .PARTIAL_ERR else s.errCode
      updated := s.updated ++ u.changed
      phase := .notifying }

/-- The response that `get_notification` hands to the library: nothing, or the last list. -/
def closingTimes (operation : List Dict) : List Json :=
  match repackageStatus (operation.filter (fun rsp => typeIs rsp doorClosingTimeType)) with
  | .ok data => data
  | .error _ => []

def notificationUpdate (clock : Int → Int) (h : Handler) : Update :=
  if (closingTimes h.saved.operation).isEmpty then .start h.lib
  else updateDoorClosingTime clock (.list (closingTimes h.saved.operation)) h.lib

def pollNotification (clock : Int → Int) (s : Poll) : Poll :=
  let u := notificationUpdate clock s.handler
  match u.error with
  | some e => { s with handler := s.handler.withLib u.lib }.raise e
  | none =>
    { s with
      handler := { s.handler with
        lib := reset135Params u.lib
        saved := { s.handler.saved with operation := [] } }
      errCode := if u.errCode ≠ .NO_ERR then .PARTIAL_ERR else s.errCode
      updated := s.updated ++ u.changed
      phase := .draining s.handler.saved.vfdResult [] .NO_ERR }

/-- The queue is cleared behind the loop, so an exception leaves all of it. -/
def pollVfdResult (resp : Dict) (remaining : List Dict) (params : List Int) (s : Poll) : Poll :=
  let u := updateVfdParams resp s.handler.lib
  let s' := { s with handler := s.handler.withLib u.lib }
  match u.error with
  | some e => s'.raise e
  | none => { s' with phase := .draining remaining (params ++ u.changed) u.errCode }

/-- `set(params)`, in the order of its numbers. -/
def vfdIds (params : List Int) : List Int :=
  ([169, 170, 171, 172] : List Int).filter (fun p => p ∈ params)

def joinIds (ids : List Int) : String :=
  String.ofList (List.intercalate ['x'] (ids.map (fun p => (toString p).toList)))

/-- The reply for the ids that have been collected. -/
def response (ids : List Int) (errCode : Rs232Code) : Phase :=
  if ids.isEmpty then
    .returned (some "0") (if errCode = .NO_ERR then .NO_UPDATED_PARAMS else errCode)
  else .returned (some (joinIds ids)) errCode

def finishPoll (params : List Int) (code : Rs232Code) (s : Poll) : Poll :=
  let errCode := if code ≠ .NO_ERR then .PARTIAL_ERR else s.errCode
  let updated := s.updated ++ vfdIds params
  { s with
    handler := { s.handler with saved := { s.handler.saved with vfdResult := [] } }
    errCode := errCode
    updated := updated
    phase := response updated errCode }

/-- No poll is under way. -/
def Phase.isIdle : Phase → Bool
  | .ready | .returned .. | .raised _ => true
  | _ => false

def step (clock : Int → Int) (s : Poll) : Event → Option Poll
  | .begin forceReadAll =>
    if s.phase.isIdle then some (beginPoll forceReadAll s.handler) else none
  | .package reads files =>
    match s.phase with
    | .polling (package :: rest) => some (pollPackage clock package rest reads files s)
    | _ => none
  | .virtual =>
    match s.phase with
    | .polling [] => some (pollVirtual clock s)
    | _ => none
  | .notification =>
    match s.phase with
    | .notifying => some (pollNotification clock s)
    | _ => none
  | .vfdResult =>
    match s.phase with
    | .draining (resp :: remaining) params _ => some (pollVfdResult resp remaining params s)
    | _ => none
  | .finish =>
    match s.phase with
    | .draining [] params code => some (finishPoll params code s)
    | _ => none
  | .read cmd type reads =>
    if s.phase.isIdle then
      some { s with
        handler := { s.handler with
          saved := (ask s.handler.available cmd type reads s.handler.saved).2 }
        phase := .ready }
    else none
  | .write param value =>
    if s.phase.isIdle then
      some { s with handler := s.handler.withLib (s.handler.lib.set param (.str value)), phase := .ready }
    else none

/-- The steps that there are, each from the phase it is taken in. -/
inductive Stepped (clock : Int → Int) (s : Poll) : Event → Poll → Prop
  | begin (forceReadAll : Bool) (idle : s.phase.isIdle = true) :
      Stepped clock s (.begin forceReadAll) (beginPoll forceReadAll s.handler)
  | package (reads : List FrameRead) (files : CounterFiles) {package : Package}
      {rest : List Package} (polling : s.phase = .polling (package :: rest)) :
      Stepped clock s (.package reads files) (pollPackage clock package rest reads files s)
  | virtual (polling : s.phase = .polling []) : Stepped clock s .virtual (pollVirtual clock s)
  | notification (notifying : s.phase = .notifying) :
      Stepped clock s .notification (pollNotification clock s)
  | vfdResult {resp : Dict} {remaining : List Dict} {params : List Int} {code : Rs232Code}
      (draining : s.phase = .draining (resp :: remaining) params code) :
      Stepped clock s .vfdResult (pollVfdResult resp remaining params s)
  | finish {params : List Int} {code : Rs232Code} (draining : s.phase = .draining [] params code) :
      Stepped clock s .finish (finishPoll params code s)
  | read (cmd type : String) (reads : List FrameRead) (idle : s.phase.isIdle = true) :
      Stepped clock s (.read cmd type reads) { s with
        handler := { s.handler with
          saved := (ask s.handler.available cmd type reads s.handler.saved).2 }
        phase := .ready }
  | write (param : Int) (value : String) (idle : s.phase.isIdle = true) :
      Stepped clock s (.write param value) { s with
        handler := s.handler.withLib (s.handler.lib.set param (.str value)), phase := .ready }

theorem stepped {clock : Int → Int} {s t : Poll} {e : Event} (h : step clock s e = some t) :
    Stepped clock s e t := by
  cases e with
  | begin forceReadAll =>
    obtain ⟨idle, ⟨⟩⟩ := Option.ite_none_right_eq_some.mp h
    exact .begin forceReadAll idle
  | package reads files =>
    simp only [step] at h
    split at h <;> cases h
    exact .package reads files ‹_›
  | virtual =>
    simp only [step] at h
    split at h <;> cases h
    exact .virtual ‹_›
  | notification =>
    simp only [step] at h
    split at h <;> cases h
    exact .notification ‹_›
  | vfdResult =>
    simp only [step] at h
    split at h <;> cases h
    exact .vfdResult ‹_›
  | finish =>
    simp only [step] at h
    split at h <;> cases h
    exact .finish ‹_›
  | read cmd type reads =>
    obtain ⟨idle, ⟨⟩⟩ := Option.ite_none_right_eq_some.mp h
    exact .read cmd type reads idle
  | write param value =>
    obtain ⟨idle, ⟨⟩⟩ := Option.ite_none_right_eq_some.mp h
    exact .write param value idle

/-- What a request has come to, and where it takes the poll. -/
theorem receive_cases (clock : Int → Int) (package : Package) (rest : List Package)
    (outcome : Except PyError (Json × Rs232Code)) (s : Poll) :
    (∃ e, outcome = .error e ∧ s.receive clock package rest outcome = s.raise e) ∨
    (∃ response code, outcome = .ok (response, code) ∧ isDead code = true ∧
      s.receive clock package rest outcome = { s with phase := .returned none code }) ∨
    (∃ response code, outcome = .ok (response, code) ∧ isDead code = false ∧ code ≠ .NO_ERR ∧
      s.receive clock package rest outcome =
        { s with errCode := .PARTIAL_ERR, phase := .polling rest }) ∨
    (∃ response, outcome = .ok (response, .NO_ERR) ∧ s.receive clock package rest outcome =
      s.take (updateFor clock package response s.handler.lib) rest) := by
  cases outcome with
  | error e => exact .inl ⟨e, rfl, rfl⟩
  | ok result =>
    obtain ⟨response, code⟩ := result
    by_cases hcode : code = .NO_ERR
    · subst hcode
      exact .inr (.inr (.inr ⟨response, rfl, rfl⟩))
    · cases hdead : isDead code with
      | true => exact .inr (.inl ⟨response, code, rfl, hdead, by simp [Poll.receive, hdead]⟩)
      | false =>
        refine .inr (.inr (.inl ⟨response, code, rfl, hdead, hcode, ?_⟩))
        simp [Poll.receive, hdead, hcode]

@[simp] theorem take_lib (u : Update) (rest : List Package) (s : Poll) :
    (s.take u rest).handler.lib = u.lib := by
  unfold Poll.take
  cases u.error with
  | some e => rfl
  | none => by_cases hcode : u.errCode = .NO_ERR <;> simp [hcode, Handler.withLib]

@[simp] theorem prepared_value (package : Package) (files : CounterFiles) (h : Handler) :
    (prepared package files h).lib.value = h.lib.value := by
  unfold prepared loadCounters Handler.withLib
  split
  · split <;> rfl
  · rfl

/-- A handler that is not polling. -/
def resting (h : Handler) : Poll := ⟨h, .ready, [], .NO_ERR, h.lib.value⟩

/-- `Rs232Handler(ThousandLib())`, with or without the port. -/
def booted (available : Bool) : Poll := resting ⟨.fresh, ⟨[], []⟩, 0, available⟩

/-- `ThousandLib.poll_params`: the ids in the text of a reply, none for one that is just `0`. -/
def pollParams (response : Option String) (errCode : Rs232Code) : List Int :=
  if errCode ≠ .NO_ERR ∧ errCode ≠ .PARTIAL_ERR then []
  else
    match response with
    | none => []
    | some text =>
      if text = "0" then []
      else
        let parts := (text.toList.splitOn 'x').filter (fun part => !part.isEmpty)
        (parts.mapM (fun part => PyNumber.int (String.ofList part))).getD []

end NexyGateway.Rs232Handler
