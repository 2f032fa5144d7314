import NexyGateway.AhlLib
import NexyGateway.ModbusHandler
import NexyGateway.Runs

/-!
# The cache of an AHL lift

The lift controller is a map of registers with a word of change flags; the gateway
polls it, writes to it and keeps a cache. Polls and writes exclude each other, but
the lift may change a register between any two exchanges on the bus.
-/
namespace NexyGateway.AhlCache

open AhlLib ModbusHandler

/-- The value of a 32-bit register. -/
@[ext]
structure Register where
  val : Int
  lower : -2 ^ 31 ≤ val
  upper : val < 2 ^ 31
  deriving DecidableEq

def register? (v : Int) : Option Register :=
  if h : -2 ^ 31 ≤ v ∧ v < 2 ^ 31 then some ⟨v, h.1, h.2⟩ else none

/-- The reply that carries a register. -/
def Register.reply (r : Register) : Response :=
  .pdu false 3 (some [r.val / 2 ^ 16 % 2 ^ 16, r.val % 2 ^ 16]) none none

/-- Registers and the change flags, one bit for each group of the polling table. -/
structure Lcm where
  reg : Nat → Register
  flags : BitVec 31

/-- The groups that a parameter is in. -/
def groups (table : Nat → List Nat) (param : Nat) : BitVec 31 :=
  (List.range 31).foldl
    (fun word bit => if param ∈ table bit then word ||| BitVec.twoPow 31 bit else word) 0

/-- A register that gets another value sets the flag of every group it is in. -/
def Lcm.change (table : Nat → List Nat) (param : Nat) (r : Register) (lcm : Lcm) : Lcm :=
  if lcm.reg param = r then lcm
  else
    { reg := fun p => if p = param then r else lcm.reg p
      flags := lcm.flags ||| groups table param }

def flagsParam : Nat := 2

/-- Reading the flags clears them. -/
def Lcm.read (param : Nat) (lcm : Lcm) : Register × Lcm :=
  if param = flagsParam then
    (⟨lcm.flags.toNat, by omega, by have := lcm.flags.isLt; omega⟩, { lcm with flags := 0 })
  else (lcm.reg param, lcm)

/-- What the gateway is doing, with the lift's bus or with its cache. -/
inductive Activity where
  | idle
  | sweeping (remaining : List Nat)
  | mirroring (param : Nat) (value : Int)
  | readingBack (param : Nat)
  deriving DecidableEq

structure Link where
  lcm : Lcm
  cache : Cache
  forceReadAll : Bool
  activity : Activity

/-- The value of a reply without an error code. -/
def receivedValue (response : Response) : Option Int :=
  let ret := validateReadParamResponse response
  if ret.2.2 = .NO_ERR then some ret.1 else none

/-- The last try of `read_parameter`: it gets the controller's reply or it fails. -/
def Link.readParam (ok : Bool) (param : Nat) (s : Link) : Option Int × Link :=
  if ok then (receivedValue (s.lcm.read param).1.reply, { s with lcm := (s.lcm.read param).2 })
  else (receivedValue (.raised "ModbusIOException"), s)

/-- The library's poll has returned, and the proxy clears its flag. -/
def Link.finish (s : Link) : Link := { s with forceReadAll := false, activity := .idle }

def Link.sweep (remaining : List Nat) (s : Link) : Link :=
  match remaining with
  | [] => s.finish
  | _ => { s with activity := .sweeping remaining }

/-- The first exchange of `poll_params`. A forced poll takes every group for changed. -/
def Link.poll (table : Nat → List Nat) (force ok : Bool) (s : Link) : Link :=
  let (value, s') := s.readParam ok flagsParam
  if force || s.forceReadAll then
    s'.sweep ((decodeChangeFlags table 0x7FFFFFFF).filter (fun p => inDatabase p))
  else
    match value with
    | none => s'.finish
    | some bitmask =>
      if bitmask = 0 then s'.finish
      else s'.sweep ((decodeChangeFlags table bitmask).filter (fun p => inDatabase p))

/-- One individual read; a parameter that cannot be read is passed over. -/
def Link.readNext (ok : Bool) (param : Nat) (rest : List Nat) (s : Link) : Link :=
  let (value, s') := s.readParam ok param
  match value with
  | none => s'.sweep rest
  | some v => { s' with cache := (setParam param v s'.cache).1 }.sweep rest

/-- The text that is written: controllers up to version 349 want some values shifted. -/
def storedText (oldLcm : Bool) (param value : String) : Option String :=
  if param ∈ resetAlarmParams ∧ oldLcm then
    (PyNumber.int value).bind (fun v => PyNumber.str (v * 2))
  else some value

/-- A write that the controller accepts. -/
structure Write where
  param : Nat
  stored : Register
  requested : Int
  deriving DecidableEq

def write? (oldLcm : Bool) (param value : String) : Option Write :=
  match convertParamAddr param, storedText oldLcm param value, parseIntValue value with
  | some addr, some text, some requested =>
    ((parseIntValue text).bind register?).map (fun stored => ⟨addr / 2, stored, requested⟩)
  | _, _, _ => none

inductive Event where
  | change (param : Nat) (r : Register)
  | poll (force ok : Bool)
  | read (ok : Bool)
  | writeParam (oldLcm : Bool) (param value : String)
  | writeReadParam (oldLcm : Bool) (param value : String)
  | mirror
  | readBack (ok : Bool)

def Link.store (table : Nat → List Nat) (w : Write) (s : Link) : Link :=
  { s with lcm := s.lcm.change table w.param w.stored }

def Link.mirror (param : Nat) (value : Int) (s : Link) : Link :=
  { s with cache := (setParam param value s.cache).1, activity := .idle }

/-- Only a verified read-back goes to the cache. -/
def Link.readBack (ok : Bool) (param : Nat) (s : Link) : Link :=
  let (value, s') := s.readParam ok param
  match value with
  | none => { s' with activity := .idle }
  | some v => s'.mirror param v

def step (newTable : Bool) (s : Link) : Event → Option Link
  | .change param r => some { s with lcm := s.lcm.change (pollingTable newTable) param r }
  | .poll force ok =>
    match s.activity with
    | .idle => some (s.poll (pollingTable newTable) force ok)
    | _ => none
  | .read ok =>
    match s.activity with
    | .sweeping (param :: rest) => some (s.readNext ok param rest)
    | _ => none
  | .writeParam oldLcm param value =>
    match s.activity with
    | .idle => (write? oldLcm param value).map (fun w =>
        { s.store (pollingTable newTable) w with activity := .mirroring w.param w.requested })
    | _ => none
  | .writeReadParam oldLcm param value =>
    match s.activity with
    | .idle => (write? oldLcm param value).map (fun w =>
        { s.store (pollingTable newTable) w with activity := .readingBack w.param })
    | _ => none
  | .mirror =>
    match s.activity with
    | .mirroring param value => some (s.mirror param value)
    | _ => none
  | .readBack ok =>
    match s.activity with
    | .readingBack param => some (s.readBack ok param)
    | _ => none

/-- A link right after the bind: nothing is known about the lift, and a sweep is due. -/
def bound (lcm : Lcm) (cache : Cache) : Link := ⟨lcm, cache, true, .idle⟩

end NexyGateway.AhlCache
