import NexyGateway.ErrorSignals
import NexyGateway.PyJson

/-!
# Signals of the 1k lift

The protocol table of `lib/thousand_lib.py` and the functions that unpack one signal
from a package.
-/
namespace NexyGateway.ThousandLib

open PyNumber PyJson

inductive SignalType where
  | uint | wtime | byte | string | time | genericText | vfd
  deriving DecidableEq

/-- `Signal` without its value, which is in the database, and its name. -/
structure Signal where
  param : Int
  bitStart : Nat
  bitSize : Nat
  byteStart : Nat
  byteSize : Nat
  type : SignalType
  deriving DecidableEq

def genericText (param : Int) : Signal := ⟨param, 0, 0, 0, 39, .genericText⟩

def byte (param : Int) (byteStart : Nat) : Signal := ⟨param, 0, 8, byteStart, 1, .byte⟩

def nibble (param : Int) (bitStart byteStart : Nat) : Signal :=
  ⟨param, bitStart, 4, byteStart, 1, .byte⟩

def bit (byteStart : Nat) (signal : Int × Nat) : Signal :=
  ⟨signal.1, signal.2, 1, byteStart, 1, .byte⟩

def uint16 (param : Int) (byteStart : Nat) : Signal := ⟨param, 0, 16, byteStart, 2, .uint⟩

def uint32 (param : Int) (byteStart : Nat) : Signal := ⟨param, 0, 32, byteStart, 4, .uint⟩

def wtime (param : Int) (byteStart : Nat) : Signal := ⟨param, 0, 32, byteStart, 4, .wtime⟩

def paramsLiftAr : List Signal := [genericText 0]

def paramsLiftType : List Signal := [genericText 1]

def paramsLiftName : List Signal := [genericText 144]

def paramsVersion : List Signal :=
  [byte 93 0, byte 94 1, byte 95 2, byte 96 3, byte 161 4, byte 162 5, byte 163 6, byte 164 7,
   byte 165 8, byte 166 9, byte 167 10, byte 168 11]

def params2 : List Signal :=
  [⟨2, 0, 32, 0, 4, .time⟩, ⟨3, 0, 32, 4, 4, .time⟩, ⟨4, 0, 160, 8, 20, .string⟩, byte 5 28,
   byte 6 29, byte 7 30, byte 8 31]

/-- The six bits of a floor; the last one is its floor lock. -/
def floorSignals (byteStart : Nat) (first floorLock : Int) : List Signal :=
  [(first, 0), (first + 1, 1), (first + 2, 2), (first + 3, 3), (first + 4, 4), (floorLock, 5)].map
    (bit byteStart)

def params130 : List Signal :=
  [byte 10 2, nibble 11 4 0, byte 12 1, byte 13 3, nibble 14 0 4]
    ++ floorSignals 5 15 146 ++ floorSignals 6 20 147 ++ floorSignals 7 25 148
    ++ floorSignals 8 30 149 ++ floorSignals 9 35 150 ++ floorSignals 10 40 151
    ++ [(45, 0), (46, 1), (47, 2), (48, 4), (49, 5), (50, 6), (51, 7)].map (bit 13)
    ++ [(52, 2), (53, 3), (54, 4), (55, 5), (56, 6)].map (bit 14)
    ++ [(58, 1), (59, 2), (60, 3), (61, 4), (62, 6), (63, 7)].map (bit 15)
    ++ [(64, 0), (65, 1), (145, 5), (153, 6), (154, 7)].map (bit 16)

def params131 : List Signal :=
  [wtime 68 0, wtime 69 4, wtime 70 8, wtime 71 12, wtime 72 16, wtime 73 20, wtime 74 24,
   wtime 75 28, wtime 76 32, wtime 77 36, wtime 78 40, wtime 79 44, wtime 80 48, wtime 81 52,
   wtime 82 56, wtime 83 60, wtime 84 64, wtime 85 68, wtime 86 80, wtime 87 84, wtime 88 88,
   wtime 89 92, wtime 90 96]

def params133 : List Signal := [uint16 179 4, uint16 180 6, uint16 181 12]

def params134 : List Signal := [uint16 91 0, uint32 66 32, uint32 67 36]

def doorNumber : Signal := uint16 (-1) 0

def doorClosingTime : Signal := uint16 (-2) 2

/-- Words of a file, one after the other from its start. -/
def fileSignals (first : Int) (count : Nat) : List Signal :=
  (List.range count).map (fun i : Nat => uint16 (first + i) (2 * i))

def paramsReadFileParam : List Signal := fileSignals 97 15

def paramsReadFileIntern : List Signal := fileSignals 112 14

def paramsReadFileNode : List Signal := fileSignals 126 6

def paramsReadFileLock : List Signal := fileSignals 132 6

def paramsReadFileDoor : List Signal := fileSignals 138 6

def paramsDoorOpenCount : List Signal :=
  [uint32 173 0, uint32 174 4, uint32 175 8, uint32 176 12, uint32 177 16, uint32 178 20]

/-- The virtual signals; the impulse and the floor lock are put together from other values. -/
def batteryState : Signal := nibble 9 0 0

def impulse : Signal := bit 15 (57, 0)

def temp : Signal := uint16 92 26

def floorLock : Signal := ⟨152, 0, 0, 0, 0, .byte⟩

def doorClosingTimeParams : List Int := [155, 156, 157, 158, 159, 160]

def vfdMotorCurrent : Signal := ⟨169, 0, 0, 4, 2, .vfd⟩
def vfdMotorPower : Signal := ⟨170, 0, 0, 4, 2, .vfd⟩
def vfdLineMainsVoltage : Signal := ⟨171, 0, 0, 4, 2, .vfd⟩
def vfdDriveThermalState : Signal := ⟨172, 0, 0, 4, 2, .vfd⟩

/-- The elements of a package that a signal is unpacked from. -/
def Signal.region (sig : Signal) (response : Json) : Except PyError (List Json) :=
  (List.range' sig.byteStart sig.byteSize).mapM response.item

def isByte (v : Json) : Bool :=
  match v.toInt with
  | .ok n => 0 ≤ n && n ≤ 255
  | .error _ => false

/-- `__validate_bytes`: what `int` makes of the elements, not what they are, is checked. -/
def validateBytes (sig : Signal) (response : Json) : Bool :=
  match sig.region response with
  | .ok items => items.all isByte
  | .error _ => false

def octet (v : Json) : Except PyError Nat := v.integer.map Int.toNat

/-- Little endian. -/
def unpackUint (sig : Signal) (response : Json) : Except PyError Int := do
  let items ← sig.region response
  let octets ← items.mapM octet
  return (octets.foldr (fun b out => out <<< 8 ||| b) 0 : Nat)

def maxTime : Int := 60 * 60 * 24 * 7

/-- Seconds since the alarm, counted from the present; zero stays zero. -/
def unpackWeeklyTimer (now : Int) (sig : Signal) (response : Json) : Except PyError Int := do
  let time ← unpackUint sig response
  return if time = 0 then 0 else now - (maxTime - time)

def unpackByte (sig : Signal) (response : Json) : Except PyError Int := do
  let b ← response.item sig.byteStart
  let out ← octet b
  return (out >>> sig.bitStart &&& (2 ^ sig.bitSize - 1) : Nat)

def unsupportedChars : List Char := [' ', ',']

/-- Characters up to the first zero. -/
def unpackChars : List Json → Except PyError (List Char)
  | [] => .ok []
  | v :: rest =>
    if v.eq (.int 0) then .ok []
    else
      match octet v with
      | .error e => .error e
      | .ok n =>
        (unpackChars rest).map fun cs =>
          if Char.ofNat n ∈ unsupportedChars then cs else Char.ofNat n :: cs

def unpackString (sig : Signal) (response : Json) : Except PyError String := do
  let items ← sig.region response
  let cs ← unpackChars items
  return String.ofList cs

def withSpaces (c : Char) : Char := if c = ',' ∨ c = '_' then ' ' else c

/-- What is left of a text that is too long. -/
def cutTo {α : Type} (size : Nat) (l : List α) : List α :=
  if size ≤ l.length then l.take (size - 1) else l

/-- `',' in items or '_' in items`. -/
def hasSeparator (items : List Json) : Bool :=
  items.any (fun v => v.eq (.str ",") || v.eq (.str "_"))

/-- A text is cut and cleaned. Other values of a length get as far as they act like a text. -/
def unpackGenericText (sig : Signal) (response : Json) : Except PyError Json := do
  match ← response.item sig.byteStart with
  | .str s => return .str (String.ofList ((cutTo sig.byteSize s.toList).map withSpaces))
  | .list items =>
    if hasSeparator (cutTo sig.byteSize items) then .error .attributeError
    else return .list (cutTo sig.byteSize items)
  | .dict members =>
    if sig.byteSize ≤ members.length then .error .keyError
    else if Dict.has members "," || Dict.has members "_" then .error .attributeError
    else return .dict members
  | _ => .error .typeError

def from1970To2001 : Int := 978307200

def unpackAsEpochTime (sig : Signal) (response : Json) : Except PyError Int := do
  let time ← unpackUint sig response
  return from1970To2001 + time

/-- What a failed unpacking returns for a value. -/
def unset : Json := .str "-1"

def unpacked (n : Int) : Json × Rs232Code := (.str (toString n), .NO_ERR)

/-- `__unpack_signal`; the clock gives the second at which a parameter is unpacked. -/
def unpackSignal (clock : Int → Int) (sig : Signal) (response : Json) :
    Except PyError (Json × Rs232Code) :=
  if sig.type = .genericText then
    (unpackGenericText sig response).map (fun v => (v, .NO_ERR))
  else if !validateBytes sig response then .ok (unset, .PARTIAL_ERR)
  else
    match sig.type with
    | .uint => (unpackUint sig response).map unpacked
    | .wtime => (unpackWeeklyTimer (clock sig.param) sig response).map unpacked
    | .byte => (unpackByte sig response).map unpacked
    | .string => (unpackString sig response).map (fun s => (.str s, .NO_ERR))
    | .time => (unpackAsEpochTime sig response).map unpacked
    | _ => .ok (unset, .PARTIAL_ERR)

end NexyGateway.ThousandLib
