import NexyGateway.ErrorSignals

/-!
# Reading the serial port

`Rs232Handler.read_serial`: bytes are polled and decoded chunk by chunk until the
text ends with a closing brace, the deadline has passed, or nothing has come in for
five polls.
-/
namespace NexyGateway.Rs232Handler

/-- What the port gives in one turn: the waiting bytes, which are none when `in_waiting` is
zero, or a `SerialException`. -/
inductive Port where
  | waiting (chunk : ByteArray)
  | serialException

/-- One turn of the polling loop, with the clock at its start. -/
structure Turn where
  clock : Int
  port : Port

/-- What `read_serial` returns; the text is `-1` (here `none`) in every failure. -/
structure Reading where
  rsp : Option String
  errCode : Rs232Code
  deriving DecidableEq

def retries : Nat := 5

/-- `bytes.decode('utf-8')`. -/
def decodeUtf8 (chunk : ByteArray) : Option String := String.fromUTF8? chunk

def startsFrame (rsp : String) : Bool := rsp.toList.head? = some '{'

def endsFrame (rsp : String) : Bool := rsp.toList.getLast? = some '}'

/-- The text is cut before its first opening brace. -/
def closeFrame (rsp : String) : Reading :=
  if startsFrame rsp then ⟨some rsp, .NO_ERR⟩
  else
    match rsp.toList.dropWhile (fun c => c != '{') with
    | [] => ⟨none, .SERIAL_DECODE_ERR⟩
    | frame => ⟨some (String.ofList frame), .NO_ERR⟩

/-- After the loop has ended without a closing brace. -/
def giveUp (rsp : String) : Reading :=
  if rsp = "" then ⟨none, .NO_WAITING_BYTES_ERR⟩ else ⟨none, .SERIAL_DECODE_ERR⟩

/-- The loop; `none` means that it is still waiting when the given turns are over. -/
def readLoop (deadline : Int) : List Turn → Nat → String → Option Reading
  | [], i, rsp => if retries ≤ i then some (giveUp rsp) else none
  | turn :: turns, i, rsp =>
    if retries ≤ i ∨ deadline ≤ turn.clock then some (giveUp rsp)
    else
      match turn.port with
      | .serialException => some ⟨none, .SERIAL_COM_ERR⟩
      | .waiting chunk =>
        match decodeUtf8 chunk with
        | none => some ⟨none, .SERIAL_DECODE_ERR⟩
        | some text =>
          if endsFrame (rsp ++ text) then some (closeFrame (rsp ++ text))
          else readLoop deadline turns (if chunk.size = 0 then i + 1 else 0) (rsp ++ text)

def readSerial (available : Bool) (deadline : Int) (turns : List Turn) : Option Reading :=
  if available then readLoop deadline turns 0 "" else some ⟨none, .SERIAL_COM_ERR⟩

theorem decodeUtf8_eq_some {chunk : ByteArray} {text : String} :
    decodeUtf8 chunk = some text ↔ text.toByteArray = chunk := by
  unfold decodeUtf8 String.fromUTF8?
  constructor
  · intro h
    split at h
    · cases h; rfl
    · cases h
  · rintro rfl
    rw [dif_pos text.isValidUTF8]
    rfl

@[simp] theorem decodeUtf8_toByteArray (text : String) :
    decodeUtf8 text.toByteArray = some text := decodeUtf8_eq_some.mpr rfl

@[simp] theorem decodeUtf8_empty : decodeUtf8 ByteArray.empty = some "" :=
  decodeUtf8_eq_some.mpr rfl

end NexyGateway.Rs232Handler
