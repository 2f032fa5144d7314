import NexyGateway.TraceLogs

/-!
# Upgrade packages

`ModBusHandler.write_upgrade_package` cuts a file into chunks and writes one record for
each. A record that is not accepted is written again, up to twenty times in a row.
-/
namespace NexyGateway.UpgradePackages

open TurnLoops TraceLogs

/-! ### The chunks -/

def requestHeaderSize : Nat := 2
def subRequestHeaderSize : Nat := 7

inductive File where
  | missing
  | content (bytes : Bytes)

/-- `WriteFileRecord.prepare_request`, with the expected length as `_write_data` changes it. -/
structure WriteRequest where
  unit : Nat
  recordNumber : Nat
  data : Bytes
  responseLength : Nat

def prepareRequest (unit recordNumber : Nat) (data : Bytes) : WriteRequest :=
  ⟨unit, recordNumber, data,
    data.length / 2 + 1 + (requestHeaderSize + subRequestHeaderSize - 1)⟩

/-- Outcome of `_write_data`: an exception, or a response with its own `isError` and that of the
`WriteFileRecordResponse` made from it. -/
inductive Attempt where
  | raised
  | answered (isError wrappedIsError : Bool)

def validateWriteFileResponse (isError wrappedIsError : Bool) : Bool :=
  if isError then false
  else if wrappedIsError then false
  else true

def maxTries : Nat := 20

/-- A request that has gone out. -/
structure Sent where
  request : WriteRequest
  accepted : Bool

structure Transfer where
  recordNumber : Nat
  errorCounter : Nat
  sent : List Sent

def Transfer.start : Transfer := ⟨0, 0, []⟩

/-- An attempt that was in vain, or that takes the transfer to the next record. -/
def Transfer.log (request : WriteRequest) (accepted : Bool) (s : Transfer) : Transfer :=
  if accepted then ⟨s.recordNumber + 1, 0, s.sent ++ [⟨request, true⟩]⟩
  else ⟨s.recordNumber, s.errorCounter + 1, s.sent ++ [⟨request, false⟩]⟩

def Attempt.accepted : Attempt → Bool
  | .raised => false
  | .answered isError wrappedIsError => validateWriteFileResponse isError wrappedIsError

/-- The file with its name, what `xxd` makes of it, and the outcome of the `k`-th attempt. -/
structure Surroundings where
  unit : Nat
  linked : Bool
  file : File
  xxd : Option Bytes
  attempt : Nat → WriteRequest → Attempt

structure Reply where
  status : Int
  code : MbCode
  sent : List Sent

/-- Every entry of a log, together with what comes before it. -/
def Each (P : List Sent → Sent → Prop) (log : List Sent) : Prop :=
  ∀ before x after, log = before ++ x :: after → P before x

theorem Each.concat {P : List Sent → Sent → Prop} {log : List Sent} (h : Each P log) {x : Sent}
    (hx : P log x) : Each P (log ++ [x]) := by
  intro before y after heq
  rcases List.eq_nil_or_concat after with rfl | ⟨after, z, rfl⟩
  · obtain ⟨rfl, hy⟩ := List.append_inj' heq rfl
    cases hy
    exact hx
  · rw [List.concat_eq_append, ← List.cons_append, ← List.append_assoc] at heq
    obtain ⟨hlog, -⟩ := List.append_inj' heq rfl
    exact h before y after hlog

end NexyGateway.UpgradePackages
