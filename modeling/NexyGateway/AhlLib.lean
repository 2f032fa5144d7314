import Mathlib.Data.Int.Bitwise
import NexyGateway.ErrorSignals

/-!
# AHL library

Polling tables and cache of `lib/ahl_lib.py`. A parameter without a value has not
been read from the lift yet.
-/
namespace NexyGateway.AhlLib

/-- Bit 0 leaves out parameter 2, the register that the flags are read from. -/
def oldPollingTable : Nat → List Nat
  | 0 => [0, 1, 3, 4, 5, 6, 7, 8, 9, 10, 11, 12, 13, 14, 15]
  | 1 => List.range' 16 16
  | 2 => List.range' 32 16
  | 3 => List.range' 48 16
  | 4 => List.range' 64 16
  | 5 => List.range' 80 14
  | 6 => List.range' 94 16
  | 7 => List.range' 110 16
  | 8 => 126 :: List.range' 353 15
  | bit => if bit < 31 then List.range' (224 + bit * 16) 16 else []

def newPollingTable : Nat → List Nat
  | 0 => [0, 1, 3, 4, 5, 6, 7, 8, 9, 10, 11, 12, 13, 14, 15]
  | 1 => List.range' 16 16
  | 2 => List.range' 32 16
  | 3 => List.range' 48 16
  | 4 => List.range' 64 16
  | 5 => List.range' 80 14
  | 6 => List.range' 94 16
  | 7 => List.range' 110 16
  | 8 => [126, 127, 128, 129] ++ List.range' 353 12
  | 21 => List.range' 322 12 ++ [335, 336, 338, 339]
  | 22 => [340, 344, 345] ++ List.range' 347 6 ++ List.range' 365 7
  | bit =>
    if bit < 21 then List.range' (bit * 16 - 14) 16
    else if bit < 31 then List.range' (4 + bit * 16) 16
    else []

/-- The table that `set_polling_table` selects. -/
def pollingTable (newTable : Bool) : Nat → List Nat :=
  if newTable then newPollingTable else oldPollingTable

/-- First and last number of each run of parameters in the database. -/
def databaseRanges : List (Nat × Nat) := [(0, 35), (37, 336), (338, 354), (356, 381)]

def inDatabase (param : Nat) : Bool :=
  databaseRanges.any (fun r => r.1 ≤ param && param ≤ r.2)

abbrev Cache := Nat → Option Int

def setParam (param : Nat) (value : Int) (cache : Cache) : Cache × List Nat × MbCode :=
  if inDatabase param then
    if cache param = some value then (cache, [], .NO_ERR)
    else (fun p => if p = param then some value else cache p, [param], .NO_ERR)
  else (cache, [], .PARAM_NOT_IN_DB)

def decodeChangeFlags (table : Nat → List Nat) (bitmask : Int) : List Nat :=
  (List.range 31).flatMap (fun bit => if bitmask.testBit bit then table bit else [])

theorem mem_decodeChangeFlags {table : Nat → List Nat} {bitmask : Int} {param : Nat} :
    param ∈ decodeChangeFlags table bitmask ↔
      ∃ bit < 31, bitmask.testBit bit = true ∧ param ∈ table bit := by
  unfold decodeChangeFlags
  simp only [List.mem_flatMap, List.mem_range]
  constructor
  · rintro ⟨bit, hbit, hmem⟩
    by_cases hset : bitmask.testBit bit = true
    · exact ⟨bit, hbit, hset, by simpa [hset] using hmem⟩
    · simp [hset] at hmem
  · rintro ⟨bit, hbit, hset, hmem⟩
    exact ⟨bit, hbit, by simpa [hset] using hmem⟩

theorem setParam_same {param : Nat} (value : Int) (cache : Cache) (h : inDatabase param = true) :
    (setParam param value cache).1 param = some value := by
  unfold setParam
  rw [if_pos h]
  split
  · assumption
  · simp

theorem setParam_other {param p : Nat} (value : Int) (cache : Cache) (h : p ≠ param) :
    (setParam param value cache).1 p = cache p := by
  unfold setParam
  split
  · split
    · rfl
    · simp [h]
  · rfl

/-- The register of the change flags is in no group. -/
theorem two_not_mem_pollingTable (newTable : Bool) : ∀ bit < 31, 2 ∉ pollingTable newTable bit := by
  cases newTable <;> decide

end NexyGateway.AhlLib
