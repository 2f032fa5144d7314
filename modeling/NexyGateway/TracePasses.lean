import NexyGateway.TraceLogs

/-!
# Trace logs in one pass

A log that is saved comes from consecutive exchanges, one valid exchange for each record
from the first on.
-/
namespace NexyGateway.TraceLogs

open TurnLoops
open PosixPath (joinPath)

/-- A record as it comes over the line: line feed, function code, length of the payload, the
payload and two bytes of checksum. -/
def Framed (data payload : Bytes) : Prop :=
  ∃ n c c', data = 0x0a :: 0x14 :: n :: (payload ++ [c, c']) ∧ n.toNat = payload.length

/-- An exchange without any fault for a record. -/
structure ValidExchange (sizes : LogSizes) (recordNumber : Nat) (x : Exchange) (payload : Bytes) :
    Prop where
  framed : ∃ data, x = .answered (.returns false) (some data) ∧ Framed data payload
  length : payload.length = payloadLen sizes recordNumber

/-- The name that stands in front of a payload, up to the end of its extension. -/
def Names (payload : Bytes) (name : String) : Prop :=
  ∃ front back, payload.take filenameSize = front ++ needle ++ back ∧
    decodeUtf8 (front ++ needle) = some name

/-- Valid exchanges for the first `n` records, one right behind the other. -/
def Pass (w : Surroundings) (logType : String) (sizes : LogSizes) (start n : Nat)
    (payloads : Nat → Bytes) : Prop :=
  ∀ j < n, ValidExchange sizes j
    (w.exchange (start + j) (prepareRequest w.unit logType sizes j)) (payloads j)

/-- The payloads in order, without the name of the file. -/
def logOf (payloads : Nat → Bytes) (n : Nat) : Bytes :=
  ((List.range n).flatMap payloads).drop filenameSize

/-! ### One record -/

theorem find_some {sub data : Bytes} {idx : Nat} (h : find sub data = some idx) :
    ∃ front back, data = front ++ sub ++ back ∧ front.length = idx := by
  induction data generalizing idx with
  | nil =>
    simp only [find] at h
    split at h
    · next hsub =>
      cases h
      obtain ⟨back, hback⟩ := List.isPrefixOf_iff_prefix.mp hsub
      exact ⟨[], back, hback.symm, rfl⟩
    · cases h
  | cons b rest ih =>
    simp only [find] at h
    split at h
    · next hsub =>
      cases h
      obtain ⟨back, hback⟩ := List.isPrefixOf_iff_prefix.mp hsub
      exact ⟨[], back, hback.symm, rfl⟩
    · obtain ⟨i, hi, rfl⟩ := Option.map_eq_some_iff.mp h
      obtain ⟨front, back, rfl, hlength⟩ := ih hi
      exact ⟨b :: front, back, rfl, by rw [List.length_cons, hlength]⟩

@[simp] theorem require_valid (ok : Bool) (err : MbCode) (v : Verdict) :
    (v.require ok err).valid = true ↔ v.valid = true ∧ ok = true := by
  unfold Verdict.require
  cases ok <;> cases hv : v.valid <;> simp [hv]

/-- A record that passes the checks is framed around a payload of the expected length. -/
theorem framed_of_checkRecord {data : Bytes} {expLen : Nat}
    (h : (checkRecord data expLen).valid = true) :
    ∃ payload, Framed data payload ∧ payload.length + headerSize + crcSize = expLen := by
  simp only [checkRecord, require_valid, decide_eq_true_eq] at h
  obtain ⟨hframed, hlength⟩ := h
  split at hframed
  · simp at hframed
  · next hpositive =>
    simp only [require_valid, decide_eq_true_eq] at hframed
    obtain ⟨⟨⟨-, h0⟩, h1⟩, h2⟩ := hframed
    simp only [headerSize, crcSize] at hpositive hlength h2
    match data with
    | [] | [_] | [_, _] =>
      simp at hpositive
    | a :: b :: n :: rest =>
      simp only [List.length_cons] at hpositive hlength h2
      have htail : (rest.drop (rest.length - 2)).length = 2 := by
        rw [List.length_drop]
        omega
      obtain ⟨c, c', hc⟩ := List.length_eq_two.mp htail
      refine ⟨rest.take (rest.length - 2), ⟨n, c, c', ?_, ?_⟩, ?_⟩
      · rw [← hc, List.take_append_drop]
        simp only [List.getD_cons_zero, List.getD_cons_succ, logHeader] at h0 h1
        rw [h0, h1]
      · simp only [List.getD_cons_zero, List.getD_cons_succ] at h2
        rw [List.length_take]
        omega
      · rw [List.length_take]
        simp only [headerSize, crcSize]
        omega

/-- What the validation accepts. -/
structure Accepted (storagePath : String) (recordNumber : Nat) (data : Option Bytes)
    (expLen : Nat) (filename : String) (r : Validated) (payload : Bytes) : Prop where
  framed : ∃ bytes, data = some bytes ∧ Framed bytes payload
  length : payload.length + headerSize + crcSize = expLen
  first : recordNumber = 0 → filenameSize ≤ payload.length → r.idx = filenameSize ∧
    ∃ name, Names payload name ∧ r.filename = joinPath storagePath name
  later : recordNumber ≠ 0 → r.idx = 0 ∧ r.filename = filename

theorem accepted_of_valid {storagePath : String} {recordNumber : Nat} {check : ErrorCheck}
    {data : Option Bytes} {expLen : Nat} {filename : String} {r : Validated}
    (h : validateReadFileResponse storagePath recordNumber check data expLen filename = some r)
    (hvalid : r.valid = true) : check = .returns false ∧
      ∃ payload, Accepted storagePath recordNumber data expLen filename r payload := by
  cases check with
  | missing =>
    cases h
    cases hvalid
  | raises =>
    cases data with
    | none =>
      cases h
      cases hvalid
    | some bytes => cases h
  | returns isError =>
    cases data with
    | none =>
      cases h
      cases hvalid
    | some bytes =>
      have hchecked : (((checkRecord bytes expLen).require (!isError) .LOG_RSP_ERR).valid = true ∧
          (recordNumber ≠ 0 → r.idx = 0 ∧ r.filename = filename) ∧
          (recordNumber = 0 → r.idx = filenameSize ∧ ∃ idx name,
            find needle ((bytes.drop headerSize).take filenameSize) = some idx ∧
            decodeUtf8 (((bytes.drop headerSize).take filenameSize).take (idx + needle.length)) =
              some name ∧ r.filename = joinPath storagePath name)) := by
        simp only [validateReadFileResponse] at h
        split at h
        · next hzero =>
          split at h
          · next idx hidx =>
            obtain ⟨name, hname, rfl⟩ := Option.map_eq_some_iff.mp h
            exact ⟨hvalid, fun hne => absurd hzero hne, fun _ => ⟨rfl, idx, name, hidx, hname, rfl⟩⟩
          · cases h
            simp at hvalid
        · next hzero =>
          cases h
          exact ⟨hvalid, fun _ => ⟨rfl, rfl⟩, fun heq => absurd heq hzero⟩
      obtain ⟨hverdict, hlater, hfirst⟩ := hchecked
      rw [require_valid] at hverdict
      obtain ⟨payload, hframed, hlength⟩ := framed_of_checkRecord hverdict.1
      have herror : isError = false := by simpa using hverdict.2
      refine ⟨by rw [herror], payload, ⟨bytes, rfl, hframed⟩, hlength, ?_, hlater⟩
      intro hzero hlong
      obtain ⟨hidx, idx, name, hfind, hdecode, hfilename⟩ := hfirst hzero
      refine ⟨hidx, name, ?_, hfilename⟩
      obtain ⟨n, c, c', rfl, -⟩ := hframed
      have hname : ((0x0a :: 0x14 :: n :: (payload ++ [c, c'])).drop headerSize).take filenameSize =
          payload.take filenameSize := List.take_append_of_le_length hlong
      rw [hname] at hfind hdecode
      obtain ⟨front, back, hsplit, hfront⟩ := find_some hfind
      refine ⟨front, back, hsplit, ?_⟩
      rwa [hsplit, ← hfront, ← List.length_append, List.take_left] at hdecode

/-- The first record starts the log anew, the others are put behind it. -/
structure Appended (storagePath : String) (s : Assembly) (payload : Bytes) (s' : Assembly) :
    Prop where
  errCnt : s'.errCnt = s.errCnt
  recordNumber : s'.recordNumber = s.recordNumber + 1
  first : s.recordNumber = 0 → filenameSize ≤ payload.length →
    s'.data = payload.drop filenameSize ∧
      ∃ name, Names payload name ∧ s'.filename = joinPath storagePath name
  later : s.recordNumber ≠ 0 → s'.data = s.data ++ payload ∧ s'.filename = s.filename

theorem framed_payload {data payload : Bytes} (h : Framed data payload) (idx : Nat) :
    (data.take (data.length - crcSize)).drop (headerSize + idx) = payload.drop idx := by
  obtain ⟨n, c, c', rfl, -⟩ := h
  have htake : (0x0a :: 0x14 :: n :: (payload ++ [c, c'])).take
      ((0x0a :: 0x14 :: n :: (payload ++ [c, c'])).length - crcSize) =
      0x0a :: 0x14 :: n :: payload := by
    rw [show 0x0a :: 0x14 :: n :: (payload ++ [c, c']) =
      (0x0a :: 0x14 :: n :: payload) ++ [c, c'] from rfl]
    refine List.take_left' ?_
    rw [List.length_append]
    rfl
  rw [htake, ← List.drop_drop]
  rfl

/-- A record that does not send the loop back comes from a valid exchange. -/
theorem readRecord_appended {storagePath : String} {sizes : LogSizes} {s : Assembly}
    {x : Exchange} (h : (readRecord storagePath sizes s x).recordNumber ≠ 0) :
    ∃ payload, ValidExchange sizes s.recordNumber x payload ∧
      Appended storagePath s payload (readRecord storagePath sizes s x) := by
  unfold readRecord at h ⊢
  generalize ht : (if s.recordNumber = 0 then { s with data := [], filename := "" } else s) = t
    at h ⊢
  have hrecord : t.recordNumber = s.recordNumber ∧ t.errCnt = s.errCnt := by
    rw [← ht]
    split <;> exact ⟨rfl, rfl⟩
  have hfresh : s.recordNumber = 0 → t.data = [] := by
    intro hzero
    rw [← ht, if_pos hzero]
  have hsame : s.recordNumber ≠ 0 → t = s := by
    intro hne
    rw [← ht, if_neg hne]
  cases x with
  | unprepared => exact absurd rfl h
  | failed => exact absurd rfl h
  | answered check data =>
    simp only at h ⊢
    split at h
    · exact absurd rfl h
    · next r hr =>
      split at h
      · next hvalid =>
        obtain ⟨rfl, payload, hpayload⟩ := accepted_of_valid hr hvalid
        obtain ⟨⟨bytes, rfl, hframed⟩, hlength, hfirst, hlater⟩ := hpayload
        have hdata : ∀ idx, (bytes.take (bytes.length - crcSize)).drop (headerSize + idx) =
            payload.drop idx := framed_payload hframed
        refine ⟨payload, ⟨⟨bytes, rfl, hframed⟩, ?_⟩, ?_⟩
        · simp only [expRspLen, hrecord.1] at hlength
          omega
        · simp only [hvalid, if_true]
          constructor
          · exact hrecord.2
          · exact congrArg (· + 1) hrecord.1
          · intro hzero hlong
            obtain ⟨hidx, hname⟩ := hfirst (hrecord.1.trans hzero) hlong
            refine ⟨?_, hname⟩
            rw [hidx]
            exact (congrArg (· ++ _) (hfresh hzero)).trans (hdata filenameSize)
          · intro hne
            obtain ⟨hidx, hname⟩ := hlater (by rwa [hrecord.1])
            rw [hidx, hsame hne]
            refine ⟨congrArg (s.data ++ ·) ((hdata 0).trans List.drop_zero), ?_⟩
            rw [← hsame hne]
            exact hname
      · exact absurd rfl h

/-! ### The run -/

/-- The invariant of the loop: the records so far are those of the last exchanges. -/
structure Assembled (w : Surroundings) (logType : String) (sizes : LogSizes) (k : Nat)
    (s : Assembly) : Prop where
  errors : s.errCnt ≤ errCntMax
  bound : s.recordNumber ≤ sizes.nrRecords
  turns : s.recordNumber ≤ k
  pass : s.recordNumber ≠ 0 → ∃ payloads name,
    Pass w logType sizes (k - s.recordNumber) s.recordNumber payloads ∧
      s.data = logOf payloads s.recordNumber ∧ Names (payloads 0) name ∧
      s.filename = joinPath w.storagePath name

theorem filenameSize_le (sizes : LogSizes) : filenameSize ≤ payloadLen sizes 0 := by
  have := sizes.several
  rw [payloadLen, if_pos (by omega)]
  decide

/-- One more record behind a pass. -/
theorem Pass.succ {w : Surroundings} {logType : String} {sizes : LogSizes} {start n : Nat}
    {payloads : Nat → Bytes} (h : Pass w logType sizes start n payloads) {payload : Bytes}
    (hvalid : ValidExchange sizes n
      (w.exchange (start + n) (prepareRequest w.unit logType sizes n)) payload) :
    Pass w logType sizes start (n + 1) (Function.update payloads n payload) := by
  intro j hj
  by_cases hlast : j = n
  · subst hlast
    rw [Function.update_self]
    exact hvalid
  · rw [Function.update_of_ne hlast]
    exact h j (by omega)

theorem logOf_update {payloads : Nat → Bytes} {n : Nat} (payload : Bytes)
    (h : filenameSize ≤ ((List.range n).flatMap payloads).length) :
    logOf (Function.update payloads n payload) (n + 1) = logOf payloads n ++ payload := by
  have hsame : (List.range n).flatMap (Function.update payloads n payload) =
      (List.range n).flatMap payloads := by
    refine List.flatMap_congr fun j hj => ?_
    exact Function.update_of_ne (by have := List.mem_range.mp hj; omega) ..
  simp only [logOf]
  rw [List.range_succ, List.flatMap_append, List.flatMap_singleton, hsame, Function.update_self,
    List.drop_append_of_le_length h]

theorem flatMap_length {payloads : Nat → Bytes} {n m : Nat} (h : ∀ j < n, (payloads j).length = m) :
    ((List.range n).flatMap payloads).length = n * m := by
  induction n with
  | zero => simp
  | succ n ih =>
    rw [List.range_succ, List.flatMap_append, List.flatMap_singleton, List.length_append,
      ih fun j hj => h j (by omega), h n (by omega), Nat.succ_mul]

/-- A pass that has begun holds the whole name. -/
theorem Pass.filenameSize_le {w : Surroundings} {logType : String} {sizes : LogSizes}
    {start n : Nat} {payloads : Nat → Bytes} (h : Pass w logType sizes start n payloads)
    (hn : n ≠ 0) : filenameSize ≤ ((List.range n).flatMap payloads).length := by
  obtain ⟨m, rfl⟩ := Nat.exists_eq_succ_of_ne_zero hn
  have hfirst := TraceLogs.filenameSize_le sizes
  rw [← (h 0 (by omega)).length] at hfirst
  rw [List.range_succ_eq_map, List.flatMap_cons, List.length_append]
  omega

theorem readRecord_assembled {w : Surroundings} {logType : String} {sizes : LogSizes} {k : Nat}
    {s : Assembly} (hrecord : s.recordNumber < sizes.nrRecords) (herr : s.errCnt < errCntMax)
    (h : Assembled w logType sizes k s) :
    Assembled w logType sizes (k + 1) (readRecord w.storagePath sizes s
      (w.exchange k (prepareRequest w.unit logType sizes s.recordNumber))) := by
  generalize hx : w.exchange k (prepareRequest w.unit logType sizes s.recordNumber) = x
  by_cases hagain : (readRecord w.storagePath sizes s x).recordNumber = 0
  · have hcount : (readRecord w.storagePath sizes s x).errCnt ≤ s.errCnt + 1 := by
      rcases readRecord_counts w.storagePath sizes s x with ⟨he, -⟩ | ⟨he, -⟩ <;> omega
    exact ⟨by omega, by omega, by omega, fun hne => absurd hagain hne⟩
  · obtain ⟨payload, hvalid, happended⟩ := readRecord_appended hagain
    have hbound := h.turns
    refine ⟨?_, ?_, ?_, fun _ => ?_⟩
    · rw [happended.errCnt]
      exact h.errors
    · rw [happended.recordNumber]
      exact hrecord
    · rw [happended.recordNumber]
      omega
    · rw [happended.recordNumber, Nat.add_sub_add_right]
      by_cases hzero : s.recordNumber = 0
      · have hlong : filenameSize ≤ payload.length := by
          rw [hvalid.length, hzero]
          exact filenameSize_le sizes
        obtain ⟨hdata, name, hname, hfilename⟩ := happended.first hzero hlong
        refine ⟨fun _ => payload, name, ?_, ?_, hname, hfilename⟩
        · intro j hj
          obtain rfl : j = 0 := by omega
          rw [hzero, Nat.sub_zero, Nat.add_zero]
          rw [hzero] at hx hvalid
          rw [hx]
          exact hvalid
        · rw [hdata, hzero]
          simp [logOf]
      · obtain ⟨payloads, name, hpass, hdata, hname, hfilename⟩ := h.pass hzero
        obtain ⟨hdata', hfilename'⟩ := happended.later hzero
        have hnext : Pass w logType sizes (k - s.recordNumber) (s.recordNumber + 1)
            (Function.update payloads s.recordNumber payload) := by
          refine hpass.succ ?_
          rw [Nat.sub_add_cancel hbound, hx]
          exact hvalid
        refine ⟨_, name, hnext, ?_, ?_, ?_⟩
        · rw [logOf_update payload (hpass.filenameSize_le hzero), hdata', hdata]
        · rw [Function.update_of_ne (Ne.symm hzero)]
          exact hname
        · rw [hfilename', hfilename]

/-- A whole pass is as long as the log and the name in front of it. -/
theorem Pass.log_length {w : Surroundings} {logType : String} {sizes : LogSizes} {start : Nat}
    {payloads : Nat → Bytes} (h : Pass w logType sizes start sizes.nrRecords payloads) :
    (logOf payloads sizes.nrRecords).length = sizes.log := by
  have hseveral := sizes.several
  have hwhole := sizes.whole
  obtain ⟨m, hm⟩ := Nat.exists_eq_succ_of_ne_zero (show sizes.nrRecords ≠ 0 by omega)
  have hfront : ((List.range m).flatMap payloads).length = m * (recordLength * 2) := by
    refine flatMap_length fun j hj => ?_
    rw [(h j (by omega)).length, payloadLen, if_pos (by omega)]
  have hlast : (payloads m).length = (sizes.log + filenameSize) % (recordLength * 2) := by
    rw [(h m (by omega)).length, payloadLen, if_neg (by omega)]
  rw [hm, Nat.succ_sub_one] at hwhole
  rw [logOf, hm, List.length_drop, List.range_succ, List.flatMap_append, List.flatMap_singleton,
    List.length_append, hfront, hlast, hwhole, Nat.add_sub_cancel]

theorem recordsRead_assembled (w : Surroundings) (logType : String) (sizes : LogSizes) :
    Assembled w logType sizes (recordsRead w logType sizes).1 (recordsRead w logType sizes).2 ∧
      ((recordsRead w logType sizes).2.errCnt < errCntMax →
        (recordsRead w logType sizes).2.recordNumber = sizes.nrRecords) := by
  have hstart : Assembled w logType sizes 0 .start :=
    ⟨Nat.zero_le _, Nat.zero_le _, Nat.le_refl 0, fun hne => absurd rfl hne⟩
  have hrun : Assembled w logType sizes (recordsRead w logType sizes).1
        (recordsRead w logType sizes).2 ∧
      (recordLoop w.storagePath sizes).goesOn (recordsRead w logType sizes).2 = false := by
    refine run_invariant (I := Assembled w logType sizes) ?_ hstart
    intro k s hgoes h
    simp only [recordLoop, decide_eq_true_eq] at hgoes
    exact readRecord_assembled hgoes.1 hgoes.2 h
  refine ⟨hrun.1, fun herr => ?_⟩
  have hended := hrun.2
  simp only [recordLoop, decide_eq_false_iff_not, not_and] at hended
  have hbound := hrun.1.bound
  by_contra hne
  exact hended (by omega) herr

theorem recordsRead_turns (w : Surroundings) (logType : String) (sizes : LogSizes) :
    (recordsRead w logType sizes).1 ≤ 11 * sizes.nrRecords := by
  have hturns : (recordsRead w logType sizes).1 +
      (recordLoop w.storagePath sizes).left (recordsRead w logType sizes).2 ≤
      0 + (recordLoop w.storagePath sizes).left .start := run_turns
  have hstart : (recordLoop w.storagePath sizes).left .start = 11 * sizes.nrRecords := by
    simp only [recordLoop, Assembly.start, errCntMax]
    omega
  omega

theorem generateTraceLog_fields {w : Surroundings} {logType : String} {sizes : LogSizes}
    (htype : logSizes logType = some sizes) :
    (generateTraceLog w logType).errors = (recordsRead w logType sizes).2.errCnt ∧
      (generateTraceLog w logType).exchanges = (recordsRead w logType sizes).1 ∧
      (generateTraceLog w logType).saved =
        (if errCntMax ≤ (recordsRead w logType sizes).2.errCnt then none
        else some (w.callSaveLog (recordsRead w logType sizes).2.filename
          (recordsRead w logType sizes).2.data)) ∧
      (generateTraceLog w logType).fname =
        (generateTraceLog w logType).saved.bind
          (fun call => if call.ret then some call.savedAs else none) := by
  simp only [generateTraceLog, htype]
  split
  · exact ⟨rfl, rfl, rfl, rfl⟩
  · split
    · next hret =>
      rw [Bool.not_eq_true'] at hret
      exact ⟨rfl, rfl, rfl, by simp [hret]⟩
    · next hret =>
      rw [Bool.not_eq_true', Bool.not_eq_false] at hret
      exact ⟨rfl, rfl, rfl, by simp [hret]⟩

/-- The loop ends, having counted at most ten errors. The reply has a name only from a call of
`_save_log`, and what that is given is the log of one uninterrupted pass of valid exchanges, and
the name that stands in its first record. -/
theorem generateTraceLog_assembles (w : Surroundings) (logType : String) (n len : Nat)
    (htype : (logType, n, len) ∈ [("0x06", 10, 2048), ("0x02", 143, 32768)]) :
    (generateTraceLog w logType).errors ≤ 10 ∧
    (generateTraceLog w logType).exchanges ≤ 11 * n ∧
    ((generateTraceLog w logType).saved = none → (generateTraceLog w logType).fname = none) ∧
    ∀ call, (generateTraceLog w logType).saved = some call →
      w.saveLog call.fname call.data = (call.ret, call.savedAs) ∧
      (generateTraceLog w logType).fname = (if call.ret then some call.savedAs else none) ∧
      ∃ sizes start payloads name, logSizes logType = some sizes ∧
        Pass w logType sizes start n payloads ∧
        start + n = (generateTraceLog w logType).exchanges ∧
        call.data = logOf payloads n ∧ call.data.length = len ∧
        Names (payloads 0) name ∧ call.fname = joinPath w.storagePath name := by
  obtain ⟨sizes, hsizes, rfl, rfl⟩ : ∃ sizes : LogSizes, logSizes logType = some sizes ∧
      sizes.nrRecords = n ∧ sizes.log = len := by
    simp only [List.mem_cons, List.not_mem_nil, or_false, Prod.mk.injEq] at htype
    rcases htype with ⟨rfl, rfl, rfl⟩ | ⟨rfl, rfl, rfl⟩
    · exact ⟨_, rfl, rfl, rfl⟩
    · exact ⟨_, rfl, rfl, rfl⟩
  obtain ⟨hassembled, hwhole⟩ := recordsRead_assembled w logType sizes
  obtain ⟨herrors, hexchanges, hsaved, hfname⟩ := generateTraceLog_fields hsizes (w := w)
  rw [herrors, hexchanges]
  refine ⟨hassembled.errors, recordsRead_turns w logType sizes, ?_, ?_⟩
  · intro hnone
    rw [hfname, hnone]
    rfl
  intro call hcall
  rw [hcall, Option.bind_some] at hfname
  rw [hcall] at hsaved
  split at hsaved
  · cases hsaved
  · next herr =>
    cases hsaved
    have hrecord := hwhole (by omega)
    have hpos := sizes.several
    obtain ⟨payloads, name, hpass, hlog, hname, hfilename⟩ := hassembled.pass (by omega)
    have hturns := hassembled.turns
    rw [hrecord] at hpass hlog hturns
    refine ⟨rfl, hfname, sizes, _, payloads, name, hsizes, hpass, Nat.sub_add_cancel hturns, hlog,
      ?_, hname, hfilename⟩
    have hdata : (w.callSaveLog (recordsRead w logType sizes).2.filename
        (recordsRead w logType sizes).2.data).data = logOf payloads sizes.nrRecords := hlog
    rw [hdata]
    exact hpass.log_length

/-- A lift that answers every request with zeros, behind the name of the file. -/
def steady : Surroundings where
  unit := 1
  storagePath := "/data"
  exchange _ r :=
    let payload := (if r.recordNumber = 0 then needle else []) ++ List.replicate (r.expLen - 5) 0
    .answered (.returns false) (some (0x0a :: 0x14 :: UInt8.ofNat (r.expLen - 5) ::
      (payload.take (r.expLen - 5) ++ [0, 0])))
  saveLog fname _ := (true, fname)
  enoughFreeSpace := true

/-- Its trace buffer is saved from the first ten exchanges. -/
theorem generateTraceLog_steady : (generateTraceLog steady "0x06").errors ≤ 10 ∧
    ∃ call, (generateTraceLog steady "0x06").saved = some call ∧
      (generateTraceLog steady "0x06").fname = some "/data/.sw_traces" ∧
      call.data.length = 2048 := by
  have htype : logSizes "0x06" = some ⟨2048, 10, by decide, by decide⟩ := if_pos rfl
  obtain ⟨-, -, hsaved, -⟩ := generateTraceLog_fields (w := steady) htype
  have hrun : recordsRead steady "0x06" ⟨2048, 10, by decide, by decide⟩ = _ :=
    run_eq_after (m := 10) (by decide +kernel) (by decide +kernel)
  rw [hrun, if_neg (by decide +kernel)] at hsaved
  obtain ⟨herrors, -, -, hlog⟩ := generateTraceLog_assembles steady "0x06" 10 2048 (by decide)
  obtain ⟨-, hfname, sizes, start, payloads, name, -, -, -, -, hlength, -⟩ := hlog _ hsaved
  refine ⟨herrors, _, hsaved, hfname.trans ?_, hlength⟩
  decide +kernel

end NexyGateway.TraceLogs
