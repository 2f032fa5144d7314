import NexyGateway.DirectMethods

/-!
# Answers to direct methods

What the executions of the methods can be. From these, over every run of the listener: what the
cloud is told of an operation, in the response, as telemetry and in the twin, is what has
happened.
-/
namespace NexyGateway.DirectMethods

open FileDownload PyNumber PyJson PyRepr Runs SerialServer SerialServer.Process

/-! ### The executions of a method -/

section Executions

variable {r : Rendering} {calls : List (Called Operation Operation.Answer)} {o : Option Response}

/-- The executions of the methods: without an operation, with one that neither tells nor changes
the cloud, or with a write and what follows from it. -/
inductive Execution (r : Rendering) :
    List (Called Operation Operation.Answer) → Option Response → Prop
  | stub (name : String) : Execution r []
      (some (.dict [("result", .bool true), ("message", .str (name ++ " method executed"))], 200))
  | liftType (now : Int) (code : String) : Execution r []
      (some (.dict [("ts", .int now), ("lt", .str code)], 200))
  | cached (now : Int) (reads : List (String × Json × LpCode)) : Execution r []
      (some (.dict ([("ts", .int now),
          ("d", .list (reads.map fun i => readItem r i.1 i.2.1 i.2.2))] ++
        if reads.any (fun i => i.2.2 ≠ .NO_ERR) then [("es", .str LpCode.source)] else []), 200))
  | refused (now : Int) : Execution r []
      (some (.dict [("ts", .int now), ("es", .str MrhCode.source), ("ec", .str "ARG_ERR")], 400))
  | raised : Execution r [] none
  | failed (op : Operation) (hpush : ∀ ids, op ≠ .pushParamEvent ids)
      (hreport : ∀ name value, op ≠ .reportProperty name value) : Execution r [⟨op, none⟩] none
  | arRead {value : Json} {source : String} {now : Int} :
      Execution r [⟨.readArNumber, some (value, source, "NO_ERR")⟩]
        (some (.dict [("ts", .int now), ("v", .str (format r value))], 200))
  | arUnread {value : Json} {source code : String} {now : Int} (hcode : code ≠ "NO_ERR") :
      Execution r [⟨.readArNumber, some (value, source, code)⟩]
        (some (.dict [("ts", .int now), ("es", .str source), ("ec", .str code)], 200))
  | downloaded {uri typeCode : String} {maxBytes now : Int} {reply : Reply}
      (hcode : reply.code = .NO_ERR) :
      Execution r [⟨.downloadFile uri typeCode maxBytes, some reply⟩]
        (some (.dict [("ts", .int now), ("fn", optionalText reply.filename),
          ("fp", optionalText reply.fullpath)], 200))
  | undownloaded {uri typeCode : String} {maxBytes now : Int} {reply : Reply}
      (hcode : reply.code ≠ .NO_ERR) :
      Execution r [⟨.downloadFile uri typeCode maxBytes, some reply⟩]
        (some (.dict [("ts", .int now), ("es", .str MrhCode.source),
          ("ec", .str reply.code.name)], 200))
  | unwritten {param value source code : String} {status now : Int} (hstatus : status ≠ 0) :
      Execution r [⟨.writeParam param value, some (status, source, code)⟩]
        (some (.dict [("ts", .int now),
          ("d", writeItem param value (toString status) [("ec", .str code)]),
          ("es", .str source)], 200))
  | written {param value source code : String} {id now : Int} (hid : int param = some id) :
      Execution r [⟨.writeParam param value, some (0, source, code)⟩,
          ⟨.pushParamEvent [id], some ()⟩]
        (some (.dict [("ts", .int now), ("d", writeItem param value "0" [])], 200))
  | writtenUntold {param value source code : String} {id : Int} (hid : int param = some id) :
      Execution r [⟨.writeParam param value, some (0, source, code)⟩,
        ⟨.pushParamEvent [id], none⟩] none
  | unverified {param value source code text : String} {status now : Int} {rbValue : Json}
      (hfailed : status ≠ 0 ∨ code ≠ "NO_ERR") :
      Execution r [⟨.writeReadParam param value, some (status, rbValue, source, code)⟩]
        (some (.dict [("ts", .int now), ("es", .str source),
          ("d", writeItem param value text [("ec", .str code)])], 200))
  | verified {param value source : String} {rbValue : Json} {id now : Int}
      (hid : int param = some id) :
      Execution r [⟨.writeReadParam param value, some (0, rbValue, source, "NO_ERR")⟩,
          ⟨.pushParamEvent [id], some ()⟩]
        (some (.dict [("ts", .int now), ("d", writeItem param (format r rbValue) "0" [])], 200))
  | verifiedUntold {param value source : String} {rbValue : Json} {id : Int}
      (hid : int param = some id) :
      Execution r [⟨.writeReadParam param value, some (0, rbValue, source, "NO_ERR")⟩,
        ⟨.pushParamEvent [id], none⟩] none
  | arUnwritten {value source code : String} {actual : Json} {now : Int}
      (hcode : code ≠ "NO_ERR") :
      Execution r [⟨.writeArNumber value, some (actual, source, code)⟩]
        (some (.dict [("ts", .int now), ("w", .str value), ("v", .str "-1"), ("s", .str "-1"),
          ("es", .str source), ("ec", .str code)], 200))
  | arWritten {value source : String} {actual : Json} {now : Int} :
      Execution r [⟨.writeArNumber value, some (actual, source, "NO_ERR")⟩,
          ⟨.reportProperty "la.arNumber" (format r actual), some ()⟩]
        (some (.dict [("ts", .int now), ("w", .str value), ("v", .str (format r actual)),
          ("s", .str "0")], 200))
  | arUntold {value source : String} {actual : Json} :
      Execution r [⟨.writeArNumber value, some (actual, source, "NO_ERR")⟩,
        ⟨.reportProperty "la.arNumber" (format r actual), none⟩] none

theorem finishes_stamped {status : Nat} {members : Dict} :
    Finishes (stamped status members) calls o ↔
      ∃ now, calls = [] ∧ o = some (.dict (("ts", .int now) :: members), status) := by
  rw [stamped, finishes_look]
  constructor
  · rintro ⟨v, h⟩
    exact ⟨v.now, finishes_ret.mp h⟩
  · rintro ⟨now, h⟩
    exact ⟨⟨now, .unknown, none, .null⟩, finishes_ret.mpr h⟩

theorem execution_argError (h : Finishes argError calls o) : Execution r calls o := by
  obtain ⟨now, rfl, rfl⟩ := finishes_stamped.mp h
  exact .refused now

theorem execution_executed {name : String} {payload : Json}
    (h : Finishes (executed name payload) calls o) : Execution r calls o := by
  obtain ⟨rfl, rfl⟩ := finishes_ret.mp h
  exact .stub name

theorem execution_laReadArNumber {payload : Json}
    (h : Finishes (laReadArNumber r payload) calls o) : Execution r calls o := by
  rcases finishes_call.mp h with ⟨rfl, rfl⟩ | ⟨⟨value, source, code⟩, rest, rfl, hrest⟩
  · exact .failed _ (by simp) (by simp)
  · dsimp only at hrest
    split at hrest
    · rename_i hcode
      subst hcode
      obtain ⟨now, rfl, rfl⟩ := finishes_stamped.mp hrest
      exact .arRead
    · rename_i hcode
      obtain ⟨now, rfl, rfl⟩ := finishes_stamped.mp hrest
      exact .arUnread hcode

theorem execution_laReadLiftType {payload : Json}
    (h : Finishes (laReadLiftType payload) calls o) : Execution r calls o := by
  obtain ⟨v, h⟩ := finishes_look.mp h
  obtain ⟨rfl, rfl⟩ := finishes_ret.mp h
  exact .liftType v.now (liftTypeCode v.liftType)

theorem execution_laReadParameter {payload : Json}
    (h : Finishes (laReadParameter r payload) calls o) : Execution r calls o := by
  unfold laReadParameter at h
  split at h
  · exact execution_argError h
  · rename_i param hparam
    split at h
    · obtain ⟨rfl, rfl⟩ := finishes_raise.mp h
      exact .raised
    · rename_i id hid
      obtain ⟨v, h⟩ := finishes_look.mp h
      obtain ⟨rfl, rfl⟩ := finishes_ret.mp h
      simpa using Execution.cached (r := r) v.now [(param, getParamValue v.lib id)]

theorem execution_laReadParameters {payload : Json}
    (h : Finishes (laReadParameters r payload) calls o) : Execution r calls o := by
  unfold laReadParameters at h
  split at h
  · obtain ⟨rfl, rfl⟩ := finishes_raise.mp h
    exact .raised
  · exact execution_argError h
  · rename_i ids hids
    obtain ⟨v, h⟩ := finishes_look.mp h
    obtain ⟨rfl, rfl⟩ := finishes_ret.mp h
    have hcached := Execution.cached (r := r) v.now
      (ids.map fun pid => (toString pid, getParamValue v.lib pid))
    rwa [List.map_map, List.any_map] at hcached

/-- The number of a parameter is checked before anything is written. -/
theorem getIntStr_int {payload : Json} {key text : String}
    (h : getIntStr r payload key = some text) : ∃ id, int text = some id := by
  unfold getIntStr at h
  split at h
  · cases h
  · split at h
    · rename_i hsome
      cases h
      exact Option.isSome_iff_exists.mp hsome
    · cases h

theorem execution_laWriteParameter {payload : Json}
    (h : Finishes (laWriteParameter r payload) calls o) : Execution r calls o := by
  unfold laWriteParameter at h
  split at h
  · rename_i param value hparam hvalue
    rcases finishes_call.mp h with ⟨rfl, rfl⟩ | ⟨⟨status, source, code⟩, rest, rfl, hrest⟩
    · exact .failed _ (by simp) (by simp)
    obtain ⟨v, hrest⟩ := finishes_look.mp hrest
    obtain ⟨id, hid⟩ := getIntStr_int hparam
    split at hrest
    · rename_i hstatus
      subst hstatus
      rw [hid] at hrest
      rcases finishes_call.mp hrest with ⟨rfl, rfl⟩ | ⟨u, rest, rfl, hlast⟩
      · exact .writtenUntold hid
      · obtain ⟨rfl, rfl⟩ := finishes_ret.mp hlast
        exact .written hid
    · rename_i hstatus
      obtain ⟨rfl, rfl⟩ := finishes_ret.mp hrest
      exact .unwritten hstatus
  · exact execution_argError h

theorem execution_laWriteReadParameter {payload : Json}
    (h : Finishes (laWriteReadParameter r payload) calls o) : Execution r calls o := by
  unfold laWriteReadParameter at h
  split at h
  · rename_i param value hparam hvalue
    rcases finishes_call.mp h with ⟨rfl, rfl⟩ | ⟨⟨status, rbValue, source, code⟩, rest, rfl, hrest⟩
    · exact .failed _ (by simp) (by simp)
    obtain ⟨id, hid⟩ := getIntStr_int hparam
    dsimp only at hrest
    split_ifs at hrest with hstatus hcode
    · obtain ⟨now, rfl, rfl⟩ := finishes_stamped.mp hrest
      exact .unverified (.inl hstatus)
    · obtain ⟨now, rfl, rfl⟩ := finishes_stamped.mp hrest
      exact .unverified (.inr hcode)
    · obtain rfl := not_not.mp hstatus
      obtain rfl := not_not.mp hcode
      rw [hid] at hrest
      rcases finishes_call.mp hrest with ⟨rfl, rfl⟩ | ⟨u, rest, rfl, hlast⟩
      · exact .verifiedUntold hid
      · obtain ⟨now, rfl, rfl⟩ := finishes_stamped.mp hlast
        exact .verified hid
  · exact execution_argError h

theorem execution_laWriteArNumber {payload : Json}
    (h : Finishes (laWriteArNumber r payload) calls o) : Execution r calls o := by
  unfold laWriteArNumber at h
  split at h
  · exact execution_argError h
  · rename_i value hvalue
    rcases finishes_call.mp h with ⟨rfl, rfl⟩ | ⟨⟨actual, source, code⟩, rest, rfl, hrest⟩
    · exact .failed _ (by simp) (by simp)
    dsimp only at hrest
    split at hrest
    · rename_i hcode
      subst hcode
      rcases finishes_call.mp hrest with ⟨rfl, rfl⟩ | ⟨u, rest, rfl, hlast⟩
      · exact .arUntold
      · obtain ⟨now, rfl, rfl⟩ := finishes_stamped.mp hlast
        exact .arWritten
    · rename_i hcode
      obtain ⟨now, rfl, rfl⟩ := finishes_stamped.mp hrest
      exact .arUnwritten hcode

theorem execution_caDownloadFile {payload : Json}
    (h : Finishes (caDownloadFile r payload) calls o) : Execution r calls o := by
  unfold caDownloadFile at h
  split at h
  · obtain ⟨v, h⟩ := finishes_look.mp h
    split at h
    · obtain ⟨rfl, rfl⟩ := finishes_raise.mp h
      exact .raised
    · rcases finishes_call.mp h with ⟨rfl, rfl⟩ | ⟨reply, rest, rfl, hrest⟩
      · exact .failed _ (by simp) (by simp)
      split at hrest
      · rename_i hcode
        obtain ⟨now, rfl, rfl⟩ := finishes_stamped.mp hrest
        exact .downloaded hcode
      · rename_i hcode
        obtain ⟨now, rfl, rfl⟩ := finishes_stamped.mp hrest
        exact .undownloaded hcode
  · exact execution_argError h

/-- Every execution of a method in the table is one of these. -/
theorem execution_dispatch : ∀ p ∈ dispatch r, ∀ payload, Finishes (p.2 payload) calls o →
    Execution r calls o := by
  simp only [dispatch, List.forall_mem_cons]
  have hstub : ∀ name payload, Finishes (executed name payload) calls o → Execution r calls o :=
    fun name payload => execution_executed
  exact ⟨hstub _, hstub _, hstub _, hstub _, hstub _, fun _ => execution_laReadArNumber,
    fun _ => execution_laReadParameter, fun _ => execution_laReadParameters,
    fun _ => execution_laReadLiftType, fun _ => execution_laWriteParameter,
    fun _ => execution_laWriteReadParameter, fun _ => execution_laWriteArNumber, hstub _, hstub _,
    hstub _, hstub _, hstub _, hstub _, hstub _, fun _ => execution_caDownloadFile, hstub _,
    hstub _, hstub _, by simp⟩

def methodNames (r : Rendering) : List String := (dispatch r).map Prod.fst

/-- A request without a handler is turned down at once. -/
theorem execution_handle {request : MethodRequest} (h : Finishes (handle r request) calls o) :
    (request.name ∈ methodNames r ∧ Execution r calls o) ∨
      (request.name ∉ methodNames r ∧ Finishes unknownMethod calls o) := by
  unfold handle at h
  cases hlookup : (dispatch r).lookup request.name with
  | some handler =>
    rw [hlookup] at h
    obtain ⟨front, back, hdispatch, -⟩ := List.lookup_eq_some_iff.mp hlookup
    have hmem : (request.name, handler) ∈ dispatch r := by
      rw [hdispatch]
      exact List.mem_append_right _ List.mem_cons_self
    exact .inl ⟨List.mem_map.mpr ⟨_, hmem, rfl⟩, execution_dispatch _ hmem _ h⟩
  | none =>
    rw [hlookup] at h
    refine .inr ⟨fun hmem => ?_, h⟩
    obtain ⟨p, hp, hname⟩ := List.mem_map.mp hmem
    simpa [hname] using List.lookup_eq_none_iff.mp hlookup p hp

end Executions

/-! ### What is told of a write -/

section Told

variable {r : Rendering} {calls : List (Called Operation Operation.Answer)} {o : Option Response}

/-- The parameters of a call of `push_param_event`, be it that it raises or sends nothing. -/
def pushed (c : Called Operation Operation.Answer) : Option (List Int) :=
  match c with
  | ⟨.pushParamEvent ids, _⟩ => some ids
  | _ => none

/-- The parameter of a write that was accepted, and read back where that belongs to it. -/
def verifiedWrite (c : Called Operation Operation.Answer) : Option (List Int) :=
  match c with
  | ⟨.writeParam param _, some (status, _, _)⟩ =>
    if status = 0 then (int param).map (fun id => [id]) else none
  | ⟨.writeReadParam param _, some (status, _, _, code)⟩ =>
    if status = 0 ∧ code = "NO_ERR" then (int param).map (fun id => [id]) else none
  | _ => none

/-- The property and the text of a call of `report_property`, be it that it raises. -/
def reported (c : Called Operation Operation.Answer) : Option (String × String) :=
  match c with
  | ⟨.reportProperty name value, _⟩ => some (name, value)
  | _ => none

/-- The property for an AR number that the lift has taken. -/
def arNumberWritten (r : Rendering) (c : Called Operation Operation.Answer) :
    Option (String × String) :=
  match c with
  | ⟨.writeArNumber _, some (actual, _, code)⟩ =>
    if code = "NO_ERR" then some ("la.arNumber", format r actual) else none
  | _ => none

section Calls

variable {param value source code : String} {status id : Int} {rbValue actual : Json}

theorem verifiedWrite_done (h : int param = some id) :
    verifiedWrite ⟨.writeParam param value, some (0, source, code)⟩ = some [id] :=
  congrArg (Option.map fun id => [id]) h

theorem verifiedWrite_failed (h : status ≠ 0) :
    verifiedWrite ⟨.writeParam param value, some (status, source, code)⟩ = none := if_neg h

theorem verifiedWrite_verified (h : int param = some id) :
    verifiedWrite ⟨.writeReadParam param value, some (0, rbValue, source, "NO_ERR")⟩ =
      some [id] := by
  have hread : verifiedWrite ⟨.writeReadParam param value, some (0, rbValue, source, "NO_ERR")⟩ =
      (int param).map fun id => [id] := rfl
  rw [hread, h]
  rfl

theorem verifiedWrite_unverified (h : status ≠ 0 ∨ code ≠ "NO_ERR") :
    verifiedWrite ⟨.writeReadParam param value, some (status, rbValue, source, code)⟩ = none :=
  if_neg fun hboth => h.elim (fun h => h hboth.1) (fun h => h hboth.2)

theorem arNumberWritten_done :
    arNumberWritten r ⟨.writeArNumber value, some (actual, source, "NO_ERR")⟩ =
      some ("la.arNumber", format r actual) := rfl

theorem arNumberWritten_failed (h : code ≠ "NO_ERR") :
    arNumberWritten r ⟨.writeArNumber value, some (actual, source, code)⟩ = none := if_neg h

end Calls

/-- An execution tells the cloud what it has changed, and nothing else. -/
theorem Execution.told (h : Execution r calls o) :
    calls.filterMap pushed = calls.filterMap verifiedWrite ∧
      calls.filterMap reported = calls.filterMap (arNumberWritten r) := by
  cases h with
  | failed op hpush hreport =>
    cases op with
    | pushParamEvent ids => exact absurd rfl (hpush ids)
    | reportProperty name value => exact absurd rfl (hreport name value)
    | _ => exact ⟨rfl, rfl⟩
  | unwritten hstatus =>
    rw [List.filterMap_cons_none (verifiedWrite_failed hstatus)]
    exact ⟨rfl, rfl⟩
  | written hid =>
    rw [List.filterMap_cons_some (verifiedWrite_done hid)]
    exact ⟨rfl, rfl⟩
  | writtenUntold hid =>
    rw [List.filterMap_cons_some (verifiedWrite_done hid)]
    exact ⟨rfl, rfl⟩
  | unverified hfailed =>
    rw [List.filterMap_cons_none (verifiedWrite_unverified hfailed)]
    exact ⟨rfl, rfl⟩
  | verified hid =>
    rw [List.filterMap_cons_some (verifiedWrite_verified hid)]
    exact ⟨rfl, rfl⟩
  | verifiedUntold hid =>
    rw [List.filterMap_cons_some (verifiedWrite_verified hid)]
    exact ⟨rfl, rfl⟩
  | arUnwritten hcode =>
    rw [List.filterMap_cons_none (arNumberWritten_failed hcode)]
    exact ⟨rfl, rfl⟩
  | arWritten =>
    rw [List.filterMap_cons_some arNumberWritten_done]
    exact ⟨rfl, rfl⟩
  | arUntold =>
    rw [List.filterMap_cons_some arNumberWritten_done]
    exact ⟨rfl, rfl⟩
  | _ => exact ⟨rfl, rfl⟩

theorem told_handle {request : MethodRequest} (h : Finishes (handle r request) calls o) :
    calls.filterMap pushed = calls.filterMap verifiedWrite ∧
      calls.filterMap reported = calls.filterMap (arNumberWritten r) := by
  rcases execution_handle h with ⟨-, hexecution⟩ | ⟨-, hunknown⟩
  · exact hexecution.told
  · obtain ⟨rfl, rfl⟩ := finishes_ret.mp hunknown
    exact ⟨rfl, rfl⟩

/-- What has been told is what was due, except for the last of it while a request is in hand. -/
def Told {α : Type} (idle : Prop) (due told : List α) : Prop :=
  ∃ rest, due = told ++ rest ∧ rest.length ≤ 1 ∧ (idle → rest = [])

/-- An operation without an answer tells something at most once, and is due to nothing. -/
theorem told_of_extra {α : Type} {idle : Prop}
    {due told : Called Operation Operation.Answer → Option α}
    {front extra : List (Called Operation Operation.Answer)}
    {served : List (List (Called Operation Operation.Answer))}
    (hserved : ∀ calls ∈ served, calls.filterMap told = calls.filterMap due)
    (hsame : (front ++ extra).filterMap told = (front ++ extra).filterMap due)
    (hextra : extra = [] ∨ ∃ op, extra = [⟨op, none⟩]) (hdue : ∀ op, due ⟨op, none⟩ = none)
    (hidle : idle → extra = []) :
    Told idle ((served.flatten ++ front).filterMap due)
      ((served.flatten ++ front).filterMap told) := by
  have hflat : served.flatten.filterMap told = served.flatten.filterMap due := by
    induction served with
    | nil => rfl
    | cons calls served ih =>
      obtain ⟨hone, hrest⟩ := List.forall_mem_cons.mp hserved
      simp [hone, ih hrest]
  refine ⟨extra.filterMap told, ?_, ?_, fun h => by simp [hidle h]⟩
  · have hnone : extra.filterMap due = [] := by
      rcases hextra with rfl | ⟨op, rfl⟩
      · rfl
      · simp [hdue op]
    simp only [List.filterMap_append, hnone, List.append_nil] at hsame ⊢
    rw [hflat, List.append_assoc, hsame]
  · rcases hextra with rfl | ⟨op, rfl⟩
    · exact Nat.zero_le _
    · exact (List.length_filterMap_le _ _).trans (by simp)

/-- In every run: one call for a telemetry event for each verified write, of the parameter
written, in the order of the writes, and one call for a report to the twin for each AR number
that was taken. -/
theorem told_of_run (r : Rendering)
    {path : List (Listener × Event Operation Operation.Answer View MethodRequest)} {s : Listener}
    (run : Run (listenForMethod r) listening path s) :
    Told (s.state = .receiving) ((operations s.log).filterMap verifiedWrite)
        ((operations s.log).filterMap pushed) ∧
      Told (s.state = .receiving) ((operations s.log).filterMap (arNumberWritten r))
        ((operations s.log).filterMap reported) := by
  obtain ⟨served, pending, hlog, hserved, hpending⟩ := serves_of_run run
  have hcalls : ∀ calls ∈ (served.map Prod.snd).map operations,
      calls.filterMap pushed = calls.filterMap verifiedWrite ∧
        calls.filterMap reported = calls.filterMap (arNumberWritten r) := by
    intro calls hmem
    obtain ⟨entries, hentries, rfl⟩ := List.mem_map.mp hmem
    obtain ⟨p, hp, rfl⟩ := List.mem_map.mp hentries
    obtain ⟨o, hfinish⟩ := (hserved p hp).finishes
    exact told_handle hfinish
  -- what is still missing for the request in hand
  obtain ⟨extra, hsame, hextra, hidle⟩ : ∃ extra : List (Called Operation Operation.Answer),
      ((operations pending ++ extra).filterMap pushed =
          (operations pending ++ extra).filterMap verifiedWrite ∧
        (operations pending ++ extra).filterMap reported =
          (operations pending ++ extra).filterMap (arNumberWritten r)) ∧
      (extra = [] ∨ ∃ op, extra = [⟨op, none⟩]) ∧ (s.state = .receiving → extra = []) := by
    by_cases hstate : s.state = .receiving
    · rw [hstate] at hpending
      rw [hpending.of_receiving]
      exact ⟨[], ⟨rfl, rfl⟩, .inl rfl, fun _ => rfl⟩
    · rcases hpending.finishes with rfl | ⟨request, o, extra, hfinish, hextra⟩
      · exact ⟨[], ⟨rfl, rfl⟩, .inl rfl, fun _ => rfl⟩
      · exact ⟨extra, told_handle hfinish, hextra, fun h => absurd h hstate⟩
  rw [hlog, operations_append, operations_flatten]
  exact ⟨told_of_extra (fun calls hmem => (hcalls calls hmem).1) hsame.1 hextra
      (fun op => by cases op <;> rfl) hidle,
    told_of_extra (fun calls hmem => (hcalls calls hmem).2) hsame.2 hextra
      (fun op => by cases op <;> rfl) hidle⟩

/-- A write that the lift takes and a write that it refuses. -/
def twoWrites : List (Event Operation Operation.Answer View MethodRequest) :=
  let v : View := ⟨1, .ahl, none, .dict []⟩
  let write : String → MethodRequest := fun value =>
    ⟨"la.write.parameter", .dict [("parameter", .str "12"), ("value", .str value)]⟩
  [.received (write "3") v, .answered ⟨.writeParam "12" "3", some (0, "ModBusHandler", "NO_ERR")⟩ v,
   .answered ⟨.pushParamEvent [12], some ()⟩ v, .sent true, .received (write "4") v,
   .answered ⟨.writeParam "12" "4", some (-1, "ModBusHandler", "LCM_ERR")⟩ v, .sent true]

theorem told_of_run_twoWrites : ∃ (r : Rendering) (s : Listener),
    (operations s.log).filterMap pushed = [[12]] ∧
      Told (s.state = .receiving) ((operations s.log).filterMap verifiedWrite)
          ((operations s.log).filterMap pushed) ∧
        Told (s.state = .receiving) ((operations s.log).filterMap (arNumberWritten r))
          ((operations s.log).filterMap reported) := by
  have hpushed : (exec (listenForMethod ⟨fun _ => "", fun _ => true⟩) listening twoWrites).map
      (fun s => (operations s.log).filterMap pushed) = some [[12]] := by decide +kernel
  obtain ⟨s, hexec, hpushed⟩ := Option.map_eq_some_iff.mp hpushed
  exact ⟨_, s, hpushed, told_of_run _ (exec_run hexec)⟩

end Told

/-! ### What a response says -/

section Honest

variable {r : Rendering} {calls : List (Called Operation Operation.Answer)} {o : Option Response}
  {response : Response}

/-- What a response says of a parameter that was written: it was, and nothing went wrong. -/
def TellsWritten (response : Response) : Prop :=
  ∃ members item, response.1 = .dict members ∧ members.lookup "d" = some (.list [.dict item]) ∧
    item.lookup "s" = some (.str "0") ∧ item.lookup "ec" = none

/-- What a response says of an AR number that was written. -/
def TellsArNumber (response : Response) : Prop :=
  ∃ members, response.1 = .dict members ∧ members.lookup "s" = some (.str "0")

/-- A response that names no source of an error. -/
def TellsSuccess (response : Response) : Prop :=
  response.2 = 200 ∧ ∃ members, response.1 = .dict members ∧ members.lookup "es" = none

/-- A response with the code of an error, its own or that of an item. -/
def CarriesCode (response : Response) : Prop :=
  ∃ members, response.1 = .dict members ∧ (members.lookup "ec" ≠ none ∨
    ∃ items item, members.lookup "d" = some (.list items) ∧ .dict item ∈ items ∧
      item.lookup "ec" ≠ none)

/-- The operation has done what it was called for. -/
def Succeeded (c : Called Operation Operation.Answer) : Prop :=
  match c with
  | ⟨.readArNumber, some (_, _, code)⟩ => code = "NO_ERR"
  | ⟨.writeParam _ _, some (status, _, _)⟩ => status = 0
  | ⟨.writeReadParam _ _, some (status, _, _, code)⟩ => status = 0 ∧ code = "NO_ERR"
  | ⟨.writeArNumber _, some (_, _, code)⟩ => code = "NO_ERR"
  | ⟨.downloadFile _ _ _, some reply⟩ => reply.code = .NO_ERR
  | ⟨_, some _⟩ => True
  | ⟨_, none⟩ => False

/-- The members show what the operation has given. -/
def Shown (r : Rendering) (members : Dict) (c : Called Operation Operation.Answer) : Prop :=
  match c with
  | ⟨.readArNumber, some (value, _, _)⟩ => members.lookup "v" = some (.str (format r value))
  | ⟨.writeParam param value, some (status, _, _)⟩ =>
    members.lookup "d" = some (writeItem param value (toString status) [])
  | ⟨.writeReadParam param _, some (status, rbValue, _, _)⟩ =>
    members.lookup "d" = some (writeItem param (format r rbValue) (toString status) [])
  | ⟨.writeArNumber value, some (actual, _, _)⟩ =>
    members.lookup "w" = some (.str value) ∧ members.lookup "v" = some (.str (format r actual))
  | ⟨.downloadFile _ _ _, some reply⟩ =>
    members.lookup "fn" = some (optionalText reply.filename) ∧
      members.lookup "fp" = some (optionalText reply.fullpath)
  | _ => True

section Payloads

variable {members : Dict} {status : Nat}

theorem tellsWritten_dict :
    TellsWritten (.dict members, status) ↔ ∃ item, members.lookup "d" = some (.list [.dict item]) ∧
      item.lookup "s" = some (.str "0") ∧ item.lookup "ec" = none := by
  simp [TellsWritten]

theorem tellsArNumber_dict :
    TellsArNumber (.dict members, status) ↔ members.lookup "s" = some (.str "0") := by
  simp [TellsArNumber]

theorem tellsSuccess_dict :
    TellsSuccess (.dict members, status) ↔ status = 200 ∧ members.lookup "es" = none := by
  simp [TellsSuccess]

theorem carriesCode_dict :
    CarriesCode (.dict members, status) ↔ members.lookup "ec" ≠ none ∨
      ∃ items item, members.lookup "d" = some (.list items) ∧ .dict item ∈ items ∧
        item.lookup "ec" ≠ none := by
  simp [CarriesCode]

end Payloads

/-- The items of a read have no `s`, and a code unless the parameter was read. -/
theorem lookup_readItem {text : String} {value : Json} {code : LpCode} {item : Dict}
    (h : readItem r text value code = .dict item) :
    item.lookup "s" = none ∧ (item.lookup "ec" = none ↔ code = .NO_ERR) := by
  unfold readItem at h
  split at h
  · rename_i hcode
    cases h
    exact ⟨rfl, iff_of_false (by simp [List.lookup_cons]) hcode⟩
  · rename_i hcode
    cases h
    exact ⟨rfl, iff_of_true rfl (not_not.mp hcode)⟩

/-- What follows the items of a read leaves them where they are. -/
theorem lookup_cached (now : Int) (items : List Json) (error : Bool) {key : String}
    (hkey : key ≠ "es") :
    (([("ts", .int now), ("d", .list items)] ++
      if error then [("es", .str LpCode.source)] else []) : Dict).lookup key =
      ([("ts", .int now), ("d", .list items)] : Dict).lookup key := by
  cases error with
  | true => simp [List.lookup_cons, beq_false_of_ne hkey]
  | false => rfl

theorem Execution.status (h : Execution r calls (some response)) :
    response.2 = 200 ∨ response.2 = 400 ∧ calls = [] := by
  cases h with
  | refused now => exact .inr ⟨rfl, rfl⟩
  | _ => exact .inl rfl

theorem Execution.written_iff (h : Execution r calls (some response)) :
    TellsWritten response ↔ calls.filterMap verifiedWrite ≠ [] := by
  cases h with
  | cached now reads =>
    refine iff_of_false ?_ (not_not.mpr rfl)
    rw [tellsWritten_dict]
    rintro ⟨item, hitem, hs, -⟩
    rw [lookup_cached _ _ _ (by decide)] at hitem
    have hitems : reads.map (fun i => readItem r i.1 i.2.1 i.2.2) = [.dict item] := by
      simpa [List.lookup_cons] using hitem
    obtain ⟨i, -, hi⟩ := List.mem_map.mp (hitems ▸ List.mem_singleton_self (Json.dict item))
    rw [(lookup_readItem hi).1] at hs
    cases hs
  | unwritten hstatus =>
    rw [List.filterMap_cons_none (verifiedWrite_failed hstatus)]
    simp [tellsWritten_dict, writeItem, List.lookup_cons]
  | written hid =>
    rw [List.filterMap_cons_some (verifiedWrite_done hid)]
    exact iff_of_true (tellsWritten_dict.mpr ⟨_, rfl, rfl, rfl⟩) (List.cons_ne_nil _ _)
  | unverified hfailed =>
    rw [List.filterMap_cons_none (verifiedWrite_unverified hfailed)]
    simp [tellsWritten_dict, writeItem, List.lookup_cons]
  | verified hid =>
    rw [List.filterMap_cons_some (verifiedWrite_verified hid)]
    exact iff_of_true (tellsWritten_dict.mpr ⟨_, rfl, rfl, rfl⟩) (List.cons_ne_nil _ _)
  | _ => exact iff_of_false (by simp [tellsWritten_dict, List.lookup_cons]) (not_not.mpr rfl)

theorem Execution.arNumber_iff (h : Execution r calls (some response)) :
    TellsArNumber response ↔ calls.filterMap (arNumberWritten r) ≠ [] := by
  cases h with
  | cached now reads =>
    rw [tellsArNumber_dict, lookup_cached _ _ _ (by decide)]
    exact iff_of_false (by simp [List.lookup_cons]) (not_not.mpr rfl)
  | arUnwritten hcode =>
    rw [List.filterMap_cons_none (arNumberWritten_failed hcode)]
    exact iff_of_false (by simp [tellsArNumber_dict, List.lookup_cons]) (not_not.mpr rfl)
  | arWritten =>
    rw [List.filterMap_cons_some arNumberWritten_done]
    exact iff_of_true (tellsArNumber_dict.mpr rfl) (List.cons_ne_nil _ _)
  | _ => exact iff_of_false (by simp [tellsArNumber_dict, List.lookup_cons]) (not_not.mpr rfl)

/-- Where operations were called for, the response tells of success when they all had it. -/
theorem Execution.success_iff (h : Execution r calls (some response)) (hcalls : calls ≠ []) :
    TellsSuccess response ↔ ∀ c ∈ calls, Succeeded c := by
  cases h with
  | stub name => exact absurd rfl hcalls
  | liftType now code => exact absurd rfl hcalls
  | cached now reads => exact absurd rfl hcalls
  | refused now => exact absurd rfl hcalls
  | arUnread hcode =>
    exact iff_of_false (by simp [tellsSuccess_dict, List.lookup_cons])
      fun h => hcode (h _ List.mem_cons_self)
  | undownloaded hcode =>
    exact iff_of_false (by simp [tellsSuccess_dict, List.lookup_cons])
      fun h => hcode (h _ List.mem_cons_self)
  | unwritten hstatus =>
    exact iff_of_false (by simp [tellsSuccess_dict, List.lookup_cons])
      fun h => hstatus (h _ List.mem_cons_self)
  | unverified hfailed =>
    refine iff_of_false (by simp [tellsSuccess_dict, List.lookup_cons]) fun h => ?_
    obtain ⟨hstatus, hcode⟩ := h _ List.mem_cons_self
    exact hfailed.elim (fun h => h hstatus) (fun h => h hcode)
  | arUnwritten hcode =>
    exact iff_of_false (by simp [tellsSuccess_dict, List.lookup_cons])
      fun h => hcode (h _ List.mem_cons_self)
  | arRead =>
    exact iff_of_true (tellsSuccess_dict.mpr ⟨rfl, rfl⟩) (List.forall_mem_singleton.mpr rfl)
  | downloaded hcode =>
    exact iff_of_true (tellsSuccess_dict.mpr ⟨rfl, rfl⟩) (List.forall_mem_singleton.mpr hcode)
  | verified hid =>
    exact iff_of_true (tellsSuccess_dict.mpr ⟨rfl, rfl⟩)
      (List.forall_mem_cons.mpr ⟨⟨rfl, rfl⟩, List.forall_mem_singleton.mpr trivial⟩)
  | _ =>
    exact iff_of_true (tellsSuccess_dict.mpr ⟨rfl, rfl⟩)
      (List.forall_mem_cons.mpr ⟨rfl, List.forall_mem_singleton.mpr trivial⟩)

/-- The source of an error is named where there is a code, also for what only was read. -/
theorem Execution.code_iff (h : Execution r calls (some response)) (hstatus : response.2 = 200) :
    TellsSuccess response ↔ ¬ CarriesCode response := by
  cases h with
  | refused now => cases hstatus
  | cached now reads =>
    rw [tellsSuccess_dict, carriesCode_dict, lookup_cached _ _ _ (by decide : "ec" ≠ "es"),
      lookup_cached _ _ _ (by decide : "d" ≠ "es")]
    have hcodes : (∃ items item, ([("ts", .int now),
          ("d", .list (reads.map fun i => readItem r i.1 i.2.1 i.2.2))] : Dict).lookup "d" =
            some (.list items) ∧ .dict item ∈ items ∧ item.lookup "ec" ≠ none) ↔
        ∃ i ∈ reads, i.2.2 ≠ .NO_ERR := by
      constructor
      · rintro ⟨items, item, hitems, hitem, hcode⟩
        cases hitems
        obtain ⟨i, hi, hread⟩ := List.mem_map.mp hitem
        exact ⟨i, hi, fun h => hcode ((lookup_readItem hread).2.mpr h)⟩
      · rintro ⟨i, hi, hcode⟩
        exact ⟨_, _, rfl, List.mem_map.mpr ⟨i, hi, rfl⟩,
          fun h => hcode ((lookup_readItem rfl).2.mp h)⟩
    rw [hcodes]
    by_cases hany : reads.any (fun i => i.2.2 ≠ .NO_ERR) = true
    · rw [if_pos hany]
      refine iff_of_false (by simp [List.lookup_cons]) (not_not.mpr (.inr ?_))
      simpa using hany
    · rw [if_neg hany]
      refine iff_of_true ⟨rfl, rfl⟩ ?_
      simpa [List.lookup_cons] using hany
  | _ => simp [tellsSuccess_dict, carriesCode_dict, writeItem, List.lookup_cons]

theorem Execution.shown (h : Execution r calls (some response)) (hsuccess : TellsSuccess response) :
    ∃ members, response.1 = .dict members ∧ ∀ c ∈ calls, Shown r members c := by
  cases h with
  | refused now => exact absurd hsuccess (by simp [tellsSuccess_dict])
  | arUnread hcode => exact absurd hsuccess (by simp [tellsSuccess_dict, List.lookup_cons])
  | undownloaded hcode => exact absurd hsuccess (by simp [tellsSuccess_dict, List.lookup_cons])
  | unwritten hstatus => exact absurd hsuccess (by simp [tellsSuccess_dict, List.lookup_cons])
  | unverified hfailed => exact absurd hsuccess (by simp [tellsSuccess_dict, List.lookup_cons])
  | arUnwritten hcode => exact absurd hsuccess (by simp [tellsSuccess_dict, List.lookup_cons])
  | written hid =>
    exact ⟨_, rfl, List.forall_mem_cons.mpr ⟨rfl, List.forall_mem_singleton.mpr trivial⟩⟩
  | verified hid =>
    exact ⟨_, rfl, List.forall_mem_cons.mpr ⟨rfl, List.forall_mem_singleton.mpr trivial⟩⟩
  | _ => exact ⟨_, rfl, by simp [Shown, List.lookup_cons]⟩

/-- A write that was done and not answered has stopped at the telemetry. -/
theorem Execution.untold (h : Execution r calls none) :
    (calls.filterMap verifiedWrite ≠ [] → ∃ ids, ⟨.pushParamEvent ids, none⟩ ∈ calls) ∧
      (calls.filterMap (arNumberWritten r) ≠ [] →
        ∃ name value, ⟨.reportProperty name value, none⟩ ∈ calls) := by
  cases h with
  | raised => exact ⟨fun h => absurd rfl h, fun h => absurd rfl h⟩
  | failed op hpush hreport => cases op <;> exact ⟨fun h => absurd rfl h, fun h => absurd rfl h⟩
  | writtenUntold hid =>
    exact ⟨fun _ => ⟨_, List.mem_cons_of_mem _ List.mem_cons_self⟩, fun h => absurd rfl h⟩
  | verifiedUntold hid =>
    exact ⟨fun _ => ⟨_, List.mem_cons_of_mem _ List.mem_cons_self⟩, fun h => absurd rfl h⟩
  | arUntold =>
    exact ⟨fun h => absurd rfl h, fun _ => ⟨_, _, List.mem_cons_of_mem _ List.mem_cons_self⟩⟩

/-- An operation has raised. -/
def Raised (calls : List (Called Operation Operation.Answer)) : Prop := ∃ c ∈ calls, c.2 = none

/-- Where an operation raises there is no response, and where there is none an operation has
raised, if one was called for. -/
theorem Execution.raised_iff (h : Execution r calls o) : Raised calls ↔ o = none ∧ calls ≠ [] := by
  cases h <;> simp [Raised]

theorem says_internalError : ¬ TellsWritten internalError ∧
    ¬ TellsArNumber internalError ∧ ¬ TellsSuccess internalError := by
  simp [internalError, tellsWritten_dict, tellsArNumber_dict, tellsSuccess_dict, List.lookup_cons]

/-- What a response says of the request and of what was done for it. -/
structure Answers (r : Rendering) (request : MethodRequest)
    (calls : List (Called Operation Operation.Answer)) (response : Response) : Prop where
  status : response.2 ∈ [200, 400, 404]
  unknown : response.2 = 404 ↔ request.name ∉ methodNames r
  refused : response.2 = 400 ∨ response.2 = 404 → calls = []
  written : TellsWritten response ↔ calls.filterMap verifiedWrite ≠ []
  arNumber : TellsArNumber response ↔ calls.filterMap (arNumberWritten r) ≠ []
  success : calls ≠ [] → (TellsSuccess response ↔ ∀ c ∈ calls, Succeeded c)
  code : response.2 = 200 → (TellsSuccess response ↔ ¬ CarriesCode response)
  shown : TellsSuccess response →
    ∃ members, response.1 = .dict members ∧ ∀ c ∈ calls, Shown r members c
  complete : ¬ Raised calls

theorem answers_handle {request : MethodRequest}
    (h : Finishes (handle r request) calls (some response)) : Answers r request calls response := by
  rcases execution_handle h with ⟨hknown, hexecution⟩ | ⟨hunknown, hfinish⟩
  · have hstatus := hexecution.status
    have h404 : response.2 ≠ 404 := by
      rcases hstatus with hstatus | ⟨hstatus, -⟩ <;> omega
    refine ⟨?_, iff_of_false h404 (not_not.mpr hknown), fun hrefused => ?_,
      hexecution.written_iff, hexecution.arNumber_iff, hexecution.success_iff,
      hexecution.code_iff, hexecution.shown, fun hraised => ?_⟩
    · rcases hstatus with hstatus | ⟨hstatus, -⟩ <;> simp [hstatus]
    · rcases hstatus with hstatus | ⟨-, hcalls⟩
      · omega
      · exact hcalls
    · cases (hexecution.raised_iff.mp hraised).1
  · obtain ⟨rfl, hresponse⟩ := finishes_ret.mp hfinish
    obtain rfl := Option.some.inj hresponse
    exact ⟨by simp, iff_of_true rfl hunknown, fun _ => rfl,
      by simp [tellsWritten_dict, List.lookup_cons], by simp [tellsArNumber_dict, List.lookup_cons],
      fun hcalls => absurd rfl hcalls, (fun hstatus => by cases hstatus),
      (fun hsuccess => by cases hsuccess.1), by simp [Raised]⟩

/-- A handler has raised, by itself or at an operation. -/
theorem untold_handle {request : MethodRequest} (h : Finishes (handle r request) calls none) :
    request.name ∈ methodNames r ∧ (calls = [] ∨ Raised calls) ∧
      (calls.filterMap verifiedWrite ≠ [] → ∃ ids, ⟨.pushParamEvent ids, none⟩ ∈ calls) ∧
      (calls.filterMap (arNumberWritten r) ≠ [] →
        ∃ name value, ⟨.reportProperty name value, none⟩ ∈ calls) := by
  rcases execution_handle h with ⟨hknown, hexecution⟩ | ⟨-, hfinish⟩
  · refine ⟨hknown, ?_, hexecution.untold⟩
    by_cases hcalls : calls = []
    · exact .inl hcalls
    · exact .inr (hexecution.raised_iff.mpr ⟨rfl, hcalls⟩)
  · cases (finishes_ret.mp hfinish).2

abbrev LogEntry := Entry Operation Operation.Answer MethodRequest Response

def isDelivered : LogEntry → Bool
  | .sent _ _ delivered => delivered
  | _ => false

/-- What holds of everything that was done for one request. -/
structure Honest (r : Rendering) (request : MethodRequest) (entries : List LogEntry) : Prop where
  /-- One response has reached the cloud at most, and a response was tried last. -/
  once : (entries.filter isDelivered).length ≤ 1
  answered : ∃ front response delivered, entries = front ++ [.sent request response delivered]
  status : ∀ req response delivered, .sent req response delivered ∈ entries →
    req = request ∧ response.2 ∈ [200, 400, 404, 500]
  /-- A method that is not in the table is all that the status 404 stands for. -/
  unknown : (∃ response delivered, .sent request response delivered ∈ entries ∧
    response.2 = 404) ↔ request.name ∉ methodNames r
  /-- A request that is turned down has touched nothing. -/
  refused : ∀ response delivered, .sent request response delivered ∈ entries →
    response.2 = 400 ∨ response.2 = 404 → operations entries = []
  /-- A 500 stands for an exception: of an operation, of the handler before its first operation,
  or of sending the response that it had. -/
  failed : ∀ response delivered, .sent request response delivered ∈ entries → response.2 = 500 →
    Raised (operations entries) ∨
      (operations entries = [] ∧ Finishes (handle r request) [] none) ∨
      ∃ lost, .sent request lost false ∈ entries ∧ lost.2 ≠ 500
  /-- An operation that raises is answered with an excuse and nothing else. -/
  raised : Raised (operations entries) → ∀ response delivered,
    .sent request response delivered ∈ entries → response = internalError
  /-- The operations behind a response that tells of success have succeeded, all of them, and
  the response shows what they gave. -/
  success : ∀ response delivered, .sent request response delivered ∈ entries →
    response.2 ≠ 500 → operations entries ≠ [] →
      (TellsSuccess response ↔ ∀ c ∈ operations entries, Succeeded c)
  shown : ∀ response delivered, .sent request response delivered ∈ entries →
    TellsSuccess response →
      ∃ members, response.1 = .dict members ∧ ∀ c ∈ operations entries, Shown r members c
  /-- Also where nothing was called for, success is told where there is no error code. -/
  code : ∀ response delivered, .sent request response delivered ∈ entries → response.2 = 200 →
    (TellsSuccess response ↔ ¬ CarriesCode response)
  /-- A write that a response tells of was done. -/
  written : ∀ response delivered, .sent request response delivered ∈ entries →
    TellsWritten response → (operations entries).filterMap verifiedWrite ≠ []
  arNumber : ∀ response delivered, .sent request response delivered ∈ entries →
    TellsArNumber response → (operations entries).filterMap (arNumberWritten r) ≠ []
  /-- A write that was done is told of, unless its telemetry, or its report, has raised. -/
  told : (operations entries).filterMap verifiedWrite ≠ [] →
    (∃ response delivered, .sent request response delivered ∈ entries ∧ TellsWritten response) ∨
      ∃ ids, ⟨.pushParamEvent ids, none⟩ ∈ operations entries
  toldArNumber : (operations entries).filterMap (arNumberWritten r) ≠ [] →
    (∃ response delivered, .sent request response delivered ∈ entries ∧ TellsArNumber response) ∨
      ∃ name value, ⟨.reportProperty name value, none⟩ ∈ operations entries

/-- The responses stand behind the operations. -/
theorem sent_mem {request req : MethodRequest} {delivered : Bool} {tail : List LogEntry} :
    .sent req response delivered ∈
        (.received request :: calls.map .called ++ tail : List LogEntry) ↔
      .sent req response delivered ∈ tail := by
  simp

theorem filter_isDelivered {request : MethodRequest} {tail : List LogEntry} :
    (.received request :: calls.map .called ++ tail : List LogEntry).filter isDelivered =
      tail.filter isDelivered := by
  have hcalls : (calls.map .called : List LogEntry).filter isDelivered = [] := by
    rw [List.filter_eq_nil_iff]
    intro entry hentry
    obtain ⟨c, -, rfl⟩ := List.mem_map.mp hentry
    exact Bool.false_ne_true
  rw [List.cons_append, List.filter_cons_of_neg (by simp [isDelivered]), List.filter_append, hcalls,
    List.nil_append]

/-- Every response is the one of the execution, or the excuse. -/
theorem honest_of_tail {request : MethodRequest} {tail : List LogEntry}
    (hsilent : operations tail = []) (hdelivered : (tail.filter isDelivered).length ≤ 1)
    (hlast : ∃ front response delivered, tail = front ++ [.sent request response delivered])
    (hsent : ∀ {req response delivered}, (.sent req response delivered : LogEntry) ∈ tail →
      req = request ∧ (Answers r request calls response ∨ response = internalError))
    (hend : (∃ response delivered, (.sent request response delivered : LogEntry) ∈ tail ∧
        Answers r request calls response) ∨ Finishes (handle r request) calls none)
    (hexcuse : ∀ delivered, (.sent request internalError delivered : LogEntry) ∈ tail →
      Finishes (handle r request) calls none ∨
        ∃ lost, (.sent request lost false : LogEntry) ∈ tail ∧ Answers r request calls lost) :
    Honest r request (.received request :: calls.map .called ++ tail) := by
  obtain ⟨hnoWritten, hnoAr, hnoSuccess⟩ := says_internalError
  have hcalls : operations (.received request :: calls.map .called ++ tail : List LogEntry) =
      calls := by
    simp [hsilent]
  have hnot500 : ∀ {response}, Answers r request calls response → response.2 ≠ 500 := by
    intro response ha h
    simpa [h] using ha.status
  refine ⟨by rwa [filter_isDelivered], ?_, ?_, ?_, ?_, ?_, ?_, ?_, ?_, ?_, ?_, ?_, ?_, ?_⟩
  · obtain ⟨front, response, delivered, rfl⟩ := hlast
    exact ⟨_, response, delivered, (List.append_assoc _ _ _).symm⟩
  · intro req response delivered hmem
    obtain ⟨hreq, ha | rfl⟩ := hsent (sent_mem.mp hmem)
    · refine ⟨hreq, ?_⟩
      rcases List.mem_cons.mp ha.status with h | h
      · simp [h]
      · rcases List.mem_cons.mp h with h | h
        · simp [h]
        · simp [List.mem_singleton.mp h]
    · exact ⟨hreq, by simp [internalError]⟩
  · constructor
    · rintro ⟨response, delivered, hmem, h404⟩
      obtain ⟨-, ha | rfl⟩ := hsent (sent_mem.mp hmem)
      · exact ha.unknown.mp h404
      · cases h404
    · intro hunknown
      rcases hend with ⟨response, delivered, hmem, ha⟩ | hraised
      · exact ⟨response, delivered, sent_mem.mpr hmem, ha.unknown.mpr hunknown⟩
      · exact absurd (untold_handle hraised).1 hunknown
  · intro response delivered hmem hrefused
    obtain ⟨-, ha | rfl⟩ := hsent (sent_mem.mp hmem)
    · rw [hcalls]
      exact ha.refused hrefused
    · rcases hrefused with h | h <;> cases h
  · intro response delivered hmem h500
    rw [hcalls]
    obtain ⟨-, ha | rfl⟩ := hsent (sent_mem.mp hmem)
    · exact absurd h500 (hnot500 ha)
    · rcases hexcuse delivered (sent_mem.mp hmem) with hraised | ⟨lost, hlost, ha⟩
      · rcases (untold_handle hraised).2.1 with rfl | hop
        · exact .inr (.inl ⟨rfl, hraised⟩)
        · exact .inl hop
      · exact .inr (.inr ⟨lost, sent_mem.mpr hlost, hnot500 ha⟩)
  · rw [hcalls]
    intro hraised response delivered hmem
    obtain ⟨-, ha | rfl⟩ := hsent (sent_mem.mp hmem)
    · exact absurd hraised ha.complete
    · rfl
  · rw [hcalls]
    intro response delivered hmem hstatus hop
    obtain ⟨-, ha | rfl⟩ := hsent (sent_mem.mp hmem)
    · exact ha.success hop
    · exact absurd rfl hstatus
  · rw [hcalls]
    intro response delivered hmem hsuccess
    obtain ⟨-, ha | rfl⟩ := hsent (sent_mem.mp hmem)
    · exact ha.shown hsuccess
    · exact absurd hsuccess hnoSuccess
  · intro response delivered hmem hstatus
    obtain ⟨-, ha | rfl⟩ := hsent (sent_mem.mp hmem)
    · exact ha.code hstatus
    · cases hstatus
  · rw [hcalls]
    intro response delivered hmem htells
    obtain ⟨-, ha | rfl⟩ := hsent (sent_mem.mp hmem)
    · exact ha.written.mp htells
    · exact absurd htells hnoWritten
  · rw [hcalls]
    intro response delivered hmem htells
    obtain ⟨-, ha | rfl⟩ := hsent (sent_mem.mp hmem)
    · exact ha.arNumber.mp htells
    · exact absurd htells hnoAr
  · rw [hcalls]
    intro hwritten
    rcases hend with ⟨response, delivered, hmem, ha⟩ | hraised
    · exact .inl ⟨response, delivered, sent_mem.mpr hmem, ha.written.mpr hwritten⟩
    · exact .inr ((untold_handle hraised).2.2.1 hwritten)
  · rw [hcalls]
    intro hwritten
    rcases hend with ⟨response, delivered, hmem, ha⟩ | hraised
    · exact .inl ⟨response, delivered, sent_mem.mpr hmem, ha.arNumber.mpr hwritten⟩
    · exact .inr ((untold_handle hraised).2.2.2 hwritten)

theorem honest_of_served {request : MethodRequest} {entries : List LogEntry}
    (h : Served (handle r) internalError request entries) : Honest r request entries := by
  cases h with
  | @answered calls response h =>
    have ha := answers_handle h
    refine honest_of_tail rfl (List.length_filter_le _ _) ⟨[], response, true, rfl⟩ ?_
      (.inl ⟨response, true, List.mem_cons_self, ha⟩) ?_
    · intro req resp delivered hmem
      cases List.mem_singleton.mp hmem
      exact ⟨rfl, .inl ha⟩
    · intro delivered hmem
      cases List.mem_singleton.mp hmem
      exact absurd ha.status (by simp [internalError])
  | @lost calls response h delivered =>
    have ha := answers_handle h
    refine honest_of_tail rfl
      (List.length_filter_le isDelivered [.sent request internalError delivered])
      ⟨[.sent request response false], internalError, delivered, rfl⟩ ?_
      (.inl ⟨response, false, List.mem_cons_self, ha⟩)
      (fun _ _ => .inr ⟨response, List.mem_cons_self, ha⟩)
    intro req resp delivered hmem
    rcases List.mem_cons.mp hmem with hfirst | hsecond
    · cases hfirst
      exact ⟨rfl, .inl ha⟩
    · cases List.mem_singleton.mp hsecond
      exact ⟨rfl, .inr rfl⟩
  | raised h delivered =>
    refine honest_of_tail rfl (List.length_filter_le _ _)
      ⟨[], internalError, delivered, rfl⟩ ?_ (.inr h) (fun _ _ => .inl h)
    intro req resp delivered hmem
    cases List.mem_singleton.mp hmem
    exact ⟨rfl, .inr rfl⟩

/-- Whatever comes from the cloud and however the operations end, the listener deals with one
request after the other, each in an honest way, and nothing but a cancellation or a failure to
receive ends it. The methods that do nothing yet tell of success without an operation. -/
theorem listener_honest (r : Rendering)
    {path : List (Listener × Event Operation Operation.Answer View MethodRequest)} {s : Listener}
    (run : Run (listenForMethod r) listening path s) :
    (∃ (served : List (MethodRequest × List LogEntry)) (pending : List LogEntry),
      s.log = (served.map Prod.snd).flatten ++ pending ∧
        (∀ p ∈ served, Honest r p.1 p.2) ∧ (s.state = .receiving → pending = [])) ∧
      (s.state = .ended → ∃ p ∈ path, Ends p.2) := by
  refine ⟨?_, ended_of_run run⟩
  obtain ⟨served, pending, hlog, hserved, hpending⟩ := serves_of_run run
  refine ⟨served, pending, hlog, fun p hp => honest_of_served (hserved p hp), fun hstate => ?_⟩
  rw [hstate] at hpending
  exact hpending.of_receiving

/-- The statuses that the cloud has been sent. -/
def statuses (log : List LogEntry) : List Nat :=
  log.filterMap fun entry =>
    match entry with
    | .sent _ response _ => some response.2
    | _ => none

/-- The AR number is read, a download raises, and there is no such method. -/
def threeRequests : List (Event Operation Operation.Answer View MethodRequest) :=
  let v : View := ⟨1, .ahl, none, .dict []⟩
  [.received ⟨"la.read.ar-number", .null⟩ v,
   .answered ⟨.readArNumber, some (.str "4711", "ModBusHandler", "NO_ERR")⟩ v, .sent true,
   .received ⟨"ca.download-file", .dict [("uri", .str "https://host/fw"), ("type", .str "1")]⟩ v,
   .answered ⟨.downloadFile "https://host/fw" "1" DesiredTwin.downloadMaxBytesDefault, none⟩ v,
   .sent true, .received ⟨"la.reboot", .null⟩ v, .sent true]

theorem listener_honest_threeRequests : ∃ (r : Rendering) (s : Listener),
    statuses s.log = [200, 500, 404] ∧
      (∃ (served : List (MethodRequest × List LogEntry)) (pending : List LogEntry),
        s.log = (served.map Prod.snd).flatten ++ pending ∧
          (∀ p ∈ served, Honest r p.1 p.2) ∧ (s.state = .receiving → pending = [])) ∧
      (s.state = .ended → ∃ p ∈ trace (listenForMethod r) listening threeRequests, Ends p.2) := by
  have hsome : (exec (listenForMethod asciiOnly) listening threeRequests).map
      (fun s => statuses s.log) = some [200, 500, 404] := by decide +kernel
  obtain ⟨s, hexec, hstatuses⟩ := Option.map_eq_some_iff.mp hsome
  exact ⟨_, s, hstatuses, listener_honest _ (exec_run hexec)⟩

end Honest

end NexyGateway.DirectMethods
