import Mathlib.Algebra.Group.Int.Defs
import NexyGateway.JsonWidths
import NexyGateway.WifiShape

/-!
# Size of the full status

A GATT value has at most 512 bytes, and the READ answers with the full status. Its numbers,
phase and interface are bounded. The texts are not: the encoder writes up to six bytes for
every byte of an SSID, and a message may have any length. What is left for the texts is the
same in every status, so a run fits when every step that brings in texts leaves room for them.
-/
namespace NexyGateway.StatusSize

open JsonText WifiController Coroutines Runs
open PyRepr (Rendering reprString asciiOnly)

/-- The largest GATT value. -/
def maxGattValue : Nat := 512

/-! ### The widths of a status -/

def networkWidth (n : NetworkInfo) : Nat :=
  33 + textWidth n.ssid + numberWidth n.rssi + textWidth n.security

/-- With the commas between the networks. -/
def networksWidth (networks : List NetworkInfo) : Nat :=
  (networks.map networkWidth).sum + (networks.length - 1)

def currentWidth : Option ConnectionInfo → Nat
  | none => 4
  | some c => 27 + textWidth c.ssid + numberWidth c.rssi + textWidth c.ip

/-- The error together with the phase, which is as long as `disconnected` if there is none. -/
def outcomeWidth : Option StatusError → Nat
  | none => 18
  | some e => 31 + textWidth e.code + textWidth e.message

/-- What 512 bytes leave for the texts when all else is as long as it can be. -/
def textRoom : Nat := 402

def Room (current : Option ConnectionInfo) (networks : List NetworkInfo)
    (error : Option StatusError) : Prop :=
  currentWidth current + networksWidth networks + outcomeWidth error ≤ textRoom

instance instDecidableRoom (current : Option ConnectionInfo) (networks : List NetworkInfo)
    (error : Option StatusError) : Decidable (Room current networks error) :=
  inferInstanceAs (Decidable (_ ≤ _))

theorem size_networkText (n : NetworkInfo) :
    (Status.networkText n).utf8ByteSize = networkWidth n := by
  have hssid : textWidth "ssid" = 4 := by decide
  have hrssi : textWidth "rssi" = 4 := by decide
  have hsecurity : textWidth "security" = 8 := by decide
  simp only [Status.networkText, size_object, memberWidth, List.map_cons, List.map_nil,
    List.sum_cons, List.sum_nil, List.length_cons, List.length_nil, size_string, hssid, hrssi,
    hsecurity, networkWidth, numberWidth]
  omega

theorem size_connectionText (c : ConnectionInfo) :
    (Status.connectionText c).utf8ByteSize = currentWidth (some c) := by
  have hssid : textWidth "ssid" = 4 := by decide
  have hrssi : textWidth "rssi" = 4 := by decide
  have hip : textWidth "ip" = 2 := by decide
  simp only [Status.connectionText, size_object, memberWidth, List.map_cons, List.map_nil,
    List.sum_cons, List.sum_nil, List.length_cons, List.length_nil, size_string, hssid, hrssi,
    hip, currentWidth, numberWidth]
  omega

theorem size_errorText (e : StatusError) :
    (Status.errorText e).utf8ByteSize = 24 + textWidth e.code + textWidth e.message := by
  have hcode : textWidth "code" = 4 := by decide
  have hmessage : textWidth "message" = 7 := by decide
  simp only [Status.errorText, size_object, memberWidth, List.map_cons, List.map_nil,
    List.sum_cons, List.sum_nil, List.length_cons, List.length_nil, size_string, hcode, hmessage]
  omega

theorem size_current (current : Option ConnectionInfo) :
    (JsonText.optional Status.connectionText current).utf8ByteSize = currentWidth current := by
  cases current with
  | none => rfl
  | some c => exact size_connectionText c

theorem size_networks (networks : List NetworkInfo) :
    (array compact (networks.map Status.networkText)).utf8ByteSize =
      2 + networksWidth networks := by
  have hwidths : String.utf8ByteSize ∘ Status.networkText = networkWidth :=
    funext size_networkText
  rw [size_array, List.map_map, hwidths, List.length_map, networksWidth, Nat.add_assoc]

/-- The rest of a status: its numbers, phase and interface. -/
def frameWidth (s : Status) : Nat :=
  numberWidth s.seq + (string s.phase.value).utf8ByteSize +
    (JsonText.optional string s.iface).utf8ByteSize + numberWidth s.lastUpdatedMs

theorem size_toJson (s : Status) :
    s.toJson.size = 79 + frameWidth s + currentWidth s.current + networksWidth s.networks +
      (JsonText.optional Status.errorText s.error).utf8ByteSize := by
  have hseq : textWidth "seq" = 3 := by decide
  have hphase : textWidth "phase" = 5 := by decide
  have hiface : textWidth "iface" = 5 := by decide
  have hcurrent : textWidth "current" = 7 := by decide
  have hnetworks : textWidth "networks" = 8 := by decide
  have herror : textWidth "error" = 5 := by decide
  have htime : textWidth "last_updated_ms" = 15 := by decide
  rw [Status.toJson, String.toUTF8_eq_toByteArray, String.size_toByteArray, size_object]
  simp only [memberWidth, List.map_cons, List.map_nil, List.sum_cons, List.sum_nil,
    List.length_cons, List.length_nil, hseq, hphase, hiface, hcurrent, hnetworks, herror, htime,
    size_current, size_networks, frameWidth, numberWidth]
  omega

/-- A phase and an error that go together. -/
theorem size_outcome {phase : Phase} {error : Option StatusError}
    (h : error ≠ none ↔ phase = .error) : (string phase.value).utf8ByteSize +
      (JsonText.optional Status.errorText error).utf8ByteSize ≤ outcomeWidth error := by
  cases error with
  | none =>
    have hphase : (string phase.value).utf8ByteSize ≤ 14 := by
      rw [size_string]
      cases phase <;> decide
    have hnull : (JsonText.optional Status.errorText none).utf8ByteSize = 4 := rfl
    rw [hnull, outcomeWidth]
    omega
  | some e =>
    obtain rfl : phase = .error := h.mp (by simp)
    have hphase : (string Phase.error.value).utf8ByteSize = 7 := by
      rw [size_string]
      decide
    rw [hphase, JsonText.optional, size_errorText, outcomeWidth]
    omega

/-! ### Statuses that fit -/

def IsDottedQuad (ip : String) : Prop :=
  ∃ a b c d : Nat, a < 256 ∧ b < 256 ∧ c < 256 ∧ d < 256 ∧
    ip = toString a ++ "." ++ toString b ++ "." ++ toString c ++ "." ++ toString d

/-- SSIDs, signal strengths, addresses and numbers as they can occur. -/
structure Legal (s : Status) : Prop where
  networks : ∀ n ∈ s.networks, n.ssid.utf8ByteSize ≤ 32 ∧ -128 ≤ n.rssi ∧ n.rssi ≤ 0
  current : ∀ c ∈ s.current,
    c.ssid.utf8ByteSize ≤ 32 ∧ -128 ≤ c.rssi ∧ c.rssi ≤ 0 ∧ IsDottedQuad c.ip
  seq : s.seq < 2 ^ 32
  time : 0 ≤ s.lastUpdatedMs ∧ s.lastUpdatedMs < 2 ^ 45

def FitsGatt (s : Status) : Prop := Legal s → s.toJson.size ≤ maxGattValue

/-- What every status of the controller keeps to: an error comes with its phase, and the
interface is one of those that are supported. -/
structure Framed (s : Status) : Prop where
  error_iff : s.error ≠ none ↔ s.phase = .error
  iface : ∀ i ∈ s.iface, i ∈ supportedIfaces

theorem size_iface {iface : Option String} (h : ∀ i ∈ iface, i ∈ supportedIfaces) :
    (JsonText.optional string iface).utf8ByteSize ≤ 7 := by
  cases iface with
  | none => decide
  | some i =>
    have hi : i = "wlan0" ∨ i = "ppp0" := by simpa [supportedIfaces] using h i rfl
    rw [JsonText.optional, size_string]
    rcases hi with rfl | rfl <;> decide

theorem size_le_of_room {s : Status} (hframed : Framed s) (hseq : s.seq < 2 ^ 32)
    (htime : 0 ≤ s.lastUpdatedMs ∧ s.lastUpdatedMs < 2 ^ 45)
    (hroom : Room s.current s.networks s.error) : s.toJson.size ≤ maxGattValue := by
  have hseqWidth : numberWidth s.seq ≤ 10 := numberWidth_le (by decide) (by omega)
  have htimeWidth : numberWidth s.lastUpdatedMs ≤ 14 := by
    obtain ⟨ms, hms⟩ := Int.eq_ofNat_of_zero_le htime.1
    rw [hms] at htime ⊢
    exact numberWidth_le (by decide) (by omega)
  have hiface := size_iface hframed.iface
  have houtcome := size_outcome hframed.error_iff
  rw [size_toJson, frameWidth, maxGattValue]
  unfold Room textRoom at hroom
  omega

/-- The texts that a status shows fit, whatever its numbers, its phase and its interface are. -/
def TextsAlwaysFit (current : Option ConnectionInfo) (networks : List NetworkInfo)
    (error : Option StatusError) : Prop :=
  ∀ s : Status, Framed s → s.seq < 2 ^ 32 → 0 ≤ s.lastUpdatedMs ∧ s.lastUpdatedMs < 2 ^ 45 →
    s.current = current → s.networks = networks → s.error = error →
    s.toJson.size ≤ maxGattValue

/-- The longest status with the texts. -/
def longest (current : Option ConnectionInfo) (networks : List NetworkInfo)
    (error : Option StatusError) : Status where
  seq := 4294967295
  phase := if error = none then .disconnected else .error
  iface := some "wlan0"
  current := current
  networks := networks
  error := error
  lastUpdatedMs := 35184372088831

theorem longest_framed (current : Option ConnectionInfo) (networks : List NetworkInfo)
    (error : Option StatusError) : Framed (longest current networks error) := by
  constructor
  · cases error <;> simp [longest]
  · simp [longest, supportedIfaces]

theorem size_longest (current : Option ConnectionInfo) (networks : List NetworkInfo)
    (error : Option StatusError) : (longest current networks error).toJson.size =
      110 + currentWidth current + networksWidth networks + outcomeWidth error := by
  have hseq : numberWidth (4294967295 : Nat) = 10 := by decide
  have htime : numberWidth 35184372088831 = 14 := by decide
  have hiface : (JsonText.optional string (some "wlan0")).utf8ByteSize = 7 := by decide
  have hphase : (string Phase.disconnected.value).utf8ByteSize = 14 := by decide
  have herror : (string Phase.error.value).utf8ByteSize = 7 := by decide
  have hnull : (JsonText.optional Status.errorText none).utf8ByteSize = 4 := rfl
  rw [size_toJson, frameWidth]
  cases error with
  | none =>
    simp only [longest, if_true, hseq, htime, hiface, hphase, hnull, outcomeWidth]
    omega
  | some e =>
    have htext : (JsonText.optional Status.errorText (some e)).utf8ByteSize =
        24 + textWidth e.code + textWidth e.message := size_errorText e
    simp only [longest, reduceCtorEq, if_false, hseq, htime, hiface, herror, htext, outcomeWidth]
    omega

/-- The room is exactly what the longest status leaves. -/
theorem room_iff (current : Option ConnectionInfo) (networks : List NetworkInfo)
    (error : Option StatusError) :
    Room current networks error ↔ TextsAlwaysFit current networks error := by
  constructor
  · rintro hroom s hframed hseq htime rfl rfl rfl
    exact size_le_of_room hframed hseq htime hroom
  · intro hfit
    have hseq : 4294967295 < 2 ^ 32 := by decide
    have htime : (0 : Int) ≤ 35184372088831 ∧ (35184372088831 : Int) < 2 ^ 45 := by decide
    have hsize := hfit _ (longest_framed current networks error) hseq htime rfl rfl rfl
    rw [size_longest, maxGattValue] at hsize
    unfold Room textRoom
    omega

/-! ### Steps that bring in texts -/

/-- An error keeps the networks and drops the connection. -/
def ErrorFits (c : Controller) (code : ErrorCode) (message : String) : Prop :=
  Room none c.status.networks (some ⟨code.value, message⟩)

def RequestFits (repr : Rendering) (c : Controller) : Request → Prop
  | .connect _ psk iface =>
    if iface ∉ supportedIfaces then
      ErrorFits c .invalidRequest ("unknown iface " ++ reprString repr iface)
    else if iface ≠ "ppp0" ∧ psk.length < minPskLen then
      ErrorFits c .pskTooShort ("PSK must be at least " ++ toString minPskLen ++ " characters")
    else True
  | .invalid message => ErrorFits c .invalidRequest message
  | .scan _ => True
  | .disconnect => True
  | .heartbeat => True

def ResultFits (c : Controller) (result : ConnectResult) : Prop :=
  if result.status = "connected" then
    Room (some ⟨result.ssid, 0, result.ip⟩) c.status.networks none
  else if result.status = "associated" then
    ErrorFits c .pskWrong "associated but no IP — likely auth failure"
  else ErrorFits c .ssidNotFound "connection failed"

def OutcomeFits (c : Controller) : Point → Outcome → Prop
  | .scanning, .scanned networks => Room none (networks.take maxNetworksInStatus) none
  | .scanning, .raised => ErrorFits c .timeout "scan failed"
  | .connecting _ _, .connected result => ResultFits c result
  | .connecting _ _, .raised => ErrorFits c .timeout "connect timed out"
  | .refreshing, .refreshed (some info) => Room (some info) c.status.networks c.status.error
  | _, _ => True

/-- There is room for the texts that the step brings in beside those that are shown with them. -/
def TextsFit (repr : Rendering) (s : System Controller Point) :
    Move (Int × Request) (Int × Outcome) → Prop
  | .call _ (_, request) => RequestFits repr s.shared request
  | .wake id (_, o) => ∀ t, s.task id = some t → OutcomeFits s.shared t o

def Roomy (c : Controller) : Prop := Room c.status.current c.status.networks c.status.error

/-- Without the connection and the error there is more room. -/
theorem Roomy.alone {c : Controller} (h : Roomy c) : Room none c.status.networks none := by
  have hcurrent : 4 ≤ currentWidth c.status.current := by
    cases c.status.current <;> simp only [currentWidth] <;> omega
  have herror : 18 ≤ outcomeWidth c.status.error := by
    cases c.status.error <;> simp only [outcomeWidth] <;> omega
  unfold Roomy Room at h
  simp only [Room, currentWidth, outcomeWidth]
  omega

theorem room_empty : Room none [] none := by decide

theorem framed_withPhase {c : Controller} {now : Int} {phase : Phase} {iface : Option String}
    {networks : List NetworkInfo} (hphase : phase ≠ .error)
    (hiface : ∀ i ∈ iface, i ∈ supportedIfaces) :
    Framed (c.withPhase now phase iface networks) :=
  ⟨by simp [Controller.withPhase, hphase], hiface⟩

theorem framed_errorStatus {c : Controller} (h : Framed c.status) (now : Int) (code : ErrorCode)
    (message : String) : Framed (c.errorStatus now code message) :=
  ⟨by simp [Controller.errorStatus], h.iface⟩

theorem framed_connectedStatus {c : Controller} {iface : String} (hiface : iface ∈ supportedIfaces)
    (now : Int) (current : Option ConnectionInfo) :
    Framed (c.connectedStatus now iface current) :=
  ⟨by simp [Controller.connectedStatus], by simpa [Controller.connectedStatus] using hiface⟩

/-- What a stretch does: the status stays framed, and there is room for its texts afterwards
exactly when there was room for those that it has brought in. -/
structure Does (c c' : Controller) (fits : Prop) : Prop where
  framed : Framed c'.status
  roomy_iff : Roomy c → (Roomy c' ↔ fits)

theorem does_nothing {c : Controller} (h : Framed c.status) : Does c c True :=
  ⟨h, fun hroom => iff_of_true hroom trivial⟩

theorem does_setError {c : Controller} (h : Framed c.status) (now : Int) (code : ErrorCode)
    (message : String) : Does c (c.setError now code message) (ErrorFits c code message) :=
  ⟨framed_errorStatus h now code message, fun _ => Iff.rfl⟩

/-- The networks alone have room wherever they had it before. -/
theorem does_alone {c : Controller} {s : Status} (hframed : Framed s) (hcurrent : s.current = none)
    (hnetworks : s.networks = c.status.networks) (herror : s.error = none) :
    Does c (c.commit s) True := by
  refine ⟨hframed, fun hroom => iff_of_true ?_ trivial⟩
  rw [Roomy, commit_status, hcurrent, hnetworks, herror]
  exact hroom.alone

theorem does_heartbeat {c : Controller} (h : Framed c.status) (now : Int) :
    Does c (c.commit (c.heartbeatStatus now none)) True :=
  ⟨⟨h.error_iff, h.iface⟩, fun hroom => iff_of_true hroom trivial⟩

theorem start_does (repr : Rendering) {c : Controller} (h : Framed c.status)
    (r : Int × Request) : Does c (start repr r c).1 (RequestFits repr c r.2) := by
  obtain ⟨now, request⟩ := r
  cases request with
  | scan force =>
    simp only [start, requestScan, RequestFits]
    split_ifs
    · exact does_nothing h
    · exact ⟨framed_withPhase (by simp) h.iface, fun _ => iff_of_true room_empty trivial⟩
  | connect ssid psk iface =>
    simp only [start, requestConnect, RequestFits]
    by_cases hiface : iface ∉ supportedIfaces
    · rw [if_pos hiface, if_pos hiface]
      exact does_setError h now _ _
    rw [if_neg hiface, if_neg hiface]
    by_cases hmobile : iface = "ppp0"
    · have hwlan : ¬(iface ≠ "ppp0" ∧ psk.length < minPskLen) := fun hwlan => hwlan.1 hmobile
      rw [if_pos hmobile, if_neg hwlan]
      exact does_alone (framed_connectedStatus (by decide) now none) rfl rfl rfl
    rw [if_neg hmobile]
    by_cases hshort : psk.length < minPskLen
    · rw [if_pos hshort, if_pos ⟨hmobile, hshort⟩]
      exact does_setError h now _ _
    have hlong : ¬(iface ≠ "ppp0" ∧ psk.length < minPskLen) := fun hwlan => hshort hwlan.2
    rw [if_neg hshort, if_neg hlong]
    split_ifs
    · exact does_nothing h
    · exact does_alone (framed_withPhase (by simp) (by simp [supportedIfaces])) rfl rfl rfl
  | invalid message => exact does_setError h now _ message
  | disconnect => exact does_nothing h
  | heartbeat =>
    simp only [start, heartbeatTick, RequestFits]
    split_ifs
    · exact does_nothing h
    · exact does_heartbeat h now

theorem connectFinished_does {c : Controller} (h : Framed c.status) (now : Int)
    (result : ConnectResult) : Does c (connectFinished now result c) (ResultFits c result) := by
  unfold connectFinished ResultFits
  split_ifs
  · exact ⟨framed_connectedStatus (by decide) now _, fun _ => Iff.rfl⟩
  · exact does_setError h now _ _
  · exact does_setError h now _ _

theorem disconnectFinished_does {c : Controller} (h : Framed c.status) (now : Int) :
    Does c (disconnectFinished now c) True :=
  does_alone (framed_withPhase (by simp) h.iface) rfl rfl rfl

theorem resume_does {t : Point} {o : Int × Outcome} {c : Controller}
    {r : Controller × Option Point} (h : Framed c.status) (hr : resume t o c = some r) :
    Does c r.1 (OutcomeFits c t o.2) := by
  unfold resume at hr
  split at hr <;> cases hr
  -- a cancelled task, by its suspension point
  · cases t <;> exact does_nothing h
  · exact does_nothing h
  · exact ⟨framed_withPhase (by simp) h.iface, fun _ => Iff.rfl⟩
  · exact does_setError h _ _ _
  · exact does_nothing h
  · exact connectFinished_does h _ _
  · exact does_setError h _ _ _
  · exact disconnectFinished_does h _
  · exact disconnectFinished_does h _
  · rename_i info
    cases info with
    | none => exact does_heartbeat h _
    | some info => exact ⟨⟨h.error_iff, h.iface⟩, fun _ => Iff.rfl⟩
  · exact does_heartbeat h _
  · exact does_nothing h

theorem step_does (repr : Rendering) {s s' : System Controller Point}
    {m : Move (Int × Request) (Int × Outcome)} (h : Framed s.shared.status)
    (hstep : step (program repr) s m = some s') :
    Does s.shared s'.shared (TextsFit repr s m) := by
  obtain ⟨id, r, rfl, -, rfl⟩ | ⟨id, o, t, r, rfl, ht, hr, rfl⟩ := step_cases hstep
  · exact start_does repr h r
  · have hdoes := resume_does h hr
    refine ⟨hdoes.framed, fun hroom => (hdoes.roomy_iff hroom).trans ?_⟩
    constructor
    · intro hfits u hu
      obtain rfl : t = u := Option.some.inj (ht.symm.trans hu)
      exact hfits
    · intro hfits
      exact hfits t ht

theorem framed_init (now : Int) : Framed (init now).status := ⟨by simp [init], by simp [init]⟩

theorem roomy_init (now : Int) : Roomy (init now) := room_empty

/-- A run leaves room for its texts in every state exactly when each of its steps does. -/
theorem roomy_iff_textsFit (repr : Rendering) (now : Int)
    {path : List (System Controller Point × Move (Int × Request) (Int × Outcome))}
    {s : System Controller Point} (r : Run (step (program repr)) (boot (init now)) path s) :
    Always (fun s => Roomy s.shared) path s ↔ Meets (TextsFit repr) path :=
  r.always_iff (I := fun s => Framed s.shared.status)
    (fun _ _ _ h hs => (step_does repr h hs).framed)
    (fun _ _ _ h hroom hs => (step_does repr h hs).roomy_iff hroom) (framed_init now)
    (roomy_init now)

theorem always_framed (repr : Rendering) (now : Int)
    {path : List (System Controller Point × Move (Int × Request) (Int × Outcome))}
    {s : System Controller Point} (r : Run (step (program repr)) (boot (init now)) path s) :
    Always (fun s => Framed s.shared.status) path s :=
  r.inductive_invariant (fun _ _ _ h hs => (step_does repr h hs).framed) (framed_init now)

/-- In a run whose steps leave room for their texts every full status fits. The condition is
exact for the texts: without it, those of some state do not fit with the longest numbers. -/
theorem status_fits (repr : Rendering) (now : Int)
    {path : List (System Controller Point × Move (Int × Request) (Int × Outcome))}
    {s : System Controller Point} (r : Run (step (program repr)) (boot (init now)) path s) :
    (Meets (TextsFit repr) path → Always (fun s => FitsGatt s.shared.status) path s) ∧
    (Meets (TextsFit repr) path ↔ Always (fun s => TextsAlwaysFit s.shared.status.current
      s.shared.status.networks s.shared.status.error) path s) := by
  have hroom := roomy_iff_textsFit repr now r
  constructor
  · intro hfit
    have hframed := always_framed repr now r
    have hall := hroom.mpr hfit
    refine ⟨fun p hp hlegal => ?_, fun hlegal => ?_⟩
    · exact size_le_of_room (hframed.1 p hp) hlegal.seq hlegal.time (hall.1 p hp)
    · exact size_le_of_room hframed.2 hlegal.seq hlegal.time hall.2
  · rw [← hroom]
    constructor
    · exact fun h => h.mono fun s hs => (room_iff _ _ _).mp hs
    · exact fun h => h.mono fun s hs => (room_iff _ _ _).mpr hs

/-- A scan that finds the given networks. -/
def scanOf (networks : List NetworkInfo) : List (Move (Int × Request) (Int × Outcome)) :=
  [.call 0 (0, .scan false), .wake 0 (0, .sent), .wake 0 (0, .scanned networks)]

instance : DecidablePred Roomy := fun c =>
  inferInstanceAs (Decidable (Room c.status.current c.status.networks c.status.error))

def nearby : List NetworkInfo :=
  [⟨"lift", -50, "WPA2"⟩, ⟨"café", -60, "WPA2"⟩, ⟨"shop \"2\"", -61, "OPEN"⟩, ⟨"home", -90, "WPA"⟩]

/-- Four networks are found, the gateway connects to the first one, and a password is too short. -/
def visit : List (Move (Int × Request) (Int × Outcome)) :=
  scanOf nearby ++
    [.wake 0 (0, .sent), .call 1 (5, .connect "lift" "password" "wlan0"), .wake 1 (5, .sent),
     .wake 1 (9, .connected ⟨"connected", "lift", "10.0.0.2"⟩), .wake 1 (9, .sent),
     .call 2 (10, .connect "home" "short" "wlan0")]

/-- The status shows the networks with the connection, and later with the error. -/
theorem status_fits_visit : ∃ s t : System Controller Point,
    exec (step (program asciiOnly)) (boot (init 0)) (visit.take 7) = some s ∧
      s.shared.status.networks.length = 4 ∧ s.shared.status.current.isSome = true ∧
    exec (step (program asciiOnly)) (boot (init 0)) visit = some t ∧
      t.shared.status.networks.length = 4 ∧ t.shared.status.error.isSome = true ∧
    Always (fun s => FitsGatt s.shared.status)
      (trace (step (program asciiOnly)) (boot (init 0)) visit) t ∧
    Always (fun s => TextsAlwaysFit s.shared.status.current s.shared.status.networks
      s.shared.status.error) (trace (step (program asciiOnly)) (boot (init 0)) visit) t := by
  have hconnected : (exec (step (program asciiOnly)) (boot (init 0)) (visit.take 7)).map
      (fun s => (s.shared.status.networks.length, s.shared.status.current.isSome)) =
        some (4, true) := by decide +kernel
  have hend : (exec (step (program asciiOnly)) (boot (init 0)) visit).map
      (fun t => (t.shared.status.networks.length, t.shared.status.error.isSome,
        decide (Roomy t.shared))) = some (4, true, true) := by decide +kernel
  have hcheck : (trace (step (program asciiOnly)) (boot (init 0)) visit).all
      (fun p => decide (Roomy p.1.shared)) = true := by decide +kernel
  obtain ⟨s, hs, hsfields⟩ := Option.map_eq_some_iff.mp hconnected
  obtain ⟨t, ht, htfields⟩ := Option.map_eq_some_iff.mp hend
  simp only [Prod.mk.injEq] at hsfields htfields
  have hroomy : Always (fun s => Roomy s.shared)
      (trace (step (program asciiOnly)) (boot (init 0)) visit) t :=
    always_of_check (fun _ => of_decide_eq_true) hcheck htfields.2.2
  have hmeets := (roomy_iff_textsFit asciiOnly 0 (exec_run ht)).mp hroomy
  obtain ⟨hfits, hiff⟩ := status_fits asciiOnly 0 (exec_run ht)
  exact ⟨s, t, hs, hsfields.1, hsfields.2, ht, htfields.1, htfields.2.1, hfits hmeets,
    hiff.mp hmeets⟩

/-- An SSID of 31 bytes, of which the encoder makes 91. -/
def wideNetwork (last : Char) : NetworkInfo :=
  ⟨String.ofList (List.replicate 15 'é' ++ [last]), -40, "WPA2"⟩

def wideNetworks : List NetworkInfo := ['a', 'b', 'c', 'd'].map wideNetwork

theorem networksWidth_wide : networksWidth wideNetworks = 527 := by
  simp only [wideNetworks, wideNetwork, networksWidth, networkWidth, textWidth, List.map_cons,
    List.map_nil, String.toList_ofList]
  decide

theorem size_wide (last : Char) : (wideNetwork last).ssid.utf8ByteSize = 30 + last.utf8Size := by
  have haccent : 'é'.utf8Size = 2 := rfl
  simp only [wideNetwork, size_ofList, List.map_append, List.map_replicate, List.sum_append,
    List.sum_replicate_nat, haccent, List.map_cons, List.map_nil, List.sum_cons, List.sum_nil]
  omega

theorem legal_wide :
    ∀ n ∈ wideNetworks, n.ssid.utf8ByteSize ≤ 32 ∧ -128 ≤ n.rssi ∧ n.rssi ≤ 0 := by
  intro n hn
  obtain ⟨last, hlast, rfl⟩ := List.mem_map.mp hn
  have hascii : ['a', 'b', 'c', 'd'].all (fun c => decide (c.utf8Size = 1)) = true := by decide
  rw [size_wide, of_decide_eq_true (List.all_eq_true.mp hascii last hlast)]
  simp [wideNetwork]

/-- Four networks with SSIDs of the legal length, beyond ASCII, make a status of 626 bytes. -/
theorem not_always_fits : ¬ ∀ (repr : Rendering) (now : Int) (path : List
    (System Controller Point × Move (Int × Request) (Int × Outcome)))
    (s : System Controller Point), Run (step (program repr)) (boot (init now)) path s →
    Always (fun s => FitsGatt s.shared.status) path s := by
  intro hall
  cases hexec : exec (step (program asciiOnly)) (boot (init 0)) (scanOf wideNetworks) with
  | none => cases hexec
  | some s =>
    have hfits := (hall asciiOnly 0 _ s (exec_run hexec)).last
    have hnetworks : s.shared.status.networks = wideNetworks := by
      cases hexec
      rfl
    have hlegal : Legal s.shared.status := by
      refine ⟨hnetworks ▸ legal_wide, ?_, ?_, ?_⟩
      · cases hexec
        simp [Controller.withPhase]
      · cases hexec
        decide
      · cases hexec
        decide
    have hsize := hfits hlegal
    rw [size_toJson, hnetworks, networksWidth_wide, maxGattValue] at hsize
    omega

end NexyGateway.StatusSize
