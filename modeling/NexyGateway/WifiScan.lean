import NexyGateway.KeepBest
import NexyGateway.WifiController
import Mathlib.Data.Int.Order.Basic

/-!
# WiFi scans

`WifiCli.scan` makes a list of networks of what the script reports, and `request_scan` publishes
the first of them.
-/
namespace NexyGateway.WifiScan

open KeepBest

/-- The `wpa` member of an encryption object. -/
inductive Wpa where
  | missing
  | versions (vs : List Int)
  | version (v : Int)
  deriving DecidableEq, Repr

/-- The encryption object of ubus; a missing member is `none`. -/
structure Encryption where
  enabled : Option Bool := none
  authentication : Option (List String) := none
  wpa : Wpa := .missing
  deriving DecidableEq, Repr

def securityLabel (enc : Encryption) : String :=
  if enc.enabled = some false then "none"
  else
    let plain := if enc.enabled = some true then "encrypted" else "none"
    match enc.wpa with
    | .missing => plain
    | .version v => "WPA" ++ toString v
    | .versions vs =>
      match vs.max? with
      | none => plain
      | some v => if "sae" ∈ enc.authentication.getD [] then "WPA3" else "WPA" ++ toString v

/-- An entry of the `results` list. -/
structure Entry where
  ssid : Option String := none
  signal : Option Int := none
  encryption : Option Encryption := none
  deriving DecidableEq, Repr

def Entry.info (net : Entry) : NetworkInfo where
  ssid := net.ssid.getD ""
  rssi := net.signal.getD 0
  security := securityLabel (net.encryption.getD {})

/-- What the script gives back; a document without `results` has none. -/
inductive ScriptReply where
  | timedOut
  | failed (rc : Int)
  | notJson
  | document (results : Option (List Entry))

def named (results : List Entry) : List NetworkInfo :=
  (results.map Entry.info).filter (fun n => n.ssid ≠ "")

/-- The networks of a scan; a time-out is raised. -/
def scan : ScriptReply → Option (List NetworkInfo)
  | .timedOut => none
  | .failed _ | .notJson => some []
  | .document results =>
    some (ranked NetworkInfo.ssid NetworkInfo.rssi (named (results.getD [])))

/-- What a scan makes of its entries. -/
structure Ranked (results : List Entry) (networks : List NetworkInfo) : Prop where
  distinct : (networks.map NetworkInfo.ssid).Nodup
  nonempty : ∀ n ∈ networks, n.ssid ≠ ""
  ssids : ∀ ssid, ssid ∈ networks.map NetworkInfo.ssid ↔
    ssid ≠ "" ∧ ∃ net ∈ results, net.info.ssid = ssid
  strongest : ∀ n ∈ networks, (∃ net ∈ results, net.info.ssid = n.ssid ∧ net.info.rssi = n.rssi ∧
      net.info.security = n.security) ∧
    ∀ net ∈ results, net.info.ssid = n.ssid → net.info.rssi ≤ n.rssi
  sorted : networks.Pairwise (fun n m => m.rssi ≤ n.rssi)

/-- The status shows the strongest networks, at most four of them. -/
def Publishes (networks shown : List NetworkInfo) : Prop :=
  shown.length ≤ 4 ∧ ∃ out, networks = shown ++ out ∧ ∀ n ∈ shown, ∀ m ∈ out, m.rssi ≤ n.rssi

theorem mem_named {results : List Entry} {n : NetworkInfo} :
    n ∈ named results ↔ n.ssid ≠ "" ∧ ∃ net ∈ results, net.info = n := by
  simp only [named, List.mem_filter, List.mem_map, decide_eq_true_eq]
  exact and_comm

theorem ranked_of_best {results : List Entry} {networks : List NetworkInfo}
    (h : Best NetworkInfo.ssid NetworkInfo.rssi (named results) networks)
    (hsorted : networks.Pairwise (fun n m => m.rssi ≤ n.rssi)) : Ranked results networks where
  distinct := h.distinct
  nonempty n hn := (mem_named.mp (h.chosen n hn)).1
  ssids ssid := by
    constructor
    · intro hssid
      obtain ⟨n, hn, rfl⟩ := List.mem_map.mp hssid
      obtain ⟨hne, net, hnet, hinfo⟩ := mem_named.mp (h.chosen n hn)
      exact ⟨hne, net, hnet, by rw [hinfo]⟩
    · rintro ⟨hne, net, hnet, rfl⟩
      obtain ⟨n, hn, hssid⟩ := h.covers net.info (mem_named.mpr ⟨hne, net, hnet, rfl⟩)
      exact List.mem_map.mpr ⟨n, hn, hssid⟩
  strongest n hn := by
    obtain ⟨hne, net, hnet, hinfo⟩ := mem_named.mp (h.chosen n hn)
    refine ⟨⟨net, hnet, by rw [hinfo], by rw [hinfo], by rw [hinfo]⟩, ?_⟩
    intro other hother hssid
    exact h.best n hn other.info (mem_named.mpr ⟨hssid ▸ hne, other, hother, rfl⟩) hssid
  sorted := hsorted

theorem publishes_take {networks : List NetworkInfo}
    (hsorted : networks.Pairwise (fun n m => m.rssi ≤ n.rssi)) :
    Publishes networks (networks.take maxNetworksInStatus) := by
  refine ⟨List.length_take_le _ _, networks.drop maxNetworksInStatus,
    (List.take_append_drop _ _).symm, ?_⟩
  rw [← List.take_append_drop maxNetworksInStatus networks, List.pairwise_append] at hsorted
  exact hsorted.2.2

/-- A scan of the results ranks them, whatever their order, and the controller publishes the
strongest. -/
theorem scan_ranked (results : List Entry) : ∃ networks,
    scan (.document (some results)) = some networks ∧ Ranked results networks ∧
    (∀ results' networks', results'.Perm results →
      scan (.document (some results')) = some networks' →
      (networks'.map (fun n => (n.ssid, n.rssi))).Perm
        (networks.map (fun n => (n.ssid, n.rssi)))) ∧
    ∀ now c r, WifiController.resume .scanning (now, .scanned networks) c = some r →
      Publishes networks r.1.status.networks := by
  have hsorted : (ranked NetworkInfo.ssid NetworkInfo.rssi (named results)).Pairwise
      (fun n m => m.rssi ≤ n.rssi) := ranked_pairwise (named results)
  refine ⟨_, rfl, ranked_of_best (best_ranked _) hsorted, ?_, ?_⟩
  · intro results' networks' hperm hscan
    cases hscan
    refine (best_ranked _).pairs_perm (best_ranked _) fun n => ?_
    simp only [Option.getD_some, mem_named, hperm.mem_iff]
  · intro now c r hr
    cases hr
    exact publishes_take hsorted

end NexyGateway.WifiScan
