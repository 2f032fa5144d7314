import Mathlib.Data.List.Forall2
import NexyGateway.EncoderLaws
import NexyGateway.SerialPort
import NexyGateway.WifiStatus

/-!
# Status payloads as they are read

The two serializations of `bluetoothApi/state.py` in front of a JSON decoder: a READ gives
the status member by member, and a NOTIFY its number, its phase and its time.
-/
namespace NexyGateway

open JsonText PyDecoder PyJson PyNumber

/-- `json.loads` of bytes that are UTF-8. -/
def loadsUtf8 (value : ByteArray) : Option Json :=
  (Rs232Handler.decodeUtf8 value).bind (fun text => (loads text).toOption)

theorem loadsUtf8_of_reads {text : String} {v : Json} (h : Reads text.toList v) :
    loadsUtf8 text.toUTF8 = some v := by
  rw [loadsUtf8, String.toUTF8_eq_toByteArray, Rs232Handler.decodeUtf8_toByteArray,
    Option.bind_some, loads_iff.mpr h]
  rfl

/-- An integer that Python writes as text. -/
def Short (n : Int) : Prop := n.natAbs < 10 ^ maxStrDigits

instance : DecidablePred Short := fun _ => inferInstanceAs (Decidable (_ < _))

theorem short_of_lt {n : Int} (h : n.natAbs < 10 ^ 2) : Short n :=
  h.trans_le (Nat.pow_le_pow_right (by decide) (by decide))

namespace Status

def networkJson (n : NetworkInfo) : Json :=
  .dict [("ssid", .str n.ssid), ("rssi", .int n.rssi), ("security", .str n.security)]

def connectionJson (c : ConnectionInfo) : Json :=
  .dict [("ssid", .str c.ssid), ("rssi", .int c.rssi), ("ip", .str c.ip)]

def errorJson (e : StatusError) : Json :=
  .dict [("code", .str e.code), ("message", .str e.message)]

/-- The status as a client has it after a READ. -/
def json (s : Status) : Json :=
  .dict
    [("seq", .int s.seq), ("phase", .str s.phase.value), ("iface", s.iface.elim .null .str),
     ("current", s.current.elim .null connectionJson),
     ("networks", .list (s.networks.map networkJson)),
     ("error", s.error.elim .null errorJson), ("last_updated_ms", .int s.lastUpdatedMs)]

/-- The payload of a NOTIFY. -/
def tickJson (s : Status) : Json :=
  .dict [("seq", .int s.seq), ("phase", .str s.phase.value),
    ("last_updated_ms", .int s.lastUpdatedMs)]

/-- Python refuses to write longer integers. -/
structure Writable (s : Status) : Prop where
  seq : Short s.seq
  lastUpdatedMs : Short s.lastUpdatedMs
  networks : ∀ n ∈ s.networks, Short n.rssi
  current : ∀ c, s.current = some c → Short c.rssi

instance (s : Status) : Decidable s.Writable :=
  decidable_of_iff (Short s.seq ∧ Short s.lastUpdatedMs ∧ (∀ n ∈ s.networks, Short n.rssi) ∧
      ∀ c ∈ s.current, Short c.rssi)
    ⟨fun h => ⟨h.1, h.2.1, h.2.2.1, h.2.2.2⟩,
      fun h => ⟨h.seq, h.lastUpdatedMs, h.networks, h.current⟩⟩

theorem reads_networkText {n : NetworkInfo} (h : Short n.rssi) :
    Reads (networkText n).toList (networkJson n) := by
  refine reads_object compact_plain ?_ (by simp)
  exact .cons ⟨rfl, reads_string _⟩ (.cons ⟨rfl, reads_integer h⟩
    (.cons ⟨rfl, reads_string _⟩ .nil))

theorem reads_connectionText {c : ConnectionInfo} (h : Short c.rssi) :
    Reads (connectionText c).toList (connectionJson c) := by
  refine reads_object compact_plain ?_ (by simp)
  exact .cons ⟨rfl, reads_string _⟩ (.cons ⟨rfl, reads_integer h⟩
    (.cons ⟨rfl, reads_string _⟩ .nil))

theorem reads_errorText (e : StatusError) : Reads (errorText e).toList (errorJson e) := by
  refine reads_object compact_plain ?_ (by simp)
  exact .cons ⟨rfl, reads_string _⟩ (.cons ⟨rfl, reads_string _⟩ .nil)

/-- A READ gives the whole status back, whatever texts are in it. -/
theorem loads_toJson {s : Status} (h : s.Writable) : loadsUtf8 s.toJson = some s.json := by
  apply loadsUtf8_of_reads
  have hnetworks : List.Forall₂ (fun t v => Reads t.toList v) (s.networks.map networkText)
      (s.networks.map networkJson) := by
    rw [List.forall₂_map_left_iff, List.forall₂_map_right_iff, List.forall₂_same]
    exact fun n hn => reads_networkText (h.networks n hn)
  refine reads_object compact_plain ?_ (by simp)
  refine .cons ⟨rfl, reads_integer h.seq⟩ (.cons ⟨rfl, reads_string _⟩ (.cons ⟨rfl, ?_⟩
    (.cons ⟨rfl, ?_⟩ (.cons ⟨rfl, reads_array compact_plain hnetworks⟩ (.cons ⟨rfl, ?_⟩
      (.cons ⟨rfl, reads_integer h.lastUpdatedMs⟩ .nil))))))
  · exact reads_optional (fun x _ => reads_string x)
  · exact reads_optional (fun c hc => reads_connectionText (h.current c hc))
  · exact reads_optional (fun e _ => reads_errorText e)

theorem loads_toTickJson {s : Status} (h : s.Writable) :
    loadsUtf8 s.toTickJson = some s.tickJson := by
  apply loadsUtf8_of_reads
  refine reads_object compact_plain ?_ (by simp)
  exact .cons ⟨rfl, reads_integer h.seq⟩ (.cons ⟨rfl, reads_string _⟩
    (.cons ⟨rfl, reads_integer h.lastUpdatedMs⟩ .nil))

/-- An optional member is `null` or what it is written as. -/
theorem elim_inj {α : Type} {f : α → Json} (hnull : ∀ a, f a ≠ .null)
    (hf : ∀ a b, f a = f b → a = b) {x y : Option α} (h : x.elim .null f = y.elim .null f) :
    x = y := by
  cases x with
  | none =>
    cases y with
    | none => rfl
    | some b => exact absurd h.symm (hnull b)
  | some a =>
    cases y with
    | none => exact absurd h (hnull a)
    | some b => rw [hf a b h]

theorem networkJson_inj {m n : NetworkInfo} (h : networkJson m = networkJson n) : m = n := by
  obtain ⟨ssid, rssi, security⟩ := m
  obtain ⟨ssid', rssi', security'⟩ := n
  simpa [networkJson] using h

theorem connectionJson_inj (c d : ConnectionInfo) (h : connectionJson c = connectionJson d) :
    c = d := by
  obtain ⟨ssid, rssi, ip⟩ := c
  obtain ⟨ssid', rssi', ip'⟩ := d
  simpa [connectionJson] using h

theorem errorJson_inj (e e' : StatusError) (h : errorJson e = errorJson e') : e = e' := by
  obtain ⟨code, message⟩ := e
  obtain ⟨code', message'⟩ := e'
  simpa [errorJson] using h

theorem phase_value_inj {p q : Phase} (h : p.value = q.value) : p = q := by
  cases p <;> cases q <;> first | rfl | exact absurd h (by decide)

/-- No two statuses look the same to a client. -/
theorem json_inj {s t : Status} (h : s.json = t.json) : s = t := by
  obtain ⟨seq, phase, iface, current, networks, error, lastUpdatedMs⟩ := s
  obtain ⟨seq', phase', iface', current', networks', error', lastUpdatedMs'⟩ := t
  simp only [json, Json.dict.injEq, List.cons.injEq, Prod.mk.injEq, true_and, and_true,
    Json.int.injEq, Json.str.injEq, Json.list.injEq] at h
  obtain ⟨hseq, hphase, hiface, hcurrent, hnetworks, herror, rfl⟩ := h
  obtain rfl := phase_value_inj hphase
  obtain rfl := elim_inj (fun a ha => by cases ha) (fun a b hab => by simpa using hab) hiface
  obtain rfl := elim_inj (fun a ha => by cases ha) connectionJson_inj hcurrent
  obtain rfl := List.map_injective_iff.mpr (fun a b => networkJson_inj) hnetworks
  obtain rfl := elim_inj (fun a ha => by cases ha) errorJson_inj herror
  obtain rfl := Int.ofNat.inj hseq
  rfl

/-- The text of a READ tells the whole status and that of a NOTIFY its number, phase and time;
another status has another text. -/
theorem toJson_faithful {s : Status} (h : s.Writable) :
    loadsUtf8 s.toJson = some s.json ∧ loadsUtf8 s.toTickJson = some s.tickJson ∧
      ∀ t : Status, t.Writable → t.toJson = s.toJson → t = s := by
  refine ⟨loads_toJson h, loads_toTickJson h, fun t ht hsame => ?_⟩
  have hjson : some t.json = some s.json := by
    rw [← loads_toJson ht, hsame, loads_toJson h]
  exact json_inj (Option.some.inj hjson)

theorem toJson_faithful_connected :
    let s : Status :=
      { seq := 4, phase := .connected, iface := some "wlan0",
        current := some ⟨"Gäste \"7\"", -50, "10.0.0.2"⟩, lastUpdatedMs := 1 }
    loadsUtf8 s.toJson = some s.json ∧ loadsUtf8 s.toTickJson = some s.tickJson ∧
      ∀ t : Status, t.Writable → t.toJson = s.toJson → t = s :=
  toJson_faithful
    { seq := short_of_lt (by decide)
      lastUpdatedMs := short_of_lt (by decide)
      networks := by simp
      current := fun c hc => by
        cases hc
        exact short_of_lt (by decide) }

end Status

end NexyGateway
