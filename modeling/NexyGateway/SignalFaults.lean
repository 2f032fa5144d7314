import NexyGateway.ThousandLib

/-!
# Bytes that the unpackers cannot use

The validation lets pass whatever `int` turns into a byte. The unpackers work on the
elements themselves, so a float or a digit text that passes makes them raise.
-/
namespace NexyGateway.ThousandLib

open PyNumber PyJson

def isInteger : Json → Bool
  | .bool _ | .int _ => true
  | _ => false

/-- The values that a generic text is made of without an exception. -/
def isLabel (size : Nat) : Json → Bool
  | .str _ => true
  | .list items => !hasSeparator (cutTo size items)
  | .dict members => members.length < size && !(Dict.has members "," || Dict.has members "_")
  | _ => false

/-- The signal passes the validation, and cannot be unpacked. -/
def Garbled (sig : Signal) (response : Json) : Prop :=
  match sig.type with
  | .genericText => ∀ v, response.item sig.byteStart = .ok v → isLabel sig.byteSize v = false
  | .byte => validateBytes sig response = true ∧
      ∀ v, response.item sig.byteStart = .ok v → isInteger v = false
  | .string => validateBytes sig response = true ∧ ∃ items, sig.region response = .ok items ∧
      ∃ v ∈ items.takeWhile (fun v => !v.eq (.int 0)), isInteger v = false
  | .vfd => False
  | _ => validateBytes sig response = true ∧ ∃ items, sig.region response = .ok items ∧
      ∃ v ∈ items, isInteger v = false

theorem octet_ok {v : Json} (h : isInteger v = true) : ∃ n, octet v = .ok n := by
  cases v <;> first | exact ⟨_, rfl⟩ | cases h

theorem octet_error {v : Json} (h : isInteger v = false) : ∃ e, octet v = .error e := by
  cases v <;> first | exact ⟨_, rfl⟩ | cases h

theorem octets_error_iff {items : List Json} :
    (∃ e, items.mapM octet = .error e) ↔ ∃ v ∈ items, isInteger v = false := by
  induction items with
  | nil => simp [pure, Except.pure]
  | cons v items ih =>
    cases hv : isInteger v with
    | false =>
      obtain ⟨e, he⟩ := octet_error hv
      simp [List.mapM_cons, he, bind, Except.bind, hv]
    | true =>
      obtain ⟨n, hn⟩ := octet_ok hv
      simp only [List.mapM_cons, hn, bind, Except.bind, List.exists_mem_cons_iff, hv,
        Bool.true_eq_false, false_or, ← ih]
      cases items.mapM octet <;> simp [pure, Except.pure]

theorem unpackChars_error_iff {items : List Json} : (∃ e, unpackChars items = .error e) ↔
    ∃ v ∈ items.takeWhile (fun v => !v.eq (.int 0)), isInteger v = false := by
  induction items with
  | nil => simp [unpackChars]
  | cons v items ih =>
    by_cases hzero : v.eq (.int 0) = true
    · simp [unpackChars, hzero]
    · rw [List.takeWhile_cons_of_pos (by simpa using hzero), List.exists_mem_cons_iff, ← ih]
      simp only [unpackChars, if_neg hzero]
      cases hv : isInteger v with
      | false =>
        obtain ⟨e, he⟩ := octet_error hv
        simp [he]
      | true =>
        obtain ⟨n, hn⟩ := octet_ok hv
        simp only [hn, Bool.true_eq_false, false_or]
        cases unpackChars items <;> simp [Except.map]

theorem map_error_iff {α β ε : Type} {x : Except ε α} {f : α → β} :
    (∃ e, x.map f = .error e) ↔ ∃ e, x = .error e := by
  cases x <;> simp [Except.map]

theorem region_of_validateBytes {sig : Signal} {response : Json}
    (h : validateBytes sig response = true) : ∃ items, sig.region response = .ok items := by
  unfold validateBytes at h
  split at h
  · exact ⟨_, by assumption⟩
  · cases h

theorem unpackUint_error_iff {sig : Signal} {response : Json} {items : List Json}
    (h : sig.region response = .ok items) :
    (∃ e, unpackUint sig response = .error e) ↔ ∃ v ∈ items, isInteger v = false := by
  rw [← octets_error_iff]
  simp only [unpackUint, h, bind, Except.bind]
  cases items.mapM octet <;> simp [pure, Except.pure]

theorem unpackByte_error_iff {sig : Signal} {response : Json} :
    (∃ e, unpackByte sig response = .error e) ↔
      ∀ v, response.item sig.byteStart = .ok v → isInteger v = false := by
  simp only [unpackByte, bind, Except.bind]
  cases response.item sig.byteStart with
  | error e => simp
  | ok v =>
    cases hv : isInteger v with
    | false =>
      obtain ⟨e, he⟩ := octet_error hv
      simp [he, hv]
    | true =>
      obtain ⟨n, hn⟩ := octet_ok hv
      simp [hn, hv, pure, Except.pure]

theorem unpackGenericText_error_iff {sig : Signal} {response : Json} :
    (∃ e, unpackGenericText sig response = .error e) ↔
      ∀ v, response.item sig.byteStart = .ok v → isLabel sig.byteSize v = false := by
  simp only [unpackGenericText, bind, Except.bind]
  cases response.item sig.byteStart with
  | error e => simp
  | ok v =>
    cases v with
    | list items =>
      by_cases hsep : hasSeparator (cutTo sig.byteSize items) = true
      · simp [isLabel, hsep]
      · simp [isLabel, hsep, pure, Except.pure]
    | dict members =>
      simp only [Except.ok.injEq, forall_eq', isLabel]
      by_cases hsize : sig.byteSize ≤ members.length
      · simp [hsize]
      · by_cases hkey : (Dict.has members "," || Dict.has members "_") = true
        · simp [hsize, hkey]
        · simp [hsize, hkey, pure, Except.pure]
    | _ => simp [isLabel, pure, Except.pure]

/-- Unpacking raises exactly on what is garbled. -/
theorem unpackSignal_error_iff (clock : Int → Int) {sig : Signal} {response : Json} :
    (∃ e, unpackSignal clock sig response = .error e) ↔ Garbled sig response := by
  unfold unpackSignal Garbled
  by_cases hvalid : validateBytes sig response = true
  · obtain ⟨items, hitems⟩ := region_of_validateBytes hvalid
    have huint := unpackUint_error_iff hitems
    have hitems' : ∀ {P : List Json → Prop},
        (∃ l, sig.region response = .ok l ∧ P l) ↔ P items := by
      intro P
      simp [hitems]
    cases htype : sig.type with
    | genericText => simp only [if_true, map_error_iff, unpackGenericText_error_iff]
    | uint => simp only [reduceCtorEq, if_false, hvalid, Bool.not_true, Bool.false_eq_true,
        map_error_iff, huint, true_and, hitems']
    | wtime =>
      simp only [reduceCtorEq, if_false, hvalid, Bool.not_true, Bool.false_eq_true,
        map_error_iff, true_and, hitems', ← huint]
      simp only [unpackWeeklyTimer, bind, Except.bind]
      cases unpackUint sig response <;> simp [pure, Except.pure]
    | byte => simp only [reduceCtorEq, if_false, hvalid, Bool.not_true, Bool.false_eq_true,
        map_error_iff, unpackByte_error_iff, true_and]
    | string =>
      simp only [reduceCtorEq, if_false, hvalid, Bool.not_true, Bool.false_eq_true,
        map_error_iff, true_and, hitems', ← unpackChars_error_iff]
      simp only [unpackString, hitems, bind, Except.bind]
      cases unpackChars items <;> simp [pure, Except.pure]
    | time =>
      simp only [reduceCtorEq, if_false, hvalid, Bool.not_true, Bool.false_eq_true,
        map_error_iff, true_and, hitems', ← huint]
      simp only [unpackAsEpochTime, bind, Except.bind]
      cases unpackUint sig response <;> simp [pure, Except.pure]
    | vfd => simp [hvalid]
  · cases htype : sig.type with
    | genericText => simp only [if_true, map_error_iff, unpackGenericText_error_iff]
    | _ => simp [hvalid]

/-- Bytes are stored as text. -/
theorem unpackSignal_str {clock : Int → Int} {sig : Signal} {response v : Json} {code : Rs232Code}
    (htype : sig.type ≠ .genericText) (h : unpackSignal clock sig response = .ok (v, code)) :
    ∃ s, v = .str s := by
  have hmap : ∀ {α : Type} {x : Except PyError α} {f : α → String},
      x.map (fun a => (Json.str (f a), Rs232Code.NO_ERR)) = .ok (v, code) → ∃ s, v = .str s := by
    intro α x f hx
    cases x with
    | error e => cases hx
    | ok a => cases hx; exact ⟨_, rfl⟩
  unfold unpackSignal at h
  rw [if_neg htype] at h
  split at h
  · cases h; exact ⟨_, rfl⟩
  · split at h
    · exact hmap h
    · exact hmap h
    · exact hmap h
    · exact hmap h
    · exact hmap h
    · cases h; exact ⟨_, rfl⟩

end NexyGateway.ThousandLib
