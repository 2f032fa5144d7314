import NexyGateway.DatabaseUpdates
import NexyGateway.LittleEndian

/-!
# What the signals of a lift stand for

A reference for the decoding of a signal, told without shifts, loops and validation. The
unpackers of the library agree with it on every list of integers.
-/
namespace NexyGateway.ThousandLib

open PyNumber PyJson

/-- A response to a poll: integers, or one text. -/
inductive Answer where
  | integers (items : List Int)
  | text (s : String)

def Answer.response : Answer → Json
  | .integers items => .list (items.map .int)
  | .text s => .list [.str s]

/-- Texts answer for generic texts, integers for all other signals. -/
def Answer.Suits (sig : Signal) : Answer → Prop
  | .integers _ => sig.type ≠ .genericText
  | .text _ => sig.type = .genericText

/-- The bytes of a signal, if all of them are there and all are bytes. -/
def Signal.octets (sig : Signal) (items : List Int) : Option (List Nat) :=
  let region := (items.drop sig.byteStart).take sig.byteSize
  if region.length = sig.byteSize ∧ ∀ n ∈ region, 0 ≤ n ∧ n ≤ 255 then some (region.map Int.toNat)
  else none

/-- What the bytes of a signal stand for at the time `now`. -/
def Signal.decoded (sig : Signal) (now : Int) (octets : List Nat) : String :=
  let number : Int := (Nat.ofDigits 256 octets : Nat)
  match sig.type with
  | .uint => toString number
  | .time => toString (978307200 + number)
  | .wtime => toString (if number = 0 then 0 else now - (604800 - number))
  | .byte => toString ((octets.headD 0 / 2 ^ sig.bitStart % 2 ^ sig.bitSize : Nat) : Int)
  | .string =>
    String.ofList (((octets.takeWhile (fun b => b ≠ 0)).map Char.ofNat).filter
      (fun c => c ≠ ' ' ∧ c ≠ ','))
  | .genericText | .vfd => ""

/-- A text of less than `size` characters, without commas and underscores. -/
def label (size : Nat) (s : String) : String :=
  String.ofList ((if size ≤ s.length then s.toList.take (size - 1) else s.toList).map
    (fun c => if c = ',' ∨ c = '_' then ' ' else c))

/-- The reference decoding of a signal; `none` where it cannot be decoded. -/
def reference (clock : Int → Int) (answer : Answer) (sig : Signal) : Option String :=
  match answer with
  | .integers items => (sig.octets items).map (sig.decoded (clock sig.param))
  | .text s => some (label sig.byteSize s)

/-- What the table has for every signal of a package. -/
structure Signal.Regular (sig : Signal) : Prop where
  notVfd : sig.type ≠ .vfd
  oneByte : sig.type = .byte → sig.byteSize = 1
  textFirst : sig.type = .genericText → sig.byteStart = 0

instance (sig : Signal) : Decidable sig.Regular :=
  decidable_of_iff (sig.type ≠ .vfd ∧ (sig.type = .byte → sig.byteSize = 1) ∧
      (sig.type = .genericText → sig.byteStart = 0))
    ⟨fun h => ⟨h.1, h.2.1, h.2.2⟩, fun h => ⟨h.notVfd, h.oneByte, h.textFirst⟩⟩

section Bytes

variable {sig : Signal} {items : List Int} {octets : List Nat}

/-- The elements of a slice, one by one. -/
theorem mapM_item (l : List Json) (start size : Nat) :
    (List.range' start size).mapM (Json.item (.list l)) =
      if ((l.drop start).take size).length = size then .ok ((l.drop start).take size)
      else .error .indexError := by
  induction size generalizing start with
  | zero => simp [pure, Except.pure]
  | succ size ih =>
    rw [List.range'_succ, List.mapM_cons, ih (start + 1)]
    cases hitem : l[start]? with
    | none =>
      have hdrop : l.drop start = [] := List.drop_eq_nil_of_le (List.getElem?_eq_none_iff.mp hitem)
      simp [Json.item, hitem, hdrop, bind, Except.bind]
    | some v =>
      have hdrop : l.drop start = v :: l.drop (start + 1) := by
        obtain ⟨hlt, rfl⟩ := List.getElem?_eq_some_iff.mp hitem
        exact List.drop_eq_getElem_cons hlt
      rw [hdrop, List.take_succ_cons, List.length_cons]
      by_cases hlength : ((l.drop (start + 1)).take size).length = size
      · rw [if_pos hlength, if_pos (by omega)]
        simp [Json.item, hitem, bind, Except.bind, pure, Except.pure]
      · rw [if_neg hlength, if_neg (by omega)]
        simp [Json.item, hitem, bind, Except.bind]

theorem isByte_int (n : Int) : isByte (.int n) = true ↔ 0 ≤ n ∧ n ≤ 255 := by
  simp [isByte, Json.toInt]

theorem octets_some (h : sig.octets items = some octets) :
    octets.length = sig.byteSize ∧ (∀ b ∈ octets, b < 256) ∧
      (items.drop sig.byteStart).take sig.byteSize = octets.map Int.ofNat := by
  simp only [Signal.octets, Option.ite_none_right_eq_some, Option.some.injEq] at h
  obtain ⟨⟨hlength, hbytes⟩, rfl⟩ := h
  refine ⟨by rw [List.length_map, hlength], ?_, ?_⟩
  · intro b hb
    obtain ⟨n, hn, rfl⟩ := List.mem_map.mp hb
    have := hbytes n hn
    omega
  · rw [List.map_map]
    apply List.ext_getElem (by simp)
    intro i hi _
    have := hbytes _ (List.getElem_mem hi)
    simp only [List.getElem_map, Function.comp_apply, Int.ofNat_eq_natCast]
    omega

/-- A signal passes the validation exactly if all its bytes are there. -/
theorem region_of_octets (h : sig.octets items = some octets) :
    sig.region (.list (items.map .int)) = .ok (octets.map (fun b : Nat => .int b)) := by
  obtain ⟨hlength, -, hregion⟩ := octets_some h
  have hslice : ((items.map Json.int).drop sig.byteStart).take sig.byteSize =
      octets.map (fun b : Nat => Json.int b) := by
    rw [← List.map_drop, ← List.map_take, hregion, List.map_map]
    rfl
  rw [Signal.region, mapM_item, hslice, if_pos (by rw [List.length_map, hlength])]

theorem validateBytes_iff :
    validateBytes sig (.list (items.map .int)) = (sig.octets items).isSome := by
  have hslice : ((items.map Json.int).drop sig.byteStart).take sig.byteSize =
      ((items.drop sig.byteStart).take sig.byteSize).map Json.int := by
    rw [← List.map_drop, ← List.map_take]
  rw [validateBytes, Signal.region, mapM_item, hslice, List.length_map, Signal.octets]
  generalize (items.drop sig.byteStart).take sig.byteSize = region
  by_cases hlength : region.length = sig.byteSize
  · have hall : (region.map Json.int).all isByte = true ↔ ∀ n ∈ region, 0 ≤ n ∧ n ≤ 255 := by
      rw [List.all_eq_true, List.forall_mem_map]
      simp only [isByte_int]
    rw [if_pos hlength, Bool.eq_iff_iff, Option.isSome_ite]
    simp only [hlength, true_and]
    exact hall
  · rw [if_neg hlength]
    simp [hlength]

theorem mapM_octet (octets : List Nat) :
    (octets.map (fun b : Nat => Json.int b)).mapM octet = .ok octets := by
  induction octets with
  | nil => rfl
  | cons b octets ih =>
    rw [List.map_cons, List.mapM_cons, ih]
    rfl

/-- Bytes up to the first zero, without the two characters that are left out. -/
theorem unpackChars_octets (octets : List Nat) :
    unpackChars (octets.map (fun b : Nat => Json.int b)) =
      .ok (((octets.takeWhile (fun b => b ≠ 0)).map Char.ofNat).filter
        (fun c => c ≠ ' ' ∧ c ≠ ',')) := by
  induction octets with
  | nil => rfl
  | cons b octets ih =>
    have hzero : (Json.int b).eq (.int 0) = true ↔ b = 0 := by simp [Json.eq, Json.number]
    rw [List.map_cons, unpackChars]
    by_cases hb : b = 0
    · rw [if_pos (hzero.mpr hb), List.takeWhile_cons_of_neg (by simpa using hb)]
      rfl
    · have hchar : octet (.int b) = .ok b := rfl
      have hkept : Char.ofNat b ∈ unsupportedChars ↔
          ¬ (Char.ofNat b ≠ ' ' ∧ Char.ofNat b ≠ ',') := by
        rw [not_and_or, not_not, not_not]
        simp [unsupportedChars]
      rw [if_neg (fun h => hb (hzero.mp h)), List.takeWhile_cons_of_pos (by simpa using hb),
        List.map_cons, List.filter_cons, hchar, ih]
      by_cases hc : Char.ofNat b ≠ ' ' ∧ Char.ofNat b ≠ ','
      · rw [if_pos (decide_eq_true hc)]
        simp only [Except.map, if_neg (fun h => hkept.mp h hc)]
      · rw [if_neg (by simpa using hc)]
        simp only [Except.map, if_pos (hkept.mpr hc)]

end Bytes

section Unpacking

variable {sig : Signal} {items : List Int} {octets : List Nat} {clock : Int → Int}

theorem unpackUint_octets (h : sig.octets items = some octets) :
    unpackUint sig (.list (items.map .int)) = .ok (Nat.ofDigits 256 octets : Nat) := by
  obtain ⟨-, hbytes, -⟩ := octets_some h
  simp only [unpackUint, region_of_octets h, mapM_octet, bind, Except.bind, pure, Except.pure,
    LittleEndian.join_eq_ofDigits hbytes]

theorem unpackByte_octets (hsize : sig.byteSize = 1) (h : sig.octets items = some octets) :
    unpackByte sig (.list (items.map .int)) =
      .ok ((octets.headD 0 / 2 ^ sig.bitStart % 2 ^ sig.bitSize : Nat) : Int) := by
  obtain ⟨hlength, -, -⟩ := octets_some h
  obtain ⟨b, rfl⟩ := List.length_eq_one_iff.mp (hlength.trans hsize)
  have hregion := region_of_octets h
  have hitem : (Json.list (items.map .int)).item sig.byteStart = .ok (.int b) := by
    rw [Signal.region, hsize] at hregion
    cases hi : (Json.list (items.map .int)).item sig.byteStart with
    | error e => simp [hi, bind, Except.bind] at hregion
    | ok v =>
      simp only [List.range'_succ, List.range'_zero, List.mapM_cons, List.mapM_nil, hi, bind,
        Except.bind, pure, Except.pure, Except.ok.injEq, List.map_cons, List.map_nil,
        List.cons.injEq, and_true] at hregion
      rw [hregion]
  have hoctet : octet (.int b) = .ok b := rfl
  simp only [unpackByte, hitem, hoctet, bind, Except.bind, pure, Except.pure, List.headD_cons,
    Nat.and_two_pow_sub_one_eq_mod, Nat.shiftRight_eq_div_pow]

theorem unpackString_octets (h : sig.octets items = some octets) :
    unpackString sig (.list (items.map .int)) =
      .ok (String.ofList (((octets.takeWhile (fun b => b ≠ 0)).map Char.ofNat).filter
        (fun c => c ≠ ' ' ∧ c ≠ ','))) := by
  simp only [unpackString, region_of_octets h, unpackChars_octets, bind, Except.bind, pure,
    Except.pure]

/-- A text is cut and cleaned as the reference has it. -/
theorem unpackGenericText_text (hstart : sig.byteStart = 0) (s : String) :
    unpackGenericText sig (.list [.str s]) = .ok (.str (label sig.byteSize s)) := by
  have hclean : withSpaces = fun c => if c = ',' ∨ c = '_' then ' ' else c := rfl
  simp only [unpackGenericText, hstart, Json.item, List.getElem?_cons_zero, bind, Except.bind, pure,
    Except.pure, label, hclean, cutTo, String.length_toList]

/-- What an unpacking returns. -/
def outcome : Option String → Except PyError (Json × Rs232Code)
  | some text => .ok (.str text, .NO_ERR)
  | none => .ok (unset, .PARTIAL_ERR)

theorem unpackSignal_integers (hregular : sig.Regular) (htype : sig.type ≠ .genericText)
    (items : List Int) : unpackSignal clock sig (.list (items.map .int)) =
      outcome (reference clock (.integers items) sig) := by
  rw [unpackSignal, if_neg htype, validateBytes_iff]
  cases h : sig.octets items with
  | none => simp [reference, h, outcome]
  | some octets =>
    simp only [reference, h, Option.isSome_some, Bool.not_true, Bool.false_eq_true, if_false,
      Option.map_some, outcome, Signal.decoded]
    cases hsig : sig.type with
    | uint => simp only [unpackUint_octets h, Except.map, unpacked]
    | wtime =>
      simp only [unpackWeeklyTimer, unpackUint_octets h, bind, Except.bind, pure, Except.pure,
        Except.map, unpacked, maxTime]
      norm_num
    | byte => simp only [unpackByte_octets (hregular.oneByte hsig) h, Except.map, unpacked]
    | string => simp only [unpackString_octets h, Except.map]
    | time =>
      simp only [unpackAsEpochTime, unpackUint_octets h, bind, Except.bind, pure, Except.pure,
        Except.map, unpacked, from1970To2001]
    | genericText => exact absurd hsig htype
    | vfd => exact absurd hsig hregular.notVfd

/-- The unpackers agree with the reference. -/
theorem unpackSignal_reference (hregular : sig.Regular) {answer : Answer}
    (hsuits : answer.Suits sig) :
    unpackSignal clock sig answer.response = outcome (reference clock answer sig) := by
  cases answer with
  | integers items => exact unpackSignal_integers hregular hsuits items
  | text s =>
    have htype : sig.type = .genericText := hsuits
    rw [unpackSignal, if_pos htype, Answer.response,
      unpackGenericText_text (hregular.textFirst htype)]
    rfl

end Unpacking

section Lists

variable {sig : Signal} {clock : Int → Int} {data data' : List Json}

/-- The bytes of a number, at the place of a signal, are its region. -/
theorem region_cut {n : Nat} (hbytes : ∀ j < sig.byteSize,
    data[sig.byteStart + j]? = some (.int (n / 256 ^ j % 256 : Nat))) :
    sig.region (.list data) =
      .ok ((LittleEndian.cut 256 sig.byteSize n).map (fun b : Nat => Json.int b)) := by
  have hslice : (data.drop sig.byteStart).take sig.byteSize =
      (LittleEndian.cut 256 sig.byteSize n).map (fun b : Nat => Json.int b) := by
    apply List.ext_getElem?
    intro j
    by_cases hj : j < sig.byteSize
    · rw [List.getElem?_take_of_lt hj, List.getElem?_drop, hbytes j hj]
      simp [LittleEndian.cut, hj]
    · rw [List.getElem?_eq_none (by rw [List.length_take]; omega),
        List.getElem?_eq_none (by simpa [LittleEndian.cut] using hj)]
  rw [Signal.region, mapM_item, hslice, if_pos (by simp [LittleEndian.cut])]

/-- A number that fits reads back from its bytes. -/
theorem unpackSignal_cut (clock : Int → Int) {n : Nat} (htype : sig.type = .uint)
    (hfits : n < 256 ^ sig.byteSize) (hregion : sig.region (.list data) =
      .ok ((LittleEndian.cut 256 sig.byteSize n).map (fun b : Nat => Json.int b))) :
    unpackSignal clock sig (.list data) = .ok (.str (toString (n : Int)), .NO_ERR) := by
  have hbytes : ∀ b ∈ LittleEndian.cut 256 sig.byteSize n, b < 256 :=
    LittleEndian.cut_lt (by decide) _ _
  have hvalid : validateBytes sig (.list data) = true := by
    rw [validateBytes, hregion]
    simp only [List.all_eq_true, List.forall_mem_map, isByte_int]
    intro b hb
    have := hbytes b hb
    omega
  have huint : unpackUint sig (.list data) = .ok (n : Int) := by
    simp only [unpackUint, hregion, mapM_octet, bind, Except.bind, pure, Except.pure,
      LittleEndian.join_eq_ofDigits hbytes, LittleEndian.ofDigits_cut_of_lt hfits]
  simp [unpackSignal, htype, hvalid, huint, Except.map, unpacked]

/-- A number is unpacked from its own bytes only. -/
theorem unpackSignal_congr (clock : Int → Int) (htype : sig.type = .uint)
    (hsame : ∀ j < sig.byteSize, data'[sig.byteStart + j]? = data[sig.byteStart + j]?) :
    unpackSignal clock sig (.list data') = unpackSignal clock sig (.list data) := by
  have hslice : (data'.drop sig.byteStart).take sig.byteSize =
      (data.drop sig.byteStart).take sig.byteSize := by
    apply List.ext_getElem?
    intro j
    by_cases hj : j < sig.byteSize
    · rw [List.getElem?_take_of_lt hj, List.getElem?_take_of_lt hj, List.getElem?_drop,
        List.getElem?_drop, hsame j hj]
    · rw [List.getElem?_eq_none (by rw [List.length_take]; omega),
        List.getElem?_eq_none (by rw [List.length_take]; omega)]
  have hregion : sig.region (.list data') = sig.region (.list data) := by
    rw [Signal.region, Signal.region, mapM_item, mapM_item, hslice]
  have huint : unpackUint sig (.list data') = unpackUint sig (.list data) := by
    rw [unpackUint, unpackUint, hregion]
  simp only [unpackSignal, htype, reduceCtorEq, if_false, validateBytes, hregion, huint]

end Lists

end NexyGateway.ThousandLib
