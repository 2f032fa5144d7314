import NexyGateway.FileWrites
import NexyGateway.VirtualSources

/-!
# A write and the report after it

A write leaves the caller's text in the cache, the next report the text of the number that
the lift has stored. Both are the same exactly if the caller has spelled the number as the
report does.
-/
namespace NexyGateway.Rs232Handler

open PyNumber PyJson ThousandLib

def filePackageOf : List (String × Package) :=
  [("/aritco/param", .readFileParam), ("/aritco/intern", .readFileIntern),
   ("/aritco/node", .readFileNode), ("/aritco/lock", .readFileLock),
   ("/aritco/door", .readFileDoor)]

/-- The byte of floor `f` in package 130, and its bit for the lock. -/
def LockBit (bytes : List Int) (f : Nat) (locked : Bool) : Prop :=
  ∃ b : Nat, bytes[4 + f]? = some (b : Int) ∧ b ≤ 255 ∧ b.testBit 5 = locked

/-- What a lift reports when it has stored what it was sent, the rest of the package being as it
may. -/
inductive ReportedAfter : Message → Package → Json → Prop
  | file {name : String} {data : List Json} {package : Package}
      (known : (name, package) ∈ filePackageOf) :
      ReportedAfter (.writeFile name data) package (.list data)
  | childLock {text : String} {bytes : List Int} {b : Nat} (at16 : bytes[16]? = some (b : Int))
      (isByte : b ≤ 255) (stored : b.testBit 5 = decide (text = "on")) :
      ReportedAfter (.childLock text) .package130 (.list (bytes.map .int))
  | floorLock {floors : List Int} {bytes : List Int}
      (stored : ∀ f, 1 ≤ f → f ≤ 6 → LockBit bytes f (decide ((f : Int) ∈ floors))) :
      ReportedAfter (.floorLock floors) .package130 (.list (bytes.map .int))
  | oilLevel {text : String} {level : Int} {bytes : List Int}
      (number : PyNumber.int text = some level) (at2 : bytes[2]? = some level) :
      ReportedAfter (.oilLevel text) .package130 (.list (bytes.map .int))

/-- What the next poll makes of a parameter: the floor lock is put together after the packages. -/
def polledValue (clock : Int → Int) (param : Int) (package : Package) (response : Json)
    (lib : Lib) : Except PyError (Json × Rs232Code) :=
  if param = floorLock.param then
    updateFloorLock (getUpdatedParams clock package response lib).lib
  else
    match package.signals.find? (fun sig => sig.param = param) with
    | some sig => unpackSignal clock sig response
    | none => .error .keyError

/-- The poll comes to what the cache has, and does not report the parameter. -/
structure PollAgrees (clock : Int → Int) (param : Int) (package : Package) (response : Json)
    (lib : Lib) : Prop where
  value : polledValue clock param package response lib = .ok (lib.value param, .NO_ERR)
  inPackage : param ∉ (getUpdatedParams clock package response lib).changed
  inVirtual : param ∉
    (updateVirtualSignals clock (getUpdatedParams clock package response lib).lib).changed

/-- What the lift stores of a value: the child lock is on or off. -/
def storedValue (param value : Int) : Int :=
  if param = childLockParam then if value = 0 then 0 else 1 else value

section Sent

variable {h : Handler} {param value : Int} {valueStr : String} {reads replies : List FrameRead}
  {message : Message}

/-- Only a file is written by way of a file. -/
theorem writeFileParam_messages
    (hsent : message ∈ (writeFileParam h param value reads replies).sent) :
    (∃ name, message = .readFile name) ∨ ∃ name data, message = .writeFile name data := by
  have hread : ∀ {m : Message},
      m ∈ (read1kFile h.available (getFileForParam param) reads h.saved).sent →
        ∃ name, m = .readFile name := by
    intro m hm
    unfold read1kFile at hm
    split at hm
    · simp at hm
    · exact ⟨_, request_sent hm⟩
  unfold writeFileParam at hsent
  simp only at hsent
  split at hsent
  · simp at hsent
  split at hsent
  · simp at hsent
  split at hsent
  · exact .inl (hread hsent)
  split at hsent
  · exact .inl (hread hsent)
  split at hsent
  · exact .inl (hread hsent)
  · exact .inl (hread hsent)
  · rcases List.mem_append.mp hsent with hm | hm
    · exact .inl (hread hm)
    · unfold write1kFile at hm
      split at hm
      · simp at hm
      · exact .inr ⟨_, _, request_sent hm⟩

/-- A write that has sent something and returns without an error leaves the caller's text. -/
theorem writeParameter_done {paramStr : String} (hparam : PyNumber.int paramStr = some param)
    (hvalue : PyNumber.int valueStr = some value)
    (hok : (writeParameter h paramStr valueStr reads replies).1.result = .ok .NO_ERR)
    (hsent : message ∈ (writeParameter h paramStr valueStr reads replies).1.sent) :
    (writeParameter h paramStr valueStr reads replies).2.lib = h.lib.set param (.str valueStr) ∧
      WriteSends h param value valueStr reads replies message := by
  by_cases hnew : getParam param h.lib = (.str valueStr, .NO_ERR)
  · have hpresent := writeParameter_present reads replies hparam hvalue hnew
    rw [hpresent] at hsent
    simp at hsent
  · obtain ⟨hout, hdone, -⟩ := writeParameter_dispatch reads replies hparam hvalue hnew
    rw [hout] at hok hsent
    exact ⟨hdone hok, writeDispatch_sends hsent⟩

end Sent

section Poll

variable {clock : Int → Int} {response : Json} {param : Int} {lib : Lib}

/-- A parameter is not reported if the cache has what is stored for it. -/
theorem store_unchanged {p : Int} {v : Json} {u : Update} (hp : p ∉ u.changed)
    (hsame : p = param → ∃ s, v = .str s ∧ u.lib.value p = .str s) :
    p ∉ (u.store param v).changed ∧ (u.store param v).lib.value p = u.lib.value p := by
  by_cases hparam : p = param
  · obtain ⟨s, rfl, hs⟩ := hsame hparam
    subst hparam
    rw [store_of_eq hs]
    exact ⟨hp, rfl⟩
  · have hwithin := within_store param v u
    have hother : p ∉ [param] := by simpa using hparam
    refine ⟨fun hmem => ?_, hwithin.frame p hother⟩
    rcases hwithin.known p hmem with hold | hnew
    · exact hp hold
    · exact hother hnew

theorem updateSignals_unchanged {sigs : List Signal} {u : Update} (hp : param ∉ u.changed)
    (hsame : ∀ sig ∈ sigs, param = sig.param → ∀ v,
      unpackSignal clock sig response = .ok (v, .NO_ERR) →
        ∃ s, v = .str s ∧ u.lib.value param = .str s) :
    param ∉ (updateSignals clock response sigs u).changed := by
  induction sigs generalizing u with
  | nil => exact hp
  | cons sig rest ih =>
    obtain ⟨hsig, hrest⟩ := List.forall_mem_cons.mp hsame
    rcases unpackSignal_cases clock sig response with ⟨e, h⟩ | ⟨v, code, h, hcode⟩ | ⟨v, h⟩
    · rw [updateSignals_raised h]
      exact hp
    · rw [updateSignals_skipped h hcode]
      exact ih (u := { u with errCode := code }) hp hrest
    · rw [updateSignals_stored h]
      obtain ⟨hp', hvalue⟩ := store_unchanged hp (fun hparam => hsig hparam v h)
      refine ih hp' fun s hs heq w hw => ?_
      rw [hvalue]
      exact hrest s hs heq w hw

theorem updateVirtual_unchanged {params : List Int} {signals : List VirtualSignal} {u : Update}
    (hsources : SameSources params lib u.lib) (hderived : ∀ signal ∈ signals, Derived params signal)
    (hp : param ∉ u.changed)
    (hsame : ∀ signal ∈ signals, param = signal.1 → ∀ v, signal.2 lib = .ok (v, .NO_ERR) →
      u.lib.value param = v) :
    param ∉ (updateVirtual signals u).changed := by
  induction signals generalizing u with
  | nil => exact hp
  | cons signal rest ih =>
    obtain ⟨hsignal, hrest⟩ := List.forall_mem_cons.mp hsame
    obtain ⟨hone, hderived⟩ := List.forall_mem_cons.mp hderived
    have hstable : signal.2 u.lib = signal.2 lib := hone.stable lib u.lib hsources
    cases hval : signal.2 lib with
    | error e =>
      rw [updateVirtual_raised (hstable.trans hval)]
      exact hp
    | ok r =>
      obtain ⟨v, code⟩ := r
      by_cases hcode : code = .NO_ERR
      · subst hcode
        obtain ⟨s, rfl⟩ := hone.text lib v hval
        rw [updateVirtual_stored (hstable.trans hval)]
        obtain ⟨hp', hvalue⟩ := store_unchanged hp
          (fun hparam => ⟨s, rfl, hsignal hparam _ hval⟩)
        refine ih (hsources.store hone.param _) hderived hp' fun other hother heq w hw => ?_
        rw [hvalue]
        exact hrest other hother heq w hw
      · rw [updateVirtual_skipped (hstable.trans hval) hcode]
        exact ih (u := { u with errCode := code }) hsources hderived hp hrest

/-- A parameter of a package agrees exactly if the cache has what the response unpacks to. -/
theorem pollAgrees_iff_unpacked {package : Package} {sig : Signal} {text : String}
    (hsig : sig ∈ package.signals) (hvirtual : sig.param ∉ virtualParams)
    (hunpack : unpackSignal clock sig response = .ok (.str text, .NO_ERR)) :
    PollAgrees clock sig.param package response lib ↔ lib.value sig.param = .str text := by
  have hfind := find?_param (params_nodup package) hsig
  have hfloor : sig.param ≠ floorLock.param := by
    intro heq
    exact hvirtual (heq ▸ show floorLock.param ∈ virtualParams by decide)
  have hpolled : polledValue clock sig.param package response lib = .ok (.str text, .NO_ERR) := by
    rw [polledValue, if_neg hfloor, hfind]
    exact hunpack
  constructor
  · intro h
    have hvalue := h.value
    rw [hpolled] at hvalue
    exact (Prod.mk.inj (Except.ok.inj hvalue)).1.symm
  · intro hvalue
    refine ⟨by rw [hpolled, hvalue], ?_, fun hmem => ?_⟩
    · refine updateSignals_unchanged (by simp [Update.start]) fun s hs heq v hv => ?_
      have hsame : s = sig := by
        have hfind' := find?_param (params_nodup package) hs
        rw [← heq, hfind] at hfind'
        exact (Option.some.inj hfind').symm
      rw [hsame, hunpack] at hv
      cases hv
      exact ⟨text, rfl, hvalue⟩
    · rcases (within_updateVirtualSignals clock _).known _ hmem with hnone | hknown
      · cases hnone
      · exact hvirtual hknown

/-- The floor lock agrees exactly if the cache has what the locks of the package are joined to. -/
theorem pollAgrees_iff_joined {package : Package} {text : String}
    (hfresh : floorLock.param ∉ params package)
    (hjoined : updateFloorLock (getUpdatedParams clock package response lib).lib =
      .ok (.str text, .NO_ERR)) :
    PollAgrees clock floorLock.param package response lib ↔
      lib.value floorLock.param = .str text := by
  have hpolled : polledValue clock floorLock.param package response lib =
      .ok (.str text, .NO_ERR) := by
    rw [polledValue, if_pos rfl]
    exact hjoined
  have hwithin : Within (params package) (.start (lib.remember package response))
      (getUpdatedParams clock package response lib) := within_updateSignals package.signals _
  constructor
  · intro h
    have hvalue := h.value
    rw [hpolled] at hvalue
    exact (Prod.mk.inj (Except.ok.inj hvalue)).1.symm
  · intro hvalue
    refine ⟨by rw [hpolled, hvalue], fun hmem => ?_, ?_⟩
    · rcases hwithin.known _ hmem with hnone | hknown
      · cases hnone
      · exact hfresh hknown
    · have hkept : (getUpdatedParams clock package response lib).lib.value floorLock.param =
          .str text := (hwithin.frame _ hfresh).trans hvalue
      refine updateVirtual_unchanged ⟨rfl, fun _ _ => rfl⟩ derived_paramsVirtual
        (by simp [Update.start]) ?_
      intro signal hsignal hparam v hv
      have honly : signal = (floorLock.param, updateFloorLock) := by
        simp only [paramsVirtual, List.mem_cons, List.not_mem_nil, or_false] at hsignal
        rcases hsignal with rfl | rfl | rfl | rfl
        · exact absurd hparam (show floorLock.param ≠ batteryState.param by decide)
        · exact absurd hparam (show floorLock.param ≠ impulse.param by decide)
        · exact absurd hparam (show floorLock.param ≠ temp.param by decide)
        · rfl
      subst honly
      have hsame := (Prod.mk.inj (Except.ok.inj (hjoined.symm.trans hv))).1
      rw [← hsame]
      exact hkept

end Poll

section Reports

variable {clock : Int → Int} {lib : Lib} {bytes : List Int}

/-- The byte of a signal of one byte. -/
theorem octets_byte {sig : Signal} {b : Nat} (hsize : sig.byteSize = 1) (hb : b ≤ 255)
    (hat : bytes[sig.byteStart]? = some (b : Int)) : sig.octets bytes = some [b] := by
  have hslice : (bytes.drop sig.byteStart).take sig.byteSize = [(b : Int)] := by
    obtain ⟨hlt, hget⟩ := List.getElem?_eq_some_iff.mp hat
    rw [hsize, List.drop_eq_getElem_cons hlt, hget]
    rfl
  rw [Signal.octets, hslice]
  simp [hsize, hb]

theorem reference_bit {param : Int} {start bitStart b : Nat} (hb : b ≤ 255)
    (hat : bytes[start]? = some (b : Int)) :
    reference clock (.integers bytes) (bit start (param, bitStart)) =
      some (toString ((b.testBit bitStart).toNat : Int)) := by
  have hoctets : (bit start (param, bitStart)).octets bytes = some [b] := octets_byte rfl hb hat
  simp only [reference, hoctets, Option.map_some]
  simp only [Signal.decoded, bit, List.headD_cons, Nat.toNat_testBit, Nat.pow_one]

theorem lockBit_text (locked : Bool) :
    lockBit (.str (toString (locked.toNat : Int))) = some locked.toNat := by
  cases locked <;> rfl

/-- After a report of the locks the floor lock is the number with these bits. -/
theorem updateFloorLock_reported {n : Nat} (hn : n < 64)
    (hlocks : ∀ f, 1 ≤ f → f ≤ 6 → LockBit bytes f (n.testBit (f - 1))) :
    updateFloorLock (getUpdatedParams clock .package130 (.list (bytes.map .int)) lib).lib =
      .ok (.str (toString (n : Int)), .NO_ERR) := by
  have htype : ∀ sig ∈ params130, sig.type ≠ .genericText := by decide
  have hexact : ExactDiff (reference clock (.integers bytes)) params130 lib
      (getUpdatedParams clock .package130 (.list (bytes.map .int)) lib) := by
    refine updateSignals_exact (fun sig hsig => ?_) (params_nodup .package130) rfl
    exact unpackSignal_integers (regular_signals .package130 sig hsig) (htype sig hsig) bytes
  generalize getUpdatedParams clock .package130 (.list (bytes.map .int)) lib = u at hexact ⊢
  have hbit : ∀ f : Nat, 1 ≤ f → f ≤ 6 → bit (4 + f) (145 + f, 5) ∈ params130 →
      lockBit (u.lib.value (145 + f)) = some (n.testBit (f - 1)).toNat := by
    intro f hf hf' hmem
    obtain ⟨b, hat, hb, hlocked⟩ := hlocks f hf hf'
    have hvalue := hexact.set _ hmem _ (reference_bit hb hat)
    rw [hlocked] at hvalue
    rw [show u.lib.value (145 + f) = _ from hvalue, lockBit_text]
  have h1 : lockBit (u.lib.value 146) = _ := hbit 1 (by decide) (by decide) (by decide)
  have h2 : lockBit (u.lib.value 147) = _ := hbit 2 (by decide) (by decide) (by decide)
  have h3 : lockBit (u.lib.value 148) = _ := hbit 3 (by decide) (by decide) (by decide)
  have h4 : lockBit (u.lib.value 149) = _ := hbit 4 (by decide) (by decide) (by decide)
  have h5 : lockBit (u.lib.value 150) = _ := hbit 5 (by decide) (by decide) (by decide)
  have h6 : lockBit (u.lib.value 151) = _ := hbit 6 (by decide) (by decide) (by decide)
  have hcut : [(n.testBit 0).toNat, (n.testBit 1).toNat, (n.testBit 2).toNat, (n.testBit 3).toNat,
      (n.testBit 4).toNat, (n.testBit 5).toNat] = LittleEndian.cut 2 6 n := by
    simp only [LittleEndian.cut, List.range, List.range.loop, List.map_cons, List.map_nil,
      Nat.toNat_testBit]
  have hreference : floorLockReference u.lib = some (toString n) := by
    have hnumber : Nat.ofDigits 2 (LittleEndian.cut 2 6 n) = n :=
      LittleEndian.ofDigits_cut_of_lt hn
    conv_rhs => rw [← hnumber, ← hcut]
    simp only [floorLockReference, List.mapM_cons, List.mapM_nil, h1, h2, h3, h4, h5, h6, bind,
      pure, Option.bind_some, Option.map_some]
  obtain ⟨m, hm, htext⟩ := joinedLocks_of_reference hreference
  have hputs := puts_floorLock u.lib
  rw [hm, Option.map_some, ← htext] at hputs
  exact hputs

theorem mem_lockedFloors {value : Int} {f : Nat} (hf : 1 ≤ f) (hf' : f ≤ 6) :
    (f : Int) ∈ lockedFloors value ↔ value.toNat.testBit (f - 1) = true := by
  rw [lockedFloors, List.mem_map]
  constructor
  · rintro ⟨bit, hbit, heq⟩
    rw [show f - 1 = bit by omega]
    exact (List.mem_filter.mp hbit).2
  · intro hlocked
    refine ⟨f - 1, List.mem_filter.mpr ⟨List.mem_range.mpr (by omega), hlocked⟩, by omega⟩

theorem childLock_reported {package : Package} {response : Json} {value : Int}
    (hreport : ReportedAfter (.childLock (if value = 0 then "off" else "on")) package response) :
    PollAgrees clock childLockParam package response lib ↔
      lib.value childLockParam = .str (toString (if value = 0 then 0 else 1 : Int)) := by
  cases hreport with
  | @childLock _ bytes b at16 isByte stored =>
    have hbit : ((b.testBit 5).toNat : Int) = if value = 0 then 0 else 1 := by
      rw [stored]
      by_cases hzero : value = 0 <;> simp [hzero]
    have hregular : (bit 16 (145, 5)).Regular := by decide
    have hunpack : unpackSignal clock (bit 16 (145, 5)) (.list (bytes.map .int)) =
        .ok (.str (toString (if value = 0 then 0 else 1 : Int)), .NO_ERR) := by
      rw [unpackSignal_integers hregular (by decide), reference_bit isByte at16, hbit]
      rfl
    exact pollAgrees_iff_unpacked (by decide) (by decide) hunpack

theorem floorLock_reported {package : Package} {response : Json} {value : Int}
    (hrange : 0 ≤ value ∧ value ≤ 63)
    (hreport : ReportedAfter (.floorLock (lockedFloors value)) package response) :
    PollAgrees clock floorLock.param package response lib ↔
      lib.value floorLock.param = .str (toString value) := by
  cases hreport with
  | @floorLock _ bytes stored =>
    have hlocks : ∀ f, 1 ≤ f → f ≤ 6 → LockBit bytes f (value.toNat.testBit (f - 1)) := by
      intro f hf hf'
      have hlocked : decide ((f : Int) ∈ lockedFloors value) = value.toNat.testBit (f - 1) := by
        rw [Bool.eq_iff_iff, decide_eq_true_iff]
        exact mem_lockedFloors hf hf'
      exact hlocked ▸ stored f hf hf'
    have hjoined : updateFloorLock
        (getUpdatedParams clock .package130 (.list (bytes.map .int)) lib).lib =
          .ok (.str (toString value), .NO_ERR) := by
      rw [updateFloorLock_reported (by omega) hlocks, Int.toNat_of_nonneg hrange.1]
    exact pollAgrees_iff_joined (by decide) hjoined

theorem oilLevel_reported {package : Package} {response : Json} {value : Int} {valueStr : String}
    (hrange : 0 ≤ value ∧ value ≤ 100) (hvalue : PyNumber.int valueStr = some value)
    (hreport : ReportedAfter (.oilLevel valueStr) package response) :
    PollAgrees clock oilLevelParam package response lib ↔
      lib.value oilLevelParam = .str (toString value) := by
  cases hreport with
  | @oilLevel _ level bytes number at2 =>
    rw [hvalue] at number
    cases number
    have hbyte : bytes[2]? = some ((value.toNat : Nat) : Int) := by
      rw [at2, Int.toNat_of_nonneg hrange.1]
    have hoctets : (byte 10 2).octets bytes = some [value.toNat] :=
      octets_byte rfl (by omega) hbyte
    have hlevel : ((value.toNat / 2 ^ 0 % 2 ^ 8 : Nat) : Int) = value := by omega
    have hregular : (byte 10 2).Regular := by decide
    have hunpack : unpackSignal clock (byte 10 2) (.list (bytes.map .int)) =
        .ok (.str (toString value), .NO_ERR) := by
      rw [unpackSignal_integers hregular (by decide)]
      simp only [reference, hoctets, Option.map_some, outcome]
      simp only [Signal.decoded, byte, List.headD_cons, hlevel]
    exact pollAgrees_iff_unpacked (by decide) (by decide) hunpack

/-- Only a value of the size of the parameter is put into the content. -/
theorem overwritten_fits {param value : Int} {reply : FileReply} {data : List Json}
    (h : overwritten param value reply = .ok (some data)) :
    ∃ sig, signalOf param = some sig ∧ 0 ≤ value ∧ value ≤ 65535 := by
  obtain ⟨rsp, rest, content, hresp, hcontent, hreplaced⟩ := overwritten_ok h
  obtain ⟨sig, hsignal, -, -⟩ := hreplaced.bytes
  obtain ⟨respData, fileData, errCode⟩ := reply
  cases hresp
  rcases overwritten_cases value rest fileData errCode hsignal hcontent with
    ⟨-, hno⟩ | ⟨-, -, e, hno⟩ | ⟨-, hfits, -⟩
  · rw [hno] at h
    cases h
  · rw [hno] at h
    cases h
  · have hrange := hfits.1
    rw [signalOf_size hsignal] at hrange
    exact ⟨sig, hsignal, hrange.1, by omega⟩

theorem file_reported {h : Handler} {param value : Int} {reads replies : List FrameRead}
    {name : String} {data : List Json} {package : Package} {response : Json}
    (hsent : Message.writeFile name data ∈ (writeFileParam h param value reads replies).sent)
    (hreport : ReportedAfter (.writeFile name data) package response) :
    PollAgrees clock param package response lib ↔ lib.value param = .str (toString value) := by
  obtain ⟨rfl, reply, -, -, hdata⟩ := writeFileParam_sent hsent
  obtain ⟨sig, hsignal, hrange⟩ := overwritten_fits hdata
  obtain ⟨-, -, content, -, -, hreplaced⟩ := overwritten_ok hdata
  have hparam : sig.param = param := by simpa using List.find?_some hsignal
  obtain ⟨⟨file, sigs⟩, hfile, hsig⟩ :=
    List.mem_flatMap.mp (List.mem_of_find?_eq_some hsignal)
  subst hparam
  cases hreport with
  | file known =>
    have hin := inFile_of_mem hfile hsig
    have hsame : ∀ entry ∈ fileParams, ∀ known ∈ filePackageOf, known.1 = entry.1 →
        known.2.signals = entry.2 := by decide
    have hsigs : package.signals = sigs := hsame _ hfile _ known hin.name
    have hvirtual : sig.param ∉ virtualParams := by
      have hall : ∀ entry ∈ fileParams, ∀ sig ∈ entry.2, sig.param ∉ virtualParams := by decide
      exact hall _ hfile sig hsig
    obtain ⟨first, count, rfl⟩ := fileParams_words hfile
    have hunpack := (hreplaced.retargeted hsig hsignal hrange).target clock
    exact pollAgrees_iff_unpacked (hsigs ▸ hsig) hvirtual hunpack

end Reports

section Claim

variable {clock : Int → Int} {h : Handler} {paramStr valueStr : String}
  {reads replies : List FrameRead} {param value : Int} {message : Message} {package : Package}
  {response : Json}

/-- A write that has been sent, and stored by the lift, is found by the next poll as the cache has
it exactly if the caller's text is the one that is made of the stored number. -/
theorem writeParameter_agrees_iff (clock : Int → Int)
    (hparam : PyNumber.int paramStr = some param) (hvalue : PyNumber.int valueStr = some value)
    (hok : (writeParameter h paramStr valueStr reads replies).1.result = .ok .NO_ERR)
    (hsent : message ∈ (writeParameter h paramStr valueStr reads replies).1.sent)
    (hreport : ReportedAfter message package response) :
    PollAgrees clock param package response
        (writeParameter h paramStr valueStr reads replies).2.lib ↔
      valueStr = toString (storedValue param value) := by
  obtain ⟨hlib, hsends⟩ := writeParameter_done hparam hvalue hok hsent
  have hcached : ∀ text : String,
      (h.lib.set param (.str valueStr)).value param = .str text ↔ valueStr = text := by
    intro text
    rw [set_value_same, Json.str.injEq]
  rw [hlib, ← hcached]
  cases hsends with
  | childLock isParam =>
    subst isParam
    rw [storedValue, if_pos rfl]
    exact childLock_reported hreport
  | floorLock isParam range =>
    subst isParam
    rw [storedValue, if_neg (by decide)]
    exact floorLock_reported range hreport
  | oilLevel isParam range =>
    subst isParam
    rw [storedValue, if_neg (by decide)]
    exact oilLevel_reported range hvalue hreport
  | file notChildLock notFloorLock sent =>
    rw [storedValue, if_neg notChildLock]
    rcases writeFileParam_messages sent with ⟨name, rfl⟩ | ⟨name, data, rfl⟩
    · cases hreport
    · exact file_reported sent hreport

/-- The lift has switched the child lock on. -/
def lockReply : List FrameRead :=
  [.text (some [.object [("cmd", .str "childLock"), ("data", .str "on")]])]

def freshHandler : Handler := ⟨Lib.fresh, ⟨[], []⟩, 0, true⟩

/-- A package 130 with nothing but the child lock in it. -/
def lockedBytes : List Int := List.replicate 16 0 ++ [32]

theorem lockedBytes_reported :
    ReportedAfter (.childLock "on") .package130 (.list (lockedBytes.map .int)) :=
  .childLock (b := 32) rfl (by decide) (by decide)

/-- The child lock written as `1` is polled as `1`. -/
theorem writeParameter_agrees_childLock : PollAgrees (fun _ => 0) 145 .package130
    (.list (lockedBytes.map .int)) (writeParameter freshHandler "145" "1" lockReply []).2.lib := by
  have hsent : Message.childLock "on" ∈
      (writeParameter freshHandler "145" "1" lockReply []).1.sent := List.mem_singleton.mpr rfl
  have hparam : PyNumber.int "145" = some 145 := by decide
  have hvalue : PyNumber.int "1" = some 1 := by decide
  exact (writeParameter_agrees_iff (fun _ => 0) hparam hvalue rfl hsent lockedBytes_reported).mpr
    (by decide)

/-- Written as `2` it is switched on as well, and polled as `1`. -/
theorem not_always_agrees : ¬ ∀ (clock : Int → Int) (h : Handler) (paramStr valueStr : String)
    (reads replies : List FrameRead) (param : Int) (message : Message) (package : Package)
    (response : Json), PyNumber.int paramStr = some param →
      (writeParameter h paramStr valueStr reads replies).1.result = .ok .NO_ERR →
      message ∈ (writeParameter h paramStr valueStr reads replies).1.sent →
      ReportedAfter message package response →
      PollAgrees clock param package response
        (writeParameter h paramStr valueStr reads replies).2.lib := by
  intro hall
  have hsent : Message.childLock "on" ∈
      (writeParameter freshHandler "145" "2" lockReply []).1.sent := List.mem_singleton.mpr rfl
  have hparam : PyNumber.int "145" = some 145 := by decide
  have hagrees := hall (fun _ => 0) freshHandler "145" "2" lockReply [] 145 _ _ _ hparam rfl hsent
    lockedBytes_reported
  have hpolled : polledValue (fun _ => 0) 145 .package130 (.list (lockedBytes.map .int))
      (writeParameter freshHandler "145" "2" lockReply []).2.lib = .ok (.str "1", .NO_ERR) := rfl
  have hcached : (writeParameter freshHandler "145" "2" lockReply []).2.lib.value 145 = .str "2" :=
    rfl
  have hvalue := hagrees.value
  rw [hpolled, hcached] at hvalue
  have htext : "1" = "2" := Json.str.inj (Prod.mk.inj (Except.ok.inj hvalue)).1
  exact absurd htext (by decide)

end Claim

end NexyGateway.Rs232Handler
