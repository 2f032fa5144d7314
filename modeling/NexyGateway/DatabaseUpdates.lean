import NexyGateway.SignalFaults

/-!
# What an update does to the database

An update writes its own parameters only, and lists what it has given another value.
-/
namespace NexyGateway.ThousandLib

open PyNumber PyJson

/-- The step from one update to the next stays within the parameters. -/
structure Within (params : List Int) (u u' : Update) : Prop where
  frame : ∀ p, p ∉ params → u'.lib.value p = u.lib.value p
  kept : ∀ p ∈ u.changed, p ∈ u'.changed
  reported : ∀ p, u'.lib.value p ≠ u.lib.value p → p ∈ u'.changed
  known : ∀ p ∈ u'.changed, p ∈ u.changed ∨ p ∈ params

section Within

variable {params rest : List Int} {u u' u'' : Update}

theorem Within.of_value (hvalue : u'.lib.value = u.lib.value) (hchanged : u'.changed = u.changed) :
    Within params u u' where
  frame p _ := by rw [hvalue]
  kept p hp := by rwa [hchanged]
  reported p hp := absurd (by rw [hvalue]) hp
  known p hp := .inl (by rwa [← hchanged])

theorem Within.trans (h : Within params u u') (h' : Within rest u' u'') :
    Within (params ++ rest) u u'' where
  frame p hp := by
    rw [List.mem_append, not_or] at hp
    rw [h'.frame p hp.2, h.frame p hp.1]
  kept p hp := h'.kept p (h.kept p hp)
  reported p hp := by
    by_cases hone : u'.lib.value p = u.lib.value p
    · exact h'.reported p (by rwa [hone])
    · exact h'.kept p (h.reported p hone)
  known p hp := by
    rw [List.mem_append]
    rcases h'.known p hp with hone | hrest
    · exact (h.known p hone).imp_right .inl
    · exact .inr (.inr hrest)

theorem Within.mono (h : Within params u u') (hsub : ∀ p ∈ params, p ∈ rest) :
    Within rest u u' where
  frame p hp := h.frame p (fun hmem => hp (hsub p hmem))
  kept := h.kept
  reported := h.reported
  known p hp := (h.known p hp).imp_right (hsub p)

/-- A step that stores nothing. -/
theorem Within.cons {param : Int} (h : Within rest u' u'') (hvalue : u'.lib.value = u.lib.value)
    (hchanged : u'.changed = u.changed) : Within (param :: rest) u u'' := by
  have hnone : Within [param] u u' := .of_value hvalue hchanged
  exact hnone.trans h

theorem within_store (param : Int) (v : Json) (u : Update) : Within [param] u (u.store param v) := by
  unfold Update.store
  split
  · exact .of_value rfl rfl
  · constructor
    · intro p hp
      exact set_value_other v u.lib (by simpa using hp)
    · intro p hp
      exact List.mem_append_left _ hp
    · intro p hp
      by_cases hparam : p = param
      · simp [hparam]
      · exact absurd (set_value_other v u.lib hparam) hp
    · intro p hp
      exact List.mem_append.mp hp

end Within

section Packages

variable {clock : Int → Int} {response : Json}

theorem store_error (param : Int) (v : Json) (u : Update) : (u.store param v).error = u.error := by
  unfold Update.store
  split <;> rfl

section Steps

variable {sig : Signal} {rest : List Signal} {u : Update}

theorem updateSignals_raised {e : PyError} (h : unpackSignal clock sig response = .error e) :
    updateSignals clock response (sig :: rest) u = { u with error := some e } := by
  rw [updateSignals, h]

theorem updateSignals_skipped {v : Json} {code : Rs232Code}
    (h : unpackSignal clock sig response = .ok (v, code)) (hcode : code ≠ .NO_ERR) :
    updateSignals clock response (sig :: rest) u =
      updateSignals clock response rest { u with errCode := code } := by
  rw [updateSignals, h]
  exact if_pos hcode

theorem updateSignals_stored {v : Json} (h : unpackSignal clock sig response = .ok (v, .NO_ERR)) :
    updateSignals clock response (sig :: rest) u =
      updateSignals clock response rest (u.store sig.param v) := by
  rw [updateSignals, h]
  exact if_neg (fun hne => hne rfl)

end Steps

/-- An unpacking raises, or fails, or succeeds. -/
theorem unpackSignal_cases (clock : Int → Int) (sig : Signal) (response : Json) :
    (∃ e, unpackSignal clock sig response = .error e) ∨
    (∃ v code, unpackSignal clock sig response = .ok (v, code) ∧ code ≠ .NO_ERR) ∨
    ∃ v, unpackSignal clock sig response = .ok (v, .NO_ERR) := by
  cases unpackSignal clock sig response with
  | error e => exact .inl ⟨e, rfl⟩
  | ok r =>
    obtain ⟨v, code⟩ := r
    by_cases hcode : code = .NO_ERR
    · subst hcode
      exact .inr (.inr ⟨v, rfl⟩)
    · exact .inr (.inl ⟨v, code, rfl, hcode⟩)

theorem within_updateSignals (sigs : List Signal) (u : Update) :
    Within (sigs.map (fun sig => sig.param)) u (updateSignals clock response sigs u) := by
  induction sigs generalizing u with
  | nil => exact .of_value rfl rfl
  | cons sig rest ih =>
    rcases unpackSignal_cases clock sig response with ⟨e, h⟩ | ⟨v, code, h, hcode⟩ | ⟨v, h⟩
    · rw [updateSignals_raised h]
      exact .of_value rfl rfl
    · rw [updateSignals_skipped h hcode]
      exact (ih { u with errCode := code }).cons rfl rfl
    · rw [updateSignals_stored h]
      exact (within_store sig.param v u).trans (ih _)

/-- Unpacking succeeds: it neither raises nor reports an error. -/
def Unpacks (clock : Int → Int) (response : Json) (sig : Signal) : Prop :=
  ∃ v, unpackSignal clock sig response = .ok (v, .NO_ERR)

theorem Unpacks.not_garbled {sig : Signal} (h : Unpacks clock response sig) :
    ¬ Garbled sig response := by
  rw [← unpackSignal_error_iff clock]
  rintro ⟨e, he⟩
  obtain ⟨v, hv⟩ := h
  rw [hv] at he
  cases he

theorem not_garbled_of_ok {sig : Signal} {r : Json × Rs232Code}
    (h : unpackSignal clock sig response = .ok r) : ¬ Garbled sig response := by
  rw [← unpackSignal_error_iff clock, h]
  rintro ⟨e, he⟩
  cases he

theorem not_unpacks_of_error {sig : Signal} {e : PyError}
    (h : unpackSignal clock sig response = .error e) : ¬ Unpacks clock response sig := by
  rintro ⟨v, hv⟩
  rw [h] at hv
  cases hv

theorem not_unpacks_of_code {sig : Signal} {v : Json} {code : Rs232Code}
    (h : unpackSignal clock sig response = .ok (v, code)) (hcode : code ≠ .NO_ERR) :
    ¬ Unpacks clock response sig := by
  rintro ⟨v', hv'⟩
  rw [h] at hv'
  cases hv'
  exact hcode rfl

/-- A package raises exactly if one of its signals is garbled. -/
theorem updateSignals_error_iff {sigs : List Signal} {u : Update} (hu : u.error = none) :
    (updateSignals clock response sigs u).error ≠ none ↔ ∃ sig ∈ sigs, Garbled sig response := by
  induction sigs generalizing u with
  | nil => simp [updateSignals, hu]
  | cons sig rest ih =>
    rw [List.exists_mem_cons_iff]
    rcases unpackSignal_cases clock sig response with ⟨e, h⟩ | ⟨v, code, h, hcode⟩ | ⟨v, h⟩
    · rw [updateSignals_raised h]
      simp [(unpackSignal_error_iff clock).mp ⟨e, h⟩]
    · rw [updateSignals_skipped h hcode, ih (u := { u with errCode := code }) hu]
      simp [not_garbled_of_ok h]
    · rw [updateSignals_stored h, ih ((store_error ..).trans hu)]
      simp [not_garbled_of_ok h]

theorem store_errCode (param : Int) (v : Json) (u : Update) :
    (u.store param v).errCode = u.errCode := by
  unfold Update.store
  split <;> rfl

/-- Without an exception the code is an error exactly if a signal does not unpack. -/
theorem updateSignals_errCode_iff {sigs : List Signal} {u : Update}
    (herror : (updateSignals clock response sigs u).error = none) :
    (updateSignals clock response sigs u).errCode ≠ .NO_ERR ↔
      u.errCode ≠ .NO_ERR ∨ ∃ sig ∈ sigs, ¬ Unpacks clock response sig := by
  induction sigs generalizing u with
  | nil => simp [updateSignals]
  | cons sig rest ih =>
    rw [List.exists_mem_cons_iff]
    rcases unpackSignal_cases clock sig response with ⟨e, h⟩ | ⟨v, code, h, hcode⟩ | ⟨v, h⟩
    · rw [updateSignals_raised h] at herror
      cases herror
    · have hnot : ¬ Unpacks clock response sig := not_unpacks_of_code h hcode
      rw [updateSignals_skipped h hcode] at herror ⊢
      rw [ih herror]
      simp [hcode, hnot]
    · have hunpacks : Unpacks clock response sig := ⟨v, h⟩
      rw [updateSignals_stored h] at herror ⊢
      rw [ih herror, store_errCode]
      simp [hunpacks]

/-- A signal that is reached, and unpacks, has another value than the database. -/
def Alters (clock : Int → Int) (response : Json) (lib : Lib) (sigs : List Signal) : Prop :=
  ∃ before sig after v, sigs = before ++ sig :: after ∧ (∀ s ∈ before, ¬ Garbled s response) ∧
    unpackSignal clock sig response = .ok (v, .NO_ERR) ∧ lib.value sig.param ≠ v

theorem Alters.cons {lib : Lib} {sig : Signal} {rest : List Signal}
    (hsig : ¬ Garbled sig response) (h : Alters clock response lib rest) :
    Alters clock response lib (sig :: rest) := by
  obtain ⟨before, s, after, v, rfl, hbefore, hv, hne⟩ := h
  refine ⟨sig :: before, s, after, v, rfl, ?_, hv, hne⟩
  exact List.forall_mem_cons.mpr ⟨hsig, hbefore⟩

theorem store_of_eq {param : Int} {s : String} {u : Update} (h : u.lib.value param = .str s) :
    u.store param (.str s) = u := if_pos ((eq_str _ s).mpr h)

/-- Where nothing is altered, nothing is stored. -/
theorem updateSignals_steady {sigs : List Signal} {u : Update}
    (htype : ∀ sig ∈ sigs, sig.type ≠ .genericText)
    (h : ¬ Alters clock response u.lib sigs) :
    (updateSignals clock response sigs u).lib = u.lib ∧
      (updateSignals clock response sigs u).changed = u.changed := by
  induction sigs generalizing u with
  | nil => exact ⟨rfl, rfl⟩
  | cons sig rest ih =>
    obtain ⟨hsigType, hrestType⟩ := List.forall_mem_cons.mp htype
    have hrest : ¬ Garbled sig response → ¬ Alters clock response u.lib rest :=
      fun hclean hrest => h (hrest.cons hclean)
    rcases unpackSignal_cases clock sig response with ⟨e, hu⟩ | ⟨v, code, hu, hcode⟩ | ⟨v, hu⟩
    · rw [updateSignals_raised hu]
      exact ⟨rfl, rfl⟩
    · rw [updateSignals_skipped hu hcode]
      exact ih hrestType (hrest (not_garbled_of_ok hu))
    · obtain ⟨s, rfl⟩ := unpackSignal_str hsigType hu
      have hvalue : u.lib.value sig.param = .str s := by
        by_contra hne
        exact h ⟨[], sig, rest, _, rfl, by simp, hu, hne⟩
      rw [updateSignals_stored hu, store_of_eq hvalue]
      exact ih hrestType (hrest (not_garbled_of_ok hu))

/-- What is altered stays altered, since every parameter is unpacked once. -/
theorem updateSignals_altered {sigs : List Signal} {u : Update}
    (htype : ∀ sig ∈ sigs, sig.type ≠ .genericText)
    (hnodup : (sigs.map (fun sig => sig.param)).Nodup)
    (h : Alters clock response u.lib sigs) : ∃ sig ∈ sigs,
      (updateSignals clock response sigs u).lib.value sig.param ≠ u.lib.value sig.param := by
  obtain ⟨before, sig, after, v, rfl, hbefore, hv, hne⟩ := h
  induction before generalizing u with
  | nil =>
    refine ⟨sig, by simp, ?_⟩
    have hfresh : sig.param ∉ after.map (fun sig => sig.param) := by
      simpa using (List.nodup_cons.mp hnodup).1
    obtain ⟨s, rfl⟩ := unpackSignal_str (htype sig (by simp)) hv
    have hstore : u.store sig.param (.str s) =
        { u with lib := u.lib.set sig.param (.str s), changed := u.changed ++ [sig.param] } :=
      if_neg (by simpa using hne)
    rw [List.nil_append, updateSignals_stored hv]
    rw [(within_updateSignals after _).frame _ hfresh, hstore, set_value_same]
    exact Ne.symm hne
  | cons s before ih =>
    obtain ⟨hs, hbefore⟩ := List.forall_mem_cons.mp hbefore
    rw [List.cons_append, List.map_cons, List.nodup_cons] at hnodup
    have hother : ∀ s' ∈ before ++ sig :: after, s'.param ≠ s.param := by
      intro s' hs' heq
      exact hnodup.1 (heq ▸ List.mem_map_of_mem hs')
    have hrestType := (List.forall_mem_cons.mp htype).2
    -- one step leaves the other parameters as they are
    have hstep : ∀ u1 : Update, Within [s.param] u u1 →
        ∃ s' ∈ before ++ sig :: after, (updateSignals clock response (before ++ sig :: after)
          u1).lib.value s'.param ≠ u.lib.value s'.param := by
      intro u1 hu1
      have hsame : ∀ s' ∈ before ++ sig :: after, u1.lib.value s'.param = u.lib.value s'.param :=
        fun s' hs' => hu1.frame _ (by simpa using hother s' hs')
      obtain ⟨s', hs', hvalue⟩ := ih hrestType hnodup.2 hbefore
        (by rwa [hsame sig (by simp)])
      exact ⟨s', hs', by rwa [hsame s' hs'] at hvalue⟩
    rcases unpackSignal_cases clock s response with ⟨e, hu⟩ | ⟨v', code, hu, hcode⟩ | ⟨v', hu⟩
    · exact absurd ((unpackSignal_error_iff clock).mp ⟨e, hu⟩) hs
    · rw [List.cons_append, updateSignals_skipped hu hcode]
      obtain ⟨s', hs', hvalue⟩ := hstep { u with errCode := code } (.of_value rfl rfl)
      exact ⟨s', List.mem_cons_of_mem _ hs', hvalue⟩
    · rw [List.cons_append, updateSignals_stored hu]
      obtain ⟨s', hs', hvalue⟩ := hstep _ (within_store s.param v' u)
      exact ⟨s', List.mem_cons_of_mem _ hs', hvalue⟩

end Packages

section Numbers

variable {clock : Int → Int} {sig : Signal} {response v : Json}

theorem octet_le {n : Nat} (hbyte : isByte v = true) (h : octet v = .ok n) : n ≤ 255 := by
  cases v with
  | bool b =>
    cases h
    cases b <;> decide
  | int k =>
    cases h
    simp only [isByte, Json.toInt, Bool.and_eq_true, decide_eq_true_eq] at hbyte
    omega
  | _ => cases h

theorem octets_le {items : List Json} {octets : List Nat} (hbytes : items.all isByte = true)
    (h : items.mapM octet = .ok octets) : ∀ n ∈ octets, n ≤ 255 := by
  induction items generalizing octets with
  | nil => cases h; simp
  | cons v items ih =>
    rw [List.all_cons, Bool.and_eq_true] at hbytes
    obtain ⟨n, rest, hone, hrest, rfl⟩ := mapM_cons_ok h
    exact List.forall_mem_cons.mpr ⟨octet_le hbytes.1 hone, ih hbytes.2 hrest⟩

theorem foldr_lt {octets : List Nat} (h : ∀ n ∈ octets, n ≤ 255) :
    octets.foldr (fun b out => out <<< 8 ||| b) 0 < 256 ^ octets.length := by
  induction octets with
  | nil => simp
  | cons b octets ih =>
    obtain ⟨hb, hrest⟩ := List.forall_mem_cons.mp h
    have := ih hrest
    rw [List.foldr_cons, List.length_cons, ← Nat.shiftLeft_add_eq_or_of_lt (by omega),
      Nat.shiftLeft_eq, Nat.pow_succ]
    omega

/-- A number of up to four bytes reads back from its text. -/
theorem toInt_unpacked (htype : sig.type = .uint) (hsize : sig.byteSize ≤ 4)
    (h : unpackSignal clock sig response = .ok (v, .NO_ERR)) : ∃ n, v.toInt = .ok n := by
  unfold unpackSignal at h
  rw [htype] at h
  simp only [reduceCtorEq, if_false] at h
  split at h
  · cases h
  · rename_i hvalid
    have hvalid : validateBytes sig response = true := by simpa using hvalid
    obtain ⟨items, hitems⟩ := region_of_validateBytes hvalid
    have hbytes : items.all isByte = true := by simpa [validateBytes, hitems] using hvalid
    cases hoctets : items.mapM octet with
    | error e => simp [unpackUint, hitems, hoctets, bind, Except.bind, Except.map] at h
    | ok octets =>
      simp only [unpackUint, hitems, hoctets, bind, Except.bind, pure, Except.pure, Except.map,
        unpacked, Except.ok.injEq, Prod.mk.injEq] at h
      have hlength : octets.length = sig.byteSize := by
        rw [mapM_length hoctets, mapM_length hitems, List.length_range']
      have hlt := foldr_lt (octets_le hbytes hoctets)
      have hsmall : octets.foldr (fun b out => out <<< 8 ||| b) 0 < 2 ^ 32 := by
        calc octets.foldr (fun b out => out <<< 8 ||| b) 0
            < 256 ^ octets.length := hlt
          _ ≤ 256 ^ 4 := Nat.pow_le_pow_right (by decide) (by omega)
          _ = 2 ^ 32 := by decide
      have hint : PyNumber.int (toString
          ((octets.foldr (fun b out => out <<< 8 ||| b) 0 : Nat) : Int)) = some _ :=
        PyNumber.int_toString_word hsmall
      rw [← h.1]
      simp only [Json.toInt, hint]
      exact ⟨_, rfl⟩

end Numbers

section Counters

variable {clock : Int → Int} {response : Json}

@[simp] theorem count_value (i : Nat) (read : Int) (lib : Lib) :
    (lib.count i read).value = lib.value := rfl

/-- What the counter comes to with a reading of the lift. -/
def counted (lib : Lib) (i : Nat) (read : Int) : Int := (lib.count i read).totalOpenDoorCounters i

theorem counted_count {lib : Lib} {i j : Nat} (n m : Int) (h : j ≠ i) :
    counted (lib.count i n) j m = counted lib j m := by
  simp [counted, Lib.count, h]

theorem counted_store {u : Update} (param : Int) (v : Json) (i : Nat) (n : Int) :
    counted (u.store param v).lib i n = counted u.lib i n := by
  unfold Update.store
  split <;> rfl

/-- The update behind a counter that has been read. -/
def Update.countIn (sig : Signal) (i : Nat) (read : Int) (u : Update) : Update :=
  { u with lib := u.lib.count i read }.store sig.param (.int (counted u.lib i read))

theorem within_countIn (sig : Signal) (i : Nat) (read : Int) (u : Update) :
    Within [sig.param] u (u.countIn sig i read) := by
  have h := within_store sig.param (.int (counted u.lib i read))
    { u with lib := u.lib.count i read }
  exact ⟨h.frame, h.kept, h.reported, h.known⟩

theorem countIn_error (sig : Signal) (i : Nat) (read : Int) (u : Update) :
    (u.countIn sig i read).error = u.error := store_error ..

theorem countIn_counters (sig : Signal) (i : Nat) (read : Int) (u : Update) :
    (u.countIn sig i read).lib.totalOpenDoorCounters = (u.lib.count i read).totalOpenDoorCounters ∧
      (u.countIn sig i read).lib.previousOpenDoorCounters =
        (u.lib.count i read).previousOpenDoorCounters ∧
      (u.countIn sig i read).lib.resetSavedOpenDoorCounter =
        (u.lib.count i read).resetSavedOpenDoorCounter := by
  unfold Update.countIn Update.store
  split <;> exact ⟨rfl, rfl, rfl⟩

section Steps

variable {sig : Signal} {rest : List Signal} {i : Nat} {u : Update}

theorem recalculate_raised {e : PyError} (h : unpackSignal clock sig response = .error e) :
    recalculate clock response (sig :: rest) i u = { u with error := some e } := by
  rw [recalculate, h]

theorem recalculate_ended {v : Json} {code : Rs232Code}
    (h : unpackSignal clock sig response = .ok (v, code)) (hcode : code ≠ .NO_ERR) :
    recalculate clock response (sig :: rest) i u = { u with errCode := code } := by
  rw [recalculate, h]
  exact if_pos hcode

theorem recalculate_counted {v : Json} {read : Int}
    (h : unpackSignal clock sig response = .ok (v, .NO_ERR)) (hread : v.toInt = .ok read) :
    recalculate clock response (sig :: rest) i u =
      recalculate clock response rest (i + 1) (u.countIn sig i read) := by
  rw [recalculate, h]
  simp only [ne_eq, not_true, if_false, hread]
  rfl

end Steps

/-- A signal whose text reads back as a number. -/
def IsCounter (sig : Signal) : Prop := sig.type = .uint ∧ sig.byteSize ≤ 4

theorem recalculate_cases (clock : Int → Int) (response : Json) {sig : Signal}
    (hsig : IsCounter sig) (rest : List Signal) (i : Nat) (u : Update) :
    (∃ e, unpackSignal clock sig response = .error e ∧
      recalculate clock response (sig :: rest) i u = { u with error := some e }) ∨
    (∃ v code, unpackSignal clock sig response = .ok (v, code) ∧ code ≠ .NO_ERR ∧
      recalculate clock response (sig :: rest) i u = { u with errCode := code }) ∨
    (∃ v read, unpackSignal clock sig response = .ok (v, .NO_ERR) ∧ v.toInt = .ok read ∧
      recalculate clock response (sig :: rest) i u =
        recalculate clock response rest (i + 1) (u.countIn sig i read)) := by
  rcases unpackSignal_cases clock sig response with ⟨e, h⟩ | ⟨v, code, h, hcode⟩ | ⟨v, h⟩
  · exact .inl ⟨e, h, recalculate_raised h⟩
  · exact .inr (.inl ⟨v, code, h, hcode, recalculate_ended h hcode⟩)
  · obtain ⟨read, hread⟩ := toInt_unpacked hsig.1 hsig.2 h
    exact .inr (.inr ⟨v, read, h, hread, recalculate_counted h hread⟩)

theorem within_recalculate {sigs : List Signal} (hsigs : ∀ sig ∈ sigs, IsCounter sig) (i : Nat)
    (u : Update) :
    Within (sigs.map (fun sig => sig.param)) u (recalculate clock response sigs i u) := by
  induction sigs generalizing i u with
  | nil => exact .of_value rfl rfl
  | cons sig rest ih =>
    obtain ⟨hsig, hrest⟩ := List.forall_mem_cons.mp hsigs
    rcases recalculate_cases clock response hsig rest i u with
      ⟨e, -, hr⟩ | ⟨v, code, -, -, hr⟩ | ⟨v, read, -, -, hr⟩
    · rw [hr]
      exact .of_value rfl rfl
    · rw [hr]
      exact .of_value rfl rfl
    · rw [hr]
      exact (within_countIn sig i read u).trans (ih hrest _ _)

/-- A counter that is reached, all before it having unpacked, is garbled. -/
def GarbledCounter (clock : Int → Int) (response : Json) (sigs : List Signal) : Prop :=
  ∃ before sig after, sigs = before ++ sig :: after ∧
    (∀ s ∈ before, Unpacks clock response s) ∧ Garbled sig response

theorem garbledCounter_cons {sig : Signal} {rest : List Signal} :
    GarbledCounter clock response (sig :: rest) ↔
      Garbled sig response ∨ Unpacks clock response sig ∧ GarbledCounter clock response rest := by
  constructor
  · rintro ⟨before, s, after, heq, hbefore, hs⟩
    cases before with
    | nil =>
      cases heq
      exact .inl hs
    | cons s' before =>
      cases heq
      obtain ⟨hs', hbefore⟩ := List.forall_mem_cons.mp hbefore
      exact .inr ⟨hs', before, s, after, rfl, hbefore, hs⟩
  · rintro (hs | ⟨hsig, before, s, after, rfl, hbefore, hs⟩)
    · exact ⟨[], sig, rest, rfl, by simp, hs⟩
    · exact ⟨sig :: before, s, after, rfl, List.forall_mem_cons.mpr ⟨hsig, hbefore⟩, hs⟩

theorem recalculate_error_iff {sigs : List Signal} (hsigs : ∀ sig ∈ sigs, IsCounter sig) {i : Nat}
    {u : Update} (hu : u.error = none) :
    (recalculate clock response sigs i u).error ≠ none ↔ GarbledCounter clock response sigs := by
  induction sigs generalizing i u with
  | nil => simp [recalculate, hu, GarbledCounter]
  | cons sig rest ih =>
    obtain ⟨hsig, hrest⟩ := List.forall_mem_cons.mp hsigs
    rw [garbledCounter_cons]
    rcases recalculate_cases clock response hsig rest i u with
      ⟨e, h, hr⟩ | ⟨v, code, h, hcode, hr⟩ | ⟨v, read, h, -, hr⟩
    · rw [hr]
      simp [(unpackSignal_error_iff clock).mp ⟨e, h⟩]
    · have hnot : ¬ Unpacks clock response sig := not_unpacks_of_code h hcode
      rw [hr]
      simp [hu, not_garbled_of_ok h, hnot]
    · have hunpacks : Unpacks clock response sig := ⟨v, h⟩
      rw [hr, ih hrest ((countIn_error ..).trans hu)]
      simp [hunpacks, hunpacks.not_garbled]

/-- A counter that is reached and unpacks comes to another number than the database has. -/
def AltersCounter (clock : Int → Int) (response : Json) (lib : Lib) (i : Nat)
    (sigs : List Signal) : Prop :=
  ∃ before sig after v read, sigs = before ++ sig :: after ∧
    (∀ s ∈ before, Unpacks clock response s) ∧
    unpackSignal clock sig response = .ok (v, .NO_ERR) ∧ v.toInt = .ok read ∧
    (lib.value sig.param).eq (.int (counted lib (i + before.length) read)) = false

theorem eq_int (n : Int) : (Json.int n).eq (.int n) = true := by simp [Json.eq, Json.number]

/-- One counter on: the next ones are looked at in the same way. -/
theorem AltersCounter.cons {sig : Signal} {rest : List Signal} {lib lib' : Lib} {i : Nat}
    (hsig : Unpacks clock response sig)
    (hvalue : ∀ s ∈ rest, lib'.value s.param = lib.value s.param)
    (hcounted : ∀ j n, j ≠ i → counted lib' j n = counted lib j n) :
    AltersCounter clock response lib' (i + 1) rest →
      AltersCounter clock response lib i (sig :: rest) := by
  rintro ⟨before, s, after, v, read, rfl, hbefore, hv, hread, hne⟩
  refine ⟨sig :: before, s, after, v, read, rfl, List.forall_mem_cons.mpr ⟨hsig, hbefore⟩, hv,
    hread, ?_⟩
  rw [hvalue s (by simp), hcounted _ _ (by omega)] at hne
  rwa [List.length_cons, show i + (before.length + 1) = i + 1 + before.length by omega]

theorem countIn_steady {sig : Signal} {i : Nat} {read : Int} {u : Update}
    (h : (u.lib.value sig.param).eq (.int (counted u.lib i read)) = true) :
    u.countIn sig i read = { u with lib := u.lib.count i read } := if_pos h

theorem counted_countIn (sig : Signal) (i : Nat) (read : Int) (u : Update) {j : Nat} (n : Int)
    (h : j ≠ i) : counted (u.countIn sig i read).lib j n = counted u.lib j n := by
  unfold Update.countIn
  rw [counted_store]
  exact counted_count read n h

/-- Where no counter is altered, nothing is stored. -/
theorem recalculate_steady {sigs : List Signal} (hsigs : ∀ sig ∈ sigs, IsCounter sig) {i : Nat}
    {u : Update} (h : ¬ AltersCounter clock response u.lib i sigs) :
    (recalculate clock response sigs i u).lib.value = u.lib.value := by
  induction sigs generalizing i u with
  | nil => rfl
  | cons sig rest ih =>
    obtain ⟨hsig, hrest⟩ := List.forall_mem_cons.mp hsigs
    rcases recalculate_cases clock response hsig rest i u with
      ⟨e, -, hr⟩ | ⟨v, code, -, -, hr⟩ | ⟨v, read, hv, hread, hr⟩
    · rw [hr]
    · rw [hr]
    · have heq : (u.lib.value sig.param).eq (.int (counted u.lib i read)) = true := by
        by_contra hne
        exact h ⟨[], sig, rest, v, read, rfl, by simp, hv, hread, by simpa using hne⟩
      rw [hr, ih hrest, countIn_steady heq]
      · rfl
      · intro halters
        exact h (halters.cons ⟨v, hv⟩ (fun s _ => by rw [countIn_steady heq]; rfl)
          (fun j n hj => counted_countIn sig i read u n hj))

/-- An altered counter stays altered. -/
theorem recalculate_altered {sigs : List Signal} (hsigs : ∀ sig ∈ sigs, IsCounter sig) {i : Nat}
    {u : Update} (hnodup : (sigs.map (fun sig => sig.param)).Nodup)
    (h : AltersCounter clock response u.lib i sigs) : ∃ sig ∈ sigs,
      (recalculate clock response sigs i u).lib.value sig.param ≠ u.lib.value sig.param := by
  obtain ⟨before, sig, after, v, read, rfl, hbefore, hv, hread, hne⟩ := h
  induction before generalizing u i with
  | nil =>
    obtain ⟨-, hafter⟩ := List.forall_mem_cons.mp hsigs
    have hfresh : sig.param ∉ after.map (fun sig => sig.param) := by
      simpa using (List.nodup_cons.mp hnodup).1
    refine ⟨sig, by simp, ?_⟩
    have hstored : (u.countIn sig i read).lib.value sig.param = .int (counted u.lib i read) := by
      unfold Update.countIn Update.store
      rw [if_neg (by simpa using hne)]
      exact set_value_same ..
    rw [List.nil_append, recalculate_counted hv hread,
      (within_recalculate hafter _ _).frame _ hfresh, hstored]
    intro heq
    rw [← heq, List.length_nil, Nat.add_zero, eq_int] at hne
    cases hne
  | cons s before ih =>
    obtain ⟨⟨v', hv'⟩, hbefore⟩ := List.forall_mem_cons.mp hbefore
    obtain ⟨hs, hrest⟩ := List.forall_mem_cons.mp hsigs
    obtain ⟨read', hread'⟩ := toInt_unpacked hs.1 hs.2 hv'
    rw [List.cons_append, List.map_cons, List.nodup_cons] at hnodup
    have hsame : ∀ s' ∈ before ++ sig :: after,
        (u.countIn s i read').lib.value s'.param = u.lib.value s'.param := by
      intro s' hs'
      refine (within_countIn s i read' u).frame _ ?_
      intro hmem
      exact hnodup.1 (List.mem_singleton.mp hmem ▸ List.mem_map_of_mem hs')
    have hne' : ((u.countIn s i read').lib.value sig.param).eq
        (.int (counted (u.countIn s i read').lib (i + 1 + before.length) read)) = false := by
      rw [hsame sig (by simp), counted_countIn _ _ _ _ _ (by omega)]
      rwa [List.length_cons, show i + (before.length + 1) = i + 1 + before.length by omega] at hne
    obtain ⟨s', hs', hvalue⟩ := ih hrest hnodup.2 hbefore hne'
    refine ⟨s', List.mem_cons_of_mem _ hs', ?_⟩
    rw [List.cons_append, recalculate_counted hv' hread']
    rwa [hsame s' hs'] at hvalue

theorem isCounter_doorOpenCount : ∀ sig ∈ paramsDoorOpenCount, IsCounter sig := by
  simp [paramsDoorOpenCount, IsCounter, uint32]

/-- A failed recalculation keeps its changes to itself. -/
theorem doorOpenCountRecalculate_fields (clock : Int → Int) (response : Json) (lib : Lib) :
    (doorOpenCountRecalculate clock response lib).lib =
      (recalculate clock response paramsDoorOpenCount 0 (.start lib)).lib ∧
    (doorOpenCountRecalculate clock response lib).error =
      (recalculate clock response paramsDoorOpenCount 0 (.start lib)).error := by
  simp only [doorOpenCountRecalculate]
  split <;> exact ⟨rfl, rfl⟩

end Counters

section Virtual

variable {clock : Int → Int} {lib : Lib}

theorem within_updateVirtual (signals : List (Int × (Lib → Except PyError (Json × Rs232Code))))
    (u : Update) : Within (signals.map (fun signal => signal.1)) u (updateVirtual signals u) := by
  induction signals generalizing u with
  | nil => exact .of_value rfl rfl
  | cons signal rest ih =>
    obtain ⟨param, newVal⟩ := signal
    rw [updateVirtual]
    split
    · exact .of_value rfl rfl
    · rename_i v code _
      split
      · exact (ih { u with errCode := code }).cons rfl rfl
      · exact (within_store param v u).trans (ih _)

def virtualParams : List Int := [9, 57, 92, 152]

theorem within_updateVirtualSignals (clock : Int → Int) (lib : Lib) :
    Within virtualParams (.start lib) (updateVirtualSignals clock lib) :=
  within_updateVirtual (paramsVirtual clock) (.start lib)

theorem store_latestResponses (param : Int) (v : Json) (u : Update) :
    (u.store param v).lib.latestResponses = u.lib.latestResponses := by
  unfold Update.store
  split <;> rfl

def progNameParam : Int := 4

/-- The update raises exactly if one of its signals does, as long as what raises in a signal is
not changed by the ones before. -/
theorem updateVirtual_error_iff
    {signals : List (Int × (Lib → Except PyError (Json × Rs232Code)))} {u : Update}
    (hu : u.error = none) (hlatest : u.lib.latestResponses = lib.latestResponses)
    (hprog : u.lib.value progNameParam = lib.value progNameParam)
    (hparam : ∀ signal ∈ signals, signal.1 ≠ progNameParam)
    (hstable : ∀ signal ∈ signals, ∀ lib' : Lib, lib'.latestResponses = lib.latestResponses →
      lib'.value progNameParam = lib.value progNameParam →
      ((∃ e, signal.2 lib' = .error e) ↔ ∃ e, signal.2 lib = .error e)) :
    (updateVirtual signals u).error ≠ none ↔ ∃ signal ∈ signals, ∃ e, signal.2 lib = .error e := by
  induction signals generalizing u with
  | nil => simp [updateVirtual, hu]
  | cons signal rest ih =>
    obtain ⟨param, newVal⟩ := signal
    obtain ⟨hone, hrest⟩ := List.forall_mem_cons.mp hstable
    obtain ⟨hne, hneRest⟩ := List.forall_mem_cons.mp hparam
    have hiff := hone u.lib hlatest hprog
    rw [List.exists_mem_cons_iff, ← hiff]
    simp only at hiff ⊢
    rw [updateVirtual]
    cases hval : newVal u.lib with
    | error e => simp
    | ok r =>
      obtain ⟨v, code⟩ := r
      simp only [reduceCtorEq, exists_false, false_or]
      split
      · exact ih (u := { u with errCode := code }) hu hlatest hprog hneRest hrest
      · refine ih ((store_error ..).trans hu) ((store_latestResponses ..).trans hlatest) ?_ hneRest
          hrest
        rw [(within_store param v u).frame _ (by simpa using Ne.symm hne), hprog]

/-- The latest response of the package is there, and garbled for the signal. -/
def GarbledLatest (sig : Signal) (package : Package) (lib : Lib) : Prop :=
  ∃ response, lib.latestResponses package = some response ∧ Garbled sig response

theorem octets_typeError {items : List Json} {e : PyError} (h : items.mapM octet = .error e) :
    e = .typeError := by
  induction items with
  | nil => cases h
  | cons v items ih =>
    rw [List.mapM_cons] at h
    cases hv : octet v with
    | error e' =>
      rw [hv] at h
      cases h
      cases v <;> cases hv <;> rfl
    | ok n =>
      cases hrest : items.mapM octet with
      | error e' =>
        simp only [hv, hrest, bind, Except.bind, Except.error.injEq] at h
        exact ih (h ▸ hrest)
      | ok rest => simp [hv, hrest, bind, Except.bind, pure, Except.pure] at h

/-- A byte or a number raises a `TypeError`, never the `KeyError` of a missing response. -/
theorem unpackSignal_typeError {sig : Signal} {response : Json} {e : PyError}
    (htype : sig.type = .uint ∨ sig.type = .byte ∧ sig.byteSize = 1)
    (h : unpackSignal clock sig response = .error e) : e = .typeError := by
  unfold unpackSignal at h
  have hgeneric : sig.type ≠ .genericText := by
    rcases htype with htype | htype <;> simp [htype]
  rw [if_neg hgeneric] at h
  split at h
  · cases h
  · rename_i hvalid
    obtain ⟨items, hitems⟩ := region_of_validateBytes (by simpa using hvalid)
    rcases htype with htype | ⟨htype, hsize⟩
    · simp only [htype, unpackUint, hitems, bind, Except.bind] at h
      cases hoctets : items.mapM octet with
      | error e' =>
        simp only [hoctets, Except.map, Except.error.injEq] at h
        exact h ▸ octets_typeError hoctets
      | ok octets => simp [hoctets, Except.map, pure, Except.pure] at h
    · rw [Signal.region, hsize, List.range'_one] at hitems
      obtain ⟨v, rest, hitem, -, -⟩ := mapM_cons_ok hitems
      simp only [htype, unpackByte, hitem, bind, Except.bind] at h
      cases hv : octet v with
      | error e' =>
        simp only [hv, Except.map, Except.error.injEq] at h
        cases v <;> cases hv <;> exact h.symm
      | ok n => simp [hv, Except.map, pure, Except.pure] at h

theorem unpackLatest_error_iff (clock : Int → Int) {sig : Signal} {package : Package}
    (htype : sig.type = .uint ∨ sig.type = .byte ∧ sig.byteSize = 1) :
    (∃ e, unpackLatest clock sig package lib = .error e ∧ e ≠ .keyError) ↔
      GarbledLatest sig package lib := by
  unfold unpackLatest GarbledLatest
  cases lib.latestResponses package with
  | none => simp
  | some response =>
    simp only [Option.some.injEq, exists_eq_left']
    rw [← unpackSignal_error_iff clock]
    constructor
    · rintro ⟨e, he, -⟩
      exact ⟨e, he⟩
    · rintro ⟨e, he⟩
      exact ⟨e, he, by simp [unpackSignal_typeError htype he]⟩

theorem updateBatteryState_error_iff :
    (∃ e, updateBatteryState clock lib = .error e) ↔
      GarbledLatest batteryState .package130 lib := by
  rw [← unpackLatest_error_iff clock (.inr ⟨rfl, rfl⟩)]
  unfold updateBatteryState
  cases unpackLatest clock batteryState .package130 lib with
  | error e => cases e <;> simp [failed]
  | ok r =>
    simp only [failed, found, reduceCtorEq, false_and, exists_false, iff_false]
    rintro ⟨e, he⟩
    repeat' split at he
    all_goals cases he

theorem updateTemp_error_iff :
    (∃ e, updateTemp clock lib = .error e) ↔ GarbledLatest temp .package134 lib := by
  rw [← unpackLatest_error_iff clock (.inl rfl)]
  unfold updateTemp
  cases unpackLatest clock temp .package134 lib with
  | error e => cases e <;> simp [failed]
  | ok r =>
    simp only [failed, found, reduceCtorEq, false_and, exists_false, iff_false]
    rintro ⟨e, he⟩
    split at he <;> cases he

/-- The program name is neither a text nor a list, so that it cannot be cut. -/
def Uncut (v : Json) : Prop := v.isStr = false ∧ v.isList = false

theorem updateImpulse_error_iff :
    (∃ e, updateImpulse lib = .error e) ↔ Uncut (lib.value progNameParam) := by
  unfold updateImpulse progNameParam Uncut
  cases lib.value 4 with
  | str progName =>
    simp only [failed, found, Json.isStr, Bool.true_eq_false, false_and, iff_false]
    rintro ⟨e, he⟩
    repeat' split at he
    all_goals cases he
  | list items => simp [failed, Json.isList]
  | _ => simp [Json.isStr, Json.isList]

theorem updateFloorLock_ok : ¬ ∃ e, updateFloorLock lib = .error e := by
  unfold updateFloorLock failed found
  rintro ⟨e, he⟩
  simp only at he
  split at he <;> cases he

/-- When the virtual signals raise. -/
def VirtualFault (lib : Lib) : Prop :=
  GarbledLatest batteryState .package130 lib ∨ Uncut (lib.value progNameParam) ∨
    GarbledLatest temp .package134 lib

theorem GarbledLatest.congr {sig : Signal} {package : Package} {lib' : Lib}
    (h : lib'.latestResponses = lib.latestResponses) :
    GarbledLatest sig package lib' ↔ GarbledLatest sig package lib := by
  unfold GarbledLatest
  rw [h]

theorem updateVirtualSignals_error_iff :
    (updateVirtualSignals clock lib).error ≠ none ↔ VirtualFault lib := by
  have hparam : ∀ signal ∈ paramsVirtual clock, signal.1 ≠ progNameParam := by
    have : ∀ p ∈ (paramsVirtual clock).map (fun signal => signal.1), p ≠ progNameParam := by
      simp only [paramsVirtual, List.map_cons, List.map_nil]
      decide
    exact fun signal hmem => this _ (List.mem_map_of_mem hmem)
  have hstable : ∀ signal ∈ paramsVirtual clock, ∀ lib' : Lib,
      lib'.latestResponses = lib.latestResponses →
      lib'.value progNameParam = lib.value progNameParam →
      ((∃ e, signal.2 lib' = .error e) ↔ ∃ e, signal.2 lib = .error e) := by
    intro signal hmem lib' hlatest hprog
    simp only [paramsVirtual, List.mem_cons, List.not_mem_nil, or_false] at hmem
    rcases hmem with rfl | rfl | rfl | rfl
    · simp only [updateBatteryState_error_iff, GarbledLatest.congr hlatest]
    · simp only [updateImpulse_error_iff, hprog]
    · simp only [updateTemp_error_iff, GarbledLatest.congr hlatest]
    · simp only [updateFloorLock_ok]
  rw [updateVirtualSignals, updateVirtual_error_iff rfl rfl rfl hparam hstable]
  simp only [paramsVirtual, List.exists_mem_cons_iff, updateBatteryState_error_iff,
    updateImpulse_error_iff, updateTemp_error_iff, updateFloorLock_ok, List.not_mem_nil,
    false_and, exists_false, or_false, VirtualFault, Update.start]

end Virtual

section Notifications

variable {clock : Int → Int} {lib : Lib}

theorem setAll_value_other {params : List Int} {p : Int} (v : Json) (lib : Lib) (h : p ∉ params) :
    (lib.setAll params v).value p = lib.value p := by
  induction params with
  | nil => rfl
  | cons param params ih =>
    rw [List.mem_cons, not_or] at h
    rw [Lib.setAll, List.foldr_cons, set_value_other _ _ h.1]
    exact ih h.2

theorem closingTimeParam_mem {doorNo : Json} {param : Int}
    (h : closingTimeParam doorNo = some param) : param ∈ doorClosingTimeParams :=
  List.mem_of_find?_eq_some h

theorem updateDoorClosingTime_frame {response : Json} {p : Int} (h : p ∉ doorClosingTimeParams) :
    (updateDoorClosingTime clock response lib).lib.value p = lib.value p := by
  unfold updateDoorClosingTime
  repeat' split
  all_goals try rfl
  rename_i hparam
  exact set_value_other _ _ (fun heq => h (heq ▸ closingTimeParam_mem hparam))

theorem updateDoorClosingTime_changed {response : Json} :
    ∀ p ∈ (updateDoorClosingTime clock response lib).changed, p ∈ doorClosingTimeParams := by
  intro p hp
  unfold updateDoorClosingTime at hp
  repeat' split at hp
  all_goals try cases hp
  · exact closingTimeParam_mem (by assumption)
  · rename_i hp
    cases hp

/-- The two values of a closing time are unpacked one after the other. -/
def ClosingTimeFault (clock : Int → Int) (response : Json) : Prop :=
  Garbled doorNumber response ∨
    Unpacks clock response doorNumber ∧ Garbled doorClosingTime response

theorem updateDoorClosingTime_error_iff (lib : Lib) {response : Json} :
    (updateDoorClosingTime clock response lib).error ≠ none ↔ ClosingTimeFault clock response := by
  unfold updateDoorClosingTime ClosingTimeFault
  rcases unpackSignal_cases clock doorNumber response with ⟨e, h⟩ | ⟨v, code, h, hcode⟩ | ⟨v, h⟩
  · simp [h, (unpackSignal_error_iff clock).mp ⟨e, h⟩]
  · have hnot : ¬ Unpacks clock response doorNumber := not_unpacks_of_code h hcode
    simp [h, hcode, hnot, not_garbled_of_ok h]
  · have hunpacks : Unpacks clock response doorNumber := ⟨v, h⟩
    simp only [h, hunpacks, hunpacks.not_garbled, false_or, true_and, ne_eq, not_true, if_false]
    rcases unpackSignal_cases clock doorClosingTime response with
      ⟨e, h'⟩ | ⟨v', code, h', hcode⟩ | ⟨v', h'⟩
    · simp [h', (unpackSignal_error_iff clock).mp ⟨e, h'⟩]
    · simp [h', hcode, not_garbled_of_ok h']
    · simp only [h', not_garbled_of_ok h', not_true, if_false, iff_false, not_not]
      split <;> rfl

def vfdParams : List Int := [169, 170, 171, 172]

theorem vfdSignal_param {id : Json} {sig : Signal} (h : vfdSignal id = some sig) :
    sig.param ∈ vfdParams ∧ sig.byteStart = 4 ∧ sig.byteSize = 2 := by
  unfold vfdSignal at h
  repeat' split at h
  all_goals cases h
  all_goals decide

theorem within_updateVfdParams (resp : Dict) (lib : Lib) :
    Within vfdParams (.start lib) (updateVfdParams resp lib) := by
  unfold updateVfdParams
  repeat' split
  all_goals try exact .of_value rfl rfl
  rename_i sig hsig _ n _
  obtain ⟨hmem, -, -⟩ := vfdSignal_param hsig
  constructor
  · intro p hp
    exact set_value_other _ _ (fun heq => hp (heq ▸ hmem))
  · intro p hp
    cases hp
  · intro p hp
    by_contra hne
    exact hp (set_value_other _ _ (by simpa using hne))
  · intro p hp
    rw [List.mem_singleton.mp hp]
    exact .inr hmem

/-- The fourth and the fifth field are hexadecimal numbers. -/
def FieldFault (s : String) : Prop :=
  ∃ i ∈ [3, 4], ∃ e, vfdField (s.toList.splitOn ',') i = .error e

/-- A saved result that raises: it has no id or no data, or data that is not a text with the
fields of a motor value, for an id that has one. -/
def VfdFault (resp : Dict) : Prop :=
  resp.lookup "id" = none ∨ resp.lookup "data" = none ∨
    ∃ id data, resp.lookup "id" = some id ∧ resp.lookup "data" = some data ∧
      (vfdSignal id).isSome ∧ ∀ s, data = .str s → FieldFault s

theorem foldlM_error_iff {f : Nat → Except PyError Int} {g : Int → Int → Int} {l : List Nat}
    (out : Int) : (∃ e, l.foldlM (fun out i => (f i).map (g out)) out = .error e) ↔
      ∃ i ∈ l, ∃ e, f i = .error e := by
  induction l generalizing out with
  | nil => simp [pure, Except.pure]
  | cons i l ih =>
    rw [List.foldlM_cons, List.exists_mem_cons_iff]
    cases hi : f i with
    | error e => simp [Except.map, bind, Except.bind]
    | ok n =>
      simp only [Except.map, bind, Except.bind, reduceCtorEq, exists_false, false_or]
      exact ih (g out n)

theorem unpackVfdResultData_error_iff {id data : Json} {sig : Signal}
    (hsig : vfdSignal id = some sig) : (∃ e, unpackVfdResultData sig data = .error e) ↔
      ∀ s, data = .str s → FieldFault s := by
  obtain ⟨-, hstart, hsize⟩ := vfdSignal_param hsig
  cases data with
  | str s =>
    simp only [unpackVfdResultData, hstart, hsize, Json.str.injEq, forall_eq']
    exact foldlM_error_iff 0
  | _ => simp [unpackVfdResultData]

theorem updateVfdParams_error_iff (lib : Lib) {resp : Dict} :
    (updateVfdParams resp lib).error ≠ none ↔ VfdFault resp := by
  unfold updateVfdParams VfdFault
  cases hid : resp.lookup "id" with
  | none => simp
  | some id =>
    cases hdata : resp.lookup "data" with
    | none => simp
    | some data =>
      cases hsig : vfdSignal id with
      | none => simp [hsig]
      | some sig =>
        have hfault : (∃ e, unpackVfdResultData sig data = .error e) ↔ _ :=
          unpackVfdResultData_error_iff hsig
        have hthird : (∃ id' data', some id = some id' ∧ some data = some data' ∧
            (vfdSignal id').isSome ∧ ∀ s, data' = .str s → FieldFault s) ↔
              ∀ s, data = .str s → FieldFault s := by
          constructor
          · rintro ⟨_, _, ⟨⟩, ⟨⟩, -, h⟩
            exact h
          · intro h
            exact ⟨id, data, rfl, rfl, by simp [hsig], h⟩
        rw [hthird, ← hfault]
        cases hdata : unpackVfdResultData sig data <;> simp [hsig, hdata]

end Notifications

section Texts

variable {clock : Int → Int} {response : Json}

/-- The parameters that are read as a text without a check. -/
def textParams : List Int := [4, 5, 6, 93, 94]

def Texts (lib : Lib) : Prop := ∀ p ∈ textParams, ∃ s, lib.value p = .str s

theorem Texts.of_value {lib lib' : Lib} (h : Texts lib)
    (hvalue : ∀ p ∈ textParams, lib'.value p = lib.value p) : Texts lib' :=
  fun p hp => (hvalue p hp).symm ▸ h p hp

/-- An update that stays clear of the texts. -/
theorem Texts.of_within {params : List Int} {u u' : Update} (h : Texts u.lib)
    (hwithin : Within params u u') (hclear : ∀ p ∈ textParams, p ∉ params) : Texts u'.lib :=
  h.of_value fun p hp => hwithin.frame p (hclear p hp)

theorem Texts.set {lib : Lib} (h : Texts lib) (param : Int) (s : String) :
    Texts (lib.set param (.str s)) := by
  intro p hp
  by_cases heq : p = param
  · exact ⟨s, by simp [heq]⟩
  · rw [set_value_other _ _ heq]
    exact h p hp

theorem Texts.store {u : Update} (h : Texts u.lib) (param : Int) (s : String) :
    Texts (u.store param (.str s)).lib := by
  unfold Update.store
  split
  · exact h
  · exact h.set param s

theorem texts_updateSignals {sigs : List Signal} {u : Update}
    (htype : ∀ sig ∈ sigs, sig.type ≠ .genericText) (h : Texts u.lib) :
    Texts (updateSignals clock response sigs u).lib := by
  induction sigs generalizing u with
  | nil => exact h
  | cons sig rest ih =>
    obtain ⟨hsig, hrest⟩ := List.forall_mem_cons.mp htype
    rcases unpackSignal_cases clock sig response with ⟨e, hu⟩ | ⟨v, code, hu, hcode⟩ | ⟨v, hu⟩
    · rw [updateSignals_raised hu]
      exact h
    · rw [updateSignals_skipped hu hcode]
      exact ih (u := { u with errCode := code }) hrest h
    · obtain ⟨s, rfl⟩ := unpackSignal_str hsig hu
      rw [updateSignals_stored hu]
      exact ih hrest (h.store sig.param s)

end Texts

end NexyGateway.ThousandLib
