import NexyGateway.AhlCache

/-!
# Coherence of the AHL cache

A covered parameter is cached with its register's value, or one of its flags is set,
or it is still to be read. The flags are gone once they have been read, so the last
part is all that keeps a parameter in view during a sweep.
-/
namespace NexyGateway.AhlCache

open AhlLib ModbusHandler Runs

section Lcm

variable {table : Nat → List Nat}

theorem groups_foldl (param : Nat) (bits : List Nat) (word : BitVec 31) (b : Nat) (hb : b < 31) :
    (bits.foldl
      (fun word bit => if param ∈ table bit then word ||| BitVec.twoPow 31 bit else word)
      word).getLsbD b = (word.getLsbD b || decide (b ∈ bits ∧ param ∈ table b)) := by
  induction bits generalizing word with
  | nil => simp
  | cons bit bits ih =>
    rw [List.foldl_cons, ih]
    by_cases hmem : param ∈ table bit
    · by_cases heq : bit = b
      · subst heq
        simp [hmem, hb]
      · simp [hmem, heq, Ne.symm heq]
    · by_cases heq : bit = b
      · subst heq
        simp [hmem]
      · simp [hmem, Ne.symm heq]

theorem groups_getLsbD (param : Nat) {b : Nat} (hb : b < 31) :
    (groups table param).getLsbD b = decide (param ∈ table b) := by
  unfold groups
  rw [groups_foldl param _ _ b hb]
  simp [List.mem_range, hb]

/-- A flag of a group of the parameter is set. -/
def Flagged (table : Nat → List Nat) (lcm : Lcm) (param : Nat) : Prop :=
  ∃ bit < 31, param ∈ table bit ∧ lcm.flags.getLsbD bit = true

theorem Flagged.change {lcm : Lcm} {param : Nat} (h : Flagged table lcm param) (p : Nat)
    (r : Register) : Flagged table (lcm.change table p r) param := by
  obtain ⟨bit, hbit, hmem, hset⟩ := h
  refine ⟨bit, hbit, hmem, ?_⟩
  unfold Lcm.change
  split
  · exact hset
  · simp [hset]

theorem flagged_of_change {lcm : Lcm} {param : Nat} {r : Register} (hgroup : ∃ bit < 31,
    param ∈ table bit) (h : lcm.reg param ≠ r) : Flagged table (lcm.change table param r) param := by
  obtain ⟨bit, hbit, hmem⟩ := hgroup
  refine ⟨bit, hbit, hmem, ?_⟩
  simp [Lcm.change, h, groups_getLsbD param hbit, hmem]

theorem change_reg_same (lcm : Lcm) (param : Nat) (r : Register) :
    (lcm.change table param r).reg param = r := by
  unfold Lcm.change
  split
  · assumption
  · simp

theorem change_reg_other (lcm : Lcm) {param p : Nat} (r : Register) (h : p ≠ param) :
    (lcm.change table param r).reg p = lcm.reg p := by
  unfold Lcm.change
  split
  · rfl
  · simp [h]

/-- Two register words carry the value they were cut from. -/
theorem words_join (r : Register) :
    PyNumber.cInt32 (r.val / 2 ^ 16 % 2 ^ 16 * 2 ^ 16 + r.val % 2 ^ 16) = r.val := by
  have hlow := r.lower
  have hup := r.upper
  unfold PyNumber.cInt32
  rw [Int.bmod_def]
  omega

theorem receivedValue_reply (r : Register) :
    receivedValue r.reply = none ∨ receivedValue r.reply = some r.val := by
  by_cases h : r.val / 2 ^ 16 % 2 ^ 16 = 0xDEAD ∧ r.val % 2 ^ 16 = 0xDEAD
  · left
    simp only [receivedValue, Register.reply, validateReadParamResponse, if_pos h, failed]
    rfl
  · right
    simp only [receivedValue, Register.reply, validateReadParamResponse, if_neg h, if_true,
      words_join]

end Lcm

section Read

variable {s : Link} {ok : Bool} {param : Nat}

/-- A read changes at most the flags, and only when it gets to the flag register. -/
theorem readParam_frame (h : ok = false ∨ param ≠ flagsParam) :
    (s.readParam ok param).2 = s := by
  unfold Link.readParam Lcm.read
  cases ok with
  | false => rfl
  | true =>
    have hparam : param ≠ flagsParam := by simpa using h
    simp [hparam]

theorem readParam_value {v : Int} (hparam : param ≠ flagsParam)
    (h : (s.readParam ok param).1 = some v) : v = (s.lcm.reg param).val := by
  unfold Link.readParam Lcm.read at h
  cases ok with
  | false => cases h
  | true =>
    simp only [if_true, if_neg hparam] at h
    rcases receivedValue_reply (s.lcm.reg param) with hnone | hsome
    · rw [hnone] at h
      cases h
    · rw [hsome] at h
      exact (Option.some.inj h).symm

/-- Reading the flags gives the word and clears it. -/
theorem readParam_flags : s.readParam true flagsParam =
    (some (s.lcm.flags.toNat : Int), { s with lcm := { s.lcm with flags := 0 } }) := by
  have hword : (s.lcm.flags.toNat : Int) < 2 ^ 31 := by
    have := s.lcm.flags.isLt
    omega
  -- a word of 31 bits is never the marker of an absent parameter
  have halive : ¬ ((s.lcm.flags.toNat : Int) / 2 ^ 16 % 2 ^ 16 = 0xDEAD ∧
      (s.lcm.flags.toNat : Int) % 2 ^ 16 = 0xDEAD) := by omega
  have hjoin := words_join ⟨(s.lcm.flags.toNat : Int), by omega, hword⟩
  simp only [Link.readParam, Lcm.read, if_true, receivedValue, Register.reply,
    validateReadParamResponse, if_neg halive, hjoin]

end Read

section Coherence

variable (newTable : Bool)

/-- In the database and in the polling table. -/
structure Covered (param : Nat) : Prop where
  notFlags : param ≠ flagsParam
  known : inDatabase param = true
  polled : ∃ bit < 31, param ∈ pollingTable newTable bit

/-- The cached value is the register's. -/
def Fresh (s : Link) (param : Nat) : Prop := s.cache param = some (s.lcm.reg param).val

/-- Between two operations: what is not fresh has a flag set, or a forced sweep is due. -/
def Coherent (s : Link) : Prop :=
  ∀ param, Covered newTable param →
    Fresh s param ∨ Flagged (pollingTable newTable) s.lcm param ∨ s.forceReadAll = true

/-- The parameter is still to be read by the sweep under way, or by a forced one that is due. -/
def Awaited (s : Link) (param : Nat) : Prop :=
  match s.activity with
  | .sweeping remaining => param ∈ remaining
  | _ => s.forceReadAll = true

/-- What holds at every moment, in the middle of an operation too. -/
structure Tracked (s : Link) : Prop where
  covered : ∀ param, Covered newTable param →
    Fresh s param ∨ Flagged (pollingTable newTable) s.lcm param ∨ Awaited s param
  /-- The value that is about to be cached is one of those, too. -/
  mirrored : ∀ param value, s.activity = .mirroring param value → Covered newTable param →
    value = (s.lcm.reg param).val ∨ Flagged (pollingTable newTable) s.lcm param ∨
      s.forceReadAll = true
  /-- A sweep never reads the flags. -/
  sweeping : ∀ remaining, s.activity = .sweeping remaining → flagsParam ∉ remaining

/-- A step after which no parameter is lost from view: a sweep passes over a parameter only if
it is not needed, a value that is not the stored one is cached only if the write is noticed, and
the flags are read back only if nothing depends on them. -/
def Harmless (s : Link) : Event → Prop
  | .read ok => ∀ param rest, s.activity = .sweeping (param :: rest) → Covered newTable param →
    (s.readParam ok param).1 = none →
    Fresh s param ∨ Flagged (pollingTable newTable) s.lcm param ∨ param ∈ rest
  | .writeParam oldLcm param value => ∀ w, write? oldLcm param value = some w →
    Covered newTable w.param → w.requested = w.stored.val ∨ s.lcm.reg w.param ≠ w.stored ∨
      Flagged (pollingTable newTable) s.lcm w.param ∨ s.forceReadAll = true
  | .readBack ok => s.activity = .readingBack flagsParam → ok = true →
    ∀ param, Covered newTable param → Fresh s param ∨ s.forceReadAll = true
  | _ => True

variable {newTable} {s : Link}

theorem Tracked.coherent (h : Tracked newTable s) (hidle : s.activity = .idle) :
    Coherent newTable s := by
  intro param hparam
  have := h.covered param hparam
  simpa [Awaited, hidle] using this

theorem fresh_change {p : Nat} {r : Register} {param : Nat} (hne : param ≠ p)
    (h : Fresh s param) :
    Fresh { s with lcm := s.lcm.change (pollingTable newTable) p r } param := by
  simpa [Fresh, change_reg_other s.lcm r hne] using h

/-- A change by the lift is flagged. -/
theorem Tracked.change (h : Tracked newTable s) (p : Nat) (r : Register) :
    Tracked newTable { s with lcm := s.lcm.change (pollingTable newTable) p r } := by
  by_cases hsame : s.lcm.reg p = r
  · have : s.lcm.change (pollingTable newTable) p r = s.lcm := if_pos hsame
    rw [this]
    exact h
  · refine ⟨fun param hparam => ?_, fun param value hact hparam => ?_, h.sweeping⟩
    · by_cases hp : param = p
      · subst hp
        exact .inr (.inl (flagged_of_change hparam.polled hsame))
      · rcases h.covered param hparam with hfresh | hflag | hwait
        · exact .inl (fresh_change hp hfresh)
        · exact .inr (.inl (hflag.change p r))
        · exact .inr (.inr hwait)
    · by_cases hp : param = p
      · subst hp
        exact .inr (.inl (flagged_of_change hparam.polled hsame))
      · rcases h.mirrored param value hact hparam with hval | hflag | hforce
        · exact .inl (by simpa [change_reg_other s.lcm r hp] using hval)
        · exact .inr (.inl (hflag.change p r))
        · exact .inr (.inr hforce)

/-- A sweep keeps everything in view that is fresh, flagged or on its list. -/
theorem tracked_sweep {remaining : List Nat} (hflags : flagsParam ∉ remaining)
    (h : ∀ param, Covered newTable param → Fresh s param ∨
      Flagged (pollingTable newTable) s.lcm param ∨ param ∈ remaining) :
    Tracked newTable (s.sweep remaining) := by
  cases remaining with
  | nil =>
    refine ⟨fun param hparam => ?_, fun param value hact => ?_, fun remaining hact => ?_⟩
    · rcases h param hparam with hfresh | hflag | hmem
      · exact .inl hfresh
      · exact .inr (.inl hflag)
      · cases hmem
    · cases hact
    · cases hact
  | cons p rest =>
    refine ⟨h, fun param value hact => ?_, fun remaining hact => ?_⟩
    · cases hact
    · cases hact
      exact hflags

theorem tracked_sweep_nil (h : ∀ param, Covered newTable param → Fresh s param ∨
    Flagged (pollingTable newTable) s.lcm param ∨ param ∈ ([] : List Nat)) :
    Tracked newTable s.finish :=
  tracked_sweep List.not_mem_nil h

theorem flags_not_mem_decode (bitmask : Int) :
    flagsParam ∉ (decodeChangeFlags (pollingTable newTable) bitmask).filter
      (fun p => inDatabase p) := by
  intro hmem
  obtain ⟨bit, hbit, -, hin⟩ := mem_decodeChangeFlags.mp (List.mem_filter.mp hmem).1
  exact two_not_mem_pollingTable newTable bit hbit hin

/-- A forced sweep takes in every covered parameter. -/
theorem mem_forced {param : Nat} (h : Covered newTable param) :
    param ∈ (decodeChangeFlags (pollingTable newTable) 0x7FFFFFFF).filter
      (fun p => inDatabase p) := by
  obtain ⟨bit, hbit, hmem⟩ := h.polled
  have hset : ∀ bit < 31, Int.testBit 0x7FFFFFFF bit = true := by decide
  exact List.mem_filter.mpr
    ⟨mem_decodeChangeFlags.mpr ⟨bit, hbit, hset bit hbit, hmem⟩, h.known⟩

/-- A sweep by the flags takes in every covered parameter that is flagged. -/
theorem mem_flagged {lcm : Lcm} {param : Nat} (h : Covered newTable param)
    (hflag : Flagged (pollingTable newTable) lcm param) :
    param ∈ (decodeChangeFlags (pollingTable newTable) (lcm.flags.toNat : Int)).filter
      (fun p => inDatabase p) := by
  obtain ⟨bit, hbit, hmem, hset⟩ := hflag
  exact List.mem_filter.mpr ⟨mem_decodeChangeFlags.mpr ⟨bit, hbit, hset, hmem⟩, h.known⟩

/-- A poll starts with everything in view. -/
theorem Tracked.poll (h : Tracked newTable s) (hidle : s.activity = .idle) (force ok : Bool) :
    Tracked newTable (s.poll (pollingTable newTable) force ok) := by
  have hcoherent := h.coherent hidle
  unfold Link.poll
  cases hforce : force || s.forceReadAll with
  | true =>
    simp only [if_true]
    exact tracked_sweep (flags_not_mem_decode _) fun param hparam => .inr (.inr (mem_forced hparam))
  | false =>
    have hpending : s.forceReadAll = false := by
      cases hs : s.forceReadAll with
      | false => rfl
      | true => simp [hs] at hforce
    simp only [Bool.false_eq_true, if_false]
    cases ok with
    | false =>
      refine tracked_sweep_nil fun param hparam => ?_
      rcases hcoherent param hparam with hfresh | hflag | hdue
      · exact .inl hfresh
      · exact .inr (.inl hflag)
      · simp [hpending] at hdue
    | true =>
      rw [readParam_flags]
      simp only
      split
      · rename_i hzero
        -- without a flag everything is fresh
        refine tracked_sweep_nil fun param hparam => ?_
        rcases hcoherent param hparam with hfresh | hflag | hdue
        · exact .inl hfresh
        · have hmem := (List.mem_filter.mp (mem_flagged hparam hflag)).1
          rw [hzero] at hmem
          obtain ⟨bit, -, hset, -⟩ := mem_decodeChangeFlags.mp hmem
          have hclear : Int.testBit 0 bit = false := Nat.zero_testBit bit
          simp [hclear] at hset
        · simp [hpending] at hdue
      · refine tracked_sweep (flags_not_mem_decode _) fun param hparam => ?_
        rcases hcoherent param hparam with hfresh | hflag | hdue
        · exact .inl hfresh
        · exact .inr (.inr (mem_flagged hparam hflag))
        · simp [hpending] at hdue

/-- An individual read leaves the link with a fresh value, or passes over what is not needed. -/
theorem Tracked.readNext (h : Tracked newTable s) {ok : Bool} {param : Nat} {rest : List Nat}
    (hact : s.activity = .sweeping (param :: rest)) (hok : Harmless newTable s (.read ok)) :
    Tracked newTable (s.readNext ok param rest) := by
  have hnotFlags : param ≠ flagsParam := by
    rintro rfl
    exact h.sweeping _ hact (List.mem_cons_self ..)
  have hrest : flagsParam ∉ rest := fun hmem =>
    h.sweeping _ hact (List.mem_cons_of_mem _ hmem)
  have hframe : (s.readParam ok param).2 = s := readParam_frame (.inr hnotFlags)
  unfold Link.readNext
  simp only [hframe]
  split
  · rename_i hnone
    refine tracked_sweep hrest fun q hq => ?_
    rcases h.covered q hq with hfresh | hflag | hwait
    · exact .inl hfresh
    · exact .inr (.inl hflag)
    · simp only [Awaited, hact] at hwait
      cases List.mem_cons.mp hwait with
      | inl heq =>
        subst heq
        exact hok q rest hact hq hnone
      | inr hmem => exact .inr (.inr hmem)
  · rename_i v hsome
    refine tracked_sweep hrest fun q hq => ?_
    by_cases heq : q = param
    · subst heq
      left
      simp only [Fresh]
      rw [setParam_same v s.cache hq.known, readParam_value hnotFlags hsome]
    · rcases h.covered q hq with hfresh | hflag | hwait
      · left
        simp only [Fresh]
        rw [setParam_other v s.cache heq]
        exact hfresh
      · exact .inr (.inl hflag)
      · simp only [Awaited, hact] at hwait
        exact .inr (.inr ((List.mem_cons.mp hwait).resolve_left heq))

/-- A fresh value, or one that is noticed, may go to the cache. -/
theorem tracked_mirror (h : Coherent newTable s) {param : Nat} {value : Int}
    (hvalue : Covered newTable param → value = (s.lcm.reg param).val ∨
      Flagged (pollingTable newTable) s.lcm param ∨ s.forceReadAll = true) :
    Tracked newTable (s.mirror param value) := by
  refine ⟨fun q hq => ?_, fun q v hact => ?_, fun remaining hact => ?_⟩
  · by_cases heq : q = param
    · subst heq
      rcases hvalue hq with hval | hflag | hforce
      · left
        simp only [Fresh, Link.mirror]
        rw [setParam_same value s.cache hq.known, hval]
      · exact .inr (.inl hflag)
      · exact .inr (.inr hforce)
    · rcases h q hq with hfresh | hflag | hforce
      · left
        simp only [Fresh, Link.mirror]
        rw [setParam_other value s.cache heq]
        exact hfresh
      · exact .inr (.inl hflag)
      · exact .inr (.inr hforce)
  · cases hact
  · cases hact

theorem tracked_idle (h : Coherent newTable s) :
    Tracked newTable { s with activity := .idle } where
  covered := h
  mirrored _ _ hact := by cases hact
  sweeping _ hact := by cases hact

/-- Outside a sweep, only flags and a due sweep keep a parameter in view. -/
theorem Tracked.steady (h : Tracked newTable s)
    (hact : ∀ remaining, s.activity ≠ .sweeping remaining) : Coherent newTable s := by
  intro param hparam
  have hcovered := h.covered param hparam
  cases hs : s.activity with
  | sweeping remaining => exact absurd hs (hact remaining)
  | idle => simpa [Awaited, hs] using hcovered
  | mirroring p v => simpa [Awaited, hs] using hcovered
  | readingBack p => simpa [Awaited, hs] using hcovered

/-- A write is a change by the gateway; the rest of the operation starts from there. -/
theorem Tracked.store (h : Tracked newTable s) (hidle : s.activity = .idle) (w : Write) :
    Coherent newTable (s.store (pollingTable newTable) w) :=
  (h.change w.param w.stored).coherent hidle

theorem Tracked.writeParam (h : Tracked newTable s) (hidle : s.activity = .idle) {oldLcm : Bool}
    {param value : String} {w : Write} (hw : write? oldLcm param value = some w)
    (hok : Harmless newTable s (.writeParam oldLcm param value)) :
    Tracked newTable { s.store (pollingTable newTable) w with
      activity := .mirroring w.param w.requested } := by
  refine ⟨h.store hidle w, fun p v hact hp => ?_, fun remaining hact => ?_⟩
  · cases hact
    rcases hok w hw hp with hval | hchanged | hflag | hforce
    · left
      simp only [Link.store, change_reg_same]
      exact hval
    · exact .inr (.inl (flagged_of_change hp.polled hchanged))
    · exact .inr (.inl (hflag.change _ _))
    · exact .inr (.inr hforce)
  · cases hact

theorem Tracked.writeReadParam (h : Tracked newTable s) (hidle : s.activity = .idle) (w : Write) :
    Tracked newTable { s.store (pollingTable newTable) w with
      activity := .readingBack w.param } where
  covered := h.store hidle w
  mirrored _ _ hact := by cases hact
  sweeping _ hact := by cases hact

theorem Tracked.readBack (h : Tracked newTable s) {ok : Bool} {param : Nat}
    (hact : s.activity = .readingBack param) (hok : Harmless newTable s (.readBack ok)) :
    Tracked newTable (s.readBack ok param) := by
  have hsteady := h.steady (by simp [hact])
  by_cases hflags : ok = true ∧ param = flagsParam
  · obtain ⟨rfl, rfl⟩ := hflags
    unfold Link.readBack
    rw [readParam_flags]
    -- the flags are gone, so everything must be fresh or due
    refine tracked_mirror (fun q hq => ?_) (fun hq => absurd rfl hq.notFlags)
    rcases hok hact rfl q hq with hfresh | hforce
    · exact .inl hfresh
    · exact .inr (.inr hforce)
  · have hframe : (s.readParam ok param).2 = s := by
      apply readParam_frame
      cases ok with
      | false => exact .inl rfl
      | true => exact .inr fun heq => hflags ⟨rfl, heq⟩
    unfold Link.readBack
    simp only [hframe]
    split
    · exact tracked_idle hsteady
    · rename_i v hsome
      exact tracked_mirror hsteady fun hq => .inl (readParam_value hq.notFlags hsome)

theorem step_tracked {s' : Link} {e : Event} (h : Tracked newTable s)
    (hok : Harmless newTable s e) (hstep : step newTable s e = some s') : Tracked newTable s' := by
  cases e with
  | change p r =>
    cases hstep
    exact h.change p r
  | poll force ok =>
    simp only [step] at hstep
    split at hstep <;> cases hstep
    rename_i hidle
    exact h.poll hidle force ok
  | read ok =>
    simp only [step] at hstep
    split at hstep <;> cases hstep
    rename_i hact
    exact h.readNext hact hok
  | writeParam oldLcm param value =>
    simp only [step] at hstep
    split at hstep
    · rename_i hidle
      obtain ⟨w, hw, rfl⟩ := Option.map_eq_some_iff.mp hstep
      exact h.writeParam hidle hw hok
    · cases hstep
  | writeReadParam oldLcm param value =>
    simp only [step] at hstep
    split at hstep
    · rename_i hidle
      obtain ⟨w, -, rfl⟩ := Option.map_eq_some_iff.mp hstep
      exact h.writeReadParam hidle w
    · cases hstep
  | mirror =>
    simp only [step] at hstep
    split at hstep <;> cases hstep
    rename_i param value hact
    exact tracked_mirror (h.steady (by simp [hact])) (h.mirrored param value hact)
  | readBack ok =>
    simp only [step] at hstep
    split at hstep <;> cases hstep
    rename_i hact
    exact h.readBack hact hok

theorem bound_tracked (lcm : Lcm) (cache : Cache) : Tracked newTable (bound lcm cache) where
  covered _ _ := .inr (.inr rfl)
  mirrored _ _ hact := by cases hact
  sweeping _ hact := by cases hact

/-- In a run of harmless steps the cache is coherent whenever no operation is under way. -/
theorem coherent_of_harmless (lcm : Lcm) (cache : Cache) {path : List (Link × Event)} {s : Link}
    (r : Run (step newTable) (bound lcm cache) path s) (h : Meets (Harmless newTable) path) :
    Always (fun s => s.activity = .idle → Coherent newTable s) path s :=
  (r.invariant (fun _ _ _ h hok hs => step_tracked h hok hs) (bound_tracked lcm cache) h).mono
    (fun _ h hidle => h.coherent hidle)

end Coherence

section Runs

def zero : Register := ⟨0, by decide, by decide⟩

/-- A lift that has nothing to tell. -/
def still : Lcm := ⟨fun _ => zero, 0⟩

def risen : Register := ⟨3, by decide, by decide⟩

/-- The first poll. Parameter 12 changes before its turn comes, and its read fails. -/
def firstPoll : List Event :=
  .poll false true :: List.replicate 10 (.read true) ++
    [.change 12 risen, .read true, .read false] ++ List.replicate 141 (.read true)

/-- A change, a poll by the flags, and a write of each kind. -/
def flaggedPoll : List Event :=
  [.change 20 risen, .poll false true] ++ List.replicate 31 (.read true) ++
    [.writeParam false "5" "4", .mirror, .writeReadParam false "14" "9", .readBack true]

/-- A read that gets its value, or that comes again; a write of a new value or of the one that
is stored; and no read-back of the flags. -/
def careful (newTable : Bool) (s : Link) : Event → Bool
  | .read ok =>
    match s.activity with
    | .sweeping (param :: rest) => (s.readParam ok param).1.isSome ||
        (List.range 31).any (fun bit =>
          decide (param ∈ pollingTable newTable bit) && s.lcm.flags.getLsbD bit) ||
        decide (param ∈ rest)
    | _ => false
  | .writeParam oldLcm param value =>
    match write? oldLcm param value with
    | some w => w.requested = w.stored.val || s.lcm.reg w.param ≠ w.stored
    | none => false
  | .readBack _ => s.activity ≠ .readingBack flagsParam
  | _ => true

theorem harmless_of_careful {newTable : Bool} (s : Link) (e : Event)
    (h : careful newTable s e = true) : Harmless newTable s e := by
  cases e with
  | read ok =>
    intro param rest hact _ hnone
    simp only [careful, hact, hnone, Option.isSome_none, Bool.false_or, Bool.or_eq_true,
      List.any_eq_true, List.mem_range, Bool.and_eq_true, decide_eq_true_eq] at h
    exact .inr h
  | writeParam oldLcm param value =>
    intro w hw _
    simp only [careful, hw, Bool.or_eq_true, decide_eq_true_eq] at h
    exact h.imp_right .inl
  | readBack ok =>
    intro hact
    simp [careful, hact] at h
  | change | poll | writeReadParam | mirror => trivial

/-- The first poll clears the flag, though it passes over parameter 12; the second one reads it,
and the writes that follow stay in view by their flags. -/
theorem coherent_flaggedPoll : ∃ s t,
    exec (step false) (bound still fun _ => none) firstPoll = some s ∧
      s.forceReadAll = false ∧ s.activity = .idle ∧ s.cache 12 = none ∧ s.lcm.reg 12 = risen ∧
    exec (step false) (bound still fun _ => none) (firstPoll ++ flaggedPoll) = some t ∧
      t.forceReadAll = false ∧ t.activity = .idle ∧
      [12, 20, 5, 14].map t.cache = [some 3, some 3, some 4, some 9] ∧
    Always (fun s => s.activity = .idle → Coherent false s)
      (trace (step false) (bound still fun _ => none) (firstPoll ++ flaggedPoll)) t := by
  have hrun : (exec (step false) (bound still fun _ => none) firstPoll).map
        (fun s => (s.forceReadAll, s.activity, s.cache 12, s.lcm.reg 12)) =
          some (false, .idle, none, risen) ∧
      (exec (step false) (bound still fun _ => none) (firstPoll ++ flaggedPoll)).map
        (fun t => (t.forceReadAll, t.activity, [12, 20, 5, 14].map t.cache)) =
          some (false, .idle, [some 3, some 3, some 4, some 9]) ∧
      (trace (step false) (bound still fun _ => none) (firstPoll ++ flaggedPoll)).all
        (fun p => careful false p.1 p.2) = true := by decide +kernel
  obtain ⟨hfirst, hend, hcheck⟩ := hrun
  obtain ⟨s, hs, hsfields⟩ := Option.map_eq_some_iff.mp hfirst
  obtain ⟨t, ht, htfields⟩ := Option.map_eq_some_iff.mp hend
  simp only [Prod.mk.injEq] at hsfields htfields
  obtain ⟨hcleared, hidle, hunread, hrisen⟩ := hsfields
  obtain ⟨hcleared', hidle', hcache⟩ := htfields
  exact ⟨s, t, hs, hcleared, hidle, hunread, hrisen, ht, hcleared', hidle', hcache,
    coherent_of_harmless still _ (exec_run ht) (meets_of_check harmless_of_careful hcheck)⟩

/-- Reads that all fail end the sweep with the cache as it was. -/
theorem exec_failing (newTable : Bool) (s : Link) {remaining : List Nat} (h : remaining ≠ []) :
    exec (step newTable) (s.sweep remaining) (List.replicate remaining.length (.read false)) =
      some s.finish := by
  induction remaining with
  | nil => exact absurd rfl h
  | cons param rest ih =>
    have hnext : step newTable (s.sweep (param :: rest)) (.read false) = some (s.sweep rest) := by
      cases rest <;> rfl
    rw [List.length_cons, List.replicate_succ, exec, hnext, Option.bind_some]
    by_cases hrest : rest = []
    · subst hrest
      rfl
    · exact ih hrest

/-- A forced poll that cannot read the flags. -/
theorem step_poll_forced (newTable : Bool) {s : Link} (h : s.activity = .idle) :
    step newTable s (.poll true false) = some (s.sweep
      ((decodeChangeFlags (pollingTable newTable) 0x7FFFFFFF).filter (fun p => inDatabase p))) := by
  simp only [step, h, Link.poll, Link.readParam, Bool.true_or, if_true, Bool.false_eq_true,
    if_false]

theorem covered_zero : Covered false 0 := ⟨by decide, by decide, 0, by decide, by decide⟩

/-- A first sweep in which every read fails leaves an empty cache, no flags and nothing due. -/
theorem not_always_coherent : ¬ ∀ (newTable : Bool) (lcm : Lcm) (cache : Cache)
    (path : List (Link × Event)) (s : Link), Run (step newTable) (bound lcm cache) path s →
    Always (fun s => s.activity = .idle → Coherent newTable s) path s := by
  intro hall
  have hremaining := mem_forced covered_zero
  have hexec := exec_failing false (bound still (fun _ => none)) (List.ne_nil_of_mem hremaining)
  rw [← Option.bind_some (f := fun t => exec (step false) t _),
    ← step_poll_forced false (s := bound still (fun _ => none)) rfl] at hexec
  have hpoll : exec (step false) (bound still (fun _ => none)) (.poll true false ::
      List.replicate _ (.read false)) = some (bound still (fun _ => none)).finish := hexec
  have hcoherent := (hall false still _ _ _ (exec_run hpoll)).last rfl 0 covered_zero
  rcases hcoherent with hfresh | ⟨bit, -, -, hset⟩ | hforce
  · cases hfresh
  · simp [Link.finish, bound, still] at hset
  · cases hforce

end Runs

end NexyGateway.AhlCache
