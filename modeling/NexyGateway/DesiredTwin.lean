import NexyGateway.LiftProxy
import NexyGateway.PyJson

/-!
# Settings from the desired twin

The cloud can deliver any document as desired properties, and four readers take settings
from it while the loops run. The documents that every reader and every loop survives are
those with objects where members are looked up, and without numbers that do not fit.
-/
namespace NexyGateway.DesiredTwin

open PyNumber PyJson LiftProxy Runs

/-! ### The readers -/

/-- `v.get(key)`, or `v.get(key, otherwise)`. -/
def get (v : Json) (key : String) (otherwise : Json) : Except PyError Json :=
  match v with
  | .dict members => .ok ((members.lookup key).getD otherwise)
  | _ => .error .attributeError

/-- The `try` of a reader: the exceptions it lists lead to the default. -/
def orDefault {α : Type} (caught : List PyError) (default : α) (read : Except PyError α) :
    Except PyError α :=
  match read with
  | .ok v => .ok v
  | .error e => if e ∈ caught then .ok default else .error e

/-- A member that is there and is a positive number. -/
def positive (default : Int) (v : Json) : Except PyError Int :=
  match v with
  | .null => .ok default
  | v => v.toInt.map (fun n => if 0 < n then n else default)

def interval (doc : Json) (key : String) (default : Int) : Except PyError Int := do
  let intervals ← get doc "intervals" (.dict [])
  let value ← get intervals key .null
  positive default value

def defaultOnChangeInterval : Int := 5
def defaultDailyInterval : Int := 86400
def defaultHeartbeatInterval : Int := 900
def downloadMaxBytesDefault : Int := 50 * 1024 * 1024

/-- `LiftProxy._get_interval`; without a handler for the desired properties there is no document. -/
def getInterval (doc : Option Json) (key : String) (default : Int) : Except PyError Int :=
  match doc with
  | none => .ok default
  | some doc =>
    orDefault [.typeError, .valueError, .keyError] default (interval doc key default)

/-- `HeartbeatHandler.get_interval`. -/
def heartbeatInterval (doc : Json) : Except PyError Int :=
  orDefault [.valueError, .typeError, .attributeError] defaultHeartbeatInterval
    (interval doc "cloudAgentHeartbeat" defaultHeartbeatInterval)

/-- `MethodRequestHandler._download_max_bytes`. -/
def downloadMaxBytes (doc : Json) : Except PyError Int :=
  orDefault [.typeError, .valueError, .attributeError] downloadMaxBytesDefault
    ((get doc "downloadMaxBytes" .null).bind (positive downloadMaxBytesDefault))

def defaultOnChangeParams : Lib → List Int
  | .ahl _ => [5, 6, 7, 8, 9, 10, 11, 12, 13, 14, 15, 16, 17, 20, 25, 32, 33, 34, 37, 38, 39, 40, 41,
      42, 43, 60, 97, 99, 100, 101, 107, 108, 109, 111, 353, 357, 360, 362, 364, 375, 376, 377, 378,
      379, 380, 381, 127, 129, 130, 131, 132, 133, 134, 135, 136, 137, 138, 139, 140, 143, 147, 151,
      155, 159, 163, 167, 171, 175, 179, 183, 187, 191, 195, 199, 203, 207, 211, 215, 219, 223, 227,
      231, 235, 239, 243, 247, 251, 255, 259, 263, 267, 271, 275, 279, 283, 287, 291, 295, 299, 303,
      307, 311, 315, 319, 323, 327, 329, 330, 331, 332, 333, 335, 336, 347, 348, 349, 350, 351]
  | .thousand => [10, 11, 46, 47, 48, 49, 50, 51, 52, 53, 54, 55, 58, 59, 60, 61, 62, 63, 64, 65, 97,
      98, 99, 100, 101, 102, 103, 104, 105, 106, 107, 108, 109, 110, 111, 112, 113, 114, 115, 116,
      117, 118, 119, 120, 121, 122, 123, 124, 125, 126, 127, 128, 129, 130, 131, 132, 133, 134, 135,
      136, 137, 138, 139, 140, 141, 142, 143, 145, 152, 153, 154, 161, 162, 163, 164, 165, 166, 167,
      168]

def defaultDailyParams : Lib → List Int
  | .ahl _ => [18, 19, 46, 48, 50, 52, 54, 56, 58, 59, 88, 89, 352]
  | .thousand => [66, 67, 173, 174, 175, 176, 177, 178, 179, 180, 181]

def defaultParams (lib : Lib) (listType : String) : List Int :=
  if listType = "onChange" then defaultOnChangeParams lib else defaultDailyParams lib

/-- The list of the twin, if it has one that is not empty. -/
def twinList (doc : Json) (listType : String) (default : List Int) : Except PyError (List Int) := do
  let paramPush ← get doc "paramPush" (.dict [])
  let twinList ← get paramPush listType .null
  match twinList with
  | .list (p :: rest) => (p :: rest).mapM Json.toInt
  | _ => return default

/-- `LiftProxy._get_param_push_list`. -/
def getParamPushList (doc : Option Json) (lib : Option Lib) (listType : String) :
    Except PyError (List Int) :=
  match lib, doc with
  | none, _ => .ok []
  | some lib, none => .ok (defaultParams lib listType)
  | some lib, some doc =>
    orDefault [.typeError, .valueError, .keyError] (defaultParams lib listType)
      (twinList doc listType (defaultParams lib listType))

/-! ### The loops -/

/-- From here on an integer is too large for a float. -/
def floatLimit : Int := 2 ^ 1024 - 2 ^ 970

/-- `asyncio.sleep`, which adds the delay to the time of the loop. -/
def sleep (delay : Int) : Except PyError Unit :=
  if floatLimit ≤ delay then .error .overflowError else .ok ()

/-- The loops under one `gather`: the first exception that comes out of one ends all of them. -/
structure Loops where
  lib : Option Lib := none
  ended : Option PyError := none
  /-- Changes that a poll has returned and that got through to the push list, or did not. -/
  pushed : List (List Int) := []
  dropped : List (List Int) := []

inductive LoopEvent where
  | bind (lib : Lib)
  /-- A cycle of `_polling_loop`, with what `poll_params` comes to. -/
  | pollCycle (polled : Except PyError (List Int))
  | dailyCycle
  | heartbeat

/-- A loop goes to sleep for the interval that it reads; nothing catches what that raises. -/
def Loops.sleepFor (interval : Except PyError Int) (s : Loops) : Loops :=
  match interval.bind sleep with
  | .ok () => s
  | .error e => { s with ended := some e }

/-- The body of a polling cycle, with everything that it raises caught. -/
def Loops.push (doc : Json) (polled : Except PyError (List Int)) (s : Loops) : Loops :=
  match polled with
  | .error _ => s
  | .ok [] => s
  | .ok changed =>
    match getParamPushList (some doc) s.lib "onChange" with
    | .error _ => { s with dropped := s.dropped ++ [changed] }
    | .ok pushList => { s with pushed := s.pushed ++ [changed.filter (fun p => p ∈ pushList)] }

def loopStep (doc : Json) (s : Loops) (e : LoopEvent) : Option Loops :=
  if s.ended.isSome then none
  else
    match e with
    | .bind lib => some { s with lib := some lib }
    | .pollCycle polled =>
      some ((s.push doc polled).sleepFor
        (getInterval (some doc) "liftAgentPolling" defaultOnChangeInterval))
    | .dailyCycle =>
      some (s.sleepFor (getInterval (some doc) "dailyTimer" defaultDailyInterval))
    | .heartbeat => some (s.sleepFor (heartbeatInterval doc))

/-! ### The documents -/

/-- A number that `int` does not convert. -/
def Infinite (v : Json) : Prop := ∃ negative, v = .float (.infinite negative)

/-- Whatever else the value is, it leads to the default. -/
def Usable (v : Json) : Prop := ¬ Infinite v ∧ ∀ n, v.toInt = .ok n → n < floatLimit

/-- The first item that is no integer is an infinite number. -/
def Overflows (items : List Json) : Prop :=
  ∃ before p after, items = before ++ p :: after ∧ (∀ v ∈ before, ∃ n, v.toInt = .ok n) ∧ Infinite p

/-- What the loops read about their intervals. -/
def loopIntervals : List String := ["liftAgentPolling", "dailyTimer", "cloudAgentHeartbeat"]

def pushLists : List String := ["onChange", "daily"]

/-- Objects where members are looked up, and numbers that fit where they are converted. -/
def Benign (doc : Json) : Prop :=
  ∃ members, doc = .dict members ∧
    (∀ v, members.lookup "intervals" = some v → ∃ intervals, v = .dict intervals ∧
      ∀ key ∈ loopIntervals, ∀ value, intervals.lookup key = some value → Usable value) ∧
    (∀ v, members.lookup "downloadMaxBytes" = some v → ¬ Infinite v) ∧
    (∀ v, members.lookup "paramPush" = some v → ∃ lists, v = .dict lists ∧
      ∀ key ∈ pushLists, ∀ items, lists.lookup key = some (.list items) → ¬ Overflows items)

/-- The result of a reader is a positive number. -/
def Positive (read : Except PyError Int) : Prop := ∃ n, read = .ok n ∧ 0 < n

/-- A loop can sleep for it, too. -/
def Sleeps (read : Except PyError Int) : Prop := ∃ n, read = .ok n ∧ 0 < n ∧ n < floatLimit

/-- Every reader comes back with a value of its type. -/
structure ReadersTotal (doc : Json) : Prop where
  polling : Positive (getInterval (some doc) "liftAgentPolling" defaultOnChangeInterval)
  daily : Positive (getInterval (some doc) "dailyTimer" defaultDailyInterval)
  heartbeat : Positive (heartbeatInterval doc)
  download : Positive (downloadMaxBytes doc)
  pushList : ∀ lib, ∀ listType ∈ pushLists, ∃ ids, getParamPushList (some doc) lib listType = .ok ids

/-- Every reader comes back, no loop ends, and no change that a poll has returned is dropped. -/
def TwinSafe (doc : Json) : Prop :=
  ReadersTotal doc ∧ ∀ path t, Run (loopStep doc) {} path t →
    Always (fun s => s.ended = none ∧ s.dropped = []) path t

section Values

theorem toInt_error {v : Json} {e : PyError} (h : v.toInt = .error e) :
    e = .typeError ∨ e = .valueError ∨ e = .overflowError ∧ Infinite v := by
  cases v with
  | float x =>
    cases x with
    | finite q => cases h
    | infinite negative => exact .inr (.inr ⟨by cases h; rfl, negative, rfl⟩)
    | nan => exact .inr (.inl (by cases h; rfl))
  | str s =>
    simp only [Json.toInt] at h
    split at h
    · cases h
    · exact .inr (.inl (by cases h; rfl))
  | null | list | dict => exact .inl (by cases h; rfl)
  | bool | int => cases h

theorem toInt_infinite {v : Json} (h : Infinite v) : v.toInt = .error .overflowError := by
  obtain ⟨negative, rfl⟩ := h
  rfl

/-- A reader that catches what `int` raises, apart from an overflow. -/
structure Catches (caught : List PyError) : Prop where
  type : .typeError ∈ caught
  value : .valueError ∈ caught
  overflow : .overflowError ∉ caught

variable {caught : List PyError} {default : Int}

theorem orDefault_overflow {α : Type} {default : α} (hc : Catches caught) :
    orDefault caught default (.error .overflowError) = .error .overflowError :=
  if_neg hc.overflow

/-- What becomes of a member: an overflow, or a number at least as large as what it says. -/
theorem positive_cases (hc : Catches caught) (hd : 0 < default) (v : Json) :
    (Infinite v ∧ orDefault caught default (positive default v) = .error .overflowError) ∨
    (¬ Infinite v ∧ ∃ n, orDefault caught default (positive default v) = .ok n ∧ 0 < n ∧
      (n = default ∨ v.toInt = .ok n) ∧ ∀ m, v.toInt = .ok m → m ≤ n) := by
  by_cases hnull : v = .null
  · subst hnull
    refine .inr ⟨by simp [Infinite], default, rfl, hd, .inl rfl, ?_⟩
    intro m hm
    cases hm
  · have hread : positive default v = v.toInt.map (fun n => if 0 < n then n else default) := by
      cases v with
      | null => exact absurd rfl hnull
      | _ => rfl
    rw [hread]
    cases hint : v.toInt with
    | error e =>
      rcases toInt_error hint with rfl | rfl | ⟨rfl, hinf⟩
      · refine .inr ⟨?_, default, if_pos hc.type, hd, .inl rfl, by simp⟩
        intro hinf
        rw [toInt_infinite hinf] at hint
        cases hint
      · refine .inr ⟨?_, default, if_pos hc.value, hd, .inl rfl, by simp⟩
        intro hinf
        rw [toInt_infinite hinf] at hint
        cases hint
      · exact .inl ⟨hinf, orDefault_overflow hc⟩
    | ok m =>
      have hfinite : ¬ Infinite v := by
        intro hinf
        rw [toInt_infinite hinf] at hint
        cases hint
      refine .inr ⟨hfinite, ?_⟩
      by_cases hpos : 0 < m
      · refine ⟨m, by simp [orDefault, Except.map, hpos], hpos, .inr rfl, ?_⟩
        intro m' hm'
        cases hm'
        exact Int.le_refl m
      · refine ⟨default, by simp [orDefault, Except.map, hpos], hd, .inl rfl, ?_⟩
        intro m' hm'
        cases hm'
        omega

theorem positive_iff (hc : Catches caught) (hd : 0 < default) (v : Json) :
    Positive (orDefault caught default (positive default v)) ↔ ¬ Infinite v := by
  rcases positive_cases hc hd v with ⟨hinf, hread⟩ | ⟨hfinite, n, hread, hn, -⟩
  · rw [hread]
    exact iff_of_false (by simp [Positive]) (not_not_intro hinf)
  · exact iff_of_true ⟨n, hread, hn⟩ hfinite

theorem sleeps_iff (hc : Catches caught) (hd : 0 < default) (hl : default < floatLimit)
    (v : Json) : Sleeps (orDefault caught default (positive default v)) ↔ Usable v := by
  rcases positive_cases hc hd v with ⟨hinf, hread⟩ | ⟨hfinite, n, hread, hn, heq, hle⟩
  · rw [hread]
    exact iff_of_false (by simp [Sleeps]) (fun h => h.1 hinf)
  · rw [hread]
    constructor
    · rintro ⟨n', hn', -, hlimit⟩
      cases hn'
      refine ⟨hfinite, ?_⟩
      intro m hm
      have := hle m hm
      omega
    · rintro ⟨-, hfits⟩
      refine ⟨n, rfl, hn, ?_⟩
      rcases heq with rfl | hint
      · exact hl
      · exact hfits n hint

end Values

section Readers

variable {caught : List PyError} {default : Int} {doc : Json} {key : String}

theorem floatLimit_large : (86400 : Int) < floatLimit := by decide +kernel

/-- The value of a member, `None` when there is none. -/
def valueOf (members : Dict) (key : String) : Json := (members.lookup key).getD .null

theorem usable_valueOf (members : Dict) (key : String) :
    Usable (valueOf members key) ↔ ∀ value, members.lookup key = some value → Usable value := by
  unfold valueOf
  cases members.lookup key with
  | none => simp [Usable, Infinite, Json.toInt]
  | some value => simp

/-- The object that the intervals are looked up in. -/
def Intervals (doc : Json) (intervals : Dict) : Prop :=
  ∃ members, doc = .dict members ∧ (members.lookup "intervals").getD (.dict []) = .dict intervals

theorem interval_of_intervals {intervals : Dict} (h : Intervals doc intervals) (key : String)
    (default : Int) : interval doc key default = positive default (valueOf intervals key) := by
  obtain ⟨members, rfl, hintervals⟩ := h
  simp [interval, get, hintervals, bind, Except.bind, valueOf]

theorem interval_of_none (h : ∀ intervals, ¬ Intervals doc intervals) (key : String)
    (default : Int) : interval doc key default = .error .attributeError := by
  cases doc with
  | dict members =>
    cases hintervals : (members.lookup "intervals").getD (.dict []) with
    | dict intervals => exact absurd ⟨members, rfl, hintervals⟩ (h intervals)
    | _ => simp [interval, get, hintervals, bind, Except.bind]
  | _ => rfl

theorem Intervals.unique {intervals intervals' : Dict} (h : Intervals doc intervals)
    (h' : Intervals doc intervals') : intervals' = intervals := by
  obtain ⟨members, rfl, hi⟩ := h
  obtain ⟨members', hdoc, hi'⟩ := h'
  cases hdoc
  rw [hi] at hi'
  exact (Json.dict.inj hi').symm

theorem catches_getInterval : Catches [.typeError, .valueError, .keyError] := by
  constructor <;> decide

theorem catches_others : Catches [.valueError, .typeError, .attributeError] := by
  constructor <;> decide

theorem catches_downloadMaxBytes : Catches [.typeError, .valueError, .attributeError] := by
  constructor <;> decide

theorem sleeps_getInterval_iff (hd : 0 < default) (hl : default < floatLimit) :
    Sleeps (getInterval (some doc) key default) ↔
      ∃ intervals, Intervals doc intervals ∧ Usable (valueOf intervals key) := by
  unfold getInterval
  simp only
  by_cases h : ∃ intervals, Intervals doc intervals
  · obtain ⟨intervals, hi⟩ := h
    rw [interval_of_intervals hi, sleeps_iff catches_getInterval hd hl]
    constructor
    · exact fun husable => ⟨intervals, hi, husable⟩
    · rintro ⟨intervals', hi', husable⟩
      rw [hi.unique hi'] at husable
      exact husable
  · rw [not_exists] at h
    rw [interval_of_none h]
    refine iff_of_false ?_ (fun ⟨intervals, hi, _⟩ => h intervals hi)
    rintro ⟨n, hn, -⟩
    cases hn

theorem sleeps_heartbeatInterval_iff : Sleeps (heartbeatInterval doc) ↔
    ∀ intervals, Intervals doc intervals → Usable (valueOf intervals "cloudAgentHeartbeat") := by
  have hl : defaultHeartbeatInterval < floatLimit := Int.lt_trans (by decide) floatLimit_large
  unfold heartbeatInterval
  by_cases h : ∃ intervals, Intervals doc intervals
  · obtain ⟨intervals, hi⟩ := h
    rw [interval_of_intervals hi, sleeps_iff catches_others (by decide) hl]
    constructor
    · intro husable intervals' hi'
      rw [hi.unique hi']
      exact husable
    · exact fun husable => husable intervals hi
  · rw [not_exists] at h
    rw [interval_of_none h]
    refine iff_of_true ⟨defaultHeartbeatInterval, rfl, by decide, hl⟩ ?_
    exact fun intervals hi => absurd hi (h intervals)

theorem positive_downloadMaxBytes_iff : Positive (downloadMaxBytes doc) ↔
    ∀ members v, doc = .dict members → members.lookup "downloadMaxBytes" = some v →
      ¬ Infinite v := by
  unfold downloadMaxBytes
  cases doc with
  | dict members =>
    have hread : (get (.dict members) "downloadMaxBytes" .null).bind
        (positive downloadMaxBytesDefault) =
          positive downloadMaxBytesDefault (valueOf members "downloadMaxBytes") := rfl
    rw [hread, positive_iff catches_downloadMaxBytes (by decide)]
    unfold valueOf
    constructor
    · rintro hfinite members' v ⟨⟩ hv
      rw [hv] at hfinite
      exact hfinite
    · intro h
      cases hv : members.lookup "downloadMaxBytes" with
      | none => simp [Infinite]
      | some v => exact h members v rfl hv
  | _ => exact iff_of_true ⟨downloadMaxBytesDefault, rfl, by decide⟩ (by simp)

theorem overflows_cons (v : Json) (items : List Json) : Overflows (v :: items) ↔
    Infinite v ∨ (∃ n, v.toInt = .ok n) ∧ Overflows items := by
  constructor
  · rintro ⟨before, p, after, heq, hbefore, hp⟩
    cases before with
    | nil =>
      cases heq
      exact .inl hp
    | cons w before =>
      cases heq
      obtain ⟨hv, hrest⟩ := List.forall_mem_cons.mp hbefore
      exact .inr ⟨hv, before, p, after, rfl, hrest, hp⟩
  · rintro (hv | ⟨hv, before, p, after, rfl, hbefore, hp⟩)
    · exact ⟨[], v, items, rfl, by simp, hv⟩
    · exact ⟨v :: before, p, after, rfl, List.forall_mem_cons.mpr ⟨hv, hbefore⟩, hp⟩

/-- The first item that does not convert decides what becomes of a list. -/
theorem mapM_toInt_cases (items : List Json) :
    (∃ ids, items.mapM Json.toInt = .ok ids ∧ ¬ Overflows items) ∨
    (∃ e, items.mapM Json.toInt = .error e ∧ (e = .typeError ∨ e = .valueError) ∧
      ¬ Overflows items) ∨
    (items.mapM Json.toInt = .error .overflowError ∧ Overflows items) := by
  induction items with
  | nil =>
    refine .inl ⟨[], rfl, ?_⟩
    rintro ⟨before, p, after, heq, -⟩
    simp at heq
  | cons v items ih =>
    rw [List.mapM_cons, overflows_cons]
    cases hint : v.toInt with
    | error e =>
      rcases toInt_error hint with rfl | rfl | ⟨rfl, hinf⟩
      · refine .inr (.inl ⟨_, rfl, .inl rfl, ?_⟩)
        rintro (hinf | ⟨⟨n, hn⟩, -⟩)
        · rw [toInt_infinite hinf] at hint
          cases hint
        · cases hn
      · refine .inr (.inl ⟨_, rfl, .inr rfl, ?_⟩)
        rintro (hinf | ⟨⟨n, hn⟩, -⟩)
        · rw [toInt_infinite hinf] at hint
          cases hint
        · cases hn
      · exact .inr (.inr ⟨rfl, .inl hinf⟩)
    | ok n =>
      have hrest : (Infinite v ∨ (∃ m, (Except.ok n : Except PyError Int) = .ok m) ∧
          Overflows items) ↔ Overflows items := by
        constructor
        · rintro (hinf | ⟨-, h⟩)
          · rw [toInt_infinite hinf] at hint
            cases hint
          · exact h
        · exact fun h => .inr ⟨⟨n, rfl⟩, h⟩
      rw [hrest]
      rcases ih with ⟨ids, hids, hno⟩ | ⟨e, he, hkind, hno⟩ | ⟨he, hover⟩
      · exact .inl ⟨n :: ids, by rw [hids]; rfl, hno⟩
      · exact .inr (.inl ⟨e, by rw [he]; rfl, hkind, hno⟩)
      · exact .inr (.inr ⟨by rw [he]; rfl, hover⟩)

/-- The object that the push lists are looked up in. -/
def PushLists (doc : Json) (lists : Dict) : Prop :=
  ∃ members, doc = .dict members ∧ (members.lookup "paramPush").getD (.dict []) = .dict lists

theorem PushLists.unique {lists lists' : Dict} (h : PushLists doc lists)
    (h' : PushLists doc lists') : lists' = lists := by
  obtain ⟨members, rfl, hl⟩ := h
  obtain ⟨members', hdoc, hl'⟩ := h'
  cases hdoc
  rw [hl] at hl'
  exact (Json.dict.inj hl').symm

theorem twinList_of_none (h : ∀ lists, ¬ PushLists doc lists) (listType : String)
    (default : List Int) : twinList doc listType default = .error .attributeError := by
  cases doc with
  | dict members =>
    cases hlists : (members.lookup "paramPush").getD (.dict []) with
    | dict lists => exact absurd ⟨members, rfl, hlists⟩ (h lists)
    | _ => simp [twinList, get, hlists, bind, Except.bind]
  | _ => rfl

/-- A list of the twin is taken over or replaced, unless one of its items overflows. -/
theorem twinList_cases {lists : Dict} (h : PushLists doc lists) (listType : String)
    (default : List Int) :
    ((∃ ids, orDefault [.typeError, .valueError, .keyError] default
        (twinList doc listType default) = .ok ids) ∧
      ∀ items, lists.lookup listType = some (.list items) → ¬ Overflows items) ∨
    (orDefault [.typeError, .valueError, .keyError] default (twinList doc listType default) =
        .error .overflowError ∧
      ∃ items, lists.lookup listType = some (.list items) ∧ Overflows items) := by
  obtain ⟨members, rfl, hlists⟩ := h
  have hread : twinList (.dict members) listType default =
      match valueOf lists listType with
      | .list (p :: rest) => (p :: rest).mapM Json.toInt
      | _ => .ok default := by
    simp only [twinList, get, hlists, bind, Except.bind, valueOf]
    rfl
  rw [hread]
  unfold valueOf
  cases hvalue : lists.lookup listType with
  | none => exact .inl ⟨⟨default, rfl⟩, by simp⟩
  | some v =>
    cases v with
    | list items =>
      cases items with
      | nil =>
        refine .inl ⟨⟨default, rfl⟩, ?_⟩
        rintro items ⟨⟩ ⟨before, p, after, heq, -⟩
        simp at heq
      | cons p rest =>
        simp only [Option.getD_some]
        rcases mapM_toInt_cases (p :: rest) with ⟨ids, hids, hno⟩ | ⟨e, he, hkind, hno⟩ |
          ⟨he, hover⟩
        · rw [hids]
          exact .inl ⟨⟨ids, rfl⟩, by rintro items ⟨⟩; exact hno⟩
        · rw [he]
          refine .inl ⟨⟨default, ?_⟩, by rintro items ⟨⟩; exact hno⟩
          rcases hkind with rfl | rfl <;> rfl
        · rw [he]
          exact .inr ⟨rfl, p :: rest, rfl, hover⟩
    | _ => exact .inl ⟨⟨default, rfl⟩, by simp⟩

theorem getParamPushList_ok_iff (lib : Lib) (listType : String) :
    (∃ ids, getParamPushList (some doc) (some lib) listType = .ok ids) ↔
      ∃ lists, PushLists doc lists ∧
        ∀ items, lists.lookup listType = some (.list items) → ¬ Overflows items := by
  unfold getParamPushList
  simp only
  by_cases h : ∃ lists, PushLists doc lists
  · obtain ⟨lists, hl⟩ := h
    rcases twinList_cases hl listType (defaultParams lib listType) with
      ⟨hok, hno⟩ | ⟨he, items, hitems, hover⟩
    · exact iff_of_true hok ⟨lists, hl, hno⟩
    · rw [he]
      refine iff_of_false (by simp) ?_
      rintro ⟨lists', hl', hno⟩
      rw [hl.unique hl'] at hno
      exact hno items hitems hover
  · rw [not_exists] at h
    rw [twinList_of_none h]
    refine iff_of_false ?_ (fun ⟨lists, hl, _⟩ => h lists hl)
    rintro ⟨ids, hids⟩
    cases hids

end Readers

section Loops

variable {doc : Json} {s t : Loops}

theorem Positive.of_sleeps {read : Except PyError Int} (h : Sleeps read) : Positive read := by
  obtain ⟨n, hread, hn, -⟩ := h
  exact ⟨n, hread, hn⟩

/-- A loop that sleeps goes on, and one that reads a positive number and goes on has slept. -/
theorem sleepFor_ended_iff {read : Except PyError Int} (h : Positive read)
    (hs : s.ended = none) : (s.sleepFor read).ended = none ↔ Sleeps read := by
  obtain ⟨n, rfl, hn⟩ := h
  unfold Loops.sleepFor Sleeps
  by_cases hlimit : floatLimit ≤ n
  · have hbind : (Except.ok n : Except PyError Int).bind sleep = .error .overflowError :=
      if_pos hlimit
    rw [hbind]
    refine iff_of_false (by simp) ?_
    rintro ⟨m, ⟨⟩, -, hm⟩
    omega
  · have hbind : (Except.ok n : Except PyError Int).bind sleep = .ok () := if_neg hlimit
    rw [hbind]
    exact iff_of_true hs ⟨n, rfl, hn, by omega⟩

theorem sleepFor_dropped (read : Except PyError Int) (s : Loops) :
    (s.sleepFor read).dropped = s.dropped := by
  unfold Loops.sleepFor
  split <;> rfl

/-- What keeps all loops going. -/
structure AllSleep (doc : Json) : Prop where
  polling : Sleeps (getInterval (some doc) "liftAgentPolling" defaultOnChangeInterval)
  daily : Sleeps (getInterval (some doc) "dailyTimer" defaultDailyInterval)
  heartbeat : Sleeps (heartbeatInterval doc)

theorem push_kept (h : ReadersTotal doc) (polled : Except PyError (List Int)) (s : Loops) :
    (s.push doc polled).ended = s.ended ∧ (s.push doc polled).dropped = s.dropped := by
  unfold Loops.push
  split
  · exact ⟨rfl, rfl⟩
  · exact ⟨rfl, rfl⟩
  · obtain ⟨ids, hids⟩ := h.pushList s.lib "onChange" (by decide)
    rw [hids]
    exact ⟨rfl, rfl⟩

theorem loopStep_safe (h : ReadersTotal doc) (hsleep : AllSleep doc) {e : LoopEvent}
    (hs : s.ended = none ∧ s.dropped = []) (hstep : loopStep doc s e = some t) :
    t.ended = none ∧ t.dropped = [] := by
  have hrunning : ¬ s.ended.isSome = true := by simp [hs.1]
  unfold loopStep at hstep
  rw [if_neg hrunning] at hstep
  cases e with
  | bind lib =>
    cases hstep
    exact hs
  | pollCycle polled =>
    cases hstep
    obtain ⟨hended, hdropped⟩ := push_kept h polled s
    refine ⟨(sleepFor_ended_iff h.polling (hended.trans hs.1)).mpr hsleep.polling, ?_⟩
    rw [sleepFor_dropped, hdropped, hs.2]
  | dailyCycle =>
    cases hstep
    refine ⟨(sleepFor_ended_iff h.daily hs.1).mpr hsleep.daily, ?_⟩
    rw [sleepFor_dropped, hs.2]
  | heartbeat =>
    cases hstep
    refine ⟨(sleepFor_ended_iff h.heartbeat hs.1).mpr hsleep.heartbeat, ?_⟩
    rw [sleepFor_dropped, hs.2]

/-- The loops survive a document exactly if they can sleep for every interval that is read. -/
theorem twinSafe_iff_allSleep : TwinSafe doc ↔ ReadersTotal doc ∧ AllSleep doc := by
  constructor
  · rintro ⟨hreaders, hruns⟩
    have hsleeps : ∀ e read, Positive read → loopStep doc {} e = some (({} : Loops).sleepFor read) →
        Sleeps read := by
      intro e read hread hstep
      exact (sleepFor_ended_iff hread rfl).mp (hruns _ _ (.cons hstep (.nil _))).last.1
    refine ⟨hreaders, ?_, ?_, ?_⟩
    · exact hsleeps (.pollCycle (.ok [])) _ hreaders.polling rfl
    · exact hsleeps .dailyCycle _ hreaders.daily rfl
    · exact hsleeps .heartbeat _ hreaders.heartbeat rfl
  · rintro ⟨hreaders, hsleep⟩
    refine ⟨hreaders, ?_⟩
    intro path t r
    exact r.inductive_invariant (fun _ _ _ hs hstep => loopStep_safe hreaders hsleep hs hstep)
      ⟨rfl, rfl⟩

end Loops

/-- The looked-up object is the one that is there, or an empty one. -/
theorem lookup_getD_dict {members : Dict} {key : String} {P : Dict → Prop} (hempty : P []) :
    (∃ inner, (members.lookup key).getD (.dict []) = .dict inner ∧ P inner) ↔
      ∀ v, members.lookup key = some v → ∃ inner, v = .dict inner ∧ P inner := by
  cases members.lookup key with
  | none =>
    refine iff_of_true ⟨[], rfl, hempty⟩ ?_
    intro v hv
    cases hv
  | some v => simp

/-- The intervals of a document are looked up in an object, and a loop can sleep for each. -/
theorem allSleep_iff {doc : Json} : AllSleep doc ↔ ∃ members, doc = .dict members ∧
    ∀ v, members.lookup "intervals" = some v → ∃ intervals, v = .dict intervals ∧
      ∀ key ∈ loopIntervals, ∀ value, intervals.lookup key = some value → Usable value := by
  have hkeys : ∀ intervals : Dict, (∀ key ∈ loopIntervals, ∀ value,
      intervals.lookup key = some value → Usable value) ↔
      Usable (valueOf intervals "liftAgentPolling") ∧ Usable (valueOf intervals "dailyTimer") ∧
        Usable (valueOf intervals "cloudAgentHeartbeat") := by
    intro intervals
    simp only [usable_valueOf, loopIntervals, List.forall_mem_cons, List.not_mem_nil,
      false_imp_iff, implies_true, and_true]
  have hunder : (∃ members, doc = .dict members ∧
      ∀ v, members.lookup "intervals" = some v → ∃ intervals, v = .dict intervals ∧
        ∀ key ∈ loopIntervals, ∀ value, intervals.lookup key = some value → Usable value) ↔
      ∃ intervals, Intervals doc intervals ∧ Usable (valueOf intervals "liftAgentPolling") ∧
        Usable (valueOf intervals "dailyTimer") ∧
        Usable (valueOf intervals "cloudAgentHeartbeat") := by
    constructor
    · rintro ⟨members, rfl, hall⟩
      obtain ⟨intervals, hi, husable⟩ := (lookup_getD_dict (by simp)).mpr hall
      exact ⟨intervals, ⟨members, rfl, hi⟩, (hkeys intervals).mp husable⟩
    · rintro ⟨intervals, ⟨members, rfl, hi⟩, husable⟩
      exact ⟨members, rfl, (lookup_getD_dict (by simp)).mp
        ⟨intervals, hi, (hkeys intervals).mpr husable⟩⟩
  rw [hunder]
  have hdaily : defaultDailyInterval < floatLimit := floatLimit_large
  have hpolling : defaultOnChangeInterval < floatLimit :=
    Int.lt_trans (by decide) floatLimit_large
  constructor
  · rintro ⟨h, h', h''⟩
    obtain ⟨intervals, hi, husable⟩ := (sleeps_getInterval_iff (by decide) hpolling).mp h
    obtain ⟨intervals', hi', husable'⟩ := (sleeps_getInterval_iff (by decide) hdaily).mp h'
    rw [hi.unique hi'] at husable'
    exact ⟨intervals, hi, husable, husable', sleeps_heartbeatInterval_iff.mp h'' intervals hi⟩
  · rintro ⟨intervals, hi, h, h', h''⟩
    refine ⟨(sleeps_getInterval_iff (by decide) hpolling).mpr ⟨intervals, hi, h⟩,
      (sleeps_getInterval_iff (by decide) hdaily).mpr ⟨intervals, hi, h'⟩,
      sleeps_heartbeatInterval_iff.mpr ?_⟩
    intro intervals' hi'
    rw [hi.unique hi']
    exact h''

/-- The push lists of a document are looked up in an object, and none of them overflows. -/
theorem pushLists_iff {members : Dict} :
    (∀ lib, ∀ listType ∈ pushLists, ∃ ids,
      getParamPushList (some (.dict members)) lib listType = .ok ids) ↔
    ∀ v, members.lookup "paramPush" = some v → ∃ lists, v = .dict lists ∧
      ∀ key ∈ pushLists, ∀ items, lists.lookup key = some (.list items) → ¬ Overflows items := by
  rw [← lookup_getD_dict (by simp)]
  constructor
  · intro h
    obtain ⟨lists, ⟨members', hdoc, hl⟩, hno⟩ :=
      (getParamPushList_ok_iff .thousand "onChange").mp (h _ "onChange" (by decide))
    cases hdoc
    refine ⟨lists, hl, ?_⟩
    intro key hkey
    obtain ⟨lists', hl', hno'⟩ := (getParamPushList_ok_iff .thousand key).mp (h _ key hkey)
    rw [← (PushLists.unique ⟨members, rfl, hl⟩ hl')]
    exact hno'
  · rintro ⟨lists, hl, hno⟩ lib listType hmem
    cases lib with
    | none => exact ⟨[], rfl⟩
    | some lib =>
      exact (getParamPushList_ok_iff lib listType).mpr
        ⟨lists, ⟨members, rfl, hl⟩, hno listType hmem⟩

/-- No document stops a loop, makes a reader raise or drops changes, exactly if it is benign. -/
theorem twinSafe_iff_benign (doc : Json) : TwinSafe doc ↔ Benign doc := by
  rw [twinSafe_iff_allSleep]
  constructor
  · rintro ⟨hreaders, hsleep⟩
    obtain ⟨members, rfl, hintervals⟩ := allSleep_iff.mp hsleep
    refine ⟨members, rfl, hintervals, ?_, pushLists_iff.mp hreaders.pushList⟩
    intro v hv
    exact positive_downloadMaxBytes_iff.mp hreaders.download members v rfl hv
  · rintro ⟨members, rfl, hintervals, hdownload, hlists⟩
    have hsleep := allSleep_iff.mpr ⟨members, rfl, hintervals⟩
    refine ⟨⟨.of_sleeps hsleep.polling, .of_sleeps hsleep.daily, .of_sleeps hsleep.heartbeat, ?_,
      pushLists_iff.mpr hlists⟩, hsleep⟩
    rw [positive_downloadMaxBytes_iff]
    rintro members' v ⟨⟩ hv
    exact hdownload v hv

/-- `{"intervals": {"liftAgentPolling": 1e999}}` is infinite for the decoder. -/
theorem not_twinSafe_infinite : ¬ TwinSafe
    (.dict [("intervals", .dict [("liftAgentPolling", .float (.infinite false))])]) := by
  rintro ⟨⟨⟨n, hn, -⟩, -, -, -, -⟩, -⟩
  have hraised : getInterval (some (.dict [("intervals",
      .dict [("liftAgentPolling", .float (.infinite false))])])) "liftAgentPolling"
        defaultOnChangeInterval = .error .overflowError := by rfl
  rw [hraised] at hn
  cases hn

end NexyGateway.DesiredTwin
