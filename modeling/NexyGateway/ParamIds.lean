import NexyGateway.DesiredTwin
import Mathlib.Data.Int.Range

/-!
# Ids of a read request

`la.read.parameters` names its parameters in an array, in a range, or in both. The request comes
from the cloud, so `_collect_param_ids` has to bound what it builds from it.
-/
namespace NexyGateway.ParamIds

open PyNumber PyJson DesiredTwin

def maxParamIds : Nat := 1024

/-- The ids so far, and the length of the longest list or range that was built for them. -/
structure Build where
  ids : List Int := []
  longest : Nat := 0
  deriving DecidableEq, Repr

/-- `ids.append(n)` -/
def Build.append (b : Build) (n : Int) : Build where
  ids := b.ids ++ [n]
  longest := max b.longest (b.ids.length + 1)

/-- `ids.extend(range(lo, hi + 1))` -/
def Build.extend (b : Build) (lo hi : Int) : Build where
  ids := b.ids ++ Int.range lo (hi + 1)
  longest := max b.longest
    (max (Int.range lo (hi + 1)).length (b.ids.length + (Int.range lo (hi + 1)).length))

/-- How a part of the `try` block is left. -/
inductive Exit where
  | done
  | returnNone
  | raised (e : PyError)
  deriving DecidableEq, Repr

/-- `for p in params: ids.append(int(p))` -/
def appendAll (b : Build) : List Json → Exit × Build
  | [] => (.done, b)
  | p :: rest =>
    match p.toInt with
    | .ok n => appendAll (b.append n) rest
    | .error e => (.raised e, b)

def collectParameters (payload : Dict) : Exit × Build :=
  match (payload.lookup "parameters").getD (.list []) with
  | .null => (.done, {})
  | .list params => if maxParamIds < params.length then (.returnNone, {}) else appendAll {} params
  | _ => (.returnNone, {})

def collectRange (payload : Dict) (b : Build) : Exit × Build :=
  match payload.lookup "from", payload.lookup "to" with
  | some start, some stop =>
    match start.toInt, stop.toInt with
    | .ok lo, .ok hi =>
      if maxParamIds < b.ids.length + max 0 (hi - lo + 1) then (.returnNone, b)
      else (.done, b.extend lo hi)
    | .error e, _ => (.raised e, b)
    | .ok _, .error e => (.raised e, b)
  | _, _ => (.done, b)

/-- The `try` block. -/
def collectIds (payload : Dict) : Exit × Build :=
  match collectParameters payload with
  | (.done, b) => collectRange payload b
  | stopped => stopped

/-- The result, and what has been built on the way. -/
def collectParamIds : Json → Except PyError (Option (List Int)) × Build
  | .dict payload =>
    match collectIds payload with
    | (.done, b) => (.ok (if maxParamIds < b.ids.length ∨ b.ids = [] then none else some b.ids), b)
    | (.returnNone, b) => (.ok none, b)
    | (.raised e, b) => (if e = .typeError ∨ e = .valueError then .ok none else .error e, b)
  | _ => (.ok none, {})

/-! ## What a request asks for -/

/-- The elements of the array, none where it is missing. -/
inductive Given (payload : Dict) : List Json → Prop
  | missing : payload.lookup "parameters" = none → Given payload []
  | null : payload.lookup "parameters" = some .null → Given payload []
  | list (params : List Json) : payload.lookup "parameters" = some (.list params) →
      Given payload params

/-- The numbers from the first bound to the second, where both bounds are given. -/
inductive Spanned (payload : Dict) : List Int → Prop
  | noStart : payload.lookup "from" = none → Spanned payload []
  | noStop : payload.lookup "to" = none → Spanned payload []
  | span (start stop : Json) (lo hi : Int) : payload.lookup "from" = some start →
      payload.lookup "to" = some stop → start.toInt = .ok lo → stop.toInt = .ok hi →
      Spanned payload (Int.range lo (hi + 1))

/-- The integers that the elements stand for, and then the span. -/
def Asks (payload : Json) (ids : List Int) : Prop :=
  ∃ members params images span, payload = .dict members ∧ Given members params ∧
    params.mapM Json.toInt = .ok images ∧ Spanned members span ∧ ids = images ++ span

structure Bounded (payload : Json) : Prop where
  total : ∃ reply, (collectParamIds payload).1 = .ok reply
  sound : ∀ ids, (collectParamIds payload).1 = .ok (some ids) →
    Asks payload ids ∧ 1 ≤ ids.length ∧ ids.length ≤ 1024
  complete : ∀ ids, Asks payload ids → 1 ≤ ids.length → ids.length ≤ 1024 →
    (collectParamIds payload).1 = .ok (some ids)
  small : (collectParamIds payload).2.longest ≤ 1024

/-- An infinite number is converted: in an array that is not too long, behind elements that
convert, or as a bound behind an array that converts. -/
def ConvertsInfinity (payload : Json) : Prop :=
  ∃ members params, payload = .dict members ∧ Given members params ∧ params.length ≤ 1024 ∧
    (Overflows params ∨ (∃ images, params.mapM Json.toInt = .ok images) ∧
      ∃ start stop, members.lookup "from" = some start ∧ members.lookup "to" = some stop ∧
        (Infinite start ∨ (∃ lo, start.toInt = .ok lo) ∧ Infinite stop))

section Collecting

theorem length_range (lo hi : Int) :
    (Int.range lo (hi + 1)).length = (max 0 (hi - lo + 1)).toNat := by
  simp only [Int.range, List.length_map, List.length_range]
  omega

/-- How the loop is left, by what becomes of its elements. -/
def exitOf : Except PyError (List Int) → Exit
  | .ok _ => .done
  | .error e => .raised e

/-- The loop ends with the images of the elements, or at the first one that has none. -/
theorem appendAll_eq (b : Build) (params : List Json) (hb : b.longest ≤ b.ids.length) :
    ∃ b', appendAll b params = (exitOf (params.mapM Json.toInt), b') ∧
      b'.longest ≤ b'.ids.length ∧ b'.ids.length ≤ b.ids.length + params.length ∧
      ∀ images, params.mapM Json.toInt = .ok images → b'.ids = b.ids ++ images := by
  induction params generalizing b with
  | nil => exact ⟨b, rfl, hb, by simp, by simp [pure, Except.pure]⟩
  | cons p rest ih =>
    rw [List.mapM_cons]
    cases hp : p.toInt with
    | error e => exact ⟨b, by rw [appendAll, hp]; rfl, hb, by simp, by simp [bind, Except.bind]⟩
    | ok n =>
      have hgrown : (b.append n).ids.length = b.ids.length + 1 := by simp [Build.append]
      obtain ⟨b', hrun, hlongest, hlength, hids⟩ := ih (b.append n) (by
        rw [hgrown]
        exact max_le (by omega) le_rfl)
      refine ⟨b', ?_, hlongest, ?_, ?_⟩
      · rw [appendAll, hp]
        simp only [hrun]
        cases rest.mapM Json.toInt <;> rfl
      · rw [hgrown] at hlength
        rw [List.length_cons]
        omega
      · intro images himages
        cases hrest : rest.mapM Json.toInt with
        | error e => rw [hrest] at himages; cases himages
        | ok others =>
          rw [hrest] at himages
          cases himages
          rw [hids others hrest, Build.append, List.append_assoc]
          rfl

theorem Given.unique {payload : Dict} {params params' : List Json} (h : Given payload params)
    (h' : Given payload params') : params = params' := by
  cases h <;> cases h' <;> simp_all

theorem Spanned.unique {payload : Dict} {span span' : List Int} (h : Spanned payload span)
    (h' : Spanned payload span') : span = span' := by
  cases h <;> cases h' <;> simp_all

theorem Asks.unique {payload : Json} {ids ids' : List Int} (h : Asks payload ids)
    (h' : Asks payload ids') : ids = ids' := by
  obtain ⟨members, params, images, span, rfl, hparams, himages, hspan, rfl⟩ := h
  obtain ⟨_, params', images', span', hmembers, hparams', himages', hspan', rfl⟩ := h'
  cases hmembers
  cases hparams.unique hparams'
  cases himages.symm.trans himages'
  rw [hspan.unique hspan']

variable {members : Dict}

theorem collectParameters_cases (members : Dict) :
    (∃ params b, Given members params ∧ params.length ≤ 1024 ∧
      collectParameters members = (exitOf (params.mapM Json.toInt), b) ∧
      b.longest ≤ b.ids.length ∧ b.ids.length ≤ 1024 ∧
      ∀ images, params.mapM Json.toInt = .ok images → b.ids = images) ∨
    ((∀ params, Given members params → 1024 < params.length) ∧
      collectParameters members = (.returnNone, {})) := by
  unfold collectParameters
  cases hlook : members.lookup "parameters" with
  | none =>
    refine .inl ⟨[], {}, .missing hlook, by simp, rfl, by simp, by simp, ?_⟩
    simp [pure, Except.pure]
  | some v =>
    have hother : ¬ (v = .null ∨ ∃ params, v = .list params) →
        ∀ params, Given members params → 1024 < params.length := by
      rintro hv params (hmiss | hnull | ⟨_, hlist⟩)
      · simp [hlook] at hmiss
      · exact absurd (.inl (Option.some.inj (hlook.symm.trans hnull))) hv
      · exact absurd (.inr ⟨_, Option.some.inj (hlook.symm.trans hlist)⟩) hv
    cases v with
    | null =>
      refine .inl ⟨[], {}, .null hlook, by simp, rfl, by simp, by simp, ?_⟩
      simp [pure, Except.pure]
    | list params =>
      by_cases hlong : maxParamIds < params.length
      · refine .inr ⟨?_, if_pos hlong⟩
        intro params' hgiven
        rw [hgiven.unique (.list params hlook)]
        exact hlong
      · obtain ⟨b, hrun, hlongest, hlength, hids⟩ := appendAll_eq {} params le_rfl
        simp only [maxParamIds, not_lt] at hlong
        refine .inl ⟨params, b, .list params hlook, hlong, ?_, hlongest, ?_, ?_⟩
        · exact (if_neg (by simpa [maxParamIds] using hlong)).trans hrun
        · simpa using hlength.trans (Nat.add_le_add_left hlong _)
        · simpa using hids
    | bool | int | float | str | dict => exact .inr ⟨hother (by simp), rfl⟩

/-- The bounds of the range are converted one after the other. -/
def RangeInfinite (members : Dict) : Prop :=
  ∃ start stop, members.lookup "from" = some start ∧ members.lookup "to" = some stop ∧
    (Infinite start ∨ (∃ lo, start.toInt = .ok lo) ∧ Infinite stop)

theorem Spanned.not_infinite {span : List Int} (h : Spanned members span) :
    ¬ RangeInfinite members := by
  rintro ⟨start, stop, hstart, hstop, hinf⟩
  cases h with
  | noStart hnone => simp [hnone] at hstart
  | noStop hnone => simp [hnone] at hstop
  | span start' stop' lo hi hstart' hstop' hlo hhi =>
    cases hstart.symm.trans hstart'
    cases hstop.symm.trans hstop'
    rcases hinf with hinf | ⟨-, hinf⟩
    · cases (toInt_infinite hinf).symm.trans hlo
    · cases (toInt_infinite hinf).symm.trans hhi

/-- The first bound that does not convert leaves no span, and decides on the exception. -/
theorem bound_fails {start stop v : Json} {e : PyError} (hstart : members.lookup "from" = some start)
    (hstop : members.lookup "to" = some stop) (he : v.toInt = .error e)
    (hv : v = start ∨ (∃ lo, start.toInt = .ok lo) ∧ v = stop) :
    (∀ span, ¬ Spanned members span) ∧
      ((e = .typeError ∨ e = .valueError) ∧ ¬ RangeInfinite members ∨
        e = .overflowError ∧ RangeInfinite members) := by
  have hinfinite : Infinite v ↔ RangeInfinite members := by
    constructor
    · rcases hv with rfl | ⟨hlo, rfl⟩
      · exact fun h => ⟨v, stop, hstart, hstop, .inl h⟩
      · exact fun h => ⟨start, v, hstart, hstop, .inr ⟨hlo, h⟩⟩
    · rintro ⟨start', stop', hstart', hstop', h⟩
      cases hstart.symm.trans hstart'
      cases hstop.symm.trans hstop'
      rcases hv with rfl | ⟨⟨lo, hlo⟩, rfl⟩
      · rcases h with h | ⟨⟨lo, hlo⟩, -⟩
        · exact h
        · cases he.symm.trans hlo
      · rcases h with h | ⟨-, h⟩
        · cases (toInt_infinite h).symm.trans hlo
        · exact h
  constructor
  · rintro span hspan
    cases hspan with
    | noStart hnone => simp [hstart] at hnone
    | noStop hnone => simp [hstop] at hnone
    | span start' stop' lo hi hstart' hstop' hlo hhi =>
      cases hstart.symm.trans hstart'
      cases hstop.symm.trans hstop'
      rcases hv with rfl | ⟨-, rfl⟩
      · cases he.symm.trans hlo
      · cases he.symm.trans hhi
  · rw [← hinfinite]
    rcases toInt_error he with rfl | rfl | ⟨rfl, hinf⟩
    · exact .inl ⟨.inl rfl, fun h => by cases (toInt_infinite h).symm.trans he⟩
    · exact .inl ⟨.inr rfl, fun h => by cases (toInt_infinite h).symm.trans he⟩
    · exact .inr ⟨rfl, hinf⟩

/-- The range is built, or found to be too long, or one of its bounds does not convert. -/
theorem collectRange_cases (members : Dict) (b : Build) (hlongest : b.longest ≤ b.ids.length)
    (hlength : b.ids.length ≤ 1024) :
    (∃ span b', Spanned members span ∧ collectRange members b = (.done, b') ∧
      b'.ids = b.ids ++ span ∧ b'.ids.length ≤ 1024 ∧ b'.longest ≤ 1024) ∨
    (∃ span, Spanned members span ∧ collectRange members b = (.returnNone, b) ∧
      1024 < b.ids.length + span.length) ∨
    (∃ e, collectRange members b = (.raised e, b) ∧ (∀ span, ¬ Spanned members span) ∧
      ((e = .typeError ∨ e = .valueError) ∧ ¬ RangeInfinite members ∨
        e = .overflowError ∧ RangeInfinite members)) := by
  have hkept : b.longest ≤ 1024 := hlongest.trans hlength
  cases hstart : members.lookup "from" with
  | none =>
    refine .inl ⟨[], b, .noStart hstart, ?_, by simp, hlength, hkept⟩
    simp only [collectRange, hstart]
  | some start =>
    cases hstop : members.lookup "to" with
    | none =>
      refine .inl ⟨[], b, .noStop hstop, ?_, by simp, hlength, hkept⟩
      simp only [collectRange, hstart, hstop]
    | some stop =>
      cases hlo : start.toInt with
      | error e =>
        refine .inr (.inr ⟨e, ?_, bound_fails hstart hstop hlo (.inl rfl)⟩)
        simp only [collectRange, hstart, hstop, hlo]
      | ok lo =>
        cases hhi : stop.toInt with
        | error e =>
          refine .inr (.inr ⟨e, ?_, bound_fails hstart hstop hhi (.inr ⟨⟨lo, hlo⟩, rfl⟩)⟩)
          simp only [collectRange, hstart, hstop, hlo, hhi]
        | ok hi =>
          have hspan := Spanned.span start stop lo hi hstart hstop hlo hhi
          have hrange := length_range lo hi
          by_cases hlong : (maxParamIds : Int) < b.ids.length + max 0 (hi - lo + 1)
          · refine .inr (.inl ⟨_, hspan, ?_, ?_⟩)
            · simp only [collectRange, hstart, hstop, hlo, hhi, if_pos hlong]
            · simp only [maxParamIds] at hlong
              omega
          · have hshort : b.ids.length + (Int.range lo (hi + 1)).length ≤ 1024 := by
              simp only [maxParamIds] at hlong
              omega
            refine .inl ⟨_, b.extend lo hi, hspan, ?_, rfl, ?_, ?_⟩
            · simp only [collectRange, hstart, hstop, hlo, hhi, if_neg hlong]
            · simpa [Build.extend] using hshort
            · simp only [Build.extend]
              omega

theorem asks_given {params : List Json} {ids : List Int} (hgiven : Given members params)
    (h : Asks (.dict members) ids) :
    ∃ images span, params.mapM Json.toInt = .ok images ∧ Spanned members span ∧
      ids = images ++ span := by
  obtain ⟨_, params', images, span, hmembers, hgiven', himages, hspan, rfl⟩ := h
  cases hmembers
  cases hgiven.unique hgiven'
  exact ⟨images, span, himages, hspan, rfl⟩

theorem convertsInfinity_given {params : List Json} (hgiven : Given members params) :
    ConvertsInfinity (.dict members) ↔ params.length ≤ 1024 ∧ (Overflows params ∨
      (∃ images, params.mapM Json.toInt = .ok images) ∧ RangeInfinite members) := by
  constructor
  · rintro ⟨_, params', hmembers, hgiven', hrest⟩
    cases hmembers
    cases hgiven.unique hgiven'
    exact hrest
  · exact fun h => ⟨members, params, rfl, hgiven, h⟩

/-- What comes of a request: it is answered, it is refused since nothing short enough is asked
for, or the exception of an infinite number is not caught. -/
def Replies (members : Dict) (r : Except PyError (Option (List Int)) × Build) : Prop :=
  r.2.longest ≤ 1024 ∧
    ((∃ ids, Asks (.dict members) ids ∧ ids.length ≤ 1024 ∧
        r.1 = .ok (if ids = [] then none else some ids) ∧ ¬ ConvertsInfinity (.dict members)) ∨
      (r.1 = .ok none ∧ (∀ ids, Asks (.dict members) ids → 1024 < ids.length) ∧
        ¬ ConvertsInfinity (.dict members)) ∨
      (r.1 = .error .overflowError ∧ ConvertsInfinity (.dict members)))

/-- An array that converts, and then the range. -/
theorem replies_of_images {params : List Json} {images : List Int} {b : Build}
    (hgiven : Given members params) (hshort : params.length ≤ 1024)
    (himages : params.mapM Json.toInt = .ok images) (hfits : ¬ Overflows params)
    (hrun : collectParameters members = (.done, b)) (hkept : b.ids = images)
    (hlongest : b.longest ≤ b.ids.length) (hlength : b.ids.length ≤ 1024) :
    Replies members (collectParamIds (.dict members)) := by
  have hinfinite : ConvertsInfinity (.dict members) ↔ RangeInfinite members := by
    rw [convertsInfinity_given hgiven]
    exact ⟨fun h => h.2.elim (fun hover => absurd hover hfits) And.right,
      fun h => ⟨hshort, .inr ⟨⟨images, himages⟩, h⟩⟩⟩
  have hsmall : b.longest ≤ 1024 := hlongest.trans hlength
  rcases collectRange_cases members b hlongest hlength with
    ⟨span, b', hspan, hrange, hall, hlength', hlongest'⟩ | ⟨span, hspan, hrange, hmany⟩ |
    ⟨e, hrange, hnone, hkind⟩
  · have hresult : collectParamIds (.dict members) =
        (.ok (if b'.ids = [] then none else some b'.ids), b') := by
      simp only [collectParamIds, collectIds, hrun, hrange, maxParamIds, Nat.not_lt.mpr hlength',
        false_or]
    rw [hresult]
    refine ⟨hlongest', .inl ⟨b'.ids, ?_, hlength', rfl, ?_⟩⟩
    · exact ⟨members, params, images, span, rfl, hgiven, himages, hspan, by rw [hall, hkept]⟩
    · exact fun h => hspan.not_infinite (hinfinite.mp h)
  · have hresult : collectParamIds (.dict members) = (.ok none, b) := by
      simp only [collectParamIds, collectIds, hrun, hrange]
    rw [hresult]
    refine ⟨hsmall, .inr (.inl ⟨rfl, ?_, fun h => hspan.not_infinite (hinfinite.mp h)⟩)⟩
    intro ids hids
    obtain ⟨images', span', himages', hspan', rfl⟩ := asks_given hgiven hids
    cases himages.symm.trans himages'
    rw [← hspan.unique hspan', List.length_append, ← hkept]
    exact hmany
  · have hresult : collectParamIds (.dict members) =
        (if e = .typeError ∨ e = .valueError then .ok none else .error e, b) := by
      simp only [collectParamIds, collectIds, hrun, hrange]
    rw [hresult]
    rcases hkind with ⟨hcaught, hno⟩ | ⟨rfl, hinf⟩
    · rw [if_pos hcaught]
      refine ⟨hsmall, .inr (.inl ⟨rfl, ?_, fun h => hno (hinfinite.mp h)⟩)⟩
      intro ids hids
      obtain ⟨images', span', -, hspan', -⟩ := asks_given hgiven hids
      exact absurd hspan' (hnone span')
    · exact ⟨hsmall, .inr (.inr ⟨rfl, hinfinite.mpr hinf⟩)⟩

theorem collectParamIds_cases (members : Dict) :
    Replies members (collectParamIds (.dict members)) := by
  rcases collectParameters_cases members with
    ⟨params, b, hgiven, hshort, hrun, hlongest, hlength, hids⟩ | ⟨hlong, hrun⟩
  · have hsmall : b.longest ≤ 1024 := hlongest.trans hlength
    rcases mapM_toInt_cases params with ⟨images, himages, hfits⟩ | ⟨e, he, hkind, hfits⟩ |
      ⟨he, hover⟩
    · rw [himages] at hrun
      exact replies_of_images hgiven hshort himages hfits hrun (hids images himages) hlongest hlength
    · have hresult : collectParamIds (.dict members) = (.ok none, b) := by
        simp only [collectParamIds, collectIds, hrun, he, exitOf, if_pos hkind]
      rw [hresult]
      refine ⟨hsmall, .inr (.inl ⟨rfl, ?_, ?_⟩)⟩
      · intro ids hids
        obtain ⟨images', span', himages', -⟩ := asks_given hgiven hids
        cases he.symm.trans himages'
      · rw [convertsInfinity_given hgiven]
        rintro ⟨-, hinf | ⟨⟨images, himages⟩, -⟩⟩
        · exact hfits hinf
        · cases he.symm.trans himages
    · have hresult : collectParamIds (.dict members) = (.error .overflowError, b) := by
        simp only [collectParamIds, collectIds, hrun, he, exitOf]
        rfl
      rw [hresult]
      exact ⟨hsmall, .inr (.inr ⟨rfl, (convertsInfinity_given hgiven).mpr ⟨hshort, .inl hover⟩⟩)⟩
  · have hresult : collectParamIds (.dict members) = (.ok none, {}) := by
      simp only [collectParamIds, collectIds, hrun]
    rw [hresult]
    refine ⟨by simp, .inr (.inl ⟨rfl, ?_, ?_⟩)⟩
    · rintro ids ⟨_, params, images, span, hmembers, hgiven, himages, -, rfl⟩
      cases hmembers
      rw [List.length_append, mapM_length himages]
      have := hlong params hgiven
      omega
    · rintro ⟨_, params, hmembers, hgiven, hshort, -⟩
      cases hmembers
      exact absurd (hlong params hgiven) (Nat.not_lt.mpr hshort)

end Collecting

/-- A request is bounded and answered exactly when no infinite number is converted for it. -/
theorem collectParamIds_bounded_iff (payload : Json) :
    Bounded payload ↔ ¬ ConvertsInfinity payload := by
  cases payload with
  | dict members =>
    obtain ⟨hsmall, ⟨ids, hasks, hlength, hreply, hno⟩ | ⟨hreply, hmany, hno⟩ | ⟨hreply, hinf⟩⟩ :=
      collectParamIds_cases members
    · refine iff_of_true ⟨⟨_, hreply⟩, ?_, ?_, hsmall⟩ hno
      · intro ids' hids'
        rw [hreply] at hids'
        split at hids'
        · cases hids'
        · cases hids'
          exact ⟨hasks, List.length_pos_of_ne_nil ‹_›, hlength⟩
      · intro ids' hasks' hone _
        rw [hreply, hasks.unique hasks', if_neg (List.ne_nil_of_length_pos hone)]
    · refine iff_of_true ⟨⟨_, hreply⟩, ?_, ?_, hsmall⟩ hno
      · intro ids hids
        cases hreply.symm.trans hids
      · intro ids hasks _ hlength
        exact absurd (hmany ids hasks) (Nat.not_lt.mpr hlength)
    · refine iff_of_false ?_ (not_not.mpr hinf)
      rintro ⟨⟨reply, htotal⟩, -⟩
      cases hreply.symm.trans htotal
  | null | bool | int | float | str | list =>
    refine iff_of_true ⟨⟨none, rfl⟩, ?_, ?_, Nat.zero_le _⟩ ?_
    · rintro ids hids
      cases hids
    · rintro ids ⟨_, _, _, _, hmembers, -⟩
      cases hmembers
    · rintro ⟨_, _, hmembers, -⟩
      cases hmembers

/-- `{"parameters": [1e999]}` -/
theorem not_always_bounded : ¬ ∀ payload, Bounded payload := by
  intro h
  obtain ⟨reply, htotal⟩ :=
    (h (.dict [("parameters", .list [.float (.infinite false)])])).total
  cases htotal

end NexyGateway.ParamIds
