import Mathlib.Data.List.Forall2

/-!
# Runs of a partial step function

A run records the state before each step and the event that was taken there.
The rules below turn facts about one step into facts about every state of a
run, with or without a condition on the steps that are taken.
-/
namespace Runs

variable {S E : Type}

inductive Run (step : S → E → Option S) : S → List (S × E) → S → Prop
  | nil (s : S) : Run step s [] s
  | cons {s t u : S} {e : E} {path : List (S × E)} (first : step s e = some t)
      (rest : Run step t path u) : Run step s ((s, e) :: path) u

/-- The predicate holds in every state of the run, the last one included. -/
def Always (P : S → Prop) (path : List (S × E)) (last : S) : Prop :=
  (∀ p ∈ path, P p.1) ∧ P last

/-- Every step is taken from a state, and with an event, that meets the condition. -/
def Meets (ok : S → E → Prop) (path : List (S × E)) : Prop := ∀ p ∈ path, ok p.1 p.2

@[simp] theorem always_nil (P : S → Prop) (s : S) : Always (E := E) P [] s ↔ P s := by
  simp [Always]

@[simp] theorem always_cons (P : S → Prop) (p : S × E) (path : List (S × E)) (s : S) :
    Always P (p :: path) s ↔ P p.1 ∧ Always P path s := by
  simp [Always, and_assoc]

@[simp] theorem meets_nil (ok : S → E → Prop) : Meets ok [] := by simp [Meets]

@[simp] theorem meets_cons (ok : S → E → Prop) (p : S × E) (path : List (S × E)) :
    Meets ok (p :: path) ↔ ok p.1 p.2 ∧ Meets ok path := by
  simp [Meets]

theorem Always.last {P : S → Prop} {path : List (S × E)} {s : S} (h : Always P path s) : P s := h.2

theorem Always.mono {P Q : S → Prop} {path : List (S × E)} {s : S} (h : Always P path s)
    (hpq : ∀ s, P s → Q s) : Always Q path s :=
  ⟨fun p hp => hpq _ (h.1 p hp), hpq _ h.2⟩

variable {step : S → E → Option S}

/-- The first state of a run is one of its states. -/
theorem Run.head {P : S → Prop} {s t : S} {path : List (S × E)} (r : Run step s path t)
    (h : Always P path t) : P s := by
  cases r with
  | nil => exact h.2
  | cons first rest => exact h.1 _ (List.mem_cons_self ..)

theorem Run.append {s t u : S} {path rest : List (S × E)} (r : Run step s path t)
    (r' : Run step t rest u) : Run step s (path ++ rest) u := by
  induction r with
  | nil => exact r'
  | cons first _ ih => exact .cons first (ih r')

/-- A run is cut at any of its steps. -/
theorem Run.split {s t : S} {front back : List (S × E)} {p : S × E}
    (r : Run step s (front ++ p :: back) t) :
    Run step s front p.1 ∧ ∃ u, step p.1 p.2 = some u ∧ Run step u back t := by
  induction front generalizing s with
  | nil =>
    cases r with
    | cons first rest => exact ⟨.nil _, _, first, rest⟩
  | cons q front ih =>
    cases r with
    | cons first rest =>
      obtain ⟨hfront, hback⟩ := ih rest
      exact ⟨.cons first hfront, hback⟩

/-- Where every step of one system is matched by a run of another, so is every run. -/
theorem Run.simulated {T F : Type} {step' : T → F → Option T} {M : S → T → Prop}
    (hstep : ∀ s e s' t, M s t → step s e = some s' → ∃ path t', Run step' t path t' ∧ M s' t')
    {s s' : S} {path : List (S × E)} (r : Run step s path s') {t : T} (h : M s t) :
    ∃ path' t', Run step' t path' t' ∧ M s' t' := by
  induction r generalizing t with
  | nil => exact ⟨[], t, .nil t, h⟩
  | cons first rest ih =>
    obtain ⟨front, u, hfront, hu⟩ := hstep _ _ _ _ h first
    obtain ⟨back, v, hback, hv⟩ := ih hu
    exact ⟨front ++ back, v, hfront.append hback, hv⟩

/-- An invariant that every permitted step keeps holds all along a permitted run. -/
theorem Run.invariant {I : S → Prop} {ok : S → E → Prop} {s t : S} {path : List (S × E)}
    (r : Run step s path t) (hstep : ∀ s e t, I s → ok s e → step s e = some t → I t)
    (hs : I s) (hok : Meets ok path) : Always I path t := by
  induction r with
  | nil s => exact (always_nil I s).mpr hs
  | cons first rest ih =>
    obtain ⟨hfirst, hrest⟩ := (meets_cons ok _ _).mp hok
    exact (always_cons I _ _ _).mpr ⟨hs, ih (hstep _ _ _ hs hfirst first) hrest⟩

/-- An invariant that every step keeps holds all along every run. -/
theorem Run.inductive_invariant {I : S → Prop} {s t : S} {path : List (S × E)}
    (r : Run step s path t) (hstep : ∀ s e t, I s → step s e = some t → I t) (hs : I s) :
    Always I path t :=
  r.invariant (fun s e t hi (_ : True) h => hstep s e t hi h) hs
    (fun _ _ => trivial)

/-- Where a step keeps the predicate exactly when it is permitted, a run satisfies the
predicate throughout exactly when all of its steps are permitted. -/
theorem Run.always_iff {I P : S → Prop} {ok : S → E → Prop} {s t : S} {path : List (S × E)}
    (r : Run step s path t) (hinv : ∀ s e t, I s → step s e = some t → I t)
    (hiff : ∀ s e t, I s → P s → step s e = some t → (P t ↔ ok s e)) (hi : I s) (hp : P s) :
    Always P path t ↔ Meets ok path := by
  induction r with
  | nil s => simp [hp]
  | cons first rest ih =>
    have hi' := hinv _ _ _ hi first
    have hstep := hiff _ _ _ hi hp first
    rw [always_cons, meets_cons]
    constructor
    · rintro ⟨-, hrest⟩
      have hp' := rest.head hrest
      exact ⟨hstep.mp hp', (ih hi' hp').mp hrest⟩
    · rintro ⟨hok, hrest⟩
      exact ⟨hp, (ih hi' (hstep.mpr hok)).mpr hrest⟩

/-- A predicate that is never regained holds all along a run if it holds in the end. -/
theorem Run.always_of_last {I P : S → Prop} {s t : S} {path : List (S × E)}
    (r : Run step s path t) (hinv : ∀ s e t, I s → step s e = some t → I t)
    (hback : ∀ s e t, I s → step s e = some t → P t → P s) (hi : I s) (hp : P t) :
    Always P path t := by
  induction r with
  | nil s => exact (always_nil P s).mpr hp
  | cons first rest ih =>
    have hrest := ih (hinv _ _ _ hi first) hp
    exact (always_cons P _ _ _).mpr ⟨hback _ _ _ hi first (rest.head hrest), hrest⟩

/-- Where every step of one system is answered by a step of another on a matching event, its
runs are answered event by event. -/
theorem Run.lockstep {T F : Type} {step' : T → F → Option T} {M : S → T → Prop} {Q : E → F → Prop}
    (hstep : ∀ s t e f s', M s t → Q e f → step s e = some s' →
      ∃ t', step' t f = some t' ∧ M s' t')
    {s s' : S} {path : List (S × E)} (r : Run step s path s') {t : T} (h : M s t) {events : List F}
    (hevents : List.Forall₂ Q (path.map Prod.snd) events) :
    ∃ path' t', Run step' t path' t' ∧ path'.map Prod.snd = events ∧
      List.Forall₂ (fun p q => M p.1 q.1) path path' ∧ M s' t' := by
  induction r generalizing t events with
  | nil =>
    cases hevents
    exact ⟨[], t, .nil t, rfl, .nil, h⟩
  | cons first rest ih =>
    cases hevents with
    | cons he hrest =>
      obtain ⟨u, hu, hm⟩ := hstep _ _ _ _ _ h he first
      obtain ⟨path', t', hrun, rfl, hall, hlast⟩ := ih hm hrest
      exact ⟨_, t', .cons hu hrun, rfl, .cons h hall, hlast⟩

/-- Runs can be computed from the list of their events. -/
def exec (step : S → E → Option S) : S → List E → Option S
  | s, [] => some s
  | s, e :: es => (step s e).bind (fun t => exec step t es)

theorem exec_snoc (s : S) (es : List E) (e : E) :
    exec step s (es ++ [e]) = (exec step s es).bind (fun t => step t e) := by
  induction es generalizing s with
  | nil => cases hs : step s e <;> simp [exec, hs]
  | cons first es ih => cases hs : step s first <;> simp [exec, hs, ih]

def trace (step : S → E → Option S) : S → List E → List (S × E)
  | _, [] => []
  | s, e :: es => (s, e) :: (step s e).elim [] (fun t => trace step t es)

theorem mem_trace {s : S} {es : List E} {p : S × E} (h : p ∈ trace step s es) : p.2 ∈ es := by
  induction es generalizing s with
  | nil => cases h
  | cons e es ih =>
    rw [trace, List.mem_cons] at h
    rcases h with rfl | h
    · exact List.mem_cons_self
    · cases hstep : step s e with
      | none =>
        rw [hstep] at h
        cases h
      | some t =>
        rw [hstep] at h
        exact List.mem_cons_of_mem _ (ih h)

theorem exec_run {s t : S} {es : List E} (h : exec step s es = some t) :
    Run step s (trace step s es) t := by
  induction es generalizing s with
  | nil => cases h; exact .nil _
  | cons e es ih =>
    obtain ⟨u, hu, ht⟩ := Option.bind_eq_some_iff.mp h
    simp only [trace, hu, Option.elim_some]
    exact .cons hu (ih ht)

/-- A check that decides enough of a condition is passed by a run that can be computed. -/
theorem meets_of_check {ok : S → E → Prop} {check : S → E → Bool}
    (hcheck : ∀ s e, check s e = true → ok s e) {path : List (S × E)}
    (h : path.all (fun p => check p.1 p.2) = true) : Meets ok path :=
  fun p hp => hcheck _ _ (List.all_eq_true.mp h p hp)

theorem always_of_check {P : S → Prop} {check : S → Bool} (hcheck : ∀ s, check s = true → P s)
    {path : List (S × E)} {last : S} (h : path.all (fun p => check p.1) = true)
    (hlast : check last = true) : Always P path last :=
  ⟨fun p hp => hcheck _ (List.all_eq_true.mp h p hp), hcheck _ hlast⟩

end Runs
