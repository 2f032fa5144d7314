import NexyGateway.Runs

/-!
# Cooperative tasks

Coroutines on one event loop: a task runs from one suspension point to the next
without interruption, and between these stretches any suspended task may be the
next to be resumed. A task is known by its suspension point, which holds the
values it still needs. Locks are part of the shared state, so a task waiting for
one is resumed only where `resume` allows it.
-/
namespace Coroutines

/-- What a new call does up to its first suspension, and what a resumed task does up to
the next one; `none` as a suspension point means that the task has ended. -/
structure Program (σ τ ρ ι : Type) where
  start : ρ → σ → σ × Option τ
  resume : τ → ι → σ → Option (σ × Option τ)

structure System (σ τ : Type) where
  shared : σ
  task : Nat → Option τ

inductive Move (ρ ι : Type) where
  | call (id : Nat) (request : ρ)
  | wake (id : Nat) (outcome : ι)

variable {σ τ ρ ι : Type}

def assign (tasks : Nat → Option τ) (id : Nat) (t : Option τ) : Nat → Option τ :=
  fun i => if i = id then t else tasks i

@[simp] theorem assign_same (tasks : Nat → Option τ) (id : Nat) (t : Option τ) :
    assign tasks id t id = t := by simp [assign]

theorem assign_other (tasks : Nat → Option τ) {id i : Nat} (t : Option τ) (h : i ≠ id) :
    assign tasks id t i = tasks i := by simp [assign, h]

/-- A task after an assignment is the assigned one or one that was there before. -/
theorem assign_cases {tasks : Nat → Option τ} {id i : Nat} {t : Option τ} {u : τ}
    (h : assign tasks id t i = some u) : (i = id ∧ t = some u) ∨ (i ≠ id ∧ tasks i = some u) := by
  by_cases hi : i = id
  · exact Or.inl ⟨hi, by simpa [assign, hi] using h⟩
  · exact Or.inr ⟨hi, by simpa [assign, hi] using h⟩

/-- Task numbers are fresh when a call starts. -/
def step (P : Program σ τ ρ ι) (s : System σ τ) : Move ρ ι → Option (System σ τ)
  | .call id request =>
    match s.task id with
    | some _ => none
    | none =>
      let (shared, t) := P.start request s.shared
      some ⟨shared, assign s.task id t⟩
  | .wake id outcome =>
    (s.task id).bind (fun t => (P.resume t outcome s.shared).map
      (fun r => ⟨r.1, assign s.task id r.2⟩))

def boot (shared : σ) : System σ τ := ⟨shared, fun _ => none⟩

@[simp] theorem boot_task (shared : σ) (i : Nat) : (boot shared : System σ τ).task i = none := rfl

/-- Every step is the beginning of a call or the resumption of one suspended task. -/
theorem step_cases {P : Program σ τ ρ ι} {s s' : System σ τ} {m : Move ρ ι}
    (h : step P s m = some s') :
    (∃ id request, m = .call id request ∧ s.task id = none ∧
      s' = ⟨(P.start request s.shared).1, assign s.task id (P.start request s.shared).2⟩) ∨
    (∃ id outcome t r, m = .wake id outcome ∧ s.task id = some t ∧
      P.resume t outcome s.shared = some r ∧ s' = ⟨r.1, assign s.task id r.2⟩) := by
  cases m with
  | call id request =>
    simp only [step] at h
    cases ht : s.task id with
    | some t => simp [ht] at h
    | none => exact .inl ⟨id, request, rfl, ht, by simpa [ht] using h.symm⟩
  | wake id outcome =>
    obtain ⟨t, ht, hr⟩ := Option.bind_eq_some_iff.mp h
    obtain ⟨r, hr, he⟩ := Option.map_eq_some_iff.mp hr
    exact .inr ⟨id, outcome, t, r, rfl, ht, hr, he.symm⟩

section Lock

variable (P : Program σ τ ρ ι) (locked : σ → Bool) (holds : τ → Bool)

/-- A stretch by a task that does not hold the lock takes a free lock or leaves it alone. -/
def Takes (s : σ) (r : σ × Option τ) : Prop :=
  (r.2.any holds = false ∧ locked r.1 = locked s) ∨
  (r.2.any holds = true ∧ locked s = false ∧ locked r.1 = true)

/-- The program takes its lock only when it is free, and whoever lets go of it frees it. -/
structure Locking : Prop where
  start : ∀ request s, Takes locked holds s (P.start request s)
  outside : ∀ t outcome s r, holds t = false → P.resume t outcome s = some r →
    Takes locked holds s r
  inside : ∀ t outcome s r, holds t = true → locked s = true → P.resume t outcome s = some r →
    locked r.1 = r.2.any holds

/-- At most one task holds the lock, and only while the lock is taken. -/
structure Exclusive (s : System σ τ) : Prop where
  taken : ∀ i t, s.task i = some t → holds t = true → locked s.shared = true
  alone : ∀ i j t u, s.task i = some t → s.task j = some u → holds t = true → holds u = true →
    i = j

variable {P locked holds}

theorem boot_exclusive (shared : σ) : Exclusive locked holds (boot shared : System σ τ) :=
  ⟨fun i t ht => by simp at ht, fun i j t u ht => by simp at ht⟩

/-- While one task holds the lock, no other task does. -/
theorem Exclusive.other {s : System σ τ} (h : Exclusive locked holds s) {i j : Nat} {t u : τ}
    (ht : s.task i = some t) (hu : s.task j = some u) (hne : j ≠ i) (hold : holds t = true) :
    holds u = false := by
  by_contra hu'
  exact hne (h.alone j i u t hu ht (by simpa using hu') hold)

theorem Exclusive.free {s : System σ τ} (h : Exclusive locked holds s)
    (hfree : locked s.shared = false) {i : Nat} {t : τ} (ht : s.task i = some t) :
    holds t = false := by
  by_contra hold
  have := h.taken i t ht (by simpa using hold)
  simp [hfree] at this

/-- A stretch that takes the lock or leaves it alone keeps the lock exclusive. -/
theorem Exclusive.takes {s : System σ τ} (h : Exclusive locked holds s) {id : Nat}
    {r : σ × Option τ} (hr : Takes locked holds s.shared r) :
    Exclusive locked holds ⟨r.1, assign s.task id r.2⟩ := by
  rcases hr with ⟨hnone, hsame⟩ | ⟨-, hfree, htaken⟩
  · have hold : ∀ i t, assign s.task id r.2 i = some t → holds t = true → s.task i = some t := by
      intro i t ht hholds
      rcases assign_cases ht with ⟨-, hnew⟩ | ⟨-, hold⟩
      · simp [hnew, hholds] at hnone
      · exact hold
    refine ⟨fun i t ht hholds => ?_, fun i j t u ht hu hti huj => ?_⟩
    · exact hsame.trans (h.taken i t (hold i t ht hholds) hholds)
    · exact h.alone i j t u (hold i t ht hti) (hold j u hu huj) hti huj
  · have hnew : ∀ i t, assign s.task id r.2 i = some t → holds t = true → i = id := by
      intro i t ht hholds
      rcases assign_cases ht with ⟨hi, -⟩ | ⟨-, hold⟩
      · exact hi
      · simp [h.free hfree hold] at hholds
    refine ⟨fun _ _ _ _ => htaken, fun i j t u ht hu hti huj => ?_⟩
    exact (hnew i t ht hti).trans (hnew j u hu huj).symm

/-- Mutual exclusion is kept by every step of a program that follows the lock's discipline. -/
theorem Locking.exclusive (hP : Locking P locked holds) {s s' : System σ τ} {m : Move ρ ι}
    (h : Exclusive locked holds s) (hstep : step P s m = some s') :
    Exclusive locked holds s' := by
  obtain ⟨id, request, -, -, rfl⟩ | ⟨id, outcome, t, r, -, ht, hr, rfl⟩ := step_cases hstep
  · exact h.takes (hP.start request _)
  · cases hold : holds t with
    | false => exact h.takes (hP.outside t outcome _ r hold hr)
    | true =>
      have hlock := hP.inside t outcome _ r hold (h.taken id t ht hold) hr
      -- the holder either goes on holding the lock or has freed it; the others are outside
      have hnew : ∀ i u, assign s.task id r.2 i = some u → holds u = true →
          i = id ∧ r.2 = some u := by
        intro i u hu hholds
        rcases assign_cases hu with hnew | ⟨hne, hold'⟩
        · exact hnew
        · simp [h.other ht hold' hne hold] at hholds
      refine ⟨fun i u hu hholds => ?_, fun i j u v hu hv hui hvj => ?_⟩
      · obtain ⟨-, hr2⟩ := hnew i u hu hholds
        simp [hlock, hr2, hholds]
      · exact (hnew i u hu hui).1.trans (hnew j v hv hvj).1.symm

/-- A taken lock is in the hands of a task. -/
def Held (locked : σ → Bool) (holds : τ → Bool) (s : System σ τ) : Prop :=
  locked s.shared = true → ∃ i t, s.task i = some t ∧ holds t = true

theorem any_holds {t : Option τ} (h : t.any holds = true) : ∃ u, t = some u ∧ holds u = true := by
  simpa [Option.any_eq_true] using h

/-- A stretch by a task without the lock leaves it with its holder, or takes it. -/
theorem Held.takes {s : System σ τ} (h : Held locked holds s) {id : Nat} {r : σ × Option τ}
    (hr : Takes locked holds s.shared r) (hout : ∀ t, s.task id = some t → holds t = false) :
    Held locked holds ⟨r.1, assign s.task id r.2⟩ := by
  intro hlocked
  rcases hr with ⟨-, hsame⟩ | ⟨hnew, -, -⟩
  · obtain ⟨i, t, ht, hold⟩ := h (hsame.symm.trans hlocked)
    have hne : i ≠ id := by
      rintro rfl
      rw [hout t ht] at hold
      cases hold
    exact ⟨i, t, (assign_other _ _ hne).trans ht, hold⟩
  · obtain ⟨u, hu, hold⟩ := any_holds hnew
    exact ⟨id, u, (assign_same _ _ _).trans hu, hold⟩

/-- No step loses the lock. -/
theorem Locking.held (hP : Locking P locked holds) {s s' : System σ τ} {m : Move ρ ι}
    (hexcl : Exclusive locked holds s) (h : Held locked holds s) (hstep : step P s m = some s') :
    Held locked holds s' := by
  obtain ⟨id, request, -, hnone, rfl⟩ | ⟨id, outcome, t, r, -, ht, hr, rfl⟩ := step_cases hstep
  · exact h.takes (hP.start request _) (fun t ht => by rw [hnone] at ht; cases ht)
  · cases hold : holds t with
    | false =>
      refine h.takes (hP.outside t outcome _ r hold hr) fun u hu => ?_
      rw [← hold, Option.some.inj (hu.symm.trans ht)]
    | true =>
      intro hlocked
      have hlock := hP.inside t outcome _ r hold (hexcl.taken id t ht hold) hr
      obtain ⟨u, hu, hholds⟩ := any_holds (hlock.symm.trans hlocked)
      exact ⟨id, u, (assign_same _ _ _).trans hu, hholds⟩

end Lock

end Coroutines
