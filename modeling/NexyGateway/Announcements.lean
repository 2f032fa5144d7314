import Mathlib.Data.List.Basic

/-!
# Announcements of a store

A store that somebody else follows by announcements, each of them some keys with the
values that they had at that time. Whoever follows knows of a key what was told last.
-/
namespace Announcements

variable {κ ν : Type} [DecidableEq κ]

/-- What was told last for a key; the log has its oldest entry first. -/
def told : List (κ × ν) → κ → Option ν
  | [], _ => none
  | (k, v) :: log, key => (told log key).or (if k = key then some v else none)

/-- The keys of an announcement that have a value, with their values. -/
def batch (store : κ → Option ν) (keys : List κ) : List (κ × ν) :=
  keys.filterMap fun k => (store k).map fun v => (k, v)

/-- Nothing is told of a key without a value. -/
def Founded (store : κ → Option ν) (log : List (κ × ν)) : Prop :=
  ∀ key, store key = none → told log key = none

variable {store : κ → Option ν} {log : List (κ × ν)} {keys : List κ} {key : κ}

theorem told_append (log more : List (κ × ν)) (key : κ) :
    told (log ++ more) key = (told more key).or (told log key) := by
  induction log with
  | nil => simp [told]
  | cons entry log ih =>
    obtain ⟨k, v⟩ := entry
    simp only [List.cons_append, told, ih, Option.or_assoc]

theorem told_batch (store : κ → Option ν) (keys : List κ) (key : κ) :
    told (batch store keys) key = if key ∈ keys then store key else none := by
  induction keys with
  | nil => rfl
  | cons k keys ih =>
    have hsplit : batch store (k :: keys) = batch store [k] ++ batch store keys := by
      rw [batch, ← List.singleton_append, List.filterMap_append]
      rfl
    have hfirst : told (batch store [k]) key = if key = k then store key else none := by
      by_cases heq : key = k
      · subst heq
        cases hv : store key <;> simp [batch, told, hv]
      · cases hv : store k <;> simp [batch, told, hv, heq, Ne.symm heq]
    rw [hsplit, told_append, ih, hfirst]
    by_cases heq : key = k
    · subst heq
      by_cases hmem : key ∈ keys <;> simp [hmem]
    · simp [heq]

/-- The store has a value for the key that was not told last. -/
def Stale (store : κ → Option ν) (log : List (κ × ν)) (key : κ) : Prop :=
  ∃ v, store key = some v ∧ told log key ≠ some v

/-- An announcement settles its keys, and leaves the others as they were. -/
theorem stale_announced (store : κ → Option ν) (log : List (κ × ν)) (keys : List κ) (key : κ) :
    Stale store (log ++ batch store keys) key ↔ key ∉ keys ∧ Stale store log key := by
  unfold Stale
  rw [told_append, told_batch]
  by_cases hmem : key ∈ keys
  · refine iff_of_false ?_ fun h => h.1 hmem
    rintro ⟨v, hv, hne⟩
    rw [if_pos hmem, hv] at hne
    exact hne rfl
  · simp [hmem]

/-- A key that is announced is known, and what was told of the others stays. -/
theorem Founded.told_announced (h : Founded store log) (keys : List κ) (key : κ) :
    told (log ++ batch store keys) key = if key ∈ keys then store key else told log key := by
  rw [told_append, told_batch]
  split
  · cases hv : store key with
    | none => simpa using h key hv
    | some v => rfl
  · rfl

theorem Founded.announced (h : Founded store log) (keys : List κ) :
    Founded store (log ++ batch store keys) := by
  intro key hv
  rw [h.told_announced]
  split
  · exact hv
  · exact h key hv

/-- A store that only gains values stays ahead of what is told. -/
theorem Founded.gains {store' : κ → Option ν} (h : Founded store log)
    (hgains : ∀ key, store' key = none → store key = none) : Founded store' log :=
  fun key hv => h key (hgains key hv)

end Announcements
