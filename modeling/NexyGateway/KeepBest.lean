import Mathlib.Data.List.Nodup
import Mathlib.Data.List.Perm.Basic
import Mathlib.Order.Lattice

/-!
# Keeping the best item of each key

A fold that keeps, for each key in the order of its first item, the first of the items with the
largest value, and the ranking of what is kept.
-/
namespace KeepBest

variable {α κ ν : Type} [LinearOrder ν] (key : α → κ) (value : α → ν)

/-- One best item for each key. -/
structure Best (items kept : List α) : Prop where
  distinct : (kept.map key).Nodup
  chosen : ∀ a ∈ kept, a ∈ items
  best : ∀ a ∈ kept, ∀ b ∈ items, key b = key a → value b ≤ value a
  covers : ∀ b ∈ items, ∃ a ∈ kept, key a = key b

section

variable {key value} {items kept : List α} {a : α}

theorem best_nil : Best key value [] [] :=
  ⟨List.nodup_nil, by simp, by simp, by simp⟩

theorem Best.append_new (h : Best key value items kept) (hnew : ∀ b ∈ kept, key b ≠ key a) :
    Best key value (items ++ [a]) (kept ++ [a]) where
  distinct := by
    rw [List.map_append, List.map_singleton, List.nodup_append]
    refine ⟨h.distinct, List.nodup_singleton _, ?_⟩
    rintro k hk k' hk' rfl
    obtain ⟨b, hb, hkey⟩ := List.mem_map.mp hk
    rw [List.mem_singleton] at hk'
    exact hnew b hb (hkey.trans hk')
  chosen b hb := by
    rw [List.mem_append, List.mem_singleton] at hb ⊢
    exact hb.imp_left (h.chosen b)
  best b hb c hc hkey := by
    rw [List.mem_append, List.mem_singleton] at hb hc
    rcases hb with hb | rfl
    · rcases hc with hc | rfl
      · exact h.best b hb c hc hkey
      · exact absurd hkey.symm (hnew b hb)
    · rcases hc with hc | rfl
      · obtain ⟨d, hd, hdkey⟩ := h.covers c hc
        exact absurd (hdkey.trans hkey) (hnew d hd)
      · exact le_rfl
  covers b hb := by
    rw [List.mem_append, List.mem_singleton] at hb
    rcases hb with hb | rfl
    · obtain ⟨c, hc, hkey⟩ := h.covers b hb
      exact ⟨c, List.mem_append_left _ hc, hkey⟩
    · exact ⟨b, by simp, rfl⟩

/-- An item that is no better changes nothing. -/
theorem Best.append_worse {b : α} (h : Best key value items kept) (hb : b ∈ kept)
    (hkey : key b = key a) (hle : value a ≤ value b) : Best key value (items ++ [a]) kept where
  distinct := h.distinct
  chosen c hc := List.mem_append_left _ (h.chosen c hc)
  best c hc d hd hdkey := by
    rw [List.mem_append, List.mem_singleton] at hd
    rcases hd with hd | rfl
    · exact h.best c hc d hd hdkey
    · have hsame : b = c := List.inj_on_of_nodup_map h.distinct hb hc (hkey.trans hdkey)
      exact hsame ▸ hle
  covers c hc := by
    rw [List.mem_append, List.mem_singleton] at hc
    rcases hc with hc | rfl
    · exact h.covers c hc
    · exact ⟨b, hb, hkey⟩

theorem Best.perm {kept' : List α} (h : Best key value items kept) (hperm : kept'.Perm kept) :
    Best key value items kept' where
  distinct := (hperm.map key).nodup_iff.mpr h.distinct
  chosen a ha := h.chosen a (hperm.mem_iff.mp ha)
  best a ha := h.best a (hperm.mem_iff.mp ha)
  covers b hb := by
    obtain ⟨a, ha, hkey⟩ := h.covers b hb
    exact ⟨a, hperm.mem_iff.mpr ha, hkey⟩

/-- Keys and values of the best items depend on the items only, not on their order. -/
theorem Best.pairs_perm {items' kept' : List α} (h : Best key value items kept)
    (h' : Best key value items' kept') (hitems : ∀ a, a ∈ items ↔ a ∈ items') :
    (kept.map (fun a => (key a, value a))).Perm (kept'.map (fun a => (key a, value a))) := by
  have hnodup : ∀ {l : List α}, (l.map key).Nodup → (l.map (fun a => (key a, value a))).Nodup := by
    intro l hl
    refine List.Nodup.of_map Prod.fst ?_
    rwa [List.map_map]
  have hsub : ∀ {items items' kept kept' : List α}, Best key value items kept →
      Best key value items' kept' → (∀ a, a ∈ items ↔ a ∈ items') → ∀ p,
      p ∈ kept.map (fun a => (key a, value a)) → p ∈ kept'.map (fun a => (key a, value a)) := by
    intro items items' kept kept' h h' hitems p hp
    obtain ⟨a, ha, rfl⟩ := List.mem_map.mp hp
    obtain ⟨b, hb, hkey⟩ := h'.covers a ((hitems a).mp (h.chosen a ha))
    have hvalue : value b = value a := le_antisymm
      (h.best a ha b ((hitems b).mpr (h'.chosen b hb)) hkey)
      (h'.best b hb a ((hitems a).mp (h.chosen a ha)) hkey.symm)
    exact List.mem_map.mpr ⟨b, hb, by rw [hkey, hvalue]⟩
  exact (List.perm_ext_iff_of_nodup (hnodup h.distinct) (hnodup h'.distinct)).mpr fun p =>
    ⟨hsub h h' hitems p, hsub h' h (fun a => (hitems a).symm) p⟩

end

variable [DecidableEq κ]

/-- A strictly better item takes the place of the one that was kept. -/
def insertBest (kept : List α) (a : α) : List α :=
  match kept.find? (fun b => key b = key a) with
  | none => kept ++ [a]
  | some b => if value b < value a then kept.map (fun c => if key c = key a then a else c) else kept

def keep (items : List α) : List α := items.foldl (insertBest key value) []

/-- Largest value first; items of equal value stay in their order. -/
def ranked (items : List α) : List α :=
  (keep key value items).mergeSort (fun a b => value b ≤ value a)

variable {key value} {items kept : List α} {a : α}

theorem insertBest_new (h : ∀ b ∈ kept, key b ≠ key a) :
    insertBest key value kept a = kept ++ [a] := by
  have hnone : kept.find? (fun b => key b = key a) = none := by
    simpa [List.find?_eq_none] using h
  rw [insertBest, hnone]

theorem insertBest_known {b : α} (hdistinct : (kept.map key).Nodup) (hb : b ∈ kept)
    (hkey : key b = key a) : insertBest key value kept a =
      if value b < value a then kept.map (fun c => if key c = key a then a else c) else kept := by
  cases hfind : kept.find? (fun c => key c = key a) with
  | none =>
    have hall := List.find?_eq_none.mp hfind b hb
    simp [hkey] at hall
  | some c =>
    have hc : key c = key a := by simpa using List.find?_some hfind
    have hsame : c = b := List.inj_on_of_nodup_map hdistinct (List.mem_of_find?_eq_some hfind) hb
      (hc.trans hkey.symm)
    rw [insertBest, hfind, hsame]

/-- A better item takes the place of the one with its key. -/
theorem Best.replace {b : α} (h : Best key value items kept) (hb : b ∈ kept)
    (hkey : key b = key a) (hlt : value b < value a) :
    Best key value (items ++ [a]) (kept.map (fun c => if key c = key a then a else c)) where
  distinct := by
    have hkeys : (kept.map (fun c => if key c = key a then a else c)).map key = kept.map key := by
      rw [List.map_map]
      apply List.map_congr_left
      intro c _
      simp only [Function.comp_apply]
      split
      · next hc => exact hc.symm
      · rfl
    rw [hkeys]
    exact h.distinct
  chosen c hc := by
    obtain ⟨d, hd, rfl⟩ := List.mem_map.mp hc
    rw [List.mem_append, List.mem_singleton]
    split
    · exact .inr rfl
    · exact .inl (h.chosen d hd)
  best c hc d hd hdkey := by
    obtain ⟨e, he, rfl⟩ := List.mem_map.mp hc
    rw [List.mem_append, List.mem_singleton] at hd
    by_cases hsame : key e = key a
    · rw [if_pos hsame] at hdkey ⊢
      rcases hd with hd | rfl
      · exact le_trans (h.best b hb d hd (hdkey.trans hkey.symm)) (le_of_lt hlt)
      · exact le_rfl
    · rw [if_neg hsame] at hdkey ⊢
      rcases hd with hd | rfl
      · exact h.best e he d hd hdkey
      · exact absurd hdkey.symm hsame
  covers c hc := by
    rw [List.mem_append, List.mem_singleton] at hc
    have hfind : ∀ d ∈ kept, key d = key c →
        ∃ e ∈ kept.map (fun c => if key c = key a then a else c), key e = key c := by
      intro d hd hdkey
      refine ⟨_, List.mem_map_of_mem hd, ?_⟩
      split
      · next hsame => exact hsame.symm.trans hdkey
      · exact hdkey
    rcases hc with hc | rfl
    · obtain ⟨d, hd, hdkey⟩ := h.covers c hc
      exact hfind d hd hdkey
    · exact hfind b hb hkey

theorem Best.insert (h : Best key value items kept) (a : α) :
    Best key value (items ++ [a]) (insertBest key value kept a) := by
  by_cases hknown : ∃ b ∈ kept, key b = key a
  · obtain ⟨b, hb, hkey⟩ := hknown
    rw [insertBest_known h.distinct hb hkey]
    split
    · next hlt => exact h.replace hb hkey hlt
    · next hle => exact h.append_worse hb hkey (not_lt.mp hle)
  · have hnew : ∀ b ∈ kept, key b ≠ key a := fun b hb hkey => hknown ⟨b, hb, hkey⟩
    rw [insertBest_new hnew]
    exact h.append_new hnew

theorem best_foldl (h : Best key value items kept) (more : List α) :
    Best key value (items ++ more) (more.foldl (insertBest key value) kept) := by
  induction more generalizing items kept with
  | nil => simpa using h
  | cons a more ih =>
    rw [List.foldl_cons, List.append_cons]
    exact ih (h.insert a)

theorem best_keep (items : List α) : Best key value items (keep key value items) :=
  best_foldl best_nil items

theorem best_ranked (items : List α) : Best key value items (ranked key value items) :=
  (best_keep items).perm (List.mergeSort_perm _ _)

theorem ranked_pairwise (items : List α) :
    (ranked key value items).Pairwise (fun a b => value b ≤ value a) := by
  have hsorted : (ranked key value items).Pairwise (fun a b => decide (value b ≤ value a) = true) :=
    List.pairwise_mergeSort
      (fun a b c hab hbc => by
        simp only [decide_eq_true_eq] at hab hbc ⊢
        exact le_trans hbc hab)
      (fun a b => by
        simp only [Bool.or_eq_true, decide_eq_true_eq]
        exact le_total _ _)
      (keep key value items)
  exact hsorted.imp (fun h => of_decide_eq_true h)

end KeepBest
