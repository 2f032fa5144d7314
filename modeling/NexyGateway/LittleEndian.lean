import Mathlib.Data.Nat.Digits.Lemmas

/-!
# Numbers with their lowest byte first

The number that bytes are joined to, and the bytes that a number is cut into.
-/
namespace LittleEndian

/-- One more byte at the low end. -/
theorem shift_or {b : Nat} (out : Nat) (h : b < 256) : out <<< 8 ||| b = b + 256 * out := by
  rw [← Nat.shiftLeft_add_eq_or_of_lt (by omega), Nat.shiftLeft_eq]
  omega

/-- Shifting the bytes in, highest first, makes the number that has them for its digits. -/
theorem join_eq_ofDigits {octets : List Nat} (h : ∀ b ∈ octets, b < 256) :
    octets.foldr (fun b out => out <<< 8 ||| b) 0 = Nat.ofDigits 256 octets := by
  induction octets with
  | nil => rfl
  | cons b octets ih =>
    obtain ⟨hb, hrest⟩ := List.forall_mem_cons.mp h
    rw [List.foldr_cons, ih hrest, shift_or _ hb, Nat.ofDigits_cons]

/-- The lowest digits of a number. -/
def cut (base size n : Nat) : List Nat := (List.range size).map (fun i => n / base ^ i % base)

/-- The lowest digit stands first, the others are cut from what is left of the number. -/
theorem cut_succ (base size n : Nat) :
    cut base (size + 1) n = n % base :: cut base size (n / base) := by
  simp only [cut, List.range_succ_eq_map, List.map_cons, List.map_map, Nat.pow_zero, Nat.div_one]
  congr 1
  apply List.map_congr_left
  intro i _
  simp only [Function.comp_apply, Nat.succ_eq_add_one]
  rw [Nat.pow_succ', Nat.div_div_eq_div_mul]

theorem ofDigits_cut (base size n : Nat) :
    Nat.ofDigits base (cut base size n) = n % base ^ size := by
  induction size generalizing n with
  | zero => simp [cut, Nat.mod_one]
  | succ size ih =>
    have hsplit : n % base ^ (size + 1) = n % base + base * (n / base % base ^ size) := by
      rw [Nat.pow_succ', Nat.mod_mul]
    rw [cut_succ, Nat.ofDigits_cons, ih, hsplit]

/-- A number that fits reads back from its digits. -/
theorem ofDigits_cut_of_lt {base size n : Nat} (h : n < base ^ size) :
    Nat.ofDigits base (cut base size n) = n := by
  rw [ofDigits_cut, Nat.mod_eq_of_lt h]

theorem cut_lt {base : Nat} (hbase : 0 < base) (size n : Nat) :
    ∀ d ∈ cut base size n, d < base := by
  intro d hd
  obtain ⟨i, -, rfl⟩ := List.mem_map.mp hd
  exact Nat.mod_lt _ hbase

end LittleEndian
