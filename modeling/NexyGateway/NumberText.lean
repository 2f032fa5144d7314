import Mathlib.Data.List.TakeWhile
import NexyGateway.ObjectText

/-!
# Integers as text

Which texts `int` takes, and the text of an integer in front of the decoder: it is spelled as
the grammar has it, with no zero in front.
-/
namespace PyDecoder

open PyNumber PyJson

section Grammar

variable {base acc n : Nat} {c : Char} {cs : List Char} {s : String} {k : Int}

theorem digitValue_lt {d : Nat} (h : digitValue base c = some d) : d < base := by
  unfold digitValue at h
  simpa using (Option.filter_eq_some_iff.mp h).2

/-- A character of a number: a digit, or an underscore between digits. -/
def isNumeral (base : Nat) (c : Char) : Bool := c = '_' || (digitValue base c).isSome

/-- Every character of the text is a numeral, and the value has no more digits than the text. -/
structure Numeral (base acc : Nat) (cs : List Char) (n : Nat) : Prop where
  all : ∀ c ∈ cs, isNumeral base c = true
  bound : n < (acc + 1) * base ^ (cs.filter (fun c => c != '_')).length

theorem Numeral.digit {d : Nat} (hd : digitValue base c = some d)
    (h : Numeral base (acc * base + d) cs n) : Numeral base acc (c :: cs) n := by
  have hlt := digitValue_lt hd
  have hstep : acc * base + d + 1 ≤ (acc + 1) * base := by
    rw [Nat.add_mul]
    omega
  refine ⟨List.forall_mem_cons.mpr ⟨by simp [isNumeral, hd], h.all⟩, ?_⟩
  by_cases hunder : c = '_'
  · subst hunder
    cases hd
  · rw [List.filter_cons_of_pos (by simp [hunder]), List.length_cons, Nat.pow_succ',
      ← Nat.mul_assoc]
    exact Nat.lt_of_lt_of_le h.bound (Nat.mul_le_mul_right _ hstep)

theorem Numeral.underscore (h : Numeral base acc cs n) : Numeral base acc ('_' :: cs) n :=
  ⟨List.forall_mem_cons.mpr ⟨rfl, h.all⟩, h.bound⟩

theorem digitsFrom_numeral (h : digitsFrom base acc cs = some n) : Numeral base acc cs n := by
  induction acc, cs using digitsFrom.induct base with
  | case1 acc =>
    cases h
    exact ⟨List.forall_mem_nil _, by simp⟩
  | case2 acc c rest ih =>
    rw [digitsFrom] at h
    obtain ⟨d, hd, hrest⟩ := Option.bind_eq_some_iff.mp h
    exact ((ih d hrest).digit hd).underscore
  | case3 acc c rest hne ih =>
    rw [digitsFrom.eq_3 base acc c rest hne] at h
    obtain ⟨d, hd, hrest⟩ := Option.bind_eq_some_iff.mp h
    exact (ih d hrest).digit hd

theorem digits_numeral (h : digits base cs = some n) : Numeral base 0 cs n := by
  cases cs with
  | nil => cases h
  | cons c rest =>
    obtain ⟨d, hd, hrest⟩ := Option.bind_eq_some_iff.mp (show (digitValue base c).bind _ = _ from h)
    have hnumeral : Numeral base (0 * base + d) rest n := by
      rw [Nat.zero_mul, Nat.zero_add]
      exact digitsFrom_numeral hrest
    exact hnumeral.digit hd

theorem decimal_numeral (h : decimal cs = some n) :
    (∀ c ∈ cs, isNumeral 10 c = true) ∧ n < 10 ^ maxStrDigits := by
  unfold decimal at h
  split at h
  · rename_i hlength
    have hnumeral := digits_numeral h
    refine ⟨hnumeral.all, Nat.lt_of_lt_of_le hnumeral.bound ?_⟩
    rw [Nat.zero_add, Nat.one_mul]
    exact Nat.pow_le_pow_right (by decide) hlength
  · cases h

theorem isSpace_or_mem_dropWhile (h : c ∈ cs) : isSpace c = true ∨ c ∈ cs.dropWhile isSpace := by
  rw [← List.takeWhile_append_dropWhile (p := isSpace) (l := cs), List.mem_append] at h
  exact h.imp List.mem_takeWhile_imp id

theorem isSpace_or_mem_strip (h : c ∈ cs) : isSpace c = true ∨ c ∈ strip cs := by
  unfold strip
  rw [List.mem_reverse]
  rcases isSpace_or_mem_dropWhile h with hspace | hdrop
  · exact .inl hspace
  · exact isSpace_or_mem_dropWhile (List.mem_reverse.mpr hdrop)

/-- A character of a text that `int` takes. -/
def isIntChar (c : Char) : Bool := isSpace c || c = '-' || c = '+' || isNumeral 10 c

theorem signed_numeral (h : signed decimal cs = some k) :
    (∀ c ∈ cs, c = '-' ∨ c = '+' ∨ isNumeral 10 c = true) ∧ k.natAbs < 10 ^ maxStrDigits := by
  unfold signed at h
  split at h
  all_goals
    obtain ⟨m, hm, rfl⟩ := Option.map_eq_some_iff.mp h
    obtain ⟨n, hn, hcast⟩ := Option.bind_eq_some_iff.mp hm
    cases hcast
    obtain ⟨hall, hbound⟩ := decimal_numeral hn
  · rw [Int.natAbs_neg, Int.natAbs_natCast]
    exact ⟨List.forall_mem_cons.mpr ⟨.inl rfl, fun c hc => .inr (.inr (hall c hc))⟩, hbound⟩
  · rw [Int.natAbs_natCast]
    exact ⟨List.forall_mem_cons.mpr ⟨.inr (.inl rfl), fun c hc => .inr (.inr (hall c hc))⟩, hbound⟩
  · rw [Int.natAbs_natCast]
    exact ⟨fun c hc => .inr (.inr (hall c hc)), hbound⟩

/-- `int` takes nothing but white space, signs, digits and underscores. -/
theorem int_chars (h : PyNumber.int s = some k) : ∀ c ∈ s.toList, isIntChar c = true := by
  intro c hc
  rcases isSpace_or_mem_strip hc with hspace | hstrip
  · simp [isIntChar, hspace]
  · rcases (signed_numeral h).1 c hstrip with hminus | hplus | hnumeral
    · simp [isIntChar, hminus]
    · simp [isIntChar, hplus]
    · simp [isIntChar, hnumeral]

/-- No text that `int` takes has the end of a field in it. -/
theorem int_separator (h : PyNumber.int s = some k) : ∀ c ∈ s.toList, isSeparator c = false := by
  intro c hc
  have hchar := int_chars h c hc
  by_contra hsep
  simp only [isSeparator, Bool.or_eq_true, decide_eq_true_eq, Bool.not_eq_false] at hsep
  rcases hsep with rfl | rfl
  · exact absurd hchar (by decide)
  · exact absurd hchar (by decide)

theorem int_bound (h : PyNumber.int s = some k) : k.natAbs < 10 ^ maxStrDigits :=
  (signed_numeral h).2

end Grammar

/-! ### The text of an integer -/

section Text

variable {n : Nat} {k : Int}

/-- Only the zero itself begins with one. -/
theorem toDigits_head (n : Nat) :
    ∃ c rest, Nat.toDigits 10 n = c :: rest ∧ (c = '0' → n = 0) := by
  induction n using Nat.strongRecOn with
  | ind n ih =>
    by_cases hbase : n < 10
    · refine ⟨n.digitChar, [], Nat.toDigits_of_lt_base hbase, ?_⟩
      clear ih
      revert n
      decide
    · obtain ⟨c, rest, hdigits, hc⟩ := ih (n / 10) (by omega)
      refine ⟨c, rest ++ [(n % 10).digitChar], ?_, fun hzero => by have := hc hzero; omega⟩
      rw [Nat.toDigits_of_base_le (by decide) (by omega), hdigits, List.cons_append]

theorem isDigit_toDigits {c : Char} (h : c ∈ Nat.toDigits 10 n) : c.isDigit = true :=
  Nat.isDigit_of_mem_toDigits (by decide) (by decide) h

theorem scanInteger_toDigits (n : Nat) :
    scanInteger (Nat.toDigits 10 n) = some (Nat.toDigits 10 n, []) := by
  obtain ⟨c, rest, hdigits, hzero⟩ := toDigits_head n
  have hall : ∀ d ∈ c :: rest, d.isDigit = true := fun d hd => isDigit_toDigits (hdigits ▸ hd)
  by_cases hc : c = '0'
  · obtain rfl := hzero hc
    rfl
  · have hspan : spanDigits (c :: rest) = (c :: rest, []) := by
      unfold spanDigits
      rw [List.takeWhile_eq_self_iff.mpr hall, List.dropWhile_eq_nil_iff.mpr hall]
    rw [hdigits, scanInteger, if_neg hc, if_pos (hall c List.mem_cons_self), hspan]

theorem scanSign_toDigits (n : Nat) :
    scanSign (Nat.toDigits 10 n) = (false, Nat.toDigits 10 n) := by
  obtain ⟨c, rest, hdigits, -⟩ := toDigits_head n
  have hc : c.isDigit = true := isDigit_toDigits (hdigits ▸ List.mem_cons_self)
  have hminus : c ≠ '-' := by
    rintro rfl
    cases hc
  rw [hdigits, scanSign, if_neg hminus]

/-- The digits of a number behind its sign. -/
theorem scanNumber_toDigits {cs : List Char} {negative : Bool}
    (hsign : scanSign cs = (negative, Nat.toDigits 10 n)) (h : n < 10 ^ maxStrDigits) :
    scanNumber cs = .ok (.int (if negative then -(n : Int) else n), []) := by
  have hlength : (Nat.toDigits 10 n).length ≤ maxStrDigits :=
    (Nat.length_toDigits_le_iff (by decide) (by decide)).mpr h
  have hliteral : scanLiteral cs = some (⟨negative, Nat.toDigits 10 n, [], [], false⟩, []) := by
    simp only [scanLiteral, hsign, scanInteger_toDigits]
    rfl
  have hvalue : natOf (Nat.toDigits 10 n) = n := Nat.ofDigitChars_ten_toDigits
  simp only [scanNumber, hliteral, Literal.value, and_self, if_true, if_pos hlength, hvalue,
    Except.map]

theorem reads_of_number {cs : List Char} {v : Json} (h : scanNumber cs = .ok (v, [])) :
    Reads cs v := by
  have hskip : skip cs = cs := by
    cases cs with
    | nil => cases h
    | cons c cs =>
      have hblank : isBlank c = false := by
        by_contra hc
        have hc' := isBlank_delimiter ((Bool.not_eq_false _).mp hc)
        rcases scanNumber_head h with rfl | hdigit
        · cases hc'
        · rw [isDigit_delimiter hc'] at hdigit
          cases hdigit
      exact List.dropWhile_cons_of_neg (by simp [hblank])
  refine ⟨1, [], ?_, rfl⟩
  rw [hskip]
  exact scanValue_of_number h 0

theorem toList_ofNat (n : Nat) : (toString (Int.ofNat n)).toList = Nat.toDigits 10 n :=
  Nat.toList_repr

theorem toList_negSucc (n : Nat) :
    (toString (Int.negSucc n)).toList = '-' :: Nat.toDigits 10 (n + 1) := by
  rw [← Nat.toList_repr]
  exact String.toList_append

/-- An integer is read back from its text. -/
theorem reads_toString (h : k.natAbs < 10 ^ maxStrDigits) :
    Reads (toString k).toList (.int k) := by
  cases k with
  | ofNat n =>
    rw [toList_ofNat]
    exact reads_of_number (scanNumber_toDigits (scanSign_toDigits n) h)
  | negSucc n =>
    rw [toList_negSucc]
    have hsign : scanSign ('-' :: Nat.toDigits 10 (n + 1)) = (true, Nat.toDigits 10 (n + 1)) := rfl
    exact reads_of_number (scanNumber_toDigits hsign h)

theorem isSeparator_isDigit {c : Char} (h : c.isDigit = true) : isSeparator c = false := by
  by_contra hc
  have hdelimiter := isDelimiter_separator ((Bool.not_eq_false _).mp hc)
  rw [isDigit_delimiter hdelimiter] at h
  cases h

theorem toString_separator (k : Int) : ∀ c ∈ (toString k).toList, isSeparator c = false := by
  have hdigits : ∀ n, ∀ c ∈ Nat.toDigits 10 n, isSeparator c = false :=
    fun n c hc => isSeparator_isDigit (isDigit_toDigits hc)
  cases k with
  | ofNat n =>
    rw [toList_ofNat]
    exact hdigits n
  | negSucc n =>
    rw [toList_negSucc]
    exact List.forall_mem_cons.mpr ⟨rfl, hdigits (n + 1)⟩

end Text

end PyDecoder
