import Mathlib.Algebra.Group.Int.Defs
import Mathlib.Algebra.Group.Nat.Defs
import Mathlib.Data.List.Basic

/-!
# Python number literals

The part of Python's text model that turns a string into an integer: Unicode
decimal digits and white space (database 16.0), `str.isdigit`, and `int` with
base ten, base sixteen and the base-zero spelling of a hexadecimal literal.
A failed conversion, `ValueError` in Python, is `none`.
-/
namespace PyNumber

/-- Exception classes raised by the modelled code. -/
inductive PyError where
  | valueError | typeError | keyError | indexError | attributeError | overflowError
  deriving DecidableEq, Repr

/-- First code point of every block of ten decimal digits (category Nd). -/
def decimalZeros : List Nat :=
  [0x30, 0x660, 0x6f0, 0x7c0, 0x966, 0x9e6, 0xa66, 0xae6, 0xb66, 0xbe6, 0xc66, 0xce6, 0xd66,
   0xde6, 0xe50, 0xed0, 0xf20, 0x1040, 0x1090, 0x17e0, 0x1810, 0x1946, 0x19d0, 0x1a80, 0x1a90,
   0x1b50, 0x1bb0, 0x1c40, 0x1c50, 0xa620, 0xa8d0, 0xa900, 0xa9d0, 0xa9f0, 0xaa50, 0xabf0,
   0xff10, 0x104a0, 0x10d30, 0x10d40, 0x11066, 0x110f0, 0x11136, 0x111d0, 0x112f0, 0x11450,
   0x114d0, 0x11650, 0x116c0, 0x116d0, 0x116da, 0x11730, 0x118e0, 0x11950, 0x11bf0, 0x11c50,
   0x11d50, 0x11da0, 0x11f50, 0x16130, 0x16a60, 0x16ac0, 0x16b50, 0x16d70, 0x1ccf0, 0x1d7ce,
   0x1d7d8, 0x1d7e2, 0x1d7ec, 0x1d7f6, 0x1e140, 0x1e2f0, 0x1e4f0, 0x1e5f1, 0x1e950, 0x1fbf0]

/-- Code points that `isdigit` accepts although they are not decimal digits. -/
def digitRanges : List (Nat × Nat) :=
  [(0xb2, 0xb3), (0xb9, 0xb9), (0x1369, 0x1371), (0x19da, 0x19da), (0x2070, 0x2070),
   (0x2074, 0x2079), (0x2080, 0x2089), (0x2460, 0x2468), (0x2474, 0x247c), (0x2488, 0x2490),
   (0x24ea, 0x24ea), (0x24f5, 0x24fd), (0x24ff, 0x24ff), (0x2776, 0x277e), (0x2780, 0x2788),
   (0x278a, 0x2792), (0x10a40, 0x10a43), (0x10e60, 0x10e68), (0x11052, 0x1105a),
   (0x1f100, 0x1f10a)]

def decimalDigit? (c : Char) : Option Nat :=
  (decimalZeros.find? (fun z => z ≤ c.toNat && c.toNat < z + 10)).map (fun z => c.toNat - z)

def isDigitChar (c : Char) : Bool :=
  (decimalDigit? c).isSome || digitRanges.any (fun r => r.1 ≤ c.toNat && c.toNat ≤ r.2)

/-- Python's `str.isdigit`: not empty, and every character is a digit. -/
def isDigit (s : String) : Bool := !s.toList.isEmpty && s.toList.all isDigitChar

/-- White space beyond ASCII, as `int` strips it. -/
def wideSpaces : List Nat :=
  [0x85, 0xa0, 0x1680, 0x2000, 0x2001, 0x2002, 0x2003, 0x2004, 0x2005, 0x2006, 0x2007, 0x2008,
   0x2009, 0x200a, 0x2028, 0x2029, 0x202f, 0x205f, 0x3000]

def isSpace (c : Char) : Bool :=
  c = ' ' || (9 ≤ c.toNat && c.toNat ≤ 13) || wideSpaces.contains c.toNat

def strip (cs : List Char) : List Char :=
  ((cs.dropWhile isSpace).reverse.dropWhile isSpace).reverse

/-- Value of one digit in the given base; letters stand for ten and above. -/
def digitValue (base : Nat) (c : Char) : Option Nat :=
  let value :=
    match decimalDigit? c with
    | some d => some d
    | none =>
      if 'a' ≤ c && c ≤ 'z' then some (c.toNat - 'a'.toNat + 10)
      else if 'A' ≤ c && c ≤ 'Z' then some (c.toNat - 'A'.toNat + 10)
      else none
  value.filter (fun d => d < base)

/-- Digits after the first one; single underscores may stand between digits. -/
def digitsFrom (base acc : Nat) : List Char → Option Nat
  | [] => some acc
  | '_' :: c :: rest => (digitValue base c).bind (fun d => digitsFrom base (acc * base + d) rest)
  | c :: rest => (digitValue base c).bind (fun d => digitsFrom base (acc * base + d) rest)

def digits (base : Nat) : List Char → Option Nat
  | [] => none
  | c :: rest => (digitValue base c).bind (fun d => digitsFrom base d rest)

/-- CPython refuses longer decimal literals (`sys.set_int_max_str_digits`). -/
def maxStrDigits : Nat := 4300

def decimal (cs : List Char) : Option Nat :=
  if (cs.filter (fun c => c != '_')).length ≤ maxStrDigits then digits 10 cs else none

/-- Digits of a base sixteen literal, after the optional `0x` and one underscore. -/
def hexadecimal : List Char → Option Nat
  | z :: x :: rest =>
    if decimalDigit? z = some 0 && (x = 'x' || x = 'X') then
      match rest with
      | '_' :: rest => digits 16 rest
      | rest => digits 16 rest
    else digits 16 (z :: x :: rest)
  | cs => digits 16 cs

def signed (body : List Char → Option Nat) : List Char → Option Int
  | '-' :: rest => (body rest).map (fun n => -(n : Int))
  | '+' :: rest => (body rest).map (fun n => (n : Int))
  | cs => (body cs).map (fun n => (n : Int))

/-- Python's `int(s)`. -/
def int (s : String) : Option Int := signed decimal (strip s.toList)

/-- Python's `int(s, 16)`, which is also `int(s, 0)` on text spelled with `0x`. -/
def intHex (s : String) : Option Int := signed hexadecimal (strip s.toList)

/-- Digits of a base two literal, after the optional `0b` and one underscore. -/
def binary : List Char → Option Nat
  | z :: b :: rest =>
    if decimalDigit? z = some 0 && (b = 'b' || b = 'B') then
      match rest with
      | '_' :: rest => digits 2 rest
      | rest => digits 2 rest
    else digits 2 (z :: b :: rest)
  | cs => digits 2 cs

/-- Python's `int(s, 2)`. -/
def intBin (s : String) : Option Int := signed binary (strip s.toList)

/-- Python's `str(n)`, which refuses the same lengths as `int`. -/
def str (n : Int) : Option String :=
  if (toString n.natAbs).length ≤ maxStrDigits then some (toString n) else none

/-- The test `s.lower().startswith(("0x", "-0x"))`. Only `X` lowers to `x`. -/
def hexSpelled (s : String) : Bool :=
  match s.toList with
  | '0' :: x :: _ => x = 'x' || x = 'X'
  | '-' :: '0' :: x :: _ => x = 'x' || x = 'X'
  | _ => false

/-- `ctypes.c_int32(v).value`: the low 32 bits, read as a signed number. -/
def cInt32 (v : Int) : Int := v.bmod (2 ^ 32)

theorem dropWhile_head {cs : List Char} (h : ∀ c ∈ cs.head?, isSpace c = false) :
    cs.dropWhile isSpace = cs := by
  cases cs with
  | nil => rfl
  | cons c rest => simp [h c rfl]

/-- Text that begins and ends with visible characters survives stripping at the front. -/
theorem strip_append (front rest : List Char) (hne : front ≠ [])
    (hhead : ∀ c ∈ front.head?, isSpace c = false)
    (hlast : ∀ c ∈ front.getLast?, isSpace c = false) :
    ∃ tail, strip (front ++ rest) = front ++ tail := by
  have hd : (front ++ rest).dropWhile isSpace = front ++ rest := by
    apply dropWhile_head
    intro c hc
    exact hhead c (by rwa [List.head?_append_of_ne_nil _ hne] at hc)
  have hl : front.reverse.dropWhile isSpace = front.reverse := by
    apply dropWhile_head
    intro c hc
    exact hlast c (by rwa [List.head?_reverse] at hc)
  unfold strip
  rw [hd, List.reverse_append, List.dropWhile_append, hl]
  split
  · exact ⟨[], by simp⟩
  · exact ⟨(rest.reverse.dropWhile isSpace).reverse, by simp⟩

theorem decimal_hexSpelled (z x : Char) (rest : List Char) (hz : digitValue 10 z = some 0)
    (hx : digitValue 10 x = none) (hu : x ≠ '_') : decimal (z :: x :: rest) = none := by
  have h : digits 10 (z :: x :: rest) = none := by
    simp only [digits, hz, Option.bind_some]
    rw [digitsFrom.eq_3 10 0 x rest (by intro c r he; exact absurd he hu), hx, Option.bind_none]
  unfold decimal
  split
  · exact h
  · rfl

/-- Decimal conversion refuses every text that spells a hexadecimal literal. -/
theorem int_hexSpelled (s : String) (h : hexSpelled s = true) : int s = none := by
  have hdec : ∀ x rest, (decide (x = 'x') || decide (x = 'X')) = true →
      decimal ('0' :: x :: rest) = none := by
    intro x rest hx
    rcases Bool.or_eq_true_iff.mp hx with hx | hx <;> rw [of_decide_eq_true hx] <;>
      exact decimal_hexSpelled _ _ rest (by decide) (by decide) (by decide)
  have hspace : ∀ x : Char, (decide (x = 'x') || decide (x = 'X')) = true →
      isSpace x = false := by
    intro x hx
    rcases Bool.or_eq_true_iff.mp hx with hx | hx <;> rw [of_decide_eq_true hx] <;> decide
  unfold hexSpelled at h
  unfold int
  split at h
  · rename_i x rest he
    obtain ⟨tail, ht⟩ := strip_append ['0', x] rest (by simp) (by simp; decide)
      (by simpa using hspace x h)
    simp only [List.cons_append, List.nil_append] at ht
    rw [he, ht]
    simp [signed, hdec x tail h]
  · rename_i x rest he
    obtain ⟨tail, ht⟩ := strip_append ['-', '0', x] rest (by simp) (by simp; decide)
      (by simpa using hspace x h)
    simp only [List.cons_append, List.nil_append] at ht
    rw [he, ht]
    simp [signed, hdec x tail h]
  · cases h

section RoundTrip

theorem isDigit_range {c : Char} (h : c.isDigit = true) : 48 ≤ c.toNat ∧ c.toNat ≤ 57 := by
  simp only [Char.isDigit, Bool.and_eq_true, decide_eq_true_eq] at h
  exact ⟨h.1, h.2⟩

theorem digitValue_digit {c : Char} (h : c.isDigit = true) :
    digitValue 10 c = some (c.toNat - 48) := by
  obtain ⟨hlow, hhigh⟩ := isDigit_range h
  have hfind : decimalDigit? c = some (c.toNat - 48) := by
    unfold decimalDigit? decimalZeros
    rw [List.find?_cons_of_pos]
    · rfl
    · simp
      omega
  simp only [digitValue, hfind, Option.filter_some]
  rw [if_pos]
  simp
  omega

theorem isSpace_digit {c : Char} (h : c.isDigit = true) : isSpace c = false := by
  obtain ⟨hlow, hhigh⟩ := isDigit_range h
  have hspace : c ≠ ' ' := by
    rintro rfl
    cases h
  have hwide : c.toNat ∉ wideSpaces := by
    intro hmem
    simp only [wideSpaces, List.mem_cons, List.not_mem_nil, or_false] at hmem
    omega
  simp only [isSpace, hspace, decide_false, Bool.false_or, List.contains_eq_mem, hwide,
    Bool.or_false, Bool.and_eq_false_iff, decide_eq_false_iff_not]
  omega

theorem strip_digits {cs : List Char} (h : ∀ c ∈ cs, c.isDigit = true) : strip cs = cs := by
  have hdrop : ∀ {l : List Char}, (∀ c ∈ l, c.isDigit = true) → l.dropWhile isSpace = l := by
    intro l hl
    cases l with
    | nil => rfl
    | cons c l => exact List.dropWhile_cons_of_neg (by simp [isSpace_digit (hl c List.mem_cons_self)])
  unfold strip
  rw [hdrop h, hdrop (fun c hc => h c (List.mem_reverse.mp hc)), List.reverse_reverse]

theorem digitsFrom_cons {base acc : Nat} {c : Char} {cs : List Char} (h : c.isDigit = true) :
    digitsFrom base acc (c :: cs) =
      (digitValue base c).bind (fun d => digitsFrom base (acc * base + d) cs) := by
  have hunder : c ≠ '_' := by
    rintro rfl
    cases h
  exact digitsFrom.eq_3 base acc c cs (fun _ _ he => absurd he hunder)

theorem signed_digit {body : List Char → Option Nat} {c : Char} {cs : List Char}
    (h : c.isDigit = true) : signed body (c :: cs) = (body (c :: cs)).map (fun n => (n : Int)) := by
  have hminus : c ≠ '-' := by
    rintro rfl
    cases h
  have hplus : c ≠ '+' := by
    rintro rfl
    cases h
  exact signed.eq_3 body _ (fun _ he => hminus (List.cons.inj he).1)
    (fun _ he => hplus (List.cons.inj he).1)

theorem digitsFrom_digits {cs : List Char} (h : ∀ c ∈ cs, c.isDigit = true) (acc : Nat) :
    digitsFrom 10 acc cs = some (Nat.ofDigitChars 10 cs acc) := by
  induction cs generalizing acc with
  | nil => rfl
  | cons c cs ih =>
    obtain ⟨hc, hcs⟩ := List.forall_mem_cons.mp h
    rw [digitsFrom_cons hc, digitValue_digit hc, Option.bind_some, ih hcs,
      Nat.ofDigitChars_cons, Nat.mul_comm]
    rfl

/-- The text of a number consists of digits. -/
theorem isDigit_toString (n : Nat) : isDigit (toString n) = true := by
  unfold isDigit
  rw [Nat.toString_eq_ofList_toDigits, String.toList_ofList, Bool.and_eq_true,
    Bool.not_eq_true', List.isEmpty_eq_false_iff, List.all_eq_true]
  refine ⟨Nat.toDigits_ne_nil, ?_⟩
  intro c hc
  have hdigit : c.isDigit = true := Nat.isDigit_of_mem_toDigits (by decide) (by decide) hc
  obtain ⟨hlow, hhigh⟩ := isDigit_range hdigit
  have hfind : (decimalDigit? c).isSome = true := by
    unfold decimalDigit? decimalZeros
    rw [List.find?_cons_of_pos]
    · rfl
    · simp
      omega
  rw [isDigitChar, hfind, Bool.true_or]

/-- A number is read back from its text. -/
theorem int_toString {n : Nat} (h : n < 10 ^ maxStrDigits) : int (toString n) = some (n : Int) := by
  have hdigits : ∀ c ∈ Nat.toDigits 10 n, c.isDigit = true :=
    fun c hc => Nat.isDigit_of_mem_toDigits (by decide) (by decide) hc
  have hlength : (Nat.toDigits 10 n).length ≤ maxStrDigits :=
    (Nat.length_toDigits_le_iff (by decide) (by decide)).mpr h
  have hfrom := digitsFrom_digits hdigits 0
  rw [Nat.ofDigitChars_ten_toDigits] at hfrom
  unfold int
  rw [Nat.toString_eq_ofList_toDigits, String.toList_ofList, strip_digits hdigits]
  have hdecimal : decimal (Nat.toDigits 10 n) = some n := by
    unfold decimal
    rw [if_pos (Nat.le_trans (List.length_filter_le ..) hlength)]
    cases hcs : Nat.toDigits 10 n with
    | nil => exact absurd hcs Nat.toDigits_ne_nil
    | cons c cs =>
      rw [hcs] at hfrom hdigits
      have hc := digitValue_digit (hdigits c List.mem_cons_self)
      rw [digitsFrom_cons (hdigits c List.mem_cons_self), hc, Option.bind_some, Nat.zero_mul,
        Nat.zero_add] at hfrom
      rw [digits, hc, Option.bind_some, hfrom]
  cases hcs : Nat.toDigits 10 n with
  | nil => exact absurd hcs Nat.toDigits_ne_nil
  | cons c cs =>
    have hc := hdigits c (hcs ▸ List.mem_cons_self)
    rw [signed_digit hc, ← hcs, hdecimal]
    rfl

/-- So is a number of 32 bits, whose text is far shorter than the longest that is read. -/
theorem int_toString_word {n : Nat} (h : n < 2 ^ 32) : int (toString n) = some (n : Int) := by
  apply int_toString
  calc n < 2 ^ 32 := h
    _ ≤ 10 ^ 10 := by decide
    _ ≤ 10 ^ maxStrDigits := Nat.pow_le_pow_right (by decide) (by decide)

end RoundTrip

end PyNumber
