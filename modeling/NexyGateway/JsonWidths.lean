import Mathlib.Algebra.GroupWithZero.Nat
import NexyGateway.JsonText

/-!
# Width of JSON texts

How many bytes the encoder writes. A character of a string takes one, two, six or twelve of
them, and the width of an array or an object is the sum of what is put together.
-/
namespace JsonText

/-- The width of a character in a string. -/
def charWidth (c : Char) : Nat :=
  if c = '"' ∨ c = '\\' ∨ c = '\n' ∨ c = '\r' ∨ c = '\t' ∨ c.toNat = 0x0c ∨ c.toNat = 0x08 then 2
  else if ' ' ≤ c && c ≤ '~' then 1
  else if c.toNat < 0x10000 then 6
  else 12

/-- The width of a string without its quotes. -/
def textWidth (s : String) : Nat := (s.toList.map charWidth).sum

def numberWidth (n : Int) : Nat := (integer n).utf8ByteSize

theorem size_ofList (cs : List Char) :
    (String.ofList cs).utf8ByteSize = (cs.map Char.utf8Size).sum := by
  induction cs with
  | nil => rfl
  | cons c cs ih =>
    rw [String.ofList_cons, String.utf8ByteSize_append, ih, String.utf8ByteSize_singleton,
      List.map_cons, List.sum_cons]

theorem size_join (texts : List String) :
    (String.join texts).utf8ByteSize = (texts.map String.utf8ByteSize).sum := by
  induction texts with
  | nil => simp
  | cons text texts ih => simp [ih]

theorem size_intercalate (sep : String) (texts : List String) :
    (sep.intercalate texts).utf8ByteSize =
      (texts.map String.utf8ByteSize).sum + (texts.length - 1) * sep.utf8ByteSize := by
  induction texts with
  | nil => simp
  | cons text texts ih =>
    cases texts with
    | nil => simp
    | cons next texts =>
      rw [String.intercalate_cons_cons, String.utf8ByteSize_append, String.utf8ByteSize_append, ih]
      simp only [List.map_cons, List.sum_cons, List.length_cons, Nat.add_sub_cancel,
        Nat.succ_mul]
      omega

theorem utf8Size_digitChar (d : Nat) : d.digitChar.utf8Size = 1 := by
  have hdigit : ∀ d < 16, d.digitChar.utf8Size = 1 := by decide
  by_cases h : d < 16
  · exact hdigit d h
  · unfold Nat.digitChar
    iterate 16 rw [if_neg (by omega)]
    rfl

theorem utf8Size_toDigits {b n : Nat} (hb : 1 < b) :
    ((Nat.toDigits b n).map Char.utf8Size).sum = (Nat.toDigits b n).length := by
  induction n using Nat.strongRecOn with
  | ind n ih =>
    rw [Nat.toDigits_eq_if hb]
    split_ifs with h
    · simp [utf8Size_digitChar]
    · have hlt : n / b < n := Nat.div_lt_self (by omega) hb
      simp [ih _ hlt, utf8Size_digitChar]

theorem size_hex4 {n : Nat} (h : n < 0x10000) : (hex4 n).utf8ByteSize = 4 := by
  have hlength : (Nat.toDigits 16 n).length ≤ 4 :=
    (Nat.length_toDigits_le_iff (by decide) (by decide)).mpr h
  have hzero : '0'.utf8Size = 1 := rfl
  rw [hex4, size_ofList, List.map_append, List.sum_append, utf8Size_toDigits (by decide),
    List.map_replicate, hzero, List.sum_replicate_nat]
  omega

theorem size_unicodeEscape (c : Char) :
    (unicodeEscape c.toNat).utf8ByteSize = if c.toNat < 0x10000 then 6 else 12 := by
  have hu : "\\u".utf8ByteSize = 2 := rfl
  have hmax : c.toNat < 0x110000 := by
    have := c.valid
    simp only [Char.toNat]
    omega
  unfold unicodeEscape
  split_ifs with h
  · rw [String.utf8ByteSize_append, hu, size_hex4 h]
  · simp only [String.utf8ByteSize_append, hu]
    rw [size_hex4 (by omega), size_hex4 (by omega)]

theorem size_escape (c : Char) : (escape c).utf8ByteSize = charWidth c := by
  by_cases hshort : c = '"' ∨ c = '\\' ∨ c = '\n' ∨ c = '\r' ∨ c = '\t' ∨ c.toNat = 0x0c ∨
      c.toNat = 0x08
  · rw [charWidth, if_pos hshort]
    unfold escape
    split_ifs <;> first | rfl | simp_all
  · rw [charWidth, if_neg hshort]
    simp only [not_or] at hshort
    obtain ⟨hquote, hslash, hn, hr, ht, hf, hb⟩ := hshort
    rw [escape, if_neg hquote, if_neg hslash, if_neg hn, if_neg hr, if_neg ht, if_neg hf, if_neg hb]
    by_cases hplain : (' ' ≤ c && c ≤ '~') = true
    · rw [if_pos hplain, if_pos hplain, String.utf8ByteSize_singleton]
      have hle : c ≤ '~' := of_decide_eq_true (Bool.and_eq_true_iff.mp hplain).2
      exact Char.utf8Size_eq_one_iff.mpr (UInt32.le_trans hle (by decide))
    · rw [if_neg hplain, if_neg hplain, size_unicodeEscape]

theorem size_string (s : String) : (string s).utf8ByteSize = 2 + textWidth s := by
  have hquote : "\"".utf8ByteSize = 1 := rfl
  have hescape : String.utf8ByteSize ∘ escape = charWidth := funext size_escape
  rw [string, String.utf8ByteSize_append, String.utf8ByteSize_append, hquote, size_join,
    List.map_map, hescape, textWidth]
  omega

theorem size_array (items : List String) : (array compact items).utf8ByteSize =
    2 + (items.map String.utf8ByteSize).sum + (items.length - 1) := by
  have hbracket : "[".utf8ByteSize = 1 := rfl
  have hclose : "]".utf8ByteSize = 1 := rfl
  have hcomma : compact.item.utf8ByteSize = 1 := rfl
  rw [array, String.utf8ByteSize_append, String.utf8ByteSize_append, size_intercalate, hbracket,
    hclose, hcomma]
  omega

def memberWidth (m : String × String) : Nat := 3 + textWidth m.1 + m.2.utf8ByteSize

theorem size_object (members : List (String × String)) : (object compact members).utf8ByteSize =
    2 + (members.map memberWidth).sum + (members.length - 1) := by
  have hbrace : "\x7b".utf8ByteSize = 1 := rfl
  have hclose : "\x7d".utf8ByteSize = 1 := rfl
  have hcomma : compact.item.utf8ByteSize = 1 := rfl
  have hcolon : compact.key.utf8ByteSize = 1 := rfl
  have hmember : String.utf8ByteSize ∘
      (fun m : String × String => string m.1 ++ compact.key ++ m.2) = memberWidth := by
    funext m
    rw [Function.comp_apply, String.utf8ByteSize_append, String.utf8ByteSize_append, size_string,
      hcolon, memberWidth]
    omega
  rw [object, String.utf8ByteSize_append, String.utf8ByteSize_append, size_intercalate, hbrace,
    hclose, hcomma, List.map_map, hmember, List.length_map]
  omega

/-- A number below a power of ten has no more digits than the exponent. -/
theorem numberWidth_le {n k : Nat} (hk : 0 < k) (h : n < 10 ^ k) : numberWidth n ≤ k := by
  have hdigits : integer n = String.ofList (Nat.toDigits 10 n) := rfl
  rw [numberWidth, hdigits, size_ofList, utf8Size_toDigits (by decide)]
  exact (Nat.length_toDigits_le_iff (by decide) hk).mpr h

end JsonText
