import NexyGateway.AhlCoherence
import NexyGateway.ModbusSpelling

/-!
# Registers as a code for numbers

A value is packed into two registers, and two registers are read as a value. One pair of
registers is taken: a controller answers with it for a parameter that it does not have.
-/
namespace NexyGateway.AhlCache

open AhlLib ModbusHandler

/-- A value that a register can hold. -/
def Represents (value : String) (r : Register) : Prop := parseIntValue value = some r.val

/-- The registers of a value. -/
def Register.words (r : Register) : List Int := [r.val / 2 ^ 16 % 2 ^ 16, r.val % 2 ^ 16]

/-- The pair that stands for a parameter that is not there. -/
def deadWords : List Int := [0xDEAD, 0xDEAD]

/-- What the registers of a value text are, and what is made of them. -/
structure FaithfulCodec (value : String) : Prop where
  packs : (∃ words, packValue value = some words ∧ words.length = 2 ∧
      ∀ w ∈ words, 0 ≤ w ∧ w ≤ 65535) ↔
    ∃ v, parseIntValue value = some v ∧ -2 ^ 31 ≤ v ∧ v ≤ 2 ^ 31 - 1
  refuses : packValue value = none ↔
    ¬ ∃ v, parseIntValue value = some v ∧ -2 ^ 31 ≤ v ∧ v ≤ 2 ^ 31 - 1
  injective : ∀ value' words words', packValue value = some words →
    packValue value' = some words' → (words = words' ↔ parseIntValue value = parseIntValue value')
  decodes : ∀ words v functionCode address count, packValue value = some words →
    parseIntValue value = some v →
    validateReadParamResponse (.pdu false functionCode (some words) address count) =
      if words = deadWords then failed .LCM_ERR else (v, MbCode.source, .NO_ERR)
  mirrored : ∀ words v param, ∀ p : Nat, ∀ cache, packValue value = some words →
    parseIntValue value = some v → PyNumber.int param = some (p : Int) → inDatabase p = true →
    ∃ cache', mirrorAhlWriteToCache param value cache = .ok cache' ∧ cache' p = some v

section Words

variable {value : String} {r : Register}

/-- A value is packed exactly if a register can hold it, into the words of that register. -/
theorem packValue_iff {words : List Int} :
    packValue value = some words ↔ ∃ r, Represents value r ∧ words = r.words := by
  constructor
  · intro h
    obtain ⟨v, hv, hlower, hupper, -⟩ := packValue_eq h
    refine ⟨⟨v, hlower, hupper⟩, hv, ?_⟩
    simp only [packValue, hv, Option.bind_some] at h
    rw [if_neg (by omega)] at h
    exact (Option.some.inj h).symm
  · rintro ⟨r, hr, rfl⟩
    have hlower := r.lower
    have hupper := r.upper
    simp only [packValue, show parseIntValue value = some r.val from hr, Option.bind_some]
    rw [if_neg (by omega)]
    rfl

theorem words_range (r : Register) : ∀ w ∈ r.words, 0 ≤ w ∧ w ≤ 65535 := by
  simp only [Register.words, List.forall_mem_cons, List.not_mem_nil, false_implies, implies_true,
    and_true]
  omega

/-- The words tell the registers apart. -/
theorem words_injective {r r' : Register} (h : r.words = r'.words) : r = r' := by
  simp only [Register.words, List.cons.injEq, and_true] at h
  have hjoin := words_join r
  rw [h.1, h.2, words_join r'] at hjoin
  exact Register.ext hjoin.symm

/-- A read of the words gives the value back, unless they are the pair that is taken. -/
theorem validateReadParamResponse_words (r : Register) (functionCode : Int)
    (address count : Option Int) :
    validateReadParamResponse (.pdu false functionCode (some r.words) address count) =
      if r.words = deadWords then failed .LCM_ERR else (r.val, MbCode.source, .NO_ERR) := by
  have hdead : (r.val / 2 ^ 16 % 2 ^ 16 = 0xDEAD ∧ r.val % 2 ^ 16 = 0xDEAD) ↔
      r.words = deadWords := by
    simp only [Register.words, deadWords, List.cons.injEq, and_true]
  by_cases h : r.words = deadWords
  · rw [if_pos h]
    exact if_pos (hdead.mpr h)
  · rw [if_neg h]
    have hjoined : PyNumber.cInt32 (r.val / 2 ^ 16 % 2 ^ 16 * 2 ^ 16 + r.val % 2 ^ 16) = r.val :=
      words_join r
    refine (if_neg (fun hno => h (hdead.mp hno))).trans ?_
    rw [hjoined]

theorem represents_iff : (∃ r, Represents value r) ↔
    ∃ v, parseIntValue value = some v ∧ -2 ^ 31 ≤ v ∧ v ≤ 2 ^ 31 - 1 := by
  constructor
  · rintro ⟨r, hr⟩
    have hupper := r.upper
    exact ⟨r.val, hr, r.lower, by omega⟩
  · rintro ⟨v, hv, hlower, hupper⟩
    exact ⟨⟨v, hlower, by omega⟩, hv⟩

theorem mirrorAhlWriteToCache_param {param : String} {p : Nat} {v : Int} (cache : Cache)
    (hparam : PyNumber.int param = some (p : Int)) (hvalue : parseIntValue value = some v)
    (hknown : inDatabase p = true) : ∃ cache',
      mirrorAhlWriteToCache param value cache = .ok cache' ∧ cache' p = some v := by
  refine ⟨(setParam p v cache).1, ?_, setParam_same v cache hknown⟩
  have hnat : ¬ (p : Int) < 0 := by omega
  simp [mirrorAhlWriteToCache, hparam, hvalue, hnat]

/-- Packing, reading and mirroring agree on every text. -/
theorem registers_codec (value : String) : FaithfulCodec value where
  packs := by
    rw [← represents_iff]
    constructor
    · rintro ⟨words, hwords, -, -⟩
      obtain ⟨r, hr, -⟩ := packValue_iff.mp hwords
      exact ⟨r, hr⟩
    · rintro ⟨r, hr⟩
      exact ⟨r.words, packValue_iff.mpr ⟨r, hr, rfl⟩, rfl, words_range r⟩
  refuses := by
    rw [← represents_iff, Option.eq_none_iff_forall_ne_some]
    constructor
    · rintro hnone ⟨r, hr⟩
      exact hnone r.words (packValue_iff.mpr ⟨r, hr, rfl⟩)
    · intro hno words hwords
      obtain ⟨r, hr, -⟩ := packValue_iff.mp hwords
      exact hno ⟨r, hr⟩
  injective value' words words' h h' := by
    obtain ⟨r, hr, rfl⟩ := packValue_iff.mp h
    obtain ⟨r', hr', rfl⟩ := packValue_iff.mp h'
    rw [show parseIntValue value = some r.val from hr,
      show parseIntValue value' = some r'.val from hr']
    constructor
    · intro heq
      rw [words_injective heq]
    · intro heq
      rw [Register.ext (Option.some.inj heq)]
  decodes words v functionCode address count h hv := by
    obtain ⟨r, hr, rfl⟩ := packValue_iff.mp h
    obtain rfl : r.val = v := Option.some.inj (hr.symm.trans hv)
    exact validateReadParamResponse_words r functionCode address count
  mirrored words v param p cache _ hv hparam hknown :=
    mirrorAhlWriteToCache_param cache hparam hv hknown

end Words

end NexyGateway.AhlCache
