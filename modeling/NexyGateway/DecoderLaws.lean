import NexyGateway.PyDecoder

/-!
# What the decoder reads

A document is read off the front of a text whatever stands behind it, it takes up part of the
text, and the fuel is no limit.
-/
namespace PyDecoder

open PyNumber PyJson

/-! ### Strings -/

/-- What has been read of a string does not depend on the text behind it. -/
theorem scanString_append {mode : Mode} {cs s rest : List Char} (more : List Char)
    (h : scanString mode cs = .ok (s, rest)) :
    scanString mode (cs ++ more) = .ok (s, rest ++ more) := by
  induction cs generalizing mode s with
  | nil => cases h
  | cons c cs ih =>
    simp only [List.cons_append, scanString] at h ⊢
    cases hadv : advance mode c with
    | close =>
      rw [hadv] at h
      cases h
      rfl
    | fail =>
      rw [hadv] at h
      cases h
    | go mode' =>
      rw [hadv] at h
      exact ih h
    | emit e =>
      rw [hadv] at h
      obtain ⟨⟨t, rest'⟩, ht, heq⟩ := map_ok_iff.mp h
      obtain ⟨rfl, rfl⟩ := Prod.mk.inj heq
      exact map_ok_iff.mpr ⟨(t, rest' ++ more), ih ht, rfl⟩

/-- Every character that is read takes at least one of the text. -/
theorem scanString_length {mode : Mode} {cs s rest : List Char}
    (h : scanString mode cs = .ok (s, rest)) : s.length + rest.length < cs.length := by
  induction cs generalizing mode s with
  | nil => cases h
  | cons c cs ih =>
    simp only [scanString] at h
    rw [List.length_cons]
    cases hadv : advance mode c with
    | close =>
      rw [hadv] at h
      cases h
      rw [List.length_nil]
      omega
    | fail =>
      rw [hadv] at h
      cases h
    | go mode' =>
      rw [hadv] at h
      have := ih h
      omega
    | emit e =>
      rw [hadv] at h
      obtain ⟨⟨t, rest'⟩, ht, heq⟩ := map_ok_iff.mp h
      obtain ⟨rfl, rfl⟩ : e :: t = s ∧ rest' = rest := Prod.mk.inj heq
      have := ih ht
      rw [List.length_cons]
      omega

/-- A character that stands for itself inside a string. -/
def isPlain (c : Char) : Bool := c ≠ '"' && c ≠ '\\' && 0x20 ≤ c.toNat

theorem advance_plain {c : Char} (h : isPlain c = true) : advance .text c = .emit c := by
  simp only [isPlain, ne_eq, decide_not, Bool.and_eq_true, Bool.not_eq_true',
    decide_eq_false_iff_not, decide_eq_true_eq] at h
  obtain ⟨⟨hquote, hslash⟩, hcontrol⟩ := h
  simp only [advance, if_neg hquote, if_neg hslash]
  rw [if_neg (by omega)]

/-- A plain text is read as it stands, up to the closing quote. -/
theorem scanString_plain {cs : List Char} (h : ∀ c ∈ cs, isPlain c = true) (rest : List Char) :
    scanString .text (cs ++ '"' :: rest) = .ok (cs, rest) := by
  induction cs with
  | nil => rfl
  | cons c cs ih =>
    obtain ⟨hc, hcs⟩ := List.forall_mem_cons.mp h
    rw [List.cons_append, scanString, advance_plain hc]
    exact map_ok_iff.mpr ⟨(cs, rest), ih hcs, rfl⟩

/-- A character that cannot be part of a number. -/
def isDelimiter (c : Char) : Bool := isBlank c || c = ',' || c = ']' || c = '}'

/-- The text goes on with a character that cannot be part of a number. -/
def Sealed (cs : List Char) : Prop := ∃ c ∈ cs.head?, isDelimiter c = true

theorem isDelimiter_cases {c : Char} (h : isDelimiter c = true) :
    c = ' ' ∨ c = '\t' ∨ c = '\n' ∨ c = '\r' ∨ c = ',' ∨ c = ']' ∨ c = '}' := by
  simpa [isDelimiter, isBlank, or_assoc] using h

theorem isDigit_delimiter {c : Char} (h : isDelimiter c = true) : c.isDigit = false := by
  rcases isDelimiter_cases h with rfl | rfl | rfl | rfl | rfl | rfl | rfl
  all_goals rfl

/-! ### Numbers -/

section Numbers

variable {d : Char} {tail : List Char}

theorem delimiter_ne {c : Char} (hd : isDelimiter d = true) (hc : isDelimiter c = false) :
    d ≠ c := by
  rintro rfl
  rw [hd] at hc
  cases hc

theorem spanDigits_delimiter (hd : isDelimiter d = true) (cs : List Char) :
    spanDigits (cs ++ d :: tail) = ((spanDigits cs).1, (spanDigits cs).2 ++ d :: tail) := by
  induction cs with
  | nil => simp [spanDigits, isDigit_delimiter hd]
  | cons c cs ih =>
    by_cases hc : c.isDigit = true
    · simp only [spanDigits, Prod.mk.injEq] at ih
      simp [spanDigits, hc, ih.1, ih.2]
    · simp [spanDigits, hc]

theorem scanSign_delimiter (hd : isDelimiter d = true) (cs : List Char) :
    scanSign (cs ++ d :: tail) = ((scanSign cs).1, (scanSign cs).2 ++ d :: tail) := by
  cases cs with
  | nil => exact if_neg (delimiter_ne hd rfl)
  | cons c cs =>
    simp only [List.cons_append, scanSign]
    split <;> rfl

theorem scanInteger_delimiter (hd : isDelimiter d = true) (cs : List Char) :
    scanInteger (cs ++ d :: tail) =
      (scanInteger cs).map (fun r => (r.1, r.2 ++ d :: tail)) := by
  cases cs with
  | nil => simp [scanInteger, isDigit_delimiter hd, delimiter_ne hd (c := '0') rfl]
  | cons c cs =>
    have hspan : spanDigits (c :: (cs ++ d :: tail)) =
        ((spanDigits (c :: cs)).1, (spanDigits (c :: cs)).2 ++ d :: tail) :=
      spanDigits_delimiter hd (c :: cs)
    simp only [List.cons_append, scanInteger, hspan]
    split
    · rfl
    · split <;> rfl

theorem scanFraction_delimiter (hd : isDelimiter d = true) (cs : List Char) :
    scanFraction (cs ++ d :: tail) =
      ((scanFraction cs).1, (scanFraction cs).2 ++ d :: tail) := by
  cases cs with
  | nil => simp [scanFraction, delimiter_ne hd (c := '.') rfl]
  | cons c cs =>
    simp only [List.cons_append, scanFraction, spanDigits_delimiter hd cs]
    split <;> rfl

theorem scanExponentSign_delimiter (hd : isDelimiter d = true) (cs : List Char) :
    scanExponentSign (cs ++ d :: tail) =
      ((scanExponentSign cs).1, (scanExponentSign cs).2 ++ d :: tail) := by
  cases cs with
  | nil =>
    simp [scanExponentSign, delimiter_ne hd (c := '-') rfl, delimiter_ne hd (c := '+') rfl]
  | cons c cs =>
    simp only [List.cons_append, scanExponentSign]
    split
    · rfl
    · split <;> rfl

theorem scanExponent_delimiter (hd : isDelimiter d = true) (cs : List Char) :
    scanExponent (cs ++ d :: tail) =
      ((scanExponent cs).1, (scanExponent cs).2 ++ d :: tail) := by
  cases cs with
  | nil =>
    simp [scanExponent, delimiter_ne hd (c := 'e') rfl, delimiter_ne hd (c := 'E') rfl]
  | cons c cs =>
    simp only [List.cons_append, scanExponent, scanExponentSign_delimiter hd cs,
      spanDigits_delimiter hd]
    split <;> rfl

theorem scanLiteral_delimiter (hd : isDelimiter d = true) (cs : List Char) :
    scanLiteral (cs ++ d :: tail) =
      (scanLiteral cs).map (fun r => (r.1, r.2 ++ d :: tail)) := by
  simp only [scanLiteral, scanSign_delimiter hd, scanInteger_delimiter hd]
  cases scanInteger (scanSign cs).2 with
  | none => rfl
  | some r =>
    simp only [Option.map_some, scanFraction_delimiter hd, scanExponent_delimiter hd]

/-- A delimiter behind a text changes nothing in the number that is read off it. -/
theorem scanNumber_delimiter (hd : isDelimiter d = true) (cs : List Char) :
    scanNumber (cs ++ d :: tail) =
      (scanNumber cs).map (fun r => (r.1, r.2 ++ d :: tail)) := by
  unfold scanNumber
  rw [scanLiteral_delimiter hd]
  cases scanLiteral cs with
  | none => rfl
  | some r =>
    simp only [Option.map_some]
    cases r.1.value <;> rfl

theorem spanDigits_suffix (cs : List Char) : (spanDigits cs).2 <:+ cs :=
  List.dropWhile_suffix Char.isDigit

theorem scanSign_suffix (cs : List Char) : (scanSign cs).2 <:+ cs := by
  cases cs with
  | nil => exact List.suffix_rfl
  | cons c cs =>
    simp only [scanSign]
    split
    · exact List.suffix_cons c cs
    · exact List.suffix_rfl

theorem scanInteger_suffix {cs ds rest : List Char} (h : scanInteger cs = some (ds, rest)) :
    ∃ c cs', cs = c :: cs' ∧ rest <:+ cs' := by
  cases cs with
  | nil => cases h
  | cons c cs =>
    refine ⟨c, cs, rfl, ?_⟩
    simp only [scanInteger] at h
    split at h
    · cases h
      exact List.suffix_rfl
    · split at h
      · rename_i hdigit
        cases h
        rw [List.dropWhile_cons_of_pos hdigit]
        exact spanDigits_suffix cs
      · cases h

theorem scanFraction_suffix (cs : List Char) : (scanFraction cs).2 <:+ cs := by
  cases cs with
  | nil => exact List.suffix_rfl
  | cons c cs =>
    simp only [scanFraction]
    split
    · exact (spanDigits_suffix cs).trans (List.suffix_cons c cs)
    · exact List.suffix_rfl

theorem scanExponentSign_suffix (cs : List Char) : (scanExponentSign cs).2 <:+ cs := by
  cases cs with
  | nil => exact List.suffix_rfl
  | cons c cs =>
    simp only [scanExponentSign]
    split
    · exact List.suffix_cons c cs
    · split
      · exact List.suffix_cons c cs
      · exact List.suffix_rfl

theorem scanExponent_suffix (cs : List Char) : (scanExponent cs).2 <:+ cs := by
  cases cs with
  | nil => exact List.suffix_rfl
  | cons c cs =>
    simp only [scanExponent]
    split
    · have hsign := (scanExponentSign_suffix cs).trans (List.suffix_cons c cs)
      exact (spanDigits_suffix _).trans hsign
    · exact List.suffix_rfl

/-- A number takes up at least one character. -/
theorem scanNumber_suffix {cs rest : List Char} {v : Json} (h : scanNumber cs = .ok (v, rest)) :
    rest <:+ cs ∧ rest.length < cs.length := by
  unfold scanNumber at h
  cases hliteral : scanLiteral cs with
  | none =>
    rw [hliteral] at h
    cases h
  | some pair =>
    rw [hliteral] at h
    obtain ⟨w, -, heq⟩ := map_ok_iff.mp h
    obtain ⟨rfl, rfl⟩ := Prod.mk.inj heq
    obtain ⟨⟨ds, rest'⟩, hinteger, rfl⟩ := Option.map_eq_some_iff.mp hliteral
    obtain ⟨c, cs', hcs, hsuffix⟩ := scanInteger_suffix hinteger
    have hrest : (scanExponent (scanFraction rest').2).2 <:+ cs' :=
      ((scanExponent_suffix _).trans (scanFraction_suffix rest')).trans hsuffix
    have hsign : c :: cs' <:+ cs := hcs ▸ scanSign_suffix cs
    have hlength := hrest.length_le
    have hlength' := hsign.length_le
    rw [List.length_cons] at hlength'
    exact ⟨(hrest.trans (List.suffix_cons c cs')).trans hsign, by simp only; omega⟩

end Numbers

theorem scanNumber_append {cs more rest : List Char} {v : Json}
    (h : scanNumber cs = .ok (v, rest)) (hend : Sealed (rest ++ more)) :
    scanNumber (cs ++ more) = .ok (v, rest ++ more) := by
  obtain ⟨d, hhead, hd⟩ := hend
  cases rest with
  | nil =>
    obtain ⟨tail, rfl⟩ : ∃ tail, more = d :: tail := List.head?_eq_some_iff.mp hhead
    rw [scanNumber_delimiter hd, h]
    rfl
  | cons c rest =>
    obtain rfl : c = d := Option.some.inj hhead
    obtain ⟨⟨front, rfl⟩, -⟩ := scanNumber_suffix h
    rw [scanNumber_delimiter hd] at h
    obtain ⟨⟨w, rest'⟩, hfront, heq⟩ := map_ok_iff.mp h
    obtain ⟨rfl, hrest⟩ := Prod.mk.inj heq
    have hnil : rest' = [] := by simpa using hrest
    rw [List.append_assoc, List.cons_append, scanNumber_delimiter hd, hfront, hnil]
    rfl

/-! ### Values -/

theorem word_append {tail rest rest' : List Char} {v w : Json} (more : List Char)
    (h : word tail v rest = .ok (w, rest')) :
    word tail v (rest ++ more) = .ok (w, rest' ++ more) := by
  unfold word at h ⊢
  cases hdrop : rest.dropPrefix? tail with
  | none =>
    rw [hdrop] at h
    cases h
  | some rest'' =>
    rw [hdrop] at h
    cases h
    obtain ⟨front, hfront, hbeq⟩ := List.dropPrefix?_eq_some_iff.mp hdrop
    have hdrop' : (rest ++ more).dropPrefix? tail = some (rest' ++ more) :=
      List.dropPrefix?_eq_some_iff.mpr ⟨front, by rw [hfront, List.append_assoc], hbeq⟩
    rw [hdrop']

/-- Only the end of a number shows in the character behind it. -/
def Ends (v : Json) (rest : List Char) : Prop :=
  ((∀ n, v ≠ .int n) ∧ ∀ x, v ≠ .float x) ∨ Sealed rest

theorem scanNumber_isNumber {cs rest : List Char} {v : Json} (h : scanNumber cs = .ok (v, rest)) :
    (∃ n, v = .int n) ∨ ∃ x, v = .float x := by
  unfold scanNumber at h
  cases hliteral : scanLiteral cs with
  | none =>
    rw [hliteral] at h
    cases h
  | some pair =>
    rw [hliteral] at h
    obtain ⟨w, hw, heq⟩ := map_ok_iff.mp h
    obtain ⟨rfl, rfl⟩ := Prod.mk.inj heq
    unfold Literal.value at hw
    split at hw
    · split at hw
      · cases hw
        exact .inl ⟨_, rfl⟩
      · cases hw
    · cases hw
      exact .inr ⟨_, rfl⟩

/-- A number begins with a digit behind its sign. -/
theorem scanNumber_minus {cs rest : List Char} {v : Json}
    (h : scanNumber ('-' :: cs) = .ok (v, rest)) : ∃ d tail, cs = d :: tail ∧ d.isDigit = true := by
  have hliteral : ∃ pair, scanInteger cs = some pair := by
    cases hinteger : scanInteger cs with
    | some pair => exact ⟨pair, rfl⟩
    | none =>
      simp [scanNumber, scanLiteral, scanSign, hinteger] at h
  obtain ⟨pair, hinteger⟩ := hliteral
  cases cs with
  | nil => cases hinteger
  | cons d tail =>
    refine ⟨d, tail, rfl, ?_⟩
    simp only [scanInteger] at hinteger
    split at hinteger
    · rename_i hzero
      subst hzero
      rfl
    · split at hinteger
      · assumption
      · cases hinteger

theorem scanScalar_append {cs more rest : List Char} {v : Json}
    (h : scanScalar cs = .ok (v, rest)) (hend : Ends v (rest ++ more)) :
    scanScalar (cs ++ more) = .ok (v, rest ++ more) := by
  cases cs with
  | nil => cases h
  | cons c cs =>
    simp only [List.cons_append, scanScalar] at h ⊢
    split at h
    · rename_i hquote
      obtain ⟨⟨t, rest'⟩, ht, heq⟩ := map_ok_iff.mp h
      obtain ⟨rfl, rfl⟩ := Prod.mk.inj heq
      rw [if_pos hquote]
      exact map_ok_iff.mpr ⟨(t, rest' ++ more), scanString_append more ht, rfl⟩
    rename_i hquote
    rw [if_neg hquote]
    cases hword : wordOf? c with
    | some pair =>
      rw [hword] at h
      exact word_append more h
    | none =>
      rw [hword] at h
      simp only at h ⊢
      split at h
      · rename_i hminus
        rw [if_pos ⟨hminus.1, hminus.2.trans (List.prefix_append cs more)⟩]
        exact word_append more h
      have hsealed : Sealed (rest ++ more) := by
        rcases hend with ⟨hint, hfloat⟩ | hsealed
        · rcases scanNumber_isNumber h with ⟨n, rfl⟩ | ⟨x, rfl⟩
          · exact absurd rfl (hint n)
          · exact absurd rfl (hfloat x)
        · exact hsealed
      have hminus : ¬ (c = '-' ∧ infinity <+: cs ++ more) := by
        rintro ⟨rfl, hinfinity⟩
        obtain ⟨d, tail, rfl, hd⟩ := scanNumber_minus h
        obtain ⟨t, ht⟩ := hinfinity
        have hI : 'I' = d := (List.cons.inj ht).1
        rw [← hI] at hd
        cases hd
      rw [if_neg hminus]
      exact scanNumber_append h hsealed

theorem skip_append {cs rest : List Char} {d : Char} (more : List Char)
    (h : skip cs = d :: rest) : skip (cs ++ more) = d :: (rest ++ more) := by
  unfold skip at h ⊢
  rw [List.dropWhile_append, h, if_neg (by simp), List.cons_append]

theorem isBlank_delimiter {c : Char} (h : isBlank c = true) : isDelimiter c = true := by
  simp [isDelimiter, h]

/-- A text that goes on with a delimiter behind white space goes on with a delimiter. -/
theorem sealed_of_skip {cs rest more : List Char} {d : Char} (h : skip cs = d :: rest)
    (hd : isDelimiter d = true) : Sealed (cs ++ more) := by
  cases cs with
  | nil => cases h
  | cons c cs =>
    refine ⟨c, rfl, ?_⟩
    by_cases hblank : isBlank c = true
    · exact isBlank_delimiter hblank
    · simp only [skip, List.dropWhile_cons, if_neg hblank] at h
      obtain ⟨rfl, -⟩ := List.cons.inj h
      exact hd

theorem skip_append_of_ne {cs more : List Char} (h : skip cs ≠ []) :
    skip (cs ++ more) = skip cs ++ more := by
  cases hskip : skip cs with
  | nil => exact absurd hskip h
  | cons d rest => exact skip_append more hskip

/-! ### Documents -/

/-- What the scanners of one fuel read is the same with more text behind it. -/
structure Extends (n : Nat) (more : List Char) : Prop where
  value : ∀ {cs v rest}, scanValue n cs = .ok (v, rest) → Ends v (rest ++ more) →
    scanValue n (cs ++ more) = .ok (v, rest ++ more)
  items : ∀ {cs vs rest}, scanItems n cs = .ok (vs, rest) →
    scanItems n (cs ++ more) = .ok (vs, rest ++ more)
  members : ∀ {cs ms rest}, scanMembers n cs = .ok (ms, rest) →
    scanMembers n (cs ++ more) = .ok (ms, rest ++ more)

theorem scanValue_ne_nil {n : Nat} {cs : List Char} {r : Json × List Char}
    (h : scanValue n cs = .ok r) : cs ≠ [] := by
  rintro rfl
  cases n <;> cases h

theorem scanItems_ne_nil {n : Nat} {cs : List Char} {r : List Json × List Char}
    (h : scanItems n cs = .ok r) : cs ≠ [] := by
  cases n with
  | zero => cases h
  | succ n =>
    obtain ⟨v, d, rest1, ⟨rest2, hvalue, -⟩, -⟩ := scanItems_iff.mp h
    exact scanValue_ne_nil hvalue

theorem scanMembers_ne_nil {n : Nat} {cs : List Char} {r : List (String × Json) × List Char}
    (h : scanMembers n cs = .ok r) : cs ≠ [] := by
  rintro rfl
  cases n <;> cases h

section Appending

variable {n : Nat} {more cs rest : List Char} {v : Json} {d : Char}

theorem ReadsItem.append (h : Extends n more) (hread : ReadsItem n cs v d rest)
    (hd : isDelimiter d = true) : ReadsItem n (cs ++ more) v d (rest ++ more) := by
  obtain ⟨rest1, hvalue, hskip⟩ := hread
  have hend : Ends v (rest1 ++ more) := .inr (sealed_of_skip hskip hd)
  exact ⟨rest1 ++ more, h.value hvalue hend, skip_append more hskip⟩

theorem ReadsMember.append {key : List Char} (h : Extends n more)
    (hread : ReadsMember n cs key v d rest) (hd : isDelimiter d = true) :
    ReadsMember n (cs ++ more) key v d (rest ++ more) := by
  obtain ⟨cs', rest1, rest2, rfl, hkey, hcolon, hitem⟩ := hread
  refine ⟨cs' ++ more, rest1 ++ more, rest2 ++ more, rfl, scanString_append more hkey,
    skip_append more hcolon, ?_⟩
  have hne : skip rest2 ≠ [] := by
    obtain ⟨rest3, hvalue, -⟩ := hitem
    exact scanValue_ne_nil hvalue
  rw [skip_append_of_ne hne]
  exact hitem.append h hd

theorem scanItems_append {vs : List Json} (h : Extends n more)
    (hscan : scanItems (n + 1) cs = .ok (vs, rest)) :
    scanItems (n + 1) (cs ++ more) = .ok (vs, rest ++ more) := by
  obtain ⟨v, d, rest1, hitem, hd⟩ := scanItems_iff.mp hscan
  apply scanItems_iff.mpr
  rcases hd with ⟨rfl, rfl, rfl⟩ | ⟨rfl, ws, hws, rfl⟩
  · exact ⟨v, ']', _, hitem.append h rfl, .inl ⟨rfl, rfl, rfl⟩⟩
  · refine ⟨v, ',', _, hitem.append h rfl, .inr ⟨rfl, ws, ?_, rfl⟩⟩
    rw [skip_append_of_ne (scanItems_ne_nil hws)]
    exact h.items hws

theorem scanMembers_append {ms : List (String × Json)} (h : Extends n more)
    (hscan : scanMembers (n + 1) cs = .ok (ms, rest)) :
    scanMembers (n + 1) (cs ++ more) = .ok (ms, rest ++ more) := by
  obtain ⟨key, v, d, rest1, hmember, hd⟩ := scanMembers_iff.mp hscan
  apply scanMembers_iff.mpr
  rcases hd with ⟨rfl, rfl, rfl⟩ | ⟨rfl, ns, hns, rfl⟩
  · exact ⟨key, v, '}', _, hmember.append h rfl, .inl ⟨rfl, rfl, rfl⟩⟩
  · refine ⟨key, v, ',', _, hmember.append h rfl, .inr ⟨rfl, ns, ?_, rfl⟩⟩
    rw [skip_append_of_ne (scanMembers_ne_nil hns)]
    exact h.members hns

theorem scanNested_append {α : Type} {scan : List Char → Scanned α} {closing : Char}
    {empty : Json} {make : α → Json}
    (h : ∀ {cs a rest}, scan cs = .ok (a, rest) → scan (cs ++ more) = .ok (a, rest ++ more))
    (hscan : scanNested scan closing empty make cs = .ok (v, rest)) :
    scanNested scan closing empty make (cs ++ more) = .ok (v, rest ++ more) := by
  obtain ⟨d, rest', hskip, hd⟩ := scanNested_iff.mp hscan
  apply scanNested_iff.mpr
  refine ⟨d, rest' ++ more, skip_append more hskip, ?_⟩
  rcases hd with ⟨hd, rfl, rfl⟩ | ⟨hd, a, ha, rfl⟩
  · exact .inl ⟨hd, rfl, rfl⟩
  · exact .inr ⟨hd, a, h ha, rfl⟩

theorem scanValue_append (h : Extends n more) (hscan : scanValue (n + 1) cs = .ok (v, rest))
    (hend : Ends v (rest ++ more)) :
    scanValue (n + 1) (cs ++ more) = .ok (v, rest ++ more) := by
  cases cs with
  | nil => cases hscan
  | cons c cs =>
    rw [List.cons_append]
    by_cases hbrace : c = '{'
    · subst hbrace
      rw [scanValue_object] at hscan ⊢
      exact scanNested_append h.members hscan
    by_cases hbracket : c = '['
    · subst hbracket
      rw [scanValue_list] at hscan ⊢
      exact scanNested_append h.items hscan
    · rw [scanValue_scalar n cs hbrace hbracket] at hscan
      rw [scanValue_scalar n (cs ++ more) hbrace hbracket]
      exact scanScalar_append hscan hend

/-- A document is read the same whatever stands behind it. -/
theorem scan_append (n : Nat) (more : List Char) : Extends n more := by
  induction n with
  | zero => exact ⟨fun h => (by cases h), fun h => (by cases h), fun h => (by cases h)⟩
  | succ n ih => exact ⟨scanValue_append ih, scanItems_append ih, scanMembers_append ih⟩

end Appending

/-! ### The fuel -/

theorem skip_length {cs rest : List Char} {d : Char} (h : skip cs = d :: rest) :
    rest.length < cs.length := by
  have := (List.dropWhile_sublist isBlank (l := cs)).length_le
  rw [show cs.dropWhile isBlank = d :: rest from h, List.length_cons] at this
  omega

theorem word_length {tail rest rest' : List Char} {v w : Json}
    (h : word tail v rest = .ok (w, rest')) : rest'.length ≤ rest.length := by
  unfold word at h
  cases hdrop : rest.dropPrefix? tail with
  | none =>
    rw [hdrop] at h
    cases h
  | some rest'' =>
    rw [hdrop] at h
    cases h
    obtain ⟨front, rfl, -⟩ := List.dropPrefix?_eq_some_iff.mp hdrop
    rw [List.length_append]
    omega

theorem scanScalar_length {cs rest : List Char} {v : Json} (h : scanScalar cs = .ok (v, rest)) :
    rest.length < cs.length := by
  cases cs with
  | nil => cases h
  | cons c cs =>
    simp only [scanScalar] at h
    split at h
    · obtain ⟨r, hr, heq⟩ := map_ok_iff.mp h
      obtain ⟨rfl, rfl⟩ := Prod.mk.inj heq
      have := scanString_length hr
      rw [List.length_cons]
      omega
    · split at h
      · exact Nat.lt_succ_of_le (word_length h)
      · split at h
        · exact Nat.lt_succ_of_le (word_length h)
        · exact (scanNumber_suffix h).2

/-- What the scanners of one fuel read takes up some of the text, and is read with any fuel of
its length. -/
structure Settles (n : Nat) : Prop where
  value : ∀ {cs v rest}, scanValue n cs = .ok (v, rest) → rest.length < cs.length ∧
    ∀ m, cs.length ≤ m + rest.length → scanValue m cs = .ok (v, rest)
  items : ∀ {cs vs rest}, scanItems n cs = .ok (vs, rest) → rest.length < cs.length ∧
    ∀ m, cs.length ≤ m + rest.length → scanItems m cs = .ok (vs, rest)
  members : ∀ {cs ms rest}, scanMembers n cs = .ok (ms, rest) → rest.length < cs.length ∧
    ∀ m, cs.length ≤ m + rest.length → scanMembers m cs = .ok (ms, rest)

section Fuel

variable {n : Nat} {cs rest : List Char} {v : Json} {d : Char}

theorem ReadsItem.settle (h : Settles n) (hread : ReadsItem n cs v d rest) :
    rest.length + 1 < cs.length ∧
      ∀ m, cs.length ≤ m + rest.length + 1 → ReadsItem m cs v d rest := by
  obtain ⟨rest1, hvalue, hskip⟩ := hread
  obtain ⟨hlength, hfuel⟩ := h.value hvalue
  have := skip_length hskip
  refine ⟨by omega, fun m hm => ⟨rest1, hfuel m (by omega), hskip⟩⟩

theorem ReadsMember.settle {key : List Char} (h : Settles n)
    (hread : ReadsMember n cs key v d rest) : rest.length + 1 < cs.length ∧
      ∀ m, cs.length ≤ m + rest.length + 1 → ReadsMember m cs key v d rest := by
  obtain ⟨cs', rest1, rest2, rfl, hkey, hcolon, hitem⟩ := hread
  obtain ⟨hlength, hfuel⟩ := hitem.settle h
  have hstring := scanString_length hkey
  have hskip := skip_length hcolon
  have hsublist := (List.dropWhile_sublist isBlank (l := rest2)).length_le
  have hblank : (skip rest2).length ≤ rest2.length := hsublist
  rw [List.length_cons]
  refine ⟨by omega, fun m hm => ?_⟩
  exact ⟨cs', rest1, rest2, rfl, hkey, hcolon, hfuel m (by omega)⟩

theorem scanItems_settle {vs : List Json} (h : Settles n)
    (hscan : scanItems (n + 1) cs = .ok (vs, rest)) : rest.length < cs.length ∧
      ∀ m, cs.length ≤ m + rest.length → scanItems m cs = .ok (vs, rest) := by
  obtain ⟨v, d, rest1, hitem, hd⟩ := scanItems_iff.mp hscan
  obtain ⟨hlength, hfuel⟩ := hitem.settle h
  rcases hd with ⟨rfl, rfl, rfl⟩ | ⟨rfl, ws, hws, rfl⟩
  · refine ⟨by omega, fun m hm => ?_⟩
    obtain ⟨m, rfl⟩ : ∃ k, m = k + 1 := ⟨m - 1, by omega⟩
    exact scanItems_iff.mpr ⟨v, ']', _, hfuel m (by omega), .inl ⟨rfl, rfl, rfl⟩⟩
  · obtain ⟨hshort, hrest⟩ := h.items hws
    have hblank : (skip rest1).length ≤ rest1.length :=
      (List.dropWhile_sublist isBlank (l := rest1)).length_le
    refine ⟨by omega, fun m hm => ?_⟩
    obtain ⟨m, rfl⟩ : ∃ k, m = k + 1 := ⟨m - 1, by omega⟩
    exact scanItems_iff.mpr
      ⟨v, ',', _, hfuel m (by omega), .inr ⟨rfl, ws, hrest m (by omega), rfl⟩⟩

theorem scanMembers_settle {ms : List (String × Json)} (h : Settles n)
    (hscan : scanMembers (n + 1) cs = .ok (ms, rest)) : rest.length < cs.length ∧
      ∀ m, cs.length ≤ m + rest.length → scanMembers m cs = .ok (ms, rest) := by
  obtain ⟨key, v, d, rest1, hmember, hd⟩ := scanMembers_iff.mp hscan
  obtain ⟨hlength, hfuel⟩ := hmember.settle h
  rcases hd with ⟨rfl, rfl, rfl⟩ | ⟨rfl, ns, hns, rfl⟩
  · refine ⟨by omega, fun m hm => ?_⟩
    obtain ⟨m, rfl⟩ : ∃ k, m = k + 1 := ⟨m - 1, by omega⟩
    exact scanMembers_iff.mpr ⟨key, v, '}', _, hfuel m (by omega), .inl ⟨rfl, rfl, rfl⟩⟩
  · obtain ⟨hshort, hrest⟩ := h.members hns
    have hblank : (skip rest1).length ≤ rest1.length :=
      (List.dropWhile_sublist isBlank (l := rest1)).length_le
    refine ⟨by omega, fun m hm => ?_⟩
    obtain ⟨m, rfl⟩ : ∃ k, m = k + 1 := ⟨m - 1, by omega⟩
    exact scanMembers_iff.mpr
      ⟨key, v, ',', _, hfuel m (by omega), .inr ⟨rfl, ns, hrest m (by omega), rfl⟩⟩

theorem scanNested_length {α : Type} {scan : List Char → Scanned α} {closing : Char} {empty : Json}
    {make : α → Json} (h : ∀ {cs a}, scan cs = .ok (a, rest) → rest.length < cs.length)
    (hscan : scanNested scan closing empty make cs = .ok (v, rest)) : rest.length < cs.length := by
  obtain ⟨d, rest', hskip, hd⟩ := scanNested_iff.mp hscan
  have hlength := skip_length hskip
  rcases hd with ⟨hd, rfl, rfl⟩ | ⟨hd, a, ha, rfl⟩
  · exact hlength
  · have hshort := h ha
    rw [List.length_cons] at hshort
    omega

theorem scanNested_fuel {α : Type} {scan scan' : List Char → Scanned α} {closing : Char}
    {empty : Json} {make : α → Json}
    (h : ∀ {cs' a}, cs'.length ≤ cs.length → scan cs' = .ok (a, rest) → scan' cs' = .ok (a, rest))
    (hscan : scanNested scan closing empty make cs = .ok (v, rest)) :
    scanNested scan' closing empty make cs = .ok (v, rest) := by
  obtain ⟨d, rest', hskip, hd⟩ := scanNested_iff.mp hscan
  apply scanNested_iff.mpr
  refine ⟨d, rest', hskip, ?_⟩
  rcases hd with ⟨hd, rfl, rfl⟩ | ⟨hd, a, ha, rfl⟩
  · exact .inl ⟨hd, rfl, rfl⟩
  · have hlength := skip_length hskip
    exact .inr ⟨hd, a, h (by rw [List.length_cons]; omega) ha, rfl⟩

theorem scanValue_settle (h : Settles n) (hscan : scanValue (n + 1) cs = .ok (v, rest)) :
    rest.length < cs.length ∧
      ∀ m, cs.length ≤ m + rest.length → scanValue m cs = .ok (v, rest) := by
  cases cs with
  | nil => cases hscan
  | cons c cs =>
    have hfuel : rest.length < (c :: cs).length ∧ ∀ m,
        cs.length ≤ m + rest.length → scanValue (m + 1) (c :: cs) = .ok (v, rest) := by
      rw [List.length_cons]
      by_cases hbrace : c = '{'
      · subst hbrace
        rw [scanValue_object] at hscan
        have hshort := scanNested_length (fun ha => (h.members ha).1) hscan
        refine ⟨by omega, fun m hm => ?_⟩
        rw [scanValue_object]
        exact scanNested_fuel (fun hle ha => (h.members ha).2 m (by omega)) hscan
      by_cases hbracket : c = '['
      · subst hbracket
        rw [scanValue_list] at hscan
        have hshort := scanNested_length (fun ha => (h.items ha).1) hscan
        refine ⟨by omega, fun m hm => ?_⟩
        rw [scanValue_list]
        exact scanNested_fuel (fun hle ha => (h.items ha).2 m (by omega)) hscan
      · rw [scanValue_scalar n cs hbrace hbracket] at hscan
        have hshort := scanScalar_length hscan
        rw [List.length_cons] at hshort
        refine ⟨hshort, fun m _ => ?_⟩
        rw [scanValue_scalar m cs hbrace hbracket, hscan]
    refine ⟨hfuel.1, fun m hm => ?_⟩
    have hshort := hfuel.1
    rw [List.length_cons] at hshort hm
    obtain ⟨m, rfl⟩ : ∃ k, m = k + 1 := ⟨m - 1, by omega⟩
    exact hfuel.2 m (by omega)

theorem scan_settles (n : Nat) : Settles n := by
  induction n with
  | zero => exact ⟨fun h => (by cases h), fun h => (by cases h), fun h => (by cases h)⟩
  | succ n ih => exact ⟨scanValue_settle ih, scanItems_settle ih, scanMembers_settle ih⟩

/-- The fuel is no limit: what is read with any is read by the decoder. -/
theorem rawDecode_iff : rawDecode cs = .ok (v, rest) ↔ ∃ n, scanValue n cs = .ok (v, rest) := by
  constructor
  · exact fun h => ⟨_, h⟩
  · rintro ⟨n, hn⟩
    exact ((scan_settles n).value hn).2 _ (by omega)

/-- A document is decoded the same whatever stands behind it, as long as its end shows. -/
theorem rawDecode_append {more : List Char} (h : rawDecode cs = .ok (v, rest))
    (hend : Ends v (rest ++ more)) : rawDecode (cs ++ more) = .ok (v, rest ++ more) :=
  rawDecode_iff.mpr ⟨_, (scan_append _ more).value h hend⟩

/-- The characters that a document begins with. -/
def startsValue (c : Char) : Bool :=
  ['{', '[', '"', '-', 'n', 't', 'f', 'N', 'I'].contains c || c.isDigit

theorem wordOf_starts {c : Char} {pair : List Char × Json} (h : wordOf? c = some pair) :
    startsValue c = true := by
  obtain ⟨front, back, hwords, -⟩ := List.lookup_eq_some_iff.mp h
  have hmem : (c, pair) ∈ front ++ (c, pair) :: back := by simp
  rw [← hwords] at hmem
  simp only [List.mem_cons, Prod.mk.injEq, List.not_mem_nil, or_false] at hmem
  rcases hmem with ⟨rfl, -⟩ | ⟨rfl, -⟩ | ⟨rfl, -⟩ | ⟨rfl, -⟩ | ⟨rfl, -⟩
  all_goals rfl

theorem scanNumber_starts {c : Char} {r : Json × List Char} (h : scanNumber (c :: cs) = .ok r) :
    startsValue c = true := by
  by_cases hminus : c = '-'
  · subst hminus
    rfl
  by_cases hdigit : c.isDigit = true
  · rw [startsValue, hdigit, Bool.or_true]
  · have hzero : ¬ c = '0' := by
      rintro rfl
      exact hdigit rfl
    simp [scanNumber, scanLiteral, scanSign, scanInteger, hminus, hdigit, hzero] at h

theorem rawDecode_starts {c : Char} {r : Json × List Char} (h : rawDecode (c :: cs) = .ok r) :
    startsValue c = true := by
  by_cases hbrace : c = '{'
  · subst hbrace
    rfl
  by_cases hbracket : c = '['
  · subst hbracket
    rfl
  by_cases hquote : c = '"'
  · subst hquote
    rfl
  unfold rawDecode at h
  rw [List.length_cons, scanValue_scalar _ cs hbrace hbracket] at h
  simp only [scanScalar, if_neg hquote] at h
  cases hword : wordOf? c with
  | some pair => exact wordOf_starts hword
  | none =>
    rw [hword] at h
    simp only at h
    split at h
    · rename_i hminus
      rw [hminus.1]
      rfl
    · exact scanNumber_starts h

end Fuel

end PyDecoder
