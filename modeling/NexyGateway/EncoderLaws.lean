import NexyGateway.JsonText
import NexyGateway.NumberText

/-!
# Reading back what the encoder writes

The texts of `json.dumps` in front of the decoder of `json.loads`: an escaped string, with
its surrogate pairs, and arrays and objects put together from texts that are read back.
-/
namespace JsonText

open PyDecoder PyJson PyNumber

/-! ### Escaped strings -/

section Escapes

variable {n d : Nat} {high : Option Nat} {tail : List Char}

theorem hexDigit_digitChar (h : d < 16) : hexDigit? d.digitChar = some d := by
  have hall : (List.range 16).all (fun d => hexDigit? d.digitChar == some d) = true := by decide
  exact beq_iff_eq.mp (List.all_eq_true.mp hall d (List.mem_range.mpr h))

/-- Four digits, the ones that `toDigits` leaves out being zeros. -/
theorem hex4_toList (h : n < 0x10000) :
    (hex4 n).toList = [(n / 4096).digitChar, (n / 256 % 16).digitChar, (n / 16 % 16).digitChar,
      (n % 16).digitChar] := by
  have hstep : ∀ k, 16 ≤ k →
      Nat.toDigits 16 k = Nat.toDigits 16 (k / 16) ++ [(k % 16).digitChar] :=
    fun k hk => Nat.toDigits_of_base_le (by decide) hk
  have hbase : ∀ k, k < 16 → Nat.toDigits 16 k = [k.digitChar] :=
    fun k hk => Nat.toDigits_of_lt_base hk
  have hsecond : n / 16 / 16 = n / 256 := Nat.div_div_eq_div_mul n 16 16
  have hthird : n / 256 / 16 = n / 4096 := Nat.div_div_eq_div_mul n 256 16
  rw [hex4, String.toList_ofList]
  by_cases h1 : n < 16
  · rw [hbase n h1, Nat.div_eq_of_lt (show n < 4096 by omega),
      Nat.div_eq_of_lt (show n < 256 by omega), Nat.div_eq_of_lt h1, Nat.mod_eq_of_lt h1]
    rfl
  by_cases h2 : n < 256
  · rw [hstep n (by omega), hbase (n / 16) (by omega), Nat.div_eq_of_lt (show n < 4096 by omega),
      Nat.div_eq_of_lt h2, Nat.mod_eq_of_lt (show n / 16 < 16 by omega)]
    rfl
  by_cases h3 : n < 4096
  · rw [hstep n (by omega), hstep (n / 16) (by omega), hsecond, hbase (n / 256) (by omega),
      Nat.div_eq_of_lt h3, Nat.mod_eq_of_lt (show n / 256 < 16 by omega)]
    rfl
  · rw [hstep n (by omega), hstep (n / 16) (by omega), hsecond, hstep (n / 256) (by omega),
      hthird, hbase (n / 4096) (by omega)]
    rfl

/-- How the scanner goes on from what a character did. -/
def proceed (tail : List Char) : Advance → Scanned (List Char)
  | .close => .ok ([], tail)
  | .fail => .error .jsonDecodeError
  | .go mode => scanString mode tail
  | .emit c => (scanString .text tail).map (fun r => (c :: r.1, r.2))

theorem scanString_cons (mode : Mode) (c : Char) (tail : List Char) :
    scanString mode (c :: tail) = proceed tail (advance mode c) := by
  rw [scanString]
  cases advance mode c <;> rfl

/-- What the scanner does with four digits depends on their number. -/
theorem scanString_hex4 (h : n < 0x10000) (tail : List Char) :
    scanString (.unicode high 0 0) ((hex4 n).toList ++ tail) =
      proceed tail (codePoint high n) := by
  have hvalue : (((n / 4096) * 16 + n / 256 % 16) * 16 + n / 16 % 16) * 16 + n % 16 = n := by
    omega
  rw [hex4_toList h]
  simp [scanString_cons, proceed, advance,
    hexDigit_digitChar (show n / 4096 < 16 by omega),
    hexDigit_digitChar (show n / 256 % 16 < 16 by omega),
    hexDigit_digitChar (show n / 16 % 16 < 16 by omega),
    hexDigit_digitChar (show n % 16 < 16 by omega), hvalue]

theorem scanString_unicode (tail : List Char) :
    scanString .text ('\\' :: 'u' :: tail) = scanString (.unicode none 0 0) tail := rfl

theorem scanString_pair (k : Nat) (tail : List Char) :
    scanString (.pair k) ('\\' :: 'u' :: tail) = scanString (.unicode (some k) 0 0) tail := rfl

theorem not_surrogate (c : Char) : isHigh c.toNat = false ∧ isLow c.toNat = false := by
  have hvalid := c.valid
  simp only [UInt32.isValidChar, Nat.isValidChar] at hvalid
  simp only [isHigh, isLow, Bool.and_eq_false_iff, decide_eq_false_iff_not, Nat.not_le]
  have htoNat : c.toNat = c.val.toNat := rfl
  omega

/-- One code or two, a character is scanned from the codes it is written as. -/
theorem scanString_unicodeEscape (c : Char) (tail : List Char) :
    scanString .text ((unicodeEscape c.toNat).toList ++ tail) =
      (scanString .text tail).map (fun r => (c :: r.1, r.2)) := by
  obtain ⟨hhigh, hlow⟩ := not_surrogate c
  unfold unicodeEscape
  split
  · rename_i hsmall
    have htext : ("\\u" ++ hex4 c.toNat).toList ++ tail =
        '\\' :: 'u' :: ((hex4 c.toNat).toList ++ tail) := by
      rw [String.toList_append]
      rfl
    rw [htext, scanString_unicode, scanString_hex4 hsmall]
    simp [codePoint, proceed, hhigh, hlow]
  · rename_i hlarge
    have hrange : c.toNat < 0x110000 := by
      have hvalid := c.valid
      simp only [UInt32.isValidChar, Nat.isValidChar] at hvalid
      have htoNat : c.toNat = c.val.toNat := rfl
      omega
    obtain ⟨m, hm⟩ : ∃ m, c.toNat = 0x10000 + m := ⟨c.toNat - 0x10000, by omega⟩
    have hsub : c.toNat - 0x10000 = m := by omega
    simp only [hsub]
    have hfirst : isHigh (0xd800 + m / 0x400) = true := by
      simp only [isHigh, Bool.and_eq_true, decide_eq_true_eq]
      omega
    have hsecond : isLow (0xdc00 + m % 0x400) = true := by
      simp only [isLow, Bool.and_eq_true, decide_eq_true_eq]
      omega
    have hjoined : 0x10000 + (0xd800 + m / 0x400 - 0xd800) * 0x400 +
        (0xdc00 + m % 0x400 - 0xdc00) = c.toNat := by omega
    have htext : ("\\u" ++ hex4 (0xd800 + m / 0x400) ++ "\\u" ++ hex4 (0xdc00 + m % 0x400)).toList
          ++ tail =
        '\\' :: 'u' :: ((hex4 (0xd800 + m / 0x400)).toList ++
          ('\\' :: 'u' :: ((hex4 (0xdc00 + m % 0x400)).toList ++ tail))) := by
      simp [String.toList_append]
    have hhalf : 0xd800 + m / 0x400 < 0x10000 := by omega
    have hrest : 0xdc00 + m % 0x400 < 0x10000 := by omega
    rw [htext, scanString_unicode, scanString_hex4 hhalf]
    simp only [codePoint, hfirst, if_true, proceed]
    rw [scanString_pair, scanString_hex4 hrest]
    simp only [codePoint, hsecond, if_true, hjoined, proceed, Char.ofNat_toNat]

theorem scanString_escape (c : Char) (tail : List Char) :
    scanString .text ((escape c).toList ++ tail) =
      (scanString .text tail).map (fun r => (c :: r.1, r.2)) := by
  unfold escape
  split_ifs with hquote hslash hnewline hreturn htab hfeed hback hplain
  · subst hquote; rfl
  · subst hslash; rfl
  · subst hnewline; rfl
  · subst hreturn; rfl
  · subst htab; rfl
  · obtain rfl : c = Char.ofNat 0x0c := Char.toNat_inj.mp hfeed
    rfl
  · obtain rfl : c = Char.ofNat 0x08 := Char.toNat_inj.mp hback
    rfl
  · have hlow : ' ' ≤ c := (Bool.and_eq_true_iff.mp hplain).1 |> of_decide_eq_true
    have hvalue : 0x20 ≤ c.toNat := hlow
    rw [String.toList_singleton, List.singleton_append, scanString_cons,
      advance_plain (by simp [isPlain, hquote, hslash, hvalue])]
    rfl
  · exact scanString_unicodeEscape c tail

/-- A string is scanned up to its closing quote as the text that was escaped. -/
theorem scanString_string (cs tail : List Char) :
    scanString .text (cs.flatMap (fun c => (escape c).toList) ++ '"' :: tail) =
      .ok (cs, tail) := by
  induction cs with
  | nil => rfl
  | cons c cs ih =>
    rw [List.flatMap_cons, List.append_assoc, scanString_escape, ih]
    rfl

theorem string_toList (s : String) : (string s).toList =
    '"' :: (s.toList.flatMap (fun c => (escape c).toList) ++ ['"']) := by
  simp [string, String.toList_append, String.toList_join, List.flatMap_map]

end Escapes

/-! ### Values -/

section Values

variable {text : List Char} {v : Json} {d : Char} {rest : List Char} {sep : Separators}

/-- A comma and a colon, with nothing but white space behind them. -/
structure Separators.Plain (sep : Separators) : Prop where
  item : ∃ blank, sep.item.toList = ',' :: blank ∧ skip blank = []
  key : ∃ blank, sep.key.toList = ':' :: blank ∧ skip blank = []

theorem compact_plain : compact.Plain := ⟨⟨[], rfl, rfl⟩, ⟨[], rfl, rfl⟩⟩

theorem reads_string (s : String) : Reads (string s).toList (.str s) := by
  have hskip : skip (string s).toList = (string s).toList := by
    rw [string_toList]
    rfl
  refine ⟨1, [], ?_, rfl⟩
  rw [hskip, string_toList, scanValue_scalar 0 _ (by decide) (by decide), scanScalar, if_pos rfl,
    scanString_string]
  simp [Except.map]

theorem reads_integer {k : Int} (h : k.natAbs < 10 ^ maxStrDigits) :
    Reads (integer k).toList (.int k) := reads_toString h

theorem reads_null : Reads "null".toList .null := ⟨1, [], rfl, rfl⟩

theorem reads_optional {α : Type} {write : α → String} {value : α → Json} {a : Option α}
    (h : ∀ x, a = some x → Reads (write x).toList (value x)) :
    Reads (optional write a).toList (a.elim .null value) := by
  cases a with
  | none => exact reads_null
  | some x => exact h x rfl

theorem skip_of_not_blank (hd : isBlank d = false) (tail : List Char) :
    skip (d :: tail) = d :: tail := List.dropWhile_cons_of_neg (by simp [hd])

/-- A document is read in front of any character that ends a value. -/
theorem reads_before (h : Reads text v) (hd : isDelimiter d = true) (hblank : isBlank d = false)
    (tail : List Char) : ∃ n, ReadsItem n (skip (text ++ d :: tail)) v d tail := by
  obtain ⟨n, rest, hscan, hrest⟩ := h
  have hsealed : Sealed (rest ++ d :: tail) := by
    cases rest with
    | nil => exact ⟨d, rfl, hd⟩
    | cons c rest =>
      refine ⟨c, rfl, ?_⟩
      by_contra hc
      have hblank : ¬ isBlank c = true := fun hc' => hc (isBlank_delimiter hc')
      simp [skip, hblank] at hrest
  refine ⟨n, rest ++ d :: tail, ?_, ?_⟩
  · rw [skip_append_of_ne (scanValue_ne_nil hscan)]
    exact (scan_append n _).value hscan (.inr hsealed)
  · rw [skip_append_of_nil hrest, skip_of_not_blank hblank]

/-- Texts that are read back one by one, in an array. -/
theorem scanItems_intercalate (hsep : sep.Plain) {texts : List String} {values : List Json}
    (h : List.Forall₂ (fun t v => Reads t.toList v) texts values) (hne : texts ≠ []) :
    ∃ n, scanItems n (skip ((sep.item.intercalate texts).toList ++ [']'])) =
      .ok (values, []) := by
  induction h with
  | nil => exact absurd rfl hne
  | @cons t v texts values hhead htail ih =>
    cases texts with
    | nil =>
      cases htail
      obtain ⟨n, hitem⟩ := reads_before hhead (d := ']') rfl rfl []
      refine ⟨n + 1, scanItems_iff.mpr ⟨v, ']', [], ?_, .inl ⟨rfl, rfl, rfl⟩⟩⟩
      simpa using hitem
    | cons t' texts =>
      obtain ⟨m, hm⟩ := ih (by simp)
      obtain ⟨blank, hitem, hblank⟩ := hsep.item
      obtain ⟨n, hn⟩ := reads_before hhead (d := ',') rfl rfl
        (blank ++ ((sep.item.intercalate (t' :: texts)).toList ++ [']']))
      have htext : (sep.item.intercalate (t :: t' :: texts)).toList ++ [']'] = t.toList ++
          ',' :: (blank ++ ((sep.item.intercalate (t' :: texts)).toList ++ [']'])) := by
        rw [String.intercalate_cons_cons, String.toList_append, String.toList_append, hitem]
        simp
      -- enough fuel for the first item and for the others
      obtain ⟨k, hk⟩ : ∃ k, k =
          (skip (t.toList ++ ',' :: (blank ++ ((sep.item.intercalate (t' :: texts)).toList ++
            [']'])))).length +
          (skip ((sep.item.intercalate (t' :: texts)).toList ++ [']'])).length := ⟨_, rfl⟩
      refine ⟨k + 1, ?_⟩
      rw [htext]
      refine scanItems_iff.mpr ⟨v, ',', _, (hn.settle (scan_settles n)).2 k (by omega),
        .inr ⟨rfl, values, ?_, rfl⟩⟩
      rw [skip_append_of_nil hblank]
      exact ((scan_settles m).items hm).2 k (by rw [hk, List.length_nil]; omega)

/-- What is read as items begins like a value. -/
theorem scanItems_head {n : Nat} {cs : List Char} {r : List Json × List Char}
    (h : scanItems n cs = .ok r) : ∃ c tail, cs = c :: tail ∧ startsValue c = true := by
  cases n with
  | zero => cases h
  | succ n =>
    obtain ⟨v, d, rest, ⟨rest1, hvalue, -⟩, -⟩ := scanItems_iff.mp h
    cases cs with
    | nil => exact absurd rfl (scanValue_ne_nil hvalue)
    | cons c tail => exact ⟨c, tail, rfl, rawDecode_starts (rawDecode_iff.mpr ⟨n, hvalue⟩)⟩

/-- Texts that are read back one by one are read back as an array. -/
theorem reads_array (hsep : sep.Plain) {texts : List String} {values : List Json}
    (h : List.Forall₂ (fun t v => Reads t.toList v) texts values) :
    Reads (array sep texts).toList (.list values) := by
  have htext : (array sep texts).toList =
      '[' :: ((sep.item.intercalate texts).toList ++ [']']) := by
    simp [array, String.toList_append]
  have hskip : skip (array sep texts).toList = (array sep texts).toList := by
    rw [htext]
    rfl
  cases texts with
  | nil =>
    cases h
    refine ⟨1, [], ?_, rfl⟩
    rw [hskip, htext]
    rfl
  | cons t texts =>
    obtain ⟨n, hn⟩ := scanItems_intercalate hsep h (by simp)
    obtain ⟨c, tail, hcs, hc⟩ := scanItems_head hn
    have hopen : c ≠ ']' := by
      rintro rfl
      exact absurd hc (by decide)
    refine ⟨n + 1, [], ?_, rfl⟩
    rw [hskip, htext, scanValue_list]
    exact scanNested_iff.mpr ⟨c, tail, hcs, .inr ⟨hopen, values, hcs ▸ hn, rfl⟩⟩

/-- A member of an object as it is written. -/
def memberChars (sep : Separators) (m : String × String) : List Char :=
  (string m.1).toList ++ (sep.key.toList ++ m.2.toList)

theorem readsMember_memberChars (hsep : sep.Plain) {m : String × String} {n : Nat}
    {tail : List Char} (h : ReadsItem n (skip (m.2.toList ++ tail)) v d rest) :
    ReadsMember n (memberChars sep m ++ tail) m.1.toList v d rest := by
  obtain ⟨blank, hkey, hblank⟩ := hsep.key
  refine ⟨_, ':' :: (blank ++ (m.2.toList ++ tail)), blank ++ (m.2.toList ++ tail), ?_,
    scanString_string m.1.toList (':' :: (blank ++ (m.2.toList ++ tail))), rfl, ?_⟩
  · simp [memberChars, string_toList, hkey]
  · rwa [skip_append_of_nil hblank]

/-- Members whose values are read back one by one, in an object. -/
theorem scanMembers_intercalate (hsep : sep.Plain) {members : List (String × String)}
    {fields : List (String × Json)}
    (h : List.Forall₂ (fun m f => m.1 = f.1 ∧ Reads m.2.toList f.2) members fields)
    (hne : members ≠ []) :
    ∃ n, scanMembers n ((sep.item.intercalate
      (members.map (fun m => string m.1 ++ sep.key ++ m.2))).toList ++ ['}']) =
      .ok (fields, []) := by
  induction h with
  | nil => exact absurd rfl hne
  | @cons m f members fields hhead htail ih =>
    obtain ⟨hkey, hvalue⟩ := hhead
    have hfield : (String.ofList m.1.toList, f.2) = f := by rw [String.ofList_toList, hkey]
    have hchars : (string m.1 ++ sep.key ++ m.2).toList = memberChars sep m := by
      simp [memberChars, String.toList_append]
    cases members with
    | nil =>
      cases htail
      obtain ⟨n, hitem⟩ := reads_before hvalue (d := '}') rfl rfl []
      refine ⟨n + 1, scanMembers_iff.mpr ⟨m.1.toList, f.2, '}', [], ?_, .inl ⟨rfl, ?_, rfl⟩⟩⟩
      · rw [List.map_singleton, String.intercalate_singleton, hchars]
        exact readsMember_memberChars hsep hitem
      · rw [hfield]
    | cons m' members =>
      obtain ⟨k, hk⟩ := ih (by simp)
      obtain ⟨blank, hitem, hblank⟩ := hsep.item
      obtain ⟨more, hmore⟩ : ∃ more, more = (sep.item.intercalate
          ((m' :: members).map (fun m => string m.1 ++ sep.key ++ m.2))).toList ++ ['}'] :=
        ⟨_, rfl⟩
      obtain ⟨n, hn⟩ := reads_before hvalue (d := ',') rfl rfl (blank ++ more)
      have htext : (sep.item.intercalate ((m :: m' :: members).map
          (fun m => string m.1 ++ sep.key ++ m.2))).toList ++ ['}'] =
          memberChars sep m ++ ',' :: (blank ++ more) := by
        rw [List.map_cons, List.map_cons, String.intercalate_cons_cons, String.toList_append,
          String.toList_append, hitem, hchars, hmore, List.map_cons]
        simp
      have hquote : skip more = more := by
        obtain ⟨cs, hcs⟩ := scanMembers_head hk
        rw [hmore, hcs]
        rfl
      have hmember := readsMember_memberChars hsep hn
      obtain ⟨l, hl⟩ : ∃ l, l = (memberChars sep m ++ ',' :: (blank ++ more)).length +
        more.length := ⟨_, rfl⟩
      refine ⟨l + 1, ?_⟩
      rw [htext]
      refine scanMembers_iff.mpr ⟨m.1.toList, f.2, ',', _,
        (hmember.settle (scan_settles n)).2 l (by omega), .inr ⟨rfl, fields, ?_, ?_⟩⟩
      · rw [skip_append_of_nil hblank, hquote, hmore]
        rw [← hmore] at hk ⊢
        exact ((scan_settles k).members hk).2 l (by rw [hl, List.length_nil]; omega)
      · rw [hfield]

/-- Members with different keys whose values are read back are read back as an object. -/
theorem reads_object (hsep : sep.Plain) {members : List (String × String)}
    {fields : List (String × Json)}
    (h : List.Forall₂ (fun m f => m.1 = f.1 ∧ Reads m.2.toList f.2) members fields)
    (hkeys : (fields.map Prod.fst).Nodup) :
    Reads (object sep members).toList (.dict fields) := by
  have htext : (object sep members).toList = '{' :: ((sep.item.intercalate
      (members.map (fun m => string m.1 ++ sep.key ++ m.2))).toList ++ ['}']) := by
    simp [object, String.toList_append]
  have hskip : skip (object sep members).toList = (object sep members).toList := by
    rw [htext]
    rfl
  cases members with
  | nil =>
    cases h
    refine ⟨1, [], ?_, rfl⟩
    rw [hskip, htext]
    rfl
  | cons m members =>
    obtain ⟨n, hn⟩ := scanMembers_intercalate hsep h (by simp)
    obtain ⟨cs, hcs⟩ := scanMembers_head hn
    refine ⟨n + 1, [], ?_, rfl⟩
    rw [hskip, htext, scanValue_object]
    refine scanNested_iff.mpr ⟨'"', cs, by rw [hcs]; rfl, .inr ⟨by decide, fields, hcs ▸ hn, ?_⟩⟩
    rw [ofPairs_nodup hkeys]

end Values

end JsonText
