import NexyGateway.DecoderLaws

/-!
# Objects written as text

What a text decodes to that is put together from the texts of its fields. A field that is
written without regard to the grammar is exact if it is read back only when its text is clean.
-/
namespace PyDecoder

open PyNumber PyJson

/-- The text is this document, with white space around it. -/
def Reads (text : List Char) (v : Json) : Prop :=
  ∃ n rest, scanValue n (skip text) = .ok (v, rest) ∧ skip rest = []

/-- The text goes on with these fields and the brace that closes the object. -/
def ReadsFields (cs : List Char) (fields : List (String × Json)) : Prop :=
  ∃ n rest, scanMembers n cs = .ok (fields, rest) ∧ skip rest = []

/-- The text is one object with these fields, in their order and with every repetition. -/
def Fields (text : List Char) (fields : List (String × Json)) : Prop :=
  ∃ cs, skip text = '{' :: cs ∧ ReadsFields (skip cs) fields

theorem loads_iff {text : String} {v : Json} : loads text = .ok v ↔ Reads text.toList v := by
  unfold loads
  constructor
  · intro h
    cases hdecode : rawDecode (skip text.toList) with
    | error e =>
      rw [hdecode] at h
      cases h
    | ok r =>
      rw [hdecode] at h
      simp only at h
      split at h
      · rename_i hrest
        cases h
        exact ⟨_, r.2, hdecode, hrest⟩
      · cases h
  · rintro ⟨n, rest, hscan, hrest⟩
    rw [rawDecode_iff.mpr ⟨n, hscan⟩]
    exact if_pos hrest

section Items

theorem setItem_fresh {key : String} {d : Dict} (v : Json) (h : key ∉ d.map Prod.fst) :
    setItem key v d = d ++ [(key, v)] := by
  induction d with
  | nil => rfl
  | cons pair d ih =>
    rw [List.map_cons, List.mem_cons, not_or] at h
    rw [setItem, if_neg (Ne.symm h.1), ih h.2, List.cons_append]

theorem foldl_setItem {pairs : List (String × Json)} {d : Dict}
    (h : ((d ++ pairs).map Prod.fst).Nodup) :
    pairs.foldl (fun d pair => setItem pair.1 pair.2 d) d = d ++ pairs := by
  induction pairs generalizing d with
  | nil => simp
  | cons pair pairs ih =>
    have hfresh : pair.1 ∉ d.map Prod.fst := by
      rw [List.map_append, List.map_cons] at h
      intro hmem
      exact (List.nodup_append.mp h).2.2 pair.1 hmem pair.1 List.mem_cons_self rfl
    rw [List.foldl_cons, setItem_fresh pair.2 hfresh, ih (by simpa using h)]
    simp

/-- Fields with different keys are the members of the object. -/
theorem ofPairs_nodup {pairs : List (String × Json)} (h : (pairs.map Prod.fst).Nodup) :
    ofPairs pairs = pairs := foldl_setItem (by simpa using h)

theorem scanMembers_head {n : Nat} {cs : List Char} {r : List (String × Json) × List Char}
    (h : scanMembers n cs = .ok r) : ∃ cs', cs = '"' :: cs' := by
  cases n with
  | zero => cases h
  | succ n =>
    obtain ⟨key, v, d, rest1, ⟨cs', -, -, hcs, -⟩, -⟩ := scanMembers_iff.mp h
    exact ⟨cs', hcs⟩

theorem loads_of_fields {text : String} {fields : List (String × Json)}
    (h : Fields text.toList fields) : loads text = .ok (.dict (ofPairs fields)) := by
  obtain ⟨cs, hskip, n, rest, hmembers, hrest⟩ := h
  obtain ⟨cs', hcs⟩ := scanMembers_head hmembers
  refine loads_iff.mpr ⟨n + 1, rest, ?_, hrest⟩
  rw [hskip, scanValue_object]
  refine scanNested_iff.mpr ⟨'"', cs', hcs, .inr ⟨by decide, fields, ?_, rfl⟩⟩
  rw [← hcs]
  exact hmembers

variable {n m : Nat} {cs rest rest' : List Char} {v w : Json} {d e : Char}

theorem ReadsItem.unique (h : ReadsItem n cs v d rest) (h' : ReadsItem m cs w e rest') :
    v = w ∧ d = e ∧ rest = rest' := by
  obtain ⟨rest1, hvalue, hskip⟩ := h
  obtain ⟨rest2, hvalue', hskip'⟩ := h'
  have hsame := rawDecode_iff.mpr ⟨n, hvalue⟩
  rw [rawDecode_iff.mpr ⟨m, hvalue'⟩] at hsame
  cases hsame
  rw [hskip] at hskip'
  cases hskip'
  exact ⟨rfl, rfl, rfl⟩

/-- The characters behind a field. -/
def isSeparator (c : Char) : Bool := c = ',' || c = '}'

theorem isDelimiter_separator (hd : isSeparator d = true) : isDelimiter d = true := by
  simp only [isSeparator, Bool.or_eq_true, decide_eq_true_eq] at hd
  rcases hd with rfl | rfl
  all_goals rfl

theorem skip_separator (hd : isSeparator d = true) (tail : List Char) :
    skip (d :: tail) = d :: tail := by
  simp only [isSeparator, Bool.or_eq_true, decide_eq_true_eq] at hd
  rcases hd with rfl | rfl
  all_goals rfl

theorem skip_append_of_nil {blank tail : List Char} (h : skip blank = []) :
    skip (blank ++ tail) = skip tail := by
  unfold skip at h ⊢
  rw [List.dropWhile_append, h]
  rfl

/-- A document is read in front of a separator. -/
theorem Reads.item {text : List Char} (h : Reads text v) (hd : isSeparator d = true)
    (tail : List Char) : ∃ n, ReadsItem n (skip (text ++ d :: tail)) v d tail := by
  obtain ⟨n, rest, hscan, hrest⟩ := h
  have hsealed : Sealed (rest ++ d :: tail) := by
    cases rest with
    | nil => exact ⟨d, rfl, isDelimiter_separator hd⟩
    | cons c rest =>
      refine ⟨c, rfl, ?_⟩
      by_contra hc
      have hblank : ¬ isBlank c = true := fun hc' => hc (isBlank_delimiter hc')
      simp [skip, hblank] at hrest
  refine ⟨n, rest ++ d :: tail, ?_, ?_⟩
  · rw [skip_append_of_ne (scanValue_ne_nil hscan)]
    exact (scan_append n _).value hscan (.inr hsealed)
  · rw [skip_append_of_nil hrest, skip_separator hd]

end Items

/-! ### Fields one behind the other -/

/-- A field as it is written, with the blanks in front of it: the text of its value is put in
as it is, and is meant to be read back as the value. -/
structure Entry where
  gap : Nat
  key : List Char
  text : List Char
  value : Json
  /-- What the text has to be like. -/
  clean : Prop
  word : key ≠ [] ∧ key.all Char.isAlpha = true

def Entry.chars (e : Entry) : List Char := '"' :: e.key ++ '"' :: ':' :: e.text

def Entry.field (e : Entry) : String × Json := (String.ofList e.key, e.value)

/-- The text behind a field: the fields that follow, and the closing brace. -/
def chain : List Entry → List Char
  | [] => ['}']
  | e :: es => ',' :: (List.replicate e.gap ' ' ++ (e.chars ++ chain es))

def objectText (e : Entry) (es : List Entry) : List Char := '{' :: (e.chars ++ chain es)

/-- In front of this text the value is read back if and only if its own text is clean. -/
def Entry.Exact (e : Entry) (tail : List Char) : Prop :=
  ∀ d rest, isSeparator d = true →
    ((∃ n, ReadsItem n (skip (e.text ++ tail)) e.value d rest) ↔ e.clean ∧ tail = d :: rest)

/-- Every field is exact in its place. -/
def Exacts : List Entry → Prop
  | [] => True
  | e :: es => e.Exact (chain es) ∧ Exacts es

section Fields

variable {e : Entry} {es : List Entry} {n : Nat} {d : Char} {rest : List Char} {v : Json}

theorem chain_cons (es : List Entry) : ∃ d tail, chain es = d :: tail ∧ isSeparator d = true := by
  cases es with
  | nil => exact ⟨'}', [], rfl, rfl⟩
  | cons e es => exact ⟨',', _, rfl, rfl⟩

theorem skip_gap (e : Entry) (tail : List Char) :
    skip (List.replicate e.gap ' ' ++ (e.chars ++ tail)) = e.chars ++ tail := by
  have hblank : ∀ c ∈ List.replicate e.gap ' ', isBlank c = true := by
    intro c hc
    rw [List.eq_of_mem_replicate hc]
    rfl
  unfold skip
  rw [List.dropWhile_append_of_pos hblank]
  rfl

theorem isPlain_isAlpha {c : Char} (h : c.isAlpha = true) : isPlain c = true := by
  have hquote : c ≠ '"' := by
    rintro rfl
    cases h
  have hslash : c ≠ '\\' := by
    rintro rfl
    cases h
  have hlow : 0x20 ≤ c.toNat := by
    rcases Bool.or_eq_true_iff.mp h with hupper | hlower
    · have hfrom : 65 ≤ c.toNat := (of_decide_eq_true hupper).1
      omega
    · have hfrom : 97 ≤ c.toNat := of_decide_eq_true (Bool.and_eq_true_iff.mp hlower).1
      omega
  simp [isPlain, hquote, hslash, hlow]

/-- A field is read by its key and then its value. -/
theorem readsMember_chars {key tail : List Char} :
    ReadsMember n (e.chars ++ tail) key v d rest ↔
      key = e.key ∧ ReadsItem n (skip (e.text ++ tail)) v d rest := by
  have hkey : scanString .text (e.key ++ '"' :: (':' :: (e.text ++ tail))) =
      .ok (e.key, ':' :: (e.text ++ tail)) := 
    scanString_plain (fun c hc => isPlain_isAlpha (List.all_eq_true.mp e.word.2 c hc)) _
  have hchars : e.chars ++ tail = '"' :: (e.key ++ '"' :: (':' :: (e.text ++ tail))) := by
    simp [Entry.chars]
  constructor
  · rintro ⟨cs', rest1, rest2, hcs, hscan, hcolon, hitem⟩
    rw [hchars] at hcs
    obtain ⟨-, rfl⟩ := List.cons.inj hcs
    rw [hkey] at hscan
    cases hscan
    obtain ⟨-, rfl⟩ := List.cons.inj (show ':' :: (e.text ++ tail) = ':' :: rest2 from hcolon)
    exact ⟨rfl, hitem⟩
  · rintro ⟨rfl, hitem⟩
    exact ⟨_, _, _, hchars, hkey, rfl, hitem⟩

/-- The last field is read up to the closing brace. -/
theorem readsFields_last (h : e.Exact (chain [])) :
    ReadsFields (e.chars ++ chain []) [e.field] ↔ e.clean := by
  constructor
  · rintro ⟨n, rest, hscan, -⟩
    cases n with
    | zero => cases hscan
    | succ n =>
      obtain ⟨key, v, d, rest1, hmember, hd⟩ := scanMembers_iff.mp hscan
      obtain ⟨rfl, hitem⟩ := readsMember_chars.mp hmember
      rcases hd with ⟨rfl, hfield, -⟩ | ⟨rfl, ns, hns, hfield⟩
      · obtain ⟨-, rfl⟩ := Prod.mk.inj (List.cons.inj hfield).1
        exact ((h '}' rest1 rfl).mp ⟨n, hitem⟩).1
      · obtain ⟨-, rfl⟩ := Prod.mk.inj (List.cons.inj hfield).1
        cases ((h ',' rest1 rfl).mp ⟨n, hitem⟩).2
  · intro hclean
    obtain ⟨n, hitem⟩ := (h '}' [] rfl).mpr ⟨hclean, rfl⟩
    refine ⟨n + 1, [], scanMembers_iff.mpr ?_, rfl⟩
    exact ⟨e.key, e.value, '}', [], readsMember_chars.mpr ⟨rfl, hitem⟩, .inl ⟨rfl, rfl, rfl⟩⟩

/-- In front of another field the rest is read behind the comma. -/
theorem readsFields_next {f : Entry} {fields : List (String × Json)}
    (h : e.Exact (chain (f :: es))) :
    ReadsFields (e.chars ++ chain (f :: es)) (e.field :: f.field :: fields) ↔
      e.clean ∧ ReadsFields (f.chars ++ chain es) (f.field :: fields) := by
  have hchain : chain (f :: es) =
      ',' :: (List.replicate f.gap ' ' ++ (f.chars ++ chain es)) := rfl
  constructor
  · rintro ⟨n, rest, hscan, hrest⟩
    cases n with
    | zero => cases hscan
    | succ n =>
      obtain ⟨key, v, d, rest1, hmember, hd⟩ := scanMembers_iff.mp hscan
      obtain ⟨rfl, hitem⟩ := readsMember_chars.mp hmember
      rcases hd with ⟨rfl, hfield, -⟩ | ⟨rfl, ns, hns, hfield⟩
      · cases (List.cons.inj hfield).2
      · obtain ⟨hhead, rfl⟩ := List.cons.inj hfield
        obtain ⟨-, rfl⟩ := Prod.mk.inj hhead
        obtain ⟨hclean, hrest1⟩ := (h ',' rest1 rfl).mp ⟨n, hitem⟩
        obtain ⟨-, rfl⟩ := List.cons.inj (hchain.symm.trans hrest1)
        rw [skip_gap] at hns
        exact ⟨hclean, n, rest, hns, hrest⟩
  · rintro ⟨hclean, n, rest, hscan, hrest⟩
    obtain ⟨m, hitem⟩ := (h ',' _ rfl).mpr ⟨hclean, hchain⟩
    obtain ⟨k, hk⟩ : ∃ k, k = (e.chars ++ chain (f :: es)).length + (f.chars ++ chain es).length :=
      ⟨_, rfl⟩
    have hmember := (readsMember_chars.mpr ⟨rfl, hitem⟩).settle (scan_settles m)
    have hmembers := (scan_settles n).members hscan
    refine ⟨k + 1, rest, scanMembers_iff.mpr ⟨e.key, e.value, ',', _, hmember.2 k (by omega),
      .inr ⟨rfl, f.field :: fields, ?_, rfl⟩⟩, hrest⟩
    rw [skip_gap]
    exact hmembers.2 k (by omega)

/-- The fields are read back exactly if all of them are clean. -/
theorem readsFields_iff (h : Exacts (e :: es)) :
    ReadsFields (e.chars ++ chain es) ((e :: es).map Entry.field) ↔
      ∀ f ∈ e :: es, f.clean := by
  induction es generalizing e with
  | nil =>
    rw [List.forall_mem_singleton]
    exact readsFields_last h.1
  | cons f fs ih =>
    rw [List.forall_mem_cons, ← ih h.2]
    exact readsFields_next h.1

/-- The text of an object is read back with exactly its fields if and only if all of them are
clean. -/
theorem fields_objectText (h : Exacts (e :: es)) :
    Fields (objectText e es) ((e :: es).map Entry.field) ↔ ∀ f ∈ e :: es, f.clean := by
  rw [← readsFields_iff h]
  have hquote : skip (e.chars ++ chain es) = e.chars ++ chain es := rfl
  constructor
  · rintro ⟨cs, hcs, hreads⟩
    have hskip : skip (objectText e es) = '{' :: (e.chars ++ chain es) := rfl
    obtain ⟨-, rfl⟩ := List.cons.inj (hskip.symm.trans hcs)
    rwa [hquote] at hreads
  · exact fun hreads => ⟨_, rfl, by rwa [hquote]⟩

end Fields

/-! ### The texts of values -/

section Strings

variable {mode : Mode} {q s r tail rest : List Char} {d : Char}

/-- The scanner passes a closing quote only if it is behind a backslash there, and then it goes
on in the text behind the quote. -/
theorem scanString_quote (h : scanString mode (q ++ '"' :: tail) = .ok (s, r)) :
    s.length ≤ q.length ∨ ∃ s', scanString .text tail = .ok (s', r) := by
  induction q generalizing mode s with
  | nil =>
    rw [List.nil_append] at h
    cases mode with
    | text =>
      cases h
      exact .inl (Nat.le_refl 0)
    | escape =>
      obtain ⟨w, hw, heq⟩ := map_ok_iff.mp (show (scanString .text tail).map _ = _ from h)
      obtain ⟨-, rfl⟩ := Prod.mk.inj heq
      exact .inr ⟨w.1, hw⟩
    | unicode high value count => cases h
    | pair high => cases h
    | pairEscape high => cases h
  | cons c q ih =>
    rw [List.cons_append, scanString] at h
    cases hadvance : advance mode c with
    | close =>
      simp only [hadvance] at h
      cases h
      exact .inl (Nat.zero_le _)
    | fail =>
      simp only [hadvance] at h
      cases h
    | go mode' =>
      simp only [hadvance] at h
      exact (ih h).imp Nat.le_succ_of_le id
    | emit e =>
      simp only [hadvance] at h
      obtain ⟨w, hw, heq⟩ := map_ok_iff.mp h
      obtain ⟨rfl, rfl⟩ := Prod.mk.inj heq
      exact (ih hw).imp Nat.succ_le_succ id

theorem advance_text_emit {c e : Char} (h : advance .text c = .emit e) :
    isPlain c = true ∧ e = c := by
  simp only [advance] at h
  split at h
  · cases h
  split at h
  · cases h
  split at h
  · cases h
  rename_i hquote hslash hlow
  cases h
  simp only [isPlain, ne_eq, hquote, hslash, not_false_eq_true, decide_true, Bool.and_self,
    Bool.true_and, decide_eq_true_eq, and_true]
  omega

/-- A text that is read back as itself, by a scan that ends at its own closing quote, is plain. -/
theorem plain_of_scanString (h : scanString .text (q ++ '"' :: tail) = .ok (q, r))
    (hend : ∀ s, scanString .text tail ≠ .ok (s, r)) : ∀ c ∈ q, isPlain c = true := by
  induction q with
  | nil => exact List.forall_mem_nil _
  | cons c q ih =>
    rw [List.cons_append, scanString] at h
    cases hadvance : advance .text c with
    | close =>
      simp only [hadvance] at h
      cases h
    | fail =>
      simp only [hadvance] at h
      cases h
    | go mode =>
      simp only [hadvance] at h
      -- the backslash takes a character of the text and yields none
      rcases scanString_quote h with hlength | ⟨s, hs⟩
      · exact absurd hlength (Nat.not_succ_le_self _)
      · exact absurd hs (hend s)
    | emit e =>
      simp only [hadvance] at h
      obtain ⟨w, hw, heq⟩ := map_ok_iff.mp h
      obtain ⟨hcons, rfl⟩ := Prod.mk.inj heq
      obtain ⟨-, hq⟩ := List.cons.inj hcons
      have hscan : scanString .text (q ++ '"' :: tail) = .ok (q, w.2) := by rw [hw, ← hq]
      exact List.forall_mem_cons.mpr ⟨(advance_text_emit hadvance).1, ih hscan⟩

/-- No string that is open in front of the text ends in front of a separator. -/
def Shut (tail : List Char) : Prop :=
  ∀ s r d rest, scanString .text tail = .ok (s, r) → skip r = d :: rest → isSeparator d = false

theorem isSeparator_isAlpha {c : Char} (h : c.isAlpha = true) : isSeparator c = false := by
  by_contra hc
  simp only [isSeparator, Bool.or_eq_true, decide_eq_true_eq, Bool.not_eq_false] at hc
  rcases hc with rfl | rfl
  all_goals cases h

theorem isBlank_isAlpha {c : Char} (h : c.isAlpha = true) : isBlank c = false := by
  by_contra hc
  simp only [isBlank, Bool.or_eq_true, decide_eq_true_eq, Bool.not_eq_false] at hc
  rcases hc with ((rfl | rfl) | rfl) | rfl
  all_goals cases h

/-- Behind an open string the key of the next field stands where a separator should. -/
theorem shut_chain (es : List Entry) : Shut (chain es) := by
  intro s r d rest hscan hskip
  cases es with
  | nil => cases hscan
  | cons f fs =>
    have hplain : ∀ c ∈ ',' :: List.replicate f.gap ' ', isPlain c = true := by
      intro c hc
      rcases List.mem_cons.mp hc with rfl | hc
      · rfl
      · rw [List.eq_of_mem_replicate hc]
        rfl
    have hchain : chain (f :: fs) = (',' :: List.replicate f.gap ' ') ++
        '"' :: (f.key ++ '"' :: ':' :: (f.text ++ chain fs)) := by
      simp [chain, Entry.chars]
    rw [hchain, scanString_plain hplain] at hscan
    cases hscan
    obtain ⟨hne, halpha⟩ := f.word
    cases hkey : f.key with
    | nil => exact absurd hkey hne
    | cons c key =>
      have hc := List.all_eq_true.mp halpha c (hkey ▸ List.mem_cons_self)
      rw [hkey, List.cons_append, skip, List.dropWhile_cons_of_neg
        (by simp [isBlank_isAlpha hc])] at hskip
      obtain ⟨rfl, -⟩ := List.cons.inj hskip
      exact isSeparator_isAlpha hc

end Strings

section Texts

variable {gap : Nat} {key text q : List Char} {v : Json} {k : Int}
  {hkey : key ≠ [] ∧ key.all Char.isAlpha = true}

/-- A text between quotes. -/
def Entry.quoted (gap : Nat) (key q : List Char)
    (hkey : key ≠ [] ∧ key.all Char.isAlpha = true) : Entry :=
  ⟨gap, key, '"' :: (q ++ ['"']), .str (String.ofList q), ∀ c ∈ q, isPlain c = true, hkey⟩

/-- A text that is put in for a number. -/
def Entry.number (gap : Nat) (key text : List Char) (k : Int)
    (hkey : key ≠ [] ∧ key.all Char.isAlpha = true) : Entry :=
  ⟨gap, key, text, .int k, Reads text (.int k), hkey⟩

/-- The text of a document. -/
def Entry.document (gap : Nat) (key text : List Char) (v : Json)
    (hkey : key ≠ [] ∧ key.all Char.isAlpha = true) : Entry :=
  ⟨gap, key, text, v, True, hkey⟩

/-- A quoted text is read back if and only if no character of it ends or escapes anything. -/
theorem exact_quoted (es : List Entry) : (Entry.quoted gap key q hkey).Exact (chain es) := by
  intro d rest hd
  have htext : (Entry.quoted gap key q hkey).text ++ chain es = '"' :: (q ++ '"' :: chain es) := by
    simp [Entry.quoted]
  have hskip : skip ('"' :: (q ++ '"' :: chain es)) = '"' :: (q ++ '"' :: chain es) := rfl
  obtain ⟨e, tail, hchain, he⟩ := chain_cons es
  have hscalar : ∀ n, scanValue (n + 1) ('"' :: (q ++ '"' :: chain es)) =
      (scanString .text (q ++ '"' :: chain es)).map (fun r => (.str (String.ofList r.1), r.2)) :=
    fun n => scanValue_scalar n _ (by decide) (by decide)
  rw [htext, hskip]
  constructor
  · rintro ⟨n, rest1, hscan, hrest⟩
    cases n with
    | zero => cases hscan
    | succ n =>
      rw [hscalar] at hscan
      obtain ⟨r, hr, heq⟩ := map_ok_iff.mp hscan
      obtain ⟨hvalue, rfl⟩ := Prod.mk.inj heq
      have hq : r.1 = q := String.ofList_injective (Json.str.inj hvalue)
      have hself : scanString .text (q ++ '"' :: chain es) = .ok (q, r.2) := by rw [hr, ← hq]
      have hclean : ∀ c ∈ q, isPlain c = true := by
        apply plain_of_scanString hself
        intro s hs
        rw [shut_chain es s r.2 d rest hs hrest] at hd
        cases hd
      rw [scanString_plain hclean] at hself
      have hrest2 : chain es = r.2 := (Prod.mk.inj (Except.ok.inj hself)).2
      rw [← hrest2, hchain, skip_separator he] at hrest
      exact ⟨hclean, by rw [hchain, hrest]⟩
  · rintro ⟨hclean, htail⟩
    refine ⟨1, chain es, ?_, ?_⟩
    · rw [hscalar, scanString_plain hclean]
      rfl
    · rw [htail, skip_separator hd]

theorem scanNumber_head {c : Char} {cs : List Char} {r : Json × List Char}
    (h : scanNumber (c :: cs) = .ok r) : c = '-' ∨ c.isDigit = true := by
  by_cases hminus : c = '-'
  · exact .inl hminus
  · right
    by_contra hdigit
    have hzero : ¬ c = '0' := by
      rintro rfl
      exact hdigit rfl
    simp [scanNumber, scanLiteral, scanSign, scanInteger, hminus, hdigit, hzero] at h

theorem wordOf_number {c : Char} (h : c = '-' ∨ c.isDigit = true) : wordOf? c = none := by
  rw [wordOf?, List.lookup_eq_none_iff]
  intro pair hpair
  by_contra heq
  simp only [bne_iff_ne, ne_eq, not_not] at heq
  subst heq
  simp only [List.mem_cons, List.not_mem_nil, or_false] at hpair
  rcases hpair with rfl | rfl | rfl | rfl | rfl
  all_goals simp at h

theorem scanValue_of_number {cs : List Char} {r : Json × List Char} (h : scanNumber cs = .ok r)
    (n : Nat) : scanValue (n + 1) cs = .ok r := by
  cases cs with
  | nil => cases h
  | cons c cs =>
    have hhead := scanNumber_head h
    have hne : ∀ {e : Char}, e ≠ '-' → e.isDigit = false → c ≠ e := by
      rintro e hminus hdigit rfl
      rw [hdigit] at hhead
      exact hhead.elim hminus (by simp)
    rw [scanValue_scalar n cs (hne (by decide) rfl) (hne (by decide) rfl), scanScalar,
      if_neg (hne (by decide) rfl), wordOf_number hhead]
    simp only
    rw [if_neg]
    · exact h
    · rintro ⟨rfl, hinfinity⟩
      obtain ⟨d, tail, rfl, hd⟩ := scanNumber_minus h
      obtain ⟨t, ht⟩ := hinfinity
      rw [← (List.cons.inj ht).1] at hd
      cases hd

theorem word_value {tail rest rest' : List Char} {v w : Json}
    (h : word tail v rest = .ok (w, rest')) : w = v := by
  unfold word at h
  cases hdrop : rest.dropPrefix? tail with
  | none =>
    rw [hdrop] at h
    cases h
  | some rest'' =>
    rw [hdrop] at h
    cases h
    rfl

theorem wordOf_not_int {c : Char} {tail : List Char} {v : Json}
    (h : wordOf? c = some (tail, v)) : v ≠ .int k := by
  rintro rfl
  obtain ⟨front, back, hlist, -⟩ := List.lookup_eq_some_iff.mp h
  have hmem : (c, tail, Json.int k) ∈ front ++ (c, tail, Json.int k) :: back := by simp
  rw [← hlist] at hmem
  simp at hmem

/-- An integer is read as a number. -/
theorem scanValue_int {n : Nat} {cs rest : List Char}
    (h : scanValue n cs = .ok (.int k, rest)) : scanNumber cs = .ok (.int k, rest) := by
  cases n with
  | zero => cases h
  | succ n =>
    cases cs with
    | nil => cases h
    | cons c cs =>
      by_cases hbrace : c = '{'
      · subst hbrace
        rw [scanValue_object] at h
        obtain ⟨d, rest', -, ⟨-, hv, -⟩ | ⟨-, a, -, hv⟩⟩ := scanNested_iff.mp h
        · cases hv
        · cases hv
      by_cases hbracket : c = '['
      · subst hbracket
        rw [scanValue_list] at h
        obtain ⟨d, rest', -, ⟨-, hv, -⟩ | ⟨-, a, -, hv⟩⟩ := scanNested_iff.mp h
        · cases hv
        · cases hv
      rw [scanValue_scalar n cs hbrace hbracket] at h
      simp only [scanScalar] at h
      split at h
      · obtain ⟨r, -, heq⟩ := map_ok_iff.mp h
        cases heq
      · split at h
        · rename_i tail v hword
          exact absurd (word_value h).symm (wordOf_not_int hword)
        · split at h
          · cases word_value h
          · exact h

/-- The text of a number is read back if and only if it is spelled as the decoder reads it, as
long as no character of it can pass for the end of the field. -/
theorem exact_number (hsep : ∀ c ∈ text, isSeparator c = false) (es : List Entry) :
    (Entry.number gap key text k hkey).Exact (chain es) := by
  intro d rest hd
  obtain ⟨e, tail, hchain, he⟩ := chain_cons es
  have hchain' : (Entry.number gap key text k hkey).text ++ chain es = text ++ e :: tail := by
    rw [hchain]
    rfl
  have hiff : (Entry.number gap key text k hkey).clean = Reads text (.int k) := rfl
  rw [hchain', hiff]
  constructor
  · rintro ⟨n, rest1, hscan, hrest⟩
    have hnumber := scanValue_int hscan
    by_cases hblank : skip text = []
    · rw [skip_append_of_nil hblank, skip_separator he] at hnumber
      rcases scanNumber_head hnumber with rfl | hdigit
      · cases he
      · rw [isDigit_delimiter (isDelimiter_separator he)] at hdigit
        cases hdigit
    · rw [skip_append_of_ne hblank, scanNumber_delimiter (isDelimiter_separator he)] at hnumber
      obtain ⟨r, hr, heq⟩ := map_ok_iff.mp hnumber
      obtain ⟨hvalue, rfl⟩ := Prod.mk.inj heq
      cases hskip : skip r.2 with
      | nil =>
        rw [skip_append_of_nil hskip, skip_separator he] at hrest
        refine ⟨⟨1, r.2, ?_, hskip⟩, by rw [hchain, hrest]⟩
        rw [← hvalue]
        exact scanValue_of_number hr 0
      | cons c cs =>
        -- what is left over of the text has a separator in it
        rw [skip_append _ hskip] at hrest
        obtain ⟨rfl, -⟩ := List.cons.inj hrest
        have hmem : c ∈ text := by
          have hskipped : c ∈ skip r.2 := hskip ▸ List.mem_cons_self
          exact (List.dropWhile_suffix _).subset
            ((scanNumber_suffix hr).1.subset ((List.dropWhile_suffix _).subset hskipped))
        rw [hsep c hmem] at hd
        cases hd
  · rintro ⟨hreads, htail⟩
    obtain ⟨rfl, rfl⟩ := List.cons.inj (hchain.symm.trans htail)
    exact hreads.item hd _

theorem exact_document (h : Reads text v) (es : List Entry) :
    (Entry.document gap key text v hkey).Exact (chain es) := by
  intro d rest hd
  obtain ⟨e, tail, hchain, he⟩ := chain_cons es
  obtain ⟨n, hitem⟩ := h.item he tail
  have hchain' : (Entry.document gap key text v hkey).text ++ chain es = text ++ e :: tail := by
    rw [hchain]
    rfl
  rw [hchain']
  constructor
  · rintro ⟨m, hitem'⟩
    obtain ⟨-, rfl, rfl⟩ := hitem.unique hitem'
    exact ⟨trivial, hchain⟩
  · rintro ⟨-, htail⟩
    obtain ⟨rfl, rfl⟩ := List.cons.inj (hchain.symm.trans htail)
    exact ⟨n, hitem⟩

end Texts

end PyDecoder
