import NexyGateway.PyJson

/-!
# Python's JSON decoder

`JSONDecoder.raw_decode` and `json.loads`: a document is read off the front of a text,
with what is left behind it. Strings are scanned by an automaton, and nested values with a
fuel that never runs out. Three things are left out: half a surrogate pair in an escape, which
Python keeps in its string, is refused here; a float has no negative zero; and nothing is nested
too deep, where Python raises `RecursionError`.
-/
namespace PyDecoder

open PyNumber PyJson

/-- A text that is no JSON, or a number with more digits than `int` takes. -/
inductive DecodeError where
  | jsonDecodeError | valueError
  deriving DecidableEq, Repr

/-- What has been read, and the text behind it. -/
abbrev Scanned (α : Type) := Except DecodeError (α × List Char)

/-- White space of the JSON grammar. -/
def isBlank (c : Char) : Bool := c = ' ' || c = '\t' || c = '\n' || c = '\r'

def skip (cs : List Char) : List Char := cs.dropWhile isBlank

/-! ### Strings -/

/-- Where the scanner is inside a string: in its text, behind a backslash, in the four digits
of a code (which may be the second half of a pair), or between the halves of a pair. -/
inductive Mode where
  | text
  | escape
  | unicode (high : Option Nat) (value count : Nat)
  | pair (high : Nat)
  | pairEscape (high : Nat)

def escaped? (c : Char) : Option Char :=
  [('"', '"'), ('\\', '\\'), ('/', '/'), ('b', '\x08'), ('f', '\x0c'), ('n', '\n'),
    ('r', '\r'), ('t', '\t')].lookup c

def hexDigit? (c : Char) : Option Nat :=
  if '0' ≤ c && c ≤ '9' then some (c.toNat - '0'.toNat)
  else if 'a' ≤ c && c ≤ 'f' then some (c.toNat - 'a'.toNat + 10)
  else if 'A' ≤ c && c ≤ 'F' then some (c.toNat - 'A'.toNat + 10)
  else none

def isHigh (n : Nat) : Bool := 0xd800 ≤ n && n ≤ 0xdbff

def isLow (n : Nat) : Bool := 0xdc00 ≤ n && n ≤ 0xdfff

/-- What one more character of a string does. -/
inductive Advance where
  | close
  | emit (c : Char)
  | go (mode : Mode)
  | fail

/-- The four digits of a code are read. Half a pair stands for no character, and a text that
has one is refused. -/
def codePoint (high : Option Nat) (n : Nat) : Advance :=
  match high with
  | some h =>
    if isLow n then .emit (Char.ofNat (0x10000 + (h - 0xd800) * 0x400 + (n - 0xdc00))) else .fail
  | none => if isHigh n then .go (.pair n) else if isLow n then .fail else .emit (Char.ofNat n)

def advance (mode : Mode) (c : Char) : Advance :=
  match mode with
  | .text =>
    if c = '"' then .close
    else if c = '\\' then .go .escape
    else if c.toNat < 0x20 then .fail
    else .emit c
  | .escape =>
    if c = 'u' then .go (.unicode none 0 0)
    else
      match escaped? c with
      | some e => .emit e
      | none => .fail
  | .unicode high value count =>
    match hexDigit? c with
    | none => .fail
    | some d =>
      if count = 3 then codePoint high (value * 16 + d)
      else .go (.unicode high (value * 16 + d) (count + 1))
  | .pair high => if c = '\\' then .go (.pairEscape high) else .fail
  | .pairEscape high => if c = 'u' then .go (.unicode (some high) 0 0) else .fail

/-- The rest of a string, from behind its opening quote. -/
def scanString (mode : Mode) : List Char → Scanned (List Char)
  | [] => .error .jsonDecodeError
  | c :: rest =>
    match advance mode c with
    | .close => .ok ([], rest)
    | .fail => .error .jsonDecodeError
    | .go mode' => scanString mode' rest
    | .emit e => (scanString .text rest).map (fun r => (e :: r.1, r.2))

/-! ### Numbers -/

/-- The digits at the front, and what is behind them. -/
def spanDigits (cs : List Char) : List Char × List Char :=
  (cs.takeWhile Char.isDigit, cs.dropWhile Char.isDigit)

/-- The parts of a number; a part that is not there has no digits. -/
structure Literal where
  negative : Bool
  integer : List Char
  fraction : List Char
  exponent : List Char
  negativeExponent : Bool

def scanSign : List Char → Bool × List Char
  | [] => (false, [])
  | c :: rest => if c = '-' then (true, rest) else (false, c :: rest)

/-- A zero stands alone. -/
def scanInteger : List Char → Option (List Char × List Char)
  | [] => none
  | c :: rest =>
    if c = '0' then some (['0'], rest)
    else if c.isDigit then some (spanDigits (c :: rest))
    else none

/-- A point without digits behind it is not part of the number. -/
def scanFraction : List Char → List Char × List Char
  | [] => ([], [])
  | c :: rest =>
    if c = '.' ∧ (spanDigits rest).1 ≠ [] then spanDigits rest else ([], c :: rest)

def scanExponentSign : List Char → Bool × List Char
  | [] => (false, [])
  | c :: rest =>
    if c = '-' then (true, rest) else if c = '+' then (false, rest) else (false, c :: rest)

def scanExponent : List Char → (Bool × List Char) × List Char
  | [] => ((false, []), [])
  | c :: rest =>
    let signed := scanExponentSign rest
    if (c = 'e' ∨ c = 'E') ∧ (spanDigits signed.2).1 ≠ [] then
      ((signed.1, (spanDigits signed.2).1), (spanDigits signed.2).2)
    else ((false, []), c :: rest)

def scanLiteral (cs : List Char) : Option (Literal × List Char) :=
  let sign := scanSign cs
  (scanInteger sign.2).map fun integer =>
    let fraction := scanFraction integer.2
    let exponent := scanExponent fraction.2
    (⟨sign.1, integer.1, fraction.1, exponent.1.2, exponent.1.1⟩, exponent.2)

def natOf (ds : List Char) : Nat := Nat.ofDigitChars 10 ds 0

def roundHalfEven (q : Rat) : Int :=
  let half := q - q.floor
  if half < 1 / 2 then q.floor
  else if 1 / 2 < half then q.floor + 1
  else if q.floor % 2 = 0 then q.floor
  else q.floor + 1

def powTwo (k : Int) : Rat := if 0 ≤ k then (2 ^ k.toNat : Nat) else 1 / (2 ^ (-k).toNat : Nat)

/-- The largest `k` with `2 ^ k ≤ q`, for a positive `q`. -/
def floorLog (q : Rat) : Int :=
  let k := (q.num.toNat.log2 : Int) - q.den.log2
  if powTwo k ≤ q then k else k - 1

/-- The double that is closest to a number of the given sign. -/
def binary64 (negative : Bool) (q : Rat) : PyFloat :=
  if q = 0 then .finite 0
  else
    let ulp := powTwo (max (floorLog q - 52) (-1074))
    let r := roundHalfEven (q / ulp) * ulp
    if powTwo 1024 ≤ r then .infinite negative else .finite (if negative then -r else r)

/-- `float` of a literal. -/
def Literal.float (l : Literal) : PyFloat :=
  let shift := (natOf l.exponent : Int) * (if l.negativeExponent then -1 else 1) - l.fraction.length
  let q : Rat := natOf (l.integer ++ l.fraction)
  binary64 l.negative
    (if 0 ≤ shift then q * (10 ^ shift.toNat : Nat) else q / (10 ^ (-shift).toNat : Nat))

def Literal.value (l : Literal) : Except DecodeError Json :=
  if l.fraction = [] ∧ l.exponent = [] then
    if l.integer.length ≤ maxStrDigits then
      .ok (.int (if l.negative then -(natOf l.integer : Int) else natOf l.integer))
    else .error .valueError
  else .ok (.float l.float)

def scanNumber (cs : List Char) : Scanned Json :=
  match scanLiteral cs with
  | none => .error .jsonDecodeError
  | some (l, rest) => l.value.map (fun v => (v, rest))

/-! ### Values -/

/-- A word whose first character has been read. -/
def word (tail : List Char) (v : Json) (rest : List Char) : Scanned Json :=
  match rest.dropPrefix? tail with
  | none => .error .jsonDecodeError
  | some rest => .ok (v, rest)

def infinity : List Char := ['I', 'n', 'f', 'i', 'n', 'i', 't', 'y']

/-- The words by their first character. -/
def wordOf? (c : Char) : Option (List Char × Json) :=
  [('n', (['u', 'l', 'l'], Json.null)), ('t', (['r', 'u', 'e'], .bool true)),
    ('f', (['a', 'l', 's', 'e'], .bool false)), ('N', (['a', 'N'], .float .nan)),
    ('I', (infinity.tail, .float (.infinite false)))].lookup c

/-- A value that holds no other values. -/
def scanScalar : List Char → Scanned Json
  | [] => .error .jsonDecodeError
  | c :: rest =>
    if c = '"' then (scanString .text rest).map (fun r => (.str (String.ofList r.1), r.2))
    else
      match wordOf? c with
      | some (tail, v) => word tail v rest
      | none =>
        if c = '-' ∧ infinity <+: rest then word infinity (.float (.infinite true)) rest
        else scanNumber (c :: rest)

/-- `d[key] = v`: a key keeps its place. -/
def setItem (key : String) (v : Json) : Dict → Dict
  | [] => [(key, v)]
  | (k, w) :: rest => if k = key then (k, v) :: rest else (k, w) :: setItem key v rest

def ofPairs (pairs : List (String × Json)) : Dict :=
  pairs.foldl (fun d pair => setItem pair.1 pair.2 d) []

/-- A list or an object, from behind its opening bracket. -/
def scanNested {α : Type} (scan : List Char → Scanned α) (closing : Char) (empty : Json)
    (make : α → Json) (cs : List Char) : Scanned Json :=
  match skip cs with
  | [] => .error .jsonDecodeError
  | d :: rest =>
    if d = closing then .ok (empty, rest)
    else (scan (d :: rest)).map (fun r => (make r.1, r.2))

mutual

/-- A value off the front of a text. -/
def scanValue : Nat → List Char → Scanned Json
  | 0, _ => .error .jsonDecodeError
  | _ + 1, [] => .error .jsonDecodeError
  | n + 1, c :: rest =>
    if c = '{' then
      scanNested (scanMembers n) '}' (.dict []) (fun ms => .dict (ofPairs ms)) rest
    else if c = '[' then scanNested (scanItems n) ']' (.list []) .list rest
    else scanScalar (c :: rest)

/-- The items of a list, up to the bracket that closes it. -/
def scanItems : Nat → List Char → Scanned (List Json)
  | 0, _ => .error .jsonDecodeError
  | n + 1, cs =>
    match scanValue n cs with
    | .error e => .error e
    | .ok (v, rest) =>
      match skip rest with
      | [] => .error .jsonDecodeError
      | d :: rest' =>
        if d = ']' then .ok ([v], rest')
        else if d = ',' then (scanItems n (skip rest')).map (fun r => (v :: r.1, r.2))
        else .error .jsonDecodeError

/-- The members of an object, up to the brace that closes it. -/
def scanMembers : Nat → List Char → Scanned (List (String × Json))
  | 0, _ => .error .jsonDecodeError
  | _ + 1, [] => .error .jsonDecodeError
  | n + 1, c :: cs =>
    if c ≠ '"' then .error .jsonDecodeError
    else
      match scanString .text cs with
      | .error e => .error e
      | .ok (key, rest) =>
        match skip rest with
        | [] => .error .jsonDecodeError
        | d :: rest' =>
          if d ≠ ':' then .error .jsonDecodeError
          else
            match scanValue n (skip rest') with
            | .error e => .error e
            | .ok (v, rest) =>
              match skip rest with
              | [] => .error .jsonDecodeError
              | d :: rest' =>
                if d = '}' then .ok ([(String.ofList key, v)], rest')
                else if d = ',' then
                  (scanMembers n (skip rest')).map (fun r => ((String.ofList key, v) :: r.1, r.2))
                else .error .jsonDecodeError

end

/-- `raw_decode`, at the front of a text. -/
def rawDecode (cs : List Char) : Scanned Json := scanValue (cs.length + 1) cs

/-- `json.loads`. -/
def loads (text : String) : Except DecodeError Json :=
  match rawDecode (skip text.toList) with
  | .error e => .error e
  | .ok (v, rest) => if skip rest = [] then .ok v else .error .jsonDecodeError

/-! ### One step of the scanners -/

theorem map_ok_iff {α β : Type} {x : Except DecodeError α} {f : α → β} {b : β} :
    x.map f = .ok b ↔ ∃ a, x = .ok a ∧ f a = b := by
  cases x with
  | error e => simp [Except.map]
  | ok a => simp [Except.map]

/-- An item of a list, with the character behind it. -/
def ReadsItem (n : Nat) (cs : List Char) (v : Json) (d : Char) (rest : List Char) : Prop :=
  ∃ rest1, scanValue n cs = .ok (v, rest1) ∧ skip rest1 = d :: rest

/-- A member of an object, with the character behind it. -/
def ReadsMember (n : Nat) (cs key : List Char) (v : Json) (d : Char) (rest : List Char) : Prop :=
  ∃ cs' rest1 rest2, cs = '"' :: cs' ∧ scanString .text cs' = .ok (key, rest1) ∧
    skip rest1 = ':' :: rest2 ∧ ReadsItem n (skip rest2) v d rest

theorem scanItems_iff {n : Nat} {cs rest : List Char} {vs : List Json} :
    scanItems (n + 1) cs = .ok (vs, rest) ↔ ∃ v d rest1, ReadsItem n cs v d rest1 ∧
      (d = ']' ∧ vs = [v] ∧ rest = rest1 ∨
        d = ',' ∧ ∃ ws, scanItems n (skip rest1) = .ok (ws, rest) ∧ vs = v :: ws) := by
  simp only [scanItems]
  constructor
  · intro h
    cases hvalue : scanValue n cs with
    | error e =>
      rw [hvalue] at h
      cases h
    | ok r =>
      rw [hvalue] at h
      cases hskip : skip r.2 with
      | nil =>
        simp only [hskip] at h
        cases h
      | cons d rest1 =>
        simp only [hskip] at h
        refine ⟨r.1, d, rest1, ⟨r.2, hvalue, hskip⟩, ?_⟩
        split at h
        · rename_i hd
          cases h
          exact .inl ⟨hd, rfl, rfl⟩
        · split at h
          · rename_i hd
            obtain ⟨r', hr', heq⟩ := map_ok_iff.mp h
            obtain ⟨rfl, rfl⟩ := Prod.mk.inj heq
            exact .inr ⟨hd, r'.1, hr', rfl⟩
          · cases h
  · rintro ⟨v, d, rest1, ⟨rest2, hvalue, hskip⟩, hd⟩
    rcases hd with ⟨rfl, rfl, rfl⟩ | ⟨rfl, ws, hws, rfl⟩
    · simp [hvalue, hskip]
    · simp [hvalue, hskip, hws, Except.map]

theorem scanMembers_iff {n : Nat} {cs rest : List Char} {ms : List (String × Json)} :
    scanMembers (n + 1) cs = .ok (ms, rest) ↔ ∃ key v d rest1, ReadsMember n cs key v d rest1 ∧
      (d = '}' ∧ ms = [(String.ofList key, v)] ∧ rest = rest1 ∨
        d = ',' ∧ ∃ ns, scanMembers n (skip rest1) = .ok (ns, rest) ∧
          ms = (String.ofList key, v) :: ns) := by
  constructor
  · intro h
    cases cs with
    | nil => cases h
    | cons c cs =>
      simp only [scanMembers] at h
      split at h
      · cases h
      rename_i hquote
      obtain rfl : c = '"' := not_not.mp hquote
      cases hkey : scanString .text cs with
      | error e =>
        rw [hkey] at h
        cases h
      | ok r =>
        rw [hkey] at h
        cases hskip : skip r.2 with
        | nil =>
          simp only [hskip] at h
          cases h
        | cons d rest2 =>
          simp only [hskip] at h
          split at h
          · cases h
          rename_i hcolon
          obtain rfl : d = ':' := not_not.mp hcolon
          cases hvalue : scanValue n (skip rest2) with
          | error e =>
            rw [hvalue] at h
            cases h
          | ok w =>
            rw [hvalue] at h
            cases hskip3 : skip w.2 with
            | nil =>
              simp only [hskip3] at h
              cases h
            | cons d rest4 =>
              simp only [hskip3] at h
              refine ⟨r.1, w.1, d, rest4,
                ⟨cs, r.2, rest2, rfl, hkey, hskip, w.2, hvalue, hskip3⟩, ?_⟩
              split at h
              · rename_i hd
                cases h
                exact .inl ⟨hd, rfl, rfl⟩
              · split at h
                · rename_i hd
                  obtain ⟨r', hr', heq⟩ := map_ok_iff.mp h
                  obtain ⟨rfl, rfl⟩ := Prod.mk.inj heq
                  exact .inr ⟨hd, r'.1, hr', rfl⟩
                · cases h
  · rintro ⟨key, v, d, rest1, ⟨cs', r1, r2, rfl, hkey, hcolon, r3, hvalue, hskip⟩, hd⟩
    rcases hd with ⟨rfl, rfl, rfl⟩ | ⟨rfl, ns, hns, rfl⟩
    · simp [scanMembers, hkey, hcolon, hvalue, hskip]
    · simp [scanMembers, hkey, hcolon, hvalue, hskip, hns, Except.map]

theorem scanNested_iff {α : Type} {scan : List Char → Scanned α} {closing : Char} {empty : Json}
    {make : α → Json} {cs rest : List Char} {v : Json} :
    scanNested scan closing empty make cs = .ok (v, rest) ↔ ∃ d rest', skip cs = d :: rest' ∧
      (d = closing ∧ v = empty ∧ rest = rest' ∨
        d ≠ closing ∧ ∃ a, scan (d :: rest') = .ok (a, rest) ∧ v = make a) := by
  unfold scanNested
  constructor
  · intro h
    cases hskip : skip cs with
    | nil =>
      rw [hskip] at h
      cases h
    | cons d rest' =>
      simp only [hskip] at h
      refine ⟨d, rest', rfl, ?_⟩
      split at h
      · rename_i hd
        cases h
        exact .inl ⟨hd, rfl, rfl⟩
      · rename_i hd
        obtain ⟨r, hr, heq⟩ := map_ok_iff.mp h
        obtain ⟨rfl, rfl⟩ := Prod.mk.inj heq
        exact .inr ⟨hd, r.1, hr, rfl⟩
  · rintro ⟨d, rest', hskip, ⟨hd, rfl, rfl⟩ | ⟨hd, a, ha, rfl⟩⟩
    · simp [hskip, hd]
    · simp [hskip, hd, ha, Except.map]

theorem scanValue_object (n : Nat) (cs : List Char) : scanValue (n + 1) ('{' :: cs) =
    scanNested (scanMembers n) '}' (.dict []) (fun ms => .dict (ofPairs ms)) cs := by
  simp [scanValue]

theorem scanValue_list (n : Nat) (cs : List Char) : scanValue (n + 1) ('[' :: cs) =
    scanNested (scanItems n) ']' (.list []) .list cs := by
  simp [scanValue]

theorem scanValue_scalar (n : Nat) {c : Char} (cs : List Char) (hbrace : c ≠ '{')
    (hbracket : c ≠ '[') : scanValue (n + 1) (c :: cs) = scanScalar (c :: cs) := by
  simp [scanValue, hbrace, hbracket]

end PyDecoder
