import NexyGateway.PyJson

/-!
# Python's `repr`

The text that an f-string puts in for a value. How a float is written and which characters
beyond ASCII can be printed is left open.
-/
namespace PyRepr

open PyJson

structure Rendering where
  float : PyFloat → String
  printable : Char → Bool

/-- Nothing beyond ASCII is printed as it is. -/
def asciiOnly : Rendering := ⟨fun _ => "", fun _ => false⟩

def singleQuote : Char := Char.ofNat 0x27

/-- A string with a single quote in it and no double one is put between double quotes. -/
def quoteOf (s : List Char) : Char :=
  if singleQuote ∈ s ∧ '"' ∉ s then '"' else singleQuote

def hex (width n : Nat) : List Char :=
  let digits := Nat.toDigits 16 n
  List.replicate (width - digits.length) '0' ++ digits

def codeEscape (n : Nat) : List Char :=
  if n ≤ 0xff then '\\' :: 'x' :: hex 2 n
  else if n ≤ 0xffff then '\\' :: 'u' :: hex 4 n
  else '\\' :: 'U' :: hex 8 n

def reprChar (r : Rendering) (quote c : Char) : List Char :=
  if c = quote ∨ c = '\\' then ['\\', c]
  else if c = '\t' then ['\\', 't']
  else if c = '\n' then ['\\', 'n']
  else if c = '\r' then ['\\', 'r']
  else if c.toNat < 0x20 ∨ c.toNat = 0x7f then codeEscape c.toNat
  else if c.toNat < 0x7f ∨ r.printable c then [c]
  else codeEscape c.toNat

def reprString (r : Rendering) (s : String) : String :=
  let quote := quoteOf s.toList
  String.ofList (quote :: s.toList.flatMap (reprChar r quote) ++ [quote])

mutual

/-- `repr(v)`. -/
def repr (r : Rendering) : Json → String
  | .null => "None"
  | .bool b => if b then "True" else "False"
  | .int n => toString n
  | .float x => r.float x
  | .str s => reprString r s
  | .list items => "[" ++ ", ".intercalate (reprItems r items) ++ "]"
  | .dict members => "\x7b" ++ ", ".intercalate (reprMembers r members) ++ "\x7d"

def reprItems (r : Rendering) : List Json → List String
  | [] => []
  | v :: vs => repr r v :: reprItems r vs

def reprMembers (r : Rendering) : List (String × Json) → List String
  | [] => []
  | (key, v) :: ms => (reprString r key ++ ": " ++ repr r v) :: reprMembers r ms

end

/-- `str(v)`, as in an f-string. -/
def format (r : Rendering) : Json → String
  | .str s => s
  | v => repr r v

end PyRepr
