import Mathlib.Data.List.Basic

/-!
# Text of `json.dumps`

What Python's encoder writes with its default `ensure_ascii`: escaped strings,
and arrays and objects put together from the texts of their members.
-/
namespace JsonText

structure Separators where
  item : String
  key : String

/-- The argument `separators=(",", ":")`. -/
def compact : Separators := ⟨",", ":"⟩

def hex4 (n : Nat) : String :=
  let ds := Nat.toDigits 16 n
  String.ofList (List.replicate (4 - ds.length) '0' ++ ds)

/-- Characters outside the basic plane become a surrogate pair. -/
def unicodeEscape (n : Nat) : String :=
  if n < 0x10000 then "\\u" ++ hex4 n
  else
    let m := n - 0x10000
    "\\u" ++ hex4 (0xd800 + m / 0x400) ++ "\\u" ++ hex4 (0xdc00 + m % 0x400)

def escape (c : Char) : String :=
  if c = '"' then "\\\""
  else if c = '\\' then "\\\\"
  else if c = '\n' then "\\n"
  else if c = '\r' then "\\r"
  else if c = '\t' then "\\t"
  else if c.toNat = 0x0c then "\\f"
  else if c.toNat = 0x08 then "\\b"
  else if ' ' ≤ c && c ≤ '~' then String.singleton c
  else unicodeEscape c.toNat

def string (s : String) : String := "\"" ++ String.join (s.toList.map escape) ++ "\""

def integer (n : Int) : String := toString n

def array (sep : Separators) (items : List String) : String :=
  "[" ++ sep.item.intercalate items ++ "]"

def object (sep : Separators) (members : List (String × String)) : String :=
  "\x7b" ++ sep.item.intercalate (members.map (fun m => string m.1 ++ sep.key ++ m.2)) ++ "\x7d"

/-- `None` is written as `null`. -/
def optional {α : Type} (text : α → String) : Option α → String
  | none => "null"
  | some a => text a

end JsonText
