import NexyGateway.PyNumber

/-!
# Values of Python's JSON decoder

What `json.loads` makes of a document, with the operations that meet such values
unchecked: `int`, `==`, indexing, `len`, truth, and the bit operators. An operation
that a type does not have raises, in the class that Python raises there.
-/
namespace PyJson

open PyNumber

/-- A finite float is the rational number it stands for. -/
inductive PyFloat where
  | finite (q : Rat)
  | infinite (negative : Bool)
  | nan
  deriving DecidableEq

inductive Json where
  | null
  | bool (b : Bool)
  | int (n : Int)
  | float (x : PyFloat)
  | str (s : String)
  | list (items : List Json)
  | dict (members : List (String × Json))

/-- The decoder keeps one value for each key. -/
abbrev Dict := List (String × Json)

/-- `key in members`. -/
def Dict.has (members : Dict) (key : String) : Bool := (members.lookup key).isSome

/-- The number that a value is compared as. -/
def Json.number : Json → Option PyFloat
  | .bool b => some (.finite (if b then 1 else 0))
  | .int n => some (.finite n)
  | .float x => some x
  | _ => none

mutual

/-- Python's `==`. There is one `NaN` object, and members are compared by identity first. -/
def Json.eq : Json → Json → Bool
  | .null, .null => true
  | .str s, .str t => s = t
  | .list xs, .list ys => eqList xs ys
  | .dict xs, .dict ys => xs.length = ys.length && eqDict xs ys
  | v, w =>
    match v.number, w.number with
    | some x, some y => x = y
    | _, _ => false

def Json.eqList : List Json → List Json → Bool
  | [], [] => true
  | x :: xs, y :: ys => x.eq y && eqList xs ys
  | _, _ => false

def Json.eqDict : List (String × Json) → List (String × Json) → Bool
  | [], _ => true
  | (k, v) :: rest, ys =>
    (match ys.lookup k with
      | some w => v.eq w
      | none => false) && eqDict rest ys

end

/-- Python's `int(v)`. -/
def Json.toInt : Json → Except PyError Int
  | .bool b => .ok b.toInt
  | .int n => .ok n
  | .float (.finite q) => .ok (q.num.tdiv q.den)
  | .float (.infinite _) => .error .overflowError
  | .float .nan => .error .valueError
  | .str s =>
    match PyNumber.int s with
    | some n => .ok n
    | none => .error .valueError
  | _ => .error .typeError

/-- An operand of `|`, `>>`, `&` and `chr`, which take no text and no float. -/
def Json.integer : Json → Except PyError Int
  | .bool b => .ok b.toInt
  | .int n => .ok n
  | _ => .error .typeError

/-- `v[i]`. The keys of a decoded object are strings. -/
def Json.item (v : Json) (i : Nat) : Except PyError Json :=
  match v with
  | .list items =>
    match items[i]? with
    | some x => .ok x
    | none => .error .indexError
  | .str s =>
    match s.toList[i]? with
    | some c => .ok (.str (String.singleton c))
    | none => .error .indexError
  | .dict _ => .error .keyError
  | _ => .error .typeError

/-- Python's `bool(v)`. -/
def Json.truthy : Json → Bool
  | .null => false
  | .bool b => b
  | .int n => n ≠ 0
  | .float x => x ≠ .finite 0
  | .str s => s ≠ ""
  | .list items => !items.isEmpty
  | .dict members => !members.isEmpty

def Json.isList : Json → Bool
  | .list _ => true
  | _ => false

def Json.isStr : Json → Bool
  | .str _ => true
  | _ => false

/-- `str(v)`. The text of a float, a list or an object is no word and no decimal number, and is
never looked for. -/
def Json.text : Json → Option String
  | .str s => some s
  | .int n => some (toString n)
  | .bool b => some (if b then "True" else "False")
  | .null => some "None"
  | _ => none

/-- `str(v) == text`, for a text that reads as a decimal number or as a word. -/
def Json.spells (v : Json) (text : String) : Bool := v.text = some text

/-- The comparison `low <= v <= high`; what is not a number raises. -/
def Json.between (low high : Int) (v : Json) : Except PyError Bool :=
  match v.number with
  | none => .error .typeError
  | some (.finite q) => .ok (low ≤ q && q ≤ high)
  | some _ => .ok false

@[simp] theorem eq_str (v : Json) (s : String) : v.eq (.str s) = true ↔ v = .str s := by
  cases v <;> simp [Json.eq, Json.number]

theorem mapM_cons_ok {α β ε : Type} {f : α → Except ε β} {a : α} {l : List α} {l' : List β}
    (h : (a :: l).mapM f = .ok l') : ∃ b rest, f a = .ok b ∧ l.mapM f = .ok rest ∧
      l' = b :: rest := by
  rw [List.mapM_cons] at h
  cases hone : f a with
  | error e => simp [hone, bind, Except.bind] at h
  | ok b =>
    cases hrest : l.mapM f with
    | error e => simp [hone, hrest, bind, Except.bind] at h
    | ok rest =>
      simp only [hone, hrest, bind, Except.bind, pure, Except.pure, Except.ok.injEq] at h
      exact ⟨b, rest, rfl, rfl, h.symm⟩

theorem mapM_length {α β ε : Type} {f : α → Except ε β} {l : List α} {l' : List β}
    (h : l.mapM f = .ok l') : l'.length = l.length := by
  induction l generalizing l' with
  | nil => cases h; rfl
  | cons a l ih =>
    obtain ⟨b, rest, -, hrest, rfl⟩ := mapM_cons_ok h
    rw [List.length_cons, List.length_cons, ih hrest]

end PyJson
