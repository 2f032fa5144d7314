import NexyGateway.ObjectText

/-!
# JSON documents in bytes

`json.loads` of bytes: the encoding is told from a mark, or from the zeros among the first four
bytes. Half a surrogate pair stands for no character, and a text that has one is refused.
-/
namespace PyDecoder

open PyJson

inductive Encoding where
  | utf8
  | utf16 (big : Bool)
  | utf32 (big : Bool)
  deriving DecidableEq

/-- What the zeros among the first bytes tell. -/
def encodingOfZeros : List UInt8 → Encoding
  | a :: b :: c :: d :: _ =>
    if a = 0 then (if b = 0 then .utf32 true else .utf16 true)
    else if b = 0 then (if c = 0 ∧ d = 0 then .utf32 false else .utf16 false)
    else .utf8
  | [a, b] => if a = 0 then .utf16 true else if b = 0 then .utf16 false else .utf8
  | _ => .utf8

/-- The marks, the longer ones first. -/
def byteOrderMarks : List (List UInt8 × Encoding) :=
  [([0x00, 0x00, 0xfe, 0xff], .utf32 true), ([0xff, 0xfe, 0x00, 0x00], .utf32 false),
   ([0xfe, 0xff], .utf16 true), ([0xff, 0xfe], .utf16 false), ([0xef, 0xbb, 0xbf], .utf8)]

/-- `detect_encoding`, with the bytes behind the mark. -/
def detectEncoding (bytes : List UInt8) : Encoding × List UInt8 :=
  match byteOrderMarks.find? (fun mark => mark.1.isPrefixOf bytes) with
  | some mark => (mark.2, bytes.drop mark.1.length)
  | none => (encodingOfZeros bytes, bytes)

/-- The number that some bytes spell. -/
def codeUnit (big : Bool) (bytes : List UInt8) : Nat :=
  (if big then bytes else bytes.reverse).foldl (fun n b => n * 256 + b.toNat) 0

def units16 (big : Bool) : List UInt8 → Option (List Nat)
  | [] => some []
  | a :: b :: rest => (units16 big rest).map (fun units => codeUnit big [a, b] :: units)
  | [_] => none

def units32 (big : Bool) : List UInt8 → Option (List Nat)
  | [] => some []
  | a :: b :: c :: d :: rest =>
    (units32 big rest).map (fun units => codeUnit big [a, b, c, d] :: units)
  | _ => none

def scalar? (n : Nat) : Option Char := if n.isValidChar then some (Char.ofNat n) else none

/-- The characters of these units, with the first half of a pair that is still open. -/
def chars16 (high : Option Nat) : List Nat → Option (List Char)
  | [] => if high.isSome then none else some []
  | n :: rest =>
    match codePoint high n with
    | .emit c => (chars16 none rest).map (fun cs => c :: cs)
    | .go _ => chars16 (some n) rest
    | _ => none

def decodeBytes (bytes : List UInt8) : Option String :=
  match detectEncoding bytes with
  | (.utf8, rest) => String.fromUTF8? ⟨rest.toArray⟩
  | (.utf16 big, rest) => ((units16 big rest).bind (chars16 none)).map String.ofList
  | (.utf32 big, rest) =>
    ((units32 big rest).bind (fun units => units.mapM scalar?)).map String.ofList

/-- `json.loads(value)`; a document that is refused is `none`. -/
def loadsBytes (value : ByteArray) : Option Json :=
  (decodeBytes value.data.toList).bind (fun text => (loads text).toOption)

/-- Bytes that begin like an object with a member are UTF-8. -/
theorem detectEncoding_object (rest : List UInt8) :
    detectEncoding (0x7b :: 0x22 :: rest) = (.utf8, 0x7b :: 0x22 :: rest) := by
  have hzeros : encodingOfZeros (0x7b :: 0x22 :: rest) = .utf8 := by
    rcases rest with _ | ⟨c, _ | ⟨d, rest⟩⟩ <;> simp [encodingOfZeros]
  simp [detectEncoding, byteOrderMarks, hzeros]

theorem decodeBytes_object (cs : List Char) :
    decodeBytes (String.ofList ('{' :: '"' :: cs)).toUTF8.data.toList =
      some (String.ofList ('{' :: '"' :: cs)) := by
  have hbytes : (String.ofList ('{' :: '"' :: cs)).toUTF8.data.toList =
      0x7b :: 0x22 :: cs.flatMap String.utf8EncodeChar := by
    rw [String.toUTF8_eq_toByteArray, String.toByteArray_ofList]
    simp only [List.utf8Encode, List.data_toByteArray, List.flatMap_cons]
    rfl
  have hdetect := detectEncoding_object (cs.flatMap String.utf8EncodeChar)
  rw [← hbytes] at hdetect
  simp only [decodeBytes, hdetect, Array.toArray_toList]
  exact dif_pos (String.isValidUTF8 _)

/-- An object with a member is read from its UTF-8 text. -/
theorem loadsBytes_of_reads {text : String} {v : Json}
    (hobject : ∃ cs, text.toList = '{' :: '"' :: cs) (h : Reads text.toList v) :
    loadsBytes text.toUTF8 = some v := by
  obtain ⟨cs, hcs⟩ := hobject
  have hdecode := decodeBytes_object cs
  rw [← hcs, String.ofList_toList] at hdecode
  rw [loadsBytes, hdecode, Option.bind_some, loads_iff.mpr h]
  rfl

example : decodeBytes [0xff, 0xfe, 0x3d, 0xd8, 0x00, 0xde] = some "😀" := by decide +kernel

end PyDecoder
