import Macr.Lib.JsonText
import Mathlib.Data.Rat.Defs
import Mathlib.Algebra.Order.Field.Rat
import Mathlib.Data.Nat.Digits.Defs

/-!
# The values of a JSON document

What a program makes of a document it has read: the code points of bytes in UTF-8, the number a
numeral writes, whether a binary float of double precision can hold it, and the field of an object.
-/

namespace Macr.Lib.JsonText

/-- A continuation byte of UTF-8. -/
def isContinuation (byte : UInt8) : Bool := 0x80 ≤ byte && byte < 0xC0

/-- The bits of a continuation byte. -/
def continuationBits (byte : UInt8) : Nat := byte.toNat % 64

/-- `bytes.decode("utf-8")`, strictly: no surrogates, no longer form than needed. -/
def decodeUtf8 : List UInt8 → Option Text
  | [] => some []
  | first :: rest =>
    if first < 0x80 then (decodeUtf8 rest).map (first.toNat :: ·)
    else
      match rest with
      | [] => none
      | second :: rest =>
        if !isContinuation second then none
        else
          let two := (first.toNat % 32) * 64 + continuationBits second
          if 0xC2 ≤ first && first < 0xE0 then (decodeUtf8 rest).map (two :: ·)
          else
            match rest with
            | [] => none
            | third :: rest =>
              if !isContinuation third then none
              else
                let three := (first.toNat % 16) * 4096 + continuationBits second * 64 +
                  continuationBits third
                if 0xE0 ≤ first && first < 0xF0 then
                  if three < 0x800 || (0xD800 ≤ three && three < 0xE000) then none
                  else (decodeUtf8 rest).map (three :: ·)
                else
                  match rest with
                  | [] => none
                  | fourth :: rest =>
                    let four := (first.toNat % 8) * 262144 + continuationBits second * 4096 +
                      continuationBits third * 64 + continuationBits fourth
                    if !isContinuation fourth || !(0xF0 ≤ first && first < 0xF5) ||
                        four < 0x10000 || 0x110000 ≤ four then none
                    else (decodeUtf8 rest).map (four :: ·)

/-- A scalar value of Unicode, which UTF-8 encodes. -/
def isScalar (c : Nat) : Bool := c < 0xD800 || (0xDFFF < c && c ≤ 0x10FFFF)

/-- The bytes of a code point in UTF-8. -/
def utf8Bytes (c : Nat) : List UInt8 :=
  if c < 0x80 then [UInt8.ofNat c]
  else if c < 0x800 then [UInt8.ofNat (0xC0 + c / 64), UInt8.ofNat (0x80 + c % 64)]
  else if c < 0x10000 then
    [UInt8.ofNat (0xE0 + c / 4096), UInt8.ofNat (0x80 + c / 64 % 64), UInt8.ofNat (0x80 + c % 64)]
  else
    [UInt8.ofNat (0xF0 + c / 262144), UInt8.ofNat (0x80 + c / 4096 % 64),
      UInt8.ofNat (0x80 + c / 64 % 64), UInt8.ofNat (0x80 + c % 64)]

/-- `str.encode("utf-8")`: a surrogate is not encoded. -/
def encodeText (text : Text) : Option (List UInt8) :=
  if text.all isScalar then some (text.flatMap utf8Bytes) else none

/-- A text that is read writes no other document. -/
theorem document_of_loads {digits depth : Nat} {text : Text} {document other : Document}
    (read : loads digits depth text = .ok document) (written : WritesAny other text) :
    other = document := by
  rcases loads_of_writesAny digits depth written with same | overruns
  · exact Except.ok.inj (same.symm.trans read)
  · obtain ⟨error, -, met⟩ := loads_bounds.mpr overruns
    rw [read] at met
    cases met

/-- A text of ASCII as bytes. -/
def asciiBytes (text : String) : List UInt8 := text.toList.map (fun c => UInt8.ofNat c.toNat)

/-- The code points of a name of the source. -/
def name (text : String) : Text := codes text.toList

/-- A text as a string; a surrogate is no character, and NUL stands for it. -/
def toChars (text : Text) : String := String.ofList (text.map Char.ofNat)

/-- The number that digits write. -/
def digitsValue (digits : Text) : Nat := Nat.ofDigits 10 (digits.reverse.map (· - code '0'))

/-- The exponent that is written. -/
def Exponent.value (exponent : Exponent) : Int :=
  if exponent.sign = some (code '-') then -(digitsValue exponent.digits : Int)
  else digitsValue exponent.digits

/-- The integer a numeral without fraction and exponent writes. -/
def Numeral.integer (numeral : Numeral) : Int :=
  if numeral.negative then -(digitsValue numeral.digits : Int) else digitsValue numeral.digits

/-- The number a numeral writes without its sign. -/
def Numeral.magnitude (numeral : Numeral) : ℚ :=
  let fraction := numeral.fraction.getD []
  ((digitsValue numeral.digits : ℚ) + digitsValue fraction / 10 ^ fraction.length) *
    10 ^ (numeral.exponent.map Exponent.value).getD 0

/-- The number a numeral writes. -/
def Numeral.exact (numeral : Numeral) : ℚ :=
  if numeral.negative then -numeral.magnitude else numeral.magnitude

/-- Where the floats of double precision end: what is not below is rounded to infinity. -/
def floatBound : ℚ := 2 ^ 1024 - 2 ^ 970

/-- A number that a float can hold. -/
def isFloat (number : ℚ) : Bool := -floatBound < number && number < floatBound

/-- The value of a key. -/
def field (members : List (Text × Document)) (key : String) : Option Document :=
  members.lookup (name key)

/-! ## Objects with repeated keys -/

/-- The members of an object that is read by `dict`: a key stands where it came first, with the
value it had last. -/
def lastOf (members : List (Text × Document)) : List (Text × Document) :=
  (members.map (·.1)).eraseDups.map
    (fun key => (key, (members.reverse.lookup key).getD .null))

/-- An object of members whose keys may be repeated. -/
def lastObject (members : List (Text × Document)) : Except ReadError Document :=
  .ok (.object (lastOf members))

/-- A value in which at most so many brackets are open, where keys may be repeated. -/
def valueLast (digits : Nat) : Nat → Reader Document
  | 0, text =>
    if text.head? = some (code '[') ∨ text.head? = some (code '{') then .error .tooDeep
    else scalar digits text
  | depth + 1, text =>
    if text.head? = some (code '[') then
      wrapped arrayOf (bracketed (valueLast digits depth) (code ']')) text.tail
    else if text.head? = some (code '{') then
      wrapped lastObject (bracketed (member (valueLast digits depth)) (code '}')) text.tail
    else scalar digits text

/-- `json.loads` of a text, without a hook. -/
def loadsLast (digits depth : Nat) (text : Text) : Except ReadError Document :=
  if text.head? = some byteOrderMark then .error .malformed
  else
    match valueLast digits depth (skip text) with
    | .error error => .error error
    | .ok (document, rest) => if skip rest = [] then .ok document else .error .malformed

end Macr.Lib.JsonText
