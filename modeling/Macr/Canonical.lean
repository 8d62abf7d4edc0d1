import Mathlib.Data.Rat.Defs

/-!
# Canonical values: digests, identifiers, timestamps and hashed documents

The runtime compares digests, UUIDs and timestamps only for equality and order. A digest and a
UUID are fixed-width lowercase hexadecimal text, whose text order is the order of the number it
writes; a stored timestamp is a UTC instant, whose text order is the order of instants. All
three are natural numbers here. SHA-256 is a parameter: a result that needs it to be injective
says so.
-/

namespace Macr

/-- A lowercase SHA-256 digest, as the number its 64 digits write. -/
abbrev Digest := Nat

/-- A canonical UUID, as the number its digits write. -/
abbrev Uuid := Nat

/-- A timezone-aware instant in microseconds. -/
abbrev Timestamp := Nat

/-- A number written in lowercase hexadecimal, to a width. -/
def hexText (width value : Nat) : String :=
  let digits := Nat.toDigits 16 value
  String.ofList (List.replicate (width - digits.length) '0' ++ digits)

/-- The text of a UUID. -/
def uuidText (value : Uuid) : String :=
  let digits := (hexText 32 value).toList
  "-".intercalate [String.ofList (digits.take 8), String.ofList ((digits.drop 8).take 4),
    String.ofList ((digits.drop 12).take 4), String.ofList ((digits.drop 16).take 4),
    String.ofList (digits.drop 20)]

/-- `_ZERO_DIGEST`. -/
def zeroDigest : Digest := 0

/-- `timedelta(seconds=...)` added to an instant. -/
def Timestamp.addSeconds (now : Timestamp) (seconds : Nat) : Timestamp := now + seconds * 1000000

/-- The JSON values the runtime hashes, with the texts it writes as hexadecimal or as a
timestamp kept apart from other texts. -/
inductive Json where
  | null
  | bool (value : Bool)
  | int (value : Int)
  | num (value : ℚ)
  | str (value : String)
  | hex (value : Nat)
  | time (value : Timestamp)
  | arr (items : List Json)
  | obj (fields : List (String × Json))

/-- A missing hexadecimal value is null. -/
def Json.optHex : Option Nat → Json
  | none => .null
  | some value => .hex value

/-- A missing text is null. -/
def Json.optStr : Option String → Json
  | none => .null
  | some value => .str value

/-- A missing number is null. -/
def Json.optNat : Option Nat → Json
  | none => .null
  | some value => .int value

/-- A missing amount is null. -/
def Json.optNum : Option ℚ → Json
  | none => .null
  | some value => .num value

/-- A missing truth value is null. -/
def Json.optBool : Option Bool → Json
  | none => .null
  | some value => .bool value

/-- A missing timestamp is null. -/
def Json.optTime : Option Timestamp → Json
  | none => .null
  | some value => .time value

/-- A list of digests. -/
def Json.hexes (digests : List Digest) : Json := .arr (digests.map .hex)

/-- A list of texts. -/
def Json.strs (texts : List String) : Json := .arr (texts.map .str)

mutual

/-- Equality of documents is decidable. -/
def Json.decEq : (left right : Json) → Decidable (left = right)
  | .null, right => match right with
    | .null => isTrue rfl
    | .bool _ | .int _ | .num _ | .str _ | .hex _ | .time _ | .arr _ | .obj _ => isFalse nofun
  | .bool value, right => match right with
    | .bool other => decidable_of_iff (value = other) (by simp)
    | .null | .int _ | .num _ | .str _ | .hex _ | .time _ | .arr _ | .obj _ => isFalse nofun
  | .int value, right => match right with
    | .int other => decidable_of_iff (value = other) (by simp)
    | .null | .bool _ | .num _ | .str _ | .hex _ | .time _ | .arr _ | .obj _ => isFalse nofun
  | .num value, right => match right with
    | .num other => decidable_of_iff (value = other) (by simp)
    | .null | .bool _ | .int _ | .str _ | .hex _ | .time _ | .arr _ | .obj _ => isFalse nofun
  | .str value, right => match right with
    | .str other => decidable_of_iff (value = other) (by simp)
    | .null | .bool _ | .int _ | .num _ | .hex _ | .time _ | .arr _ | .obj _ => isFalse nofun
  | .hex value, right => match right with
    | .hex other => decidable_of_iff (value = other) (by simp)
    | .null | .bool _ | .int _ | .num _ | .str _ | .time _ | .arr _ | .obj _ => isFalse nofun
  | .time value, right => match right with
    | .time other => decidable_of_iff (value = other) (by simp)
    | .null | .bool _ | .int _ | .num _ | .str _ | .hex _ | .arr _ | .obj _ => isFalse nofun
  | .arr items, right => match right with
    | .arr others => @decidable_of_iff _ (items = others) (by simp) (Json.decEqItems items others)
    | .null | .bool _ | .int _ | .num _ | .str _ | .hex _ | .time _ | .obj _ => isFalse nofun
  | .obj fields, right => match right with
    | .obj others =>
      @decidable_of_iff _ (fields = others) (by simp) (Json.decEqFields fields others)
    | .null | .bool _ | .int _ | .num _ | .str _ | .hex _ | .time _ | .arr _ => isFalse nofun

/-- Equality of arrays is decidable. -/
def Json.decEqItems : (left right : List Json) → Decidable (left = right)
  | [], [] => isTrue rfl
  | [], _ :: _ | _ :: _, [] => isFalse nofun
  | item :: rest, other :: others =>
    @decidable_of_iff _ (item = other ∧ rest = others) (by simp)
      (@instDecidableAnd _ _ (Json.decEq item other) (Json.decEqItems rest others))

/-- Equality of objects is decidable. -/
def Json.decEqFields : (left right : List (String × Json)) → Decidable (left = right)
  | [], [] => isTrue rfl
  | [], _ :: _ | _ :: _, [] => isFalse nofun
  | (name, value) :: rest, (otherName, other) :: others =>
    @decidable_of_iff _ (name = otherName ∧ value = other ∧ rest = others)
      (by simp [and_assoc])
      (@instDecidableAnd _ _ (inferInstanceAs (Decidable (name = otherName)))
        (@instDecidableAnd _ _ (Json.decEq value other) (Json.decEqFields rest others)))

end

instance : DecidableEq Json := Json.decEq

/-- The two ways the runtime hashes a canonical JSON document. -/
structure Sha256 where
  /-- `canonical.sha256_id`: a namespace, a zero byte and the canonical bytes. -/
  sha256Id : String → Json → Digest
  /-- `hashlib.sha256` of the canonical text alone. -/
  sha256 : Json → Digest

mutual

/-- The values of a document folded into one number. -/
def Json.fold : Json → Nat
  | .null => 1
  | .bool value => if value then 2 else 3
  | .int value => 5 * value.toNat + 4
  | .num value => 7 * value.num.toNat + 5
  | .str value => 6 + 17 * value.toList.foldl (fun folded c => 256 * folded + c.toNat) 1
  | .hex value => 11 * value + 7
  | .time value => 13 * value + 8
  | .arr items => Json.foldItems items
  | .obj fields => Json.foldFields fields

/-- The items of an array, folded. -/
def Json.foldItems : List Json → Nat
  | [] => 9
  | item :: rest => item.fold + 1000003 * Json.foldItems rest

/-- The values of an object, folded. -/
def Json.foldFields : List (String × Json) → Nat
  | [] => 10
  | (_, value) :: rest => value.fold + 1000003 * Json.foldFields rest

end

/-- A stand-in for SHA-256 that can be evaluated on the documents of a short run. -/
def foldDigest : Sha256 where
  sha256Id := fun _ document => document.fold
  sha256 := Json.fold

end Macr
