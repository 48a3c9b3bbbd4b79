import TreeScan.Decimal.Layout
import TreeScan.Json.Draft
import TreeScan.Text.Quoted
import TreeScan.Text.Split

/-!
# Decoding JSON

A decoder turns a draft into a value of some type, or says what is wrong.  It
looks at the draft in the order of the text and stops at the first error.

A record is an object with the record's fields as members, in any order.
Unknown members are skipped.  A record may also be an array of its fields in
their order.  A choice between variants is an object with the variant's name as
its only key, or just the name for a variant without content.

Arrays and objects that are decoded may nest up to a bound.  The bound left is
the first argument of the decoders that enter one.
-/

namespace TreeScan.Json

/-! ## Errors -/

/-- What was found where something else was expected. -/
inductive Found where
  | null
  | bool (value : Bool)
  | integer (value : Int)
  | real (value : Float)
  | text (value : String)
  | unitVariant
  | sequence
  | map

/-- What was found, in words. -/
def Found.message : Found → String
  | .null => "null"
  | .bool value => "boolean `" ++ (if value then "true" else "false") ++ "`"
  | .integer value => "integer `" ++ toString value ++ "`"
  | .real value => "floating point `" ++ Decimal.data.float value ++ "`"
  | .text value => "string " ++ Text.quoteString value
  | .unitVariant => "unit variant"
  | .sequence => "sequence"
  | .map => "map"

/-- Why a draft does not decode. -/
inductive DecodeError where
  | flaw (flaw : Flaw)
  | invalidType (found : Found) (expected : String)
  | invalidValue (found : Found) (expected : String)
  | invalidLength (length : Nat) (expected : String)
  | unknownVariant (name : String) (variants : List String)
  | missingField (name : String)
  | duplicateField (name : String)

/-- A choice in words. -/
def oneOf (names : List String) : String :=
  let quoted := names.map fun name => "`" ++ name ++ "`"
  match quoted with
  | [] => "there are no variants"
  | [a] => "expected " ++ a
  | [a, b] => "expected " ++ a ++ " or " ++ b
  | _ => "expected one of " ++ Text.joinStrings ", " quoted

/-- An error in words. -/
def DecodeError.message : DecodeError → String
  | .flaw .malformed => "malformed JSON"
  | .flaw .cutShort => "unexpected end of JSON"
  | .invalidType found expected => "invalid type: " ++ found.message ++ ", expected " ++ expected
  | .invalidValue found expected => "invalid value: " ++ found.message ++ ", expected " ++ expected
  | .invalidLength length expected =>
    "invalid length " ++ toString length ++ ", expected " ++ expected
  | .unknownVariant name variants => "unknown variant `" ++ name ++ "`, " ++ oneOf variants
  | .missingField name => "missing field `" ++ name ++ "`"
  | .duplicateField name => "duplicate field `" ++ name ++ "`"

/-- A decoder of values of a type. -/
abbrev Decoder (α : Type) := Draft → Except DecodeError α

/-- What is found in a draft that should have been something else. -/
def Draft.found : Draft → Except DecodeError Found
  | .null => .ok .null
  | .bool value => .ok (.bool value)
  | .number n =>
    match n.value? with
    | none => .error (.flaw .malformed)
    | some (.natural value) => .ok (.integer value)
    | some (.negative value) => .ok (.integer value)
    | some (.real value) => .ok (.real value)
  | .text value => .ok (.text value)
  | .unpaired => .error (.flaw .malformed)
  | .array _ _ => .ok .sequence
  | .object _ _ => .ok .map
  | .torn whenRead _ => .error (.flaw whenRead)
  | .flawed whenRead _ => .error (.flaw whenRead)

/-- The text of a key. -/
def Draft.key : Draft → Except DecodeError String
  | .text value => .ok value
  | .torn whenRead _ => .error (.flaw whenRead)
  | .flawed whenRead _ => .error (.flaw whenRead)
  | _ => .error (.flaw .malformed)

/-- The error of a draft that is not what was expected. -/
def mismatch {α : Type} (expected : String) : Decoder α := fun d =>
  match d.found with
  | .ok found => .error (.invalidType found expected)
  | .error e => .error e

namespace Decode

/-! ## Simple values -/

/-- A truth value. -/
def bool : Decoder Bool
  | .bool value => .ok value
  | d => mismatch "a boolean" d

/-- A text, under the name that an error gives it. -/
def textAs (expected : String) : Decoder String
  | .text value => .ok value
  | d => mismatch expected d

/-- A text. -/
def string : Decoder String := textAs "a string"

/-- An unsigned word. -/
def natural : Decoder Nat
  | .number n =>
    match n.value? with
    | some (.natural value) => .ok value
    | some (.negative value) => .error (.invalidValue (.integer value) "usize")
    | _ => mismatch "usize" (.number n)
  | d => mismatch "usize" d

/-- A signed word. -/
def integer : Decoder Int
  | .number n =>
    match n.value? with
    | some (.natural value) =>
      if value < Nat.pow 2 63 then .ok value else .error (.invalidValue (.integer value) "i64")
    | some (.negative value) => .ok value
    | _ => mismatch "i64" (.number n)
  | d => mismatch "i64" d

/-- The floating-point number nearest to an integer. -/
def floatOfInt (i : Int) : Float :=
  if i < 0 then -(UInt64.ofNat i.natAbs).toFloat else (UInt64.ofNat i.natAbs).toFloat

/-- A floating-point number.  An integer will do. -/
def float : Decoder Float
  | .number n =>
    match n.value? with
    | some (.natural value) => .ok (floatOfInt value)
    | some (.negative value) => .ok (floatOfInt value)
    | some (.real value) => .ok value
    | none => .error (.flaw .malformed)
  | d => mismatch "f64" d

/-- A text of one character. -/
def char : Decoder Char
  | .text value =>
    match value.toList with
    | [c] => .ok c
    | _ => .error (.invalidValue (.text value) "a character")
  | d => mismatch "a character" d

/-- Nothing but `null`. -/
def nothing : Decoder Unit
  | .null => .ok ()
  | d => mismatch "unit" d

/-- A value or `null`. -/
def optional {α : Type} (decode : Decoder α) : Decoder (Option α)
  | .null => .ok none
  | d => (decode d).map some

/-! ## Arrays -/

/-- Goes one level deeper, if the bound allows it. -/
def enter {α : Type} (bound : Nat) (inside : (n : Nat) → n < bound → Except DecodeError α) :
    Except DecodeError α :=
  match bound, inside with
  | 0, _ => .error (.flaw .malformed)
  | n + 1, inside => inside n (Nat.lt_succ_self n)

/-- Nothing more may follow. -/
def noMore {α : Type} (flaw : Option Flaw) (result : α) : Except DecodeError α :=
  match flaw with
  | none => .ok result
  | some flaw => .error (.flaw flaw)

/-- The items of an array. -/
def eachItem {α : Type} (decode : Decoder α) (flaw : Option Flaw) :
    List Draft → Except DecodeError (List α)
  | [] => noMore flaw []
  | item :: items => do
    let first ← decode item
    let rest ← eachItem decode flaw items
    pure (first :: rest)

/-- An array of values. -/
def list {α : Type} (bound : Nat) (decode : (n : Nat) → n < bound → Decoder α) :
    Decoder (List α)
  | .array items flaw => enter bound fun n h => eachItem (decode n h) flaw items
  | d => mismatch "a sequence" d

/-! ## Records -/

/-- A field of a record.  One with a default may be absent. -/
structure Field (α : Type) where
  name : String
  decode : Decoder α
  default : Option α

/-- The fields of a record.  `parts` is what is known of them while the members
are read, and `α` is what they amount to. -/
structure Fields (parts α : Type) where
  none : parts
  count : Nat
  /-- Takes a member, if it is one of the fields. -/
  put : String → Draft → parts → Option (Except DecodeError parts)
  finish : parts → Except DecodeError α
  /-- Takes the items of an array as the fields in their order, after the given
  number of them.  The text says what the array stands for. -/
  inOrder : String → Nat → Option Flaw → List Draft → Except DecodeError α

/-- No fields. -/
def noFields : Fields Unit Unit where
  none := ()
  count := 0
  put _ _ _ := Option.none
  finish _ := .ok ()
  inOrder _ _ flaw items :=
    match items with
    | [] => noMore flaw ()
    | _ :: _ => .error (.flaw .malformed)

/-- One field before others. -/
def Fields.add {α β parts : Type} (field : Field α) (fields : Fields parts β) :
    Fields (Option α × parts) (α × β) where
  none := (Option.none, fields.none)
  count := fields.count + 1
  put key d known :=
    if key = field.name then
      some <|
        if known.1.isSome then .error (.duplicateField field.name)
        else (field.decode d).map fun value => (some value, known.2)
    else (fields.put key d known.2).map fun result => result.map fun rest => (known.1, rest)
  finish known := do
    let first ← match known.1, field.default with
      | some value, _ => .ok value
      | Option.none, some value => .ok value
      | Option.none, Option.none => .error (.missingField field.name)
    let rest ← fields.finish known.2
    pure (first, rest)
  inOrder expected seen flaw items :=
    match items with
    | [] =>
      match flaw, field.default with
      | some flaw, _ => .error (.flaw flaw)
      | Option.none, some value => do
        let rest ← fields.inOrder expected (seen + 1) Option.none []
        pure (value, rest)
      | Option.none, Option.none => .error (.invalidLength seen expected)
    | item :: items => do
      let first ← field.decode item
      let rest ← fields.inOrder expected (seen + 1) flaw items
      pure (first, rest)

/-- A field that must be there, before others. -/
def required {α β parts : Type} (name : String) (decode : Decoder α) (fields : Fields parts β) :
    Fields (Option α × parts) (α × β) :=
  fields.add ⟨name, decode, Option.none⟩

/-- A field that may be absent, before others. -/
def defaulted {α β parts : Type} (name : String) (decode : Decoder α) (default : α)
    (fields : Fields parts β) : Fields (Option α × parts) (α × β) :=
  fields.add ⟨name, decode, some default⟩

/-- A field without a name, before others.  It occurs in arrays only. -/
def item {α β parts : Type} (decode : Decoder α) (fields : Fields parts β) :
    Fields (Option α × parts) (α × β) :=
  fields.add ⟨"", decode, Option.none⟩

/-- The fields of a record, and the record made of them. -/
def Fields.map {α β parts : Type} (fields : Fields parts α) (f : α → β) : Fields parts β where
  none := fields.none
  count := fields.count
  put := fields.put
  finish known := (fields.finish known).map f
  inOrder expected seen flaw items := (fields.inOrder expected seen flaw items).map f

/-- What an array of fields stands for, in words. -/
def Fields.describe {α parts : Type} (fields : Fields parts α) (what : String) : String :=
  what ++ " with " ++ toString fields.count ++
    (if fields.count = 1 then " element" else " elements")

/-- The members of an object as fields, one after the other. -/
def Fields.members {α parts : Type} (fields : Fields parts α) (flaw : Option Flaw) :
    List Entry → parts → Except DecodeError α
  | [], known => do
    let known ← noMore flaw known
    fields.finish known
  | e :: es, known => do
    let key ← e.key.key
    match fields.put key e.value known with
    | some result => do
      let known ← result
      fields.members flaw es known
    | Option.none =>
      match e.value.skipFlaw with
      | some flaw => throw (.flaw flaw)
      | Option.none => fields.members flaw es known

/-- A record. -/
def record {α parts : Type} (name : String) (bound : Nat)
    (fields : (n : Nat) → n < bound → Fields parts α) : Decoder α
  | .array items flaw =>
    enter bound fun n h =>
      (fields n h).inOrder ((fields n h).describe ("struct " ++ name)) 0 flaw items
  | .object entries flaw =>
    enter bound fun n h => (fields n h).members flaw entries (fields n h).none
  | d => mismatch ("struct " ++ name) d

/-! ## Choices -/

/-- The content of a variant. -/
inductive Variant (bound : Nat) (α : Type) where
  /-- No content. -/
  | unit (value : α)
  /-- A value. -/
  | newtype (decode : (n : Nat) → n < bound → Decoder α)
  /-- An array of values. -/
  | tuple (decode : (n : Nat) → n < bound → Decoder α)

/-- An array of values as the content of a variant. -/
def tuple {α parts : Type} (name : String) (bound : Nat)
    (fields : (n : Nat) → n < bound → Fields parts α) : Decoder α
  | .array items flaw =>
    enter bound fun n h =>
      (fields n h).inOrder ((fields n h).describe ("tuple variant " ++ name)) 0 flaw items
  | d => mismatch ("tuple variant " ++ name) d

/-- The variant of some name. -/
def pick {β : Type} (variants : List (String × β)) (name : String) : Except DecodeError β :=
  match variants.lookup name with
  | some variant => .ok variant
  | none => .error (.unknownVariant name (variants.map (·.1)))

/-- A choice between variants. -/
def choice {α : Type} (bound : Nat) (variants : List (String × Variant bound α)) : Decoder α
  | .text name => do
    match ← pick variants name with
    | .unit value => pure value
    | .newtype _ => throw (.invalidType .unitVariant "newtype variant")
    | .tuple _ => throw (.invalidType .unitVariant "tuple variant")
  | .object entries flaw =>
    enter bound fun n h =>
      match entries with
      | [] => throw (.flaw .malformed)
      | e :: more => do
        let name ← e.key.key
        let value ← match ← pick variants name with
          | .unit value => (nothing e.value).map fun _ => value
          | .newtype decode => decode n h e.value
          | .tuple decode => decode n h e.value
        match more with
        | [] => noMore flaw value
        | _ :: _ => throw (.flaw .malformed)
  | .flawed whenRead _ => .error (.flaw whenRead)
  | _ => .error (.flaw .malformed)

end Decode

/-! ## Whole texts -/

/-- The greatest depth of arrays and objects that are decoded. -/
def depthLimit : Nat := 127

/-- Decodes a whole text. -/
def decodeText {α : Type} (decode : Nat → Decoder α) (s : String) : Except DecodeError α := do
  let document := Document.ofText s
  let value ← decode depthLimit document.value
  if document.trailing then throw (.flaw .malformed)
  pure value

end TreeScan.Json
