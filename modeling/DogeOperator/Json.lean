import DogeOperator.Outcome

/-! JSON values and the decoders that `serde` derives: required, defaulted and optional fields,
integer widths, and the refusal of unknown and duplicate fields. -/
namespace DogeOperator.Json

/-- `serde_json::Value`, and the floats by their text. -/
inductive Value
  | null
  | bool (value : Bool)
  | integer (value : ℤ)
  | float (literal : String)
  | string (value : String)
  | array (items : List Value)
  | object (fields : List (String × Value))

namespace Value

/-- `Value::get`: the entry of an object. -/
def get (key : String) : Value → Option Value
  | .object fields => (fields.find? fun field => field.1 = key).map Prod.snd
  | _ => none

def asArray : Value → Option (List Value)
  | .array items => some items
  | _ => none

def asStr : Value → Option String
  | .string value => some value
  | _ => none

def asU64 : Value → Option ℕ
  | .integer value => if 0 ≤ value ∧ value < 2 ^ 64 then some value.toNat else none
  | _ => none

/-- A character in a JSON string. -/
def escaped (c : Char) : List Char :=
  if c = '"' then ['\\', '"']
  else if c = '\\' then ['\\', '\\']
  else if c.toNat = 8 then ['\\', 'b']
  else if c.toNat = 9 then ['\\', 't']
  else if c.toNat = 10 then ['\\', 'n']
  else if c.toNat = 12 then ['\\', 'f']
  else if c.toNat = 13 then ['\\', 'r']
  else if c.toNat < 32 then
    ['\\', 'u', '0', '0', Nat.digitChar (c.toNat / 16), Nat.digitChar (c.toNat % 16)]
  else [c]

def quoted (text : String) : String :=
  String.ofList ('"' :: text.toList.flatMap escaped ++ ['"'])

mutual

/-- `Display`: the value without blanks. -/
def display : Value → String
  | .null => "null"
  | .bool value => toString value
  | .integer value => toString value
  | .float literal => literal
  | .string value => quoted value
  | .array items => "[" ++ ",".intercalate (displayItems items) ++ "]"
  | .object fields => "\x7b" ++ ",".intercalate (displayFields fields) ++ "\x7d"

def displayItems : List Value → List String
  | [] => []
  | item :: items => display item :: displayItems items

def displayFields : List (String × Value) → List String
  | [] => []
  | (name, value) :: fields => (quoted name ++ ":" ++ display value) :: displayFields fields

end

end Value

abbrev Decoded (α : Type) := Except String α

variable {α : Type}

def asBool : Value → Decoded Bool
  | .bool value => .ok value
  | _ => .error "invalid type: expected a boolean"

def asString : Value → Decoded String
  | .string value => .ok value
  | _ => .error "invalid type: expected a string"

/-- An unsigned integer of `width` bits. -/
def asUnsigned (width : ℕ) : Value → Decoded ℕ
  | .integer value =>
    if 0 ≤ value ∧ value < 2 ^ width then .ok value.toNat
    else .error s!"invalid value: integer {value}, expected u{width}"
  | _ => .error s!"invalid type: expected u{width}"

def asU16 (value : Value) : Decoded UInt16 := (asUnsigned 16 value).map UInt16.ofNat

def asU32 (value : Value) : Decoded UInt32 := (asUnsigned 32 value).map UInt32.ofNat

def asU64 (value : Value) : Decoded UInt64 := (asUnsigned 64 value).map UInt64.ofNat

def asArray (item : Value → Decoded α) : Value → Decoded (List α)
  | .array items => items.mapM item
  | _ => .error "invalid type: expected a sequence"

/-- `null` is the absent value. -/
def asOption (item : Value → Decoded α) : Value → Decoded (Option α)
  | .null => .ok none
  | value => (item value).map some

/-- A struct: an object, or all of its fields in order as a sequence. -/
def asFields (names : List String) : Value → Decoded (List (String × Value))
  | .object fields => .ok fields
  | .array items =>
    if items.length = names.length then .ok (names.zip items)
    else .error s!"invalid length {items.length}, expected {names.length} elements"
  | _ => .error "invalid type: expected struct"

/-- A struct with defaults: the sequence may end before its last fields. -/
def asStruct (names : List String) : Value → Decoded (List (String × Value))
  | .object fields => .ok fields
  | .array items =>
    if items.length ≤ names.length then .ok (names.zip items)
    else .error s!"invalid length {items.length}, expected {names.length} elements"
  | _ => .error "invalid type: expected struct"

/-- `deny_unknown_fields` -/
def denyUnknown (known : List String) (fields : List (String × Value)) : Decoded Unit :=
  match fields.find? (fun field => field.1 ∉ known) with
  | some field => .error s!"unknown field {field.1}"
  | none => .ok ()

/-- The value under any of the names: the field's own and its aliases. -/
def lookup (names : List String) (fields : List (String × Value)) : Decoded (Option Value) :=
  match fields.filter (fun field => field.1 ∈ names) with
  | [] => .ok none
  | [field] => .ok (some field.2)
  | _ => .error s!"duplicate field {names.headD default}"

def required (name : String) (item : Value → Decoded α) (fields : List (String × Value)) :
    Decoded α := do
  match ← lookup [name] fields with
  | some value => item value
  | none => .error s!"missing field {name}"

/-- `#[serde(default)]` with aliases. -/
def defaulted (names : List String) (fallback : α) (item : Value → Decoded α)
    (fields : List (String × Value)) : Decoded α := do
  match ← lookup names fields with
  | some value => item value
  | none => .ok fallback

/-- An `Option` field: absent and `null` are both `None`. -/
def optional (names : List String) (item : Value → Decoded α) (fields : List (String × Value)) :
    Decoded (Option α) :=
  defaulted names none (asOption item) fields

/-- An HTTP answer: status, body, and what `serde_json` reads from the body. -/
structure HttpAnswer where
  status : ℕ
  text : String
  json : Decoded Value

def HttpAnswer.isSuccess (answer : HttpAnswer) : Bool :=
  200 ≤ answer.status && answer.status < 300

def ofU16 (value : UInt16) : Value := .integer value.toNat

def ofU32 (value : UInt32) : Value := .integer value.toNat

def ofU64 (value : UInt64) : Value := .integer value.toNat

theorem asUnsigned_natCast {width n : ℕ} (h : n < 2 ^ width) :
    asUnsigned width (.integer n) = .ok n := by
  have hbound : (n : ℤ) < 2 ^ width := by exact_mod_cast h
  rw [asUnsigned, if_pos ⟨Int.natCast_nonneg n, hbound⟩, Int.toNat_natCast]

@[simp] theorem asU16_ofU16 (value : UInt16) : asU16 (ofU16 value) = .ok value := by
  rw [asU16, ofU16, asUnsigned_natCast value.toNat_lt]
  exact congrArg Except.ok UInt16.ofNat_toNat

@[simp] theorem asU32_ofU32 (value : UInt32) : asU32 (ofU32 value) = .ok value := by
  rw [asU32, ofU32, asUnsigned_natCast value.toNat_lt]
  exact congrArg Except.ok UInt32.ofNat_toNat

@[simp] theorem asU64_ofU64 (value : UInt64) : asU64 (ofU64 value) = .ok value := by
  rw [asU64, ofU64, asUnsigned_natCast value.toNat_lt]
  exact congrArg Except.ok UInt64.ofNat_toNat

@[simp] theorem asFields_object (names : List String) (fields : List (String × Value)) :
    asFields names (.object fields) = .ok fields := rfl

@[simp] theorem asStruct_object (names : List String) (fields : List (String × Value)) :
    asStruct names (.object fields) = .ok fields := rfl

@[simp] theorem asString_string (value : String) : asString (.string value) = .ok value := rfl

@[simp] theorem asBool_bool (value : Bool) : asBool (.bool value) = .ok value := rfl

variable {names : List String} {name : String} {fields : List (String × Value)} {value : Value}
  {item : Value → Decoded α} {a : α}

theorem required_eq_ok (hlookup : lookup [name] fields = .ok (some value))
    (hitem : item value = .ok a) : required name item fields = .ok a := by
  rw [required, hlookup, Outcome.ok_bind]
  exact hitem

theorem defaulted_eq_ok {fallback : α} (hlookup : lookup names fields = .ok (some value))
    (hitem : item value = .ok a) : defaulted names fallback item fields = .ok a := by
  rw [defaulted, hlookup, Outcome.ok_bind]
  exact hitem

theorem optional_eq_ok (hlookup : lookup names fields = .ok (some value)) (hnull : value ≠ .null)
    (hitem : item value = .ok a) : optional names item fields = .ok (some a) := by
  apply defaulted_eq_ok hlookup
  cases value with
  | null => exact absurd rfl hnull
  | _ => exact congrArg (Except.map some) hitem

/-- Decoding an encoded sequence, element by element. -/
theorem asArray_map {β : Type} {item : Value → Decoded α} {encode : β → Value} {f : β → α}
    (h : ∀ x, item (encode x) = .ok (f x)) (xs : List β) :
    asArray item (.array (xs.map encode)) = .ok (xs.map f) := by
  rw [asArray, Outcome.mapM_eq_ok, List.forall₂_map_left_iff, List.forall₂_map_right_iff,
    List.forall₂_same]
  exact fun x _ => h x

end DogeOperator.Json
