import SysArmor.GoText

/-! JSON values and how `encoding/json` decodes them into Go types. A struct type is given by a
name and its table of fields, so that a type may refer to itself. Only whether a decoding
succeeds and the texts it reads are described. -/
namespace SysArmor.GoJson

inductive Value where
  | null
  | bool (b : Bool)
  | number (literal : String)
  | text (s : String)
  | array (items : List Value)
  | object (fields : List (String × Value))

inductive GoType (κ : Type) where
  | string
  | bool
  | uint (bits : Nat)
  | slice (item : GoType κ)
  | struct (name : κ)

def foldLetter (c : Char) : Char :=
  if c.toNat = 0x17F then 's' else if c.toNat = 0x212A then 'k' else c.toLower

def foldKey (key : String) : List Char := key.toList.map foldLetter

def sameKey (name key : String) : Bool := foldKey name = foldKey key

variable {κ : Type} (types : κ → List (String × GoType κ))

def field? (table : List (String × GoType κ)) (key : String) : Option (GoType κ) :=
  (table.find? fun field => sameKey field.1 key).map (·.2)

/-- `strconv.ParseUint` on a number literal. -/
def isUint (bits : Nat) (literal : String) : Bool :=
  literal ≠ "" && literal.toList.all Char.isDigit && Nat.ofDigitChars 10 literal.toList 0 < 2 ^ bits

mutual
/-- Whether `json.Unmarshal` into the type succeeds: `null` goes into every type, unknown keys are
skipped. -/
def fits : Value → GoType κ → Bool
  | .null,_ => true
  | .text _,.string => true
  | .bool _,.bool => true
  | .number literal,.uint bits => isUint bits literal
  | .array items,.slice item => fitsAll items item
  | .object fields,.struct name => fitsFields fields (types name)
  | _,_ => false

def fitsAll : List Value → GoType κ → Bool
  | [],_ => true
  | value :: rest,item => fits value item && fitsAll rest item

def fitsFields : List (String × Value) → List (String × GoType κ) → Bool
  | [],_ => true
  | (key,value) :: rest,table =>
    (match field? table key with
      | some type => fits value type
      | none => true) && fitsFields rest table
end

/-- A text field after decoding: the last occurrence counts, and `null` leaves it as it is. -/
def Value.readText (name : String) : Value → String
  | .object fields => fields.foldl (fun read field =>
      match sameKey name field.1,field.2 with
      | true,.text s => s
      | _,_ => read) ""
  | _ => ""

def Value.asText : Value → String
  | .text s => s
  | _ => ""

/-- The elements of a list field after decoding, which `null` empties. -/
def Value.readItems (name : String) : Value → List Value
  | .object fields => fields.foldl (fun read field =>
      match sameKey name field.1,field.2 with
      | true,.array items => items
      | true,.null => []
      | _,_ => read) []
  | _ => []

def Value.readTexts (name : String) (value : Value) : List String := (value.readItems name).map Value.asText

/-- What `json.Marshal` makes of a list of texts, which is `null` when it is empty and was never
allocated. -/
def Value.ofTexts (values : List String) : Value :=
  if values = [] then .null else .array (values.map Value.text)

lemma fitsFields_iff {fields : List (String × Value)} {table : List (String × GoType κ)} : fitsFields types fields table ↔
      ∀ field ∈ fields, ∀ type, field? table field.1 = some type → fits types field.2 type := by
  induction fields with
  | nil => simp [fitsFields]
  | cons field fields ih =>
    rw [fitsFields,Bool.and_eq_true,ih,List.forall_mem_cons]
    refine and_congr_left fun _ => ?_
    cases field? table field.1 <;> simp

lemma fitsAll_iff {items : List Value} {item : GoType κ} :
    fitsAll types items item ↔ ∀ value ∈ items, fits types value item := by
  induction items with
  | nil => simp [fitsAll]
  | cons value items ih => rw [fitsAll,Bool.and_eq_true,ih,List.forall_mem_cons]

lemma fits_of_subtable {name part : κ}
    (part_of : ∀ key type, field? (types part) key = some type → field? (types name) key = some type)
    (decodes : fits types value (.struct name)) : fits types value (.struct part) := by
  cases value with
  | object fields =>
    rw [fits,fitsFields_iff] at decodes ⊢
    exact fun field mem type found => decodes field mem type (part_of _ _ found)
  | null => rfl
  | _ => simp [fits] at decodes

lemma fits_ofTexts (values : List String) : fits types (Value.ofTexts values) (.slice .string) := by
  unfold Value.ofTexts
  split
  · rfl
  · rw [fits,fitsAll_iff]
    simp [fits]

end SysArmor.GoJson
