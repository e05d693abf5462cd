import Caraka.Foundation.Bytes

/-! Compact JSON text: the writer byte for byte, and the shape of a parsed value. -/

namespace Foundation.Json

open Foundation

inductive Value where
  | string (text : String)
  | array (items : List Value)
  | object (members : List (String × Value))
  | other

/-- `value[name]`, which is null for an absent member or a value that is no object. -/
def Value.member (name : String) : Value → Value
  | .object members => ((members.find? fun m => m.1 = name).map Prod.snd).getD .other
  | _ => .other

def Value.asStr : Value → Option String
  | .string text => some text
  | _ => none

def Value.asArray : Value → Option (List Value)
  | .array items => some items
  | _ => none

def hexDigit (nibble : Nat) : UInt8 :=
  if nibble < 10 then UInt8.ofNat (48 + nibble) else UInt8.ofNat (87 + nibble)

def escape (c : Char) : Bytes :=
  if c = '"' then [92, 34]
  else if c = '\\' then [92, 92]
  else if c.toNat = 8 then [92, 98]
  else if c.toNat = 9 then [92, 116]
  else if c.toNat = 10 then [92, 110]
  else if c.toNat = 12 then [92, 102]
  else if c.toNat = 13 then [92, 114]
  else if c.toNat < 32 then [92, 117, 48, 48, hexDigit (c.toNat / 16), hexDigit (c.toNat % 16)]
  else String.utf8EncodeChar c

def escaped (text : String) : Bytes := text.toList.flatMap escape

def string (text : String) : Bytes := 34 :: (escaped text ++ [34])

def number (value : Nat) : Bytes := utf8 (toString value)

def commas : List Bytes → Bytes
  | [] => []
  | [item] => item
  | item :: next :: rest => item ++ 44 :: commas (next :: rest)

def array (items : List Bytes) : Bytes := 91 :: (commas items ++ [93])

def field (name : String) (value : Bytes) : Bytes := string name ++ 58 :: value

def object (fields : List Bytes) : Bytes := 123 :: (commas fields ++ [125])

@[simp] theorem length_string (text : String) :
    (string text).length = (escaped text).length + 2 := by
  simp [string]

@[simp] theorem length_field (name : String) (value : Bytes) :
    (field name value).length = (escaped name).length + 3 + value.length := by
  simp only [field, List.length_append, length_string, List.length_cons]
  omega

theorem length_commas (items : List Bytes) :
    (commas items).length = (items.map List.length).sum + (items.length - 1) := by
  induction items with
  | nil => rfl
  | cons item rest ih =>
      cases rest with
      | nil => simp [commas]
      | cons next rest =>
          simp only [commas, List.length_append, List.length_cons, ih, List.map_cons, List.sum_cons]
          omega

@[simp] theorem length_array (items : List Bytes) :
    (array items).length = (items.map List.length).sum + (items.length - 1) + 2 := by
  simp [array, length_commas]

@[simp] theorem length_object (fields : List Bytes) :
    (object fields).length = (fields.map List.length).sum + (fields.length - 1) + 2 := by
  simp [object, length_commas]

/-- An ASCII character the writer copies unchanged. -/
def Plain (c : Char) : Prop := escape c = [UInt8.ofNat c.toNat]

instance (c : Char) : Decidable (Plain c) := inferInstanceAs (Decidable (_ = _))

def PlainText (text : String) : Prop := ∀ c ∈ text.toList, Plain c

instance (text : String) : Decidable (PlainText text) := List.decidableBAll Plain text.toList

theorem length_escaped_plain {text : String} (plain : PlainText text) :
    (escaped text).length = text.length := by
  rw [escaped, List.length_flatMap]
  have ones : text.toList.map (fun c => (escape c).length) = text.toList.map fun _ => 1 := by
    apply List.map_congr_left
    intro c member
    rw [plain c member]
    rfl
  rw [ones]
  simp [String.length_toList]

theorem length_escape_le (c : Char) : (escape c).length ≤ 6 * (String.utf8EncodeChar c).length := by
  have positive : 0 < (String.utf8EncodeChar c).length := by
    rw [String.length_utf8EncodeChar]
    exact c.utf8Size_pos
  have bounded : (escape c).length ≤ 6 ∨ escape c = String.utf8EncodeChar c := by
    rw [escape]
    split_ifs <;> simp
  rcases bounded with short | same
  · omega
  · rw [same]
    omega

theorem length_escaped_le (text : String) : (escaped text).length ≤ 6 * (utf8 text).length := by
  rw [escaped, utf8]
  induction text.toList with
  | nil => simp
  | cons c rest ih =>
      have head := length_escape_le c
      simp only [List.flatMap_cons, List.length_append]
      omega

theorem utf8Size_of_isDigit {c : Char} (digit : c.isDigit) : c.utf8Size = 1 := by
  simp only [Char.isDigit, Bool.and_eq_true, decide_eq_true_eq] at digit
  exact Char.utf8Size_eq_one_iff.mpr (UInt32.le_trans digit.2 (by decide))

theorem length_number (value : Nat) : (number value).length = value.repr.length := by
  have digits : ∀ c ∈ value.repr.toList, c.isDigit := by
    intro c member
    rw [Nat.repr_eq_ofList_toDigits, String.toList_ofList] at member
    exact Nat.isDigit_of_mem_toDigits (by decide) (by decide) member
  have ones : value.repr.toList.map (fun c => (String.utf8EncodeChar c).length) =
      value.repr.toList.map fun _ => 1 := by
    apply List.map_congr_left
    intro c member
    rw [String.length_utf8EncodeChar, utf8Size_of_isDigit (digits c member)]
  rw [number, utf8, Nat.toString_eq_repr, List.length_flatMap, ones, List.map_const',
    List.sum_replicate_nat, String.length_toList, Nat.mul_one]

theorem length_number_le (value : UInt64) : (number value.toNat).length ≤ 20 := by
  rw [length_number, Nat.length_repr_le_iff (by decide)]
  have bound := value.toNat_lt
  omega

end Foundation.Json
