import Caraka.Foundation.Bytes
import Mathlib.Data.List.TakeWhile

/-! Text in fields: strict UTF-8, cutting at a separator a limited number of times, and numbers in
decimal. -/

namespace Foundation

theorem utf8_eq_toByteArray (text : String) : utf8 text = text.toByteArray.data.toList := by
  rw [← String.utf8Encode_toList, List.utf8Encode, List.toList_data_toByteArray, utf8]

/-- `String::from_utf8`. -/
def fromUtf8 (bytes : Bytes) : Option String := String.fromUTF8? bytes.toByteArray

theorem fromUtf8_eq_some {bytes : Bytes} {text : String} :
    fromUtf8 bytes = some text ↔ bytes = utf8 text := by
  rw [fromUtf8, String.fromUTF8?, utf8_eq_toByteArray]
  constructor
  · intro read
    split at read
    · cases read
      exact List.toList_data_toByteArray.symm
    · cases read
  · intro same
    have bytes_eq : bytes.toByteArray = text.toByteArray := by
      rw [same]
      apply ByteArray.ext
      apply Array.toList_inj.mp
      exact List.toList_data_toByteArray
    have valid : bytes.toByteArray.IsValidUTF8 := by
      rw [bytes_eq]
      exact text.isValidUTF8
    rw [dif_pos valid, Option.some.injEq, ← String.toByteArray_inj]
    exact bytes_eq

/-- `text.splitn(limit, separator)`. -/
def splitN (separator : Char) : Nat → List Char → List (List Char)
  | 0, _ => []
  | 1, text => [text]
  | limit + 2, text =>
    match text.dropWhile (· ≠ separator) with
    | [] => [text]
    | _ :: rest => text.takeWhile (· ≠ separator) :: splitN separator (limit + 1) rest

section Split

variable {separator : Char}

theorem splitN_field {field rest : List Char} (clean : separator ∉ field) (limit : Nat) :
    splitN separator (limit + 2) (field ++ separator :: rest) =
      field :: splitN separator (limit + 1) rest := by
  have inside : ∀ c ∈ field, decide (c ≠ separator) = true := by
    intro c member
    simp only [ne_eq, decide_not, Bool.not_eq_eq_eq_not, Bool.not_true, decide_eq_false_iff_not]
    rintro rfl
    exact clean member
  have after : (field ++ separator :: rest).dropWhile (· ≠ separator) = separator :: rest := by
    rw [List.dropWhile_append_of_pos inside]
    simp
  have before : (field ++ separator :: rest).takeWhile (· ≠ separator) = field := by
    rw [List.takeWhile_append_of_pos inside]
    simp
  rw [splitN, after, before]

theorem of_splitN_cons {limit : Nat} {text field next : List Char} {later : List (List Char)}
    (parts : splitN separator (limit + 2) text = field :: next :: later) :
    separator ∉ field ∧ ∃ rest, text = field ++ separator :: rest ∧
      splitN separator (limit + 1) rest = next :: later := by
  have whole := @List.takeWhile_append_dropWhile Char (· ≠ separator) text
  rw [splitN] at parts
  cases found : text.dropWhile (· ≠ separator) with
  | nil =>
      rw [found] at parts
      cases parts
  | cons c rest =>
      rw [found] at parts whole
      dsimp only at parts
      rw [List.cons.injEq] at parts
      have stop : c = separator := by
        have nonempty : text.dropWhile (· ≠ separator) ≠ [] := by
          rw [found]
          exact List.cons_ne_nil _ _
        have failed := List.head_dropWhile_not (· ≠ separator) nonempty
        have head_eq : (text.dropWhile (· ≠ separator)).head nonempty = c := by
          simp only [found, List.head_cons]
        rw [head_eq] at failed
        simpa using failed
      refine ⟨?_, rest, ?_, parts.2⟩
      · intro member
        rw [← parts.1] at member
        have passed := List.mem_takeWhile_imp member
        simp at passed
      · rw [← whole, parts.1, stop]

theorem field_unique {field field' rest rest' : List Char} (clean : separator ∉ field)
    (clean' : separator ∉ field') (same : field ++ separator :: rest = field' ++ separator :: rest') :
    field = field' ∧ rest = rest' := by
  have parts := congrArg (splitN separator 2) same
  rw [splitN_field clean, splitN_field clean', splitN, splitN] at parts
  simpa using parts

theorem splitN_four {text a b c d : List Char} :
    splitN separator 4 text = [a, b, c, d] ↔
      text = a ++ separator :: (b ++ separator :: (c ++ separator :: d)) ∧
        separator ∉ a ∧ separator ∉ b ∧ separator ∉ c := by
  constructor
  · intro parts
    rcases of_splitN_cons parts with ⟨cleanA, rest, rfl, later⟩
    rcases of_splitN_cons later with ⟨cleanB, rest, rfl, last⟩
    rcases of_splitN_cons last with ⟨cleanC, rest, rfl, left⟩
    rw [splitN, List.cons.injEq] at left
    rw [left.1]
    exact ⟨rfl, cleanA, cleanB, cleanC⟩
  · rintro ⟨rfl, cleanA, cleanB, cleanC⟩
    rw [splitN_field cleanA, splitN_field cleanB, splitN_field cleanC, splitN]

end Split

def unsigned : List Char → List Char
  | '+' :: rest => rest
  | text => text

/-- `str::parse` at an unsigned type whose greatest value is `limit`. -/
def parseUnsigned (limit : Nat) (text : List Char) : Option Nat :=
  let digits := unsigned text
  if digits ≠ [] ∧ digits.all Char.isDigit ∧ Nat.ofDigitChars 10 digits 0 ≤ limit then
    some (Nat.ofDigitChars 10 digits 0)
  else none

theorem unsigned_digits {text : List Char} (digits : ∀ c ∈ text, c.isDigit = true) :
    unsigned text = text := by
  rw [unsigned.eq_def]
  split
  · exact absurd (digits '+' List.mem_cons_self) (by decide)
  · rfl

def decimal (value : Nat) : List Char := (toString value).toList

theorem decimal_eq (value : Nat) : decimal value = Nat.toDigits 10 value := by
  rw [decimal, Nat.toString_eq_ofList_toDigits, String.toList_ofList]

theorem isDigit_decimal {value : Nat} : ∀ c ∈ decimal value, c.isDigit = true := by
  intro c member
  rw [decimal_eq] at member
  exact Nat.isDigit_of_mem_toDigits (by decide) (by decide) member

theorem ofDigitChars_decimal (value : Nat) : Nat.ofDigitChars 10 (decimal value) 0 = value := by
  rw [decimal_eq]
  exact Nat.ofDigitChars_toDigits (by decide) (by decide)

theorem decimal_injective : Function.Injective decimal := by
  intro value other same
  rw [← ofDigitChars_decimal value, same, ofDigitChars_decimal]

theorem parseUnsigned_decimal {limit value : Nat} (fits : value ≤ limit) :
    parseUnsigned limit (decimal value) = some value := by
  have some_digit : decimal value ≠ [] := by
    rw [decimal_eq]
    exact Nat.toDigits_ne_nil
  have reads := ofDigitChars_decimal value
  rw [parseUnsigned, unsigned_digits isDigit_decimal,
    if_pos ⟨some_digit, List.all_eq_true.mpr isDigit_decimal, by rwa [reads]⟩, reads]

def padded (width value : Nat) : List Char :=
  List.replicate (width - (decimal value).length) '0' ++ decimal value

theorem length_padded {width value : Nat} (positive : 0 < width) (fits : value < 10 ^ width) :
    (padded width value).length = width := by
  have short : (decimal value).length ≤ width := by
    rw [decimal_eq]
    exact (Nat.length_toDigits_le_iff (by decide) positive).mpr fits
  rw [padded, List.length_append, List.length_replicate]
  omega

theorem isDigit_padded {width value : Nat} : ∀ c ∈ padded width value, c.isDigit = true := by
  intro c member
  rcases List.mem_append.mp member with zero | digit
  · rw [List.eq_of_mem_replicate zero]
    rfl
  · exact isDigit_decimal c digit

theorem padded_injective (width : Nat) : Function.Injective (padded width) := by
  have reads : ∀ value, Nat.ofDigitChars 10 (padded width value) 0 = value := by
    intro value
    rw [padded, Nat.ofDigitChars_append, Nat.ofDigitChars_replicate_zero, Nat.mul_zero,
      ofDigitChars_decimal]
  intro value other same
  rw [← reads value, same, reads]

theorem intercalate_injective {separator : List Char} {width : Nat} {parts parts' : List (List Char)}
    (many : parts.length = parts'.length) (wide : ∀ part ∈ parts, part.length = width)
    (wide' : ∀ part ∈ parts', part.length = width)
    (same : separator.intercalate parts = separator.intercalate parts') : parts = parts' := by
  induction parts generalizing parts' with
  | nil => exact (List.length_eq_zero_iff.mp many.symm).symm
  | cons part rest ih =>
      cases parts' with
      | nil => cases many
      | cons part' rest' =>
          have first := wide part List.mem_cons_self
          have first' := wide' part' List.mem_cons_self
          have later := fun other member => wide other (List.mem_cons_of_mem part member)
          have later' := fun other member => wide' other (List.mem_cons_of_mem part' member)
          have fewer : rest.length = rest'.length := Nat.succ.inj many
          cases rest with
          | nil =>
              have none := List.length_eq_zero_iff.mp fewer.symm
              subst none
              rw [List.intercalate_singleton, List.intercalate_singleton] at same
              rw [same]
          | cons next rest =>
              cases rest' with
              | nil => cases fewer
              | cons next' rest' =>
                  rw [List.intercalate_cons_cons, List.intercalate_cons_cons, List.append_assoc,
                    List.append_assoc] at same
                  rcases List.append_inj same (first.trans first'.symm) with ⟨heads, tails⟩
                  have rests := List.append_cancel_left tails
                  rw [heads, ih fewer later later' rests]

end Foundation
