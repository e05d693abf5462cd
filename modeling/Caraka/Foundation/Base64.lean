import Caraka.Foundation.Json

/-! Base 64 text with padding. -/

namespace Foundation.Base64

open Foundation

def letter (group : Nat) : Char :=
  if group < 26 then Char.ofNat (65 + group)
  else if group < 52 then Char.ofNat (71 + group)
  else if group < 62 then Char.ofNat (group - 4)
  else if group = 62 then '+' else '/'

def letters : Bytes → List Char
  | [] => []
  | [a] => [letter (a.toNat / 4), letter (a.toNat % 4 * 16), '=', '=']
  | [a, b] =>
      [letter (a.toNat / 4), letter (a.toNat % 4 * 16 + b.toNat / 16),
        letter (b.toNat % 16 * 4), '=']
  | a :: b :: c :: rest =>
      letter (a.toNat / 4) :: letter (a.toNat % 4 * 16 + b.toNat / 16) ::
        letter (b.toNat % 16 * 4 + c.toNat / 64) :: letter (c.toNat % 64) :: letters rest

def encode (bytes : Bytes) : String := String.ofList (letters bytes)

theorem length_letters (bytes : Bytes) :
    (letters bytes).length = 4 * ((bytes.length + 2) / 3) := by
  induction bytes using letters.induct with
  | case1 => rfl
  | case2 a => simp [letters]
  | case3 a b => simp [letters]
  | case4 a b c rest ih =>
      simp only [letters, List.length_cons, ih]
      omega

@[simp] theorem length_encode (bytes : Bytes) :
    (encode bytes).length = 4 * ((bytes.length + 2) / 3) := by
  rw [encode, String.length_ofList, length_letters]

theorem plain_letter_fin (group : Fin 64) : Json.Plain (letter group) := by
  revert group
  decide

theorem plain_letter {group : Nat} (bound : group < 64) : Json.Plain (letter group) :=
  plain_letter_fin ⟨group, bound⟩

theorem plain_pad : Json.Plain '=' := by decide

theorem plain_letters (bytes : Bytes) : ∀ c ∈ letters bytes, Json.Plain c := by
  induction bytes using letters.induct with
  | case1 =>
      intro c member
      cases member
  | case2 a =>
      have ha := a.toNat_lt
      simp only [letters, List.forall_mem_cons, List.not_mem_nil, false_implies, implies_true,
        and_true]
      exact ⟨plain_letter (by omega), plain_letter (by omega), plain_pad, plain_pad⟩
  | case3 a b =>
      have ha := a.toNat_lt
      have hb := b.toNat_lt
      simp only [letters, List.forall_mem_cons, List.not_mem_nil, false_implies, implies_true,
        and_true]
      exact ⟨plain_letter (by omega), plain_letter (by omega), plain_letter (by omega), plain_pad⟩
  | case4 a b c rest ih =>
      have ha := a.toNat_lt
      have hb := b.toNat_lt
      have hc := c.toNat_lt
      simp only [letters, List.forall_mem_cons]
      exact ⟨plain_letter (by omega), plain_letter (by omega), plain_letter (by omega),
        plain_letter (by omega), ih⟩

@[simp] theorem length_escaped_encode (bytes : Bytes) :
    (Json.escaped (encode bytes)).length = 4 * ((bytes.length + 2) / 3) := by
  have plain : Json.PlainText (encode bytes) := by
    rw [Json.PlainText, encode, String.toList_ofList]
    exact plain_letters bytes
  rw [Json.length_escaped_plain plain, length_encode]

end Foundation.Base64
