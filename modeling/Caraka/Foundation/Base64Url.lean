import Caraka.Foundation.Bytes

/-! Base 64 text of the URL-safe alphabet without padding: the encoder, and a decoder that takes
nothing but what the encoder writes. -/

namespace Foundation.Base64Url

open Foundation

def letter (group : Nat) : Char :=
  if group < 26 then Char.ofNat (65 + group)
  else if group < 52 then Char.ofNat (71 + group)
  else if group < 62 then Char.ofNat (group - 4)
  else if group = 62 then '-' else '_'

def group? (c : Char) : Option Nat :=
  let code := c.toNat
  if 65 ≤ code ∧ code ≤ 90 then some (code - 65)
  else if 97 ≤ code ∧ code ≤ 122 then some (code - 71)
  else if 48 ≤ code ∧ code ≤ 57 then some (code + 4)
  else if code = 45 then some 62
  else if code = 95 then some 63
  else none

def split : Bytes → List Nat
  | [] => []
  | [a] => [a.toNat / 4, a.toNat % 4 * 16]
  | [a, b] => [a.toNat / 4, a.toNat % 4 * 16 + b.toNat / 16, b.toNat % 16 * 4]
  | a :: b :: c :: rest =>
      a.toNat / 4 :: (a.toNat % 4 * 16 + b.toNat / 16) :: (b.toNat % 16 * 4 + c.toNat / 64) ::
        c.toNat % 64 :: split rest

def join : List Nat → Option Bytes
  | [] => some []
  | [_] => none
  | [a, b] => if b % 16 = 0 then some [UInt8.ofNat (a * 4 + b / 16)] else none
  | [a, b, c] =>
      if c % 4 = 0 then
        some [UInt8.ofNat (a * 4 + b / 16), UInt8.ofNat (b % 16 * 16 + c / 4)]
      else none
  | a :: b :: c :: d :: rest =>
      (join rest).map fun bytes =>
        UInt8.ofNat (a * 4 + b / 16) :: UInt8.ofNat (b % 16 * 16 + c / 4) ::
          UInt8.ofNat (c % 4 * 64 + d) :: bytes

def encode (bytes : Bytes) : String := String.ofList ((split bytes).map letter)

def decode (text : String) : Option Bytes := (text.toList.mapM group?).bind join

theorem group?_letter_fin : ∀ group : Fin 64, group? (letter group) = some group.val := by decide

theorem group?_letter {group : Nat} (bound : group < 64) : group? (letter group) = some group :=
  group?_letter_fin ⟨group, bound⟩

theorem letter_code_fin : ∀ code : Fin 123, ∀ group ∈ group? (Char.ofNat code.val),
    group < 64 ∧ letter group = Char.ofNat code.val := by decide

theorem letter_group? {c : Char} {group : Nat} (read : group? c = some group) :
    group < 64 ∧ letter group = c := by
  have small : c.toNat < 123 := by
    by_contra large
    have above : 123 ≤ c.toNat := Nat.le_of_not_lt large
    rw [group?] at read
    rw [if_neg (by omega), if_neg (by omega), if_neg (by omega), if_neg (by omega),
      if_neg (by omega)] at read
    cases read
  have listed := letter_code_fin ⟨c.toNat, small⟩
  simp only [Char.ofNat_toNat] at listed
  exact listed group read

theorem split_lt (bytes : Bytes) : ∀ group ∈ split bytes, group < 64 := by
  induction bytes using split.induct with
  | case1 =>
      intro group member
      cases member
  | case2 a =>
      have ha := a.toNat_lt
      simp only [split, List.forall_mem_cons, List.not_mem_nil, false_implies, implies_true,
        and_true]
      exact ⟨by omega, by omega⟩
  | case3 a b =>
      have ha := a.toNat_lt
      have hb := b.toNat_lt
      simp only [split, List.forall_mem_cons, List.not_mem_nil, false_implies, implies_true,
        and_true]
      exact ⟨by omega, by omega, by omega⟩
  | case4 a b c rest ih =>
      have ha := a.toNat_lt
      have hb := b.toNat_lt
      have hc := c.toNat_lt
      simp only [split, List.forall_mem_cons]
      exact ⟨by omega, by omega, by omega, by omega, ih⟩

theorem ofNat_eq {byte : UInt8} {value : Nat} (same : value = byte.toNat) :
    UInt8.ofNat value = byte := by
  rw [same, UInt8.ofNat_toNat]

theorem join_split (bytes : Bytes) : join (split bytes) = some bytes := by
  induction bytes using split.induct with
  | case1 => rfl
  | case2 a =>
      have first : UInt8.ofNat (a.toNat / 4 * 4 + a.toNat % 4 * 16 / 16) = a :=
        ofNat_eq (by omega)
      rw [split, join, if_pos (by omega), first]
  | case3 a b =>
      have ha := a.toNat_lt
      have hb := b.toNat_lt
      have first : UInt8.ofNat (a.toNat / 4 * 4 + (a.toNat % 4 * 16 + b.toNat / 16) / 16) = a :=
        ofNat_eq (by omega)
      have second : UInt8.ofNat ((a.toNat % 4 * 16 + b.toNat / 16) % 16 * 16 +
          b.toNat % 16 * 4 / 4) = b := ofNat_eq (by omega)
      rw [split, join, if_pos (by omega), first, second]
  | case4 a b c rest ih =>
      have ha := a.toNat_lt
      have hb := b.toNat_lt
      have hc := c.toNat_lt
      have first : UInt8.ofNat (a.toNat / 4 * 4 + (a.toNat % 4 * 16 + b.toNat / 16) / 16) = a :=
        ofNat_eq (by omega)
      have second : UInt8.ofNat ((a.toNat % 4 * 16 + b.toNat / 16) % 16 * 16 +
          (b.toNat % 16 * 4 + c.toNat / 64) / 4) = b := ofNat_eq (by omega)
      have third : UInt8.ofNat ((b.toNat % 16 * 4 + c.toNat / 64) % 4 * 64 + c.toNat % 64) = c :=
        ofNat_eq (by omega)
      rw [split, join, ih, Option.map_some, first, second, third]

theorem toNat_ofNat {value : Nat} (bound : value < 256) : (UInt8.ofNat value).toNat = value :=
  UInt8.toNat_ofNat_of_lt' bound

theorem split_of_join {groups : List Nat} {bytes : Bytes} (bounds : ∀ group ∈ groups, group < 64)
    (joined : join groups = some bytes) : split bytes = groups := by
  induction groups using join.induct generalizing bytes with
  | case1 =>
      cases joined
      rfl
  | case2 a => cases joined
  | case4 a b odd =>
      rw [join, if_neg odd] at joined
      cases joined
  | case6 a b c odd =>
      rw [join, if_neg odd] at joined
      cases joined
  | case3 a b aligned =>
      simp only [List.forall_mem_cons] at bounds
      rw [join, if_pos aligned] at joined
      cases joined
      have value : (UInt8.ofNat (a * 4 + b / 16)).toNat = a * 4 + b / 16 := toNat_ofNat (by omega)
      have high : (a * 4 + b / 16) / 4 = a := by omega
      have low : (a * 4 + b / 16) % 4 * 16 = b := by omega
      rw [split, value, high, low]
  | case5 a b c aligned =>
      simp only [List.forall_mem_cons] at bounds
      rw [join, if_pos aligned] at joined
      cases joined
      have first : (UInt8.ofNat (a * 4 + b / 16)).toNat = a * 4 + b / 16 := toNat_ofNat (by omega)
      have second : (UInt8.ofNat (b % 16 * 16 + c / 4)).toNat = b % 16 * 16 + c / 4 :=
        toNat_ofNat (by omega)
      have high : (a * 4 + b / 16) / 4 = a := by omega
      have middle : (a * 4 + b / 16) % 4 * 16 + (b % 16 * 16 + c / 4) / 16 = b := by omega
      have low : (b % 16 * 16 + c / 4) % 16 * 4 = c := by omega
      rw [split, first, second, high, middle, low]
  | case7 a b c d rest ih =>
      simp only [List.forall_mem_cons] at bounds
      rw [join] at joined
      rcases Option.map_eq_some_iff.mp joined with ⟨later, joins, rfl⟩
      have first : (UInt8.ofNat (a * 4 + b / 16)).toNat = a * 4 + b / 16 := toNat_ofNat (by omega)
      have second : (UInt8.ofNat (b % 16 * 16 + c / 4)).toNat = b % 16 * 16 + c / 4 :=
        toNat_ofNat (by omega)
      have third : (UInt8.ofNat (c % 4 * 64 + d)).toNat = c % 4 * 64 + d := toNat_ofNat (by omega)
      have g1 : (a * 4 + b / 16) / 4 = a := by omega
      have g2 : (a * 4 + b / 16) % 4 * 16 + (b % 16 * 16 + c / 4) / 16 = b := by omega
      have g3 : (b % 16 * 16 + c / 4) % 16 * 4 + (c % 4 * 64 + d) / 64 = c := by omega
      have g4 : (c % 4 * 64 + d) % 64 = d := by omega
      rw [split, first, second, third, ih bounds.2.2.2.2 joins, g1, g2, g3, g4]

theorem mapM_letters {groups : List Nat} (bounds : ∀ group ∈ groups, group < 64) :
    (groups.map letter).mapM group? = some groups := by
  induction groups with
  | nil => rfl
  | cons group rest ih =>
      simp only [List.forall_mem_cons] at bounds
      rw [List.map_cons, List.mapM_cons, group?_letter bounds.1, ih bounds.2]
      rfl

theorem letters_of_mapM {chars : List Char} {groups : List Nat}
    (read : chars.mapM group? = some groups) :
    (∀ group ∈ groups, group < 64) ∧ groups.map letter = chars := by
  induction chars generalizing groups with
  | nil =>
      cases read
      exact ⟨fun group member => absurd member List.not_mem_nil, rfl⟩
  | cons c rest ih =>
      rw [List.mapM_cons] at read
      rcases Option.bind_eq_some_iff.mp read with ⟨group, first, later⟩
      rcases Option.bind_eq_some_iff.mp later with ⟨others, reads, same⟩
      cases same
      rcases ih reads with ⟨bounds, spelled⟩
      rcases letter_group? first with ⟨bound, back⟩
      refine ⟨List.forall_mem_cons.mpr ⟨bound, bounds⟩, ?_⟩
      rw [List.map_cons, back, spelled]

theorem decode_encode (bytes : Bytes) : decode (encode bytes) = some bytes := by
  rw [decode, encode, String.toList_ofList, mapM_letters (split_lt bytes), Option.bind_some,
    join_split]

theorem decode_eq_some {text : String} {bytes : Bytes} :
    decode text = some bytes ↔ text = encode bytes := by
  constructor
  · intro read
    rcases Option.bind_eq_some_iff.mp read with ⟨groups, groups_read, joined⟩
    rcases letters_of_mapM groups_read with ⟨bounds, spelled⟩
    rw [encode, split_of_join bounds joined, spelled, String.ofList_toList]
  · rintro rfl
    exact decode_encode bytes

theorem letter_plain_fin : ∀ group : Fin 64,
    33 ≤ (letter group).toNat ∧ (letter group).toNat ≤ 122 := by decide

theorem visible_encode (bytes : Bytes) : ∀ c ∈ (encode bytes).toList, 33 ≤ c.toNat ∧
    c.toNat ≤ 122 := by
  intro c member
  rw [encode, String.toList_ofList] at member
  rcases List.mem_map.mp member with ⟨group, listed, rfl⟩
  exact letter_plain_fin ⟨group, split_lt bytes group listed⟩

end Foundation.Base64Url
