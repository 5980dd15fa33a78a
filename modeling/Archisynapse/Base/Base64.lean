import Mathlib.Data.List.Basic

/-!
# Base64 texts of bytes

`base64.urlsafe_b64encode` without its padding, and `base64.urlsafe_b64decode` of a text that is padded again. The decoder skips
every character that is none of its alphabet, and stops at padding that completes a group. What was encoded is decoded as it was.
-/

namespace Archisynapse

namespace Base64

/-- The character of six bits. -/
def digit (n : Nat) : Char :=
  if n < 26 then Char.ofNat (65 + n)
  else if n < 52 then Char.ofNat (97 + (n - 26))
  else if n < 62 then Char.ofNat (48 + (n - 52))
  else if n = 62 then '-' else '_'

/-- The six bits of a character, of either alphabet. -/
def sextet (c : Char) : Option Nat :=
  if 'A' ≤ c ∧ c ≤ 'Z' then some (c.toNat - 65)
  else if 'a' ≤ c ∧ c ≤ 'z' then some (c.toNat - 71)
  else if '0' ≤ c ∧ c ≤ '9' then some (c.toNat + 4)
  else if c = '-' ∨ c = '+' then some 62
  else if c = '_' ∨ c = '/' then some 63
  else none

/-- `urlsafe_b64encode(value).rstrip("=")` -/
def encode : List UInt8 → List Char
  | [] => []
  | [a] => [digit (a.toNat / 4), digit (a.toNat % 4 * 16)]
  | [a, b] => [digit (a.toNat / 4), digit (a.toNat % 4 * 16 + b.toNat / 16), digit (b.toNat % 16 * 4)]
  | a :: b :: c :: rest =>
    digit (a.toNat / 4) :: digit (a.toNat % 4 * 16 + b.toNat / 16) :: digit (b.toNat % 16 * 4 + c.toNat / 64) ::
      digit (c.toNat % 64) :: encode rest

/-- `binascii.a2b_base64`, with the place in the group of four, the bits left over and the padding seen. -/
def decodeFrom : Nat → Nat → Nat → List Char → Option (List UInt8)
  | place, _, _, [] => if place = 0 then some [] else none
  | place, left, pads, c :: rest =>
    if c = '=' then
      if place < 2 then decodeFrom place left pads rest
      else if 4 ≤ place + (pads + 1) then some []
      else decodeFrom place left (pads + 1) rest
    else match sextet c with
      | none => decodeFrom place left pads rest
      | some v =>
        if place = 0 then decodeFrom 1 v 0 rest
        else if place = 1 then (decodeFrom 2 (v % 16) 0 rest).map (UInt8.ofNat (left * 4 + v / 16) :: ·)
        else if place = 2 then (decodeFrom 3 (v % 4) 0 rest).map (UInt8.ofNat (left * 16 + v / 4) :: ·)
        else (decodeFrom 0 0 0 rest).map (UInt8.ofNat (left * 64 + v) :: ·)

/-- The padding that `_b64decode` puts on a text. -/
def padding (text : List Char) : List Char := List.replicate ((4 - text.length % 4) % 4) '='

/-- `urlsafe_b64decode(value + "=" * (-len(value) % 4))`; none when it raises. -/
def decode (text : String) : Option (List UInt8) :=
  if text.toList.all (fun c => decide (c.toNat < 128)) then decodeFrom 0 0 0 (text.toList ++ padding text.toList) else none

/-! ## Round trip -/

theorem sextet_digit : ∀ n < 64, sextet (digit n) = some n ∧ digit n ≠ '=' ∧ (digit n).toNat < 128 := by decide

/-- Six bits at a place of a group. -/
theorem decodeFrom_digit {n : Nat} (hn : n < 64) (place left pads : Nat) (rest : List Char) :
    decodeFrom place left pads (digit n :: rest) =
      if place = 0 then decodeFrom 1 n 0 rest
      else if place = 1 then (decodeFrom 2 (n % 16) 0 rest).map (UInt8.ofNat (left * 4 + n / 16) :: ·)
      else if place = 2 then (decodeFrom 3 (n % 4) 0 rest).map (UInt8.ofNat (left * 16 + n / 4) :: ·)
      else (decodeFrom 0 0 0 rest).map (UInt8.ofNat (left * 64 + n) :: ·) := by
  obtain ⟨hsextet, hpad, -⟩ := sextet_digit n hn
  rw [decodeFrom, if_neg hpad, hsextet]

/-- A byte put together again from its bits. -/
theorem ofNat_bits {a : UInt8} {n : Nat} (h : n = a.toNat) : UInt8.ofNat n = a := by
  rw [h, UInt8.ofNat_toNat]

/-- What was encoded, with its padding, is decoded. -/
theorem decodeFrom_encode : ∀ bytes : List UInt8, decodeFrom 0 0 0 (encode bytes ++ padding (encode bytes)) = some bytes
  | [] => rfl
  | [a] => by
    have ha := a.toNat_lt
    simp only [encode, padding, List.length_cons, List.length_nil, List.cons_append, List.nil_append]
    rw [decodeFrom_digit (by omega), if_pos rfl, decodeFrom_digit (by omega), if_neg (by decide), if_pos rfl]
    rw [ofNat_bits (a := a) (by omega)]
    rfl
  | [a, b] => by
    have ha := a.toNat_lt
    have hb := b.toNat_lt
    simp only [encode, padding, List.length_cons, List.length_nil, List.cons_append, List.nil_append]
    rw [decodeFrom_digit (by omega), if_pos rfl, decodeFrom_digit (by omega), if_neg (by decide), if_pos rfl,
      decodeFrom_digit (by omega), if_neg (by decide), if_neg (by decide), if_pos rfl]
    rw [ofNat_bits (a := a) (by omega), ofNat_bits (a := b) (by omega)]
    rfl
  | a :: b :: c :: rest => by
    have ha := a.toNat_lt
    have hb := b.toNat_lt
    have hc := c.toNat_lt
    have ih := decodeFrom_encode rest
    have hlen : padding (encode (a :: b :: c :: rest)) = padding (encode rest) := by
      unfold padding
      simp only [encode, List.length_cons]
      congr 1
      omega
    rw [hlen]
    simp only [encode, List.cons_append]
    rw [decodeFrom_digit (by omega), if_pos rfl, decodeFrom_digit (by omega), if_neg (by decide), if_pos rfl,
      decodeFrom_digit (by omega), if_neg (by decide), if_neg (by decide), if_pos rfl,
      decodeFrom_digit (by omega), if_neg (by decide), if_neg (by decide), if_neg (by decide), ih]
    rw [ofNat_bits (a := a) (by omega), ofNat_bits (a := b) (by omega), ofNat_bits (a := c) (by omega)]
    rfl

/-- Every character of an encoding is one of six bits. -/
theorem mem_encode : ∀ (bytes : List UInt8) (c : Char), c ∈ encode bytes → ∃ n < 64, c = digit n
  | [], c, h => by cases h
  | [a], c, h => by
    have ha := a.toNat_lt
    simp only [encode, List.mem_cons, List.not_mem_nil, or_false] at h
    rcases h with rfl | rfl
    · exact ⟨_, by omega, rfl⟩
    · exact ⟨_, by omega, rfl⟩
  | [a, b], c, h => by
    have ha := a.toNat_lt
    have hb := b.toNat_lt
    simp only [encode, List.mem_cons, List.not_mem_nil, or_false] at h
    rcases h with rfl | rfl | rfl
    · exact ⟨_, by omega, rfl⟩
    · exact ⟨_, by omega, rfl⟩
    · exact ⟨_, by omega, rfl⟩
  | a :: b :: d :: rest, c, h => by
    have ha := a.toNat_lt
    have hb := b.toNat_lt
    have hd := d.toNat_lt
    simp only [encode, List.mem_cons] at h
    rcases h with rfl | rfl | rfl | rfl | h
    · exact ⟨_, by omega, rfl⟩
    · exact ⟨_, by omega, rfl⟩
    · exact ⟨_, by omega, rfl⟩
    · exact ⟨_, by omega, rfl⟩
    · exact mem_encode rest c h

/-- What was encoded is decoded as it was. -/
theorem decode_encode (bytes : List UInt8) : decode (String.ofList (encode bytes)) = some bytes := by
  unfold decode
  rw [String.toList_ofList, if_pos, decodeFrom_encode]
  refine List.all_eq_true.2 (fun c hc => ?_)
  obtain ⟨n, hn, rfl⟩ := mem_encode bytes c hc
  exact decide_eq_true (sextet_digit n hn).2.2

end Base64

end Archisynapse
