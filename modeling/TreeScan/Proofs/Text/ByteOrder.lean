import Mathlib.Data.String.Basic

/-!
# The order of texts by their bytes

Texts are ordered character by character.  The order of their UTF-8 bytes is the same
order (`bytes_lt_iff`), for UTF-8 was made so.

The form of a character is a leading byte and some continuation bytes.  A character that
needs more of them has a larger code and a larger leading byte.  With as many of them
the leading byte and the continuation bytes are the digits of the code in base 64, most
significant first, so the first that differs decides (`continuation_lt`, `encode_lt`).
No form runs out before that, and so what follows a character does not matter.
-/

namespace TreeScan.Text

/-- The bytes of a text in UTF-8. -/
def bytes (text : String) : List UInt8 := text.toUTF8.data.toList

theorem bytes_eq (text : String) : bytes text = text.toList.flatMap String.utf8EncodeChar := by
  have h : text.toByteArray = text.toList.utf8Encode := String.utf8Encode_toList.symm
  rw [bytes, String.toUTF8, h, List.utf8Encode, List.data_toByteArray, List.toList_toArray]

/-! ## The form of a character -/

/-- The last digits of a code in base 64, as continuation bytes. -/
def continuation : Nat → Nat → List UInt8
  | 0, _ => []
  | k + 1, code => UInt8.ofNat (code / 64 ^ k % 64 + 0x80) :: continuation k code

/-- How many continuation bytes a code has. -/
def continued (code : Nat) : Nat :=
  if code ≤ 0x7f then 0 else if code ≤ 0x7ff then 1 else if code ≤ 0xffff then 2 else 3

/-- What is added to the first digits of a code, for a number of continuation bytes. -/
def mark : Nat → Nat
  | 0 => 0
  | 1 => 0xc0
  | 2 => 0xe0
  | _ => 0xf0

/-- The leading byte of a code. -/
def leading (code : Nat) : Nat := code / 64 ^ continued code + mark (continued code)

theorem code_lt (c : Char) : c.val.toNat < 0x110000 := by
  have h : c.val.toNat < 0xd800 ∨ 0xdfff < c.val.toNat ∧ c.val.toNat < 0x110000 := c.valid
  omega

theorem encode_eq (c : Char) : String.utf8EncodeChar c =
    UInt8.ofNat (leading c.val.toNat) :: continuation (continued c.val.toNat) c.val.toNat := by
  have h := code_lt c
  unfold String.utf8EncodeChar leading continued
  generalize c.val.toNat = code at h ⊢
  by_cases h₁ : code ≤ 0x7f
  · simp [h₁, continuation, mark]
  by_cases h₂ : code ≤ 0x7ff
  · have hdigit : code / 64 % 0x20 = code / 64 := by omega
    simp [h₁, h₂, continuation, mark, hdigit]
  by_cases h₃ : code ≤ 0xffff
  · have hdigit : code / 4096 % 0x10 = code / 4096 := by omega
    simp [h₁, h₂, h₃, continuation, mark, hdigit]
  · have hdigit : code / 262144 % 0x08 = code / 262144 := by omega
    simp [h₁, h₂, h₃, continuation, mark, hdigit]

/-! ## Comparing forms -/

variable {m n : Nat} {xs ys : List UInt8}

/-- The first byte decides if there is a difference. -/
theorem cons_lt_cons_of (hm : m < 256) (hn : n < 256) (h : m < n ∨ m = n ∧ xs < ys) :
    UInt8.ofNat m :: xs < UInt8.ofNat n :: ys := by
  rw [List.cons_lt_cons_iff]
  rcases h with h | ⟨rfl, h⟩
  · left
    rw [UInt8.lt_iff_toNat_lt, UInt8.toNat_ofNat', UInt8.toNat_ofNat']
    omega
  · exact .inr ⟨rfl, h⟩

/-- Codes that differ in their last digits only are told apart by these. -/
theorem continuation_lt {k : Nat} (h : m < n) (hsame : m / 64 ^ k = n / 64 ^ k) :
    continuation k m ++ xs < continuation k n ++ ys := by
  induction k with
  | zero =>
      rw [Nat.pow_zero, Nat.div_one, Nat.div_one] at hsame
      exact absurd hsame (Nat.ne_of_lt h)
  | succ k ih =>
      have hle : m / 64 ^ k ≤ n / 64 ^ k := Nat.div_le_div_right (Nat.le_of_lt h)
      rw [Nat.pow_succ, ← Nat.div_div_eq_div_mul, ← Nat.div_div_eq_div_mul] at hsame
      refine cons_lt_cons_of (by omega) (by omega) ?_
      rcases Nat.lt_or_eq_of_le hle with hlt | heq
      · left
        omega
      · exact .inr ⟨by rw [heq], ih heq⟩

theorem continued_le (h : m < n) : continued m ≤ continued n := by
  unfold continued
  split_ifs <;> omega

/-- More continuation bytes go with a larger leading byte. -/
theorem leading_lt_of_continued (hn : n < 0x110000) (h : m < n)
    (hlt : continued m < continued n) : leading m < leading n := by
  unfold leading
  unfold continued at *
  split_ifs at hlt ⊢ <;> simp [mark] <;> omega

theorem leading_lt (hn : n < 0x110000) : leading n < 256 := by
  unfold leading continued
  split_ifs <;> simp [mark] <;> omega

/-- Of two characters the smaller one has the smaller form, whatever follows. -/
theorem encode_lt {c d : Char} (h : c < d) :
    String.utf8EncodeChar c ++ xs < String.utf8EncodeChar d ++ ys := by
  have hlt : c.val.toNat < d.val.toNat := h
  rw [encode_eq, encode_eq]
  refine cons_lt_cons_of (leading_lt (code_lt c)) (leading_lt (code_lt d)) ?_
  rcases Nat.lt_or_eq_of_le (continued_le hlt) with hmore | heq
  · exact .inl (leading_lt_of_continued (code_lt d) hlt hmore)
  · rw [leading, leading, heq]
    rcases Nat.lt_or_eq_of_le (Nat.div_le_div_right (c := 64 ^ continued d.val.toNat)
      (Nat.le_of_lt hlt)) with hdigits | hdigits
    · exact .inl (Nat.add_lt_add_right hdigits _)
    · exact .inr ⟨by rw [hdigits], continuation_lt hlt hdigits⟩

/-! ## Comparing texts -/

/-- The bytes of the smaller text come first. -/
theorem flatMap_encode_lt {cs ds : List Char} (h : cs < ds) :
    cs.flatMap String.utf8EncodeChar < ds.flatMap String.utf8EncodeChar := by
  induction h with
  | nil =>
      rw [List.flatMap_nil, List.flatMap_cons, encode_eq]
      exact List.nil_lt_cons _ _
  | cons _ ih =>
      rw [List.flatMap_cons, List.flatMap_cons]
      exact List.append_left_lt ih
  | rel hcd =>
      rw [List.flatMap_cons, List.flatMap_cons]
      exact encode_lt hcd

/-- The order of texts is the order of their bytes. -/
theorem bytes_lt_iff {s t : String} : bytes s < bytes t ↔ s < t := by
  have hmono : ∀ {s t : String}, s < t → bytes s < bytes t := by
    intro s t h
    rw [bytes_eq, bytes_eq]
    exact flatMap_encode_lt h
  constructor
  · intro h
    rcases lt_trichotomy s t with hlt | rfl | hgt
    · exact hlt
    · exact absurd h (List.lt_irrefl _)
    · exact absurd (hmono hgt) (List.lt_asymm h)
  · exact hmono

example : bytes "aé" < bytes "a😀" ∧ bytes "a" < bytes "a " := by decide

end TreeScan.Text
