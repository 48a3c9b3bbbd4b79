/-!
# Byte offsets in a text

The trees record positions as byte offsets into the UTF-8 form of a source
text.  The functions here count bytes and cut a text at byte offsets.  An
offset inside a character is no place to cut, so a cut there has no result.

Main statement: `byteSlice?_eq_some_iff` says which slice there is between two offsets.
-/

namespace TreeScan.Text

/-- The number of bytes of a text in UTF-8. -/
def byteLength : List Char → Nat
  | [] => 0
  | c :: cs => c.utf8Size + byteLength cs

/-- The text after its first `n` bytes, if that is between two characters. -/
def dropBytes? : Nat → List Char → Option (List Char)
  | 0, cs => some cs
  | _ + 1, [] => none
  | n + 1, c :: cs => if c.utf8Size ≤ n + 1 then dropBytes? (n + 1 - c.utf8Size) cs else none

/-- The first `n` bytes of a text, if they end between two characters. -/
def takeBytes? : Nat → List Char → Option (List Char)
  | 0, _ => some []
  | _ + 1, [] => none
  | n + 1, c :: cs =>
      if c.utf8Size ≤ n + 1 then (takeBytes? (n + 1 - c.utf8Size) cs).map (c :: ·) else none

/-- The bytes of a text from one offset up to another, if neither cuts a
character and they are in order and inside the text. -/
def byteSlice? (cs : List Char) (first past : Nat) : Option (List Char) :=
  if first ≤ past then (dropBytes? first cs).bind (takeBytes? (past - first)) else none

theorem byteLength_append (xs ys : List Char) :
    byteLength (xs ++ ys) = byteLength xs + byteLength ys := by
  induction xs with
  | nil => simp [byteLength]
  | cons c cs ih => simp [byteLength, ih, Nat.add_assoc]

theorem dropBytes?_eq_some_iff {n : Nat} {cs rest : List Char} :
    dropBytes? n cs = some rest ↔ ∃ head, cs = head ++ rest ∧ byteLength head = n := by
  constructor
  · intro h
    fun_induction dropBytes? n cs with
    | case1 cs => exact ⟨[], by simpa using h, rfl⟩
    | case2 => cases h
    | case3 n c cs hle ih =>
        obtain ⟨head, rfl, hlength⟩ := ih h
        exact ⟨c :: head, rfl, by rw [byteLength]; omega⟩
    | case4 => cases h
  · rintro ⟨head, rfl, rfl⟩
    induction head with
    | nil => rw [byteLength, dropBytes?, List.nil_append]
    | cons c head ih =>
        obtain ⟨k, hk⟩ : ∃ k, c.utf8Size + byteLength head = k + 1 :=
          Nat.exists_eq_succ_of_ne_zero (by have := c.utf8Size_pos; omega)
        rw [byteLength, List.cons_append, hk, dropBytes?, if_pos (by omega), ← hk,
          Nat.add_sub_cancel_left, ih]

theorem takeBytes?_eq_some_iff {n : Nat} {cs slice : List Char} :
    takeBytes? n cs = some slice ↔ ∃ tail, cs = slice ++ tail ∧ byteLength slice = n := by
  constructor
  · intro h
    fun_induction takeBytes? n cs generalizing slice with
    | case1 cs =>
        cases h
        exact ⟨cs, rfl, rfl⟩
    | case2 => cases h
    | case3 n c cs hle ih =>
        obtain ⟨slice, hslice, rfl⟩ := Option.map_eq_some_iff.1 h
        obtain ⟨tail, rfl, hlength⟩ := ih hslice
        exact ⟨tail, rfl, by rw [byteLength]; omega⟩
    | case4 => cases h
  · rintro ⟨tail, rfl, rfl⟩
    induction slice with
    | nil => rw [byteLength, takeBytes?]
    | cons c slice ih =>
        obtain ⟨k, hk⟩ : ∃ k, c.utf8Size + byteLength slice = k + 1 :=
          Nat.exists_eq_succ_of_ne_zero (by have := c.utf8Size_pos; omega)
        rw [byteLength, List.cons_append, hk, takeBytes?, if_pos (by omega), ← hk,
          Nat.add_sub_cancel_left, ih, Option.map_some]

/-- The bytes between two offsets are the part of the text with that many bytes before it
and up to its end. -/
theorem byteSlice?_eq_some_iff {cs slice : List Char} {first past : Nat} :
    byteSlice? cs first past = some slice ↔
      ∃ head tail, cs = head ++ slice ++ tail ∧ byteLength head = first ∧
        byteLength (head ++ slice) = past := by
  rw [byteSlice?]
  constructor
  · intro h
    split at h
    · next hle =>
        obtain ⟨rest, hdrop, htake⟩ := Option.bind_eq_some_iff.1 h
        obtain ⟨head, rfl, hhead⟩ := dropBytes?_eq_some_iff.1 hdrop
        obtain ⟨tail, rfl, hslice⟩ := takeBytes?_eq_some_iff.1 htake
        refine ⟨head, tail, (List.append_assoc head slice tail).symm, hhead, ?_⟩
        rw [byteLength_append]
        omega
    · cases h
  · rintro ⟨head, tail, rfl, rfl, rfl⟩
    rw [byteLength_append, if_pos (Nat.le_add_right _ _), Nat.add_sub_cancel_left,
      dropBytes?_eq_some_iff.2 ⟨head, List.append_assoc head slice tail, rfl⟩, Option.bind_some,
      takeBytes?_eq_some_iff.2 ⟨tail, rfl, rfl⟩]

example : byteLength "aé😀".toList = 7 := by decide
example : byteSlice? "aéb".toList 1 3 = some "é".toList := by decide
example : byteSlice? "aéb".toList 2 3 = none := by decide
example : byteSlice? "aéb".toList 4 5 = none := by decide

end TreeScan.Text
