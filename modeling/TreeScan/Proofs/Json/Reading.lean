import Mathlib.Algebra.Group.Int.Defs
import Mathlib.Algebra.Group.Nat.Defs
import TreeScan.Json.Basic
import TreeScan.Json.Decoder

/-!
# Rendered values are read back

The reader makes a draft of a text.  From the text of a value it makes the draft that
says the same as the value (`Document.ofText_text`).  This is shown for values without
floating-point numbers: the others are an integer that is written with its digits
(`numeral_toDigits`), a text whose escapes are undone (`readText_escape`), and what is made
of these.

A value stands before the end of the text, before a comma or before a closing bracket
(`Closes`).  None of these goes on with a number.  The reader is given twice as many steps
as there are characters, and a value never takes more than that: this is what the induction
on values carries along.
-/

namespace TreeScan.Json

/-! ## Values and drafts -/

/-- An integer as it is written. -/
def Numeral.ofInt (i : Int) : Numeral := ⟨decide (i < 0), Nat.toDigits 10 i.natAbs, none, none⟩

mutual

/-- The draft that says the same as a value.  A floating-point number has none here. -/
def draft : Json → Draft
  | .null => .null
  | .bool value => .bool value
  | .int value => .number (.ofInt value)
  | .float _ => Read.malformed
  | .str value => .text value
  | .array items => .array (draftItems items) none
  | .object members => .object (draftMembers members) none

/-- The drafts of some items. -/
def draftItems : List Json → List Draft
  | [] => []
  | item :: items => item.draft :: draftItems items

/-- The drafts of some members. -/
def draftMembers : List (String × Json) → List Entry
  | [] => []
  | (key, value) :: members => ⟨.text key, value.draft⟩ :: draftMembers members

end

mutual

/-- There is no floating-point number in a value. -/
def FloatFree : Json → Prop
  | .float _ => False
  | .array items => FloatFreeItems items
  | .object members => FloatFreeMembers members
  | _ => True

/-- There is no floating-point number in some items. -/
def FloatFreeItems : List Json → Prop
  | [] => True
  | item :: items => item.FloatFree ∧ FloatFreeItems items

/-- There is no floating-point number in some members. -/
def FloatFreeMembers : List (String × Json) → Prop
  | [] => True
  | (_, value) :: members => value.FloatFree ∧ FloatFreeMembers members

end

/-! ## The values of integers -/

namespace Numeral

/-- Digits that make up a word are all taken. -/
theorem takeDigits_of_le {significand : Nat} {ds : List Char}
    (h : Nat.ofDigitChars 10 ds significand ≤ greatestWord) :
    takeDigits significand ds = (Nat.ofDigitChars 10 ds significand, []) := by
  induction ds generalizing significand with
  | nil => rfl
  | cons d ds ih =>
      have hnext : Nat.ofDigitChars 10 (d :: ds) significand =
          Nat.ofDigitChars 10 ds (significand * 10 + digitValue d) := by
        rw [Nat.ofDigitChars_eq_foldl, Nat.ofDigitChars_eq_foldl, List.foldl_cons,
          Nat.mul_comm significand, digitValue]
      rw [hnext] at h ⊢
      -- More digits only make the number larger.
      have hle : significand * 10 + digitValue d ≤ greatestWord := by
        rw [Nat.ofDigitChars_eq_ofDigitChars_zero] at h
        have hpos : 1 ≤ 10 ^ ds.length := Nat.one_le_pow _ _ (by decide)
        have hmul := Nat.mul_le_mul_right (significand * 10 + digitValue d) hpos
        omega
      rw [takeDigits, if_pos hle, ih h]

theorem takeDigits_toDigits {n : Nat} (h : n < 2 ^ 64) :
    takeDigits 0 (Nat.toDigits 10 n) = (n, []) := by
  have hvalue := Nat.ofDigitChars_ten_toDigits (n := n)
  have hle : Nat.ofDigitChars 10 (Nat.toDigits 10 n) 0 ≤ greatestWord := by
    rw [hvalue]
    exact Nat.le_sub_one_of_lt h
  rw [takeDigits_of_le hle, hvalue]

/-- A natural number is written as itself. -/
theorem value?_ofNat {n : Nat} (h : n < 2 ^ 64) : (ofInt n).value? = some (.natural n) := by
  have hsign : ¬ ((n : Int) < 0) := Int.not_lt.2 (Int.natCast_nonneg n)
  simp only [value?, ofInt, Int.natAbs_natCast, takeDigits_toDigits h, decide_eq_false hsign]
  rfl

/-- A negative number is written as itself. -/
theorem value?_of_neg {i : Int} (hneg : i < 0) (h : -2 ^ 63 ≤ i) :
    (ofInt i).value? = some (.negative i) := by
  have hsize : i.natAbs < 2 ^ 64 := by omega
  have hzero : i.natAbs ≠ 0 := by omega
  have hle : i.natAbs ≤ Nat.pow 2 63 := by
    show i.natAbs ≤ 2 ^ 63
    omega
  have habs : -(i.natAbs : Int) = i := by omega
  simp only [value?, ofInt, takeDigits_toDigits hsize, decide_eq_true hneg, if_neg hzero,
    if_pos hle, habs]
  rfl

end Numeral

namespace Read

/-! ## What follows a value -/

/-- A text that can follow a value: nothing, a comma or a closing bracket. -/
def Closes (rest : List Char) : Prop :=
  rest = [] ∨ ∃ c cs, rest = c :: cs ∧ (c = ',' ∨ c = ']' ∨ c = '\x7d')

theorem Closes.nil : Closes [] := .inl rfl

theorem Closes.comma (cs : List Char) : Closes (',' :: cs) := .inr ⟨',', cs, rfl, .inl rfl⟩

theorem Closes.bracket (cs : List Char) : Closes (']' :: cs) := .inr ⟨']', cs, rfl, .inr (.inl rfl)⟩

theorem Closes.brace (cs : List Char) : Closes ('\x7d' :: cs) :=
  .inr ⟨'\x7d', cs, rfl, .inr (.inr rfl)⟩

/-- No digit comes next. -/
theorem Closes.takeWhile_isDigit {rest : List Char} (h : Closes rest) :
    rest.takeWhile Char.isDigit = [] ∧ rest.dropWhile Char.isDigit = rest := by
  rcases h with rfl | ⟨c, cs, rfl, rfl | rfl | rfl⟩
  · exact ⟨rfl, rfl⟩
  · exact ⟨rfl, rfl⟩
  · exact ⟨rfl, rfl⟩
  · exact ⟨rfl, rfl⟩

/-! ## Integers -/

/-- The digits of a number other than zero do not begin with a zero. -/
theorem toDigits_head {n : Nat} (h : 0 < n) :
    ∃ c cs, Nat.toDigits 10 n = c :: cs ∧ c ≠ '0' := by
  induction n using Nat.strongRecOn with
  | ind n ih =>
      rw [Nat.toDigits_eq_if (by decide)]
      split
      · next hlt =>
          refine ⟨_, [], rfl, ?_⟩
          have hchar : ∀ d, d < 10 → 0 < d → Nat.digitChar d ≠ '0' := by decide
          exact hchar n hlt h
      · next hge =>
          obtain ⟨c, cs, hdigits, hc⟩ := ih (n / 10) (by omega) (by omega)
          exact ⟨c, cs ++ [Nat.digitChar (n % 10)], by rw [hdigits, List.cons_append], hc⟩

theorem digits_append {ds rest : List Char} (hds : ds ≠ []) (hall : ∀ d ∈ ds, d.isDigit = true)
    (h : Closes rest) : digits (ds ++ rest) = .ok (ds, rest) := by
  cases ds with
  | nil => exact absurd rfl hds
  | cons d ds =>
      obtain ⟨htake, hdrop⟩ := h.takeWhile_isDigit
      have hd : d.isDigit = true := hall d List.mem_cons_self
      simp only [digits, List.cons_append, hd, if_true]
      rw [← List.cons_append, List.takeWhile_append_of_pos hall, List.dropWhile_append_of_pos hall,
        htake, hdrop, List.append_nil]

theorem wholeDigits_toDigits (n : Nat) {rest : List Char} (h : Closes rest) :
    wholeDigits (Nat.toDigits 10 n ++ rest) = .ok (Nat.toDigits 10 n, rest) := by
  cases n with
  | zero =>
      rw [Nat.toDigits_zero]
      rcases h with rfl | ⟨c, cs, rfl, rfl | rfl | rfl⟩ <;> rfl
  | succ n =>
      obtain ⟨c, cs, hdigits, hc⟩ := toDigits_head (Nat.succ_pos n)
      have hall : ∀ d ∈ Nat.toDigits 10 (n + 1), d.isDigit = true :=
        fun d hd => Nat.isDigit_of_mem_toDigits (by decide) (by decide) hd
      have hread := digits_append Nat.toDigits_ne_nil hall h
      rw [hdigits] at hread ⊢
      rw [List.cons_append, wholeDigits]
      · exact hread
      · intro d ds heq
        exact hc (List.cons.inj heq).1

theorem fraction_none {rest : List Char} (h : Closes rest) : fraction rest = .ok (none, rest) := by
  rcases h with rfl | ⟨c, cs, rfl, rfl | rfl | rfl⟩ <;> rfl

theorem exponent_none {rest : List Char} (h : Closes rest) : exponent rest = .ok (none, rest) := by
  rcases h with rfl | ⟨c, cs, rfl, rfl | rfl | rfl⟩ <;> rfl

/-- The digits of a number are read as that number, up to what follows. -/
theorem numeral_toDigits (negative : Bool) (n : Nat) {rest : List Char} (h : Closes rest) :
    numeral negative (Nat.toDigits 10 n ++ rest) =
      (.number ⟨negative, Nat.toDigits 10 n, none, none⟩, some rest) := by
  simp only [numeral, wholeDigits_toDigits n h, bind, Except.bind, fraction_none h,
    exponent_none h]
  rfl

/-! ## Texts -/

/-- The escape of a control is read as the control. -/
theorem codePoint_control {n : Nat} (h : n < 0x20) (rest : List Char) :
    codePoint ('0' :: '0' :: Nat.digitChar (n / 16) :: Nat.digitChar (n % 16) :: rest) =
      .ok (Char.ofNat n, rest) := by
  have hhex : ∀ d, d < 16 → hexValue? (Nat.digitChar d) = some d := by decide
  have hzero : hexValue? '0' = some 0 := by decide
  have hcode : ((0 * 16 + 0) * 16 + n / 16) * 16 + n % 16 = n := by omega
  have hfour : fourDigits ('0' :: '0' :: Nat.digitChar (n / 16) :: Nat.digitChar (n % 16) :: rest) =
      .ok (n, rest) := by
    simp only [fourDigits, hzero, hhex (n / 16) (by omega), hhex (n % 16) (by omega), hcode]
  have hlow : (decide (0xDC00 ≤ n) && decide (n ≤ 0xDFFF)) = false := by
    simp; omega
  have hhigh : (decide (0xD800 ≤ n) && decide (n ≤ 0xDBFF)) = false := by
    simp; omega
  simp only [codePoint, hfour, bind, Except.bind]
  rw [if_neg (by simp [hlow]), if_neg (by simp [hhigh])]
  rfl

/-- What a character was escaped to is read as that character. -/
theorem readText_escapeChar (read : List Char) (left : Nat) (c : Char) (cs : List Char) :
    readText read (left + 1) (escapeChar c ++ cs) = readText (c :: read) left cs := by
  unfold escapeChar
  -- The quote, the backslash and the five controls with a letter of their own.
  iterate 7
    split
    · next h =>
        subst h
        rfl
  split
  · next h =>
      have hcode := codePoint_control h cs
      rw [Char.ofNat_toNat] at hcode
      simp only [List.cons_append, List.nil_append, readText, hcode]
      rfl
  · next hquote hbackslash _ _ _ _ _ hcontrol =>
      simp only [List.singleton_append, readText, if_neg hquote, if_neg hbackslash,
        if_neg hcontrol]

/-- A text is read up to its closing quote. -/
theorem readText_escape (s read rest : List Char) {left : Nat} (h : s.length < left) :
    readText read left (s.flatMap escapeChar ++ '\x22' :: rest) =
      .ok (String.ofList (read.reverse ++ s), rest) := by
  induction s generalizing read left with
  | nil =>
      obtain ⟨left, rfl⟩ : ∃ k, left = k + 1 := ⟨left - 1, by simp at h; omega⟩
      rw [List.append_nil]
      rfl
  | cons c s ih =>
      obtain ⟨left, rfl⟩ : ∃ k, left = k + 1 := ⟨left - 1, by simp at h; omega⟩
      rw [List.flatMap_cons, List.append_assoc, readText_escapeChar,
        ih (c :: read) (by simpa using h), List.reverse_cons, List.append_assoc,
        List.singleton_append]

theorem length_le_escape (s : List Char) : s.length ≤ (s.flatMap escapeChar).length := by
  induction s with
  | nil => exact Nat.le_refl 0
  | cons c s ih =>
      have hc : 1 ≤ (escapeChar c).length := by
        unfold escapeChar
        repeat' split
        all_goals simp
      rw [List.flatMap_cons, List.length_append, List.length_cons]
      omega

/-- A rendered text is read after its opening quote. -/
theorem text_render (s : String) (rest : List Char) :
    text (s.toList.flatMap escapeChar ++ '\x22' :: rest) = (.text s, some rest) := by
  have hlength := length_le_escape s.toList
  have hread := readText_escape s.toList [] rest
    (show s.toList.length < (s.toList.flatMap escapeChar ++ '\x22' :: rest).length + 1 by
      rw [List.length_append]
      omega)
  rw [text, hread]
  simp

/-! ## Values -/

/-- A character that a value can begin with: no blank and no closing bracket. -/
def Opens (c : Char) : Prop := c ∉ [' ', '\n', '\t', '\r', ']', '\x7d']

instance (c : Char) : Decidable (Opens c) := inferInstanceAs (Decidable (¬ _))

theorem opens_of_isDigit {c : Char} (h : c.isDigit = true) : Opens c := by
  intro hc
  simp only [List.mem_cons, List.not_mem_nil, or_false] at hc
  rcases hc with rfl | rfl | rfl | rfl | rfl | rfl <;> cases h

theorem skipBlanks_of_opens {c : Char} (h : Opens c) (cs : List Char) :
    skipBlanks (c :: cs) = c :: cs := by
  simp only [Opens, List.mem_cons, not_or] at h
  obtain ⟨h₁, h₂, h₃, h₄, -⟩ := h
  simp [skipBlanks, h₁, h₂, h₃, h₄]

theorem render_int (i : Int) :
    (Json.int i).render = if i < 0 then '-' :: Nat.toDigits 10 i.natAbs
      else Nat.toDigits 10 i.natAbs := by
  cases i with
  | ofNat n =>
      rw [if_neg (by simp)]
      show (toString (Int.ofNat n)).toList = _
      simp [toString, Int.repr, Nat.repr]
  | negSucc n =>
      rw [if_pos (by simp)]
      show (toString (Int.negSucc n)).toList = _
      simp [toString, Int.repr, Nat.repr]

/-- The text of a value begins with a character that opens a value. -/
theorem render_opens (j : Json) (h : j.FloatFree) :
    ∃ c cs, j.render = c :: cs ∧ Opens c := by
  cases j with
  | null => exact ⟨'n', _, rfl, by decide⟩
  | bool value =>
      cases value with
      | true => exact ⟨'t', _, rfl, by decide⟩
      | false => exact ⟨'f', _, rfl, by decide⟩
  | int i =>
      rw [render_int]
      split
      · exact ⟨'-', _, rfl, by decide⟩
      · obtain ⟨c, cs, hdigits⟩ := List.exists_cons_of_ne_nil
          (Nat.toDigits_ne_nil (n := i.natAbs) (b := 10))
        refine ⟨c, cs, hdigits, opens_of_isDigit ?_⟩
        refine Nat.isDigit_of_mem_toDigits (b := 10) (n := i.natAbs) (by decide) (by decide) ?_
        rw [hdigits]
        exact List.mem_cons_self
  | float value => exact h.elim
  | str value => exact ⟨'\x22', _, rfl, by decide⟩
  | array items => exact ⟨'[', _, rfl, by decide⟩
  | object members => exact ⟨'\x7b', _, rfl, by decide⟩

/-! ### Items and members -/

/-- The last item stands before the end of an array. -/
theorem readItems_last {steps : Nat} {cs rest : List Char} {d : Draft}
    (h : readValue steps cs = (d, some (']' :: rest))) :
    readItems (steps + 1) cs = ([d], none, some rest) := by
  simp only [readItems, h]
  rfl

/-- An item stands before a comma and the items after it. -/
theorem readItems_more {steps : Nat} {cs next rest : List Char} {d : Draft} {ds : List Draft}
    {c : Char} (hc : Opens c) (h : readValue steps cs = (d, some (',' :: c :: next)))
    (hmore : readItems steps (c :: next) = (ds, none, some rest)) :
    readItems (steps + 1) cs = (d :: ds, none, some rest) := by
  have hbracket : c ≠ ']' := fun e => hc (by simp [e])
  have hcomma : skipBlanks (',' :: c :: next) = ',' :: c :: next := rfl
  simp only [readItems, h, hcomma, skipBlanks_of_opens hc, if_neg hbracket, hmore]
  rfl

/-- The last member stands before the end of an object. -/
theorem readEntries_last {steps : Nat} {cs rest : List Char} {e : Entry}
    (h : readEntry steps cs = (e, some ('\x7d' :: rest))) :
    readEntries (steps + 1) cs = ([e], none, some rest) := by
  simp only [readEntries, h]
  rfl

/-- A member stands before a comma and the members after it. -/
theorem readEntries_more {steps : Nat} {cs next rest : List Char} {e : Entry} {es : List Entry}
    (h : readEntry steps cs = (e, some (',' :: '\x22' :: next)))
    (hmore : readEntries steps ('\x22' :: next) = (es, none, some rest)) :
    readEntries (steps + 1) cs = (e :: es, none, some rest) := by
  have hcomma : skipBlanks (',' :: '\x22' :: next) = ',' :: '\x22' :: next := rfl
  have hquote : skipBlanks ('\x22' :: next) = '\x22' :: next := rfl
  simp only [readEntries, h, hcomma, hquote, hmore]
  rfl

/-- A member is a key, a colon and a value. -/
theorem readEntry_render {steps : Nat} (key : String) {cs rest : List Char} {d : Draft}
    (h : readValue steps cs = (d, some rest)) :
    readEntry (steps + 1) (renderText key ++ ':' :: cs) = (⟨.text key, d⟩, some rest) := by
  have hkey := text_render key (':' :: cs)
  have hcolon : skipBlanks (':' :: cs) = ':' :: cs := rfl
  simp only [renderText, List.cons_append, List.append_assoc, List.nil_append, readEntry, hkey,
    hcolon, h]
  rfl

theorem readValue_array {steps : Nat} {c : Char} {cs rest : List Char} {ds : List Draft}
    (hc : Opens c) (h : readItems steps (c :: cs) = (ds, none, some rest)) :
    readValue (steps + 1) ('[' :: c :: cs) = (.array ds none, some rest) := by
  have hbracket : c ≠ ']' := fun e => hc (by simp [e])
  have hopen : skipBlanks ('[' :: c :: cs) = '[' :: c :: cs := rfl
  simp only [readValue, hopen, skipBlanks_of_opens hc, if_neg hbracket, h]
  rfl

theorem readValue_object {steps : Nat} {cs rest : List Char} {es : List Entry}
    (h : readEntries steps ('\x22' :: cs) = (es, none, some rest)) :
    readValue (steps + 1) ('\x7b' :: '\x22' :: cs) = (.object es none, some rest) := by
  have hopen : skipBlanks ('\x7b' :: '\x22' :: cs) = '\x7b' :: '\x22' :: cs := rfl
  have hquote : skipBlanks ('\x22' :: cs) = '\x22' :: cs := rfl
  simp only [readValue, hopen, hquote, h]
  rfl

theorem renderItems_cons_cons (item next : Json) (items : List Json) :
    renderItems (item :: next :: items) = item.render ++ ',' :: renderItems (next :: items) := rfl

theorem renderMembers_cons_cons (key : String) (value : Json) (next : String × Json)
    (members : List (String × Json)) :
    renderMembers ((key, value) :: next :: members) =
      renderText key ++ ':' :: value.render ++ ',' :: renderMembers (next :: members) := rfl

theorem renderItems_opens (item : Json) (items : List Json) (h : item.FloatFree) :
    ∃ c cs, renderItems (item :: items) = c :: cs ∧ Opens c := by
  obtain ⟨c, cs, hrender, hc⟩ := render_opens item h
  cases items with
  | nil => exact ⟨c, cs, hrender, hc⟩
  | cons next items => exact ⟨c, _, by rw [renderItems_cons_cons, hrender, List.cons_append], hc⟩

theorem renderMembers_opens (member : String × Json) (members : List (String × Json)) :
    ∃ cs, renderMembers (member :: members) = '\x22' :: cs := by
  cases members with
  | nil => exact ⟨_, rfl⟩
  | cons next members => exact ⟨_, rfl⟩

theorem length_renderText (key : String) : 2 ≤ (renderText key).length := by
  simp [renderText]

/-! ### The induction -/

mutual

/-- A rendered value is read back, up to what follows it. -/
theorem readValue_render (j : Json) (hj : j.FloatFree) (steps : Nat) (rest : List Char)
    (hsteps : 2 * j.render.length ≤ steps) (hrest : Closes rest) :
    readValue steps (j.render ++ rest) = (j.draft, some rest) := by
  obtain ⟨c, cs, hopens, -⟩ := render_opens j hj
  obtain ⟨steps, rfl⟩ : ∃ k, steps = k + 1 :=
    ⟨steps - 1, by rw [hopens, List.length_cons] at hsteps; omega⟩
  match j, hj with
  | .null, _ => rfl
  | .bool true, _ => rfl
  | .bool false, _ => rfl
  | .int i, _ =>
      rw [render_int, draft, Numeral.ofInt]
      by_cases hi : i < 0
      · rw [if_pos hi, decide_eq_true hi]
        exact numeral_toDigits true i.natAbs hrest
      · rw [if_neg hi, decide_eq_false hi]
        have hdigit : ∀ d ∈ Nat.toDigits 10 i.natAbs, d.isDigit = true :=
          fun d hd => Nat.isDigit_of_mem_toDigits (by decide) (by decide) hd
        have hnumeral := numeral_toDigits false i.natAbs hrest
        obtain ⟨d, ds, hdigits⟩ := List.exists_cons_of_ne_nil
          (Nat.toDigits_ne_nil (n := i.natAbs) (b := 10))
        rw [hdigits] at hdigit hnumeral ⊢
        have hd := hdigit d List.mem_cons_self
        have hletters : d ≠ 'n' ∧ d ≠ 't' ∧ d ≠ 'f' ∧ d ≠ '-' := by
          refine ⟨?_, ?_, ?_, ?_⟩ <;> (rintro rfl; cases hd)
        obtain ⟨hn, ht, hf, hminus⟩ := hletters
        rw [List.cons_append] at hnumeral ⊢
        simp only [readValue, skipBlanks_of_opens (opens_of_isDigit hd), if_neg hn, if_neg ht,
          if_neg hf, if_neg hminus, hd, if_true, hnumeral]
  | .str s, _ =>
      have hread := text_render s rest
      simp only [render, renderText, List.cons_append, List.append_assoc, List.nil_append, draft]
      exact hread
  | .array [], _ => rfl
  | .array (item :: items), hj =>
      simp only [render, List.cons_append, List.length_cons, List.length_append,
        List.length_nil] at hsteps
      have hitems := readItems_render (item :: items) hj steps rest (List.cons_ne_nil item items)
        (by omega)
      obtain ⟨c, cs, hrender, hc⟩ := renderItems_opens item items hj.1
      simp only [render, List.cons_append, List.append_assoc, List.nil_append, draft]
      rw [hrender] at hitems ⊢
      exact readValue_array hc hitems
  | .object [], _ => rfl
  | .object (member :: members), hj =>
      simp only [render, List.cons_append, List.length_cons, List.length_append,
        List.length_nil] at hsteps
      have hmembers := readEntries_render (member :: members) hj steps rest
        (List.cons_ne_nil member members) (by omega)
      obtain ⟨cs, hrender⟩ := renderMembers_opens member members
      simp only [render, List.cons_append, List.append_assoc, List.nil_append, draft]
      rw [hrender] at hmembers ⊢
      exact readValue_object hmembers

/-- Rendered items are read back, up to the end of their array. -/
theorem readItems_render (items : List Json) (hj : FloatFreeItems items) (steps : Nat)
    (rest : List Char) (hne : items ≠ []) (hsteps : 2 * (renderItems items).length + 1 ≤ steps) :
    readItems steps (renderItems items ++ ']' :: rest) = (draftItems items, none, some rest) := by
  obtain ⟨steps, rfl⟩ : ∃ k, steps = k + 1 := ⟨steps - 1, by omega⟩
  match items, hj with
  | [item], hj =>
      rw [renderItems] at hsteps ⊢
      exact readItems_last
        (readValue_render item hj.1 steps (']' :: rest) (by omega) (.bracket rest))
  | item :: next :: more, hj =>
      rw [renderItems_cons_cons, List.length_append, List.length_cons] at hsteps
      have hmore := readItems_render (next :: more) hj.2 steps rest (List.cons_ne_nil next more)
        (by omega)
      have hitem := readValue_render item hj.1 steps
        (',' :: (renderItems (next :: more) ++ ']' :: rest)) (by omega) (.comma _)
      obtain ⟨c, cs, hrender, hc⟩ := renderItems_opens next more hj.2.1
      rw [renderItems_cons_cons, List.append_assoc, List.cons_append]
      rw [hrender] at hmore hitem ⊢
      exact readItems_more hc hitem hmore

/-- Rendered members are read back, up to the end of their object. -/
theorem readEntries_render (members : List (String × Json)) (hj : FloatFreeMembers members)
    (steps : Nat) (rest : List Char) (hne : members ≠ [])
    (hsteps : 2 * (renderMembers members).length + 1 ≤ steps) :
    readEntries steps (renderMembers members ++ '\x7d' :: rest) =
      (draftMembers members, none, some rest) := by
  obtain ⟨steps, rfl⟩ : ∃ k, steps = k + 2 := by
    obtain ⟨member, more, rfl⟩ := List.exists_cons_of_ne_nil hne
    obtain ⟨cs, hrender⟩ := renderMembers_opens member more
    rw [hrender, List.length_cons] at hsteps
    exact ⟨steps - 2, by omega⟩
  match members, hj with
  | [(key, value)], hj =>
      rw [renderMembers, List.length_append, List.length_cons] at hsteps
      have hkey := length_renderText key
      rw [renderMembers, List.append_assoc, List.cons_append]
      exact readEntries_last (readEntry_render key
        (readValue_render value hj.1 steps ('\x7d' :: rest) (by omega) (.brace rest)))
  | (key, value) :: next :: more, hj =>
      rw [renderMembers_cons_cons, List.length_append, List.length_append, List.length_cons,
        List.length_cons] at hsteps
      have hkey := length_renderText key
      have hmore := readEntries_render (next :: more) hj.2 (steps + 1) rest
        (List.cons_ne_nil next more) (by omega)
      have hvalue := readValue_render value hj.1 steps
        (',' :: (renderMembers (next :: more) ++ '\x7d' :: rest)) (by omega) (.comma _)
      obtain ⟨cs, hrender⟩ := renderMembers_opens next more
      rw [renderMembers_cons_cons, List.append_assoc, List.append_assoc, List.cons_append,
        List.cons_append]
      rw [hrender] at hmore hvalue ⊢
      exact readEntries_more (readEntry_render key hvalue) hmore

end

end Read

/-- A rendered value is read as its draft, and nothing comes after it. -/
theorem Document.ofText_text {j : Json} (h : j.FloatFree) :
    Document.ofText j.text = ⟨j.draft, false⟩ := by
  have hread := Read.readValue_render j h (2 * j.render.length + 2) [] (by omega) .nil
  rw [List.append_nil] at hread
  unfold Document.ofText
  simp only [text, String.toList_ofList, hread]
  rfl

end TreeScan.Json
