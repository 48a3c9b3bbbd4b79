import Mathlib.Data.List.DropRight
import TreeScan.Text.Blank

/-!
# Ends of texts

What `dropEndWhile` takes off the end of a text are characters that pass the test
(`exists_dropped`), and none of these is left there (`getLast?_dropEndWhile`).  So nothing is
taken off in front of a character that does not pass it (`dropEndWhile_append`).
-/

namespace TreeScan.Text

variable {p : Char → Bool} {cs : List Char}

/-- A text is what is left of it and the characters that were taken off. -/
theorem exists_dropped (p : Char → Bool) (cs : List Char) :
    ∃ dropped, dropEndWhile p cs ++ dropped = cs ∧ ∀ c ∈ dropped, p c = true :=
  ⟨cs.rtakeWhile p, List.rdropWhile_append_rtakeWhile, fun _ hc => List.mem_rtakeWhile_imp hc⟩

theorem getLast?_dropEndWhile {c : Char} (h : (dropEndWhile p cs).getLast? = some c) :
    p c = false := by
  have hne : dropEndWhile p cs ≠ [] := by
    intro hnil
    rw [hnil] at h
    cases h
  have hlast : c = (dropEndWhile p cs).getLast hne := by
    rw [List.getLast?_eq_some_getLast hne] at h
    exact (Option.some.inj h).symm
  rw [hlast]
  exact Bool.eq_false_iff.2 (List.rdropWhile_last_not p cs hne)

theorem dropEndWhile_ne_nil (h : ∃ c ∈ cs, p c = false) : dropEndWhile p cs ≠ [] := by
  obtain ⟨c, hmem, hc⟩ := h
  intro hnil
  rw [List.rdropWhile_eq_nil_iff.1 hnil c hmem] at hc
  cases hc

theorem dropEndWhile_append (front : List Char) (h : ∃ c ∈ cs, p c = false) :
    dropEndWhile p (front ++ cs) = front ++ dropEndWhile p cs := by
  have hne : cs.reverse.dropWhile p ≠ [] :=
    fun hnil => dropEndWhile_ne_nil h (List.reverse_eq_nil_iff.2 hnil)
  rw [dropEndWhile, dropEndWhile, List.reverse_append, List.dropWhile_append,
    if_neg (mt List.isEmpty_iff.1 hne), List.reverse_append, List.reverse_reverse]

end TreeScan.Text
