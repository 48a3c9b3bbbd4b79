import TreeScan.Proofs.Text.Ends
import TreeScan.Report.Problem

/-!
# Messages of problems

A message is a template with the parameters in its gaps.  What is written there is the
parameter and nothing else, so a parameter may look like a gap or end in a blank or a colon.

*Enough parameters.*  The message is the template with a parameter in each gap, and further
parameters are not looked at (`Template.filled_eq`, `Template.fill_append`).

*Too few.*  The gaps that are left over stay empty, and then blanks and colons are taken off
the end.  They would be taken off a parameter too if nothing else came after it.  But however
many gaps are left over, the pieces behind the last parameter have a character that is
neither (`rest_stays`).  So all that is taken off is part of the template (`message_split`).
-/

namespace TreeScan

namespace Problem

namespace Template

/-- The text of a template with something in each gap.  Gaps are counted from 0. -/
def text (t : Template) (gap : Nat → String) : String :=
  t.head ++ String.join (t.tail.mapIdx fun i piece => gap i ++ piece)

/-- The pieces of a template, before and after the gaps. -/
def pieces (t : Template) : List String := t.head :: t.tail

/-- A template with some parameters in its first gaps, and with the others empty. -/
def filled (t : Template) (params : List String) : String := t.head ++ fill t.tail params

/-! ## Filling in -/

theorem fill_eq (tail params : List String) :
    fill tail params = String.join (tail.mapIdx fun i piece => params.getD i "" ++ piece) := by
  induction tail generalizing params with
  | nil => rfl
  | cons piece tail ih =>
      rw [List.mapIdx_cons, String.join_cons]
      cases params with
      | nil =>
          rw [fill, ih, List.getD_nil, String.empty_append]
          rfl
      | cons param params =>
          rw [fill, ih]
          rfl

theorem filled_eq (t : Template) (params : List String) :
    t.filled params = t.text fun i => params.getD i "" := by
  rw [filled, fill_eq, text]

theorem fill_append {tail params : List String} (h : tail.length ≤ params.length)
    (more : List String) : fill tail (params ++ more) = fill tail params := by
  induction tail generalizing params with
  | nil => rfl
  | cons piece tail ih =>
      cases params with
      | nil => cases h
      | cons param params =>
          rw [List.cons_append, fill, fill, ih (Nat.le_of_succ_le_succ h)]

theorem fill_nil (tail : List String) : fill tail [] = String.join tail := by
  induction tail with
  | nil => rfl
  | cons piece tail ih => rw [fill, ih, String.join_cons]

/-- With too few parameters, the pieces that are left over follow each other. -/
theorem filled_split {t : Template} {params : List String} (h : params.length ≤ t.tail.length) :
    t.filled params = String.join (List.zipWith (· ++ ·) t.pieces params) ++
      String.join (t.pieces.drop params.length) := by
  obtain ⟨head, tail⟩ := t
  induction params generalizing head tail with
  | nil =>
      rw [filled, fill_nil, List.zipWith_nil_right, String.join_nil, String.empty_append]
      exact String.join_cons.symm
  | cons param params ih =>
      cases tail with
      | nil => cases h
      | cons piece tail =>
          have hrest := ih piece tail (Nat.le_of_succ_le_succ h)
          rw [filled] at hrest ⊢
          calc head ++ fill (piece :: tail) (param :: params)
              = head ++ param ++ (piece ++ fill tail params) := by
                rw [fill]
                simp only [String.append_assoc]
            _ = head ++ param ++ (String.join (List.zipWith (· ++ ·) (piece :: tail) params) ++
                  String.join ((piece :: tail).drop params.length)) := by
                rw [hrest]
                rfl
            _ = _ := by
                rw [pieces, List.zipWith_cons_cons, String.join_cons, List.length_cons,
                  List.drop_succ_cons]
                simp only [String.append_assoc]

end Template

variable {problem : Problem} {params : List String}

/-! ## Messages -/

theorem message_of_enough (h : problem.template.tail.length ≤ params.length) :
    problem.message params = problem.template.filled params :=
  if_neg (Nat.not_lt.2 h)

theorem message_of_few (h : params.length < problem.template.tail.length) :
    problem.message params =
      String.ofList (Text.dropEndWhile dangles (problem.template.filled params).toList) :=
  if_pos h

/-- Behind the last parameter, a template with an empty gap has a character that stays. -/
theorem rest_stays {problem : Problem} {k : Nat} (h : k < problem.template.tail.length) :
    ∃ c ∈ (String.join (problem.template.pieces.drop k)).toList, dangles c = false := by
  have hany : ∀ k < problem.template.tail.length,
      (String.join (problem.template.pieces.drop k)).toList.any (!dangles ·) = true := by
    cases problem <;> decide
  obtain ⟨c, hmem, hc⟩ := List.any_eq_true.1 (hany k h)
  exact ⟨c, hmem, by simpa using hc⟩

/-- What is taken off the end of a message is taken from the pieces behind the parameters. -/
theorem message_split (h : params.length < problem.template.tail.length) :
    problem.message params =
      String.join (List.zipWith (· ++ ·) problem.template.pieces params) ++
        String.ofList (Text.dropEndWhile dangles
          (String.join (problem.template.pieces.drop params.length)).toList) := by
  rw [message_of_few h, Template.filled_split (Nat.le_of_lt h), String.toList_append,
    Text.dropEndWhile_append _ (rest_stays h), String.ofList_append,
    String.ofList_toList]

theorem dangles_iff {c : Char} : dangles c = true ↔ c = ' ' ∨ c = ':' := by
  simp [dangles]

/-- A message with too few parameters.  The parameters stand between the pieces before their
gaps, as they are.  Then comes what is left of the other pieces, of which only blanks and
colons at the end may be missing. -/
structure Template.Shortened (t : Template) (params : List String) (message : String) :
    Prop where
  keeps : ∃ kept dropped,
    message = String.join (List.zipWith (· ++ ·) t.pieces params) ++ kept ∧
      kept ++ dropped = String.join (t.pieces.drop params.length) ∧
      ∀ c ∈ dropped.toList, c = ' ' ∨ c = ':'
  /-- No blank and no colon dangles at the end. -/
  last : ∃ c, message.toList.getLast? = some c ∧ c ≠ ' ' ∧ c ≠ ':'

theorem shortened_of_few (h : params.length < problem.template.tail.length) :
    problem.template.Shortened params (problem.message params) := by
  let rest := (String.join (problem.template.pieces.drop params.length)).toList
  have hstays : ∃ c ∈ rest, dangles c = false := rest_stays h
  have hmessage := message_split h
  refine ⟨?_, ?_⟩
  · obtain ⟨dropped, hrest, hdropped⟩ := Text.exists_dropped dangles rest
    refine ⟨_, String.ofList dropped, hmessage, ?_, fun c hc => ?_⟩
    · rw [← String.ofList_append, hrest, String.ofList_toList]
    · exact dangles_iff.1 (hdropped c (by simpa using hc))
  · obtain ⟨c, hc⟩ : ∃ c, (Text.dropEndWhile dangles rest).getLast? = some c :=
      ⟨_, List.getLast?_eq_some_getLast (Text.dropEndWhile_ne_nil hstays)⟩
    refine ⟨c, ?_, ?_⟩
    · rw [hmessage, String.toList_append, String.toList_ofList, List.getLast?_append, hc]
      rfl
    · have hclean := Bool.eq_false_iff.1 (Text.getLast?_dropEndWhile hc)
      exact not_or.1 (mt dangles_iff.2 hclean)

/-- A message keeps its parameters.  With one for each gap or more it is the template with
the first parameters in the gaps, and the others are ignored.  With fewer, all parameters are
kept, the other gaps are empty, and what is taken off the end is part of the template. -/
theorem message_keeps_params (problem : Problem) (params : List String) :
    (problem.template.tail.length ≤ params.length →
      problem.message params = problem.template.text (fun i => params.getD i "") ∧
      ∀ more, problem.message (params ++ more) = problem.message params) ∧
    (params.length < problem.template.tail.length →
      problem.template.Shortened params (problem.message params)) := by
  refine ⟨fun henough => ⟨?_, fun more => ?_⟩, shortened_of_few⟩
  · rw [message_of_enough henough, Template.filled_eq]
  · have hmore : problem.template.tail.length ≤ (params ++ more).length := by
      rw [List.length_append]
      omega
    rw [message_of_enough hmore, message_of_enough henough, Template.filled, Template.filled,
      Template.fill_append henough]

/-- A parameter that looks like a gap and ends in a blank is kept, also where it is the last
one and another is missing. -/
theorem fallback_keeps_params :
    strategyFallback.template.Shortened ["\x7b\x7d: "] "falling back to \x7b\x7d:  for" ∧
      strategyFallback.message ["\x7b\x7d: ", "b:", "c"] = "falling back to \x7b\x7d:  for b:" :=
  ⟨(message_keeps_params strategyFallback ["\x7b\x7d: "]).2 (by decide),
    ((message_keeps_params strategyFallback ["\x7b\x7d: ", "b:", "c"]).1 (by decide)).1.trans
      (by decide)⟩

/-- The templates as they are written down, with a pair of braces for each gap. -/
example :
    let written (p : Problem) : String := p.template.text fun _ => "\x7b\x7d"
    written internalError = "internal transpiler error: \x7b\x7d" ∧
      written unsupportedConstruct = "unsupported construct: \x7b\x7d" ∧
      written unknownSymbol = "cannot resolve symbol '\x7b\x7d'" ∧
      written strategyFallback = "falling back to \x7b\x7d for \x7b\x7d" := by
  decide

end Problem

end TreeScan
