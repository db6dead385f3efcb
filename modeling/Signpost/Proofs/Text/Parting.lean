import Signpost.Text.Basic
import Mathlib.Data.List.Basic

/-!
# Parting texts

Ways to part a text: after a given beginning, after each of the accepted characters at its start,
and before the first place of a mark.
-/

namespace Signpost

theorem dropPrefix?_eq_some {text front rest : Text} :
    text.dropPrefix? front = some rest ↔ text = front ++ rest := by
  simp [List.dropPrefix?_eq_some_iff]

@[simp] theorem dropPrefix?_append (front rest : Text) :
    (front ++ rest).dropPrefix? front = some rest :=
  dropPrefix?_eq_some.mpr rfl

namespace Text

/-- The ways to part a text after one or more accepted characters, the earliest first. -/
def splits (accepts : Char → Bool) : Text → List (Text × Text)
  | [] => []
  | c :: rest =>
      if accepts c then ([c], rest) :: (splits accepts rest).map fun (run, left) => (c :: run, left)
      else []

/-- A split parts the text, and its first part is a non-empty run of accepted characters. -/
theorem mem_splits {accepts : Char → Bool} {text run left : Text}
    (member : (run, left) ∈ splits accepts text) :
    text = run ++ left ∧ run ≠ [] ∧ ∀ c ∈ run, accepts c := by
  induction text generalizing run left with
  | nil => simp [splits] at member
  | cons c rest ih =>
      by_cases accepted : accepts c
      · simp only [splits, accepted, ↓reduceIte, List.mem_cons, List.mem_map, Prod.mk.injEq,
          Prod.exists] at member
        rcases member with ⟨rfl, rfl⟩ | ⟨run, left, later, rfl, rfl⟩
        · simp [accepted]
        · obtain ⟨rfl, _, all⟩ := ih later
          refine ⟨rfl, List.cons_ne_nil _ _, ?_⟩
          intro d inside
          rcases List.mem_cons.mp inside with rfl | inside
          · exact accepted
          · exact all d inside
      · simp [splits, accepted] at member

/-- A run of accepted characters that another character ends is the longest one. -/
theorem takeWhile_append_of_stop {accepts : Char → Bool} {run rest : Text}
    (all : ∀ c ∈ run, accepts c) (stop : ∀ c ∈ rest.head?, accepts c = false) :
    (run ++ rest).takeWhile accepts = run ∧ (run ++ rest).dropWhile accepts = rest := by
  rw [List.takeWhile_append_of_pos all, List.dropWhile_append_of_pos all]
  cases rest with
  | nil => simp
  | cons c others => simp [stop c rfl]

theorem before_append {mark : Char} {front : Text} (free : mark ∉ front) (text : Text) :
    before mark (front ++ text) = front ++ before mark text :=
  List.takeWhile_append_of_pos fun _ inside => bne_iff_ne.mpr fun same => free (same ▸ inside)

theorem before_of_free {mark : Char} {text : Text} (free : mark ∉ text) :
    before mark text = text := by
  simpa [before] using before_append free []

theorem before_mark (mark : Char) (text rest : Text) :
    before mark (text ++ mark :: rest) = before mark text := by
  induction text with
  | nil => simp [before]
  | cons c others ih =>
      rw [before] at ih
      by_cases same : c = mark
      · simp [before, same]
      · simp [before, same, ih]

end Text

end Signpost
