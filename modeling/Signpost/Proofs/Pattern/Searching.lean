import Signpost.Proofs.Pattern.BlockExpression

/-!
# Blocks by search

The tokens of a pattern can also be found by a search: look for the next block anywhere, take it, go
on after it, and when no block is left, look for brackets in the text between.  This gives the
tokens that scanning from the left gives, or fails at the same bracket
(`Token.scan_eq_checked_search`).
-/

namespace Signpost

namespace Token

/-- The tokens of a text whose first characters have been used already, if every block is taken that
the expression finds and everything else is literal text. -/
def search : Nat → Text → List Token
  | _, [] => []
  | used + 1, _ :: rest => search used rest
  | 0, c :: rest =>
      match BlockExpression.find? (c :: rest) with
      | some p => placeholder p :: search (p.block.length - 1) rest
      | none => prepend c (search 0 rest)

/-- The tokens of a text that starts at an offset, or the offset of the first bracket in literal
text. -/
def checked : Nat → List Token → Except Nat (List Token)
  | _, [] => .ok []
  | offset, literal text :: after =>
      match text.findIdx? (· == '[') with
      | some index => .error (offset + index)
      | none => (checked (offset + text.length) after).map (literal text :: ·)
  | offset, placeholder p :: after =>
      (checked (offset + p.block.length) after).map (placeholder p :: ·)

theorem search_used (used : Nat) (text : Text) : search used text = search 0 (text.drop used) := by
  induction used generalizing text with
  | zero => rfl
  | succ used ih =>
      cases text with
      | nil => simp [search]
      | cons c rest => rw [search, ih, List.drop_succ_cons]

theorem search_block {p : Placeholder} {rest : Text} (wellFormed : p.WellFormed)
    (ends : p.EndsBefore rest) : search 0 (p.block ++ rest) = placeholder p :: search 0 rest := by
  have start := wellFormed.atStart?_block ends
  obtain ⟨c, others, block⟩ := List.exists_cons_of_ne_nil p.block_ne_nil
  rw [block, List.cons_append] at start ⊢
  rw [search, BlockExpression.find?_eq_atStart?, start]
  dsimp only
  rw [search_used, block]
  simp

theorem search_char {c : Char} {rest : Text} (fails : Placeholder.atStart? (c :: rest) = none) :
    search 0 (c :: rest) = prepend c (search 0 rest) := by
  rw [search, BlockExpression.find?_eq_atStart?, fails]

theorem checked_prepend {c : Char} (other : c ≠ '[') (offset : Nat) (parts : List Token) :
    checked offset (prepend c parts) = (checked (offset + 1) parts).map (prepend c) := by
  match parts with
  | [] => simp [prepend, checked, other, Except.map]
  | placeholder p :: after =>
      simp only [prepend, checked, List.findIdx?_cons, beq_eq_false_iff_ne.mpr other]
      cases checked (offset + 1 + p.block.length) after <;> rfl
  | literal text :: after =>
      simp only [prepend, checked, List.findIdx?_cons, beq_eq_false_iff_ne.mpr other,
        List.length_cons, Nat.add_assoc, Nat.add_comm 1]
      cases text.findIdx? (· == '[') with
      | some index => rfl
      | none => cases checked (offset + (text.length + 1)) after <;> rfl

theorem checked_stray (offset : Nat) (parts : List Token) :
    checked offset (prepend '[' parts) = .error offset := by
  match parts with
  | [] | placeholder _ :: _ | literal _ :: _ =>
      simp [prepend, checked, List.findIdx?_cons]

/-- **Searching for blocks and then looking for brackets is scanning from the left.** -/
theorem scan_eq_checked_search (offset : Nat) (text : Text) :
    scan offset 0 text = checked offset (search 0 text) := by
  induction text using scan_induction generalizing offset with
  | nil => rfl
  | block p rest wellFormed ends ih =>
      rw [scan_block wellFormed ends, search_block wellFormed ends, checked, ih]
  | char c rest other fails ih =>
      rw [scan_char other fails, search_char fails, checked_prepend other, ih]
  | stray rest fails => rw [scan_stray fails, search_char fails, checked_stray]

end Token

end Signpost
