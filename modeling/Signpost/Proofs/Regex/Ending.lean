import Signpost.Proofs.Regex.Nesting

/-!
# How the reading of a text ends

The group around a whole text keeps the flags that it starts with (`Reader.lowest_act`), so a
comment in it ends with its bracket, and a comment that goes on to the end of the text leaves some
other group open.  Hence the condition `\Z` at the end of a text that is read completely is read as
such: it is the last piece of the last alternative (`Reader.run_last`).
-/

namespace Signpost.Regex

namespace Reader

/-- The flags of the group around the whole text. -/
def lowest (reader : Reader) : Flags :=
  (reader.outer.map Frame.flags).getLastD reader.frame.flags

theorem lowest_of_complete {reader : Reader} (complete : reader.outer = []) :
    reader.lowest = reader.frame.flags := by
  rw [lowest, complete]
  rfl

variable {reader next final : Reader}

/-- An action does not change the flags of the group around the whole text. -/
theorem lowest_act {action : Action} (acted : reader.act action = .ok next) :
    next.lowest = reader.lowest := by
  have moved := (moved_act acted).1
  unfold lowest
  cases moves : action.move reader.frame.flags with
  | stay =>
      rw [moves] at moved
      rw [moved.outer, moved.flags]
  | enter flags =>
      rw [moves] at moved
      obtain ⟨outer, _⟩ := moved
      rw [outer, List.map_cons, List.getLastD_cons]
  | leave =>
      rw [moves] at moved
      obtain ⟨parent, outer, flags, _⟩ := moved
      rw [outer, flags, List.map_cons, List.getLastD_cons]

variable [Unicode.Names]

theorem lowest_step {symbol : Symbol} {rest : List Symbol} {used : Nat}
    (stepped : reader.step symbol rest = .ok (next, used)) : next.lowest = reader.lowest := by
  obtain ⟨action, _, acted⟩ := step_eq_ok.mp stepped
  exact lowest_act acted

/-- After a comment that uses the last symbol some group is open, as the group around the text has
no comments to the end of a line. -/
theorem open_of_verbose {rest : List Symbol} (compact : reader.lowest.verbose = false)
    (verbose : reader.frame.flags.verbose = true)
    (ran : reader.run rest.length rest = .ok final) : final.outer ≠ [] := by
  intro complete
  obtain rfl := Except.ok.inj ((reader.run_all rest).symm.trans ran)
  rw [lowest_of_complete complete, verbose] at compact
  cases compact

end Reader

end Signpost.Regex
