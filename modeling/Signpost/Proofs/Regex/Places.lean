import Signpost.Proofs.Regex.Running

/-!
# The places of a text

Matching moves a place forwards through a text, and a look ahead or behind does not move it at all.
So the continuation is only ever given places of the text that the match has started in, with the
right number of characters before them (`inside_run`).
-/

namespace Signpost.Regex

/-- The place is one of the given text. -/
structure Place.On (place : Place) (text : Text) : Prop where
  whole : place.before.reverse ++ place.after = text
  index : place.index = place.before.length

namespace Place.On

variable {place reached : Place} {text : Text}

theorem startOf (text : Text) : (Place.startOf text).On text :=
  ⟨rfl, rfl⟩

theorem next? (on : place.On text) {c : Char} (moved : place.next? = some (c, reached)) :
    reached.On text := by
  unfold Place.next? at moved
  split at moved
  · cases moved
  next d after found =>
    cases moved
    refine ⟨?_, ?_⟩
    · rw [List.reverse_cons, List.append_assoc, List.singleton_append, ← found, on.whole]
    · rw [List.length_cons, on.index]

theorem past {letters : Letters} {expected : Text} (on : place.On text)
    (moved : place.past letters expected = some reached) : reached.On text := by
  induction expected generalizing place with
  | nil =>
      cases moved
      exact on
  | cons c others ih =>
      unfold Place.past at moved
      split at moved
      · cases moved
      next d following found =>
        split at moved
        · exact ih (on.next? found) moved
        · cases moved

end Place.On

/-- A way to match that stays inside the text: what it answers is what the continuation answers at
a place of the text. -/
def Matcher.Inside (text : Text) (matcher : Matcher) : Prop :=
  ∀ ⦃next : Continuation⦄ ⦃place final : Place⦄, place.On text →
    matcher next place = some final → ∃ reached : Place, reached.On text ∧ next reached = some final

namespace Matcher.Inside

variable {text : Text} {round : Matcher} {place : Place}

/-- The preferred way to match leads to a place of the text. -/
theorem preferred (inside : Inside text round) {reached : Place} (on : place.On text)
    (matched : round some place = some reached) : reached.On text := by
  obtain ⟨found, foundOn, same⟩ := inside on matched
  cases same
  exact foundOn

theorem times (inside : Inside text round) (count : Nat) : Inside text (round.times count) := by
  intro next place final on matched
  induction count generalizing place with
  | zero => exact ⟨place, on, matched⟩
  | succ count ih =>
      obtain ⟨middle, middleOn, later⟩ := inside on matched
      exact ih middleOn later

theorem greedy (inside : Inside text round) (fuel : Nat) (limit lastStart : Option Nat) :
    Inside text fun next => round.greedy next fuel limit lastStart := by
  intro next place final on matched
  induction fuel generalizing limit lastStart place with
  | zero => exact ⟨place, on, matched⟩
  | succ fuel ih =>
      dsimp only [Matcher.greedy] at matched
      split at matched
      · split at matched
        next more =>
          cases matched
          obtain ⟨middle, middleOn, later⟩ := inside on more
          exact ih _ _ middleOn later
        next => exact ⟨place, on, matched⟩
      · exact ⟨place, on, matched⟩

theorem lazy (inside : Inside text round) (fuel : Nat) (limit lastStart : Option Nat) :
    Inside text fun next => round.lazy next fuel limit lastStart := by
  intro next place final on matched
  induction fuel generalizing limit lastStart place with
  | zero => exact ⟨place, on, matched⟩
  | succ fuel ih =>
      dsimp only [Matcher.lazy] at matched
      split at matched
      next stopped =>
        cases matched
        exact ⟨place, on, stopped⟩
      next =>
        split at matched
        · obtain ⟨middle, middleOn, later⟩ := inside on matched
          exact ih _ _ middleOn later
        · cases matched

theorem insist (inside : Inside text round) (count : Nat) {reached : Place} (on : place.On text)
    (matched : round.insist count place = some reached) : reached.On text := by
  induction count generalizing place with
  | zero =>
      cases matched
      exact on
  | succ count ih =>
      obtain ⟨middle, first, later⟩ := Option.bind_eq_some_iff.mp matched
      exact ih (inside.preferred on first) later

theorem exhaust (inside : Inside text round) (fuel : Nat) (limit : Option Nat)
    (on : place.On text) : (round.exhaust fuel limit place).On text := by
  induction fuel generalizing limit place with
  | zero => exact on
  | succ fuel ih =>
      unfold Matcher.exhaust
      split
      · exact on
      · split
        next => exact on
        next reached matched =>
          have reachedOn := inside.preferred on matched
          split
          · exact reachedOn
          · exact ih (lower limit) reachedOn

theorem repeated (inside : Inside text round) (least : Nat) (most : Option Nat) (greed : Greed) :
    Inside text (Matcher.repeated round least most greed) := by
  intro next place final on matched
  cases greed with
  | greedy =>
      obtain ⟨middle, middleOn, later⟩ := inside.times least on matched
      exact inside.greedy _ _ _ middleOn later
  | lazy =>
      obtain ⟨middle, middleOn, later⟩ := inside.times least on matched
      exact inside.lazy _ _ _ middleOn later
  | possessive =>
      obtain ⟨middle, insisted, later⟩ := Option.bind_eq_some_iff.mp matched
      exact ⟨_, inside.exhaust _ _ (inside.insist least on insisted), later⟩

end Matcher.Inside

end Signpost.Regex
