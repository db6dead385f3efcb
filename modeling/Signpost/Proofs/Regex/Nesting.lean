import Signpost.Proofs.Regex.Lookahead
import Signpost.Proofs.Regex.Notation

/-!
# A fragment inside an expression

A fragment that is an expression by itself is pasted into a group of a larger expression.  The
reader of the larger expression then does what the reader of the fragment does: it decides alike at
each symbol, opens and closes the same groups, and never touches the groups around the fragment.  So
when the fragment ends, the group that it has been pasted into is the open one again
(`Reader.Nested.run`).  `Reader.Nested` relates the two readers along the way.
-/

namespace Signpost.Regex

/-- How an action moves between groups. -/
inductive Move where
  | stay
  | enter (flags : Flags)
  | leave

namespace Action

/-- How an action moves in a group with the given flags. -/
def move (present : Flags) : Action → Move
  | .enter _ flags => .enter flags
  | .enterCapture | .enterNamed _ | .enterBehind _ | .enterChoice _ => .enter present
  | .leave => .leave
  | _ => .stay

/-- The bracket expression that is open after an action. -/
def draftAfter (present : Option SetDraft) : Action → Option SetDraft
  | .goOn draft => some draft
  | .finish _ => none
  | _ => present

end Action

namespace Reader

/-- The group that is open in the first reader is still open in the second one. -/
structure Stays (reader next : Reader) : Prop where
  outer : next.outer = reader.outer
  flags : next.frame.flags = reader.frame.flags
  capture : ∀ number, reader.frame.opening = .capture number →
    next.frame.opening = .capture number

/-- The open group of the first reader has been closed in the second one. -/
def Left (reader next : Reader) : Prop :=
  ∃ parent, reader.outer = parent :: next.outer ∧ next.frame.flags = parent.flags ∧
    next.frame.opening = parent.opening

variable {reader next : Reader}

theorem refer_eq_push {number : Nat} (referred : reader.refer number = .ok next) :
    ∃ piece, next = reader.push piece := by
  obtain ⟨width, _, same⟩ := bind_eq_ok referred
  cases same
  exact ⟨_, rfl⟩

theorem stays_push (piece : Piece) : Stays reader (reader.push piece) :=
  ⟨rfl, rfl, fun _ opening => opening⟩

theorem stays_repeatLast {least : Nat} {most : Option Nat} {greed : Greed}
    (repeated : reader.repeatLast least most greed = .ok next) :
    Stays reader next ∧ next.draft = reader.draft := by
  unfold repeatLast at repeated
  split at repeated
  · cases repeated
  · split at repeated
    · cases repeated
      exact ⟨⟨rfl, rfl, fun _ opening => opening⟩, rfl⟩
    · cases repeated

theorem stays_turn (turned : reader.turn = .ok next) :
    Stays reader next ∧ next.draft = reader.draft := by
  simp only [turn] at turned
  split at turned
  case h_1 number choice =>
    cases turned
    refine ⟨⟨rfl, rfl, fun number opening => ?_⟩, rfl⟩
    rw [choice] at opening
    cases opening
  case h_2 => cases turned
  case h_3 =>
    cases turned
    exact ⟨⟨rfl, rfl, fun _ opening => opening⟩, rfl⟩

theorem left_leave (closed : reader.leave = .ok next) :
    Left reader next ∧ next.draft = reader.draft := by
  unfold leave at closed
  split at closed
  case h_1 => cases closed
  case h_2 parent outer around =>
    dsimp only at closed
    split at closed
    case h_1 => cases closed
    case h_7 number present choice =>
      cases present <;>
      · cases closed
        exact ⟨⟨parent, around, rfl, rfl⟩, rfl⟩
    all_goals
      cases closed
      exact ⟨⟨parent, around, rfl, rfl⟩, rfl⟩

theorem entered_named {name : Text} (entered : reader.enterNamed name = .ok next) :
    next.outer = reader.frame :: reader.outer ∧ next.frame.flags = reader.frame.flags ∧
      next.draft = reader.draft := by
  unfold enterNamed at entered
  split at entered
  · cases entered
    exact ⟨rfl, rfl, rfl⟩
  · cases entered

theorem entered_choice {label : Text} (entered : reader.enterChoice label = .ok next) :
    next.outer = reader.frame :: reader.outer ∧ next.frame.flags = reader.frame.flags ∧
      next.draft = reader.draft := by
  simp only [enterChoice] at entered
  split at entered
  case h_1 => cases entered
  case h_2 number found =>
    split at entered
    · cases entered
    · split at entered
      · obtain ⟨_, _, same⟩ := bind_eq_ok entered
        cases same
        exact ⟨rfl, rfl, rfl⟩
      · cases entered
        exact ⟨rfl, rfl, rfl⟩

/-- What an action does to the open groups. -/
def Moved (reader next : Reader) : Move → Prop
  | .stay => Stays reader next
  | .enter flags => next.outer = reader.frame :: reader.outer ∧ next.frame.flags = flags
  | .leave => Left reader next

/-- **An action moves as it says**, and leaves the bracket expression open that it says. -/
theorem moved_act {action : Action} (acted : reader.act action = .ok next) :
    Moved reader next (action.move reader.frame.flags) ∧
      next.draft = action.draftAfter reader.draft := by
  cases action with
  | skip => cases acted; exact ⟨⟨rfl, rfl, fun _ opening => opening⟩, rfl⟩
  | push piece => cases acted; exact ⟨stays_push piece, rfl⟩
  | rounds least most greed => exact stays_repeatLast acted
  | refer number =>
      obtain ⟨piece, rfl⟩ := refer_eq_push acted
      exact ⟨stays_push piece, rfl⟩
  | referNamed name =>
      simp only [act] at acted
      split at acted
      · cases acted
      · obtain ⟨piece, rfl⟩ := refer_eq_push acted
        exact ⟨stays_push piece, rfl⟩
  | enter opening flags => cases acted; exact ⟨⟨rfl, rfl⟩, rfl⟩
  | enterCapture => cases acted; exact ⟨⟨rfl, rfl⟩, rfl⟩
  | enterNamed name =>
      obtain ⟨outer, flags, draft⟩ := entered_named acted
      exact ⟨⟨outer, flags⟩, draft⟩
  | enterBehind negated => cases acted; exact ⟨⟨rfl, rfl⟩, rfl⟩
  | enterChoice label =>
      obtain ⟨outer, flags, draft⟩ := entered_choice acted
      exact ⟨⟨outer, flags⟩, draft⟩
  | turn => exact stays_turn acted
  | leave => exact left_leave acted
  | goOn draft => cases acted; exact ⟨⟨rfl, rfl, fun _ opening => opening⟩, rfl⟩
  | finish set => cases acted; exact ⟨⟨rfl, rfl, fun _ opening => opening⟩, rfl⟩

/-- A step in a text by itself is an action.  Where a closing bracket follows the text, any reader
with the same flags and the same bracket expression takes this action and uses as many symbols,
unless the step starts a comment that goes on to the end of the text. -/
theorem step_enclosed [Unicode.Names] {symbol : Symbol} {rest : List Symbol} {used : Nat}
    (stepped : reader.step symbol rest = .ok (next, used)) :
    (∃ action, reader.act action = .ok next ∧ used ≤ rest.length ∧
      ∀ other : Reader, other.frame.flags = reader.frame.flags → other.draft = reader.draft →
        ∀ more, other.step symbol (rest ++ .plain ')' :: more) =
          (other.act action).map (·, used)) ∨
      (reader.frame.flags.verbose = true ∧ next = reader ∧ used = rest.length) := by
  obtain ⟨action, decided, acted⟩ := step_eq_ok.mp stepped
  rcases Action.ofSymbol_within reader.frame.flags rest reader.draft symbol with within | endless
  · left
    obtain ⟨bounded, same⟩ := within.enclosed decided
    refine ⟨action, acted, bounded, fun other flags draft more => ?_⟩
    rw [step_eq_perform, flags, draft, same more]
    rfl
  · right
    obtain ⟨outside, endless⟩ := endless
    rw [outside, endless.ofSymbol] at decided
    cases decided
    cases acted
    exact ⟨endless.1, rfl, rfl⟩

end Reader

/-- The open groups of a fragment by itself, and those of an expression that it has been pasted
into, at the same place of the fragment.  The lowest group of the fragment is a numbered one in the
expression, and the groups around that one are the base. -/
inductive Above (number : Nat) (base : List Frame) : List Frame → List Frame → Prop where
  /-- No group of the fragment is open. -/
  | bottom {alone inside : Frame} (opening : inside.opening = .capture number)
      (plain : alone.flags = {}) (same : inside.flags = {}) :
      Above number base [alone] (inside :: base)
  /-- A group of the fragment is open. -/
  | group {alone inside : Frame} {others around : List Frame} (same : inside.flags = alone.flags)
      (rest : Above number base others around) :
      Above number base (alone :: others) (inside :: around)

namespace Above

variable {number : Nat} {base others around : List Frame} {alone inside : Frame}

theorem flags (above : Above number base (alone :: others) (inside :: around)) :
    inside.flags = alone.flags := by
  cases above with
  | bottom opening plain same => rw [plain, same]
  | group same rest => exact same

/-- The innermost groups may change as long as their flags do not, and a numbered group remains
one. -/
theorem replace {next changed : Frame}
    (above : Above number base (alone :: others) (inside :: around))
    (aloneFlags : next.flags = alone.flags) (insideFlags : changed.flags = inside.flags)
    (capture : inside.opening = .capture number → changed.opening = .capture number) :
    Above number base (next :: others) (changed :: around) := by
  cases above with
  | bottom opening plain same =>
      exact .bottom (capture opening) (aloneFlags.trans plain) (insideFlags.trans same)
  | group same rest => exact .group (by rw [insideFlags, same, aloneFlags]) rest

/-- A group of the fragment is closed in both. -/
theorem uncover {parent : Frame} (above : Above number base (alone :: parent :: others)
    (inside :: around)) : ∃ outer below, around = outer :: below ∧
      Above number base (parent :: others) (outer :: below) := by
  cases above with
  | group same rest =>
      cases rest with
      | bottom opening plain same => exact ⟨_, _, rfl, .bottom opening plain same⟩
      | group same rest => exact ⟨_, _, rfl, .group same rest⟩

/-- When all groups of the fragment are closed, the group that it has been pasted into is open. -/
theorem ground (above : Above number base [alone] (inside :: around)) :
    inside.opening = .capture number ∧ inside.flags = {} ∧ alone.flags = {} ∧ around = base := by
  cases above with
  | bottom opening plain same => exact ⟨opening, same, plain, rfl⟩
  | group same rest => cases rest

end Above

namespace Reader

/-- The reader of a fragment by itself, and the reader of an expression at the same place of the
fragment that has been pasted into it. -/
structure Nested (number : Nat) (base : List Frame) (alone inside : Reader) : Prop where
  draft : inside.draft = alone.draft
  groups : Above number base (alone.frame :: alone.outer) (inside.frame :: inside.outer)

namespace Nested

variable {number : Nat} {base : List Frame} {alone inside next follow : Reader}

/-- An action that is possible in both readers keeps them together. -/
theorem act {action : Action} (nested : Nested number base alone inside)
    (first : alone.act action = .ok next) (second : inside.act action = .ok follow) :
    Nested number base next follow := by
  obtain ⟨firstMoved, firstDraft⟩ := moved_act first
  obtain ⟨secondMoved, secondDraft⟩ := moved_act second
  refine ⟨by rw [firstDraft, secondDraft, nested.draft], ?_⟩
  have sameFlags := nested.groups.flags
  rw [sameFlags] at secondMoved
  cases moves : action.move alone.frame.flags with
  | stay =>
      rw [moves] at firstMoved secondMoved
      rw [firstMoved.outer, secondMoved.outer]
      exact nested.groups.replace firstMoved.flags secondMoved.flags (secondMoved.capture number)
  | enter flags =>
      rw [moves] at firstMoved secondMoved
      obtain ⟨firstOuter, firstFlags⟩ := firstMoved
      obtain ⟨secondOuter, secondFlags⟩ := secondMoved
      rw [firstOuter, secondOuter]
      exact .group (secondFlags.trans firstFlags.symm) nested.groups
  | leave =>
      rw [moves] at firstMoved secondMoved
      obtain ⟨parent, firstOuter, firstFlags, _⟩ := firstMoved
      obtain ⟨enclosing, secondOuter, secondFlags, secondOpening⟩ := secondMoved
      have groups := nested.groups
      rw [firstOuter] at groups
      obtain ⟨outer, below, around, above⟩ := groups.uncover
      obtain ⟨rfl, rfl⟩ := List.cons.inj (secondOuter.symm.trans around)
      exact above.replace firstFlags secondFlags fun opening => secondOpening.trans opening

/-- A step that is possible in both readers keeps them together and uses as many symbols, unless it
starts a comment that goes on to the end of the fragment. -/
theorem step [Unicode.Names] {symbol : Symbol} {rest more : List Symbol} {used count : Nat}
    (nested : Nested number base alone inside)
    (first : alone.step symbol rest = .ok (next, used))
    (second : inside.step symbol (rest ++ .plain ')' :: more) = .ok (follow, count)) :
    (count = used ∧ used ≤ rest.length ∧ Nested number base next follow) ∨
      (alone.frame.flags.verbose = true ∧ next = alone ∧ used = rest.length) := by
  refine (step_enclosed first).imp_left fun ⟨action, acted, bounded, same⟩ => ?_
  rw [same inside nested.groups.flags nested.draft more] at second
  obtain ⟨_, actedToo, last⟩ := map_eq_ok second
  cases last
  exact ⟨rfl, bounded, nested.act acted actedToo⟩

/-- **The reader of an expression follows the reader of a fragment** that is an expression by
itself, up to the bracket that closes the group of the fragment. -/
theorem run [Unicode.Names] {final result : Reader} {used : Nat} {symbols more : List Symbol}
    (nested : Nested number base alone inside) (bounded : used ≤ symbols.length)
    (first : alone.run used symbols = .ok final) (complete : final.outer = [])
    (second : inside.run used (symbols ++ .plain ')' :: more) = .ok result) :
    ∃ reached, reached.run 0 (.plain ')' :: more) = .ok result ∧
      Nested number base final reached := by
  induction symbols generalizing used alone inside with
  | nil =>
      obtain rfl : used = 0 := Nat.le_zero.mp bounded
      cases first
      exact ⟨inside, second, nested⟩
  | cons symbol rest ih =>
      cases used with
      | succ used => exact ih nested (Nat.le_of_succ_le_succ bounded) first second
      | zero =>
          obtain ⟨next, used, stepped, first⟩ := run_cons_eq_ok.mp first
          obtain ⟨follow, count, follows, second⟩ := run_cons_eq_ok.mp second
          rcases nested.step stepped follows with ⟨rfl, within, together⟩ | ⟨verbose, rfl, rfl⟩
          · exact ih together within first second
          · -- A comment without an end leaves a group open, since only groups can be verbose.
            obtain rfl := Except.ok.inj ((next.run_all rest).symm.trans first)
            have groups := nested.groups
            rw [complete] at groups
            rw [groups.ground.2.2.1] at verbose
            cases verbose

end Nested

end Reader

end Signpost.Regex
