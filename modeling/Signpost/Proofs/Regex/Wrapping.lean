import Signpost.Proofs.Regex.Ending

/-!
# An expression inside a plain group

The text of an expression is put into a plain group, with the condition `\A` before the group and
`\Z` after it.  Every action of the reader of the text by itself is possible inside the group too and
has the same effect on everything but the groups around (`Reader.Enclosed.act`), so the whole is read
whenever the text is, and denotes the expression of the text between the two conditions
(`read_wrapped`).
-/

namespace Signpost.Regex

/-- What the open group will be and which groups are around it, for a text by itself and for the text
inside a plain group that the base is around. -/
inductive Around (base : List Frame) :
    Opening → List Frame → Opening → List Frame → Prop where
  /-- No group of the text is open. -/
  | ground : Around base .whole [] .plain base
  /-- A group of the text is open. -/
  | deeper {parent : Frame} {others around : List Frame} {enclosing : Opening} (opening : Opening)
      (rest : Around base parent.opening others enclosing around) :
      Around base opening (parent :: others) opening ({ parent with opening := enclosing } :: around)

theorem Around.invert {base outer around : List Frame} {opening kind : Opening}
    (groups : Around base opening outer kind around) :
    (opening = .whole ∧ outer = [] ∧ kind = .plain ∧ around = base) ∨
      (kind = opening ∧ ∃ parent others enclosing below, outer = parent :: others ∧
        around = { parent with opening := enclosing } :: below ∧
        Around base parent.opening others enclosing below) := by
  cases groups with
  | ground => exact .inl ⟨rfl, rfl, rfl, rfl⟩
  | deeper opening rest => exact .inr ⟨rfl, _, _, _, _, rfl, rfl, rest⟩

namespace Reader

/-- The reader with the open group in another place. -/
def seat (reader : Reader) (opening : Opening) (outer : List Frame) : Reader :=
  { reader with frame := { reader.frame with opening := opening }, outer := outer }

section Seat

variable (reader : Reader) (opening : Opening) (outer : List Frame)

theorem repeatLast_seat (least : Nat) (most : Option Nat) (greed : Greed) :
    (reader.seat opening outer).repeatLast least most greed =
      (reader.repeatLast least most greed).map (·.seat opening outer) := by
  simp only [repeatLast, seat]
  split
  · rfl
  · split <;> rfl

theorem opening_repeatLast {reader next : Reader} {least : Nat} {most : Option Nat} {greed : Greed}
    (repeated : reader.repeatLast least most greed = .ok next) :
    next.frame.opening = reader.frame.opening := by
  unfold repeatLast at repeated
  split at repeated
  · cases repeated
  · split at repeated
    · cases repeated
      rfl
    · cases repeated

theorem refer_seat (number : Nat) :
    (reader.seat opening outer).refer number =
      (reader.refer number).map (·.seat opening outer) := by
  have same : (reader.seat opening outer).referenceWidth number = reader.referenceWidth number :=
    rfl
  simp only [refer, same]
  cases reader.referenceWidth number <;> rfl

/-- The reader with other groups around the open one, and another kind for the nearest. -/
def under (next : Reader) : Reader :=
  { next with outer := { reader.frame with opening := opening } :: outer }

theorem enterNamed_seat (name : Text) :
    (reader.seat opening outer).enterNamed name =
      (reader.enterNamed name).map (reader.under opening outer) := by
  unfold enterNamed
  split
  next accepted =>
    have names : (reader.seat opening outer).names = reader.names := rfl
    rw [names] at accepted
    rw [if_pos accepted]
    rfl
  next refused =>
    have names : (reader.seat opening outer).names = reader.names := rfl
    rw [names] at refused
    rw [if_neg refused]
    rfl

theorem enterChoice_seat (label : Text) :
    (reader.seat opening outer).enterChoice label =
      (reader.enterChoice label).map (reader.under opening outer) := by
  have same (number : Nat) :
      (reader.seat opening outer).referenceWidth number = reader.referenceWidth number := rfl
  have names : (reader.seat opening outer).names = reader.names := rfl
  have horizon : (reader.seat opening outer).frame.horizon = reader.frame.horizon := rfl
  simp only [enterChoice, same, names, horizon]
  split
  · rfl
  · split
    · rfl
    · split
      · cases reader.referenceWidth _ <;> rfl
      · rfl

/-- A bar does to a group the same wherever the group is. -/
theorem turn_outer : (reader.seat reader.frame.opening outer).turn =
    reader.turn.map fun next => next.seat next.frame.opening outer := by
  simp only [turn, seat]
  split <;> rfl

end Seat

/-- The reader of a text by itself, and the reader of the text inside a plain group, which differ in
the groups around. -/
def Enclosed (base : List Frame) (alone inside : Reader) : Prop :=
  ∃ opening outer, inside = alone.seat opening outer ∧
    Around base alone.frame.opening alone.outer opening outer

namespace Enclosed

variable {base : List Frame} {alone inside next final : Reader}

theorem draft (enclosed : Enclosed base alone inside) : inside.draft = alone.draft := by
  obtain ⟨opening, outer, rfl, _⟩ := enclosed
  rfl

theorem flags (enclosed : Enclosed base alone inside) :
    inside.frame.flags = alone.frame.flags := by
  obtain ⟨opening, outer, rfl, _⟩ := enclosed
  rfl

/-- A bar is read in both. -/
theorem turn (enclosed : Enclosed base alone inside) (turned : alone.turn = .ok next) :
    ∃ follow, inside.turn = .ok follow ∧ Enclosed base next follow := by
  obtain ⟨opening, outer, rfl, groups⟩ := enclosed
  have stays := (stays_turn turned).1
  rcases groups.invert with ⟨whole, complete, rfl, rfl⟩ |
    ⟨rfl, parent, others, enclosing, below, complete, rfl, rest⟩
  · -- Neither the whole nor a plain group is a choice, so both get one more alternative.
    simp only [Reader.turn, whole] at turned
    cases turned
    refine ⟨_, rfl, .plain, outer, rfl, ?_⟩
    rw [complete]
    exact .ground
  · refine ⟨_, ?_, next.frame.opening, { parent with opening := enclosing } :: below, rfl, ?_⟩
    · rw [turn_outer, turned]
      rfl
    · rw [stays.outer, complete]
      exact .deeper _ rest

/-- A closing bracket is read in both.  It cannot close the group around the text. -/
theorem leave (enclosed : Enclosed base alone inside) (closed : alone.leave = .ok next) :
    ∃ follow, inside.leave = .ok follow ∧ Enclosed base next follow := by
  obtain ⟨opening, outer, rfl, groups⟩ := enclosed
  rcases groups.invert with ⟨_, complete, _, _⟩ |
    ⟨rfl, parent, others, enclosing, below, complete, rfl, rest⟩
  · unfold Reader.leave at closed
    rw [complete] at closed
    cases closed
  · unfold Reader.leave at closed ⊢
    rw [complete] at closed
    dsimp only [seat] at closed ⊢
    split at closed
    case h_1 => cases closed
    case h_7 number present choice =>
      cases present <;>
      · cases closed
        exact ⟨_, rfl, enclosing, below, rfl, rest⟩
    all_goals
      cases closed
      exact ⟨_, rfl, enclosing, below, rfl, rest⟩

/-- **An action that is possible in a text by itself is possible inside the group.** -/
theorem act {action : Action} (enclosed : Enclosed base alone inside)
    (acted : alone.act action = .ok next) :
    ∃ follow, inside.act action = .ok follow ∧ Enclosed base next follow := by
  have ⟨opening, outer, seated, groups⟩ := enclosed
  have stays (same : next.frame.opening = alone.frame.opening) (around : next.outer = alone.outer) :
      Enclosed base next (next.seat opening outer) :=
    ⟨opening, outer, rfl, by rwa [same, around]⟩
  have enters (around : next.outer = alone.frame :: alone.outer) :
      Enclosed base next (alone.under opening outer next) :=
    ⟨next.frame.opening, _, rfl, by rw [around]; exact .deeper _ groups⟩
  subst seated
  have referred {number : Nat} (done : alone.refer number = .ok next) :
      ∃ follow, (alone.seat opening outer).refer number = .ok follow ∧
        Enclosed base next follow := by
    rw [refer_seat, done]
    obtain ⟨piece, rfl⟩ := refer_eq_push done
    exact ⟨_, rfl, stays rfl rfl⟩
  cases action with
  | skip | push piece | goOn draft | finish set =>
      cases acted
      exact ⟨_, rfl, stays rfl rfl⟩
  | rounds least most greed =>
      refine ⟨next.seat opening outer, ?_,
        stays (opening_repeatLast acted) (stays_repeatLast acted).1.outer⟩
      simp only [Reader.act] at acted ⊢
      rw [repeatLast_seat, acted]
      rfl
  | refer number => exact referred acted
  | referNamed name =>
      have names : (alone.seat opening outer).names = alone.names := rfl
      simp only [Reader.act, names] at acted ⊢
      split at acted
      next => cases acted
      next number found => exact referred acted
  | enter kind flags | enterBehind negated | enterCapture =>
      cases acted
      exact ⟨_, rfl, enters rfl⟩
  | enterNamed name =>
      refine ⟨_, ?_, enters (entered_named acted).1⟩
      simp only [Reader.act] at acted ⊢
      rw [enterNamed_seat, acted]
      rfl
  | enterChoice label =>
      refine ⟨_, ?_, enters (entered_choice acted).1⟩
      simp only [Reader.act] at acted ⊢
      rw [enterChoice_seat, acted]
      rfl
  | turn => exact enclosed.turn acted
  | leave => exact enclosed.leave acted

/-- **The reader inside the group follows the reader of the text** up to the bracket that closes the
group. -/
theorem run [Unicode.Names] {symbols : List Symbol} {used : Nat}
    (enclosed : Enclosed base alone inside) (compact : alone.lowest.verbose = false)
    (bounded : used ≤ symbols.length) (ran : alone.run used symbols = .ok final)
    (complete : final.outer = []) (more : List Symbol) :
    ∃ reached, inside.run used (symbols ++ .plain ')' :: more) =
      reached.run 0 (.plain ')' :: more) ∧ Enclosed base final reached := by
  induction symbols generalizing used alone inside with
  | nil =>
      obtain rfl : used = 0 := Nat.le_zero.mp bounded
      cases ran
      exact ⟨inside, rfl, enclosed⟩
  | cons symbol rest ih =>
      cases used with
      | succ used => exact ih enclosed compact (Nat.le_of_succ_le_succ bounded) ran
      | zero =>
          obtain ⟨next, used, stepped, ran⟩ := run_cons_eq_ok.mp ran
          rcases step_enclosed stepped with ⟨action, acted, within, same⟩ | ⟨verbose, rfl, rfl⟩
          · obtain ⟨follow, actedToo, together⟩ := enclosed.act acted
            have followed := same inside enclosed.flags enclosed.draft more
            rw [actedToo] at followed
            rw [← lowest_step stepped] at compact
            obtain ⟨reached, later, below⟩ := ih together compact within ran
            refine ⟨reached, ?_, below⟩
            rw [List.cons_append, Reader.run, followed]
            exact later
          · exact absurd complete (open_of_verbose compact verbose ran)

/-- Where no group of the text is open, the plain group is the open one. -/
theorem ground (enclosed : Enclosed base final inside) (complete : final.outer = []) :
    inside = final.seat .plain base := by
  obtain ⟨opening, outer, rfl, groups⟩ := enclosed
  rcases groups.invert with ⟨_, _, rfl, rfl⟩ | ⟨_, parent, others, _, _, open', _⟩
  · rfl
  · rw [complete] at open'
    cases open'

end Enclosed

end Reader

/-- The expression between the start and the end of a text. -/
def Expression.wrapped (expression : Expression) : Expression :=
  ⟨.seq (.anchor .start) (.seq expression.regex (.seq (.anchor .finish) .empty)),
    expression.names⟩

/-- **An expression in a plain group between `\A` and `\Z`** is read whenever the expression is,
and the groups keep their names and numbers. -/
theorem read_wrapped [Unicode.Names] {text : Text} {expression : Expression}
    (read : Regex.read text = .ok expression) :
    Regex.read ("\\A(?:".toList ++ text ++ ")\\Z".toList) = .ok expression.wrapped := by
  obtain ⟨symbols, final, split, ran, complete, rfl⟩ := read_eq_ok.mp read
  let anchored : Reader := Reader.start.push (.ofAnchor .start)
  have front : Symbol.ofText "\\A(?:".toList =
      some [.escaped 'A', .plain '(', .plain '?', .plain ':'] := rfl
  have back : Symbol.ofText ")\\Z".toList = some [.plain ')', .escaped 'Z'] := rfl
  have whole := Symbol.ofText_concat (Symbol.ofText_concat front split) back
  have around : Reader.Enclosed [anchored.frame] .start (anchored.enterAlike .plain) :=
    ⟨.plain, [anchored.frame], rfl, .ground⟩
  obtain ⟨reached, through, below⟩ :=
    around.run rfl (Nat.zero_le _) ran complete.outer [.escaped 'Z']
  obtain rfl := below.ground complete.outer
  have started : Reader.start.run 0 ([.escaped 'A', .plain '(', .plain '?', .plain ':'] ++ symbols ++
      [.plain ')', .escaped 'Z']) =
        (anchored.enterAlike .plain).run 0 (symbols ++ [.plain ')', .escaped 'Z']) := by
    rw [List.append_assoc]
    exact (Reader.run_step_alone rfl).trans (anchored.run_enterAlike rfl rfl _)
  have closed := (final.seat .plain [anchored.frame]).run_leavePlain complete.draft rfl rfl
    [.escaped 'Z']
  let parent : Reader := { final with
    frame := anchored.frame.push { final.frame.body with bond := .free }
    outer := [] }
  have last : parent.run 0 [.escaped 'Z'] = .ok (parent.push (.ofAnchor .finish)) := by
    have outside : parent.draft = none := complete.draft
    apply Reader.run_step_alone
    simp [Reader.step, outside, Reader.outside, Reader.escaped, Reader.anchorOf]
  refine read_eq_ok.mpr ⟨_, parent.push (.ofAnchor .finish), whole, ?_, ?_, rfl⟩
  · exact started.trans (through.trans (closed.trans last))
  · exact ⟨complete.draft, rfl, complete.steady, complete.present⟩


end Signpost.Regex
