import Signpost.Proofs.Text.Parting
import Signpost.Regex.Reading

/-!
# Running simple expressions

What `Regex.run` does for the expressions that patterns are made of, in terms of the text after a
place: a literal text, a run of characters of a set taken possessively or lazily, a part that may be
absent, and pieces one after the other.  `Place.skip` is the place further on.
-/

namespace Signpost.Regex

/-- The place a number of characters further on. -/
def Place.skip (place : Place) (count : Nat) : Place :=
  { place with
    before := (place.after.take count).reverse ++ place.before
    after := place.after.drop count
    index := place.index + count }

namespace Place

variable (place : Place)

@[simp] theorem skip_after (count : Nat) : (place.skip count).after = place.after.drop count := rfl

@[simp] theorem skip_kept (count : Nat) : (place.skip count).kept = place.kept := rfl

@[simp] theorem skip_index (count : Nat) : (place.skip count).index = place.index + count := rfl

@[simp] theorem skip_zero : place.skip 0 = place := rfl

theorem skip_skip (first second : Nat) :
    (place.skip first).skip second = place.skip (first + second) := by
  simp only [skip, List.drop_drop, List.take_add, List.reverse_append, List.append_assoc,
    Nat.add_assoc]

theorem next?_of_nil {place : Place} (done : place.after = []) : place.next? = none := by
  simp [next?, done]

theorem next?_of_cons {place : Place} {c : Char} {rest : Text} (more : place.after = c :: rest) :
    place.next? = some (c, place.skip 1) := by
  simp [next?, skip, more]

@[simp] theorem keep_after (number : Nat) (stretch : Stretch) :
    (place.keep number stretch).after = place.after := rfl

end Place

/-- One character of a set is taken, or the match fails. -/
theorem run_chars (set : CharSet) (next : Continuation) (place : Place) :
    (Regex.chars set).run next place =
      match place.after with
      | [] => none
      | c :: _ => if set.contains c then next (place.skip 1) else none := by
  cases text : place.after with
  | nil => simp [run, Place.next?_of_nil text]
  | cons c rest => simp [run, Place.next?_of_cons text]

theorem run_alt (first second : Regex) (next : Continuation) (place : Place) :
    (Regex.alt first second).run next place =
      (first.run next place).or (second.run next place) := by
  simp only [run]
  cases first.run next place <;> rfl

theorem run_repeated (body : Regex) (least : Nat) (most : Option Nat) (greed : Greed)
    (next : Continuation) :
    (Regex.repeated body least most greed).run next =
      Matcher.repeated body.run least most greed next := rfl

/-- A part that may be absent is tried first, and then left out. -/
theorem run_optional (body : Regex) (next : Continuation) (place : Place) :
    (Regex.repeated body 0 (some 1) .greedy).run next place =
      (body.run next place).or (next place) := by
  have once (fuel : Nat) (lastStart : Option Nat) :
      Matcher.greedy body.run next fuel (some 0) lastStart = next := by
    funext later
    cases fuel <;> simp [Matcher.greedy, mayRepeat]
  rw [run_repeated]
  simp only [Matcher.repeated, Matcher.times, Matcher.greedy, mayRepeat, lower,
    Option.map_some, Nat.sub_self, once]
  cases body.run next place <;> rfl

/-- Rounds of one character go on to the end of the run of accepted characters. -/
theorem exhaust_chars (set : CharSet) (fuel : Nat) (place : Place)
    (enough : place.after.length < fuel) :
    Matcher.exhaust (Regex.chars set).run fuel none place =
      place.skip (place.after.takeWhile set.contains).length := by
  induction fuel generalizing place with
  | zero => exact absurd enough (Nat.not_lt_zero _)
  | succ fuel ih =>
      simp only [Matcher.exhaust, run_chars, reduceCtorEq, ↓reduceIte]
      cases text : place.after with
      | nil => simp
      | cons c rest =>
          by_cases accepted : set.contains c
          · have shorter : (place.skip 1).after.length < fuel := by
              simp only [text, List.length_cons] at enough
              simp only [Place.skip_after, text, List.drop_one, List.tail_cons]
              omega
            simp only [accepted, ↓reduceIte, Place.skip_index, Nat.add_eq_left, Nat.one_ne_zero,
              lower, Option.map_none]
            rw [ih (place.skip 1) shorter, Place.skip_skip]
            simp only [Place.skip_after, text, List.drop_one, List.tail_cons, List.takeWhile_cons,
              accepted, ↓reduceIte, List.length_cons]
            rw [Nat.add_comm]
          · simp [accepted]

/-- A possessive run of accepted characters is the longest one, and not empty. -/
theorem run_possessive (set : CharSet) (next : Continuation) (place : Place) :
    (Regex.repeated (.chars set) 1 none .possessive).run next place =
      if (place.after.takeWhile set.contains).isEmpty then none
      else next (place.skip (place.after.takeWhile set.contains).length) := by
  rw [run_repeated]
  simp only [Matcher.repeated, Matcher.insist, Option.map_none, run_chars]
  cases text : place.after with
  | nil => simp
  | cons c rest =>
      by_cases accepted : set.contains c
      · simp only [accepted, ↓reduceIte, Option.bind_some, List.takeWhile_cons,
          List.isEmpty_cons, Bool.false_eq_true, List.length_cons]
        rw [exhaust_chars set _ _ (Nat.lt_succ_self _), Place.skip_skip]
        simp only [Place.skip_after, text, List.drop_one, List.tail_cons]
        rw [Nat.add_comm]
      · simp [accepted]

/-- Whether nothing can go on at a place before an accepted character. -/
def RefusesAt (accepts : Char → Bool) (next : Continuation) : Prop :=
  ∀ place, ∀ c ∈ place.after.head?, accepts c = true → next place = none

/-- Greedy rounds of one character take the whole run of accepted characters, if nothing can go on
where the run does. -/
theorem greedy_chars_of_refusal {set : CharSet} {next : Continuation}
    (refuses : RefusesAt set.contains next)
    (fuel : Nat) (lastStart : Option Nat) (place : Place) (enough : place.after.length < fuel)
    (moved : lastStart ≠ some place.index) :
    Matcher.greedy (Regex.chars set).run next fuel none lastStart place =
      next (place.skip (place.after.takeWhile set.contains).length) := by
  induction fuel generalizing place lastStart with
  | zero => exact absurd enough (Nat.not_lt_zero _)
  | succ fuel ih =>
      have may : mayRepeat none lastStart place = true := by
        simpa [mayRepeat] using moved
      simp only [Matcher.greedy, may, ↓reduceIte, run_chars, lower, Option.map_none]
      cases text : place.after with
      | nil => rfl
      | cons c rest =>
          by_cases accepted : set.contains c
          · have shorter : (place.skip 1).after.length < fuel := by
              simp only [text, List.length_cons] at enough
              simp only [Place.skip_after, text, List.drop_one, List.tail_cons]
              omega
            have apart : some place.index ≠ some (place.skip 1).index := by
              simp
            simp only [accepted, ↓reduceIte]
            rw [ih (some place.index) (place.skip 1) shorter apart, Place.skip_skip,
              refuses place c (by rw [text]; rfl) accepted]
            simp only [Place.skip_after, text, List.drop_one, List.tail_cons, List.takeWhile_cons,
              accepted, ↓reduceIte, List.length_cons]
            rw [Nat.add_comm]
            cases next (place.skip ((rest.takeWhile set.contains).length + 1)) <;> rfl
          · simp [accepted]

/-- A greedy run of accepted characters, perhaps an empty one, is the longest one, if nothing can go
on where the run does. -/
theorem run_greedy_of_refusal {set : CharSet} {next : Continuation}
    (refuses : RefusesAt set.contains next) (place : Place) :
    (Regex.repeated (.chars set) 0 none .greedy).run next place =
      next (place.skip (place.after.takeWhile set.contains).length) := by
  rw [run_repeated]
  exact greedy_chars_of_refusal refuses _ none place (Nat.lt_succ_self _) (by simp)

/-- Lazy rounds of one character try the end of each run of accepted characters, the empty one
first. -/
theorem lazy_chars (set : CharSet) (next : Continuation) (fuel : Nat) (lastStart : Option Nat)
    (place : Place) (enough : place.after.length < fuel)
    (moved : lastStart ≠ some place.index) :
    Matcher.lazy (Regex.chars set).run next fuel none lastStart place =
      (next place).or ((Text.splits set.contains place.after).findSome? fun split =>
        next (place.skip split.1.length)) := by
  induction fuel generalizing place lastStart with
  | zero => exact absurd enough (Nat.not_lt_zero _)
  | succ fuel ih =>
      have may : mayRepeat none lastStart place = true := by
        simpa [mayRepeat] using moved
      simp only [Matcher.lazy, may, ↓reduceIte, run_chars, lower, Option.map_none]
      cases answer : next place with
      | some final => rfl
      | none =>
          simp only [Option.none_or]
          cases text : place.after with
          | nil => simp [Text.splits]
          | cons c rest =>
              by_cases accepted : set.contains c
              · have shorter : (place.skip 1).after.length < fuel := by
                  simp only [text, List.length_cons] at enough
                  simp only [Place.skip_after, text, List.drop_one, List.tail_cons]
                  omega
                have apart : some place.index ≠ some (place.skip 1).index := by
                  simp
                simp only [accepted, ↓reduceIte, Text.splits, List.findSome?_cons,
                  List.length_cons, List.length_nil, Nat.zero_add, List.findSome?_map]
                rw [ih (some place.index) (place.skip 1) shorter apart]
                simp only [Place.skip_after, text, List.drop_one, List.tail_cons, Place.skip_skip,
                  Function.comp_def]
                cases next (place.skip 1) with
                | some final => rfl
                | none => simp only [Option.none_or, List.length_cons, Nat.add_comm]
              · simp [accepted, Text.splits]

/-- A lazy run of accepted characters is tried with one character first, then with more. -/
theorem run_lazy (set : CharSet) (next : Continuation) (place : Place) :
    (Regex.repeated (.chars set) 1 none .lazy).run next place =
      (Text.splits set.contains place.after).findSome? fun split =>
        next (place.skip split.1.length) := by
  rw [run_repeated]
  simp only [Matcher.repeated, Matcher.times, Option.map_none, run_chars]
  cases text : place.after with
  | nil => simp [Text.splits]
  | cons c rest =>
      by_cases accepted : set.contains c
      · simp only [accepted, ↓reduceIte, Text.splits, List.findSome?_cons, List.length_cons,
          List.length_nil, Nat.zero_add, List.findSome?_map]
        rw [lazy_chars set next _ none (place.skip 1) (Nat.lt_succ_self _) (by simp)]
        simp only [Place.skip_after, text, List.drop_one, List.tail_cons, Place.skip_skip,
          Function.comp_def]
        cases next (place.skip 1) with
        | some final => rfl
        | none => simp only [Option.none_or, List.length_cons, Nat.add_comm]
      · simp [accepted, Text.splits]

/-- A piece, or one that may be absent if the mark is set. -/
def Piece.marked (mark : Bool) (piece : Piece) : Piece :=
  if mark then
    ⟨.repeated piece.regex 0 (some 1) .greedy, piece.width.times 0 (some 1), .repeated⟩
  else piece

theorem run_marked (mark : Bool) (piece : Piece) (next : Continuation) (place : Place) :
    (piece.marked mark).regex.run next place =
      (piece.regex.run next place).or (if mark then next place else none) := by
  cases mark with
  | false => simp [Piece.marked]
  | true => exact run_optional piece.regex next place

/-- The piece that stands for one character. -/
def Piece.ofChar (c : Char) : Piece :=
  .ofSet (.only c.toNat false .exact)

theorem contains_only (c d : Char) : (CharSet.only c.toNat false .exact).contains d = (c == d) := by
  have same : (c.toNat == d.toNat) = (c == d) := by
    rw [Bool.eq_iff_iff, beq_iff_eq, beq_iff_eq, Char.toNat_inj]
  simp [CharSet.contains, Letters.moves, same]

/-- Runs pieces one after the other, the first one first. -/
def runPieces (pieces : List Piece) (next : Continuation) : Continuation :=
  pieces.foldr (fun piece later => piece.regex.run later) next

@[simp] theorem runPieces_nil (next : Continuation) : runPieces [] next = next := rfl

@[simp] theorem runPieces_cons (piece : Piece) (others : List Piece) (next : Continuation) :
    runPieces (piece :: others) next = piece.regex.run (runPieces others next) := rfl

@[simp] theorem runPieces_append (first second : List Piece) (next : Continuation) :
    runPieces (first ++ second) next = runPieces first (runPieces second next) := by
  simp [runPieces]

/-- A sequence, whose list starts with the latest piece, runs its pieces from the earliest on. -/
theorem run_sequence (pieces : List Piece) (next : Continuation) :
    (sequence pieces).regex.run next = runPieces pieces.reverse next := by
  have onto (start : Piece) :
      (pieces.foldl (fun rest piece =>
        (⟨.seq piece.regex rest.regex, piece.width.plus rest.width, .free⟩ : Piece))
          start).regex.run next = runPieces pieces.reverse (start.regex.run next) := by
    induction pieces generalizing start with
    | nil => rfl
    | cons piece others ih =>
        rw [List.foldl_cons, ih, List.reverse_cons, runPieces_append]
        rfl
  exact onto .empty

/-- Literal text is found at a place, or the match fails. -/
theorem runPieces_text (text : Text) (next : Continuation) (place : Place) :
    runPieces (text.map .ofChar) next place =
      (place.after.dropPrefix? text).bind fun _ => next (place.skip text.length) := by
  induction text generalizing place with
  | nil => simp
  | cons c others ih =>
      rw [List.map_cons, runPieces_cons, Piece.ofChar, Piece.ofSet, run_chars]
      cases after : place.after with
      | nil => simp [List.dropPrefix?]
      | cons d rest =>
          simp only [contains_only, List.dropPrefix?]
          by_cases same : c = d
          · subst same
            simp only [beq_self_eq_true, ↓reduceIte]
            rw [ih]
            simp only [Place.skip_after, after, List.drop_one, List.tail_cons, Place.skip_skip,
              List.length_cons, Nat.add_comm]
          · simp [same, Ne.symm same]

end Signpost.Regex
