import Signpost.Regex.Basic

/-!
# Matching by backtracking

`Regex.run` tries the ways in which an expression matches at a place, in order of preference, and
hands each one to a continuation until the continuation succeeds.  It recurses on the expression
alone; the rounds of a repetition are counted down from the length of the text that is left, which
bounds them because a round that follows another one starts further on.
-/

namespace Signpost.Regex

/-- A stretch of a text. -/
structure Stretch where
  /-- Everything from its first character on. -/
  onward : Text
  /-- The number of its characters. -/
  length : Nat
  deriving DecidableEq, Repr

/-- The characters of a stretch. -/
def Stretch.text (stretch : Stretch) : Text :=
  stretch.onward.take stretch.length

/-- A place in a text, and what the groups have kept so far, the latest first. -/
structure Place where
  /-- The characters before the place, nearest first. -/
  before : Text
  /-- The characters after the place. -/
  after : Text
  /-- The number of characters before the place, by which places of one text are told apart. -/
  index : Nat
  /-- The kept stretches with their group numbers. -/
  kept : List (Nat × Stretch)
  deriving DecidableEq, Repr

/-- The start of a text. -/
def Place.startOf (text : Text) : Place :=
  ⟨[], text, 0, []⟩

/-- The next character, with the place after it. -/
def Place.next? (place : Place) : Option (Char × Place) :=
  match place.after with
  | [] => none
  | c :: after =>
      some (c,
        { place with before := c :: place.before, after := after, index := place.index + 1 })

/-- The text that a group has kept. -/
def Place.keptBy (place : Place) (number : Nat) : Option Text :=
  (place.kept.lookup number).map Stretch.text

/-- Whether a group has kept a text. -/
def Place.hasKept (place : Place) (number : Nat) : Bool :=
  (place.kept.lookup number).isSome

/-- The stretch from one place to a later one. -/
def Place.stretchTo (start finish : Place) : Stretch :=
  ⟨start.after, finish.index - start.index⟩

/-- The place with a stretch kept for a group. -/
def Place.keep (place : Place) (number : Nat) (stretch : Stretch) : Place :=
  { place with kept := (number, stretch) :: place.kept }

/-- The place that lies a number of characters back. -/
def Place.back : Nat → Place → Option Place
  | 0, place => some place
  | steps + 1, place =>
      match place.before with
      | [] => none
      | c :: before =>
          Place.back steps
            { place with before := before, after := c :: place.after, index := place.index - 1 }

/-- The place after a given text, if the text is found. -/
def Place.past (letters : Letters) : Text → Place → Option Place
  | [], place => some place
  | expected :: others, place =>
      match place.next? with
      | none => none
      | some (c, following) =>
          if letters.fold c.toNat = letters.fold expected.toNat then
            Place.past letters others following
          else none

/-- Whether the character at the head of a text belongs to a word. -/
def startsInWord (ascii : Bool) : Text → Bool
  | [] => false
  | c :: _ => Family.word.contains ascii c.toNat

/-- Whether a place meets a condition. -/
def Anchor.holds (place : Place) : Anchor → Bool
  | start => place.before.isEmpty
  | finish => place.after.isEmpty
  | lastLine => place.after.isEmpty || place.after == ['\n']
  | lineStart => place.before.isEmpty || place.before.head? == some '\n'
  | lineEnd => place.after.isEmpty || place.after.head? == some '\n'
  | border ascii => startsInWord ascii place.before != startsInWord ascii place.after
  | inside ascii =>
      !(place.before.isEmpty && place.after.isEmpty) &&
        startsInWord ascii place.before == startsInWord ascii place.after

/-- What is still to be matched: it answers with the final place, if there is one. -/
abbrev Continuation := Place → Option Place

/-- A way to match: the continuation is given each place that can be reached, until it succeeds. -/
abbrev Matcher := Continuation → Place → Option Place

/-- A fixed number of rounds. -/
def Matcher.times (round : Matcher) : Nat → Matcher
  | 0, next => next
  | count + 1, next => round (round.times count next)

/-- Whether another round is allowed: the limit is not reached, and the last round, if there was
one, did not start here. -/
def mayRepeat (limit : Option Nat) (lastStart : Option Nat) (place : Place) : Bool :=
  limit != some 0 && lastStart != some place.index

/-- The limit after one more round. -/
def lower (limit : Option Nat) : Option Nat :=
  limit.map (· - 1)

/-- As many rounds as possible, then fewer. -/
def Matcher.greedy (round : Matcher) (next : Continuation) :
    Nat → Option Nat → Option Nat → Place → Option Place
  | 0, _, _, place => next place
  | fuel + 1, limit, lastStart, place =>
      if mayRepeat limit lastStart place then
        match round (round.greedy next fuel (lower limit) (some place.index)) place with
        | some final => some final
        | none => next place
      else next place

/-- As few rounds as possible, then more. -/
def Matcher.lazy (round : Matcher) (next : Continuation) :
    Nat → Option Nat → Option Nat → Place → Option Place
  | 0, _, _, place => next place
  | fuel + 1, limit, lastStart, place =>
      match next place with
      | some final => some final
      | none =>
          if mayRepeat limit lastStart place then
            round (round.lazy next fuel (lower limit) (some place.index)) place
          else none

/-- The place after as many rounds as can be had, each in its preferred way.  A round that does not
move is the last one. -/
def Matcher.exhaust (round : Matcher) : Nat → Option Nat → Place → Place
  | 0, _, place => place
  | fuel + 1, limit, place =>
      if limit = some 0 then place
      else match round some place with
        | none => place
        | some reached =>
            if reached.index = place.index then reached
            else round.exhaust fuel (lower limit) reached

/-- A fixed number of rounds, each in its preferred way. -/
def Matcher.insist (round : Matcher) : Nat → Place → Option Place
  | 0, place => some place
  | count + 1, place => (round some place).bind (round.insist count)

/-- A repetition: first the rounds that are required, then the others as the greed says. -/
def Matcher.repeated (round : Matcher) (least : Nat) (most : Option Nat) : Greed → Matcher
  | .greedy, next =>
      round.times least fun place =>
        round.greedy next (place.after.length + 1) (most.map (· - least)) none place
  | .lazy, next =>
      round.times least fun place =>
        round.lazy next (place.after.length + 1) (most.map (· - least)) none place
  | .possessive, next => fun start =>
      (round.insist least start).bind fun place =>
        next (round.exhaust (place.after.length + 1) (most.map (· - least)) place)

/-- The ways in which an expression matches at a place, tried in order of preference. -/
def run : Regex → Matcher
  | .empty, next => next
  | .chars set, next => fun place =>
      match place.next? with
      | none => none
      | some (c, following) => if set.contains c then next following else none
  | .anchor condition, next => fun place =>
      if condition.holds place then next place else none
  | .seq first second, next => first.run (second.run next)
  | .alt first second, next => fun place =>
      match first.run next place with
      | some final => some final
      | none => second.run next place
  | .repeated body least most greed, next => Matcher.repeated body.run least most greed next
  | .capture number body, next => fun start =>
      body.run (fun place => next (place.keep number (start.stretchTo place))) start
  | .atomic body, next => fun place => (body.run some place).bind next
  | .ahead negated body, next => fun place =>
      match body.run some place, negated with
      | some found, false => next { place with kept := found.kept }
      | none, true => next place
      | _, _ => none
  | .behind negated width body, next => fun place =>
      match (place.back width).bind (body.run some), negated with
      | some found, false => next { place with kept := found.kept }
      | none, true => next place
      | _, _ => none
  | .reference number letters, next => fun place =>
      ((place.keptBy number).bind fun text => place.past letters text).bind next
  | .choice number present absent, next => fun place =>
      if place.hasKept number then present.run next place else absent.run next place

/-- The texts that the groups have kept after the preferred match at the start of a text.  The
match need not reach the end: an expression that must says so by an anchor. -/
def firstMatch (regex : Regex) (text : Text) : Option Place :=
  regex.run some (Place.startOf text)

end Signpost.Regex
