import Signpost.Regex.Match
import Signpost.Regex.Escape
import Signpost.Decimal.Numeral
import Signpost.Unicode.Identifier

/-!
# Reading the expression notation

A `Reader` holds what has been read of an expression: the group that is open, with the groups
around it, and what is known of the numbered groups.  `Reader.step` takes one symbol, may look at
the symbols after it, and says how many of those it has used as well; `Reader.run` recurses on the
list of symbols and skips the used ones.  So what a piece of text does to a reader depends on the
open group and on the numbered groups alone, and a text is read piece by piece.

`Regex.read` is the whole: an expression with the names of its groups, or the reason why the text
is none.  Groups may stand in each other as deep as a text makes them.
-/

namespace Signpost

namespace Regex

/-- The numbers of characters that an expression can match: at least so many, and at most so many
if there is a bound. -/
structure Width where
  least : Nat
  most : Option Nat
  deriving DecidableEq, Repr

namespace Width

/-- A fixed number of characters. -/
def exactly (n : Nat) : Width := ⟨n, some n⟩

/-- One after the other. -/
def plus (a b : Width) : Width :=
  ⟨a.least + b.least, do return (← a.most) + (← b.most)⟩

/-- One or the other. -/
def either (a b : Width) : Width :=
  ⟨min a.least b.least, do return max (← a.most) (← b.most)⟩

/-- Several times over. -/
def times (a : Width) (least : Nat) (most : Option Nat) : Width :=
  ⟨a.least * least,
    if a.most = some 0 || most = some 0 then some 0 else do return (← a.most) * (← most)⟩

/-- The number of characters, if only one is possible and it can be counted back. -/
def fixed (a : Width) : Option Nat :=
  if a.most = some a.least && a.least ≤ 0xFFFFFFFF then some a.least else none

end Width

/-- Switches that change the meaning of symbols inside a group. -/
structure Flags where
  /-- Letters are compared without regard to case. -/
  ignoreCase : Bool := false
  /-- Families and letter case know ASCII only. -/
  ascii : Bool := false
  /-- Lines have starts and ends. -/
  multiline : Bool := false
  /-- A line feed is any character. -/
  dotAll : Bool := false
  /-- Blanks and comments are skipped. -/
  verbose : Bool := false
  deriving DecidableEq, Repr

/-- How letters are compared under the flags. -/
def Flags.letters (flags : Flags) : Letters :=
  if flags.ignoreCase then if flags.ascii then .ascii else .unicode else .exact

/-- What may follow a piece. -/
inductive Bond where
  /-- A number of rounds may follow. -/
  | free
  /-- A condition on a place cannot be repeated. -/
  | anchor
  /-- A repetition cannot be repeated without a group around it. -/
  | repeated
  deriving DecidableEq, Repr

/-- An expression that has been read. -/
structure Piece where
  regex : Regex
  /-- The numbers of characters that it can match. -/
  width : Width
  /-- What may follow it. -/
  bond : Bond
  deriving DecidableEq, Repr

/-- The empty piece. -/
def Piece.empty : Piece := ⟨.empty, .exactly 0, .free⟩

/-- One character of a set. -/
def Piece.ofSet (set : CharSet) : Piece := ⟨.chars set, .exactly 1, .free⟩

/-- A condition on a place. -/
def Piece.ofAnchor (condition : Anchor) : Piece := ⟨.anchor condition, .exactly 0, .anchor⟩

/-- Pieces one after the other.  The list starts with the latest. -/
def sequence (pieces : List Piece) : Piece :=
  pieces.foldl
    (fun rest piece => ⟨.seq piece.regex rest.regex, piece.width.plus rest.width, .free⟩) .empty

/-- Pieces as alternatives: the list of the earlier ones, starting with the latest, and the last
one. -/
def alternatives (earlier : List Piece) (last : Piece) : Piece :=
  earlier.foldl
    (fun rest piece => ⟨.alt piece.regex rest.regex, piece.width.either rest.width, .free⟩) last

/-- What an open group will be once it is closed. -/
inductive Opening where
  | whole
  /-- A group that keeps its text under a number. -/
  | capture (number : Nat)
  /-- A group that only holds its parts together. -/
  | plain
  /-- A group that is matched in its preferred way only. -/
  | atomic
  | ahead (negated : Bool)
  | behind (negated : Bool)
  /-- A choice by whether a group has kept a text, with the first branch once it is complete. -/
  | choice (number : Nat) (present : Option Piece)
  deriving DecidableEq, Repr

/-- An open group. -/
structure Frame where
  /-- What the group will be. -/
  opening : Opening
  flags : Flags
  /-- Inside a look behind: the number that the first group of the outermost one has or would
  have.  Only groups before it can be referred to. -/
  horizon : Option Nat
  /-- The complete alternatives, the latest first. -/
  earlier : List Piece := []
  /-- The pieces of the current alternative, the latest first. -/
  pieces : List Piece := []
  deriving DecidableEq, Repr

/-- The frame with one more piece. -/
def Frame.push (frame : Frame) (piece : Piece) : Frame :=
  { frame with pieces := piece :: frame.pieces }

/-- Everything between the brackets of a group. -/
def Frame.body (frame : Frame) : Piece :=
  alternatives frame.earlier (sequence frame.pieces)

/-- A bracket expression that is being read. -/
structure SetDraft where
  /-- Whether everything outside it is meant. -/
  negated : Bool
  /-- The members so far, the latest first. -/
  items : List Member := []
  deriving DecidableEq, Repr

/-- A bracket expression with a single code is a set of its own kind. -/
def SetDraft.finish (draft : SetDraft) (letters : Letters) : CharSet :=
  match draft.items with
  | .one code :: others =>
      if others.all (· == .one code) then .only code draft.negated letters
      else .members draft.items.reverse draft.negated letters
  | items => .members items.reverse draft.negated letters

/-- What has been read of an expression. -/
structure Reader where
  /-- The innermost open group. -/
  frame : Frame
  /-- The groups around it, the nearest first. -/
  outer : List Frame := []
  /-- For each numbered group its width, or nothing while it is open. -/
  widths : List (Option Width) := []
  /-- The names of groups with their numbers, in the order of the groups. -/
  names : List (Text × Nat) := []
  /-- The greatest number by which a choice refers to a group. -/
  farthest : Nat := 0
  /-- Whether a look behind has been read whose width is not fixed. -/
  wavering : Bool := false
  /-- The bracket expression that is open, if there is one. -/
  draft : Option SetDraft := none
  deriving DecidableEq, Repr

/-- A step of reading: the new state and the number of further symbols that it has used. -/
abbrev Reading := Except Flaw (Reader × Nat)

namespace Reader

/-- The reader of a fresh expression. -/
def start : Reader :=
  { frame := { opening := .whole, flags := {}, horizon := none } }

/-- The number that the next group gets. -/
def nextNumber (reader : Reader) : Nat :=
  reader.widths.length + 1

/-- The reader with one more piece in the open group. -/
def push (reader : Reader) (piece : Piece) : Reader :=
  { reader with frame := reader.frame.push piece }

/-- The reader with one more literal character in the open group. -/
def pushCode (reader : Reader) (code : Nat) : Reader :=
  reader.push (.ofSet (.only code false reader.frame.flags.letters))

/-- The width of a group that can be referred to: it is closed, and lies before the look behind if
the place is inside one. -/
def referenceWidth (reader : Reader) (number : Nat) : Except Flaw Width :=
  match reader.widths[number - 1]? with
  | some (some width) =>
      match reader.frame.horizon with
      | some first => if number < first then .ok width else .error .malformed
      | none => .ok width
  | _ => .error .malformed

/-- The reader with a reference to a group. -/
def refer (reader : Reader) (number : Nat) : Except Flaw Reader := do
  let width ← reader.referenceWidth number
  return reader.push ⟨.reference number reader.frame.flags.letters, width, .free⟩

/-- The reader with a new group open inside the present one. -/
def enter (reader : Reader) (opening : Opening) (flags : Flags) (horizon : Option Nat) : Reader :=
  { reader with
    frame := { opening := opening, flags := flags, horizon := horizon }
    outer := reader.frame :: reader.outer }

/-- The reader with a new group open that keeps the flags. -/
def enterAlike (reader : Reader) (opening : Opening) : Reader :=
  reader.enter opening reader.frame.flags reader.frame.horizon

/-- The reader with a new numbered group open. -/
def enterCapture (reader : Reader) : Reader :=
  { reader.enterAlike (.capture reader.nextNumber) with widths := reader.widths ++ [none] }

/-- The reader with a new named group open.  A name is given once. -/
def enterNamed (reader : Reader) (name : Text) : Except Flaw Reader :=
  if Unicode.isIdentifier name && (reader.names.lookup name).isNone then
    .ok { reader.enterCapture with names := reader.names ++ [(name, reader.nextNumber)] }
  else .error .malformed

/-- The reader with a look behind open. -/
def enterBehind (reader : Reader) (negated : Bool) : Reader :=
  reader.enter (.behind negated) reader.frame.flags
    (some (reader.frame.horizon.getD reader.nextNumber))

/-- The greatest number of groups. -/
def mostGroups : Nat := 0x3FFFFFFF

/-- The reader with a choice open.  A name must be known; a number is checked at the end. -/
def enterChoice (reader : Reader) (label : Text) : Except Flaw Reader := do
  let named := Unicode.isIdentifier label
  let found := if named then reader.names.lookup label else Decimal.wholeNumber? label
  match found with
  | none => .error .malformed
  | some number =>
      if number = 0 || number ≥ mostGroups then .error .malformed
      else
        if reader.frame.horizon.isSome then
          let _ ← reader.referenceWidth number
        return { reader.enterAlike (.choice number none) with
          farthest := if named then reader.farthest else max reader.farthest number }

/-- The reader after a bar between alternatives. -/
def turn (reader : Reader) : Except Flaw Reader :=
  let frame := reader.frame
  let complete := sequence frame.pieces
  match frame.opening with
  | .choice number none =>
      .ok { reader with
        frame := { frame with opening := .choice number (some complete), pieces := [] } }
  | .choice _ (some _) => .error .malformed
  | _ =>
      .ok { reader with
        frame := { frame with earlier := complete :: frame.earlier, pieces := [] } }

/-- The reader after the bracket that closes the open group. -/
def leave (reader : Reader) : Except Flaw Reader :=
  match reader.outer with
  | [] => .error .malformed
  | parent :: outer =>
      let frame := reader.frame
      let body := frame.body
      let back : Reader := { reader with frame := parent, outer := outer }
      match frame.opening with
      | .whole => .error .malformed
      | .capture number =>
          .ok { back.push ⟨.capture number body.regex, body.width, .free⟩ with
            widths := reader.widths.set (number - 1) (some body.width) }
      | .plain => .ok (back.push { body with bond := .free })
      | .atomic => .ok (back.push ⟨.atomic body.regex, body.width, .free⟩)
      | .ahead negated => .ok (back.push ⟨.ahead negated body.regex, .exactly 0, .free⟩)
      | .behind negated =>
          let piece : Piece :=
            ⟨.behind negated (body.width.fixed.getD 0) body.regex, .exactly 0, .free⟩
          .ok { back.push piece with wavering := reader.wavering || body.width.fixed.isNone }
      | .choice number present =>
          let last := sequence frame.pieces
          let (first, second) := match present with
            | none => (last, Piece.empty)
            | some complete => (complete, last)
          .ok (back.push
            ⟨.choice number first.regex second.regex, first.width.either second.width, .free⟩)

/-- The reader with the latest piece repeated. -/
def repeatLast (reader : Reader) (least : Nat) (most : Option Nat) (greed : Greed) :
    Except Flaw Reader :=
  match reader.frame.pieces with
  | [] => .error .malformed
  | piece :: others =>
      if piece.bond = .free then
        let body : Piece :=
          ⟨.repeated piece.regex least most greed, piece.width.times least most, .repeated⟩
        .ok { reader with frame := { reader.frame with pieces := body :: others } }
      else .error .malformed

/-- A number of rounds has been read, with so many symbols after its first one; what follows may
say how greedy it is. -/
def quantify (reader : Reader) (least : Nat) (most : Option Nat) (used : Nat)
    (rest : List Symbol) : Reading :=
  let next := rest.drop used
  if nextIs '?' next then (reader.repeatLast least most .lazy).map (·, used + 1)
  else if nextIs '+' next then (reader.repeatLast least most .possessive).map (·, used + 1)
  else (reader.repeatLast least most .greedy).map (·, used)

/-- A bound on the number of rounds, if digits are given. -/
def bound (digits : Text) : Except Flaw (Option Nat) :=
  if digits.isEmpty then .ok none
  else if digits.length > Decimal.mostDigits then .error .countTooLong
  else if numberOf 10 digits ≥ 0xFFFFFFFF then .error .countTooLarge
  else .ok (some (numberOf 10 digits))

/-- The reader after an opening brace, which stands for itself unless a number of rounds follows. -/
def braces (reader : Reader) (rest : List Symbol) : Reading :=
  let low := leading isDecimal rest.length rest
  let afterLow := rest.drop low.length
  let comma := nextIs ',' afterLow
  let high := if comma then leading isDecimal rest.length (afterLow.drop 1) else low
  let used := low.length + if comma then 1 + high.length else 0
  if nextIs '}' rest || !nextIs '}' (rest.drop used) then .ok (reader.pushCode '{'.toNat, 0)
  else do
    let least ← bound low
    let most ← bound high
    match most with
    | some limit => if limit < least.getD 0 then throw .malformed
    | none => pure ()
    reader.quantify (least.getD 0) most (used + 1) rest

/-- The flags after switching some on and some off.  A switch has one position, ASCII and Unicode
exclude each other and cannot be switched off. -/
def switch (flags : Flags) (on off : Text) : Except Flaw Flags :=
  if (on.contains 'a' && on.contains 'u') || off.contains 'a' || off.contains 'u' ||
      on.any off.contains then .error .malformed
  else .ok {
    ignoreCase := (flags.ignoreCase || on.contains 'i') && !off.contains 'i'
    ascii := on.contains 'a' || flags.ascii && !on.contains 'u'
    multiline := (flags.multiline || on.contains 'm') && !off.contains 'm'
    dotAll := (flags.dotAll || on.contains 's') && !off.contains 's'
    verbose := (flags.verbose || on.contains 'x') && !off.contains 'x' }

/-- The letters of the switches that a group can have. -/
def isSwitch (c : Char) : Bool :=
  "imsxau".toList.contains c

/-- The reader after switches that hold inside a group.  Switches for the whole expression are not
accepted. -/
def switches (reader : Reader) (rest : List Symbol) : Reading :=
  let on := leading isSwitch rest.length rest
  let afterOn := rest.drop on.length
  let minus := nextIs '-' afterOn
  let off := if minus then leading isSwitch rest.length (afterOn.drop 1) else []
  let used := on.length + if minus then 1 + off.length else 0
  if !nextIs ':' (rest.drop used) || (on.isEmpty && !minus) || (minus && off.isEmpty) then
    .error .malformed
  else do
    let flags ← switch reader.frame.flags on off
    return (reader.enter .plain flags reader.frame.horizon, used + 1)

/-- The reader after an opening round bracket. -/
def opened (reader : Reader) : List Symbol → Reading
  | .plain '?' :: rest =>
      match rest with
      | .plain 'P' :: .plain '<' :: more =>
          match textUntil '>' more with
          | none => .error .malformed
          | some (name, used) => (reader.enterNamed name).map (·, 3 + used)
      | .plain 'P' :: .plain '=' :: more =>
          match textUntil ')' more with
          | none => .error .malformed
          | some (name, used) =>
              match reader.names.lookup name with
              | none => .error .malformed
              | some number => (reader.refer number).map (·, 3 + used)
      | .plain ':' :: _ => .ok (reader.enterAlike .plain, 2)
      | .plain '#' :: more =>
          match textUntil ')' more with
          | none => .error .malformed
          | some (_, used) => .ok (reader, 2 + used)
      | .plain '=' :: _ => .ok (reader.enterAlike (.ahead false), 2)
      | .plain '!' :: _ => .ok (reader.enterAlike (.ahead true), 2)
      | .plain '<' :: .plain '=' :: _ => .ok (reader.enterBehind false, 3)
      | .plain '<' :: .plain '!' :: _ => .ok (reader.enterBehind true, 3)
      | .plain '>' :: _ => .ok (reader.enterAlike .atomic, 2)
      | .plain '(' :: more =>
          match textUntil ')' more with
          | none => .error .malformed
          | some (label, used) => (reader.enterChoice label).map (·, 2 + used)
      | _ => (reader.switches rest).map fun (next, used) => (next, used + 1)
  | _ => .ok (reader.enterCapture, 0)

/-- The reader after a backslash and a digit from 1 to 9: three digits to base eight are a code,
anything else is a reference. -/
def numbered (reader : Reader) (first : Char) (rest : List Symbol) : Reading :=
  match leading isDecimal 2 rest with
  | second :: third :: _ =>
      if isOctal first && isOctal second && isOctal third then
        (octalCode first rest).map fun (code, used) => (reader.pushCode code, used)
      else (reader.refer (numberOf 10 [first, second])).map (·, 1)
  | [second] => (reader.refer (numberOf 10 [first, second])).map (·, 1)
  | [] => (reader.refer (numberOf 10 [first])).map (·, 0)

/-- The condition that an escaped letter stands for. -/
def anchorOf (ascii : Bool) : Char → Option Anchor
  | 'A' => some .start
  | 'Z' => some .finish
  | 'b' => some (.border ascii)
  | 'B' => some (.inside ascii)
  | _ => none

variable [Unicode.Names]

/-- The reader after an escaped character outside square brackets. -/
def escaped (reader : Reader) (c : Char) (rest : List Symbol) : Reading :=
  let ascii := reader.frame.flags.ascii
  match anchorOf ascii c, familyOf ascii c with
  | some condition, _ => .ok (reader.push (.ofAnchor condition), 0)
  | none, some member =>
      .ok (reader.push (.ofSet (.members [member] false reader.frame.flags.letters)), 0)
  | none, none =>
      if c = '0' then
        (octalCode c rest).map fun (code, used) => (reader.pushCode code, used)
      else if isDecimal c then reader.numbered c rest
      else (escapedCode c rest).map fun (code, used) => (reader.pushCode code, used)

/-- The reader after one member of a bracket expression, or its end. -/
def member (reader : Reader) (draft : SetDraft) (symbol : Symbol) (rest : List Symbol) :
    Reading :=
  let letters := reader.frame.flags.letters
  let ascii := reader.frame.flags.ascii
  let read : Symbol → List Symbol → Except Flaw (Member × Nat)
    | .plain c, _ => .ok (.one c.toNat, 0)
    | .escaped c, more => escapedMember ascii c more
  let close (items : List Member) : Reader :=
    { reader.push (.ofSet ({ draft with items := items }.finish letters)) with draft := none }
  let goOn (item : Member) : Reader :=
    { reader with draft := some { draft with items := item :: draft.items } }
  if symbol = .plain ']' && !draft.items.isEmpty then .ok (close draft.items, 0)
  else do
    let (low, used) ← read symbol rest
    match rest.drop used with
    | .plain '-' :: [] => .error .malformed
    | .plain '-' :: .plain ']' :: _ =>
        .ok (close (.one '-'.toNat :: low :: draft.items), used + 2)
    | .plain '-' :: next :: more =>
        let (high, usedHigh) ← read next more
        match low, high with
        | .one a, .one b =>
            if a ≤ b then .ok (goOn (.span a b), used + 2 + usedHigh) else .error .malformed
        | _, _ => .error .malformed
    | _ => .ok (goOn low, used)

/-- The characters that are skipped between symbols when blanks do not count. -/
def isLayout (c : Char) : Bool :=
  c = ' ' || ('\t' ≤ c && c ≤ '\r')

/-- The reader after one symbol outside square brackets. -/
def outside (reader : Reader) (symbol : Symbol) (rest : List Symbol) : Reading :=
  let flags := reader.frame.flags
  match symbol with
  | .escaped c => reader.escaped c rest
  | .plain c =>
      if c = '|' then reader.turn.map (·, 0)
      else if c = ')' then reader.leave.map (·, 0)
      else if flags.verbose && isLayout c then .ok (reader, 0)
      else if flags.verbose && c = '#' then .ok (reader, lineLength rest)
      else if c = '(' then reader.opened rest
      else if c = '[' then
        let negated := nextIs '^' rest
        .ok ({ reader with draft := some { negated := negated } }, if negated then 1 else 0)
      else if c = '*' then reader.quantify 0 none 0 rest
      else if c = '+' then reader.quantify 1 none 0 rest
      else if c = '?' then reader.quantify 0 (some 1) 0 rest
      else if c = '{' then reader.braces rest
      else if c = '.' then .ok (reader.push (.ofSet (.any flags.dotAll)), 0)
      else if c = '^' then
        .ok (reader.push (.ofAnchor (if flags.multiline then .lineStart else .start)), 0)
      else if c = '$' then
        .ok (reader.push (.ofAnchor (if flags.multiline then .lineEnd else .lastLine)), 0)
      else .ok (reader.pushCode c.toNat, 0)

/-- The reader after one symbol. -/
def step (reader : Reader) (symbol : Symbol) (rest : List Symbol) : Reading :=
  match reader.draft with
  | some draft => reader.member draft symbol rest
  | none => reader.outside symbol rest

/-- The reader after all symbols but the first ones, which have been used already. -/
def run (reader : Reader) : Nat → List Symbol → Except Flaw Reader
  | _, [] => .ok reader
  | used + 1, _ :: rest => run reader used rest
  | 0, symbol :: rest =>
      match reader.step symbol rest with
      | .error flaw => .error flaw
      | .ok (next, used) => run next used rest

end Reader

/-- A regular expression with the names of its groups. -/
structure Expression where
  regex : Regex
  /-- The names with the group numbers, in the order of the groups. -/
  names : List (Text × Nat)
  deriving DecidableEq, Repr

/-- The expression, when the text is complete. -/
def Reader.finish (reader : Reader) : Except Flaw Expression :=
  if reader.draft.isSome || !reader.outer.isEmpty || reader.wavering ||
      reader.farthest > reader.widths.length then .error .malformed
  else .ok ⟨reader.frame.body.regex, reader.names⟩

/-- The expression that a text denotes. -/
def read [Unicode.Names] (text : Text) : Except Flaw Expression :=
  match Symbol.ofText text with
  | none => .error .malformed
  | some symbols => (Reader.start.run 0 symbols).bind Reader.finish

/-- The texts of the named groups that took part in the preferred match at the start of a text, in
the order of the groups. -/
def Expression.captures? (expression : Expression) (text : Text) : Option (List (Text × Text)) :=
  (firstMatch expression.regex text).map fun final =>
    expression.names.filterMap fun (name, number) => (final.keptBy number).map (name, ·)

end Regex

end Signpost
