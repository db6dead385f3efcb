import Signpost.Proofs.Outcome
import Signpost.Regex.Reading

/-!
# Reading as deciding and acting

A step of a reader is taken apart into a decision and an action.  The decision
(`Action.ofSymbol`) depends on the symbols, on the flags of the open group and on the bracket
expression that is open; the action (`Reader.act`) depends on the reader.  So two readers with the
same flags and the same bracket expression decide alike, whatever else they have read
(`Reader.step_eq_perform`).
-/

namespace Signpost.Regex

/-- What symbols make a reader do. -/
inductive Action where
  | skip
  | push (piece : Piece)
  | rounds (least : Nat) (most : Option Nat) (greed : Greed)
  | refer (number : Nat)
  | referNamed (name : Text)
  | enter (opening : Opening) (flags : Flags)
  | enterCapture
  | enterNamed (name : Text)
  | enterBehind (negated : Bool)
  | enterChoice (label : Text)
  | turn
  | leave
  | goOn (draft : SetDraft)
  | finish (set : CharSet)

/-- A decision: an action and the number of further symbols that it uses. -/
abbrev Decision := Except Flaw (Action × Nat)

namespace Action

/-- One more literal character. -/
def code (flags : Flags) (n : Nat) : Action :=
  .push (.ofSet (.only n false flags.letters))

/-- A number of rounds, with so many symbols after its first one. -/
def quantify (least : Nat) (most : Option Nat) (used : Nat) (rest : List Symbol) : Decision :=
  if nextIs '?' (rest.drop used) then .ok (.rounds least most .lazy, used + 1)
  else if nextIs '+' (rest.drop used) then .ok (.rounds least most .possessive, used + 1)
  else .ok (.rounds least most .greedy, used)

/-- A number of rounds in braces, given its digits. -/
def braced (flags : Flags) (low high : Text) (used : Nat) (rest : List Symbol) : Decision :=
  if nextIs '}' rest || !nextIs '}' (rest.drop used) then .ok (code flags '{'.toNat, 0)
  else do
    let least ← Reader.bound low
    let most ← Reader.bound high
    match most with
    | some limit => if limit < least.getD 0 then throw .malformed
    | none => pure ()
    quantify (least.getD 0) most (used + 1) rest

/-- An opening brace. -/
def braces (flags : Flags) (rest : List Symbol) : Decision :=
  let low := leading isDecimal rest.length rest
  let comma := nextIs ',' (rest.drop low.length)
  let later := leading isDecimal rest.length ((rest.drop low.length).drop 1)
  if comma then braced flags low later (low.length + (1 + later.length)) rest
  else braced flags low low low.length rest

/-- Switches that hold inside a group, given their letters. -/
def switched (flags : Flags) (on off : Text) (minus : Bool) (used : Nat) (rest : List Symbol) :
    Decision :=
  if !nextIs ':' (rest.drop used) || (on.isEmpty && !minus) || (minus && off.isEmpty) then
    .error .malformed
  else (Reader.switch flags on off).map fun flags => (.enter .plain flags, used + 1)

/-- The switches of a group. -/
def switches (flags : Flags) (rest : List Symbol) : Decision :=
  let on := leading Reader.isSwitch rest.length rest
  let minus := nextIs '-' (rest.drop on.length)
  let later := leading Reader.isSwitch rest.length ((rest.drop on.length).drop 1)
  if minus then switched flags on later true (on.length + (1 + later.length)) rest
  else switched flags on [] false on.length rest

/-- What a text up to a mark stands for, with so many symbols before it. -/
def labelled (mark : Char) (extra : Nat) (make : Text → Action) (symbols : List Symbol) :
    Decision :=
  match textUntil mark symbols with
  | none => .error .malformed
  | some (label, used) => .ok (make label, extra + used)

/-- An opening round bracket with a question mark. -/
def queried (flags : Flags) : List Symbol → Decision
  | .plain 'P' :: .plain '<' :: more => labelled '>' 3 .enterNamed more
  | .plain 'P' :: .plain '=' :: more => labelled ')' 3 .referNamed more
  | .plain ':' :: _ => .ok (.enter .plain flags, 2)
  | .plain '#' :: more => labelled ')' 2 (fun _ => .skip) more
  | .plain '=' :: _ => .ok (.enter (.ahead false) flags, 2)
  | .plain '!' :: _ => .ok (.enter (.ahead true) flags, 2)
  | .plain '<' :: .plain '=' :: _ => .ok (.enterBehind false, 3)
  | .plain '<' :: .plain '!' :: _ => .ok (.enterBehind true, 3)
  | .plain '>' :: _ => .ok (.enter .atomic flags, 2)
  | .plain '(' :: more => labelled ')' 2 .enterChoice more
  | rest => (switches flags rest).map fun (action, used) => (action, used + 1)

/-- An opening round bracket. -/
def opened (flags : Flags) : List Symbol → Decision
  | .plain '?' :: rest => queried flags rest
  | _ => .ok (.enterCapture, 0)

/-- A backslash and a digit from 1 to 9. -/
def numbered (flags : Flags) (first : Char) (rest : List Symbol) : Decision :=
  match leading isDecimal 2 rest with
  | second :: third :: _ =>
      if isOctal first && isOctal second && isOctal third then
        (octalCode first rest).map fun (n, used) => (code flags n, used)
      else .ok (.refer (numberOf 10 [first, second]), 1)
  | [second] => .ok (.refer (numberOf 10 [first, second]), 1)
  | [] => .ok (.refer (numberOf 10 [first]), 0)

variable [Unicode.Names]

/-- An escaped character outside square brackets. -/
def escaped (flags : Flags) (c : Char) (rest : List Symbol) : Decision :=
  match Reader.anchorOf flags.ascii c, familyOf flags.ascii c with
  | some condition, _ => .ok (.push (.ofAnchor condition), 0)
  | none, some member => .ok (.push (.ofSet (.members [member] false flags.letters)), 0)
  | none, none =>
      if c = '0' then (octalCode c rest).map fun (n, used) => (code flags n, used)
      else if isDecimal c then numbered flags c rest
      else (escapedCode c rest).map fun (n, used) => (code flags n, used)

/-- One end of a span in square brackets, or a member that is no span. -/
def memberAt (ascii : Bool) : Symbol → List Symbol → Except Flaw (Member × Nat)
  | .plain c, _ => .ok (.one c.toNat, 0)
  | .escaped c, more => escapedMember ascii c more

/-- What follows a member of a bracket expression, with so many symbols used for the member. -/
def afterMember (flags : Flags) (present : SetDraft) (low : Member) (used : Nat) :
    List Symbol → Decision
  | .plain '-' :: [] => .error .malformed
  | .plain '-' :: .plain ']' :: _ =>
      .ok (.finish ({ present with items := .one '-'.toNat :: low :: present.items }.finish
        flags.letters), used + 2)
  | .plain '-' :: next :: more =>
      (memberAt flags.ascii next more).bind fun (high, usedHigh) =>
        match low, high with
        | .one a, .one b =>
            if a ≤ b then
              .ok (.goOn { present with items := .span a b :: present.items }, used + 2 + usedHigh)
            else .error .malformed
        | _, _ => .error .malformed
  | _ => .ok (.goOn { present with items := low :: present.items }, used)

/-- A symbol in square brackets. -/
def member (flags : Flags) (present : SetDraft) (symbol : Symbol) (rest : List Symbol) : Decision :=
  if symbol = .plain ']' && !present.items.isEmpty then
    .ok (.finish (present.finish flags.letters), 0)
  else (memberAt flags.ascii symbol rest).bind fun (low, used) =>
    afterMember flags present low used (rest.drop used)

/-- A symbol outside square brackets. -/
def outside (flags : Flags) (symbol : Symbol) (rest : List Symbol) : Decision :=
  match symbol with
  | .escaped c => escaped flags c rest
  | .plain c =>
      if c = '|' then .ok (.turn, 0)
      else if c = ')' then .ok (.leave, 0)
      else if flags.verbose && Reader.isLayout c then .ok (.skip, 0)
      else if flags.verbose && c = '#' then .ok (.skip, lineLength rest)
      else if c = '(' then opened flags rest
      else if c = '[' then
        .ok (.goOn { negated := nextIs '^' rest }, if nextIs '^' rest then 1 else 0)
      else if c = '*' then quantify 0 none 0 rest
      else if c = '+' then quantify 1 none 0 rest
      else if c = '?' then quantify 0 (some 1) 0 rest
      else if c = '{' then braces flags rest
      else if c = '.' then .ok (.push (.ofSet (.any flags.dotAll)), 0)
      else if c = '^' then
        .ok (.push (.ofAnchor (if flags.multiline then .lineStart else .start)), 0)
      else if c = '$' then
        .ok (.push (.ofAnchor (if flags.multiline then .lineEnd else .lastLine)), 0)
      else .ok (code flags c.toNat, 0)

/-- A symbol anywhere. -/
def ofSymbol (flags : Flags) (present : Option SetDraft) (symbol : Symbol) (rest : List Symbol) :
    Decision :=
  match present with
  | some draft => member flags draft symbol rest
  | none => outside flags symbol rest

end Action

namespace Reader

variable (reader : Reader)

/-- The reader after an action. -/
def act : Action → Except Flaw Reader
  | .skip => .ok reader
  | .push piece => .ok (reader.push piece)
  | .rounds least most greed => reader.repeatLast least most greed
  | .refer number => reader.refer number
  | .referNamed name =>
      match reader.names.lookup name with
      | none => .error .malformed
      | some number => reader.refer number
  | .enter opening flags => .ok (reader.enter opening flags reader.frame.horizon)
  | .enterCapture => .ok reader.enterCapture
  | .enterNamed name => reader.enterNamed name
  | .enterBehind negated => .ok (reader.enterBehind negated)
  | .enterChoice label => reader.enterChoice label
  | .turn => reader.turn
  | .leave => reader.leave
  | .goOn draft => .ok { reader with draft := some draft }
  | .finish set => .ok { reader.push (.ofSet set) with draft := none }

/-- The reader after a decision. -/
def perform (decision : Decision) : Reading :=
  decision.bind fun (action, used) => (reader.act action).map (·, used)

theorem quantify_eq_perform (least : Nat) (most : Option Nat) (used : Nat) (rest : List Symbol) :
    reader.quantify least most used rest =
      reader.perform (Action.quantify least most used rest) := by
  simp only [quantify, Action.quantify]
  split
  · rfl
  · split <;> rfl

/-- A decision that comes after something else. -/
theorem perform_bind {α : Type} (start : Except Flaw α) (choose : α → Decision) :
    reader.perform (start.bind choose) = start.bind fun value => reader.perform (choose value) := by
  cases start <;> rfl

theorem perform_code (start : Except Flaw (Nat × Nat)) :
    reader.perform (start.map fun (n, used) => (Action.code reader.frame.flags n, used)) =
      start.map fun (n, used) => (reader.pushCode n, used) := by
  cases start <;> rfl

theorem perform_ite {test : Prop} [Decidable test] (one two : Decision) :
    reader.perform (if test then one else two) =
      if test then reader.perform one else reader.perform two := by
  split <;> rfl

theorem perform_braced (low high : Text) (used : Nat) (rest : List Symbol) :
    reader.perform (Action.braced reader.frame.flags low high used rest) =
      (if nextIs '}' rest || !nextIs '}' (rest.drop used) then .ok (reader.pushCode '{'.toNat, 0)
      else do
        let least ← bound low
        let most ← bound high
        match most with
        | some limit => if limit < least.getD 0 then throw Flaw.malformed
        | none => pure ()
        reader.quantify (least.getD 0) most (used + 1) rest) := by
  rw [Action.braced, perform_ite]
  congr 1
  cases lower : bound low with
  | error flaw => rfl
  | ok least =>
      cases upper : bound high with
      | error flaw => rfl
      | ok most =>
          simp only [bind, Except.bind, quantify_eq_perform]
          cases most with
          | none => rfl
          | some limit =>
              dsimp only
              split <;> rfl

theorem braces_eq_perform (rest : List Symbol) :
    reader.braces rest = reader.perform (Action.braces reader.frame.flags rest) := by
  simp only [braces, Action.braces, perform_ite, perform_braced]
  split <;> rfl

theorem switches_eq_perform (rest : List Symbol) :
    reader.switches rest = reader.perform (Action.switches reader.frame.flags rest) := by
  have switched (on off : Text) (minus : Bool) (used : Nat) :
      reader.perform (Action.switched reader.frame.flags on off minus used rest) =
        if !nextIs ':' (rest.drop used) || (on.isEmpty && !minus) || (minus && off.isEmpty) then
          .error .malformed
        else do
          let flags ← switch reader.frame.flags on off
          return (reader.enter .plain flags reader.frame.horizon, used + 1) := by
    rw [Action.switched, perform_ite]
    cases switch reader.frame.flags on off <;> rfl
  simp only [switches, Action.switches, perform_ite, switched]
  split
  · next minus => simp only [minus]
  · next plus => simp only [plus, Nat.add_zero]

theorem perform_labelled (mark : Char) (extra : Nat) (make : Text → Action)
    (symbols : List Symbol) :
    reader.perform (Action.labelled mark extra make symbols) =
      match textUntil mark symbols with
      | none => .error .malformed
      | some (label, used) => (reader.act (make label)).map (·, extra + used) := by
  rw [Action.labelled]
  split <;> rfl

theorem opened_eq_perform (rest : List Symbol) :
    reader.opened rest = reader.perform (Action.opened reader.frame.flags rest) := by
  unfold opened
  split
  case h_2 capture =>
    rw [Action.opened]
    · rfl
    · exact capture
  case h_1 inner =>
    rw [Action.opened]
    split
    case h_11 noName noReference noGroup noComment noAhead noNotAhead noBehind noNotBehind noAtomic
        noChoice =>
      rw [Action.queried]
      · rw [switches_eq_perform]
        cases Action.switches reader.frame.flags inner with
        | error flaw => rfl
        | ok decided =>
            simp only [perform, Except.bind, Except.map]
            cases reader.act decided.1 <;> rfl
      all_goals assumption
    case h_1 | h_4 | h_10 => rw [Action.queried, perform_labelled]; rfl
    case h_2 more =>
      rw [Action.queried, perform_labelled]
      cases textUntil ')' more with
      | none => rfl
      | some found =>
          simp only [act]
          cases reader.names.lookup found.1 <;> rfl
    all_goals rfl

theorem numbered_eq_perform (first : Char) (rest : List Symbol) :
    reader.numbered first rest =
      reader.perform (Action.numbered reader.frame.flags first rest) := by
  unfold numbered Action.numbered
  cases leading isDecimal 2 rest with
  | nil => rfl
  | cons second others =>
      cases others with
      | nil => rfl
      | cons third others =>
          dsimp only
          rw [perform_ite, perform_code]
          rfl

variable [Unicode.Names]

theorem escaped_eq_perform (c : Char) (rest : List Symbol) :
    reader.escaped c rest = reader.perform (Action.escaped reader.frame.flags c rest) := by
  simp only [escaped, Action.escaped]
  cases anchorOf reader.frame.flags.ascii c with
  | some condition => rfl
  | none =>
      cases familyOf reader.frame.flags.ascii c with
      | some member => rfl
      | none =>
          simp only [perform_ite, perform_code, numbered_eq_perform]

theorem member_eq_perform (draft : SetDraft) (symbol : Symbol) (rest : List Symbol) :
    reader.member draft symbol rest =
      reader.perform (Action.member reader.frame.flags draft symbol rest) := by
  rw [Action.member, perform_ite, perform_bind]
  change (if _ then _ else (Action.memberAt reader.frame.flags.ascii symbol rest).bind _) = _
  congr 1
  cases Action.memberAt reader.frame.flags.ascii symbol rest with
  | error flaw => rfl
  | ok found =>
      obtain ⟨low, used⟩ := found
      simp only [Except.bind]
      split
      case h_1 alone => rw [alone]; rfl
      case h_2 closing => rw [closing]; rfl
      case h_3 next more noClose span =>
        rw [span, Action.afterMember, perform_bind]
        · change (Action.memberAt reader.frame.flags.ascii next more).bind _ = _
          congr 1
          funext found
          obtain ⟨high, usedHigh⟩ := found
          cases low with
          | family kind ascii negated => rfl
          | span a b => rfl
          | one a =>
              cases high with
              | family kind ascii negated => rfl
              | span a b => rfl
              | one b =>
                  dsimp only
                  rw [perform_ite]
                  rfl
        · exact noClose
      case h_4 noEnd noClose noSpan =>
        rw [Action.afterMember]
        · rfl
        all_goals assumption

theorem outside_eq_perform (symbol : Symbol) (rest : List Symbol) :
    reader.outside symbol rest =
      reader.perform (Action.outside reader.frame.flags symbol rest) := by
  cases symbol with
  | escaped c => exact reader.escaped_eq_perform c rest
  | plain c =>
      simp only [outside, Action.outside, perform_ite, opened_eq_perform, braces_eq_perform,
        quantify_eq_perform]
      rfl

/-- **A step decides and acts.** What is decided depends on the flags of the open group, on the
bracket expression that is open and on the symbols alone. -/
theorem step_eq_perform (symbol : Symbol) (rest : List Symbol) :
    reader.step symbol rest =
      reader.perform (Action.ofSymbol reader.frame.flags reader.draft symbol rest) := by
  unfold step Action.ofSymbol
  cases reader.draft with
  | none => exact reader.outside_eq_perform symbol rest
  | some draft => exact reader.member_eq_perform draft symbol rest

theorem step_eq_ok {reader next : Reader} {symbol : Symbol} {rest : List Symbol} {used : Nat} :
    reader.step symbol rest = .ok (next, used) ↔
      ∃ action, Action.ofSymbol reader.frame.flags reader.draft symbol rest = .ok (action, used) ∧
        reader.act action = .ok next := by
  rw [step_eq_perform]
  constructor
  · intro performed
    obtain ⟨⟨action, count⟩, decided, performed⟩ := bind_eq_ok performed
    obtain ⟨_, acted, same⟩ := map_eq_ok performed
    cases same
    exact ⟨action, decided, acted⟩
  · rintro ⟨action, decided, acted⟩
    rw [perform, decided]
    change (reader.act action).map (·, used) = _
    rw [acted]
    rfl

end Reader

end Signpost.Regex
