import Signpost.Proofs.Pattern.DirectMatch
import Signpost.Proofs.Pattern.Reading

/-!
# The expression of a pattern with built-in types

If every type of a pattern resolves to a built-in fragment and the names are distinct identifiers,
then the source of the pattern can be read, and what is read is known (`read_sourceOf`): an anchor,
one piece for each literal character and each placeholder, and another anchor.
-/

namespace Signpost

open Regex

namespace BuiltinType

/-- The symbols of the fragment of a type. -/
def symbols : BuiltinType → List Symbol
  | digits => "[0-9]++".toList.map .plain
  | alphanumeric => "[0-9A-Za-z]++".toList.map .plain
  | hexadecimal => "[0-9A-Fa-f]++".toList.map .plain
  | shortest => ".+?".toList.map .plain
  | longest => ".++".toList.map .plain
  | segment => "[^/".toList.map .plain ++ [.escaped '.'] ++ "]++".toList.map .plain

/-- The characters that the fragment of a type repeats. -/
def set : BuiltinType → CharSet
  | digits => .members [.span 0x30 0x39] false .exact
  | alphanumeric => .members [.span 0x30 0x39, .span 0x41 0x5A, .span 0x61 0x7A] false .exact
  | hexadecimal => .members [.span 0x30 0x39, .span 0x41 0x46, .span 0x61 0x66] false .exact
  | shortest | longest => .any false
  | segment => .members [.one 0x2F, .one 0x2E] true .exact

/-- The piece that the fragment of a type is read as. -/
def piece (type : BuiltinType) : Piece :=
  ⟨.repeated (.chars type.set) 1 none (if type = shortest then .lazy else .possessive), ⟨1, none⟩,
    .repeated⟩

theorem ofText_fragment (type : BuiltinType) :
    Symbol.ofText type.fragment = some type.symbols := by
  cases type <;> rfl

theorem nextIs_symbols (type : BuiltinType) (rest : List Symbol) :
    nextIs '?' (type.symbols ++ rest) = false := by
  cases type <;> rfl

/-- The fragment of a type is read as one piece. -/
theorem reads_symbols [Unicode.Names] (type : BuiltinType) (reader : Reader)
    (outside : reader.draft = none) (plain : reader.frame.flags = {}) :
    reader.Reads type.symbols (reader.push type.piece) := by
  obtain ⟨⟨opening, flags, horizon, earlier, pieces⟩, outer, widths, names, farthest, wavering,
    draft⟩ := reader
  subst outside plain
  intro rest _
  cases type <;> rfl

/-- The characters that the fragment repeats are those that the type accepts. -/
theorem contains_set (type : BuiltinType) (c : Char) : type.set.contains c = type.accepts c := by
  have order (a b : Char) : a ≤ b ↔ a.toNat ≤ b.toNat := Iff.rfl
  rw [Bool.eq_iff_iff]
  cases type with
  | digits =>
      simp [set, accepts, CharSet.contains, Member.moves, Member.contains, Char.isDigit,
        UInt32.le_iff_toNat_le]
  | alphanumeric =>
      have spans : c.isAlphanum = (decide (65 ≤ c.val ∧ c.val ≤ 90) ||
          (decide (97 ≤ c.val) && decide (c.val ≤ 122)) || c.isDigit) := rfl
      simp [set, accepts, CharSet.contains, Member.moves, Member.contains, Char.isDigit, spans,
        UInt32.le_iff_toNat_le]
      omega
  | hexadecimal =>
      simp [set, accepts, CharSet.contains, Member.moves, Member.contains, Char.isDigit, order,
        UInt32.le_iff_toNat_le]
      omega
  | shortest | longest => simp [set, accepts, CharSet.contains]
  | segment =>
      have slash : c = '/' ↔ 0x2F = c.toNat := by
        rw [← Char.toNat_inj, eq_comm]
        rfl
      have point : c = '.' ↔ 0x2E = c.toNat := by
        rw [← Char.toNat_inj, eq_comm]
        rfl
      simp [set, accepts, CharSet.contains, Member.moves, Member.contains, slash, point]

end BuiltinType

namespace Placeholder

/-- The group that keeps the text of a piece under a number. -/
def grouped (number : Nat) (value : Piece) : Piece :=
  ⟨.capture number (sequence [value]).regex, (sequence [value]).width, .free⟩

/-- The piece of a placeholder with a built-in type whose group has a number. -/
def piece (p : Placeholder) (number : Nat) : Piece :=
  match p.type? with
  | none => .empty
  | some type => p.segment (p.separator.map .ofChar).reverse (grouped number type.piece)

/-- The symbols of a placeholder with a built-in type. -/
def symbols (p : Placeholder) : List Symbol :=
  match p.type? with
  | none => []
  | some type => p.opening ++ type.symbols ++ p.closing

/-- The source of a placeholder is read as one piece, and its group is numbered and named. -/
theorem reads_symbols [Unicode.Names] {p : Placeholder} {type : BuiltinType} {reader : Reader}
    (typed : p.type? = some type) (outside : reader.draft = none)
    (plain : reader.frame.flags = {})
    (named : p.name ≠ [] →
      Unicode.isIdentifier p.name = true ∧ reader.names.lookup p.name = none) :
    reader.Reads p.symbols { reader.push (p.piece reader.nextNumber) with
      widths := reader.widths ++ [some (sequence [type.piece]).width]
      names := reader.names ++ p.numbered reader.nextNumber } := by
  intro rest settled
  let filled := (p.enter reader).push type.piece
  have ready : Settled (p.closing ++ rest) := settled_cons _ (by decide) (by decide)
  have before : (p.separator.map Piece.ofChar).reverse ++ [] =
      (p.separator.map Piece.ofChar).reverse := List.append_nil _
  have piece : p.piece reader.nextNumber = p.segment
      ((p.separator.map Piece.ofChar).reverse ++ []) (grouped reader.nextNumber type.piece) := by
    rw [Placeholder.piece, typed, before]
  have widths : filled.widths.set (reader.nextNumber - 1) (some (sequence [type.piece]).width) =
      reader.widths ++ [some (sequence [type.piece]).width] := by
    change (reader.widths ++ [none]).set reader.widths.length _ = _
    simp
  rw [symbols, typed, List.append_assoc, List.append_assoc, piece, ← widths]
  calc reader.run 0 (p.opening ++ (type.symbols ++ (p.closing ++ rest)))
      = (p.enter reader).run 0 (type.symbols ++ (p.closing ++ rest)) :=
        run_opening outside plain named (type.nextIs_symbols _)
    _ = filled.run 0 (p.closing ++ rest) :=
        type.reads_symbols (p.enter reader) outside plain _ ready
    _ = _ := p.reads_closing filled outside rfl rfl rfl rfl rest settled

end Placeholder

/-- The pieces of tokens whose first placeholder has a group number. -/
def piecesOf : Nat → List Token → List Piece
  | _, [] => []
  | number, .literal text :: others => text.map .ofChar ++ piecesOf number others
  | number, .placeholder p :: others => p.piece number :: piecesOf (number + 1) others

/-- The names of tokens with their group numbers. -/
def groupsOf : Nat → List Token → List (Text × Nat)
  | _, [] => []
  | number, .literal _ :: others => groupsOf number others
  | number, .placeholder p :: others => p.numbered number ++ groupsOf (number + 1) others

/-- The symbols of the sources of tokens. -/
def symbolsOf : List Token → List Symbol
  | [] => []
  | .literal text :: others => text.map literalSymbol ++ symbolsOf others
  | .placeholder p :: others => p.symbols ++ symbolsOf others

theorem settled_symbolsOf (parts : List Token) : Settled (symbolsOf parts) := by
  induction parts with
  | nil => exact ⟨rfl, rfl⟩
  | cons token others ih =>
      cases token with
      | literal text => exact (settled_literal text).append ih
      | placeholder p =>
          refine Settled.append ?_ ih
          unfold Placeholder.symbols
          split
          · exact ⟨rfl, rfl⟩
          · exact settled_cons _ (by decide) (by decide)

/-- A name that is still to come has no group yet. -/
theorem lookup_eq_none_of_fresh {names : List (Text × Nat)} {others : List Text}
    (fresh : (names.map Prod.fst ++ others).Nodup) {name : Text} (member : name ∈ others) :
    names.lookup name = none := by
  rw [List.lookup_eq_none_iff]
  rintro ⟨known, number⟩ inside
  have apart := (List.nodup_append.mp fresh).2.2 known (List.mem_map.mpr ⟨_, inside, rfl⟩) name
    member
  simpa using Ne.symm apart

theorem Placeholder.names_numbered (p : Placeholder) (number : Nat) (others : List Token) :
    (p.numbered number).map Prod.fst ++ namesOf others = namesOf (.placeholder p :: others) := by
  rw [namesOf_placeholder, numbered]
  split <;> rfl

/-- The sources of tokens with built-in types are read as their pieces. -/
theorem reads_tokens [Unicode.Names] {parts : List Token} (reader : Reader)
    (outside : reader.draft = none) (plain : reader.frame.flags = {})
    (typed : ∀ p ∈ placeholdersOf parts, ∃ type, p.type? = some type)
    (identifiers : ∀ name ∈ namesOf parts, Unicode.isIdentifier name = true)
    (fresh : (reader.names.map Prod.fst ++ namesOf parts).Nodup) :
    ∃ widths, reader.Reads (symbolsOf parts)
      { reader.pushAll (piecesOf reader.nextNumber parts) with
        widths := widths
        names := reader.names ++ groupsOf reader.nextNumber parts } := by
  induction parts generalizing reader with
  | nil =>
      refine ⟨reader.widths, ?_⟩
      rw [groupsOf, List.append_nil]
      exact Reader.Reads.refl reader
  | cons token others ih =>
      cases token with
      | literal text =>
          obtain ⟨widths, later⟩ := ih (reader.pushAll (text.map .ofChar)) outside plain
            typed identifiers fresh
          have whole := (reads_text reader outside plain text).trans later (settled_symbolsOf others)
          refine ⟨widths, ?_⟩
          rw [piecesOf, Reader.pushAll_append]
          exact whole
      | placeholder p =>
          obtain ⟨type, isType⟩ := typed p List.mem_cons_self
          have named : p.name ≠ [] →
              Unicode.isIdentifier p.name = true ∧ reader.names.lookup p.name = none := by
            intro given
            have member := mem_namesOf_self given others
            exact ⟨identifiers _ member, lookup_eq_none_of_fresh fresh member⟩
          have step := Placeholder.reads_symbols isType outside plain named
          let next : Reader := { reader.push (p.piece reader.nextNumber) with
            widths := reader.widths ++ [some (sequence [type.piece]).width]
            names := reader.names ++ p.numbered reader.nextNumber }
          have number : next.nextNumber = reader.nextNumber + 1 := by
            simp [next, Reader.nextNumber]
          have fresher : (next.names.map Prod.fst ++ namesOf others).Nodup := by
            rw [List.map_append, List.append_assoc, Placeholder.names_numbered]
            exact fresh
          have known : ∀ name ∈ namesOf others, Unicode.isIdentifier name = true :=
            fun name member => identifiers name (mem_namesOf_cons member p)
          obtain ⟨widths, later⟩ := ih next outside plain
            (fun q member => typed q (List.mem_cons_of_mem _ member)) known fresher
          have whole := step.trans later (settled_symbolsOf others)
          refine ⟨widths, ?_⟩
          rw [number] at whole
          rw [piecesOf, groupsOf, Reader.pushAll_cons, ← List.append_assoc]
          exact whole

/-- A placeholder has a built-in type, and the fragment for its key is that of the type. -/
def Resolver.KeepsBuiltin (resolver : Resolver) (p : Placeholder) : Prop :=
  ∃ type, p.type? = some type ∧ resolver.fragment? p.typeKey = some type.fragment

theorem Resolver.render_builtin {resolver : Resolver} {parts : List Token}
    (builtin : ∀ p ∈ placeholdersOf parts, resolver.KeepsBuiltin p)
    (identifiers : ∀ name ∈ namesOf parts, Unicode.isIdentifier name = true) :
    ∃ body, resolver.render parts = .ok body ∧ Symbol.ofText body = some (symbolsOf parts) := by
  induction parts with
  | nil => exact ⟨[], rfl, rfl⟩
  | cons token others ih =>
      cases token with
      | literal text =>
          obtain ⟨body, rendered, read⟩ := ih builtin identifiers
          refine ⟨escapeText text ++ body, ?_, Symbol.ofText_concat (ofText_escapeText text) read⟩
          rw [Resolver.render, rendered]
          rfl
      | placeholder p =>
          obtain ⟨type, isType, fragment⟩ := builtin p List.mem_cons_self
          have known : ∀ name ∈ namesOf others, Unicode.isIdentifier name = true :=
            fun name member => identifiers name (mem_namesOf_cons member p)
          have free : ∀ c ∈ p.name, c ≠ '\\' := by
            intro c inside
            have member := mem_namesOf_self (List.ne_nil_of_mem inside) others
            exact (identifier_free (identifiers _ member) c inside).1
          obtain ⟨body, rendered, read⟩ :=
            ih (fun q member => builtin q (List.mem_cons_of_mem _ member)) known
          refine ⟨p.source type.fragment ++ body, ?_, ?_⟩
          · rw [Resolver.render, fragment, rendered]
            rfl
          · rw [symbolsOf, Placeholder.symbols, isType]
            exact Symbol.ofText_concat (Placeholder.ofText_source free type.ofText_fragment) read

theorem sourceOf_of_render {resolver : Resolver} {pattern body : Text} {parts : List Token}
    (read : tokens pattern = .ok parts) (rendered : resolver.render parts = .ok body) :
    sourceOf resolver pattern = .ok ("\\A".toList ++ body ++ "\\Z".toList) := by
  rw [sourceOf, tokensOrFault, read]
  change ((resolver.render parts).mapError _).bind _ = _
  rw [rendered]
  rfl

/-- The pieces of a whole pattern: those of its tokens between two anchors. -/
def anchoredPieces (parts : List Token) : List Piece :=
  .ofAnchor .start :: (piecesOf 1 parts ++ [.ofAnchor .finish])

/-- A pattern with built-in types and distinct identifiers as names is compiled, and its expression
consists of the pieces of its tokens between two anchors. -/
theorem compilePlaceholders_builtin [Unicode.Names] {resolver : Resolver} {pattern : Text}
    {parts : List Token} (read : tokens pattern = .ok parts)
    (builtin : ∀ p ∈ placeholdersOf parts, resolver.KeepsBuiltin p)
    (identifiers : ∀ name ∈ namesOf parts, Unicode.isIdentifier name = true)
    (distinct : (namesOf parts).Nodup) :
    ∃ source, compilePlaceholders resolver pattern = .ok ⟨pattern, source,
      ⟨(sequence (anchoredPieces parts).reverse).regex, groupsOf 1 parts⟩⟩ := by
  obtain ⟨body, rendered, symbols⟩ := Resolver.render_builtin builtin identifiers
  have typed : ∀ p ∈ placeholdersOf parts, ∃ type, p.type? = some type := by
    intro p member
    obtain ⟨type, isType, _⟩ := builtin p member
    exact ⟨type, isType⟩
  let anchored : Reader := Reader.start.push (.ofAnchor .start)
  obtain ⟨widths, reads⟩ := reads_tokens anchored rfl rfl typed identifiers distinct
  have front : Symbol.ofText "\\A".toList = some [.escaped 'A'] := rfl
  have back : Symbol.ofText "\\Z".toList = some [.escaped 'Z'] := rfl
  have whole := Symbol.ofText_concat (Symbol.ofText_concat front symbols) back
  have run : Reader.start.run 0 ([.escaped 'A'] ++ symbolsOf parts ++ [.escaped 'Z']) =
      .ok { anchored.pushAll (piecesOf 1 parts ++ [.ofAnchor .finish]) with
        widths := widths, names := groupsOf 1 parts } := by
    rw [List.append_assoc]
    calc Reader.start.run 0 ([.escaped 'A'] ++ (symbolsOf parts ++ [.escaped 'Z']))
        = anchored.run 0 (symbolsOf parts ++ [.escaped 'Z']) := Reader.run_step_alone rfl
      _ = _ := reads [.escaped 'Z'] ⟨rfl, rfl⟩
      _ = _ := by
          rw [Reader.pushAll_append]
          rfl
  have expression : Regex.read ("\\A".toList ++ body ++ "\\Z".toList) =
      .ok ⟨(sequence (anchoredPieces parts).reverse).regex, groupsOf 1 parts⟩ := by
    rw [Regex.read, whole]
    simp only [run, Except.bind]
    simp [Reader.finish, Reader.pushAll, anchored, Reader.push, Reader.start, Frame.push,
      Frame.body, alternatives, anchoredPieces]
  refine ⟨"\\A".toList ++ body ++ "\\Z".toList, ?_⟩
  rw [compilePlaceholders, sourceOf_of_render read rendered]
  simp only [Except.bind, compileSource, expression]

end Signpost
