import Signpost.Proofs.Regex.Nesting
import Signpost.Proofs.Pattern.DirectMatch
import Signpost.Proofs.Pattern.Reading

/-!
# Fragments of any kind in the source of a pattern

Types may stand for any fragments.  As long as each fragment is an expression by itself, the source
of a pattern is still read token by token: a token adds pieces to the open group, and does nothing
to the pieces before it or to the groups around (`onlyAdds_render`).
-/

namespace Signpost

open Regex

variable [Unicode.Names]

/-- A pattern that is compiled has tokens, and its expression is that of their source. -/
theorem compilePlaceholders_eq_ok {resolver : Resolver} {pattern : Text} {compiled : CompiledPattern}
    (done : compilePlaceholders resolver pattern = .ok compiled) :
    ∃ parts body, tokens pattern = .ok parts ∧ resolver.render parts = .ok body ∧
      Regex.read ("\\A".toList ++ body ++ "\\Z".toList) = .ok compiled.expression := by
  obtain ⟨source, written, compiles⟩ := bind_eq_ok done
  obtain ⟨parts, split, written⟩ := bind_eq_ok written
  obtain ⟨body, rendered, written⟩ := bind_eq_ok written
  cases written
  refine ⟨parts, body, mapError_eq_ok split, mapError_eq_ok rendered, ?_⟩
  unfold compileSource at compiles
  split at compiles
  · cases compiles
  · next expression read =>
      cases compiles
      exact read

/-- Symbols that add pieces to the open group and do nothing else to the open groups, wherever they
can be read at all. -/
def OnlyAdds (symbols : List Symbol) : Prop :=
  ∀ ⦃reader result : Reader⦄ ⦃rest : List Symbol⦄, reader.draft = none →
    reader.frame.flags = {} → Settled rest → reader.run 0 (symbols ++ rest) = .ok result →
      ∃ next : Reader, next.run 0 rest = .ok result ∧ next.draft = none ∧
        next.outer = reader.outer ∧
        ∃ more, next.frame = { reader.frame with pieces := more ++ reader.frame.pieces }

theorem onlyAdds_nil : OnlyAdds [] :=
  fun _ _ _ outside _ _ ran => ⟨_, ran, outside, rfl, [], rfl⟩

theorem OnlyAdds.append {first second : List Symbol} (one : OnlyAdds first)
    (two : OnlyAdds second) (settled : Settled second) : OnlyAdds (first ++ second) := by
  intro reader result rest outside plain after ran
  rw [List.append_assoc] at ran
  obtain ⟨middle, ran, outside, around, more, frame⟩ :=
    one outside plain (settled.append after) ran
  have plain : middle.frame.flags = {} := by rw [frame, plain]
  obtain ⟨next, ran, outside, aroundToo, others, changed⟩ := two outside plain after ran
  refine ⟨next, ran, outside, aroundToo.trans around, others ++ more, ?_⟩
  rw [changed, frame, List.append_assoc]

theorem onlyAdds_literal (text : Text) : OnlyAdds (text.map literalSymbol) := by
  intro reader result rest outside plain settled ran
  rw [reads_text reader outside plain text rest settled] at ran
  exact ⟨_, ran, outside, rfl, _, rfl⟩

/-- Whether a text is a regular expression by itself. -/
def IsFragment (fragment : Text) : Prop :=
  ∃ expression, Regex.read fragment = .ok expression

instance (fragment : Text) : Decidable (IsFragment fragment) :=
  match read : Regex.read fragment with
  | .ok expression => isTrue ⟨expression, read⟩
  | .error _ => isFalse fun ⟨_, accepted⟩ => by
      rw [read] at accepted
      cases accepted

/-- A fragment is read from start to end. -/
theorem IsFragment.run {fragment : Text} (accepted : IsFragment fragment) :
    ∃ symbols final, Symbol.ofText fragment = some symbols ∧
      Reader.start.run 0 symbols = .ok final ∧ final.draft = none ∧ final.outer = [] := by
  obtain ⟨expression, read⟩ := accepted
  obtain ⟨symbols, final, split, ran, complete, _⟩ := read_eq_ok.mp read
  exact ⟨symbols, final, split, ran, complete.draft, complete.outer⟩

/-- A fragment does not start with a question mark: there would be nothing that it repeats. -/
theorem nextIs_fragment {symbols : List Symbol} {final : Reader}
    (ran : Reader.start.run 0 symbols = .ok final) : nextIs '?' symbols = false := by
  cases symbols with
  | nil => rfl
  | cons symbol rest =>
      rcases eq_or_ne symbol (.plain '?') with rfl | other
      · have refused : Reader.start.step (.plain '?') rest = .error .malformed := by
          change Reader.start.quantify 0 (some 1) 0 rest = _
          simp only [Reader.quantify]
          split
          · rfl
          · split <;> rfl
        rw [Reader.run, refused] at ran
        cases ran
      · simpa [nextIs] using other

/-- The source of a placeholder with any fragment adds one piece. -/
theorem onlyAdds_placeholder {p : Placeholder} {symbols : List Symbol} {final : Reader}
    (ran : Reader.start.run 0 symbols = .ok final) (outside : final.draft = none)
    (complete : final.outer = []) (identifier : p.name ≠ [] → Unicode.isIdentifier p.name = true) :
    OnlyAdds (p.opening ++ symbols ++ p.closing) := by
  intro reader result rest readerOutside plain settled whole
  rw [List.append_assoc, List.append_assoc] at whole
  have named : p.name ≠ [] →
      Unicode.isIdentifier p.name = true ∧ reader.names.lookup p.name = none := fun given =>
    ⟨identifier given,
      Placeholder.fresh_of_run_opening readerOutside plain given (identifier given) whole⟩
  have started : nextIs '?' (symbols ++ (p.closing ++ rest)) = false := by
    cases symbols with
    | nil => rfl
    | cons symbol others =>
        have first : nextIs '?' (symbol :: others) = false := nextIs_fragment ran
        exact first
  rw [Placeholder.run_opening readerOutside plain named started] at whole
  have nested : Reader.Nested (p.enterPlain reader).nextNumber
      ((p.enterPlain reader).frame :: reader.frame :: reader.outer) .start (p.enter reader) :=
    ⟨readerOutside, .bottom rfl rfl plain⟩
  obtain ⟨reached, later, together⟩ := nested.run (Nat.zero_le _) ran complete whole
  have groups := together.groups
  rw [complete] at groups
  obtain ⟨capturing, _, _, around⟩ := groups.ground
  have draft : reached.draft = none := together.draft.trans outside
  have closed := p.reads_closing reached draft capturing around rfl rfl rest settled
  exact ⟨_, closed.symm.trans later, draft, rfl, [_], rfl⟩

/-- **The source of tokens is read token by token.** Whatever fragments the types stand for, if each
of them is an expression by itself, then the source only adds pieces to the open group. -/
theorem onlyAdds_render {resolver : Resolver} {parts : List Token} {body : Text}
    (rendered : resolver.render parts = .ok body)
    (identifiers : ∀ name ∈ namesOf parts, Unicode.isIdentifier name = true)
    (fragments : ∀ p ∈ placeholdersOf parts, ∀ fragment,
      resolver.fragment? p.typeKey = some fragment → IsFragment fragment) :
    ∃ symbols, Symbol.ofText body = some symbols ∧ Settled symbols ∧ OnlyAdds symbols := by
  induction parts generalizing body with
  | nil =>
      cases rendered
      exact ⟨[], rfl, ⟨rfl, rfl⟩, onlyAdds_nil⟩
  | cons token others ih =>
      cases token with
      | literal text =>
          rw [Resolver.render] at rendered
          obtain ⟨later, done, rfl⟩ := map_eq_ok rendered
          obtain ⟨symbols, read, settled, adds⟩ := ih done identifiers fragments
          exact ⟨text.map literalSymbol ++ symbols, Symbol.ofText_concat (ofText_escapeText text) read,
            (settled_literal text).append settled, (onlyAdds_literal text).append adds settled⟩
      | placeholder p =>
          rw [Resolver.render] at rendered
          cases known : resolver.fragment? p.typeKey with
          | none =>
              rw [known] at rendered
              cases rendered
          | some fragment =>
              rw [known] at rendered
              dsimp only at rendered
              obtain ⟨later, done, rfl⟩ := map_eq_ok rendered
              have identifier : p.name ≠ [] → Unicode.isIdentifier p.name = true := fun given =>
                identifiers _ (mem_namesOf_self given others)
              have free : ∀ c ∈ p.name, c ≠ '\\' := fun c inside =>
                (identifier_free (identifier (List.ne_nil_of_mem inside)) c inside).1
              obtain ⟨symbols, read, settled, adds⟩ := ih done
                (fun name member => identifiers name (mem_namesOf_cons member p))
                (fun q member => fragments q (List.mem_cons_of_mem _ member))
              obtain ⟨value, final, split, ran, outside, complete⟩ :=
                (fragments p List.mem_cons_self fragment known).run
              exact ⟨p.opening ++ value ++ p.closing ++ symbols,
                Symbol.ofText_concat (Placeholder.ofText_source free split) read,
                settled_cons _ (by decide) (by decide),
                (onlyAdds_placeholder ran outside complete identifier).append adds settled⟩

end Signpost
