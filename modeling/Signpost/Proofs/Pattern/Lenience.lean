import Signpost.Proofs.Pattern.Compiler
import Signpost.Proofs.Pattern.Names

/-!
# Unknown types

A lenient compiler takes a type key that its table does not know as a fragment by itself, where a
strict one refuses the pattern.  That is the only place at which the two differ: unless the strict
one refuses a pattern for its types, the lenient one gives the same and keeps the same
(`Compiler.compile_lenient`), and it never refuses a pattern for its types
(`knowsTypes_compilePattern_lenient`).
-/

namespace Signpost

/-- The outcome is not the fault that a type is unknown. -/
def KnowsTypes {α : Type} (outcome : Except Fault α) : Prop :=
  ∀ pattern key, outcome ≠ .error (.unknownMatchType pattern key)

section

variable {α β : Type}

@[simp] theorem knowsTypes_ok (value : α) : KnowsTypes (.ok value : Except Fault α) :=
  nofun

/-- A fault says nothing about what the outcome would have been otherwise. -/
theorem KnowsTypes.error {fault : Fault} (known : KnowsTypes (.error fault : Except Fault α)) :
    KnowsTypes (.error fault : Except Fault β) :=
  fun pattern key same => known pattern key (congrArg Except.error (Except.error.inj same))

theorem knowsTypes_map {f : α → β} {outcome : Except Fault α} :
    KnowsTypes (outcome.map f) ↔ KnowsTypes outcome := by
  cases outcome with
  | error fault => exact ⟨KnowsTypes.error, KnowsTypes.error⟩
  | ok value => exact iff_of_true (knowsTypes_ok _) (knowsTypes_ok value)

theorem KnowsTypes.of_bind {f : α → Except Fault β} {outcome : Except Fault α}
    (known : KnowsTypes (outcome.bind f)) : KnowsTypes outcome := by
  cases outcome with
  | error fault => exact KnowsTypes.error known
  | ok value => exact knowsTypes_ok value

theorem KnowsTypes.bind {f : α → Except Fault β} {outcome : Except Fault α}
    (known : KnowsTypes outcome) (later : ∀ value, KnowsTypes (f value)) :
    KnowsTypes (outcome.bind f) := by
  cases outcome with
  | error fault => exact known.error
  | ok value => exact later value

end

theorem knowsTypes_tokensOrFault (pattern : Text) : KnowsTypes (tokensOrFault pattern) := by
  unfold tokensOrFault
  cases tokens pattern <;> nofun

theorem knowsTypes_compileSource [Unicode.Names] (pattern source : Text) :
    KnowsTypes (compileSource pattern source) := by
  unfold compileSource
  split
  next flaw _ => cases flaw <;> nofun
  · exact knowsTypes_ok _

namespace Resolver

/-- The resolver that takes unknown keys for fragments. -/
def lenient (resolver : Resolver) : Resolver :=
  { resolver with strict := false }

variable {resolver : Resolver}

theorem isSome_fragment?_lenient (key : Text) :
    (resolver.lenient.fragment? key).isSome = true := by
  unfold fragment?
  split <;> rfl

theorem fragment?_lenient {key fragment : Text} (known : resolver.fragment? key = some fragment) :
    resolver.lenient.fragment? key = some fragment := by
  cases found : resolver.types.fragment? key with
  | some _ =>
      simp only [fragment?, lenient, found] at known ⊢
      exact known
  | none =>
      simp only [fragment?, lenient, found] at known ⊢
      split at known
      · cases known
      · exact known

theorem render_lenient {parts : List Token} {body : Text}
    (rendered : resolver.render parts = .ok body) : resolver.lenient.render parts = .ok body := by
  induction parts generalizing body with
  | nil => exact rendered
  | cons token others ih =>
      cases token with
      | literal text =>
          obtain ⟨rest, written, rfl⟩ := map_eq_ok rendered
          rw [render, ih written]
          rfl
      | placeholder p =>
          rw [render] at rendered
          split at rendered
          · cases rendered
          next fragment known =>
            obtain ⟨rest, written, rfl⟩ := map_eq_ok rendered
            rw [render, fragment?_lenient known]
            dsimp only
            rw [ih written]
            rfl

end Resolver

variable {resolver : Resolver}

theorem sourceOf_lenient {pattern : Text} (known : KnowsTypes (sourceOf resolver pattern)) :
    sourceOf resolver.lenient pattern = sourceOf resolver pattern := by
  unfold sourceOf at known ⊢
  cases read : tokensOrFault pattern with
  | error fault => rfl
  | ok parts =>
      rw [read] at known
      cases rendered : resolver.render parts with
      | error key =>
          simp only [bind, Except.bind, rendered, Except.mapError] at known
          exact absurd rfl (known pattern key)
      | ok body => simp only [bind, Except.bind, rendered, Resolver.render_lenient rendered]

theorem knowsTypes_sourceOf_lenient (pattern : Text) :
    KnowsTypes (sourceOf resolver.lenient pattern) := by
  refine (knowsTypes_tokensOrFault pattern).bind fun parts => ?_
  obtain ⟨body, rendered⟩ := Resolver.exists_render.mpr fun p (_ : p ∈ placeholdersOf parts) =>
    resolver.isSome_fragment?_lenient p.typeKey
  rw [rendered]
  exact knowsTypes_ok _

variable [Unicode.Names]

/-- A pattern that is not refused for its types is compiled alike without strictness. -/
theorem compilePattern_lenient {pattern : Text}
    (known : KnowsTypes (compilePattern resolver pattern)) :
    compilePattern resolver.lenient pattern = compilePattern resolver pattern := by
  unfold compilePattern at known ⊢
  split
  · rfl
  next cooked =>
    rw [if_neg cooked] at known
    rw [compilePlaceholders, sourceOf_lenient known.of_bind, compilePlaceholders]

theorem knowsTypes_compilePattern_lenient (pattern : Text) :
    KnowsTypes (compilePattern resolver.lenient pattern) := by
  unfold compilePattern
  split
  · exact knowsTypes_compileSource pattern _
  · exact (knowsTypes_sourceOf_lenient pattern).bind (knowsTypes_compileSource pattern)

namespace Compiler

/-- The compiler that takes unknown keys for fragments, with the same patterns kept. -/
def lenient (compiler : Compiler) : Compiler :=
  { compiler with resolver := compiler.resolver.lenient }

variable {compiler after : Compiler} {pattern path : Text}

/-- A compiler that does not refuse a pattern for its types does the same without strictness. -/
theorem compile_lenient {result : Except Fault CompiledPattern}
    (outcome : compiler.compile pattern = (result, after)) (known : KnowsTypes result) :
    compiler.lenient.compile pattern = (result, after.lenient) := by
  cases found : compiler.find? pattern with
  | some compiled =>
      have foundToo : compiler.lenient.find? pattern = some compiled := found
      rw [compile_of_find? found] at outcome
      cases outcome
      exact compile_of_find? foundToo
  | none =>
      have missingToo : compiler.lenient.find? pattern = none := found
      rw [compile_of_missing found] at outcome
      rw [compile_of_missing missingToo]
      cases form : compilePattern compiler.resolver pattern with
      | error fault =>
          rw [form] at outcome
          cases outcome
          have refused : compilePattern compiler.lenient.resolver pattern = .error fault :=
            (compilePattern_lenient (form ▸ known)).trans form
          rw [refused]
      | ok compiled =>
          rw [form] at outcome
          cases outcome
          have done : compilePattern compiler.lenient.resolver pattern = .ok compiled :=
            (compilePattern_lenient (form ▸ known)).trans form
          rw [done]
          rfl

theorem match?_lenient {result : Except Fault (Option Params)}
    (outcome : compiler.match? pattern path = (result, after)) (known : KnowsTypes result) :
    compiler.lenient.match? pattern path = (result, after.lenient) := by
  rcases done : compiler.compile pattern with ⟨form, next⟩
  rw [match?_eq, done] at outcome
  cases outcome
  rw [match?_eq, compile_lenient done (knowsTypes_map.mp known)]

end Compiler

end Signpost
