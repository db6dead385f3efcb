import Signpost.Proofs.Pattern.Filling
import Signpost.Proofs.Route.LiteralLead

/-!
# Matching a path under a pattern

A pattern whose types keep their built-in fragments is matched as its tokens are, whether it is
compared as literal text, ruled out by its literal lead or matched by its regular expression
(`matchPattern?_eq_matchTokens?`).
-/

namespace Signpost

/-- The types without separators keep their fragments. -/
def Resolver.KeepsTame (resolver : Resolver) : Prop :=
  ∀ type : BuiltinType, type.wild = false →
    resolver.types.fragment? type.key = some type.fragment

theorem isFragment_fragment [Unicode.Names] (type : BuiltinType) : IsFragment type.fragment := by
  cases type <;> exact ⟨_, rfl⟩

theorem keepsTame_new (strict : Bool) : (Compiler.new [] strict).resolver.KeepsTame := by
  intro type _
  cases type <;> rfl

theorem Resolver.KeepsTame.builtin {resolver : Resolver} (tame : resolver.KeepsTame)
    {p : Placeholder} (typed : ∃ type ∈ p.type?, type.wild = false) : resolver.KeepsBuiltin p := by
  obtain ⟨type, isType, isTame⟩ := typed
  refine ⟨type, isType, ?_⟩
  rw [Resolver.fragment?, ← BuiltinType.key_of_ofKey? isType, tame type isTame]

/-- **A pattern with built-in types is matched as its tokens are.** Only the pattern that matches
everything is no matter of its tokens. -/
theorem matchPattern?_eq_matchTokens? [Unicode.Names] {pattern : Text} {parts : List Token}
    {compiler : Compiler} (coherent : compiler.Coherent) (notRaw : isRaw pattern = false)
    (read : tokens pattern = .ok parts)
    (builtin : ∀ p ∈ placeholdersOf parts, compiler.resolver.KeepsBuiltin p)
    (identifiers : ∀ name ∈ namesOf parts, Unicode.isIdentifier name = true)
    (distinct : (namesOf parts).Nodup) {path : Text}
    (special : pattern = catchAll → path = catchAll) :
    (matchPattern? pattern path compiler).1 = .ok (matchTokens? parts path) := by
  by_cases bracket : hasPlaceholders pattern = true
  · have fragments : ∀ p ∈ placeholdersOf parts, ∀ fragment,
        compiler.resolver.fragment? p.typeKey = some fragment → IsFragment fragment := by
      intro p member fragment known
      obtain ⟨type, _, resolved⟩ := builtin p member
      obtain rfl : type.fragment = fragment := Option.some.inj (resolved.symm.trans known)
      exact isFragment_fragment type
    obtain ⟨compiled, compiles, answers⟩ := exists_compiled read builtin identifiers distinct
    obtain ⟨_, matched⟩ := matchPattern?_of_compiled coherent notRaw bracket read compiles
      identifiers fragments path
    rw [matched, answers]
  · have free : '[' ∉ pattern := fun inside => bracket (List.contains_iff_mem.mpr inside)
    obtain rfl := Except.ok.inj (read.symm.trans (tokens_of_free free))
    rw [matchTokens?_literalOf]
    by_cases all : pattern = catchAll
    · rw [matchPattern?, if_pos all, if_pos ((special all).trans all.symm)]
    · exact congrArg Prod.fst (matchPattern?_of_free free all notRaw path compiler)

end Signpost
