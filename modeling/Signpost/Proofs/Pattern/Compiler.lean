import Signpost.Proofs.Outcome
import Signpost.Compiler

/-!
# What a compiler remembers

A kept form is what compiling gives (`Compiler.Coherent`), from a new compiler on and whatever has
been compiled since.  So the answers of a compiler depend on its table alone, and not on what it has
been asked before.
-/

namespace Signpost

namespace Compiler

variable [Unicode.Names]

/-- Every kept form is the one that its pattern is compiled to. -/
def Coherent (compiler : Compiler) : Prop :=
  ∀ pattern compiled, compiler.find? pattern = some compiled →
    compilePattern compiler.resolver pattern = .ok compiled

theorem coherent_new (extra : MatchTypes) (strict : Bool) : (new extra strict).Coherent :=
  fun _ _ found => by cases found

/-- The second compiler is what the first one may become by use: its table is the same, and it is
coherent if the first one was. -/
structure Later (before after : Compiler) : Prop where
  resolver : after.resolver = before.resolver
  coherent : before.Coherent → after.Coherent

/-- The second compiler is the first one with more patterns kept, each in the form that compiling
gives. -/
structure Grown (before after : Compiler) : Prop where
  resolver : after.resolver = before.resolver
  kept : ∃ added, after.kept = before.kept ++ added ∧
    ∀ entry ∈ added, compilePattern before.resolver entry.1 = .ok entry.2

namespace Grown

variable {first second third : Compiler}

theorem refl (compiler : Compiler) : Grown compiler compiler :=
  ⟨rfl, [], (List.append_nil _).symm, by simp⟩

theorem trans (one : Grown first second) (two : Grown second third) : Grown first third := by
  obtain ⟨sameOne, added, kept, faithful⟩ := one
  obtain ⟨sameTwo, more, keptToo, faithfulToo⟩ := two
  refine ⟨sameTwo.trans sameOne, added ++ more, ?_, ?_⟩
  · rw [keptToo, kept, List.append_assoc]
  · intro entry member
    rcases List.mem_append.mp member with old | new
    · exact faithful entry old
    · rw [← sameOne]
      exact faithfulToo entry new

/-- What has been kept stays. -/
theorem find? (grown : Grown first second) {pattern : Text} {compiled : CompiledPattern}
    (found : first.find? pattern = some compiled) : second.find? pattern = some compiled := by
  obtain ⟨_, added, kept, _⟩ := grown
  rw [Compiler.find?, kept, List.lookup_append, ← Compiler.find?, found, Option.some_or]

/-- What is found was kept before, or is what compiling gives. -/
theorem find?_cases (grown : Grown first second) {pattern : Text} {compiled : CompiledPattern}
    (found : second.find? pattern = some compiled) :
    first.find? pattern = some compiled ∨
      compilePattern first.resolver pattern = .ok compiled := by
  obtain ⟨_, added, kept, faithful⟩ := grown
  rw [Compiler.find?, kept, List.lookup_append] at found
  rcases Option.or_eq_some_iff.mp found with old | ⟨_, new⟩
  · exact .inl old
  · obtain ⟨front, back, whole, _⟩ := List.lookup_eq_some_iff.mp new
    exact .inr (faithful (pattern, compiled)
      (whole ▸ List.mem_append_right front List.mem_cons_self))

theorem later (grown : Grown first second) : Later first second := by
  refine ⟨grown.resolver, fun coherent pattern compiled found => ?_⟩
  rw [grown.resolver]
  exact (grown.find?_cases found).elim (coherent pattern compiled) id

end Grown

variable (compiler : Compiler) (pattern path : Text)

/-- Compiling keeps the form that compiling gives, under a pattern that had none. -/
theorem grown_compile : Grown compiler (compiler.compile pattern).2 := by
  unfold compile
  split
  · exact Grown.refl compiler
  split
  · exact Grown.refl compiler
  next compiled done =>
    refine ⟨rfl, [(pattern, compiled)], rfl, fun entry member => ?_⟩
    obtain rfl := List.mem_singleton.mp member
    exact done

variable {compiler pattern}

omit [Unicode.Names] in
theorem mem_kept : pattern ∈ compiler.kept.map Prod.fst ↔
    ∃ compiled, compiler.find? pattern = some compiled := by
  constructor
  · intro member
    obtain ⟨entry, inside, rfl⟩ := List.mem_map.mp member
    rw [← Option.ne_none_iff_exists']
    intro missing
    have apart := List.lookup_eq_none_iff.mp missing entry inside
    simp at apart
  · rintro ⟨compiled, found⟩
    obtain ⟨front, back, whole, _⟩ := List.lookup_eq_some_iff.mp found
    rw [whole]
    simp

theorem compile_of_find? {compiled : CompiledPattern}
    (found : compiler.find? pattern = some compiled) :
    compiler.compile pattern = (.ok compiled, compiler) := by
  rw [compile, found]

theorem compile_of_missing (missing : compiler.find? pattern = none) :
    compiler.compile pattern = match compilePattern compiler.resolver pattern with
      | .error fault => (.error fault, compiler)
      | .ok compiled => (.ok compiled, compiler.keep pattern compiled) := by
  cases form : compilePattern compiler.resolver pattern <;> simp only [compile, missing, form]

/-- A pattern that cannot be compiled leaves the compiler as it is. -/
theorem compile_error {fault : Fault} {after : Compiler}
    (failed : compiler.compile pattern = (.error fault, after)) :
    after = compiler ∧ compilePattern compiler.resolver pattern = .error fault := by
  unfold compile at failed
  split at failed
  · cases failed
  split at failed
  next outcome =>
    cases failed
    exact ⟨rfl, outcome⟩
  · cases failed

/-- A compiled pattern is kept, and no other pattern is new. -/
theorem compile_ok {compiled : CompiledPattern} {after : Compiler}
    (done : compiler.compile pattern = (.ok compiled, after)) :
    after.find? pattern = some compiled ∧
      ∀ other, other ≠ pattern → after.find? other = compiler.find? other := by
  unfold compile at done
  split at done
  next found =>
    cases done
    exact ⟨found, fun _ _ => rfl⟩
  next missing =>
    split at done
    · cases done
    cases done
    constructor
    · rw [find?, keep, List.lookup_append, ← find?, missing, List.lookup_cons_self, Option.none_or]
    · intro other apart
      rw [find?, keep, List.lookup_append, ← find?, List.lookup_cons, beq_false_of_ne apart]
      exact Option.or_none

theorem mem_kept_of_compile {compiled : CompiledPattern} {after : Compiler}
    (done : compiler.compile pattern = (.ok compiled, after)) (other : Text) :
    other ∈ after.kept.map Prod.fst ↔
      other ∈ compiler.kept.map Prod.fst ∨ pattern = other := by
  obtain ⟨found, frame⟩ := compile_ok done
  by_cases same : pattern = other
  · subst same
    exact iff_of_true (mem_kept.mpr ⟨compiled, found⟩) (.inr rfl)
  · rw [mem_kept, mem_kept, frame other (Ne.symm same)]
    exact (or_iff_left same).symm

/-- A compiler that answers has kept the pattern, and no other one that it had not. -/
theorem mem_kept_of_match? {path : Text} {answer : Option Params} {after : Compiler}
    (outcome : compiler.match? pattern path = (.ok answer, after)) (other : Text) :
    other ∈ after.kept.map Prod.fst ↔
      other ∈ compiler.kept.map Prod.fst ∨ pattern = other := by
  rw [match?] at outcome
  split at outcome
  · cases outcome
  next compiled used done =>
    cases outcome
    exact mem_kept_of_compile done other

/-- A compiler fails on a pattern that cannot be compiled and that it has not kept, and stays as it
is. -/
theorem match?_error {path : Text} {fault : Fault} {after : Compiler}
    (outcome : compiler.match? pattern path = (.error fault, after)) :
    after = compiler ∧ compilePattern compiler.resolver pattern = .error fault ∧
      pattern ∉ compiler.kept.map Prod.fst := by
  rw [match?] at outcome
  split at outcome
  next failed =>
    cases outcome
    obtain ⟨same, refused⟩ := compile_error failed
    refine ⟨same, refused, fun member => ?_⟩
    obtain ⟨compiled, found⟩ := mem_kept.mp member
    rw [compile_of_find? found] at failed
    cases failed
  · cases outcome

variable (pattern)

/-- A pattern is compiled as if nothing were kept, if what is kept for it is what compiling
gives. -/
theorem compile_fst_of_faithful (faithful : ∀ compiled, compiler.find? pattern = some compiled →
      compilePattern compiler.resolver pattern = .ok compiled) :
    (compiler.compile pattern).1 = compilePattern compiler.resolver pattern := by
  unfold compile
  split
  · next compiled found => exact (faithful compiled found).symm
  · split
    · next failed => exact failed.symm
    · next done => exact done.symm

/-- What is kept does not change what is compiled. -/
theorem Coherent.compile_fst (coherent : compiler.Coherent) :
    (compiler.compile pattern).1 = compilePattern compiler.resolver pattern :=
  compile_fst_of_faithful pattern (coherent pattern)

/-- Using a compiler does not change what it gives, whatever it kept at the start. -/
theorem Grown.compile_fst {first second : Compiler} (grown : Grown first second) :
    (second.compile pattern).1 = (first.compile pattern).1 := by
  cases known : first.find? pattern with
  | some compiled => rw [compile_of_find? known, compile_of_find? (grown.find? known)]
  | none =>
      have before : (first.compile pattern).1 = compilePattern first.resolver pattern :=
        compile_fst_of_faithful pattern fun compiled found => by
          rw [known] at found
          cases found
      rw [before, ← grown.resolver]
      apply compile_fst_of_faithful
      intro compiled found
      rw [grown.resolver]
      refine (grown.find?_cases found).resolve_left fun old => ?_
      rw [known] at old
      cases old

/-- A path is matched against what its pattern is compiled to. -/
theorem match?_eq : compiler.match? pattern path =
    ((compiler.compile pattern).1.map (·.match? path), (compiler.compile pattern).2) := by
  rw [match?]
  rcases compiler.compile pattern with ⟨_ | _, _⟩ <;> rfl

theorem grown_match? (compiler : Compiler) : Grown compiler (compiler.match? pattern path).2 := by
  rw [match?_eq]
  exact compiler.grown_compile pattern

theorem Grown.match?_fst {first second : Compiler} (grown : Grown first second) :
    (second.match? pattern path).1 = (first.match? pattern path).1 := by
  rw [match?_eq, match?_eq, grown.compile_fst]

theorem Coherent.match?_fst (coherent : compiler.Coherent) :
    (compiler.match? pattern path).1 =
      (compilePattern compiler.resolver pattern).map (·.match? path) := by
  rw [match?_eq, coherent.compile_fst]

end Compiler

end Signpost
