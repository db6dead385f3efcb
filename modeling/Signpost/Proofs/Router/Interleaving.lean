import Mathlib.Data.List.Basic
import Signpost.Proofs.Router.Agreement

/-!
# Registering and configuring in any order

Registrations, new base paths and new match types can be brought into any order that keeps the order
among those of one kind (`Interleaving`): the same registrations fail with the same faults, and the
routers at the end answer alike (`Router.run_interleaving`).  For registering leaves the settings
alone and does not ask for them (`Router.run_refit`), and the settings at the end can be told from
the new ones alone (`Config.settle`).
-/

namespace Signpost

variable {τ : Type}

/-- Operations that are registrations, new base paths and new match types, those of each kind in a
given order. -/
inductive Interleaving :
    List (Operation τ) → List Text → List MatchTypes → List (Operation τ) → Prop where
  | nil : Interleaving [] [] [] []
  | register {registrations bases tables operations} {operation : Operation τ}
      (registers : operation.registers = true)
      (others : Interleaving registrations bases tables operations) :
      Interleaving (operation :: registrations) bases tables (operation :: operations)
  | setBasePath {registrations bases tables operations} (basePath : Text)
      (others : Interleaving registrations bases tables operations) :
      Interleaving registrations (basePath :: bases) tables (.setBasePath basePath :: operations)
  | addMatchTypes {registrations bases tables operations} (types : MatchTypes)
      (others : Interleaving registrations bases tables operations) :
      Interleaving registrations bases (types :: tables) (.addMatchTypes types :: operations)

theorem Interleaving.register_of_mem {registrations operations : List (Operation τ)}
    {bases : List Text} {tables : List MatchTypes}
    (interleaved : Interleaving registrations bases tables operations) :
    ∀ operation ∈ registrations, operation.registers = true := by
  induction interleaved with
  | nil => simp
  | register registers _ ih => exact List.forall_mem_cons.mpr ⟨registers, ih⟩
  | setBasePath _ _ ih => exact ih
  | addMatchTypes _ _ ih => exact ih

/-- The answers that the registrations among operations get. -/
def registered (operations : List (Operation τ)) (answers : List (Except Fault (Answer τ))) :
    List (Except Fault (Answer τ)) :=
  ((operations.zip answers).filter fun pair => pair.1.registers).map Prod.snd

theorem registered_cons_of_registers {operation : Operation τ}
    (registers : operation.registers = true) (operations : List (Operation τ))
    (answer : Except Fault (Answer τ)) (answers : List (Except Fault (Answer τ))) :
    registered (operation :: operations) (answer :: answers) =
      answer :: registered operations answers := by
  simp [registered, registers]

theorem registered_cons_of_not_registers {operation : Operation τ}
    (configures : operation.registers = false) (operations : List (Operation τ))
    (answer : Except Fault (Answer τ)) (answers : List (Except Fault (Answer τ))) :
    registered (operation :: operations) (answer :: answers) = registered operations answers := by
  simp [registered, configures]

/-- The configuration after new base paths and new match types: the last base path, and all types
entered in order. -/
def Config.settle (config : Config) (bases : List Text) (tables : List MatchTypes) : Config :=
  { config with
    basePath := bases.getLastD config.basePath
    matchTypes := tables.foldl MatchTypes.overlay config.matchTypes }

theorem Config.settle_cons (config : Config) (basePath : Text) (bases : List Text)
    (tables : List MatchTypes) :
    config.settle (basePath :: bases) tables =
      (config.withBasePath basePath).settle bases tables := by
  rw [settle, List.getLastD_cons]
  rfl

namespace Router

/-- The compiler after new base paths and new match types: a fresh one, if there are new types. -/
def settledCompiler (router : Router τ) (bases : List Text) (tables : List MatchTypes) :
    Compiler :=
  if tables.isEmpty then router.compiler else (router.config.settle bases tables).compiler

/-- **What an interleaving comes to**: the registrations alone, and the settings. -/
theorem run_of_interleaving [Unicode.Names] {registrations operations : List (Operation τ)}
    {bases : List Text} {tables : List MatchTypes}
    (interleaved : Interleaving registrations bases tables operations) (router : Router τ)
    (around : Surroundings) :
    (router.run around operations).2 = (router.run around registrations).2.refit
        (router.config.settle bases tables) (router.settledCompiler bases tables) ∧
      registered operations (router.run around operations).1 =
        (router.run around registrations).1 ∧
      ∀ pair ∈ operations.zip (router.run around operations).1,
        pair.1.registers = false → pair.2 = .ok .done := by
  induction interleaved generalizing router with
  | nil => exact ⟨rfl, rfl, by simp⟩
  | @register registrations bases tables operations operation registers others ih =>
      obtain ⟨last, answers, done⟩ := ih (router.perform around operation).2
      obtain ⟨config, compiler⟩ := Alike.perform router around registers
      rw [settledCompiler, config, compiler] at last
      rw [run_cons, run_cons, registered_cons_of_registers registers, answers]
      refine ⟨last, rfl, List.forall_mem_cons.mpr ⟨fun configures => ?_, done⟩⟩
      rw [registers] at configures
      cases configures
  | @setBasePath registrations bases tables operations basePath others ih =>
      obtain ⟨last, answers, done⟩ := ih (router.setBasePath basePath)
      have shifted : (router.setBasePath basePath).run around registrations = _ :=
        run_refit router (router.config.withBasePath basePath) router.compiler around
          others.register_of_mem
      have same : (router.setBasePath basePath).settledCompiler bases tables =
          router.settledCompiler (basePath :: bases) tables := by
        cases tables <;> rfl
      rw [shifted, same] at last
      rw [shifted] at answers
      rw [run_cons, registered_cons_of_not_registers rfl, Config.settle_cons]
      exact ⟨last, answers, List.forall_mem_cons.mpr ⟨fun _ => rfl, done⟩⟩
  | @addMatchTypes registrations bases tables operations types others ih =>
      obtain ⟨last, answers, done⟩ := ih (router.addMatchTypes types)
      have shifted : (router.addMatchTypes types).run around registrations = _ :=
        run_refit router (router.config.withMatchTypes types)
          (router.config.withMatchTypes types).compiler around others.register_of_mem
      have fresh : (router.addMatchTypes types).settledCompiler bases tables =
          router.settledCompiler bases (types :: tables) := by
        cases tables <;> rfl
      rw [shifted, fresh] at last
      rw [shifted] at answers
      rw [run_cons, registered_cons_of_not_registers rfl]
      exact ⟨last, answers, List.forall_mem_cons.mpr ⟨fun _ => rfl, done⟩⟩

/-- **Registering and configuring can be done in any order.** Take two routers that an application
can get to, with the same routes, names and configuration.  Let the one go through registrations,
new base paths and new match types in some order, and the other through the same ones in another
order that leaves the order among those of one kind as it is.

Then the registrations are answered alike, with the same routes and the same faults, and nothing
else fails.  Both routers end with the same routes, names and types.  Their configuration is the one
at the start with the last of the base paths and with all types entered in order, and whatever is
done to both of them from then on is answered alike. -/
theorem run_interleaving [Unicode.Names] {router other : Router τ} (reached : router.Reachable)
    (reachedToo : other.Reachable) (agree : Agree router other)
    {registrations operations operationsToo : List (Operation τ)} {bases : List Text}
    {tables : List MatchTypes} (one : Interleaving registrations bases tables operations)
    (two : Interleaving registrations bases tables operationsToo) (around : Surroundings) :
    let first := router.run around operations
    let second := other.run around operationsToo
    registered operations first.1 = registered operationsToo second.1 ∧
      (∀ pair ∈ operations.zip first.1 ++ operationsToo.zip second.1,
        pair.1.registers = false → pair.2 = .ok .done) ∧
      Agree first.2 second.2 ∧
      first.2.config = { router.config with
        basePath := bases.getLastD router.config.basePath
        matchTypes := tables.foldl MatchTypes.overlay router.config.matchTypes } ∧
      first.2.compiler.resolver = second.2.compiler.resolver ∧
      ∀ around later, (first.2.run around later).1 = (second.2.run around later).1 := by
  intro first second
  obtain ⟨last, answers, done⟩ := run_of_interleaving one router around
  obtain ⟨lastToo, answersToo, doneToo⟩ := run_of_interleaving two other around
  obtain ⟨same, alike⟩ := agree.run reached.sound reachedToo.sound around registrations
  have sound : first.2.Sound := (reached.run around operations).sound
  have soundToo : second.2.Sound := (reachedToo.run around operationsToo).sound
  have settled : Agree first.2 second.2 := by
    change Agree (router.run around operations).2 (other.run around operationsToo).2
    rw [last, lastToo, agree.config]
    exact ⟨alike.routes, alike.named, rfl⟩
  refine ⟨?_, ?_, settled, congrArg Router.config last, settled.resolver sound soundToo,
    fun around later => (settled.run sound soundToo around later).1⟩
  · exact (answers.trans same).trans answersToo.symm
  · intro pair member
    rcases List.mem_append.mp member with inFirst | inSecond
    · exact done pair inFirst
    · exact doneToo pair inSecond

/-- Two orders with a batch that fails half-way and a type that is replaced, on a router that has
compiled its pattern and on one that has not. -/
theorem run_interleaving_failing_batch :
    let route (pattern : String) : Entry Nat := .route ⟨['*'], pattern.toList, 1, none⟩
    let built : Router Nat :=
      { config := {}, routes := [⟨['*'], "/u/[i:id]".toList, 1, none⟩],
        compiler := Config.compiler {} }
    let prepared := built.compile.2
    let batch : Operation Nat := .addAll (.entries [route "/v/[s:x]", route "/w[", route "/z"])
    let slug : MatchTypes := [(['s'], some "[a-z]++".toList)]
    let digit : MatchTypes := [(['i'], some "[0-9]".toList)]
    let operations : List (Operation Nat) := [.setBasePath ['a'], .addMatchTypes slug,
      .add (route "/y"), .addMatchTypes digit, .setBasePath ['b'], batch]
    let operationsToo : List (Operation Nat) := [.add (route "/y"), batch, .setBasePath ['a'],
      .setBasePath ['b'], .addMatchTypes slug, .addMatchTypes digit]
    let later : List (Operation Nat) := [.request none (some "b/u/12".toList), .compile]
    Interleaving [.add (route "/y"), batch] [['a'], ['b']] [slug, digit] operations ∧
      Interleaving [.add (route "/y"), batch] [['a'], ['b']] [slug, digit] operationsToo ∧
      ((built.run {} operations).2.run {} later).1 =
        ((prepared.run {} operationsToo).2.run {} later).1 := by
  intro route built prepared batch slug digit operations operationsToo later
  have made : build (τ := Nat) { routes := .entries [route "/u/[i:id]"] } = .ok built := rfl
  have reached : built.Reachable := .built made
  have agree : Agree built prepared := ⟨rfl, rfl, rfl⟩
  have one : Interleaving [.add (route "/y"), batch] [['a'], ['b']] [slug, digit] operations :=
    .setBasePath _ (.addMatchTypes _ (.register rfl (.addMatchTypes _ (.setBasePath _
      (.register rfl .nil)))))
  have two : Interleaving [.add (route "/y"), batch] [['a'], ['b']] [slug, digit] operationsToo :=
    .register rfl (.register rfl (.setBasePath _ (.setBasePath _ (.addMatchTypes _
      (.addMatchTypes _ .nil)))))
  obtain ⟨_, _, _, _, _, alike⟩ := run_interleaving reached (.performed {} .compile reached) agree
    one two {}
  exact ⟨one, two, alike {} later⟩

end Router

end Signpost
