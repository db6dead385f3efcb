import Signpost.Route.Basic
import Signpost.Value

/-!
# Route lists

An application may hand over several routes at once.  Each item is a route, or a list with method
filter, pattern, target and perhaps a name.  Values come unchecked, so an item may also be no route
at all, and the whole may be no list.

A route whose method filter or name is no text can be added as well: neither is looked at before a
request comes.  There are no such routes in this library, and whatever reads values answers nothing
for them.
-/

namespace Signpost

/-- An item of a route list. -/
inductive Entry (τ : Type) where
  | route (r : Route τ)
  /-- Something that is no route. -/
  | misfit (flaw : EntryFlaw)
  deriving DecidableEq, Repr

/-- What is given for a route list. -/
inductive Batch (τ : Type) where
  /-- Items to be added in order. -/
  | entries (items : List (Entry τ))
  /-- A value of a type that has no items. -/
  | other (typeName : Text)
  deriving DecidableEq, Repr

namespace Entry

/-- The name that a value gives to a route.  An empty value gives none, and any other value that is
no text is a name that is not known here. -/
def nameOf : Value → Option (Option Text)
  | .text name => some (some name)
  | .null | .bool false | .int 0 | .list [] | .dict [] => some none
  | .float x => if x == 0 then some none else none
  | _ => none

/-- The item with the given method filter, pattern, target and name.  Only the pattern is looked at
when a route is added. -/
def ofFour (methods pattern target name : Value) : Option (Entry Value) :=
  match pattern with
  | .text pattern => do
      let .text methods := methods | none
      return .route ⟨methods, pattern, target, ← nameOf name⟩
  | _ => some (.misfit .patternNotText)

/-- The item with the given parts. -/
def ofParts : List Value → Option (Entry Value)
  | [methods, pattern, target] => ofFour methods pattern target .null
  | [methods, pattern, target, name] => ofFour methods pattern target name
  | _ => some (.misfit .wrongShape)

/-- The item that a value stands for.  A text stands for the list of its characters, and keys with
values for the list of the keys. -/
def ofValue : Value → Option (Entry Value)
  | .list parts => ofParts parts
  | .text t => ofParts (t.map fun c => .text [c])
  | .dict entries => ofParts (entries.map fun entry => .text entry.1)
  | _ => some (.misfit .wrongShape)

end Entry

/-- The route list that a value stands for.  A text is none, although it has characters. -/
def Batch.ofValue : Value → Option (Batch Value)
  | .list items => (items.mapM Entry.ofValue).map .entries
  | .dict pairs => (pairs.mapM fun pair => Entry.ofValue (.text pair.1)).map .entries
  | value => some (.other value.typeName)

end Signpost
