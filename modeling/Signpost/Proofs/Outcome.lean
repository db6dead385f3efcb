/-!
# Outcomes that others are made from

When something that is made from an outcome is a success, the outcome was one, and where a success
is only changed, a failure stays as it is.
-/

namespace Signpost

variable {ε α β : Type}

theorem map_eq_ok {f : α → β} {outcome : Except ε α} {value : β}
    (mapped : outcome.map f = .ok value) : ∃ inner, outcome = .ok inner ∧ f inner = value := by
  cases outcome with
  | error fault => cases mapped
  | ok inner => exact ⟨inner, rfl, Except.ok.inj mapped⟩

theorem map_eq_error {f : α → β} {outcome : Except ε α} {fault : ε}
    (mapped : outcome.map f = .error fault) : outcome = .error fault := by
  cases outcome with
  | error reason => exact congrArg Except.error (Except.error.inj mapped)
  | ok value => cases mapped

theorem bind_eq_ok {f : α → Except ε β} {outcome : Except ε α} {value : β}
    (bound : outcome.bind f = .ok value) : ∃ inner, outcome = .ok inner ∧ f inner = .ok value := by
  cases outcome with
  | error fault => cases bound
  | ok inner => exact ⟨inner, rfl, bound⟩

theorem mapError_eq_ok {f : ε → β} {outcome : Except ε α} {value : α}
    (mapped : outcome.mapError f = .ok value) : outcome = .ok value := by
  cases outcome with
  | error fault => cases mapped
  | ok inner =>
      cases mapped
      rfl

end Signpost
