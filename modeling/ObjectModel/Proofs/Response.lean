import ObjectModel.Proofs.Result
import ObjectModel.Session.Response

/-!
# Responses

When a request has an answer, what becomes of a response when a function is applied to its result, and how a property of
all events of a response follows from the events of the operation behind it.
-/

namespace ObjectModel

namespace Response

variable {α β γ : Type} {b : β}

/-- A request with an operand succeeds exactly when the operand stands for something with which it does. -/
theorem result_given_eq_ok_iff {operand : Except Refusal α} {respond : α → Response β} :
    (given operand respond).result = .ok b ↔ ∃ a, operand = .ok a ∧ (respond a).result = .ok b := by
  cases operand with
  | error refusal => simp [given, refuse]
  | ok a => simp [given]

/-- A request for an operation succeeds exactly when the operation does. -/
theorem result_ofOutcome_eq_ok_iff {outcome : Outcome α} {f : α → β} :
    (ofOutcome outcome f).result = .ok b ↔ ∃ a, outcome.value = .ok a ∧ f a = b := by
  simp only [ofOutcome, map_eq_ok_iff, mapError_eq_ok_iff]

/-- A request for an operation that fails has the fault for a failure. -/
theorem result_ofOutcome_of_error {outcome : Outcome α} {fault : Fault} (h : outcome.value = .error fault)
    (f : α → β) : (ofOutcome outcome f).result = .error (.faulted fault) := by
  rw [ofOutcome, h]
  rfl

/-- The response with a function applied to the result. -/
def map (f : α → β) (response : Response α) : Response β :=
  ⟨response.result.map f, response.events⟩

/-- The response with a result without events. -/
def ofResult (result : Except Fault α) : Response α :=
  ⟨result.mapError .faulted, []⟩

/-- A result without events is turned into another one at once. -/
theorem map_ofResult (result : Except Fault α) (f : α → β) : (ofResult result).map f = ofResult (result.map f) := by
  cases result with
  | error fault => rfl
  | ok a => rfl

/-- The result of an operation is turned into another one at once. -/
theorem map_ofOutcome (outcome : Outcome α) (f : α → β) (g : β → γ) :
    (ofOutcome outcome f).map g = ofOutcome outcome fun a => g (f a) := by
  rw [map, ofOutcome, ofOutcome]
  cases outcome.value with
  | error fault => rfl
  | ok a => rfl

/-- What an operand leads to is turned into something else at once. -/
theorem map_given (operand : Except Refusal α) (respond : α → Response β) (f : β → γ) :
    (given operand respond).map f = given operand fun a => (respond a).map f := by
  cases operand with
  | error refusal => rfl
  | ok a => rfl

section Only

variable {P : Event → Prop}

/-- All events of a response have a property. -/
def Only (response : Response α) (P : Event → Prop) : Prop :=
  ∀ event ∈ response.events, P event

/-- An answer without an event has no event without the property. -/
theorem only_answer (a : α) : (answer a).Only P := fun _ hmem => nomatch hmem

/-- A refusal has no event without the property. -/
theorem only_refuse (refusal : Refusal) : (refuse refusal : Response α).Only P := fun _ hmem => nomatch hmem

/-- The events of a request with an operand have the property if they do for all that the operand may stand for. -/
theorem only_given {operand : Except Refusal α} {respond : α → Response β}
    (h : ∀ a, operand = .ok a → (respond a).Only P) : (given operand respond).Only P := by
  cases operand with
  | error refusal => exact only_refuse refusal
  | ok a => exact h a rfl

/-- The events of an operation that may fail are those of the response. -/
theorem only_ofOutcome {outcome : Outcome α} {f : α → β} (h : ∀ event ∈ outcome.events, P event) :
    (ofOutcome outcome f).Only P := h

end Only

end Response

end ObjectModel
