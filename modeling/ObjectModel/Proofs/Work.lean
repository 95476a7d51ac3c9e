import ObjectModel.Proofs.Response

/-!
# Working in place

An operation that works on a state in place leaves a state behind also when it fails, and what it has changed by then
stays changed. Operations are put together from checks, which leave the state alone, and changes, which cannot fail.
When all checks come ahead of the first change, the whole is done all at once or not at all.
-/

namespace ObjectModel

/-- An operation that works on a state in place: the state that it leaves behind, and its result and events. -/
@[ext]
structure Work (σ α : Type) where
  run : σ → σ × Response α

namespace Work

variable {σ α β : Type}

/-- The next step is made if the first one succeeds. What the first has changed stays changed if the next one fails. -/
instance : Monad (Work σ) where
  pure a := ⟨fun s => (s, .answer a)⟩
  bind first next := ⟨fun s =>
    match (first.run s).2.result with
    | .ok a =>
      let second := (next a).run (first.run s).1
      (second.1, ⟨second.2.result, (first.run s).2.events ++ second.2.events⟩)
    | .error failure => ((first.run s).1, ⟨.error failure, (first.run s).2.events⟩)⟩

/-- A step that looks at the state and may fail. -/
def check (look : σ → Response α) : Work σ α :=
  ⟨fun s => (s, look s)⟩

/-- A step that needs an operand to stand for something. -/
def operand (look : σ → Except Refusal α) : Work σ α :=
  check fun s => .given (look s) .answer

/-- A step that fails with a fault or has a value, and leaves the state alone. -/
def orFault (result : Except Fault α) : Work σ α :=
  check fun _ => .ofResult result

/-- A step that changes the state and cannot fail. -/
def change (next : σ → σ × α) : Work σ α :=
  ⟨fun s => ((next s).1, .answer (next s).2)⟩

/-- A step that only reports. -/
def emit (event : Event) : Work σ Unit :=
  ⟨fun s => (s, ⟨.ok (), [event]⟩)⟩

/-- An operation done all at once: it has a next state if it succeeds, and leaves the state alone if it fails. -/
def atOnce (op : σ → Response (σ × α)) : Work σ α :=
  ⟨fun s =>
    match (op s).result with
    | .ok (next, a) => (next, ⟨.ok a, (op s).events⟩)
    | .error failure => (s, ⟨.error failure, (op s).events⟩)⟩

variable {first : Work σ α} {s later : σ} {a : α} {failure : Failure} {events : List Event}

/-- What follows a check finds the same state, and nothing follows a check that fails. -/
theorem run_check_bind (look : σ → Response α) (next : α → Work σ β) (s : σ) :
    (check look >>= next).run s =
      match (look s).result with
      | .ok a => (((next a).run s).1, ⟨((next a).run s).2.result, (look s).events ++ ((next a).run s).2.events⟩)
      | .error failure => (s, ⟨.error failure, (look s).events⟩) := rfl

/-- What follows a step that succeeds finds the state that it left, and its events follow. -/
theorem run_bind_of_ok (h : first.run s = (later, ⟨.ok a, events⟩)) (next : α → Work σ β) :
    (first >>= next).run s =
      (((next a).run later).1, ⟨((next a).run later).2.result, events ++ ((next a).run later).2.events⟩) := by
  change (match (first.run s).2.result with | .ok a => _ | .error failure => _) = _
  rw [h]

/-- Nothing follows a step that fails. -/
theorem run_bind_of_error (h : first.run s = (later, ⟨.error failure, events⟩)) (next : α → Work σ β) :
    (first >>= next).run s = (later, ⟨.error failure, events⟩) := by
  change (match (first.run s).2.result with | .ok a => _ | .error failure => _) = _
  rw [h]

/-- An operation done at once that succeeds has its state and its value. -/
theorem run_atOnce_of_ok {op : σ → Response (σ × α)} (h : (op s).result = .ok (later, a)) :
    (atOnce op).run s = (later, ⟨.ok a, (op s).events⟩) := by
  simp only [atOnce, h]

/-- An operation done at once that fails leaves the state alone. -/
theorem run_atOnce_of_error {op : σ → Response (σ × α)} (h : (op s).result = .error failure) :
    (atOnce op).run s = (s, ⟨.error failure, (op s).events⟩) := by
  simp only [atOnce, h]

section Algebra

/-! Checks ahead of what is done at once, and changes behind it, are done at once with it. -/

/-- What is done at once after a look at the state. -/
theorem look_bind_atOnce (look : σ → α) (op : α → σ → Response (σ × β)) :
    (check (fun s => .answer (look s)) >>= fun a => atOnce (op a)) = atOnce fun s => op (look s) s := rfl

/-- What is done at once for an operand. -/
theorem operand_bind_atOnce (look : σ → Except Refusal α) (op : α → σ → Response (σ × β)) :
    (operand look >>= fun a => atOnce (op a)) = atOnce fun s => .given (look s) fun a => op a s := by
  refine Work.ext (funext fun s => ?_)
  rw [operand, run_check_bind]
  cases hlook : look s with
  | error refusal => simp only [atOnce, hlook, Response.given, Response.refuse]
  | ok a => simp only [atOnce, hlook, Response.given, Response.answer, List.nil_append]

/-- What is changed after something that is done at once. -/
theorem atOnce_bind_change (op : σ → Response (σ × α)) (next : α → σ → σ × β) :
    (atOnce op >>= fun a => change (next a)) = atOnce fun s => (op s).map fun made => next made.2 made.1 := by
  refine Work.ext (funext fun s => ?_)
  cases hop : (op s).result with
  | error failure =>
    rw [run_bind_of_error (run_atOnce_of_error hop)]
    simp only [atOnce, Response.map, hop, Except.map]
  | ok made =>
    rw [run_bind_of_ok (run_atOnce_of_ok hop)]
    simp only [atOnce, Response.map, hop, Except.map, change, Response.answer, List.append_nil]

/-- What the value of something that is done at once is turned into. -/
theorem atOnce_bind_pure (op : σ → Response (σ × α)) (f : α → β) :
    (atOnce op >>= fun a => pure (f a)) = atOnce fun s => (op s).map fun made => (made.1, f made.2) :=
  atOnce_bind_change op fun a s => (s, f a)

/-- A step that fails or has a value is done at once, with the same state. -/
theorem orFault_eq_atOnce (result : Except Fault α) :
    (orFault result : Work σ α) = atOnce fun s => .ofResult (result.map fun a => (s, a)) := by
  cases result with
  | error fault => rfl
  | ok a => rfl

/-- What is done at once after a result that may be a fault. -/
theorem orFault_bind_atOnce (result : Except Fault α) (op : α → σ → Except Fault (σ × β)) :
    (orFault result >>= fun a => atOnce fun s => .ofResult (op a s)) =
      atOnce fun s => .ofResult (result.bind fun a => op a s) := by
  cases result with
  | error fault => rfl
  | ok a => rfl

end Algebra

end Work

end ObjectModel
