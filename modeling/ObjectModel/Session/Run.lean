import ObjectModel.Session.Command
import ObjectModel.Session.Query

/-!
# Runs

A run makes requests one after the other, each in the session that the ones before it left behind.
-/

namespace ObjectModel

/-- A request of a client. -/
inductive Request where
  | query (q : Query)
  | command (c : Command)

namespace Session

/-- The session after a change: the next one, or the same if the command has none. -/
def after (s : Session) (change : Change) : Session :=
  match change.result with
  | .ok (next, _) => next
  | .error _ => s

/-- The session after a request, and the response to it. -/
def perform (s : Session) : Request → Session × Response Answer
  | .query q => (s, s.ask q)
  | .command c =>
    let change := s.attempt c
    (s.after change, ⟨change.result.map (·.2), change.events⟩)

/-- The session after a run, and the responses in order. -/
def run (s : Session) : List Request → Session × List (Response Answer)
  | [] => (s, [])
  | request :: rest =>
    let first := s.perform request
    let others := run first.1 rest
    (others.1, first.2 :: others.2)

/-- A query leaves the session as it is. -/
theorem perform_query (s : Session) (q : Query) : (s.perform (.query q)).1 = s := rfl

/-- A command without an answer leaves the session as it is. -/
theorem perform_of_error {s : Session} {c : Command} {failure : Failure}
    (h : (s.attempt c).result = .error failure) : (s.perform (.command c)).1 = s := by
  simp [perform, after, h]

/-- A run of two parts is the run of the second in the session that the first leaves behind. -/
theorem run_append (s : Session) (first second : List Request) :
    s.run (first ++ second) =
      (((s.run first).1.run second).1, (s.run first).2 ++ ((s.run first).1.run second).2) := by
  induction first generalizing s with
  | nil => rfl
  | cons request rest ih => simp [run, ih]

end Session

end ObjectModel
