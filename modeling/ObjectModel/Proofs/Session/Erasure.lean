import ObjectModel.Proofs.Session.InPlace
import ObjectModel.Proofs.Session.Table

/-!
# Failures and reads leave no trace

A request that fails, and any query, leaves the session what it was: the configuration, the heap, every table, every
instance and the next id. A run can therefore be made without such requests: all others have the responses that they
had, and the session ends up the same.
-/

namespace ObjectModel.Session

/-- Carries out a request in place. A query only looks at the session. -/
def carryOutRequest : Request → Work Session Answer
  | .query q => .check fun s => s.ask q
  | .command c => carryOut c

/-- Whether a request has changed the session: a command that was answered. -/
def tookEffect : Request × Response Answer → Bool
  | (.command _, ⟨.ok _, _⟩) => true
  | _ => false

/-- The requests of a run, each with the response to it. -/
def transcript (s : Session) (requests : List Request) : List (Request × Response Answer) :=
  requests.zip (s.run requests).2

/-- What is kept of a run: all that took effect, and of the rest what is chosen. -/
def kept (s : Session) (requests : List Request) (choice : Request × Response Answer → Bool) :
    List (Request × Response Answer) :=
  (s.transcript requests).filter fun entry => tookEffect entry || choice entry

variable {s : Session} {request : Request}

/-- A command done all at once is the command performed. -/
theorem run_atOnce_attempt (s : Session) (c : Command) :
    (Work.atOnce fun s => s.attempt c).run s = s.perform (.command c) := by
  rw [perform, after]
  cases hresult : (s.attempt c).result with
  | error failure => exact Work.run_atOnce_of_error hresult
  | ok changed => exact Work.run_atOnce_of_ok hresult

/-- A request carried out in place is the request performed. -/
theorem run_carryOutRequest (s : Session) (request : Request) :
    (carryOutRequest request).run s = s.perform request := by
  cases request with
  | query q => rfl
  | command c => rw [carryOutRequest, carryOut_eq_atOnce, run_atOnce_attempt]

/-- A request that has not taken effect leaves the session as it is. -/
theorem perform_of_not_tookEffect (h : tookEffect (request, (s.perform request).2) = false) :
    (s.perform request).1 = s := by
  cases request with
  | query q => rfl
  | command c =>
    cases hresult : (s.attempt c).result with
    | error failure => exact perform_of_error hresult
    | ok changed =>
      rw [perform_of_ok hresult] at h
      cases h

/-- A request that fails has not taken effect. -/
theorem tookEffect_of_error {response : Response Answer} {failure : Failure} (h : response.result = .error failure) :
    tookEffect (request, response) = false := by
  obtain ⟨result, events⟩ := response
  cases h
  cases request with
  | query q => rfl
  | command c => rfl

/-- Every response of a run is that to its request in some session. -/
theorem exists_perform_of_mem_transcript {requests : List Request} {response : Response Answer}
    (h : (request, response) ∈ s.transcript requests) : ∃ t : Session, (t.perform request).2 = response := by
  induction requests generalizing s with
  | nil => cases h
  | cons first rest ih =>
    rcases List.mem_cons.mp h with heq | hrest
    · cases heq
      exact ⟨s, rfl⟩
    · exact ih hrest

/-- What is kept of a run begins with its first request, unless that is left out. -/
theorem kept_cons (s : Session) (request : Request) (rest : List Request)
    (choice : Request × Response Answer → Bool) :
    let entry := (request, (s.perform request).2)
    let others := (s.perform request).1.kept rest choice
    s.kept (request :: rest) choice = if tookEffect entry || choice entry then entry :: others else others :=
  List.filter_cons

/-- What is kept of a run goes the same way: the same session is left behind, and the responses are the same. -/
theorem run_kept (s : Session) (requests : List Request) (choice : Request × Response Answer → Bool) :
    s.run ((s.kept requests choice).map Prod.fst) =
      ((s.run requests).1, (s.kept requests choice).map Prod.snd) := by
  induction requests generalizing s with
  | nil => rfl
  | cons request rest ih =>
    rw [kept_cons]
    split
    · simp only [List.map_cons, run, ih]
    · next hleft =>
      rw [Bool.not_eq_true, Bool.or_eq_false_iff] at hleft
      have hsame := perform_of_not_tookEffect hleft.1
      simp only [run, hsame, ih]

/-- Failures are atomic and reads are pure. -/
structure LeavesNoTrace (s : Session) : Prop where
  /-- Step by step in place, a request comes to what it does all at once. -/
  inPlace : ∀ request, (carryOutRequest request).run s = s.perform request
  failed : ∀ request failure, ((carryOutRequest request).run s).2.result = .error failure →
    ((carryOutRequest request).run s).1 = s
  query : ∀ q, ((carryOutRequest (.query q)).run s).1 = s
  /-- A run goes the same way without the requests that failed and the queries, all of them or all but a choice. -/
  erased : ∀ requests choice, s.run ((s.kept requests choice).map Prod.fst) =
    ((s.run requests).1, (s.kept requests choice).map Prod.snd)

/-- Failures and reads leave no trace in any session. Carried out step by step in place, a request that fails has left
the session what it was, wherever it fails; so has every query, whether it is answered or not. What is left of a run
without such requests goes the same way: the same responses, and the same session in the end. -/
theorem leavesNoTrace (s : Session) : s.LeavesNoTrace where
  inPlace := run_carryOutRequest s
  failed request failure h := by
    rw [run_carryOutRequest] at h ⊢
    exact perform_of_not_tookEffect (tookEffect_of_error h)
  query _ := rfl
  erased := run_kept s

end ObjectModel.Session
