import ObjectModel.Proofs.Session.Effect

/-!
# Histories

The commands of a run that succeed, each with the session that it found. What a session is after a run follows from the
session before and from this history: queries and commands without an answer leave no trace.
-/

namespace ObjectModel.Session

/-- The command of a request, if the request is for one that succeeds. -/
def succeeded? (s : Session) : Request → Option Command
  | .query _ => none
  | .command c =>
    match (s.attempt c).result with
    | .ok _ => some c
    | .error _ => none

/-- The commands of a run that succeed, each with the session that it found. -/
def history (s : Session) : List Request → List (Session × Command)
  | [] => []
  | request :: rest => ((s.succeeded? request).map (s, ·)).toList ++ history (s.perform request).1 rest

variable {s : Session}

/-- A request either has the effect of its command, which succeeds, or leaves the session as it is. -/
theorem perform_cases (s : Session) (request : Request) :
    (∃ c, request = .command c ∧ s.succeeded? request = some c ∧ s.Effect c (s.perform request).1) ∨
      (s.succeeded? request = none ∧ (s.perform request).1 = s) := by
  cases request with
  | query q => exact .inr ⟨rfl, rfl⟩
  | command c =>
    cases hresult : (s.attempt c).result with
    | error failure =>
      refine .inr ⟨?_, perform_of_error hresult⟩
      rw [succeeded?, hresult]
    | ok changed =>
      obtain ⟨next, a⟩ := changed
      refine .inl ⟨c, rfl, ?_, ?_⟩
      · rw [succeeded?, hresult]
      · rw [perform, after, hresult]
        exact effect_of_attempt hresult

/-- What every effect carries on to a history that is longer by its command holds after a run. -/
theorem history_induction {P : Session → List (Session × Command) → Prop}
    (hstep : ∀ s c next log, s.Effect c next → P s log → P next (log ++ [(s, c)])) (log : List (Session × Command))
    (h : P s log) (requests : List Request) : P (s.run requests).1 (log ++ s.history requests) := by
  induction requests generalizing s log with
  | nil =>
    rw [history, List.append_nil]
    exact h
  | cons request rest ih =>
    rw [history, ← List.append_assoc]
    apply ih
    rcases s.perform_cases request with ⟨c, -, hsucceeded, heffect⟩ | ⟨hnone, hsame⟩
    · rw [hsucceeded]
      exact hstep s c _ log heffect h
    · rw [hnone, hsame]
      exact (List.append_nil log).symm ▸ h

/-- What every effect keeps holds after a run. -/
theorem run_induction {P : Session → Prop} (hstep : ∀ s c next, s.Effect c next → P s → P next) (h : P s)
    (requests : List Request) : P (s.run requests).1 :=
  history_induction (P := fun s _ => P s) (fun s c next _ => hstep s c next) [] h requests

/-- What holds at the start and is kept by every effect on a session of a run holds in every session of a run. -/
theorem reachable_induction {P : Session → Prop} (hstart : P start)
    (hstep : ∀ earlier c next, (start.run earlier).1.Effect c next → P (start.run earlier).1 → P next)
    (requests : List Request) : P (start.run requests).1 := by
  induction requests using List.reverseRecOn with
  | nil => exact hstart
  | append_singleton earlier request ih =>
    rw [run_append]
    rcases (start.run earlier).1.perform_cases request with ⟨c, -, -, heffect⟩ | ⟨-, hsame⟩
    · exact hstep earlier c _ heffect ih
    · exact hsame.symm ▸ ih

/-- A command in the history of a run was requested. -/
theorem mem_of_mem_history {requests : List Request} {entry : Session × Command} (h : entry ∈ s.history requests) :
    .command entry.2 ∈ requests := by
  induction requests generalizing s with
  | nil => cases h
  | cons request rest ih =>
    rcases List.mem_append.mp h with hfirst | hrest
    · obtain ⟨c, hc, rfl⟩ := Option.map_eq_some_iff.mp (Option.mem_toList.mp hfirst)
      rcases s.perform_cases request with ⟨other, rfl, hother, -⟩ | ⟨hnone, -⟩
      · cases hc.symm.trans hother
        exact List.mem_cons_self
      · cases hc.symm.trans hnone
    · exact List.mem_cons_of_mem _ (ih hrest)

/-- What every command keeps but one that ends it holds after a run, or the run has requested that command; and then what
follows the end holds, if every command keeps that. -/
theorem kept_until {P Q : Session → Prop} (ending : Command)
    (hkeeps : ∀ s c next, s.Effect c next → P s → P next ∨ c = ending ∧ Q next)
    (hafter : ∀ s c next, s.Effect c next → Q s → Q next) (h : P s) (requests : List Request) :
    P (s.run requests).1 ∨ Q (s.run requests).1 ∧ .command ending ∈ requests := by
  have hrun : P (s.run requests).1 ∨ Q (s.run requests).1 ∧ ∃ found, (found, ending) ∈ s.history requests := by
    apply history_induction (P := fun later log => P later ∨ Q later ∧ ∃ found, (found, ending) ∈ log) _ [] (.inl h)
    rintro found c next log heffect (hkept | ⟨hended, other, hmem⟩)
    · rcases hkeeps found c next heffect hkept with hstill | ⟨rfl, hends⟩
      · exact .inl hstill
      · exact .inr ⟨hends, found, List.mem_append_right _ (List.mem_singleton.mpr rfl)⟩
    · exact .inr ⟨hafter found c next heffect hended, other, List.mem_append_left _ hmem⟩
  apply hrun.imp_right
  rintro ⟨hended, found, hmem⟩
  exact ⟨hended, mem_of_mem_history hmem⟩

end ObjectModel.Session
