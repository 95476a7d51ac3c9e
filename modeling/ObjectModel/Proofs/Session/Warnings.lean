import ObjectModel.Proofs.Session.Accounts

/-!
# Malformed metadata is never reported silently

A request that fails because metadata is malformed has exactly one warning, the report on its fault, and so has a request
through an entry point for native code whose read fails that way. No other request warns, but for those that parse options
and those that read a part of a header that is there and lacks it.
-/

namespace ObjectModel

namespace Request

/-- The request behind one that goes through an entry point for native code; any other request is behind itself. -/
def underlying : Request → Request
  | query q => query q.underlying
  | command c => command c

/-- Whether a request parses options. -/
def parsesOptions : Request → Bool
  | query q => q.parsesOptions
  | command _ => false

end Request

namespace Session

open Response

/-- The warnings of a request tell of malformed metadata. -/
structure WarnsOfMalformed (s : Session) (request : Request) : Prop where
  /-- A request behind which metadata is malformed warns exactly once, with the values of the fault. -/
  once : ∀ fault, (s.perform request.underlying).2.result = .error (.faulted fault) →
    fault.kind = .malformedMetadata →
    ∃ event, fault.report? = some event ∧ (s.perform request).2.warnings = [event]
  /-- A request that warns and parses no options has malformed metadata behind it, or a header that lacks what is read. -/
  only : request.parsesOptions = false → ∀ event ∈ (s.perform request).2.events, event.level = .warn →
    ∃ fault, (s.perform request.underlying).2.result = .error (.faulted fault) ∧
      (fault.kind = .malformedMetadata ∨
        fault.kind = .invalidReference ∧ ∃ q, request = .query q ∧ s.LacksPart q.underlying)

/-- Malformed metadata is reported in a session: by every request, and wherever the text of an instance is read. -/
structure ReportsMalformed (s : Session) : Prop where
  requests : ∀ request, s.WarnsOfMalformed request
  texts : ∀ (value : Instance) text, value.text? s.heap = some text →
    (∀ fault, text.value = .error fault → fault.kind = .malformedMetadata →
        ∃ event, fault.report? = some event ∧ text.events = [event]) ∧
      ∀ event ∈ text.events, ∃ fault, text.value = .error fault ∧ fault.kind = .malformedMetadata

variable {s : Session} {request : Request}

/-- An entry point for native code has the warnings of the read behind it. -/
theorem warnings_underlying (s : Session) (request : Request) :
    (s.perform request).2.warnings = (s.perform request.underlying).2.warnings := by
  cases request with
  | command c => rfl
  | query q =>
    obtain ⟨errors, hevents, herrors⟩ := s.addsErrors_ask q
    have hnone : errors.filter (·.level = .warn) = [] := by
      refine Event.filter_warn_eq_nil fun event hmem => ?_
      rw [herrors event hmem]
      exact Level.noConfusion
    change (s.ask q).events.filter _ = (s.ask q.underlying).events.filter _
    rw [hevents, List.filter_append, hnone, List.append_nil]

/-- A request warns of malformed metadata if the one behind it accounts for its warnings. -/
theorem warnsOfMalformed_of_accounts {level : Level} (h : (s.perform request.underlying).2.Accounts level) :
    s.WarnsOfMalformed request where
  once fault hresult hkind := by
    rw [warnings_underlying]
    exact h.warnings_of_malformed hresult hkind
  only _ event hmem hwarn := by
    have hmem' := mem_warnings_iff.mpr ⟨hmem, hwarn⟩
    rw [warnings_underlying] at hmem'
    obtain ⟨fault, hresult, hkind⟩ := h.exists_malformed hmem'
    exact ⟨fault, hresult, .inl hkind⟩

/-- Every request warns of malformed metadata. -/
theorem warnsOfMalformed (s : Session) (request : Request) : s.WarnsOfMalformed request := by
  cases request with
  | command c => exact warnsOfMalformed_of_accounts ((s.accounts_attempt c).map _)
  | query q =>
    by_cases hpart : s.LacksPart q.underlying
    · obtain ⟨fault, event, hkind, -, hask⟩ := ask_of_lacksPart hpart
      have hresult : (s.perform (.query q.underlying)).2.result = .error (.faulted fault) := congrArg Response.result hask
      refine ⟨fun other hother hmalformed => ?_, fun _ _ _ _ => ⟨fault, hresult, .inr ⟨hkind, q, rfl, hpart⟩⟩⟩
      cases hresult.symm.trans hother
      exact absurd (hkind.symm.trans hmalformed) (by decide)
    · cases hparse : q.underlying.parsesOptions with
      | false => exact warnsOfMalformed_of_accounts (s.accounts_ask q.underlying_underlying hparse hpart)
      | true =>
        have hself := Query.underlying_of_parsesOptions hparse
        rw [hself] at hparse
        obtain ⟨⟨answer, hanswer⟩, -⟩ := s.ask_of_parsesOptions hparse
        refine ⟨fun fault hfault => ?_, fun hother => absurd (hparse.symm.trans hother) Bool.noConfusion⟩
        rw [Request.underlying, hself] at hfault
        cases hanswer.symm.trans hfault

/-- Malformed metadata is never reported silently: in every session, exactly the requests behind which metadata is
malformed warn, once each, but for parsing options and for reading what a header lacks. -/
theorem reportsMalformed (s : Session) : s.ReportsMalformed where
  requests := s.warnsOfMalformed
  texts value text htext := by
    have hreports : text.Reports fun _ => [] := by
      cases value with
      | string c e header id => exact StringHeader.reports_decode? htext
      | _ => cases htext
    refine ⟨fun fault hfault hkind => ?_, fun event hmem => ?_⟩
    · obtain ⟨event, hreport⟩ := Fault.exists_report?_iff.mpr hkind
      rw [Outcome.Reports, hfault, Outcome.eventsOf, hreport] at hreports
      exact ⟨event, hreport, hreports⟩
    · rw [hreports] at hmem
      cases hvalue : text.value with
      | ok a =>
        rw [hvalue] at hmem
        cases hmem
      | error fault =>
        rw [hvalue, Outcome.eventsOf, Option.mem_toList] at hmem
        exact ⟨fault, rfl, Fault.exists_report?_iff.mp ⟨event, hmem⟩⟩

/-- Too many interfaces, a negative length read through the entry point, and a header without a dispatch vector: one
warning each. The lookup of a null name fails without one. -/
example :
    let requests := [.command (.replace ⟨.utf8, 1⟩), .command .newTable,
      .command (.load 0 ((ClassDefinition.object "A").implementsAll ["I", "J"])),
      .command (.makeArray .null (-1) .byte none), .query (.nativeLength (.handmade 0)),
      .query (.nativeVector (.array 0)), .query (.nativeImplements .null none)]
    (start.run requests).2.map (·.warnings.length) = [0, 0, 1, 0, 1, 1, 0] := by
  cbv

end Session

end ObjectModel
