import Reckoner.Proofs.Outcome
import Reckoner.Startup

/-!
What validation promises about the router.

Validation looks for wildcards among the origins only. Among methods and headers they are found
when the router is made.
-/
namespace Reckoner

theorem Settings.validate_eq_ok_iff {s : Settings} :
    s.validate = .ok () ↔
      (∃ address, s.server.socketAddress = .ok address) ∧ s.server.requestTimeoutMs ≠ 0 ∧
        s.server.bodyLimitBytes ≠ 0 ∧ s.cors.allowsCredentialsForAll = false ∧
        s.limits.validate = .ok () := by
  unfold validate
  cases s.server.socketAddress with
  | error error => simp [bind, Except.bind]
  | ok address =>
    by_cases htimeout : s.server.requestTimeoutMs = 0
    · simp [bind, Except.bind, throw, throwThe, MonadExceptOf.throw, htimeout]
    · by_cases hbody : s.server.bodyLimitBytes = 0
      · simp [bind, Except.bind, throw, throwThe, MonadExceptOf.throw, htimeout, hbody]
      · cases s.cors.allowsCredentialsForAll with
        | true => simp [bind, Except.bind, throw, throwThe, MonadExceptOf.throw, htimeout, hbody]
        | false => simp [bind, Except.bind, htimeout, hbody, mapError_eq_ok_iff]

namespace Http

theorem Allowance.ofNames_eq_all_iff {usable? : String → Option String} {names : List String} :
    ofNames usable? names = all ↔ "*" ∈ names := by
  unfold ofNames
  split <;> simp_all

/-- The wildcard that an enabled policy with credentials trips over, headers before methods. -/
def conflictOf? (cors : CorsSettings) : Option CorsConflict :=
  if cors.enabled = true ∧ cors.allowCredentials = true then
    if "*" ∈ cors.allowedHeaders then some .headers
    else if "*" ∈ cors.allowedMethods then some .methods
    else none
  else none

theorem conflictOf?_eq_none_iff {cors : CorsSettings} :
    conflictOf? cors = none ↔ ¬ (cors.enabled = true ∧ cors.allowCredentials = true ∧
      ("*" ∈ cors.allowedMethods ∨ "*" ∈ cors.allowedHeaders)) := by
  unfold conflictOf?
  by_cases hon : cors.enabled = true ∧ cors.allowCredentials = true
  · rw [if_pos hon]
    by_cases hheaders : "*" ∈ cors.allowedHeaders
    · simp [hon, hheaders]
    · by_cases hmethods : "*" ∈ cors.allowedMethods <;> simp [hon, hheaders, hmethods]
  · rw [if_neg hon]
    exact ⟨fun _ ⟨henabled, hcredentials, _⟩ => hon ⟨henabled, hcredentials⟩, fun _ => rfl⟩

/-- Without credentials for everybody the policy trips over the same wildcard as the settings. -/
theorem CorsPolicy.ofSettings_eq_ok {cors : CorsSettings} (henabled : cors.enabled = true)
    (h : cors.allowsCredentialsForAll = false) :
    ∃ policy, ofSettings cors = .ok policy ∧ policy.conflict? = conflictOf? cors := by
  unfold ofSettings
  rw [h, if_neg Bool.false_ne_true]
  refine ⟨_, rfl, ?_⟩
  unfold conflict? conflictOf?
  cases hcredentials : cors.allowCredentials <;>
    simp [henabled, Allowance.ofNames_eq_all_iff]

namespace Router

theorem ofSettings_of_disabled {s : Settings} (h : s.cors.enabled = false) :
    ofSettings s = .ok (withPolicy s none) := by
  simp [ofSettings, h]

variable {s : Settings} {policy : CorsPolicy}

theorem ofSettings_of_conflict {wildcard : CorsConflict} (henabled : s.cors.enabled = true)
    (hpolicy : CorsPolicy.ofSettings s.cors = .ok policy)
    (hconflict : policy.conflict? = some wildcard) :
    ofSettings s = .error (.conflict wildcard) := by
  simp [ofSettings, henabled, hpolicy, hconflict, ok_mapError, bind, Except.bind]

theorem ofSettings_of_no_conflict (henabled : s.cors.enabled = true)
    (hpolicy : CorsPolicy.ofSettings s.cors = .ok policy) (hconflict : policy.conflict? = none) :
    ofSettings s = .ok (withPolicy s (some policy)) := by
  simp [ofSettings, henabled, hpolicy, hconflict, ok_mapError, bind, Except.bind]

/-- Nothing but a wildcard among headers or methods keeps validated settings from being served. -/
theorem ofSettings_of_validate (h : s.validate = .ok ()) :
    (∀ wildcard, conflictOf? s.cors = some wildcard →
      ofSettings s = .error (.conflict wildcard)) ∧
    (conflictOf? s.cors = none → ∃ router, ofSettings s = .ok router) := by
  obtain ⟨-, -, -, hall, -⟩ := Settings.validate_eq_ok_iff.mp h
  cases henabled : s.cors.enabled with
  | false =>
    refine ⟨?_, fun _ => ⟨_, ofSettings_of_disabled henabled⟩⟩
    intro wildcard hsome
    simp [conflictOf?, henabled] at hsome
  | true =>
    obtain ⟨policy, hpolicy, hconflict⟩ := CorsPolicy.ofSettings_eq_ok henabled hall
    rw [← hconflict]
    constructor
    · intro wildcard hsome
      exact ofSettings_of_conflict henabled hpolicy hsome
    · intro hnone
      exact ⟨_, ofSettings_of_no_conflict henabled hpolicy hnone⟩

/-- Validated settings can be served if and only if credentials do not go together with a wildcard
among the methods or headers, and nothing else is ever in the way. -/
theorem served_iff_of_validate (s : Settings) (h : s.validate = .ok ()) :
    ((∃ router, ofSettings s = .ok router) ↔
      ¬ (s.cors.enabled = true ∧ s.cors.allowCredentials = true ∧
        ("*" ∈ s.cors.allowedMethods ∨ "*" ∈ s.cors.allowedHeaders))) ∧
    ∀ error, ofSettings s = .error error → ∃ wildcard, error = .conflict wildcard := by
  rw [← conflictOf?_eq_none_iff]
  obtain ⟨hconflict, hserved⟩ := ofSettings_of_validate h
  cases hwildcard : conflictOf? s.cors with
  | none =>
    obtain ⟨router, hrouter⟩ := hserved hwildcard
    rw [hrouter]
    exact ⟨⟨fun _ => rfl, fun _ => ⟨router, rfl⟩⟩, nofun⟩
  | some wildcard =>
    rw [hconflict wildcard hwildcard]
    refine ⟨⟨nofun, nofun⟩, ?_⟩
    intro error herror
    exact ⟨wildcard, (Except.error.inj herror).symm⟩

/-- Credentials for one site, with any headers. -/
def credentialsWithAnyHeader : Settings where
  cors := {
    allowedOrigins := ["https://calc.example.com"]
    allowedHeaders := ["*"]
    allowCredentials := true }

/-- They are accepted, and then in the way of the router. -/
theorem credentialsWithAnyHeader_not_served :
    credentialsWithAnyHeader.validate = .ok () ∧
      ofSettings credentialsWithAnyHeader = .error (.conflict .headers) := by
  constructor
  · rfl
  · rfl

/-- Credentials for two sites, with some methods and headers. -/
def credentialsWithListedHeaders : Settings where
  cors := {
    allowedOrigins := ["https://calc.example.com", "https://www.example.com"]
    allowedMethods := ["GET", "POST"]
    allowedHeaders := ["content-type", "authorization"]
    allowCredentials := true }

/-- They are accepted and served. -/
theorem credentialsWithListedHeaders_served :
    credentialsWithListedHeaders.validate = .ok () ∧
      ∃ router, ofSettings credentialsWithListedHeaders = .ok router := by
  have hvalid : credentialsWithListedHeaders.validate = .ok () := rfl
  have hlisted : "*" ∉ credentialsWithListedHeaders.cors.allowedMethods ∧
      "*" ∉ credentialsWithListedHeaders.cors.allowedHeaders := by
    decide
  refine ⟨hvalid, (served_iff_of_validate _ hvalid).1.mpr ?_⟩
  rintro ⟨-, -, hmethod | hheader⟩
  · exact hlisted.1 hmethod
  · exact hlisted.2 hheader

end Router
end Http
end Reckoner
