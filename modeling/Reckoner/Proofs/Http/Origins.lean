import Reckoner.Proofs.Http.Layers
import Reckoner.Proofs.Startup

/-!
The origins that are told that they may read a response. Nobody is told so but the origins in the
settings, and everybody only without credentials. The policy stands inside the layer that does not
wait, so that the response of that layer tells nobody anything.
-/
namespace Reckoner.Http

/-- The field says what other sites may do. -/
def saysAccess (name : String) : Bool := "access-control-".toList.isPrefixOf name.toLower.toList

/-- The origins that the response names as those that may read it. -/
def Response.granted (response : Response) : List String := response.headers.values originName

namespace CorsPolicy

variable {policy : CorsPolicy} {cors : CorsSettings} {origin : Option String} {name : String}

/-- The policy of accepted settings, which do not allow credentials for everybody. -/
theorem eq_of_ofSettings (h : ofSettings cors = .ok policy) :
    cors.allowsCredentialsForAll = false ∧
      policy.origins = .ofNames usableOrigin? cors.allowedOrigins ∧
      policy.allowCredentials = cors.allowCredentials := by
  unfold ofSettings at h
  split at h
  · cases h
  · rename_i hall
    cases h
    exact ⟨Bool.eq_false_iff.mpr hall, rfl, rfl⟩

theorem usableOrigin?_eq_some_iff {entry : String} :
    usableOrigin? entry = some name ↔ entry = name ∧ isFieldValue entry = true := by
  unfold usableOrigin?
  by_cases h : isFieldValue entry = true <;> simp [h]

theorem grantedOrigin?_of_wildcard
    (horigins : policy.origins = .ofNames usableOrigin? cors.allowedOrigins)
    (h : "*" ∈ cors.allowedOrigins) : policy.grantedOrigin? origin = some "*" := by
  rw [Allowance.ofNames_eq_all_iff.mpr h] at horigins
  rw [grantedOrigin?, horigins]

/-- Of a list an origin is granted by itself, if it is in the list and can be in a field at all. -/
theorem grantedOrigin?_eq_some_iff
    (horigins : policy.origins = .ofNames usableOrigin? cors.allowedOrigins)
    (h : "*" ∉ cors.allowedOrigins) :
    policy.grantedOrigin? origin = some name ↔
      origin = some name ∧ name ∈ cors.allowedOrigins ∧ isFieldValue name = true := by
  have hlist : policy.origins = .only (cors.allowedOrigins.filterMap usableOrigin?) := by
    rw [horigins, Allowance.ofNames, if_neg (by simpa using h)]
  rw [grantedOrigin?, hlist, Option.filter_eq_some_iff, List.contains_iff_mem, List.mem_filterMap]
  simp only [usableOrigin?_eq_some_iff]
  constructor
  · rintro ⟨rfl, entry, hmem, rfl, hvalue⟩
    exact ⟨rfl, hmem, hvalue⟩
  · rintro ⟨rfl, hmem, hvalue⟩
    exact ⟨rfl, name, hmem, rfl, hvalue⟩

theorem values_responseHeaders :
    (policy.responseHeaders origin).values originName = (policy.grantedOrigin? origin).toList ∧
      (policy.responseHeaders origin).values credentialsName =
        if policy.allowCredentials then ["true"] else [] := by
  have hvalues : ∀ name, (policy.responseHeaders origin).values name =
      ((if originName = name then (policy.grantedOrigin? origin).toList else []) ++
        if credentialsName = name then
          (if policy.allowCredentials then some "true" else none).toList else []) ++
        if "vary" = name then
          ["origin, access-control-request-method, access-control-request-headers"] else [] := by
    intro name
    rw [← values_field _ (by decide), ← values_field _ (by decide),
      ← Headers.values_singleton _ (by decide), ← Headers.values_append, ← Headers.values_append]
    rfl
  rw [hvalues, hvalues]
  constructor
  · rw [if_pos rfl, if_neg (by decide), if_neg (by decide), List.append_nil, List.append_nil]
  · have hvary : "vary" ≠ credentialsName := by decide
    rw [if_neg (by decide), if_pos rfl, if_neg hvary, List.append_nil, List.nil_append]
    cases policy.allowCredentials <;> rfl

end CorsPolicy

namespace Router

variable {s : Settings} {router : Router} {policy : CorsPolicy} {request : Request}
  {freshId : String} {arrival : Option Nat} {complaint : Complaint}

theorem cors_of_disabled (h : ofSettings s = .ok router) (hoff : s.cors.enabled = false) :
    router.cors = none := by
  rw [ofSettings_of_disabled hoff] at h
  cases h
  rfl

theorem exists_policy_of_enabled (h : ofSettings s = .ok router) (hon : s.cors.enabled = true) :
    ∃ policy, CorsPolicy.ofSettings s.cors = .ok policy ∧ router.cors = some policy := by
  unfold ofSettings at h
  rw [if_pos hon] at h
  obtain ⟨policy, hpolicy, hrouter⟩ := bind_eq_ok_iff.mp h
  refine ⟨policy, mapError_eq_ok_iff.mp hpolicy, ?_⟩
  split at hrouter
  · cases hrouter
  · cases hrouter
    rfl

/-! Responses that say nothing about other sites. -/

theorem granted_of_saysAccess {response : Response}
    (h : ∀ entry ∈ response.headers, saysAccess entry.1 = false) : response.granted = [] := by
  have hname : "access-control-".toList.isPrefixOf originName.toList = true := by decide
  rw [Response.granted, Headers.values, List.map_eq_nil_iff, List.filter_eq_nil_iff]
  intro entry hentry heq
  have hsilent := h entry hentry
  rw [saysAccess, eq_of_beq heq, hname] at hsilent
  contradiction

theorem saysAccess_of_plain {response : Response} {id : String}
    (h : ∀ entry ∈ response.headers, entry.1 ∈ plainNames) :
    ∀ entry ∈ (response.addHeaders [(idName, id)]).headers, saysAccess entry.1 = false := by
  have hsilent : ∀ name ∈ plainNames ++ [idName], saysAccess name = false := by
    have hplain : ∀ name ∈ plainNames ++ [idName], name ∈ responseNames ∧
        "access-control-".toList.isPrefixOf name.toList = false := by
      decide
    intro name hname
    obtain ⟨hmem, hprefix⟩ := hplain name hname
    rw [saysAccess, toLower_of_mem_responseNames hmem, hprefix]
  intro entry hentry
  apply hsilent
  rcases List.mem_append.mp hentry with hinner | hid
  · exact List.mem_append_left _ (h entry hinner)
  · rw [List.mem_singleton.mp hid]
    exact List.mem_append_right _ (List.mem_singleton_self _)

theorem saysAccess_of_late (h : router.isLate request arrival = true) :
    ∀ entry ∈ (router.respond freshId request arrival complaint).headers,
      saysAccess entry.1 = false := by
  rw [respond_of_late h]
  apply saysAccess_of_plain
  intro entry hentry
  obtain rfl := List.mem_singleton.mp hentry
  simp [plainNames]

theorem saysAccess_of_no_policy (h : router.cors = none) :
    ∀ entry ∈ (router.respond freshId request arrival complaint).headers,
      saysAccess entry.1 = false := by
  cases hlate : router.isLate request arrival with
  | true => exact saysAccess_of_late hlate
  | false =>
    rw [respond_eq_addHeaders, within_of_inTime hlate, across, h]
    exact saysAccess_of_plain (names_routes _)

/-! Responses under a policy. -/

theorem exists_across_of_policy (complaint : Complaint) (call : Call)
    (h : router.cors = some policy) : ∃ inner : Response,
    (∀ entry ∈ inner.headers, entry.1 ∈ preflightNames ++ plainNames) ∧
      (router.across complaint call).response =
        inner.addHeaders (policy.responseHeaders (call.request.headers.first? "origin")) := by
  unfold across
  rw [h]
  by_cases hmethod : call.request.method = "OPTIONS"
  · exact ⟨_, fun _ => CorsPolicy.name_mem_of_preflight,
      congrArg Reply.response (Layer.cors_of_options hmethod)⟩
  · exact ⟨_, fun entry hentry => List.mem_append_right _ (names_routes call entry hentry),
      congrArg Reply.response (Layer.cors_of_other hmethod)⟩

/-- In time the grant of the response is that of the policy. -/
theorem values_respond_of_policy (h : router.cors = some policy)
    (hlate : router.isLate request arrival = false) :
    (router.respond freshId request arrival complaint).granted =
        (policy.grantedOrigin? (request.headers.first? "origin")).toList ∧
      (router.respond freshId request arrival complaint).headers.values credentialsName =
        if policy.allowCredentials then ["true"] else [] := by
  obtain ⟨inner, hinner, hacross⟩ :=
    exists_across_of_policy complaint ⟨request, arrival, router.bodyLimitBytes⟩ h
  have hnames : ∀ name ∈ [originName, credentialsName],
      name ∉ preflightNames ++ plainNames ∧ idName ≠ name := by
    decide
  have hinnerNames : ∀ name ∈ preflightNames ++ plainNames, name ∈ responseNames := by decide
  have hvalues : ∀ name ∈ [originName, credentialsName],
      (router.respond freshId request arrival complaint).headers.values name =
        (policy.responseHeaders (request.headers.first? "origin")).values name := by
    intro name hname
    obtain ⟨hplain, hid⟩ := hnames name hname
    rw [respond_eq_addHeaders, within_of_inTime hlate, hacross]
    show Headers.values ((inner.headers ++ _) ++ [_]) name = _
    rw [Headers.values_append, Headers.values_append,
      Headers.values_of_names hinner hinnerNames hplain,
      Headers.values_singleton _ idName_mem, if_neg hid, List.nil_append, List.append_nil]
  rw [Response.granted, hvalues _ (by simp), hvalues _ (by simp)]
  exact CorsPolicy.values_responseHeaders

section

variable (hrouter : ofSettings s = .ok router)

include hrouter

theorem saysAccess_of_disabled (hoff : s.cors.enabled = false) :
    ∀ entry ∈ (router.respond freshId request arrival complaint).headers,
      saysAccess entry.1 = false :=
  saysAccess_of_no_policy (cors_of_disabled hrouter hoff)

theorem granted_of_wildcard (hlate : router.isLate request arrival = false)
    (hon : s.cors.enabled = true) (hwildcard : "*" ∈ s.cors.allowedOrigins) :
    (router.respond freshId request arrival complaint).granted = ["*"] := by
  obtain ⟨policy, hpolicy, hcors⟩ := exists_policy_of_enabled hrouter hon
  obtain ⟨-, horigins, -⟩ := CorsPolicy.eq_of_ofSettings hpolicy
  rw [(values_respond_of_policy hcors hlate).1,
    CorsPolicy.grantedOrigin?_of_wildcard horigins hwildcard]
  rfl

theorem length_granted_le (hlate : router.isLate request arrival = false)
    (hon : s.cors.enabled = true) :
    (router.respond freshId request arrival complaint).granted.length ≤ 1 := by
  obtain ⟨policy, -, hcors⟩ := exists_policy_of_enabled hrouter hon
  rw [(values_respond_of_policy hcors hlate).1]
  exact Option.length_toList_le

/-- From a list the origin of the request is granted, and nobody else. -/
theorem mem_granted_iff (hlate : router.isLate request arrival = false)
    (hon : s.cors.enabled = true) (hlisted : "*" ∉ s.cors.allowedOrigins) {origin : String} :
    origin ∈ (router.respond freshId request arrival complaint).granted ↔
      request.headers.first? "origin" = some origin ∧ origin ∈ s.cors.allowedOrigins ∧
        isFieldValue origin = true := by
  obtain ⟨policy, hpolicy, hcors⟩ := exists_policy_of_enabled hrouter hon
  obtain ⟨-, horigins, -⟩ := CorsPolicy.eq_of_ofSettings hpolicy
  rw [(values_respond_of_policy hcors hlate).1, Option.mem_toList]
  exact CorsPolicy.grantedOrigin?_eq_some_iff horigins hlisted

/-- Whoever is granted anything is so in time and by enabled settings. -/
theorem inTime_of_mem_granted {origin : String}
    (h : origin ∈ (router.respond freshId request arrival complaint).granted) :
    router.isLate request arrival = false ∧ s.cors.enabled = true := by
  constructor
  · by_contra hlate
    rw [granted_of_saysAccess (saysAccess_of_late (Bool.not_eq_false _ ▸ hlate))] at h
    cases h
  · by_contra hoff
    rw [granted_of_saysAccess (saysAccess_of_disabled hrouter (Bool.not_eq_true _ ▸ hoff))] at h
    cases h

theorem granted_of_illegal
    (hillegal : ∀ origin ∈ s.cors.allowedOrigins, isFieldValue origin = false) :
    (router.respond freshId request arrival complaint).granted = [] := by
  have hlisted : "*" ∉ s.cors.allowedOrigins := fun hwildcard =>
    absurd (hillegal _ hwildcard) (by decide)
  rw [List.eq_nil_iff_forall_not_mem]
  intro origin horigin
  obtain ⟨hlate, hon⟩ := inTime_of_mem_granted hrouter horigin
  obtain ⟨-, hmem, hlegal⟩ := (mem_granted_iff hrouter hlate hon hlisted).mp horigin
  rw [hillegal _ hmem] at hlegal
  contradiction

/-- Who grants everybody has the wildcard in the settings, where credentials are refused with it. -/
theorem credentials_of_wildcard_mem_granted
    (hstar : "*" ∈ (router.respond freshId request arrival complaint).granted) :
    (router.respond freshId request arrival complaint).headers.values credentialsName = [] := by
  obtain ⟨hlate, hon⟩ := inTime_of_mem_granted hrouter hstar
  obtain ⟨policy, hpolicy, hcors⟩ := exists_policy_of_enabled hrouter hon
  obtain ⟨hall, -, hcredentials⟩ := CorsPolicy.eq_of_ofSettings hpolicy
  have hwildcard : "*" ∈ s.cors.allowedOrigins := by
    by_contra hlisted
    exact hlisted ((mem_granted_iff hrouter hlate hon hlisted).mp hstar).2.1
  rw [CorsSettings.allowsCredentialsForAll, List.contains_iff_mem.mpr hwildcard,
    Bool.and_true] at hall
  rw [(values_respond_of_policy hcors hlate).2, hcredentials, hall]
  rfl

end

/-- Who is told that pages of its origin may read the response, on every path and for every method.
If there is no answer in time, or if the settings are off, the response says nothing about other
sites. With a wildcard among the origins everybody is told so, and credentials are not allowed.
Otherwise it is the origin of the request, if it is in the list and can stand in a field, and nobody
else. -/
theorem respond_grants (s : Settings) (router : Router) (hrouter : ofSettings s = .ok router)
    (freshId : String) (request : Request) (arrival : Option Nat) (complaint : Complaint) :
    let response := router.respond freshId request arrival complaint
    (router.isLate request arrival = true →
      response.status = 504 ∧ ∀ entry ∈ response.headers, saysAccess entry.1 = false) ∧
    (s.cors.enabled = false → ∀ entry ∈ response.headers, saysAccess entry.1 = false) ∧
    (router.isLate request arrival = false → s.cors.enabled = true →
      ("*" ∈ s.cors.allowedOrigins → response.granted = ["*"]) ∧
      ("*" ∉ s.cors.allowedOrigins → response.granted.length ≤ 1 ∧
        ∀ origin, origin ∈ response.granted ↔
          request.headers.first? "origin" = some origin ∧ origin ∈ s.cors.allowedOrigins ∧
            isFieldValue origin = true)) ∧
    ((∀ origin ∈ s.cors.allowedOrigins, isFieldValue origin = false) → response.granted = []) ∧
    ("*" ∈ response.granted → response.headers.values credentialsName = []) := by
  intro response
  refine ⟨?_, saysAccess_of_disabled hrouter, ?_, granted_of_illegal hrouter,
    credentials_of_wildcard_mem_granted hrouter⟩
  · intro hlate
    refine ⟨?_, saysAccess_of_late hlate⟩
    simp only [response, respond_of_late hlate]
    rfl
  · intro hlate hon
    refine ⟨granted_of_wildcard hrouter hlate hon, fun hlisted => ?_⟩
    exact ⟨length_granted_le hrouter hlate hon,
      fun _ => mem_granted_iff hrouter hlate hon hlisted⟩

/-- One site in a list may read the answers with credentials, another one may not, and with the
default settings every site may read them without. Nobody may read that there is no answer in
time. -/
theorem respond_grants_each :
    let s : Settings :=
      { cors := { allowedOrigins := ["https://calc.example.com", "\n"], allowCredentials := true } }
    let own : Request := ⟨"OPTIONS", "/", [("Origin", "https://calc.example.com")], []⟩
    let other : Request := ⟨"GET", "/health", [("Origin", "https://evil.example.com")], []⟩
    let late : Request := ⟨"POST", "/evaluate",
      [("Origin", "https://calc.example.com"), ("Content-Type", "application/json")], []⟩
    ∃ router router', ofSettings s = .ok router ∧ ofSettings {} = .ok router' ∧
      (router.respond "1" own).granted = ["https://calc.example.com"] ∧
      (router.respond "1" other).granted = [] ∧
      (router.respond "1" late (some 6000)).status = 504 ∧
      (router'.respond "1" other).granted = ["*"] ∧
      (router'.respond "1" other).headers.values credentialsName = [] := by
  intro s own other late
  obtain ⟨router, hrouter⟩ : ∃ router, ofSettings s = .ok router := ⟨_, rfl⟩
  obtain ⟨router', hrouter'⟩ : ∃ router', ofSettings {} = .ok router' := ⟨_, rfl⟩
  have hgrants := fun request arrival =>
    respond_grants s router hrouter "1" request arrival fun error _ => error.summary
  obtain ⟨-, -, hall, -, hcredentials⟩ :=
    respond_grants {} router' hrouter' "1" other (some 0) fun error _ => error.summary
  have hlisted : "*" ∉ s.cors.allowedOrigins := by decide
  have hprompt : ∀ router : Router, router.isLate own (some 0) = false ∧
      router.isLate other (some 0) = false := by
    intro router
    simp [isLate]
  have hstar := (hall (hprompt router').2 rfl).1 (by decide)
  have hrequests : own.headers.first? "origin" = some "https://calc.example.com" ∧
      other.headers.first? "origin" = some "https://evil.example.com" ∧
      late.readsBody = true := by
    decide +kernel
  obtain ⟨hown, hother, hreads⟩ := hrequests
  refine ⟨router, router', hrouter, hrouter', ?_, ?_, ?_, hstar, hcredentials (by simp [hstar])⟩
  · obtain ⟨hlength, hmem⟩ := ((hgrants own (some 0)).2.2.1 (hprompt router).1 rfl).2 hlisted
    have hin := (hmem "https://calc.example.com").mpr ⟨hown, by decide, by decide⟩
    obtain ⟨origin, hone⟩ :=
      List.length_eq_one_iff.mp (Nat.le_antisymm hlength (List.length_pos_of_mem hin))
    rw [hone, List.mem_singleton] at hin
    rw [hone, hin]
  · obtain ⟨-, hmem⟩ := ((hgrants other (some 0)).2.2.1 (hprompt router).2 rfl).2 hlisted
    rw [List.eq_nil_iff_forall_not_mem]
    intro origin horigin
    obtain ⟨hsent, hin, -⟩ := (hmem origin).mp horigin
    rw [hother] at hsent
    cases hsent
    exact absurd hin (by decide)
  · cases hrouter
    refine ((hgrants late (some 6000)).1 ?_).1
    rw [isLate, hreads]
    decide

/-- By the default settings every site may read the answers. But if the body of a request never
comes, the layer outside the policy answers, which does not know of it. -/
theorem wildcard_not_granted_late :
    let request : Request := ⟨"POST", "/evaluate", [("content-type", "application/json"),
      ("content-length", "20"), ("origin", "https://calc.example.com")], []⟩
    ({} : Settings).cors.enabled = true ∧ "*" ∈ ({} : Settings).cors.allowedOrigins ∧
      ∃ router, ofSettings {} = .ok router ∧ (router.respond "1" request none).status = 504 ∧
        (router.respond "1" request none).granted = [] := by
  intro request
  obtain ⟨router, hrouter⟩ : ∃ router, ofSettings {} = .ok router := ⟨_, rfl⟩
  have hreads : request.readsBody = true := by decide +kernel
  have hlate : router.isLate request none = true := by
    rw [isLate, hreads]
    rfl
  refine ⟨rfl, by decide, router, hrouter, ?_, granted_of_saysAccess (saysAccess_of_late hlate)⟩
  rw [respond_of_late hlate]
  rfl

end Router
end Reckoner.Http
