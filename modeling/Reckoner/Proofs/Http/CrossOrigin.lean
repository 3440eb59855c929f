import Reckoner.Proofs.Http.Evaluation

/-!
What the settings about other sites can change in a response: nothing but the fields that are meant
for browsers, unless the request is a preflight request.
-/
namespace Reckoner.Http

/-- Fields that say what other sites may do, and on what such a field depends. -/
def isSharingField (name : String) : Bool :=
  "access-control-".toList.isPrefixOf name.toList || name == "vary"

/-- The response without what it says about other sites. -/
def Response.unshared (response : Response) : Response :=
  { response with headers := response.headers.filter fun field => !isSharingField field.1 }

theorem Response.unshared_addHeaders (response : Response) (headers : Headers) :
    (response.addHeaders headers).unshared =
      response.unshared.addHeaders (headers.filter fun field => !isSharingField field.1) := by
  simp only [unshared, addHeaders, List.filter_append]

/-- Fields that are all about other sites leave the rest of a response as it is. -/
theorem Response.unshared_addHeaders_of_all (response : Response) {headers : Headers}
    (h : ∀ field ∈ headers, isSharingField field.1 = true) :
    (response.addHeaders headers).unshared = response.unshared := by
  have hnone : (headers.filter fun field => !isSharingField field.1) = [] := by
    rw [List.filter_eq_nil_iff]
    intro field hfield
    simp [h field hfield]
  rw [unshared_addHeaders, hnone, addHeaders, List.append_nil]

namespace CorsPolicy

theorem isSharingField_of_mem_responseHeaders {policy : CorsPolicy} {origin : Option String}
    {entry : String × String} (h : entry ∈ policy.responseHeaders origin) :
    isSharingField entry.1 = true := by
  unfold responseHeaders at h
  rcases List.mem_append.mp h with hgranted | hvary
  · rcases List.mem_append.mp hgranted with horigin | hcredentials
    · rw [eq_name_of_mem_field horigin]
      decide
    · rw [eq_name_of_mem_field hcredentials]
      decide
  · obtain rfl := List.mem_singleton.mp hvary
    decide

end CorsPolicy

namespace Router

variable {router : Router} {request : Request}

theorem isSharingField_of_mem_sharing {entry : String × String}
    (h : entry ∈ router.sharing request) : isSharingField entry.1 = true := by
  unfold sharing at h
  cases hcors : router.cors with
  | none =>
    rw [hcors] at h
    cases h
  | some policy =>
    rw [hcors] at h
    exact CorsPolicy.isSharingField_of_mem_responseHeaders h

/-- Behind what a router says about other sites a field stays where it is. -/
theorem unshared_addHeaders_sharing (response : Response) (headers : Headers) :
    ((response.addHeaders (router.sharing request)).addHeaders headers).unshared =
      (response.addHeaders headers).unshared := by
  rw [Response.unshared_addHeaders,
    Response.unshared_addHeaders_of_all _ fun _ => isSharingField_of_mem_sharing,
    ← Response.unshared_addHeaders]

/-- What a router that is made from settings answers to a request that is no preflight request, but
for what it says about other sites. There is nothing of a policy in it. -/
theorem unshared_respond (s : Settings) (cors : Option CorsPolicy) (freshId : String)
    (arrival : Option Nat) (complaint : Complaint) (hmethod : request.method ≠ "OPTIONS") :
    ((withPolicy s cors).respond freshId request arrival complaint).unshared =
      ((withPolicy s none).respond freshId request arrival complaint).unshared := by
  cases hlate : (withPolicy s cors).isLate request arrival with
  | true =>
    have hlate' : (withPolicy s none).isLate request arrival = true := hlate
    rw [respond_of_late hlate, respond_of_late hlate']
  | false =>
    have hlate' : (withPolicy s none).isLate request arrival = false := hlate
    rw [respond_of_other hlate hmethod, respond_of_other hlate' hmethod,
      unshared_addHeaders_sharing, unshared_addHeaders_sharing]
    rfl

/-- Of two settings that differ only in what other sites may do, the routers answer every request
that is no preflight request alike, but for the fields about other sites. They do so even if it
comes too late. -/
theorem unshared_respond_congr (s t : Settings) (hsame : { s with cors := t.cors } = t)
    (router router' : Router) (hrouter : ofSettings s = .ok router)
    (hrouter' : ofSettings t = .ok router') (freshId : String) (request : Request)
    (arrival : Option Nat) (complaint : Complaint) (hmethod : request.method ≠ "OPTIONS") :
    (router.respond freshId request arrival complaint).unshared =
      (router'.respond freshId request arrival complaint).unshared := by
  obtain ⟨cors, rfl⟩ := ofSettings_eq_ok hrouter
  obtain ⟨cors', rfl⟩ := ofSettings_eq_ok hrouter'
  have hnone : withPolicy s none = withPolicy t none := by
    rw [← hsame]
    rfl
  rw [unshared_respond s cors _ _ _ hmethod, unshared_respond t cors' _ _ _ hmethod, hnone]

/-- With one of the settings the pages of other sites may read the answer, with the other they may
not; it is the same answer. -/
theorem unshared_respond_liveness :
    let s : Settings := {}
    let t : Settings := { cors := { enabled := false } }
    let request : Request := ⟨"GET", "/healthz", [("origin", "https://calc.example.com")], []⟩
    ∃ router router', ofSettings s = .ok router ∧ ofSettings t = .ok router' ∧
      (router.respond "1" request).headers.first? "access-control-allow-origin" = some "*" ∧
      (router'.respond "1" request).headers.first? "access-control-allow-origin" = none ∧
      (router.respond "1" request).unshared = (router'.respond "1" request).unshared := by
  intro s t request
  obtain ⟨router, hrouter⟩ : ∃ router, ofSettings s = .ok router := ⟨_, rfl⟩
  obtain ⟨router', hrouter'⟩ : ∃ router', ofSettings t = .ok router' := ⟨_, rfl⟩
  refine ⟨router, router', hrouter, hrouter', ?_, ?_, ?_⟩
  · cases hrouter
    decide +kernel
  · cases hrouter'
    decide +kernel
  · exact unshared_respond_congr s t rfl router router' hrouter hrouter' "1" request (some 0)
      (fun error _ => error.summary) (by decide)

end Router
end Reckoner.Http
