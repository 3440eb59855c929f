import Mathlib.Data.List.Basic
import Reckoner.Http.Router

/-!
The fields of requests and responses by name, and which of them the responses of the routes have.
-/
namespace Reckoner.Http

/-! The names of fields on responses. -/

/-- The fields that a response has by itself. -/
def plainNames : List String := ["content-type", "content-length", "allow"]

/-- The fields by which other sites are told what they may send. -/
def preflightNames : List String :=
  ["access-control-allow-methods", "access-control-allow-headers", "access-control-max-age"]

def originName : String := "access-control-allow-origin"

def credentialsName : String := "access-control-allow-credentials"

/-- The fields on every response under a policy. -/
def grantNames : List String := [originName, credentialsName, "vary"]

def responseNames : List String := preflightNames ++ plainNames ++ grantNames ++ [idName]

/-- All of them are in lower case, so that different ones do not count as the same. -/
theorem toLower_of_mem_responseNames {name : String} (h : name ∈ responseNames) :
    name.toLower = name := by
  have hlower : ∀ name ∈ responseNames, name.toList.map Char.toLower = name.toList := by decide
  show name.map Char.toLower = name
  rw [← String.toList_inj, String.toList_map, hlower name h]

/-! Fields by name. -/

namespace Headers

variable {headers others : Headers} {name other : String} {names : List String}

/-- All values of the fields of a name, which is given in lower case. -/
def values (headers : Headers) (name : String) : List String :=
  (headers.filter (·.1.toLower == name)).map (·.2)

def without (headers : Headers) (name : String) : Headers :=
  headers.filter (·.1.toLower != name)

theorem first?_eq_head? : headers.first? name = (headers.values name).head? := by
  rw [first?, values, List.head?_map, List.head?_filter]

theorem values_append :
    (headers ++ others).values name = headers.values name ++ others.values name := by
  rw [values, List.filter_append, List.map_append]
  rfl

theorem values_singleton (value : String) (h : name ∈ responseNames) :
    values [(name, value)] other = if name = other then [value] else [] := by
  by_cases heq : name = other
  · subst heq
    simp [values, toLower_of_mem_responseNames h]
  · simp [values, toLower_of_mem_responseNames h, heq]

/-- A field whose name is not among those of the headers has no values. -/
theorem values_of_names (h : ∀ entry ∈ headers, entry.1 ∈ names)
    (hnames : ∀ name ∈ names, name ∈ responseNames) (hname : name ∉ names) :
    headers.values name = [] := by
  rw [values, List.map_eq_nil_iff, List.filter_eq_nil_iff]
  intro entry hentry heq
  have hmem := h entry hentry
  rw [← eq_of_beq heq, toLower_of_mem_responseNames (hnames _ hmem)] at hname
  exact hname hmem

theorem first?_without (h : other ≠ name) :
    (headers.without name).first? other = headers.first? other := by
  have hfilter : (headers.without name).values other = headers.values other := by
    unfold values without
    rw [List.filter_filter]
    congr 1
    apply List.filter_congr
    intro field _
    by_cases hfield : field.1.toLower = other <;> simp [hfield, h]
  rw [first?_eq_head?, hfilter, first?_eq_head?]

theorem without_append_of_mem {value : String} (h : name ∈ responseNames) :
    (headers ++ [(name, value)]).without name = headers.without name := by
  simp [without, List.filter_append, toLower_of_mem_responseNames h]

end Headers

/-- The request without its fields of a name. -/
def Request.without (request : Request) (name : String) : Request :=
  { request with headers := request.headers.without name }

/-- The response without its fields of a name. -/
def Response.without (response : Response) (name : String) : Response :=
  { response with headers := response.headers.without name }

/-! Which fields a response has. -/

variable {entry : String × String} {name : String} {request : Request} {policy : CorsPolicy}
  {limits : Limits} {complaint : Complaint} {call : Call}

namespace CorsPolicy

theorem eq_name_of_mem_field {value : Option String} (h : entry ∈ field name value) :
    entry.1 = name := by
  obtain ⟨v, -, rfl⟩ := Option.map_eq_some_iff.mp (Option.mem_toList.mp h)
  rfl

theorem values_field {other : String} (value : Option String) (h : name ∈ responseNames) :
    Headers.values (field name value) other = if name = other then value.toList else [] := by
  cases value with
  | none => exact (ite_self []).symm
  | some v => exact Headers.values_singleton v h

theorem name_mem_of_responseHeaders {origin : Option String}
    (h : entry ∈ policy.responseHeaders origin) : entry.1 ∈ grantNames := by
  simp only [responseHeaders, List.mem_append, List.mem_singleton] at h
  rcases h with (horigin | hcredentials) | rfl
  · rw [eq_name_of_mem_field horigin]
    decide
  · rw [eq_name_of_mem_field hcredentials]
    decide
  · decide

end CorsPolicy

theorem Route.name_mem_of_refusalHeaders {route : Route} (h : entry ∈ route.refusalHeaders) :
    entry.1 ∈ plainNames := by
  simp only [refusalHeaders, List.mem_cons, List.not_mem_nil, or_false] at h
  rcases h with rfl | rfl <;> simp [plainNames]

theorem Request.name_mem_of_unroutedHeaders (h : entry ∈ request.unroutedHeaders) :
    entry.1 ∈ plainNames := by
  unfold unroutedHeaders at h
  split at h
  · obtain rfl := List.mem_singleton.mp h
    simp [plainNames]
  · cases h

theorem Response.name_mem_of_text {status : Nat} {mediaType body : String}
    (h : entry ∈ (Response.text status mediaType body).headers) : entry.1 ∈ plainNames := by
  simp only [text, List.mem_cons, List.not_mem_nil, or_false] at h
  rcases h with rfl | rfl <;> simp [plainNames]

theorem CorsPolicy.name_mem_of_preflight (h : entry ∈ (policy.preflight request).headers) :
    entry.1 ∈ preflightNames ++ plainNames := by
  rcases List.mem_append.mp h with hpolicy | hrouting
  · apply List.mem_append_left
    unfold preflightHeaders at hpolicy
    simp only [List.mem_append] at hpolicy
    rcases hpolicy with (hmethods | hheaders) | hage
    · rw [eq_name_of_mem_field hmethods]
      simp [preflightNames]
    · rw [eq_name_of_mem_field hheaders]
      simp [preflightNames]
    · rw [eq_name_of_mem_field hage]
      simp [preflightNames]
  · apply List.mem_append_right
    cases hroute : request.route? with
    | none =>
      rw [hroute] at hrouting
      exact Request.name_mem_of_unroutedHeaders hrouting
    | some route =>
      rw [hroute] at hrouting
      exact Route.name_mem_of_refusalHeaders hrouting

theorem name_mem_of_serve {route : Route}
    (h : entry ∈ (serve limits complaint call route).headers) : entry.1 ∈ plainNames := by
  cases route with
  | evaluation =>
    simp only [serve, evaluate] at h
    split at h
    · exact Response.name_mem_of_text h
    · split at h
      · exact Response.name_mem_of_text h
      · exact Response.name_mem_of_text h
  | health | liveness | description => exact Response.name_mem_of_text h

theorem name_mem_of_answer (h : entry ∈ (answer limits complaint call).headers) :
    entry.1 ∈ plainNames := by
  unfold answer at h
  split at h
  · exact Request.name_mem_of_unroutedHeaders h
  · split at h
    · dsimp only at h
      split at h
      · exact name_mem_of_serve h
      · exact name_mem_of_serve h
    · exact Route.name_mem_of_refusalHeaders h

end Reckoner.Http
