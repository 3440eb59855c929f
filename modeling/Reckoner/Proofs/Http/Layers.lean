import Reckoner.Proofs.Http.Fields

/-!
What every layer keeps, and with it a stack of layers. Of the layers none but the outer two has to
do with ids: the inner ones put none on a response and do not look at the one of the request. So
a response is that of the inner layers with the id behind it.
-/
namespace Reckoner.Http

variable {name freshId : String} {names : List String} {limits : Limits} {complaint : Complaint}
  {policy : CorsPolicy} {router : Router} {request : Request} {arrival : Option Nat} {call : Call}

/-- The call without the fields of a name on its request. -/
def Call.without (call : Call) (name : String) : Call :=
  { call with request := call.request.without name }

theorem idName_mem : idName ∈ responseNames := by decide

namespace Handler

/-- No response has a field of another name. -/
def Names (names : List String) (handler : Handler) : Prop :=
  ∀ call, ∀ entry ∈ (handler call).response.headers, entry.1 ∈ names

/-- The fields of this name on a request do not matter. -/
def Ignores (name : String) (handler : Handler) : Prop :=
  ∀ call, handler (call.without name) = handler call

end Handler

theorem names_routes : Handler.Names plainNames (routes limits complaint) :=
  fun _ _ => name_mem_of_answer

theorem Request.expression_without (request : Request) (limit : UInt64)
    (h : "content-type" ≠ name) :
    (request.without name).expression limit = request.expression limit ∧
      (request.without name).readsBody = request.readsBody := by
  have htype : (request.without name).hasJsonType = request.hasJsonType := by
    unfold hasJsonType
    rw [show (request.without name).headers = request.headers.without name from rfl,
      Headers.first?_without h]
  unfold expression readsBody
  rw [htype]
  exact ⟨rfl, rfl⟩

theorem Request.first?_identified (request : Request) (freshId : String) :
    (request.identified freshId).headers.first? idName =
      some ((request.headers.first? idName).getD freshId) := by
  cases hid : request.headers.first? idName with
  | some id =>
    rw [identified_of_id hid]
    exact hid
  | none =>
    rw [identified_of_no_id hid]
    rw [Headers.first?_eq_head?, List.head?_eq_none_iff] at hid
    rw [Headers.first?_eq_head?, Headers.values_append, hid,
      Headers.values_singleton _ idName_mem, if_pos rfl]
    rfl

theorem Request.without_identified :
    (request.identified freshId).without idName = request.without idName := by
  cases hid : request.headers.first? idName with
  | some id => rw [identified_of_id hid]
  | none =>
    rw [identified_of_no_id hid]
    exact congrArg (Request.mk _ _ · _) (Headers.without_append_of_mem idName_mem)

/-- Of the fields of a request only the media type counts for the routes. -/
theorem ignores_routes (h : "content-type" ≠ name) :
    Handler.Ignores name (routes limits complaint) := by
  intro call
  obtain ⟨hexpression, hreads⟩ := call.request.expression_without call.bodyLimit h
  have hserve : ∀ route, serve limits complaint (call.without name) route =
      serve limits complaint call route := by
    intro route
    cases route with
    | evaluation =>
      show evaluate limits complaint (call.without name) = evaluate limits complaint call
      unfold evaluate
      rw [show (call.without name).request.expression (call.without name).bodyLimit =
        call.request.expression call.bodyLimit from hexpression]
      rfl
    | health | liveness | description => rfl
  have hanswer : answer limits complaint (call.without name) = answer limits complaint call := by
    unfold answer
    simp only [hserve]
    rfl
  unfold routes
  rw [hanswer, show (call.without name).request.readsBody = call.request.readsBody from hreads]
  rfl

namespace Layer

/-- What holds of a handler holds of the layer around it. -/
def Keeps (P : Handler → Prop) (layer : Layer) : Prop := ∀ handler, P handler → P (layer handler)

/-- What every layer keeps, a stack of them keeps. -/
theorem keeps_stack {P : Handler → Prop} {layers : List Layer}
    (h : ∀ layer ∈ layers, layer.Keeps P) : Keeps P (stack layers) := by
  intro handler hhandler
  induction layers generalizing handler with
  | nil => exact hhandler
  | cons layer layers ih =>
    obtain ⟨hlayer, hlayers⟩ := List.forall_mem_cons.mp h
    exact ih hlayers (layer handler) (hlayer handler hhandler)

theorem keeps_names_cors (hpreflight : preflightNames ++ plainNames ⊆ names)
    (hgrant : grantNames ⊆ names) : Keeps (Handler.Names names) (cors policy) := by
  intro handler hhandler call entry hentry
  by_cases hmethod : call.request.method = "OPTIONS"
  · rw [cors_of_options hmethod] at hentry
    rcases List.mem_append.mp hentry with hinner | houter
    · exact hpreflight (CorsPolicy.name_mem_of_preflight hinner)
    · exact hgrant (CorsPolicy.name_mem_of_responseHeaders houter)
  · rw [cors_of_other hmethod] at hentry
    rcases List.mem_append.mp hentry with hinner | houter
    · exact hhandler call entry hinner
    · exact hgrant (CorsPolicy.name_mem_of_responseHeaders houter)

theorem keeps_names_bodyLimit (bytes : UInt64) :
    Keeps (Handler.Names names) (bodyLimit bytes) :=
  fun _ hhandler _ => hhandler _

theorem keeps_names_timeout (limitMs : UInt64) (h : "content-length" ∈ names) :
    Keeps (Handler.Names names) (timeout limitMs) := by
  intro handler hhandler call entry hentry
  cases htime : inTime limitMs (handler call).time with
  | true =>
    rw [timeout_of_inTime htime] at hentry
    exact hhandler call entry hentry
  | false =>
    rw [timeout_of_late htime] at hentry
    obtain rfl := List.mem_singleton.mp hentry
    exact h

theorem keeps_names_trace : Keeps (Handler.Names names) trace := fun _ hhandler _ => hhandler _

theorem keeps_ignores_cors (h : "origin" ≠ name) :
    Keeps (Handler.Ignores name) (cors policy) := by
  intro handler hhandler call
  have horigin : (call.without name).request.headers.first? "origin" =
      call.request.headers.first? "origin" := Headers.first?_without h
  by_cases hmethod : call.request.method = "OPTIONS"
  · have hwithout : (call.without name).request.method = "OPTIONS" := hmethod
    rw [cors_of_options hmethod, cors_of_options hwithout, horigin]
    rfl
  · have hwithout : (call.without name).request.method ≠ "OPTIONS" := hmethod
    rw [cors_of_other hmethod, cors_of_other hwithout, horigin, hhandler]

theorem keeps_ignores_bodyLimit (bytes : UInt64) :
    Keeps (Handler.Ignores name) (bodyLimit bytes) :=
  fun _ hhandler call => hhandler { call with bodyLimit := bytes }

theorem keeps_ignores_timeout (limitMs : UInt64) :
    Keeps (Handler.Ignores name) (timeout limitMs) := by
  intro handler hhandler call
  unfold timeout
  rw [hhandler]

theorem keeps_ignores_trace : Keeps (Handler.Ignores name) trace := fun _ hhandler => hhandler

end Layer

namespace Router

/-- The layers that have nothing to do with ids. -/
def innerLayers (router : Router) : List Layer :=
  (router.cors.map Layer.cors).toList ++
    [Layer.bodyLimit router.bodyLimitBytes, Layer.timeout router.requestTimeoutMs, Layer.trace]

def within (router : Router) (complaint : Complaint) : Handler :=
  Layer.stack router.innerLayers (routes router.limits complaint)

/-- The routes with what is said about other sites, if anything is. -/
def across (router : Router) (complaint : Complaint) : Handler :=
  Layer.stack (router.cors.map Layer.cors).toList (routes router.limits complaint)

theorem forall_mem_innerLayers {P : Layer → Prop} : (∀ layer ∈ router.innerLayers, P layer) ↔
    (∀ policy, router.cors = some policy → P (Layer.cors policy)) ∧
      P (Layer.bodyLimit router.bodyLimitBytes) ∧ P (Layer.timeout router.requestTimeoutMs) ∧
      P Layer.trace := by
  unfold innerLayers
  cases router.cors <;> simp

theorem names_within :
    Handler.Names (preflightNames ++ plainNames ++ grantNames) (router.within complaint) := by
  apply Layer.keeps_stack (P := Handler.Names (preflightNames ++ plainNames ++ grantNames))
  · rw [forall_mem_innerLayers]
    refine ⟨fun _ _ => ?_, ?_, ?_, ?_⟩
    · exact Layer.keeps_names_cors (List.subset_append_left _ _) (List.subset_append_right _ _)
    · exact Layer.keeps_names_bodyLimit _
    · exact Layer.keeps_names_timeout _ (by decide)
    · exact Layer.keeps_names_trace
  · intro call entry hentry
    exact List.mem_append_left _ (List.mem_append_right _ (names_routes call entry hentry))

/-- Of the fields of a request only its media type and its origin count. -/
theorem ignores_within (htype : "content-type" ≠ name) (horigin : "origin" ≠ name) :
    Handler.Ignores name (router.within complaint) := by
  apply Layer.keeps_stack (P := Handler.Ignores name)
  · rw [forall_mem_innerLayers]
    exact ⟨fun _ _ => Layer.keeps_ignores_cors horigin, Layer.keeps_ignores_bodyLimit _,
      Layer.keeps_ignores_timeout _, Layer.keeps_ignores_trace⟩
  · exact ignores_routes htype

/-! The outer layers. -/

theorem values_within_idName :
    (router.within complaint call).response.headers.values idName = [] := by
  apply Headers.values_of_names (names_within call)
  · exact fun _ => List.mem_append_left _
  · decide

/-- The response is that of the inner layers with the id of the request behind it. -/
theorem respond_eq_addHeaders : router.respond freshId request arrival complaint =
    (router.within complaint { request, arrival }).response.addHeaders
      [(idName, (request.headers.first? idName).getD freshId)] := by
  -- The inner layers get the request with its id and do not look at it.
  have hignores : router.within complaint { request := request.identified freshId, arrival } =
      router.within complaint { request, arrival } := by
    have hwithin : Handler.Ignores idName (router.within complaint) :=
      ignores_within (by decide) (by decide)
    rw [← hwithin, ← hwithin { request, arrival }]
    exact congrArg (fun request => router.within complaint { request, arrival })
      Request.without_identified
  have hlayers : router.layers freshId =
      router.innerLayers ++ [Layer.propagateId, Layer.setId freshId] := by
    simp [layers, innerLayers]
  have hrespond : router.respond freshId request arrival complaint =
      (router.within complaint { request := request.identified freshId, arrival }).response.carryId
        (request.identified freshId) := by
    rw [respond, handler, hlayers, Layer.stack_append]
    rfl
  have hnone : (router.within complaint { request, arrival }).response.headers.first? idName =
      none := by
    rw [Headers.first?_eq_head?, values_within_idName]
    rfl
  rw [hrespond, hignores, Response.carryId_of_no_id hnone, Request.first?_identified]
  rfl

/-! What is inside the layer that does not wait. -/

/-- There is no answer in time: the body is waited for and comes too late, if ever. -/
def isLate (router : Router) (request : Request) (arrival : Option Nat) : Bool :=
  request.readsBody && !inTime router.requestTimeoutMs arrival

theorem isLate_of_inTime (h : inTime router.requestTimeoutMs arrival = true) :
    router.isLate request arrival = false := by
  simp [isLate, h]

/-- A preflight request is no evaluation request, so that a policy changes nothing about the
time. -/
theorem time_across : (router.across complaint call).time =
    if call.request.readsBody then call.arrival else some 0 := by
  unfold across
  cases router.cors with
  | none => rfl
  | some policy =>
    show (Layer.cors policy (routes router.limits complaint) call).time = _
    by_cases hmethod : call.request.method = "OPTIONS"
    · have hreads : call.request.readsBody = false := by
        simp [Request.readsBody, hmethod]
      rw [Layer.cors_of_options hmethod, hreads]
      rfl
    · rw [Layer.cors_of_other hmethod]
      rfl

/-- What a router says about other sites. -/
def sharing (router : Router) (request : Request) : Headers :=
  (router.cors.map (·.responseHeaders (request.headers.first? "origin"))).getD []

theorem across_of_other (h : call.request.method ≠ "OPTIONS") :
    (router.across complaint call).response =
      (answer router.limits complaint call).addHeaders (router.sharing call.request) := by
  unfold across sharing
  cases router.cors with
  | none => exact (congrArg (Response.mk _ · _) (List.append_nil _)).symm
  | some policy => exact congrArg Reply.response (Layer.cors_of_other h)

theorem within_eq : router.within complaint { request, arrival } =
    Layer.timeout router.requestTimeoutMs
      (Layer.bodyLimit router.bodyLimitBytes (router.across complaint)) { request, arrival } := by
  rw [within, innerLayers, Layer.stack_append]
  rfl

theorem inTime_across : inTime router.requestTimeoutMs
      (Layer.bodyLimit router.bodyLimitBytes (router.across complaint) { request, arrival }).time =
    !router.isLate request arrival := by
  rw [Layer.bodyLimit, time_across]
  dsimp only
  unfold isLate
  cases request.readsBody <;> simp

theorem response_within_of_late (h : router.isLate request arrival = true) :
    (router.within complaint { request, arrival }).response = Layer.timedOut := by
  rw [within_eq, Layer.timeout_of_late]
  rw [inTime_across, h]
  rfl

theorem within_of_inTime (h : router.isLate request arrival = false) :
    router.within complaint { request, arrival } =
      router.across complaint ⟨request, arrival, router.bodyLimitBytes⟩ := by
  rw [within_eq, Layer.timeout_of_inTime]
  · rfl
  · rw [inTime_across, h]
    rfl

/-- Whatever is no preflight request the routes answer, if there is time for it. -/
theorem respond_of_other (hlate : router.isLate request arrival = false)
    (hmethod : request.method ≠ "OPTIONS") :
    router.respond freshId request arrival complaint =
      ((answer router.limits complaint ⟨request, arrival, router.bodyLimitBytes⟩).addHeaders
        (router.sharing request)).addHeaders
          [(idName, (request.headers.first? idName).getD freshId)] := by
  rw [respond_eq_addHeaders, within_of_inTime hlate, across_of_other hmethod]

theorem respond_of_late (h : router.isLate request arrival = true) :
    router.respond freshId request arrival complaint =
      Layer.timedOut.addHeaders [(idName, (request.headers.first? idName).getD freshId)] := by
  rw [respond_eq_addHeaders, response_within_of_late h]

end Router
end Reckoner.Http
