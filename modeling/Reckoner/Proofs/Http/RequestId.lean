import Reckoner.Proofs.Http.Layers

/-!
The id of a request, which comes back on its response. The outermost layer sees to it that every
request has an id, the next one puts that id on the response; neither matters to what is answered.
-/
namespace Reckoner.Http.Router

/-- Every response that comes out of the layers has exactly one id, which is the first that the
request came with, or else the fresh one. But for the id, requests that differ in nothing else are
answered alike. So it is with a response that one of the layers makes by itself. -/
theorem respond_requestId (router : Router) :
    (∀ freshId request arrival complaint,
      (router.respond freshId request arrival complaint).headers.values idName =
        [(request.headers.first? idName).getD freshId]) ∧
    ∀ freshId freshId' request request' arrival complaint,
      request.without idName = request'.without idName →
        (router.respond freshId request arrival complaint).without idName =
          (router.respond freshId' request' arrival complaint).without idName := by
  constructor
  · intro freshId request arrival complaint
    rw [respond_eq_addHeaders]
    show Headers.values (_ ++ [_]) idName = _
    rw [Headers.values_append, values_within_idName, Headers.values_singleton _ idName_mem,
      if_pos rfl, List.nil_append]
  · intro freshId freshId' request request' arrival complaint h
    have hrespond : ∀ freshId request,
        (router.respond freshId request arrival complaint).without idName =
          (router.within complaint { request, arrival }).response.without idName := by
      intro freshId request
      rw [respond_eq_addHeaders]
      exact congrArg (Response.mk _ · _) (Headers.without_append_of_mem idName_mem)
    have hwithin : router.within complaint { request, arrival } =
        router.within complaint { request := request', arrival } := by
      have hignores : Handler.Ignores idName (router.within complaint) :=
        ignores_within (by decide) (by decide)
      rw [← hignores, ← hignores { request := request', arrival }]
      exact congrArg (fun request => router.within complaint { request, arrival }) h
    rw [hrespond, hrespond, hwithin]

/-- Of two ids the first comes back, whatever the case of its name; without any the fresh one does.
The rest of the answer is the same: there is none in time, and the layer that does not wait any
longer makes it. -/
theorem respond_requestId_each :
    let router : Router := ⟨{}, 16384, 5000, none⟩
    let json : String × String := ("content-type", "application/json")
    let request : Request :=
      ⟨"POST", "/evaluate", [json, ("X-Request-Id", "7"), ("x-request-id", "8")], []⟩
    let request' : Request := ⟨"POST", "/evaluate", [json], []⟩
    (router.respond "9" request none).status = 504 ∧
      (router.respond "9" request none).headers.values idName = ["7"] ∧
      (router.respond "9" request' none).headers.values idName = ["9"] ∧
      request.without idName = request'.without idName ∧
      (router.respond "9" request none).without idName =
        (router.respond "9" request' none).without idName := by
  intro router json request request'
  obtain ⟨hid, hrest⟩ := respond_requestId router
  have hrequests : request.without idName = request'.without idName ∧
      request.headers.first? idName = some "7" ∧ request'.headers.first? idName = none ∧
      router.isLate request none = true := by
    decide +kernel
  obtain ⟨hsame, hfirst, hnone, hlate⟩ := hrequests
  refine ⟨?_, ?_, ?_, hsame, hrest _ _ _ _ _ _ hsame⟩
  · rw [respond_of_late hlate]
    rfl
  · rw [hid, hfirst]
    rfl
  · rw [hid, hnone]
    rfl

end Reckoner.Http.Router
