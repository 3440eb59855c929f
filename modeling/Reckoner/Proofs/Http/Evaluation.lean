import Reckoner.Proofs.Expression.Finiteness
import Reckoner.Proofs.Expression.Rereading
import Reckoner.Proofs.Http.Layers
import Reckoner.Proofs.Http.Payload
import Reckoner.Proofs.Json.Writing
import Reckoner.Proofs.Text.Utf8
import Reckoner.Startup

/-!
What is sent back to a request for an evaluation, whatever the request holds: a status and a JSON
table with one entry, the result or the error.
-/
namespace Reckoner.Http

open Json

/-! The texts of the replies. -/

theorem read?_errorPayload (message : String) :
    read? (Json.write (errorPayload message)) = some (errorPayload message) :=
  read?_write_entry (reads_writeText message _)

/-- A finite result stands in its reply as a number to which it is nearest. -/
theorem write_resultPayload {x : Binary64} (h : x.isFinite = true) :
    ∃ n : Numeral, n.nearest = x ∧ nextToken? (n.spelled.map some) = some (.number n, []) ∧
      Json.write (resultPayload x) =
        "\x7b\"result\":" ++ String.ofList n.spelled ++ "\x7d" ∧
      read? (Json.write (resultPayload x)) = some (.table [("result", n.document)]) := by
  obtain ⟨n, hproper, hwrite, hnearest⟩ := write_json h
  have hcompact : compact (.number (String.ofList (Layout.json.write x))) = n.spelled := by
    rw [compact, String.toList_ofList, hwrite]
  have hends : Numeral.Ends [some '\x7d'] := by simp [Numeral.Ends]
  have hvalue := reads_spelled hproper hends
  refine ⟨n, hnearest, ?_, ?_, read?_write_entry (hcompact ▸ hvalue)⟩
  · have hnext := nextToken?_spelled hproper (show Numeral.Ends [] by simp [Numeral.Ends])
    rwa [List.append_nil] at hnext
  · rw [← String.toList_inj]
    have hkey : writeText "result" = "\"result\"".toList := by decide
    simp [Json.write, resultPayload, compact, compactEntries, hwrite, hkey]

/-! What a response says. -/

namespace Response

/-- The response is a table with a number for the result, to which `value` is nearest. -/
def IsResult (response : Response) (value : Binary64) : Prop :=
  response.status = 200 ∧
    ∃ n : Numeral, n.nearest = value ∧
      read? response.body = some (.table [("result", n.document)])

/-- The response is a table with this text for the error. -/
def IsError (response : Response) (status : Nat) (message : String) : Prop :=
  response.status = status ∧ read? response.body = some (.table [("error", .text message)])

/-- The response tells what became of an expression. -/
def Tells (response : Response) : Except Rejection Binary64 → Prop
  | .ok value => response.IsResult value
  | .error (.lexical error) => response.IsError 400 error.message
  | .error (.grammar error) => response.IsError 400 error.message
  | .error (.arithmetic error) => response.IsError 422 error.message

end Response

/-! What is read from a body. -/

/-- Of a body that is a JSON text in UTF-8, the expression is read that the document asks for. -/
theorem readExpression_symbols {bytes : List UInt8} {text expression : String} {document : Document}
    (hbytes : bytes = text.toUTF8.toList) (h : read? text = some document) :
    readExpression (Text.symbols bytes) = .ok expression ↔
      expressionOf? document = some expression := by
  obtain ⟨rest, hread, hblank⟩ := read?_eq_some_iff.mp h
  rw [Text.symbols_eq_toList_iff.mpr hbytes]
  exact readExpression_eq_ok_iff hread hblank

theorem exists_error_of_no_expression {bytes : List UInt8} {text : String} {document : Document}
    (hbytes : bytes = text.toUTF8.toList) (hread : read? text = some document)
    (h : expressionOf? document = none) :
    ∃ error, readExpression (Text.symbols bytes) = .error error := by
  cases hexpression : readExpression (Text.symbols bytes) with
  | error error => exact ⟨error, rfl⟩
  | ok expression =>
    rw [(readExpression_symbols hbytes hread).mp hexpression] at h
    cases h

/-- The text of a request for an evaluation is read as that request. -/
theorem read?_expression {text expression : String}
    (h : Json.write (.table [("expression", .text expression)]) = text) :
    read? text = some (.table [("expression", .text expression)]) := by
  rw [← h]
  exact read?_write_entry (reads_writeText expression _)

namespace Request

variable {request : Request} {limit : UInt64}

theorem expression_of_json (htype : request.hasJsonType = true)
    (hlength : request.body.length ≤ limit.toNat) :
    request.expression limit = (readExpression (Text.symbols request.body)).mapError .payload := by
  rw [expression, htype, if_neg (by simp), if_neg (Nat.not_lt.mpr hlength)]

theorem expression_eq_ok {text expression : String} {document : Document}
    (htype : request.hasJsonType = true) (hlength : request.body.length ≤ limit.toNat)
    (hbody : request.body = text.toUTF8.toList) (hread : read? text = some document)
    (h : expressionOf? document = some expression) :
    request.expression limit = .ok expression := by
  rw [expression_of_json htype hlength, (readExpression_symbols hbody hread).mpr h]
  rfl

end Request

section

variable {router : Router} {request : Request} {freshId : String} {arrival : Option Nat}
  {complaint : Complaint} {s : Settings}

/-- To what is said about an evaluation request that comes in time only fields are added. -/
theorem respond_evaluate (freshId : String) (complaint : Complaint)
    (hmethod : request.method = "POST") (hpath : request.path? = some "/evaluate")
    (hprompt : inTime router.requestTimeoutMs arrival = true) :
    let inner := evaluate router.limits complaint ⟨request, arrival, router.bodyLimitBytes⟩
    (router.respond freshId request arrival complaint).status = inner.status ∧
      (router.respond freshId request arrival complaint).body = inner.body := by
  have hroute : request.route? = some .evaluation := by
    rw [Request.route?, hpath]
    rfl
  have hanswer : answer router.limits complaint ⟨request, arrival, router.bodyLimitBytes⟩ =
      evaluate router.limits complaint ⟨request, arrival, router.bodyLimitBytes⟩ := by
    simp [answer, hroute, Route.methods, hmethod, serve]
  rw [Router.respond_of_other (Router.isLate_of_inTime hprompt) (by simp [hmethod]), hanswer]
  exact ⟨rfl, rfl⟩

theorem ofSettings_eq_ok (h : Router.ofSettings s = .ok router) :
    ∃ cors, router = Router.withPolicy s cors := by
  unfold Router.ofSettings at h
  split at h
  · obtain ⟨policy, -, hrouter⟩ := bind_eq_ok_iff.mp h
    split at hrouter
    · cases hrouter
    · cases hrouter
      exact ⟨some policy, rfl⟩
  · cases h
    exact ⟨none, rfl⟩

theorem isError_json {response : Response} {status : Nat} {message : String}
    (hstatus : response.status = status)
    (hbody : response.body = Json.write (errorPayload message)) :
    response.IsError status message := by
  refine ⟨hstatus, ?_⟩
  rw [hbody]
  exact read?_errorPayload message

/-- A body that holds no expression is answered with what is wrong about it. -/
theorem respond_of_expression_error {error : BodyError} (hmethod : request.method = "POST")
    (hpath : request.path? = some "/evaluate")
    (hprompt : inTime router.requestTimeoutMs arrival = true)
    (h : request.expression router.bodyLimitBytes = .error error) :
    (router.respond freshId request arrival complaint).IsError error.status
      ("invalid request body: " ++ complaint error request.body) := by
  obtain ⟨hstatus, hbody⟩ := respond_evaluate freshId complaint hmethod hpath hprompt
  rw [evaluate, h] at hstatus hbody
  exact isError_json hstatus hbody

theorem respond_of_expression_ok {text : String} (hmethod : request.method = "POST")
    (hpath : request.path? = some "/evaluate")
    (hprompt : inTime router.requestTimeoutMs arrival = true)
    (h : request.expression router.bodyLimitBytes = .ok text) :
    (router.respond freshId request arrival complaint).Tells (router.limits.evaluate text) := by
  obtain ⟨hstatus, hbody⟩ := respond_evaluate freshId complaint hmethod hpath hprompt
  rw [evaluate, h] at hstatus hbody
  dsimp only at hstatus hbody
  cases hvalue : router.limits.evaluate text with
  | ok value =>
    rw [hvalue] at hstatus hbody
    obtain ⟨n, hnearest, -, -, hread⟩ := write_resultPayload (Limits.isFinite_of_evaluate hvalue)
    refine ⟨hstatus, n, hnearest, ?_⟩
    rw [hbody]
    exact hread
  | error rejection =>
    rw [hvalue] at hstatus hbody
    cases rejection with
    | lexical error => exact isError_json hstatus hbody
    | grammar error => exact isError_json hstatus hbody
    | arithmetic error => exact isError_json hstatus hbody

end

/-- A response about an expression is a table with one entry. -/
theorem Response.Tells.entry {response : Response} {outcome : Except Rejection Binary64}
    (h : response.Tells outcome) : (∃ value, response.IsResult value) ∨
      ∃ status ∈ [400, 413, 415, 422], ∃ message, response.IsError status message := by
  match outcome with
  | .ok value => exact .inl ⟨value, h⟩
  | .error (.lexical error) => exact .inr ⟨400, by simp, error.message, h⟩
  | .error (.grammar error) => exact .inr ⟨400, by simp, error.message, h⟩
  | .error (.arithmetic error) => exact .inr ⟨422, by simp, error.message, h⟩

theorem BodyError.status_mem (error : BodyError) : error.status ∈ [400, 413, 415, 422] := by
  match error with
  | .mediaType | .tooLong | .payload .malformed | .payload .wrongKind => decide

theorem PayloadError.status_mem (error : PayloadError) :
    (BodyError.payload error).status ∈ [400, 422] := by
  cases error <;> decide

/-- Whatever a request for an evaluation holds, the response is a table with one entry, the result
or the error, and this is what decides between them: the type of the body, then its length, then
whether it holds an expression, then what becomes of that expression within the limits. A JSON text
in UTF-8 holds the expression that its document asks for. -/
theorem respond_evaluation (s : Settings) (router : Router) (freshId : String) (request : Request)
    (arrival : Option Nat) (complaint : Complaint) (hrouter : Router.ofSettings s = .ok router)
    (hmethod : request.method = "POST") (hpath : request.path? = some "/evaluate")
    (hprompt : inTime s.server.requestTimeoutMs arrival = true) :
    let response := router.respond freshId request arrival complaint
    let body := Text.symbols request.body
    let limit := s.server.bodyLimitBytes.toNat
    ((∃ value, response.IsResult value) ∨
      ∃ status ∈ [400, 413, 415, 422], ∃ message, response.IsError status message) ∧
    (request.hasJsonType = false →
      ∃ detail, response.IsError 415 ("invalid request body: " ++ detail)) ∧
    (request.hasJsonType = true → limit < request.body.length →
      ∃ detail, response.IsError 413 ("invalid request body: " ++ detail)) ∧
    (request.hasJsonType = true → request.body.length ≤ limit →
      (∀ error, readExpression body = .error error → ∃ status ∈ [400, 422], ∃ detail,
        response.IsError status ("invalid request body: " ++ detail)) ∧
      (∀ expression, readExpression body = .ok expression →
        response.Tells (s.limits.evaluate expression)) ∧
      ∀ text document, request.body = text.toUTF8.toList → read? text = some document →
        (expressionOf? document = none → ∃ status ∈ [400, 422], ∃ detail,
          response.IsError status ("invalid request body: " ++ detail)) ∧
        ∀ expression, expressionOf? document = some expression →
          response.Tells (s.limits.evaluate expression)) ∧
    (∀ document rest, readValue? body = some (document, rest) → rest.all isBlank = true →
      ∀ expression, readExpression body = .ok expression ↔
        expressionOf? document = some expression) ∧
    ∀ expression, readExpression body = .ok expression →
      ∃ rest, skipValue? body = some rest ∧ rest.all isBlank = true := by
  intro response body limit
  obtain ⟨cors, rfl⟩ := ofSettings_eq_ok hrouter
  have hrefused : ∀ error, request.expression s.server.bodyLimitBytes = .error error →
      response.IsError error.status ("invalid request body: " ++ complaint error request.body) :=
    fun error h => respond_of_expression_error hmethod hpath hprompt h
  have htold : ∀ text, request.expression s.server.bodyLimitBytes = .ok text →
      response.Tells (s.limits.evaluate text) :=
    fun text h => respond_of_expression_ok hmethod hpath hprompt h
  refine ⟨?_, ?_, ?_, ?_, fun _ _ hread hblank _ => readExpression_eq_ok_iff hread hblank,
    fun _ => exists_skipValue?_of_readExpression⟩
  · cases h : request.expression s.server.bodyLimitBytes with
    | ok text => exact (htold text h).entry
    | error error => exact .inr ⟨error.status, error.status_mem, _, hrefused error h⟩
  · intro htype
    exact ⟨_, hrefused .mediaType (by simp [Request.expression, htype])⟩
  · intro htype hlength
    exact ⟨_, hrefused .tooLong (by simp [Request.expression, htype, limit, hlength])⟩
  · intro htype hlength
    have hexpression : request.expression s.server.bodyLimitBytes =
        (readExpression body).mapError .payload := Request.expression_of_json htype hlength
    have herror : ∀ error, readExpression body = .error error → ∃ status ∈ [400, 422], ∃ detail,
        response.IsError status ("invalid request body: " ++ detail) := by
      intro error h
      rw [h] at hexpression
      exact ⟨_, PayloadError.status_mem error, _, hrefused (.payload error) hexpression⟩
    have hok : ∀ expression, readExpression body = .ok expression →
        response.Tells (s.limits.evaluate expression) := by
      intro expression h
      rw [h] at hexpression
      exact htold expression hexpression
    refine ⟨herror, hok, fun text document hbody hread => ⟨?_, ?_⟩⟩
    · intro hnone
      obtain ⟨error, hrefusal⟩ := exists_error_of_no_expression hbody hread hnone
      exact herror error hrefusal
    · intro expression h
      exact hok expression ((readExpression_symbols hbody hread).mpr h)

/-- A body as long as it may be is evaluated. With one more byte, a blank, it is too long. -/
theorem respond_evaluation_each :
    let s : Settings := { server := { bodyLimitBytes := 24 } }
    let request (text : String) : Request :=
      ⟨"POST", "/evaluate", [("content-type", "application/json")], text.toUTF8.toList⟩
    let text := "\x7b\"expression\":\"(1 + 1)\"\x7d"
    ∃ router, Router.ofSettings s = .ok router ∧
      (router.respond "1" (request text)).IsResult (.ofDecimal 2 0) ∧
      ∃ detail, (router.respond "1" (request (text ++ " "))).IsError 413
        ("invalid request body: " ++ detail) := by
  intro s request text
  obtain ⟨router, hrouter⟩ : ∃ router, Router.ofSettings s = .ok router := ⟨_, rfl⟩
  have hpath : (request "").path? = some "/evaluate" := by decide
  have htype : (request "").hasJsonType = true := by decide +kernel
  have hresponse := fun text => respond_evaluation s router "1" (request text) (some 0)
    (fun error _ => error.summary) hrouter rfl hpath (inTime_zero _)
  have hbodies : (request text).body.length ≤ 24 ∧ 24 < (request (text ++ " ")).body.length := by
    decide +kernel
  refine ⟨router, hrouter, ?_, (hresponse (text ++ " ")).2.2.1 htype hbodies.2⟩
  let e := Expr.binary .plus (.number (.ofDecimal 1 0)) (.number (.ofDecimal 1 0))
  have htext : e.text = "(1 + 1)" := by decide +kernel
  have hvalue : s.limits.evaluate "(1 + 1)" = .ok (.ofDecimal 2 0) := by
    have hfits : e.allFinite = true ∧ e.text.length ≤ s.limits.maxExpressionLength.toNat := by
      decide +kernel
    rw [← htext, Expr.evaluate_text_of_allFinite hfits.1 hfits.2 (by decide), Expr.evaluate_binary,
      Expr.evaluate_number]
    decide +kernel
  have hread : read? text = some (.table [("expression", .text "(1 + 1)")]) :=
    read?_expression (by decide +kernel)
  have htold := ((hresponse text).2.2.2.1 htype hbodies.1).2.2 text _ rfl hread
  have htells := htold.2 "(1 + 1)" rfl
  rwa [hvalue] at htells

/-- A tree has a value only if all trees in it have finite ones. The value of a text is therefore
written as a number, from which it can be recovered by rounding. -/
theorem respond_value :
    (∀ (tree : Expr) (value : Binary64), tree.evaluate = .ok value →
      value.isFinite = true ∧
        ∀ sub, Expr.Within sub tree → ∃ x, sub.evaluate = .ok x ∧ x.isFinite = true) ∧
    ∀ (limits : Limits) (text : String) (value : Binary64), limits.evaluate text = .ok value →
      ∃ n : Numeral, n.nearest = value ∧ nextToken? (n.spelled.map some) = some (.number n, []) ∧
        Json.write (resultPayload value) =
          "\x7b\"result\":" ++ String.ofList n.spelled ++ "\x7d" ∧
        read? (Json.write (resultPayload value)) = some (.table [("result", n.document)]) ∧
        ∀ (router : Router) (freshId : String) (request : Request) (arrival : Option Nat)
          (complaint : Complaint), router.limits = limits →
          request.method = "POST" → request.path? = some "/evaluate" →
          inTime router.requestTimeoutMs arrival = true →
          request.expression router.bodyLimitBytes = .ok text →
          (router.respond freshId request arrival complaint).status = 200 ∧
            (router.respond freshId request arrival complaint).body =
              Json.write (resultPayload value) := by
  refine ⟨fun tree value h => ⟨Expr.isFinite_of_evaluate h,
    fun _ hsub => Expr.exists_value_of_within hsub h⟩, ?_⟩
  intro limits text value h
  obtain ⟨n, hnearest, hnext, hwrite, hread⟩ :=
    write_resultPayload (Limits.isFinite_of_evaluate h)
  refine ⟨n, hnearest, hnext, hwrite, hread, ?_⟩
  rintro router freshId request arrival complaint rfl hmethod hpath hprompt hexpression
  obtain ⟨hstatus, hbody⟩ := respond_evaluate freshId complaint hmethod hpath hprompt
  rw [evaluate, hexpression] at hstatus hbody
  dsimp only at hstatus hbody
  rw [h] at hstatus hbody
  exact ⟨hstatus, hbody⟩

/-- A negative zero is no exception, neither by itself nor as the answer to a request. -/
theorem respond_negativeZero :
    let router : Router := ⟨{}, 16384, 5000, none⟩
    let request : Request := ⟨"POST", "/evaluate", [("content-type", "application/json")],
      "\x7b\"expression\":\"-0\"\x7d".toUTF8.toList⟩
    ({} : Limits).evaluate "-0" = .ok (.zero true) ∧
      ∃ n : Numeral, n.nearest = .zero true ∧
        nextToken? (n.spelled.map some) = some (.number n, []) ∧
        Json.write (resultPayload (.zero true)) =
          "\x7b\"result\":" ++ String.ofList n.spelled ++ "\x7d" ∧
        (router.respond "1" request).status = 200 ∧
        (router.respond "1" request).body =
          "\x7b\"result\":" ++ String.ofList n.spelled ++ "\x7d" := by
  intro router request
  have htext : (Expr.number (.zero true)).text = "-0" := by decide +kernel
  have hvalue : ({} : Limits).evaluate "-0" = .ok (.zero true) := by
    rw [← htext, Expr.evaluate_text_of_allFinite (by decide) (by decide +kernel) (by decide),
      Expr.evaluate_number]
    rfl
  have htype : request.hasJsonType = true := by decide +kernel
  have hlength : request.body.length ≤ router.bodyLimitBytes.toNat := by decide +kernel
  have hread : read? "\x7b\"expression\":\"-0\"\x7d" =
      some (.table [("expression", .text "-0")]) := read?_expression (by decide +kernel)
  have hexpression : request.expression router.bodyLimitBytes = .ok "-0" :=
    Request.expression_eq_ok htype hlength rfl hread rfl
  obtain ⟨n, hnearest, hnext, hwrite, -, hrespond⟩ := respond_value.2 {} "-0" (.zero true) hvalue
  obtain ⟨hstatus, hbody⟩ := hrespond router "1" request (some 0) (fun error _ => error.summary)
    rfl rfl (by decide) (inTime_zero _) hexpression
  exact ⟨hvalue, n, hnearest, hnext, hwrite, hstatus, hbody.trans hwrite⟩

end Reckoner.Http
