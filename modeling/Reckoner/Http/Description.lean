import Reckoner.Document

/-! Description of the service in the OpenAPI format. -/
namespace Reckoner.Http.Description

open Document

def information : Document :=
  table [
    ("title", text "Expression Calculator"),
    ("description", text "Arithmetic expression evaluation"),
    ("contact", table [("name", text "Cyber Fabric")]),
    ("license", table [("name", text "Apache-2.0"), ("identifier", text "Apache-2.0")]),
    ("version", text "0.1.0")]

/-- JSON content that is described by a schema of this name. -/
def jsonContent (schema : String) : Document :=
  table [("application/json",
    table [("schema", table [("$ref", text ("#/components/schemas/" ++ schema))])])]

def reply (description schema : String) : Document :=
  table [("description", text description), ("content", jsonContent schema)]

def evaluation : Document :=
  table [
    ("tags", list [text "calculator"]),
    ("summary", text "Evaluate an arithmetic expression."),
    ("operationId", text "evaluate"),
    ("requestBody",
      table [("content", jsonContent "EvaluateRequest"), ("required", bool true)]),
    ("responses", table [
      ("200", reply "Expression value" "EvaluateResponse"),
      ("400", reply "Malformed expression or request body" "ErrorResponse"),
      ("422", reply "Expression has no finite value" "ErrorResponse")])]

def errorSchema : Document :=
  table [
    ("type", text "object"),
    ("description", text "Failed evaluation or malformed request."),
    ("required", list [text "error"]),
    ("properties", table [("error", table [
      ("type", text "string"),
      ("description",
        text "Short human-readable rendering of the failure, e.g. `division by zero`.")])])]

def requestSchema : Document :=
  table [
    ("type", text "object"),
    ("description", text "Expression submitted for evaluation."),
    ("properties", table [("expression", table [
      ("type", text "string"),
      ("description", text ("Free-form arithmetic expression: digits, `.`, `+ - * /` and "
        ++ "parentheses.\nA missing field is treated as an empty expression."))])])]

def responseSchema : Document :=
  table [
    ("type", text "object"),
    ("description", text ("Successful evaluation.\n\n"
      ++ "`result` is always serialized, including when it is zero.")),
    ("required", list [text "result"]),
    ("properties", table [("result",
      table [("type", text "number"), ("format", text "double")])])]

def service : Document :=
  table [
    ("openapi", text "3.1.0"),
    ("info", information),
    ("paths", table [("/evaluate", table [("post", evaluation)])]),
    ("components", table [("schemas", table [
      ("ErrorResponse", errorSchema),
      ("EvaluateRequest", requestSchema),
      ("EvaluateResponse", responseSchema)])]),
    ("tags", list [table [
      ("name", text "calculator"), ("description", text "Expression evaluation")]])]

end Reckoner.Http.Description
