import Reckoner.Proofs.Json.Indented
import Reckoner.Proofs.Settings.Fields

/-!
Settings are printed as an indented JSON text, from which they are read back as they are: texts of
any characters, lists of any length and numbers up to the largest.
-/
namespace Reckoner.Settings

/-! The document of settings can be printed and read back. -/

theorem plain_ofTexts (texts : List String) :
    (Json.Part.value (Document.ofTexts texts)).Plain := by
  match texts with
  | [] => exact .emptyList
  | text :: texts =>
    refine .list ?_
    induction texts generalizing text with
    | nil => exact .lastItem (.text text)
    | cons next texts ih => exact .item (.text text) (ih next)

theorem plain_document (s : Settings) : (Json.Part.value s.document).Plain :=
  have hserver : (Json.Part.value s.server.document).Plain :=
    .table (.entry (.text _) (.entry (.natural _) (.lastEntry (.natural _))))
  have hcors : (Json.Part.value s.cors.document).Plain :=
    .table (.entry (.bool _) (.entry (plain_ofTexts _) (.entry (plain_ofTexts _)
      (.entry (plain_ofTexts _) (.entry (.bool _) (.lastEntry (.natural _)))))))
  have hlogging : (Json.Part.value s.logging.document).Plain :=
    .table (.entry (.text _) (.lastEntry (.text _)))
  have hlimits : (Json.Part.value s.limits.document).Plain :=
    .table (.entry (.natural _) (.lastEntry (.natural _)))
  .table (.entry hserver (.entry hcors (.entry hlogging (.lastEntry hlimits))))

/-- The document of settings gives back the settings, each field from its own place. -/
theorem ofDocument?_document (surplus : Surplus) (s : Settings) :
    ofDocument? surplus s.document = some s := by
  rw [(gives_document s).ofDocument?]
  exact congrArg some (ofFields_of s)

/-- The settings in a JSON text, in which nothing may be in excess. -/
def ofJson? (text : String) : Option Settings :=
  (Json.read? text).bind (ofDocument? .refused)

/-- The text that is printed of settings tells all of them. -/
theorem ofJson?_writeIndented (s : Settings) :
    ofJson? (Json.writeIndented s.document) = some s := by
  rw [ofJson?, Json.read?_writeIndented s.plain_document, Option.bind_some]
  exact ofDocument?_document .refused s

/-- Different settings are never printed alike. -/
theorem writeIndented_document_injective :
    Function.Injective fun s : Settings => Json.writeIndented s.document := by
  intro s t h
  have hread := congrArg Json.read? h
  rw [Json.read?_writeIndented s.plain_document, Json.read?_writeIndented t.plain_document] at hread
  have hgiven := congrArg (ofDocument? .refused) (Option.some.inj hread)
  rw [ofDocument?_document, ofDocument?_document] at hgiven
  exact Option.some.inj hgiven

end Reckoner.Settings
