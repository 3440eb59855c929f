/-! Values of a data document, whatever notation it was written in. -/
namespace Reckoner

inductive Document where
  | null
  | bool (value : Bool)
  /-- A whole number without a sign. -/
  | natural (value : Nat)
  /-- A whole number with a minus sign. -/
  | negative (value : Nat)
  /-- Any other number, as it was written. -/
  | number (literal : String)
  | text (value : String)
  | list (items : List Document)
  | table (entries : List (String × Document))

/-- The value of an entry of a table. -/
def Document.field? (key : String) : Document → Option Document
  | table entries => entries.lookup key
  | _ => none

/-- Of entries with one key the last. -/
def Document.lastEntries : List (String × Document) → List (String × Document)
  | [] => []
  | (key, value) :: rest =>
    let rest := lastEntries rest
    if (rest.lookup key).isSome then rest else (key, value) :: rest

instance : Inhabited Document := ⟨.null⟩

end Reckoner
