import Reckoner.Document

/-!
Wrapped values in a settings file.

A table stands for a value if it has an entry for a wrapped value, whatever else it holds. An entry
for an identity has to be a word and means nothing. The outermost table is no wrapper.
-/
namespace Reckoner.Document

/-- The key of the value that a table stands for. -/
def wrappedValueKey : String := "___figment_value_value"

/-- The key of the identity of a value. -/
def identityKey : String := "___figment_value_id"

def isIdentity : Document → Bool
  | natural value => value < UInt64.size
  | _ => false

mutual

/-- The value that is meant. Values that do not count have to be well formed too. -/
def unwrapped? : Document → Option Document
  | list items => do return list (← unwrappedItems? items)
  | table entries => do
    let entries := lastEntries (← unwrappedEntries? entries)
    return (entries.lookup wrappedValueKey).getD (table entries)
  | value => some value

def unwrappedItems? : List Document → Option (List Document)
  | [] => some []
  | item :: rest => do return (← unwrapped? item) :: (← unwrappedItems? rest)

/-- The entries without identities. -/
def unwrappedEntries? : List (String × Document) → Option (List (String × Document))
  | [] => some []
  | (key, value) :: rest => do
    if key = identityKey then
      if value.isIdentity then unwrappedEntries? rest else none
    else return (key, ← unwrapped? value) :: (← unwrappedEntries? rest)

end

/-- What the entries of the outermost table mean. -/
def settingsEntries? (entries : List (String × Document)) : Option (List (String × Document)) := do
  return lastEntries (← entries.mapM fun (key, value) => value.unwrapped?.map (key, ·))

end Reckoner.Document
