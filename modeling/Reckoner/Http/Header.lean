/-! Names and values of HTTP header fields. -/
namespace Reckoner.Http

/-- Methods, field names and the parts of media types consist of these characters. -/
def isTokenChar (c : Char) : Bool :=
  c.isAlphanum || "!#$%&'*+-.^_`|~".toList.contains c

def isToken (text : String) : Bool :=
  !text.isEmpty && text.toList.all isTokenChar

/-- No controls but the tab may stand in the value of a field. -/
def isFieldValue (text : String) : Bool :=
  text.toList.all fun c => c == '\t' || (' ' ≤ c && c != '\x7f')

/-- Fields by name, of which there may be several of one name. -/
abbrev Headers := List (String × String)

/-- The first value of a field, whose name is given in lower case. -/
def Headers.first? (headers : Headers) (name : String) : Option String :=
  (headers.find? (·.1.toLower == name)).map (·.2)

end Reckoner.Http
