/-!
Lines of a YAML text: which characters it may contain, how its lines end, and how the end of a line
is read within a scalar.
-/
namespace Reckoner.Yaml

/-- Characters that a text may contain. -/
def isPrintable (c : Char) : Bool :=
  let code := c.toNat
  code == 9 || code == 10 || code == 13 || (0x20 ≤ code && code ≤ 0x7e) || code == 0x85
    || (0xa0 ≤ code && code ≤ 0xfffd) || 0x10000 ≤ code

/-- A line feed stands for all ends of lines but the two separators. -/
def normalizeBreaks : List Char → List Char
  | '\r' :: '\n' :: rest => '\n' :: normalizeBreaks rest
  | '\r' :: rest => '\n' :: normalizeBreaks rest
  | '\u0085' :: rest => '\n' :: normalizeBreaks rest
  | c :: rest => c :: normalizeBreaks rest
  | [] => []

def isBlank (c : Char) : Bool := c == ' ' || c == '\t'

/-- Ends a line: a line feed, a line separator or a paragraph separator. -/
def isBreak (c : Char) : Bool := c == '\n' || c == '\u2028' || c == '\u2029'

/-- At a blank, the end of a line or the end of the text. -/
def endsWord : List Char → Bool
  | [] => true
  | c :: _ => isBlank c || isBreak c

/-- A mark between documents, which stands in the first column. -/
def isDocumentMark : List Char → Bool
  | '-' :: '-' :: '-' :: rest => endsWord rest
  | '.' :: '.' :: '.' :: rest => endsWord rest
  | _ => false

/-- Passes blanks and breaks: the breaks, behind those before in reverse order, what follows, and in
which column. After a break, tabs do not stand for indentation. -/
def takeBreaks? (indent : Nat) (before : List Char) (column : Nat) :
    List Char → Option (List Char × List Char × Nat)
  | [] => some (before.reverse, [], column)
  | c :: rest =>
    if isBreak c then takeBreaks? indent (c :: before) 0 rest
    else if c == '\t' && !before.isEmpty && column < indent then none
    else if isBlank c then takeBreaks? indent before (column + 1) rest
    else some (before.reverse, c :: rest, column)

theorem length_takeBreaks?_le {indent column : Nat} {before cs : List Char}
    {result : List Char × List Char × Nat} (h : takeBreaks? indent before column cs = some result) :
    result.2.1.length ≤ cs.length := by
  fun_induction takeBreaks? indent before column cs <;> grind

theorem length_takeBreaks?_lt {indent column : Nat} {before : List Char} {c : Char}
    {rest : List Char} {result : List Char × List Char × Nat}
    (hc : (isBlank c || isBreak c) = true)
    (h : takeBreaks? indent before column (c :: rest) = some result) :
    result.2.1.length < (c :: rest).length := by
  rw [takeBreaks?] at h
  split at h
  · exact Nat.lt_succ_of_le (length_takeBreaks?_le h)
  · split at h
    · simp at h
    · split at h
      · exact Nat.lt_succ_of_le (length_takeBreaks?_le h)
      · simp_all

/-- Blanks and breaks within a scalar as they are read: blanks on one line as they stand, a single
line feed as a blank, more breaks without the first if it is a line feed. -/
def foldBreaks (cs : List Char) : List Char → List Char
  | [] => cs.takeWhile isBlank
  | ['\n'] => [' ']
  | '\n' :: breaks => breaks
  | breaks => breaks

end Reckoner.Yaml
