import Reckoner.Decimal.Reader
import Reckoner.Expression.Rejection

/-! Splitting the text of an expression into lexemes, one at a time, up to the first error. -/
namespace Reckoner

/-- What is still to be read, and how many characters came before it. -/
structure Scanner where
  rest : List Char
  pos : Nat
  failed : Bool
  deriving DecidableEq, Repr

namespace Scanner

def isBlank (c : Char) : Bool := c == ' ' || c == '\t' || c == '\r' || c == '\n'

/-- Digits and points, whose maximal runs are the literals. -/
def isNumeral (c : Char) : Bool := c.isDigit || c == '.'

/-- Digits before and behind a point, with one behind it at least. Without a point it is enough that
there is something: no other characters than digits get here. -/
def isWellFormed (literal : List Char) : Bool :=
  let whole := literal.takeWhile (· != '.')
  match literal.dropWhile (· != '.') with
  | [] => !literal.isEmpty
  | _ :: places => !places.isEmpty && places.all Char.isDigit && whole.all Char.isDigit

/-- With a zero in front of a point that comes first. -/
def normalized : List Char → List Char
  | '.' :: places => '0' :: '.' :: places
  | literal => literal

/-- The value of a literal, which has to be well-formed and a number. -/
def literalValue? (literal : List Char) : Option Binary64 :=
  if isWellFormed literal then Decimal.read? (normalized literal) else none

/-- The next lexeme or error, if there is one. An error is the last thing to come. -/
def next (s : Scanner) : Option (Except LexicalError Lexeme) × Scanner :=
  if s.failed then (none, s)
  else
    let start := s.pos + (s.rest.takeWhile isBlank).length
    match s.rest.dropWhile isBlank with
    | [] => (none, ⟨[], start, false⟩)
    | c :: tail =>
      if isNumeral c then
        let literal := c :: tail.takeWhile isNumeral
        let after := tail.dropWhile isNumeral
        match literalValue? literal with
        | some value => (some (.ok ⟨.number value, start⟩), ⟨after, start + literal.length, false⟩)
        | none =>
          (some (.error (.malformedNumber (String.ofList literal) start)),
            ⟨after, start + literal.length, true⟩)
      else
        match Token.ofChar? c with
        | some token => (some (.ok ⟨token, start⟩), ⟨tail, start + 1, false⟩)
        | none => (some (.error (.invalidCharacter c start)), ⟨tail, start + 1, true⟩)

theorem length_dropWhile_le (p : Char → Bool) (cs : List Char) :
    (cs.dropWhile p).length ≤ cs.length := (List.dropWhile_sublist p).length_le

/-- Whatever comes takes at least one character. -/
theorem length_next_lt {s s' : Scanner} {item : Except LexicalError Lexeme}
    (h : s.next = (some item, s')) : s'.rest.length < s.rest.length := by
  have hblank := length_dropWhile_le isBlank s.rest
  unfold next at h
  split at h
  · simp at h
  · extract_lets start at h
    split at h
    · simp at h
    · rename_i c tail hrest
      have htail := length_dropWhile_le isNumeral tail
      simp only [hrest, List.length_cons] at hblank
      extract_lets literal after at h
      split at h <;> split at h <;> simp only [Prod.mk.injEq] at h <;>
        obtain ⟨-, rfl⟩ := h <;> simp only [after] <;> omega

/-- All that comes, in order. -/
def items (s : Scanner) : List (Except LexicalError Lexeme) :=
  match _h : s.next with
  | (none, _) => []
  | (some item, s') => item :: s'.items
termination_by s.rest.length
decreasing_by exact length_next_lt ‹_›

/-- Where the scanner stands when nothing more comes. -/
def drained (s : Scanner) : Scanner :=
  match _h : s.next with
  | (none, s') => s'
  | (some _, s') => s'.drained
termination_by s.rest.length
decreasing_by exact length_next_lt ‹_›

def ofText (text : String) : Scanner := ⟨text.toList, 0, false⟩

end Scanner

/-- The lexemes of a text, or the first error in it. -/
def lexemes (text : String) : Except LexicalError (List Lexeme) :=
  (Scanner.ofText text).items.mapM id

end Reckoner
