import Reckoner.Text.Numeral

/-!
Tokens of a JSON text. The text may be a byte sequence that is not all characters: a byte that
belongs to none stands as `none`, and is found out only where the text of a string is wanted.
-/
namespace Reckoner.Json

/-- A number as it is written. Without a point there are no places, without an `e` no exponent. -/
structure Numeral where
  negative : Bool
  whole : List Char
  places : List Char
  /-- The sign of the exponent (`true` for minus) and its digits. -/
  exponent : Option (Bool × List Char)
  deriving DecidableEq, Repr

/-- What a string is made of: characters, escaped UTF-16 code units, and stray bytes. -/
inductive StringUnit where
  | char (c : Char)
  | utf16 (code : Nat)
  | stray
  deriving DecidableEq, Repr

inductive Token where
  | openList | closeList | openTable | closeTable | colon | comma
  | null
  | bool (value : Bool)
  | number (numeral : Numeral)
  | text (units : List StringUnit)
  deriving DecidableEq, Repr

def isBlank : Option Char → Bool
  | some c => c == ' ' || c == '\n' || c == '\t' || c == '\r'
  | none => false

def isDigit : Option Char → Bool
  | some c => c.isDigit
  | none => false

/-- The digits at the front, and what follows them. -/
def takeDigits (input : List (Option Char)) : List Char × List (Option Char) :=
  ((input.takeWhile isDigit).filterMap id, input.dropWhile isDigit)

/-- The places behind a point, of which there has to be one at least. -/
def takePlaces? : List (Option Char) → Option (List Char × List (Option Char))
  | some '.' :: rest =>
    let (places, rest) := takeDigits rest
    if places.isEmpty then none else some (places, rest)
  | rest => some ([], rest)

def takeSign : List (Option Char) → Bool × List (Option Char)
  | some '-' :: rest => (true, rest)
  | some '+' :: rest => (false, rest)
  | rest => (false, rest)

def takeExponent? (input : List (Option Char)) :
    Option (Option (Bool × List Char) × List (Option Char)) :=
  match input with
  | some c :: rest =>
    if c = 'e' ∨ c = 'E' then
      let (negative, rest) := takeSign rest
      let (digits, rest) := takeDigits rest
      if digits.isEmpty then none else some (some (negative, digits), rest)
    else some (none, input)
  | _ => some (none, input)

/-- A number after its sign. A zero in front of other digits is refused. -/
def takeNumeral? (negative : Bool) (input : List (Option Char)) :
    Option (Numeral × List (Option Char)) :=
  let (whole, rest) := takeDigits input
  if whole.isEmpty || (whole.head? == some '0' && whole.length != 1) then none
  else
    match takePlaces? rest with
    | none => none
    | some (places, rest) =>
      match takeExponent? rest with
      | none => none
      | some (exponent, rest) => some (⟨negative, whole, places, exponent⟩, rest)

/-- Meaning of a character after a backslash. -/
def escaped? : Char → Option Char
  | '"' => some '"'
  | '\\' => some '\\'
  | '/' => some '/'
  | 'b' => some '\x08'
  | 'f' => some '\x0c'
  | 'n' => some '\n'
  | 'r' => some '\r'
  | 't' => some '\t'
  | _ => none

/-- The rest of a string up to its closing quote, behind the units read before in reverse order. -/
def takeString? (before : List StringUnit) :
    List (Option Char) → Option (List StringUnit × List (Option Char))
  | [] => none
  | some '"' :: rest => some (before.reverse, rest)
  | some '\\' :: some 'u' :: some a :: some b :: some c :: some d :: rest =>
    match Text.natural? 16 [a, b, c, d] with
    | some code => takeString? (.utf16 code :: before) rest
    | none => none
  | some '\\' :: some c :: rest =>
    match escaped? c with
    | some c => takeString? (.char c :: before) rest
    | none => none
  | some c :: rest => if c < ' ' ∨ c = '\\' then none else takeString? (.char c :: before) rest
  | none :: rest => takeString? (.stray :: before) rest

/-- The characters of a string behind those known before in reverse order. Surrogates have to come
in pairs. -/
def charsAfter? (before : List Char) : List StringUnit → Option (List Char)
  | [] => some before.reverse
  | .char c :: rest => charsAfter? (c :: before) rest
  | .stray :: _ => none
  | .utf16 high :: .utf16 low :: rest =>
    if 0xD800 ≤ high ∧ high < 0xDC00 then
      if 0xDC00 ≤ low ∧ low < 0xE000 then
        charsAfter? (Char.ofNat (0x10000 + (high - 0xD800) * 0x400 + (low - 0xDC00)) :: before) rest
      else none
    else if 0xDC00 ≤ high ∧ high < 0xE000 then none
    else charsAfter? (Char.ofNat high :: before) (.utf16 low :: rest)
  | .utf16 code :: rest =>
    if 0xD800 ≤ code ∧ code < 0xE000 then none
    else charsAfter? (Char.ofNat code :: before) rest

def decodeString? (units : List StringUnit) : Option String :=
  (charsAfter? [] units).map String.ofList

/-- The first token and what follows it. -/
def nextToken? (input : List (Option Char)) : Option (Token × List (Option Char)) :=
  match input.dropWhile isBlank with
  | some '[' :: rest => some (.openList, rest)
  | some ']' :: rest => some (.closeList, rest)
  | some '\x7b' :: rest => some (.openTable, rest)
  | some '\x7d' :: rest => some (.closeTable, rest)
  | some ':' :: rest => some (.colon, rest)
  | some ',' :: rest => some (.comma, rest)
  | some 'n' :: some 'u' :: some 'l' :: some 'l' :: rest => some (.null, rest)
  | some 't' :: some 'r' :: some 'u' :: some 'e' :: rest => some (.bool true, rest)
  | some 'f' :: some 'a' :: some 'l' :: some 's' :: some 'e' :: rest => some (.bool false, rest)
  | some '"' :: rest => (takeString? [] rest).map fun (units, rest) => (.text units, rest)
  | some '-' :: rest =>
    (takeNumeral? true rest).map fun (numeral, rest) => (.number numeral, rest)
  | rest => (takeNumeral? false rest).map fun (numeral, rest) => (.number numeral, rest)

theorem length_takeDigits_le (input : List (Option Char)) :
    (takeDigits input).2.length ≤ input.length := (List.dropWhile_sublist isDigit).length_le

theorem length_takeDigits_lt {input : List (Option Char)}
    (h : (takeDigits input).1.isEmpty = false) :
    (takeDigits input).2.length < input.length := by
  cases input with
  | nil => simp [takeDigits] at h
  | cons x rest =>
    by_cases hx : isDigit x
    · have := (List.dropWhile_sublist isDigit : (rest.dropWhile isDigit).Sublist rest).length_le
      simp only [takeDigits, List.dropWhile_cons, hx, ↓reduceIte, List.length_cons]
      omega
    · simp [takeDigits, hx] at h

theorem length_takePlaces?_le {input rest : List (Option Char)} {places : List Char}
    (h : takePlaces? input = some (places, rest)) : rest.length ≤ input.length := by
  unfold takePlaces? at h
  split at h
  · rename_i after
    have := length_takeDigits_le after
    grind
  · grind

theorem length_takeSign_le (input : List (Option Char)) :
    (takeSign input).2.length ≤ input.length := by
  unfold takeSign
  split <;> simp

theorem length_takeExponent?_le {input rest : List (Option Char)}
    {exponent : Option (Bool × List Char)} (h : takeExponent? input = some (exponent, rest)) :
    rest.length ≤ input.length := by
  unfold takeExponent? at h
  split at h
  · rename_i c after
    have := length_takeSign_le after
    have := length_takeDigits_le (takeSign after).2
    grind
  · grind

theorem length_takeNumeral?_lt {negative : Bool} {input rest : List (Option Char)}
    {numeral : Numeral} (h : takeNumeral? negative input = some (numeral, rest)) :
    rest.length < input.length := by
  unfold takeNumeral? at h
  dsimp only at h
  split at h
  · simp at h
  · rename_i hwhole
    have hd := @length_takeDigits_lt input (by grind)
    split at h
    · simp at h
    · rename_i hplaces
      have hp := length_takePlaces?_le hplaces
      split at h
      · simp at h
      · rename_i hexponent
        have he := length_takeExponent?_le hexponent
        simp only [Option.some.injEq, Prod.mk.injEq] at h
        obtain ⟨-, rfl⟩ := h
        omega

theorem length_takeString?_lt {before units : List StringUnit} {input rest : List (Option Char)}
    (h : takeString? before input = some (units, rest)) : rest.length < input.length := by
  fun_induction takeString? before input <;> simp_all <;> omega

theorem length_nextToken?_lt {input rest : List (Option Char)} {token : Token}
    (h : nextToken? input = some (token, rest)) : rest.length < input.length := by
  have hblank :=
    (List.dropWhile_sublist isBlank : (input.dropWhile isBlank).Sublist input).length_le
  unfold nextToken? at h
  split at h <;> rename_i hinput <;> try rw [hinput] at hblank
  case h_10 =>
    simp only [Option.map_eq_some_iff, Prod.mk.injEq] at h
    obtain ⟨⟨units, after⟩, htake, -, rfl⟩ := h
    have := length_takeString?_lt htake
    simp only [List.length_cons] at hblank ⊢
    omega
  case h_11 =>
    simp only [Option.map_eq_some_iff, Prod.mk.injEq] at h
    obtain ⟨⟨numeral, after⟩, htake, -, rfl⟩ := h
    have := length_takeNumeral?_lt htake
    simp only [List.length_cons] at hblank ⊢
    omega
  case h_12 =>
    simp only [Option.map_eq_some_iff, Prod.mk.injEq] at h
    obtain ⟨⟨numeral, after⟩, htake, -, rfl⟩ := h
    have := length_takeNumeral?_lt htake
    dsimp only
    omega
  all_goals
    simp only [Option.some.injEq, Prod.mk.injEq] at h
    obtain ⟨-, rfl⟩ := h
    simp only [List.length_cons] at hblank
    omega

end Reckoner.Json
