/-!
Characters in bytes: how many bytes they take, where bytes cut them, and bytes as characters, where
some of the bytes may belong to no character.
-/
namespace Reckoner.Text

/-- How many bytes the characters take. -/
def byteLength (cs : List Char) : Nat := cs.foldl (· + ·.utf8Size) 0

/-- The characters in the first bytes and those after them, unless this cuts a character. -/
def splitBytes? : Nat → List Char → Option (List Char × List Char)
  | 0, cs => some ([], cs)
  | _, [] => none
  | bytes, c :: rest =>
    if c.utf8Size ≤ bytes then
      (splitBytes? (bytes - c.utf8Size) rest).map fun (first, after) => (c :: first, after)
    else none

/-- For the first byte of a character: how many bytes continue it, the highest part of its code,
and the least code that needs so many bytes. -/
def leadByte? (byte : UInt8) : Option (Nat × Nat × Nat) :=
  if byte < 0x80 then some (0, byte.toNat, 0)
  else if byte < 0xC0 then none
  else if byte < 0xE0 then some (1, byte.toNat - 0xC0, 0x80)
  else if byte < 0xF0 then some (2, byte.toNat - 0xE0, 0x800)
  else if byte < 0xF8 then some (3, byte.toNat - 0xF0, 0x10000)
  else none

/-- Appends the payload of the next `count` bytes to a code. -/
def continueCode? : Nat → Nat → List UInt8 → Option (Nat × List UInt8)
  | 0, code, bytes => some (code, bytes)
  | count + 1, code, byte :: bytes =>
    if 0x80 ≤ byte && byte < 0xC0 then continueCode? count (code * 64 + (byte.toNat - 0x80)) bytes
    else none
  | _ + 1, _, [] => none

def charOfCode? (code : Nat) : Option Char :=
  if h : code.isValidChar then some (Char.ofNatAux code h) else none

/-- The character at the front of the bytes and the bytes after it. -/
def decodeChar? : List UInt8 → Option (Char × List UInt8)
  | [] => none
  | byte :: bytes =>
    match leadByte? byte with
    | none => none
    | some (count, high, least) =>
      match continueCode? count high bytes with
      | none => none
      | some (code, rest) => if code < least then none else (charOfCode? code).map (·, rest)

theorem length_continueCode?_le {count code value : Nat} {bytes rest : List UInt8}
    (h : continueCode? count code bytes = some (value, rest)) : rest.length ≤ bytes.length := by
  fun_induction continueCode? count code bytes <;> grind

theorem length_decodeChar?_lt {bytes rest : List UInt8} {c : Char}
    (h : decodeChar? bytes = some (c, rest)) : rest.length < bytes.length := by
  unfold decodeChar? at h
  split at h
  · simp at h
  · split at h
    · simp at h
    · split at h
      · simp at h
      · rename_i hc
        split at h
        · simp at h
        · have hle := length_continueCode?_le hc
          simp only [Option.map_eq_some_iff, Prod.mk.injEq] at h
          obtain ⟨_, _, _, rfl⟩ := h
          simp only [List.length_cons]
          omega

/-- Appends the characters of a byte sequence, and `none` for each byte that is part of none, to
what came before them in reverse order. -/
def symbolsAfter (before : List (Option Char)) (bytes : List UInt8) : List (Option Char) :=
  match bytes with
  | [] => before.reverse
  | byte :: after =>
    match _h : decodeChar? (byte :: after) with
    | some (c, rest) => symbolsAfter (some c :: before) rest
    | none => symbolsAfter (none :: before) after
termination_by bytes.length
decreasing_by
  · exact length_decodeChar?_lt ‹_›
  · simp

/-- The characters of a byte sequence, and `none` for each byte that is part of none. -/
def symbols (bytes : List UInt8) : List (Option Char) := symbolsAfter [] bytes

end Reckoner.Text
