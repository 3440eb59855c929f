import Reckoner.Json.Token
import Reckoner.Json.Writer

/-!
A string of a JSON text is read as what was written, whatever its characters.
-/
namespace Reckoner.Json

variable {c : Char} {cs : List Char} {before : List StringUnit} {rest : List (Option Char)}

/-- The unit stands for the character, in front of whatever comes next. -/
def StringUnit.Denotes (unit : StringUnit) (c : Char) : Prop :=
  ∀ before units, charsAfter? before (unit :: units) = charsAfter? (c :: before) units

theorem StringUnit.char_denotes (c : Char) : (StringUnit.char c).Denotes c := fun _ _ => rfl

/-- A code unit below the surrogates is a character by itself. -/
theorem StringUnit.utf16_denotes {code : Nat} (h : code < 0xD800) :
    (StringUnit.utf16 code).Denotes (Char.ofNat code) := by
  intro before units
  have hhigh : ¬ (0xD800 ≤ code ∧ code < 0xDC00) := by omega
  have hlow : ¬ (0xDC00 ≤ code ∧ code < 0xE000) := by omega
  have hany : ¬ (0xD800 ≤ code ∧ code < 0xE000) := by omega
  match units with
  | [] => simp [charsAfter?, hany]
  | .char d :: units => simp [charsAfter?, hany]
  | .stray :: units => simp [charsAfter?, hany]
  | .utf16 low :: units => rw [charsAfter?, if_neg hhigh, if_neg hlow]

/-- The digits that escape a control have its code as their value. -/
theorem natural?_control {code : Nat} (h : code < 32) :
    Text.natural? 16 ['0', '0', Nat.digitChar (code / 16), Nat.digitChar (code % 16)] =
      some code := by
  have hall : ∀ code : Fin 32,
      Text.natural? 16 ['0', '0', Nat.digitChar (code / 16), Nat.digitChar (code % 16)] =
        some code.val := by decide
  exact hall ⟨code, h⟩

theorem takeString?_char (hquote : c ≠ '"') (hescape : c ≠ '\\') (hcontrol : ¬ c < ' ') :
    takeString? before (some c :: rest) = takeString? (.char c :: before) rest := by
  rw [takeString?, if_neg (by simp [hcontrol, hescape])]
  all_goals simp_all

/-- One escaped character is read as one unit. -/
theorem takeString?_escapeChar (c : Char) :
    ∃ unit : StringUnit, unit.Denotes c ∧ ∀ before rest,
      takeString? before ((escapeChar c).map some ++ rest) =
        takeString? (unit :: before) rest := by
  unfold escapeChar
  split
  case h_8 _ hquote hescape _ _ _ _ _ =>
    split
    case isTrue hcontrol =>
      have hcode : c.toNat < 32 := hcontrol
      refine ⟨.utf16 c.toNat, ?_, ?_⟩
      · have hdenotes : (StringUnit.utf16 c.toNat).Denotes (Char.ofNat c.toNat) :=
          StringUnit.utf16_denotes (by omega)
        rwa [Char.ofNat_toNat] at hdenotes
      · intro before rest
        simp [takeString?, natural?_control hcode]
    case isFalse hcontrol =>
      exact ⟨.char c, StringUnit.char_denotes c,
        fun _ _ => takeString?_char hquote hescape hcontrol⟩
  all_goals exact ⟨_, StringUnit.char_denotes _, fun _ _ => by simp [takeString?, escaped?]⟩

theorem takeString?_flatMap_escapeChar (cs : List Char) :
    ∃ units, (∀ before, charsAfter? before units = some (before.reverse ++ cs)) ∧
      ∀ before rest, takeString? before ((cs.flatMap escapeChar).map some ++ some '"' :: rest) =
        some (before.reverse ++ units, rest) := by
  induction cs with
  | nil => exact ⟨[], by simp [charsAfter?], by simp [takeString?]⟩
  | cons c cs ih =>
    obtain ⟨units, hchars, htake⟩ := ih
    obtain ⟨unit, hdenotes, hunit⟩ := takeString?_escapeChar c
    refine ⟨unit :: units, ?_, ?_⟩
    · intro before
      rw [hdenotes, hchars, List.reverse_cons, List.append_assoc, List.singleton_append]
    · intro before rest
      rw [List.flatMap_cons, List.map_append, List.append_assoc, hunit, htake, List.reverse_cons,
        List.append_assoc, List.singleton_append]

/-- A written string is one token, which is decoded to the string. -/
theorem nextToken?_writeText (text : String) :
    ∃ units, decodeString? units = some text ∧
      ∀ rest, nextToken? ((writeText text).map some ++ rest) = some (.text units, rest) := by
  obtain ⟨units, hchars, htake⟩ := takeString?_flatMap_escapeChar text.toList
  refine ⟨units, ?_, ?_⟩
  · rw [decodeString?, hchars, List.reverse_nil, List.nil_append, Option.map_some,
      String.ofList_toList]
  · intro rest
    have hquoted : (writeText text).map some ++ rest =
        some '"' :: ((text.toList.flatMap escapeChar).map some ++ some '"' :: rest) := by
      simp [writeText]
    rw [hquoted]
    exact congrArg (Option.map _) (htake [] rest)

end Reckoner.Json
