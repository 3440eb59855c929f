import Reckoner.Proofs.Binary64.Nearest
import Reckoner.Proofs.Binary64.Sameness
import Reckoner.Proofs.Decimal.Reading
import Reckoner.Proofs.Expression.Formula
import Reckoner.Proofs.Expression.Literal
import Reckoner.Proofs.Expression.OpenDepth
import Reckoner.Proofs.Expression.Positions
import Reckoner.Proofs.SocketAddress.Groups

/-!
What a message tells. Each begins with words that no other reason begins with, and what follows
them can be taken apart again: numbers end where their digits do, and what stands between quotes
ends before the last digits.
-/
namespace Reckoner

namespace Text

variable {front front' back back' digits digits' : List Char} {c : Char} {m n radix : Nat}

theorem toDigits_injective (hone : 1 < radix) (hradix : radix ≤ 16) :
    Function.Injective (Nat.toDigits radix) := by
  intro m n h
  rw [← SocketAddress.foldl_toDigits hone hradix m, h, SocketAddress.foldl_toDigits hone hradix]

/-- The first digits of a text end before the first character that is none. -/
theorem digits_append_inj (hdigits : ∀ c ∈ digits, c.isDigit = true)
    (hdigits' : ∀ c ∈ digits', c.isDigit = true) (hc : c.isDigit = false)
    (h : digits ++ c :: back = digits' ++ c :: back') : digits = digits' ∧ back = back' := by
  obtain ⟨htake, hdrop⟩ := Decimal.takeWhile_isDigit hdigits (c :: back) (by simp [hc])
  obtain ⟨htake', hdrop'⟩ := Decimal.takeWhile_isDigit hdigits' (c :: back') (by simp [hc])
  rw [h] at htake hdrop
  exact ⟨htake.symm.trans htake', List.tail_eq_of_cons_eq (hdrop.symm.trans hdrop')⟩

theorem toDigits_append_inj (hc : c.isDigit = false)
    (h : Nat.toDigits 10 m ++ c :: back = Nat.toDigits 10 n ++ c :: back') :
    m = n ∧ back = back' := by
  obtain ⟨hdigits, hback⟩ := digits_append_inj (isDigit_toDigits m) (isDigit_toDigits n) hc h
  exact ⟨toDigits_injective (by decide) (by decide) hdigits, hback⟩

/-- The last digits of a text begin behind the last character that is none. -/
theorem append_toDigits_inj (hc : c.isDigit = false)
    (h : front ++ c :: Nat.toDigits 10 m = front' ++ c :: Nat.toDigits 10 n) :
    front = front' ∧ m = n := by
  have hreverse : (Nat.toDigits 10 m).reverse ++ c :: front.reverse =
      (Nat.toDigits 10 n).reverse ++ c :: front'.reverse := by
    simpa using congrArg List.reverse h
  obtain ⟨hdigits, hfront⟩ := digits_append_inj
    (fun d hd => isDigit_toDigits m d (List.mem_reverse.mp hd))
    (fun d hd => isDigit_toDigits n d (List.mem_reverse.mp hd)) hc hreverse
  exact ⟨List.reverse_injective hfront,
    toDigits_injective (by decide) (by decide) (List.reverse_injective hdigits)⟩

/-- Left inverse of `escapeChar`. -/
def unescape : List Char → Option Char
  | [c] => some c
  | ['\\', '0'] => some '\x00'
  | ['\\', 't'] => some '\t'
  | ['\\', 'r'] => some '\r'
  | ['\\', 'n'] => some '\n'
  | ['\\', '\\'] => some '\\'
  | ['\\', '\''] => some '\''
  | ['\\', '"'] => some '"'
  | '\\' :: 'u' :: '\x7b' :: digits =>
    some (Char.ofNat (digits.dropLast.foldl (fun n c => 16 * n + (digitValue? 16 c).getD 0) 0))
  | _ => none

theorem unescape_code (digits : List Char) :
    unescape ('\\' :: 'u' :: '\x7b' :: digits) = some (Char.ofNat
      (digits.dropLast.foldl (fun n c => 16 * n + (digitValue? 16 c).getD 0) 0)) := rfl

theorem unescape_escapeChar (c : Char) : unescape (escapeChar c) = some c := by
  unfold escapeChar
  split
  case h_8 =>
    split
    · rw [unescape_code, List.dropLast_concat,
        SocketAddress.foldl_toDigits (by decide) (by decide), Char.ofNat_toNat]
    · rfl
  all_goals rfl

theorem escapeChar_injective : Function.Injective escapeChar := by
  intro c c' h
  have heq := unescape_escapeChar c
  rw [h, unescape_escapeChar] at heq
  exact (Option.some.inj heq).symm

end Text

namespace Token

variable {t t' : Token}

/-- The number of a literal: it has no sign, and it is one. -/
def Definite : Token → Prop
  | number value => value.negative = false ∧ value.isNaN = false
  | _ => True

/-- No other token has a text that reads as a number. -/
theorem read?_text (h : t.Definite) (value : Binary64) :
    Decimal.read? t.text.toList = some value ↔ t = number value := by
  cases t with
  | number x =>
    rw [text, Binary64.text, String.toList_ofList, Decimal.read?_write h.2, Option.some.injEq,
      number.injEq]
  | operator op => cases op <;> exact ⟨nofun, nofun⟩
  | opening | closing => exact ⟨nofun, nofun⟩

theorem exists_char?_eq_some (h : ∀ value, t ≠ number value) :
    ∃ c, t.char? = some c ∧ t.text.toList = [c] := by
  cases t with
  | number value => exact absurd rfl (h value)
  | operator op => exact ⟨op.symbol, rfl, by cases op <;> rfl⟩
  | opening => exact ⟨'(', rfl, rfl⟩
  | closing => exact ⟨')', rfl, rfl⟩

theorem text_injective (h : t.Definite) (h' : t'.Definite) (htext : t.text = t'.text) :
    t = t' := by
  by_cases hnumber : ∃ value, Decimal.read? t.text.toList = some value
  · obtain ⟨value, hread⟩ := hnumber
    have hread' := hread
    rw [htext] at hread'
    exact ((read?_text h value).mp hread).trans ((read?_text h' value).mp hread').symm
  · have hne : ∀ value, t ≠ number value :=
      fun value hvalue => hnumber ⟨value, (read?_text h value).mpr hvalue⟩
    have hne' : ∀ value, t' ≠ number value := by
      rw [htext] at hnumber
      exact fun value hvalue => hnumber ⟨value, (read?_text h' value).mpr hvalue⟩
    obtain ⟨c, hc, hsymbol⟩ := exists_char?_eq_some hne
    obtain ⟨c', hc', hsymbol'⟩ := exists_char?_eq_some hne'
    obtain rfl : c = c' := List.singleton_inj.mp (by rw [← hsymbol, ← hsymbol', htext])
    exact Option.some.inj ((ofChar?_eq_some_iff.mpr hc).symm.trans (ofChar?_eq_some_iff.mpr hc'))

end Token

/-- What is wrong, without any details. -/
inductive Reason where
  | invalidCharacter | malformedNumber | tooLong
  | empty | unbalancedParentheses | unexpectedToken | unexpectedEnd | tooComplex
  | divisionByZero | overflow
  deriving DecidableEq, Repr

/-- How messages about the reason begin. -/
def Reason.stem : Reason → String
  | invalidCharacter => "invalid character '"
  | malformedNumber => "malformed number '"
  | tooLong => "expression too long ("
  | empty => "empty expression"
  | unbalancedParentheses => "unbalanced parentheses"
  | unexpectedToken => "unexpected token '"
  | unexpectedEnd => "unexpected end of expression"
  | tooComplex => "expression too complex"
  | divisionByZero => "division by zero"
  | overflow => "numeric overflow"

/-- No message begins in two ways. -/
theorem Reason.eq_of_prefix {r r' : Reason} (h : r.stem.toList <+: r'.stem.toList) : r = r' := by
  cases r <;> cases r' <;> first | rfl | exact absurd h (by decide)

namespace Rejection

def reason : Rejection → Reason
  | lexical (.invalidCharacter ..) => .invalidCharacter
  | lexical (.malformedNumber ..) => .malformedNumber
  | lexical (.tooLong ..) => .tooLong
  | grammar .empty => .empty
  | grammar .unbalancedParentheses => .unbalancedParentheses
  | grammar (.unexpectedToken _) => .unexpectedToken
  | grammar .unexpectedEnd => .unexpectedEnd
  | grammar (.tooComplex _) => .tooComplex
  | arithmetic .divisionByZero => .divisionByZero
  | arithmetic .overflow => .overflow

/-- What stands at the position, behind the quote in front of it. -/
def located (what : List Char) (pos : Nat) : List Char :=
  what ++ ("' at position ".toList ++ Nat.toDigits 10 pos)

/-- What a message tells behind its first words. -/
def details : Rejection → List Char
  | lexical (.invalidCharacter c pos) => located (Text.escapeChar c) pos
  | lexical (.malformedNumber literal pos) => located literal.toList pos
  | lexical (.tooLong length limit) =>
    Nat.toDigits 10 length ++ (" characters, max ".toList ++ (Nat.toDigits 10 limit ++ ")".toList))
  | grammar (.unexpectedToken lexeme) => located lexeme.token.text.toList lexeme.pos
  | _ => []

variable {e e' : Rejection} {limits : Limits}

theorem toList_message (e : Rejection) : e.message.toList = e.reason.stem.toList ++ e.details := by
  have hlocated (stem what : String) (pos : Nat) :
      (stem ++ what ++ "' at position " ++ pos.repr).toList =
        stem.toList ++ located what.toList pos := by
    simp only [String.toList_append, Nat.toList_repr, located, List.append_assoc]
  have hlength (stem between ending : String) (length limit : Nat) :
      (stem ++ length.repr ++ between ++ limit.repr ++ ending).toList =
        stem.toList ++ (Nat.toDigits 10 length ++ (between.toList ++
          (Nat.toDigits 10 limit ++ ending.toList))) := by
    simp only [String.toList_append, Nat.toList_repr, List.append_assoc]
  match e with
  | lexical (.invalidCharacter c pos) =>
    have hescape : (String.ofList (Text.escapeChar c)).toList = Text.escapeChar c :=
      String.toList_ofList
    exact (hlocated _ _ pos).trans (congrArg (fun what => _ ++ located what pos) hescape)
  | lexical (.malformedNumber literal pos) => exact hlocated _ literal pos
  | lexical (.tooLong length limit) => exact hlength _ _ _ length limit
  | grammar (.unexpectedToken lexeme) => exact hlocated _ lexeme.token.text lexeme.pos
  | grammar .empty | grammar .unbalancedParentheses | grammar .unexpectedEnd
  | grammar (.tooComplex _) | arithmetic .divisionByZero | arithmetic .overflow =>
    exact (List.append_nil _).symm

theorem located_eq (what : List Char) (pos : Nat) :
    located what pos = (what ++ "' at position".toList) ++ ' ' :: Nat.toDigits 10 pos := by
  have hblank : "' at position ".toList = "' at position".toList ++ [' '] := rfl
  rw [located, hblank, List.append_assoc, List.singleton_append, List.append_assoc]

theorem located_inj {what what' : List Char} {pos pos' : Nat}
    (h : located what pos = located what' pos') : what = what' ∧ pos = pos' := by
  rw [located_eq, located_eq] at h
  obtain ⟨hfront, hpos⟩ := Text.append_toDigits_inj (by decide) h
  exact ⟨List.append_cancel_right hfront, hpos⟩

/-- A rejection that these limits can lead to. -/
def Possible (limits : Limits) : Rejection → Prop
  | grammar (.unexpectedToken lexeme) => lexeme.token.Definite
  | grammar (.tooComplex limit) => limit = limits.maxDepth.toNat
  | _ => True

theorem eq_of_details (h : e.Possible limits) (h' : e'.Possible limits)
    (hreason : e.reason = e'.reason) (hdetails : e.details = e'.details) : e = e' := by
  match e, e', hreason with
  | lexical (.invalidCharacter c pos), lexical (.invalidCharacter c' pos'), _ =>
    obtain ⟨hc, rfl⟩ := located_inj hdetails
    rw [Text.escapeChar_injective hc]
  | lexical (.malformedNumber literal pos), lexical (.malformedNumber literal' pos'), _ =>
    obtain ⟨hliteral, rfl⟩ := located_inj hdetails
    rw [String.toList_injective hliteral]
  | lexical (.tooLong length limit), lexical (.tooLong length' limit'), _ =>
    obtain ⟨rfl, hback⟩ := Text.toDigits_append_inj (by decide) hdetails
    obtain ⟨rfl, -⟩ := Text.toDigits_append_inj (by decide) (List.append_cancel_left hback)
    rfl
  | grammar .empty, grammar .empty, _ => rfl
  | grammar .unbalancedParentheses, grammar .unbalancedParentheses, _ => rfl
  | grammar (.unexpectedToken ⟨token, pos⟩), grammar (.unexpectedToken ⟨token', pos'⟩), _ =>
    obtain ⟨htext, rfl⟩ := located_inj hdetails
    obtain rfl : token = token' := Token.text_injective h h' (String.toList_injective htext)
    rfl
  | grammar .unexpectedEnd, grammar .unexpectedEnd, _ => rfl
  | grammar (.tooComplex limit), grammar (.tooComplex limit'), _ =>
    obtain rfl : limit = limits.maxDepth.toNat := h
    obtain rfl : limit' = limits.maxDepth.toNat := h'
    rfl
  | arithmetic .divisionByZero, arithmetic .divisionByZero, _ => rfl
  | arithmetic .overflow, arithmetic .overflow, _ => rfl

theorem eq_of_message (h : e.Possible limits) (h' : e'.Possible limits)
    (hmessage : e.message = e'.message) : e = e' := by
  have hlists : e.reason.stem.toList ++ e.details = e'.reason.stem.toList ++ e'.details := by
    rw [← toList_message, ← toList_message, hmessage]
  have hreason : e.reason = e'.reason := by
    have hprefix' := List.prefix_append e'.reason.stem.toList e'.details
    rw [← hlists] at hprefix'
    rcases List.prefix_or_prefix_of_prefix (List.prefix_append _ _) hprefix' with h | h
    · exact Reason.eq_of_prefix h
    · exact (Reason.eq_of_prefix h).symm
  rw [hreason] at hlists
  exact eq_of_details h h' hreason (List.append_cancel_left hlists)

/-- Equality in which numbers are compared by their values. -/
def sameValue : Rejection → Rejection → Bool
  | grammar (.unexpectedToken ⟨.number x, pos⟩), grammar (.unexpectedToken ⟨.number y, pos'⟩) =>
    x.sameValue y && pos == pos'
  | e, e' => e == e'

theorem sameValue_iff (h : e.Possible limits) (h' : e'.Possible limits) :
    e.sameValue e' = true ↔ e = e' := by
  unfold sameValue
  split
  case h_1 x pos y pos' =>
    rw [Bool.and_eq_true, beq_iff_eq, Binary64.sameValue_iff]
    constructor
    · rintro ⟨⟨-, hvalue⟩, rfl⟩
      rw [Binary64.eq_of_rank h.1 h'.1 hvalue.rank_eq]
    · rintro ⟨⟩
      exact ⟨⟨h.2, .of_eq rfl⟩, rfl⟩
  case h_2 => exact beq_iff_eq

end Rejection

theorem Binary64.isNaN_ofDecimal (digits places : Nat) :
    (ofDecimal digits places).isNaN = false :=
  decide_eq_false (Nat.not_lt.mpr (nearestRank_le _ _))

theorem Scanner.LexemeAt.definite {cs : List Char} {lexeme : Lexeme} (h : LexemeAt cs lexeme) :
    lexeme.token.Definite := by
  cases h with
  | @symbol c token _ _ htoken =>
    cases token with
    | number value => cases Token.ofChar?_eq_some_iff.mp htoken
    | operator | opening | closing => trivial
  | number hrun hvalue =>
    obtain ⟨digits, places, -, rfl⟩ := (literalValue?_eq_some_iff hrun.1).mp hvalue
    exact ⟨rfl, Binary64.isNaN_ofDecimal digits places⟩

theorem Prospect.eq_of_fault?_tooComplex {p : Prospect} {limit bound : Nat} {ls : List Lexeme}
    (h : p.fault? limit ls = some (.tooComplex bound)) : bound = limit := by
  induction ls generalizing p with
  | nil => exact absurd h (endError?_ne_tooComplex p bound)
  | cons lexeme ls ih =>
    unfold fault? at h
    split at h
    · exact absurd (Option.some.inj h) (refusal_ne_tooComplex p lexeme bound)
    · split at h
      · cases h
        rfl
      · exact ih h

namespace Limits

variable {limits : Limits} {text : String}

theorem fault?_of_evaluate_error {error : GrammarError}
    (h : limits.evaluate text = .error (.grammar error)) (hne : error ≠ .empty) :
    ∃ ls, lexemes text = .ok ls ∧
      Prospect.start.fault? limits.maxDepth.toNat ls = some error := by
  obtain ⟨ls, hls, herror⟩ := ofLexemes_of_evaluate_error h
  refine ⟨ls, hls, (Prospect.ofLexemes_eq_error_iff ?_).mp herror⟩
  rintro rfl
  exact hne (Except.error.inj herror).symm

theorem possible_of_evaluate_error {e : Rejection} (h : limits.evaluate text = .error e) :
    e.Possible limits := by
  match e with
  | .lexical _ | .arithmetic _ | .grammar .empty | .grammar .unbalancedParentheses
  | .grammar .unexpectedEnd => trivial
  | .grammar (.unexpectedToken lexeme) =>
    obtain ⟨ls, hls, hfault⟩ := fault?_of_evaluate_error h nofun
    obtain ⟨before, after, q, rfl, -⟩ :=
      Prospect.exists_of_fault?_unexpectedToken (Nat.zero_le _) hfault
    exact (Scanner.exists_stands_of_lexemes hls).1.definite
  | .grammar (.tooComplex limit) =>
    obtain ⟨ls, -, hfault⟩ := fault?_of_evaluate_error h nofun
    exact Prospect.eq_of_fault?_tooComplex hfault

/-- Messages lose nothing: two rejections by the same service have the same message if and only if
they are equal, in what is wrong, in the character, the literal or the token, and in every position
and length. -/
theorem message_eq_iff (limits : Limits) {s t : String} {e e' : Rejection}
    (h : limits.evaluate s = .error e) (h' : limits.evaluate t = .error e') :
    (e.message = e'.message ↔ e.sameValue e' = true) ∧ (e.sameValue e' = true ↔ e = e') := by
  have hpossible := possible_of_evaluate_error h
  have hpossible' := possible_of_evaluate_error h'
  have hsame := Rejection.sameValue_iff hpossible hpossible'
  refine ⟨?_, hsame⟩
  rw [hsame]
  exact ⟨Rejection.eq_of_message hpossible hpossible', congrArg Rejection.message⟩

/-- A quote and a backslash are told apart between quotes, and one number is told alike however it
was written. -/
theorem message_eq_iff_each :
    let quote : Rejection := .lexical (.invalidCharacter '\'' 0)
    let backslash : Rejection := .lexical (.invalidCharacter '\\' 0)
    let half : Rejection := .grammar (.unexpectedToken ⟨.number (.ofDecimal 5 1), 2⟩)
    (({} : Limits).evaluate "'" = .error quote ∧ ({} : Limits).evaluate "\\" = .error backslash ∧
      quote.message ≠ backslash.message) ∧
    ({} : Limits).evaluate "1 .5" = .error half ∧ ({} : Limits).evaluate "7 0.50" = .error half ∧
      half.sameValue half = true := by
  intro quote backslash half
  have hquote : ({} : Limits).evaluate "'" = .error quote := by decide +kernel
  have hbackslash : ({} : Limits).evaluate "\\" = .error backslash := by decide +kernel
  have hhalf {text : String} {first : Binary64}
      (hlength : text.length ≤ ({} : Limits).maxExpressionLength.toNat)
      (hlexemes : lexemes text = .ok [⟨.number first, 0⟩, ⟨.number (.ofDecimal 5 1), 2⟩]) :
      ({} : Limits).evaluate text = .error half := by
    refine evaluate_of_ofLexemes_error hlength hlexemes ?_
    rw [Prospect.ofLexemes_eq_error_iff (List.cons_ne_nil _ _)]
    rfl
  have hone : lexemes "1 .5" = .ok [⟨.number (.ofDecimal 1 0), 0⟩,
      ⟨.number (.ofDecimal 5 1), 2⟩] := by decide +kernel
  have hseven : lexemes "7 0.50" = .ok [⟨.number (.ofDecimal 7 0), 0⟩,
      ⟨.number (.ofDecimal 5 1), 2⟩] := by decide +kernel
  have hone := hhalf (by decide) hone
  have hseven := hhalf (by decide) hseven
  refine ⟨⟨hquote, hbackslash, fun hmessage => ?_⟩, hone, hseven,
    (message_eq_iff {} hone hseven).1.mp rfl⟩
  have heq := message_eq_iff {} hquote hbackslash
  exact absurd (heq.2.mp (heq.1.mp hmessage)) (by decide)

end Limits

end Reckoner
