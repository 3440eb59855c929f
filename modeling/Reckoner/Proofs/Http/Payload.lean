import Reckoner.Http.Payload
import Reckoner.Proofs.Json.Reading
import Reckoner.Proofs.Outcome

/-!
What is read from the body of an evaluation request, in terms of the document that the body is.
-/
namespace Reckoner.Http

open Json

/-- What entries give for the expression: the empty one if none is named so, and nothing if several
are or if its value is no string. -/
def expressionIn? (entries : List (String × Document)) : Option String :=
  match entries.filter (·.1 == "expression") with
  | [] => some ""
  | [(_, .text expression)] => some expression
  | _ => none

/-- The expression that a document asks for, by its name in a table or by its place in a list. -/
def expressionOf? : Document → Option String
  | .table entries => expressionIn? entries
  | .list [] => some ""
  | .list [.text expression] => some expression
  | _ => none

/-- An expression that was found before, as an entry. -/
def foundEntries (found : Option String) : List (String × Document) :=
  found.toList.map fun text => ("expression", .text text)

/-- What has been found after an entry of this name, unless the entry is at fault. -/
def foundAfter? (found : Option String) (key : String) (value : Document) :
    Option (Option String) :=
  if key = "expression" then
    match found, value with
    | none, .text text => some (some text)
    | _, _ => none
  else some found

theorem foundAfter?_wrongKind {value : Document} (h : ∀ text, value ≠ .text text) :
    foundAfter? none "expression" value = none := by
  cases value with
  | text text => exact absurd rfl (h text)
  | _ => rfl

section

variable {entries : List (String × Document)} {found : Option String} {key text : String}
  {value : Document}

theorem expressionIn?_found : expressionIn? (foundEntries found) = some (found.getD "") := by
  cases found <;> simp [expressionIn?, foundEntries]

theorem expressionIn?_cons :
    expressionIn? (foundEntries found ++ (key, value) :: entries) =
      (foundAfter? found key value).bind fun found =>
        expressionIn? (foundEntries found ++ entries) := by
  unfold foundAfter?
  by_cases hkey : key = "expression"
  · rw [if_pos hkey, hkey]
    split
    · rfl
    · rename_i hother
      unfold expressionIn?
      cases found with
      | none =>
        simp only [foundEntries, Option.toList_none, List.map_nil, List.nil_append,
          List.filter_cons_of_pos, beq_self_eq_true]
        split <;> simp_all
      | some text => simp [foundEntries]
  · rw [if_neg hkey, Option.bind_some]
    simp [expressionIn?, hkey]

end

variable {input rest rest' afterKey start middle : List (Option Char)} {units : List StringUnit}
  {found : Option String} {key text x : String} {value document : Document} {part : Part}

/-! The readers of single values. -/

theorem readString_eq_ok_iff :
    readString input = .ok (x, rest) ↔ Reads decodeString? input (.value (.text x)) rest := by
  constructor
  · intro h
    unfold readString at h
    split at h
    · rename_i units after hnext
      split at h
      · rename_i text hdecoded
        cases h
        exact .scalar hnext (Token.scalar?_eq_text_iff.mpr ⟨units, rfl, hdecoded⟩)
      · cases h
    · cases h
  · intro h
    cases h with
    | scalar hnext hvalue =>
      obtain ⟨units, rfl, hdecoded⟩ := Token.scalar?_eq_text_iff.mp hvalue
      simp [readString, hnext, hdecoded]

theorem readString_of_reads (h : Reads decodeString? input (.value value) rest) :
    (∃ text, value = .text text ∧ readString input = .ok (text, rest)) ∨
      ((∀ text, value ≠ .text text) ∧ ∃ error, readString input = .error error) := by
  cases hread : readString input with
  | ok result =>
    obtain ⟨text, after⟩ := result
    obtain ⟨rfl, rfl⟩ := h.unique (readString_eq_ok_iff.mp hread)
    exact .inl ⟨text, rfl, rfl⟩
  | error error =>
    refine .inr ⟨?_, error, rfl⟩
    rintro text rfl
    rw [readString_eq_ok_iff.mpr h] at hread
    cases hread

theorem skipValue?_eq_some_iff : skipValue? input = some rest ↔
    ∃ value, Reads (fun _ => some "") input (.value value) rest := by
  simp [skipValue?, readFrom_eq_some_iff]

theorem skipValue?_of_reads (h : Reads decodeString? input (.value value) rest) :
    skipValue? input = some rest := by
  have hform : (Part.value value).HasForm (fun _ => some "") input rest := h.hasForm (by simp)
  exact skipValue?_eq_some_iff.mpr hform

/-! Entries. -/

theorem readEntries_expression (hkey : nextToken? input = some (.text units, afterKey))
    (hname : decodeString? units = some "expression")
    (hcolon : nextToken? afterKey = some (.colon, start)) :
    readEntries none input =
      match readString start with
      | .error error => .error error
      | .ok (text, rest) =>
        match nextToken? rest with
        | some (.comma, rest) => readEntries (some text) rest
        | some (.closeTable, rest) => .ok (text, rest)
        | _ => .error .malformed := by
  fun_cases readEntries none input <;> simp_all

theorem readEntries_repeated (hkey : nextToken? input = some (.text units, afterKey))
    (hname : decodeString? units = some "expression") :
    readEntries (some text) input = .error .wrongKind := by
  fun_cases readEntries (some text) input <;> simp_all

theorem readEntries_other (hkey : nextToken? input = some (.text units, afterKey))
    (hname : decodeString? units = some key)
    (hcolon : nextToken? afterKey = some (.colon, start)) (hne : key ≠ "expression") :
    readEntries found input =
      match skipValue? start with
      | none => .error .malformed
      | some rest =>
        match nextToken? rest with
        | some (.comma, rest) => readEntries found rest
        | some (.closeTable, rest) => .ok (found.getD "", rest)
        | _ => .error .malformed := by
  fun_cases readEntries found input <;> simp_all

/-- What becomes of an entry, whatever follows it. -/
theorem readEntries_entry (found : Option String)
    (hkey : nextToken? input = some (.text units, afterKey))
    (hname : decodeString? units = some key) (hcolon : nextToken? afterKey = some (.colon, start))
    (hvalue : Reads decodeString? start (.value value) middle) :
    match foundAfter? found key value with
    | none => ∃ error, readEntries found input = .error error
    | some found' => readEntries found input =
      match nextToken? middle with
      | some (.comma, rest) => readEntries found' rest
      | some (.closeTable, rest) => .ok (found'.getD "", rest)
      | _ => .error .malformed := by
  by_cases hexpression : key = "expression"
  · subst hexpression
    cases found with
    | some text => exact ⟨_, readEntries_repeated hkey hname⟩
    | none =>
      have hread := readEntries_expression hkey hname hcolon
      rcases readString_of_reads hvalue with ⟨text, rfl, hstring⟩ | ⟨hother, error, hstring⟩
      · rw [hstring] at hread
        exact hread
      · rw [foundAfter?_wrongKind hother]
        rw [hstring] at hread
        exact ⟨error, hread⟩
  · have hread : readEntries found input = _ := readEntries_other hkey hname hcolon hexpression
    rw [skipValue?_of_reads hvalue] at hread
    unfold foundAfter?
    rw [if_neg hexpression]
    exact hread

theorem readEntries_eq_ok_iff {entries : List (String × Document)}
    (h : Reads decodeString? input (.entries entries) rest) :
    readEntries found input = .ok (x, rest') ↔
      expressionIn? (foundEntries found ++ entries) = some x ∧ rest = rest' := by
  generalize hpart : Part.entries entries = part at h
  induction h generalizing entries found with
  | lastEntry hkey hname hcolon hvalue hclose =>
    cases hpart
    have hentry := readEntries_entry found hkey hname hcolon hvalue
    rw [expressionIn?_cons]
    split at hentry
    · rename_i hfound
      obtain ⟨error, herror⟩ := hentry
      simp [herror, hfound]
    · rename_i found' hfound
      rw [hentry, hfound, hclose]
      simp [expressionIn?_found]
  | entry hkey hname hcolon hvalue hcomma hentries _ ih =>
    cases hpart
    have hentry := readEntries_entry found hkey hname hcolon hvalue
    rw [expressionIn?_cons]
    split at hentry
    · rename_i hfound
      obtain ⟨error, herror⟩ := hentry
      simp [herror, hfound]
    · rename_i found' hfound
      rw [hentry, hfound, hcomma]
      exact ih rfl
  | _ => cases hpart

/-- Entries that were read are entries by their form. -/
theorem exists_reads_of_readEntries (h : readEntries found input = .ok (x, rest)) :
    ∃ entries, Reads (fun _ => some "") input (.entries entries) rest := by
  fun_induction readEntries found input
  case case4 hkey _ hcolon text _ hvalue _ hcomma _ _ ih =>
    obtain ⟨entries, hentries⟩ := ih h
    obtain ⟨value, hform⟩ := skipValue?_eq_some_iff.mp
      (skipValue?_of_reads (readString_eq_ok_iff.mp hvalue))
    exact ⟨_, .entry hkey rfl hcolon hform hcomma hentries⟩
  case case5 hkey _ hcolon text _ hvalue _ hclose _ _ =>
    cases h
    obtain ⟨value, hform⟩ := skipValue?_eq_some_iff.mp
      (skipValue?_of_reads (readString_eq_ok_iff.mp hvalue))
    exact ⟨_, .lastEntry hkey rfl hcolon hform hclose⟩
  case case8 hkey _ _ _ _ hcolon _ _ hskip _ hcomma ih =>
    obtain ⟨entries, hentries⟩ := ih h
    obtain ⟨value, hform⟩ := skipValue?_eq_some_iff.mp hskip
    exact ⟨_, .entry hkey rfl hcolon hform hcomma hentries⟩
  case case9 hkey _ _ _ _ hcolon _ _ hskip _ hclose =>
    cases h
    obtain ⟨value, hform⟩ := skipValue?_eq_some_iff.mp hskip
    exact ⟨_, .lastEntry hkey rfl hcolon hform hclose⟩
  all_goals cases h

/-! Whole requests. -/

theorem readRequest_openTable (hopen : nextToken? input = some (.openTable, middle))
    (hother : ∀ rest, nextToken? middle ≠ some (.closeTable, rest)) :
    readRequest input = readEntries none middle := by
  fun_cases readRequest input <;> simp_all

theorem readRequest_openList (hopen : nextToken? input = some (.openList, middle))
    (hother : ∀ rest, nextToken? middle ≠ some (.closeList, rest)) :
    readRequest input =
      match readString middle with
      | .error error => .error error
      | .ok (text, rest) =>
        match nextToken? rest with
        | some (.closeList, rest) => .ok (text, rest)
        | _ => .error .malformed := by
  fun_cases readRequest input <;> simp_all

theorem readRequest_scalar {token : Json.Token} (hnext : nextToken? input = some (token, rest))
    (hvalue : token.scalar? decodeString? = some document) :
    readRequest input = .error (kindError input) := by
  cases token with
  | openList | openTable => cases hvalue
  | _ => simp [readRequest, hnext]

theorem expressionOf?_scalar {token : Json.Token}
    (hvalue : token.scalar? decodeString? = some document) : expressionOf? document = none := by
  cases token with
  | number numeral =>
    cases hvalue
    unfold Numeral.document
    split <;> rfl
  | text units =>
    obtain ⟨text, -, rfl⟩ := Option.map_eq_some_iff.mp hvalue
    rfl
  | null | bool =>
    cases hvalue
    rfl
  | _ => cases hvalue

theorem expressionOf?_singleton (h : ∀ text, value ≠ .text text) :
    expressionOf? (.list [value]) = none := by
  unfold expressionOf?
  split <;> simp_all

theorem readRequest_eq_ok_iff (h : Reads decodeString? input (.value document) rest) :
    readRequest input = .ok (x, rest') ↔ expressionOf? document = some x ∧ rest = rest' := by
  cases h with
  | scalar hnext hvalue => simp [readRequest_scalar hnext hvalue, expressionOf?_scalar hvalue]
  | emptyList hopen hclose => simp [readRequest, hopen, hclose, expressionOf?]
  | list hopen hitems =>
    rw [readRequest_openList hopen hitems.token_ne.1]
    cases hitems with
    | lastItem hvalue hclose =>
      rcases readString_of_reads hvalue with ⟨text, rfl, hread⟩ | ⟨hother, error, hread⟩
      · simp [hread, hclose, expressionOf?]
      · have hnone := expressionOf?_singleton hother
        simp [hread, hnone]
    | @item _ _ after _ value items hvalue hcomma hitems =>
      have hnone : expressionOf? (.list (value :: items)) = none := by
        cases hitems <;> simp [expressionOf?]
      rcases readString_of_reads hvalue with ⟨text, rfl, hread⟩ | ⟨hother, error, hread⟩
      · simp [hread, hcomma, hnone]
      · simp [hread, hnone]
  | emptyTable hopen hclose => simp [readRequest, hopen, hclose, expressionOf?, expressionIn?]
  | table hopen hentries =>
    rw [readRequest_openTable hopen hentries.token_ne.2]
    exact readEntries_eq_ok_iff hentries

theorem exists_reads_of_readRequest (h : readRequest input = .ok (x, rest)) :
    ∃ document, Reads (fun _ => some "") input (.value document) rest := by
  revert h
  fun_cases readRequest input <;> intro h
  case case1 hopen _ hclose =>
    cases h
    exact ⟨_, .emptyTable hopen hclose⟩
  case case2 hopen _ =>
    obtain ⟨entries, hentries⟩ := exists_reads_of_readEntries h
    exact ⟨_, .table hopen hentries⟩
  case case3 hopen _ hclose =>
    cases h
    exact ⟨_, .emptyList hopen hclose⟩
  case case5 hopen text _ hread _ hclose _ =>
    cases h
    obtain ⟨value, hform⟩ := skipValue?_eq_some_iff.mp
      (skipValue?_of_reads (readString_eq_ok_iff.mp hread))
    exact ⟨_, .list hopen (.lastItem hform hclose)⟩
  all_goals cases h

theorem readExpression_eq_ok_iff_request : readExpression input = .ok x ↔
    ∃ rest, readRequest input = .ok (x, rest) ∧ rest.all isBlank = true := by
  change (readRequest input).bind _ = _ ↔ _
  rw [bind_eq_ok_iff]
  constructor
  · rintro ⟨⟨text, rest⟩, hrequest, hanswer⟩
    dsimp only at hanswer
    split at hanswer
    · rename_i hblank
      cases hanswer
      exact ⟨rest, hrequest, hblank⟩
    · cases hanswer
  · rintro ⟨rest, hrequest, hblank⟩
    exact ⟨(x, rest), hrequest, if_pos hblank⟩

/-- Of a body that is a document, the expression is read that the document asks for. -/
theorem readExpression_eq_ok_iff (h : readValue? input = some (document, rest))
    (hblank : rest.all isBlank = true) :
    readExpression input = .ok x ↔ expressionOf? document = some x := by
  have hreads := readFrom_eq_some_iff.mp h
  rw [readExpression_eq_ok_iff_request]
  constructor
  · rintro ⟨rest', hrequest, -⟩
    exact ((readRequest_eq_ok_iff hreads).mp hrequest).1
  · intro hexpression
    exact ⟨rest, (readRequest_eq_ok_iff hreads).mpr ⟨hexpression, rfl⟩, hblank⟩

/-- An expression is only read from a body that has the form of a document. -/
theorem exists_skipValue?_of_readExpression (h : readExpression input = .ok x) :
    ∃ rest, skipValue? input = some rest ∧ rest.all isBlank = true := by
  obtain ⟨rest, hrequest, hblank⟩ := readExpression_eq_ok_iff_request.mp h
  exact ⟨rest, skipValue?_eq_some_iff.mpr (exists_reads_of_readRequest hrequest), hblank⟩

end Reckoner.Http
