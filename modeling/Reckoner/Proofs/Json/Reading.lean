import Reckoner.Json.Reader

/-!
The grammar of values, and that the reader, which keeps open lists and tables on a stack, reads what
the grammar says.
-/
namespace Reckoner.Json

/-- The value of a token that is one by itself. -/
def Token.scalar? (decode : List StringUnit → Option String) : Token → Option Document
  | .null => some .null
  | .bool value => some (.bool value)
  | .number numeral => some numeral.document
  | .text units => (decode units).map .text
  | _ => none

theorem Token.scalar?_eq_text_iff {decode : List StringUnit → Option String} {token : Token}
    {text : String} : token.scalar? decode = some (.text text) ↔
      ∃ units, token = .text units ∧ decode units = some text := by
  cases token with
  | number numeral =>
    simp only [Token.scalar?, Numeral.document]
    split <;> simp
  | _ => simp [Token.scalar?]

/-- One step of the reader: the stack and the phase after the next token, or the next two, and what
is left of the input. -/
def step? (decode : List StringUnit → Option String) (stack : List Frame) (phase : Phase)
    (input : List (Option Char)) : Option (List Frame × Phase × List (Option Char)) :=
  (nextToken? input).bind fun (token, rest) =>
    match phase, token, stack with
    | .value, .openList, stack =>
      match nextToken? rest with
      | some (.closeList, rest) => some (stack, .after (.list []), rest)
      | _ => some (.list [] :: stack, .value, rest)
    | .value, .openTable, stack =>
      match nextToken? rest with
      | some (.closeTable, rest) => some (stack, .after (.table []), rest)
      | _ => some (stack, .key [], rest)
    | .value, token, stack => (token.scalar? decode).map fun value => (stack, .after value, rest)
    | .key entries, .text units, stack =>
      match decode units, nextToken? rest with
      | some key, some (.colon, rest) => some (.table entries key :: stack, .value, rest)
      | _, _ => none
    | .after value, .comma, .list items :: stack =>
      some (.list (value :: items) :: stack, .value, rest)
    | .after value, .closeList, .list items :: stack =>
      some (stack, .after (.list (value :: items).reverse), rest)
    | .after value, .comma, .table entries key :: stack =>
      some (stack, .key ((key, value) :: entries), rest)
    | .after value, .closeTable, .table entries key :: stack =>
      some (stack, .after (.table ((key, value) :: entries).reverse), rest)
    | _, _, _ => none

section

variable {decode : List StringUnit → Option String} {stack stack' : List Frame}
  {phase phase' : Phase} {input rest : List (Option Char)} {value : Document}

theorem readFrom_done : readFrom decode [] (.after value) input = some (value, input) := by
  rw [readFrom]

/-- Unless the outermost value is complete, reading goes on with one step. -/
theorem readFrom_eq_bind_step? (hopen : ∀ value, phase = .after value → stack ≠ []) :
    readFrom decode stack phase input = (step? decode stack phase input).bind
      fun (stack, phase, rest) => readFrom decode stack phase rest := by
  fun_cases readFrom decode stack phase input
  case case1 value => exact absurd rfl (hopen value rfl)
  case case18 token rest hnext _ hnull hbool hnumber htext hlist htable hkey _ hlistComma hlistClose
      htableComma htableClose =>
    have hnone : step? decode stack phase input = none := by
      rw [step?, hnext, Option.bind_some]
      dsimp only
      split
      · exact (hlist hnext rfl rfl HEq.rfl).elim
      · exact (htable hnext rfl rfl HEq.rfl).elim
      · cases token with
        | null => exact (hnull hnext rfl rfl HEq.rfl).elim
        | bool value => exact (hbool value hnext rfl rfl HEq.rfl).elim
        | number numeral => exact (hnumber numeral hnext rfl rfl HEq.rfl).elim
        | text units => exact (htext units hnext rfl rfl HEq.rfl).elim
        | _ => rfl
      · exact (hkey _ _ hnext rfl rfl HEq.rfl).elim
      · exact (hlistComma _ _ _ hnext rfl rfl rfl HEq.rfl).elim
      · exact (hlistClose _ _ _ hnext rfl rfl rfl HEq.rfl).elim
      · exact (htableComma _ _ _ _ hnext rfl rfl rfl HEq.rfl).elim
      · exact (htableClose _ _ _ _ hnext rfl rfl rfl HEq.rfl).elim
      · rfl
    rw [hnone, Option.bind_none]
  all_goals simp [step?, Token.scalar?, *]

theorem readFrom_of_step? (h : step? decode stack phase input = some (stack', phase', rest))
    (hopen : ∀ value, phase = .after value → stack ≠ []) :
    readFrom decode stack phase input = readFrom decode stack' phase' rest := by
  rw [readFrom_eq_bind_step? hopen, h]
  rfl

end

/-! What each step does. -/

section

variable {decode : List StringUnit → Option String} {stack : List Frame}
  {input middle rest : List (Option Char)} {value : Document} {items : List Document}
  {entries : List (String × Document)} {key : String}

theorem step?_scalar {token : Token} (hnext : nextToken? input = some (token, rest))
    (hvalue : token.scalar? decode = some value) :
    step? decode stack .value input = some (stack, .after value, rest) := by
  rw [step?, hnext, Option.bind_some]
  cases token <;> first
    | cases hvalue
      rfl
    | cases hvalue
    | simp [hvalue]

theorem step?_emptyList (hopen : nextToken? input = some (.openList, middle))
    (hclose : nextToken? middle = some (.closeList, rest)) :
    step? decode stack .value input = some (stack, .after (.list []), rest) := by
  simp [step?, hopen, hclose]

theorem step?_openList (hopen : nextToken? input = some (.openList, middle))
    (hother : ∀ rest, nextToken? middle ≠ some (.closeList, rest)) :
    step? decode stack .value input = some (.list [] :: stack, .value, middle) := by
  rw [step?, hopen, Option.bind_some]
  dsimp only
  split
  · exact absurd ‹_› (hother _)
  · rfl

theorem step?_emptyTable (hopen : nextToken? input = some (.openTable, middle))
    (hclose : nextToken? middle = some (.closeTable, rest)) :
    step? decode stack .value input = some (stack, .after (.table []), rest) := by
  simp [step?, hopen, hclose]

theorem step?_openTable (hopen : nextToken? input = some (.openTable, middle))
    (hother : ∀ rest, nextToken? middle ≠ some (.closeTable, rest)) :
    step? decode stack .value input = some (stack, .key [], middle) := by
  rw [step?, hopen, Option.bind_some]
  dsimp only
  split
  · exact absurd ‹_› (hother _)
  · rfl

theorem step?_key {units : List StringUnit} (hkey : nextToken? input = some (.text units, middle))
    (hname : decode units = some key) (hcolon : nextToken? middle = some (.colon, rest)) :
    step? decode stack (.key entries) input = some (.table entries key :: stack, .value, rest) := by
  simp [step?, hkey, hname, hcolon]

theorem step?_nextItem (hcomma : nextToken? input = some (.comma, rest)) :
    step? decode (.list items :: stack) (.after value) input =
      some (.list (value :: items) :: stack, .value, rest) := by
  simp [step?, hcomma]

theorem step?_closeList (hclose : nextToken? input = some (.closeList, rest)) :
    step? decode (.list items :: stack) (.after value) input =
      some (stack, .after (.list (items.reverse ++ [value])), rest) := by
  simp [step?, hclose]

theorem step?_nextEntry (hcomma : nextToken? input = some (.comma, rest)) :
    step? decode (.table entries key :: stack) (.after value) input =
      some (stack, .key ((key, value) :: entries), rest) := by
  simp [step?, hcomma]

theorem step?_closeTable (hclose : nextToken? input = some (.closeTable, rest)) :
    step? decode (.table entries key :: stack) (.after value) input =
      some (stack, .after (.table (entries.reverse ++ [(key, value)])), rest) := by
  simp [step?, hclose]

end

/-- What stands in a text: a value, or what follows the opening of a list or table that is not
empty, up to its closing. -/
inductive Part where
  | value (value : Document)
  | items (items : List Document)
  | entries (entries : List (String × Document))

/-- The grammar: the input begins with the part, behind which the rest follows. -/
inductive Reads (decode : List StringUnit → Option String) :
    List (Option Char) → Part → List (Option Char) → Prop
  | scalar {input rest token value} (hnext : nextToken? input = some (token, rest))
    (hvalue : token.scalar? decode = some value) : Reads decode input (.value value) rest
  | emptyList {input middle rest} (hopen : nextToken? input = some (.openList, middle))
    (hclose : nextToken? middle = some (.closeList, rest)) :
    Reads decode input (.value (.list [])) rest
  | list {input middle rest items} (hopen : nextToken? input = some (.openList, middle))
    (hitems : Reads decode middle (.items items) rest) :
    Reads decode input (.value (.list items)) rest
  | emptyTable {input middle rest} (hopen : nextToken? input = some (.openTable, middle))
    (hclose : nextToken? middle = some (.closeTable, rest)) :
    Reads decode input (.value (.table [])) rest
  | table {input middle rest entries} (hopen : nextToken? input = some (.openTable, middle))
    (hentries : Reads decode middle (.entries entries) rest) :
    Reads decode input (.value (.table entries)) rest
  | lastItem {input middle rest value} (hvalue : Reads decode input (.value value) middle)
    (hclose : nextToken? middle = some (.closeList, rest)) :
    Reads decode input (.items [value]) rest
  | item {input middle after rest value items}
    (hvalue : Reads decode input (.value value) middle)
    (hcomma : nextToken? middle = some (.comma, after))
    (hitems : Reads decode after (.items items) rest) :
    Reads decode input (.items (value :: items)) rest
  | lastEntry {input afterKey start middle rest units key value}
    (hkey : nextToken? input = some (.text units, afterKey)) (hname : decode units = some key)
    (hcolon : nextToken? afterKey = some (.colon, start))
    (hvalue : Reads decode start (.value value) middle)
    (hclose : nextToken? middle = some (.closeTable, rest)) :
    Reads decode input (.entries [(key, value)]) rest
  | entry {input afterKey start middle after rest units key value entries}
    (hkey : nextToken? input = some (.text units, afterKey)) (hname : decode units = some key)
    (hcolon : nextToken? afterKey = some (.colon, start))
    (hvalue : Reads decode start (.value value) middle)
    (hcomma : nextToken? middle = some (.comma, after))
    (hentries : Reads decode after (.entries entries) rest) :
    Reads decode input (.entries ((key, value) :: entries)) rest

section

variable {decode decode' : List StringUnit → Option String} {stack : List Frame}
  {input rest : List (Option Char)} {value : Document} {part : Part}

/-- The reader gets from the front of the part to the rest, whatever is open around it. -/
def Part.Passes (decode : List StringUnit → Option String) (input rest : List (Option Char)) :
    Part → Prop
  | .value v => ∀ stack,
    readFrom decode stack .value input = readFrom decode stack (.after v) rest
  | .items vs => ∀ stack before, readFrom decode (.list before :: stack) .value input =
    readFrom decode stack (.after (.list (before.reverse ++ vs))) rest
  | .entries es => ∀ stack before, readFrom decode stack (.key before) input =
    readFrom decode stack (.after (.table (before.reverse ++ es))) rest

/-- Neither a list nor a table that is not empty begins with its closing. -/
theorem Reads.token_ne (h : Reads decode input part rest) :
    (∀ middle, nextToken? input ≠ some (.closeList, middle)) ∧
      ∀ middle, nextToken? input ≠ some (.closeTable, middle) := by
  induction h with
  | scalar hnext hvalue =>
    rw [hnext]
    constructor
    · rintro middle hclose
      cases hclose
      cases hvalue
    · rintro middle hclose
      cases hclose
      cases hvalue
  | emptyList hopen | list hopen | emptyTable hopen | table hopen =>
    rw [hopen]
    exact ⟨nofun, nofun⟩
  | lastEntry hkey | entry hkey =>
    rw [hkey]
    exact ⟨nofun, nofun⟩
  | lastItem _ _ ih => exact ih
  | item _ _ _ ih => exact ih

/-- The reader reads what the grammar says. -/
theorem Reads.passes (h : Reads decode input part rest) : part.Passes decode input rest := by
  induction h with
  | scalar hnext hvalue => exact fun _ => readFrom_of_step? (step?_scalar hnext hvalue) nofun
  | emptyList hopen hclose => exact fun _ => readFrom_of_step? (step?_emptyList hopen hclose) nofun
  | list hopen hitems ih =>
    intro stack
    rw [readFrom_of_step? (step?_openList hopen hitems.token_ne.1) nofun, ih]
    rfl
  | emptyTable hopen hclose =>
    exact fun _ => readFrom_of_step? (step?_emptyTable hopen hclose) nofun
  | table hopen hentries ih =>
    intro stack
    rw [readFrom_of_step? (step?_openTable hopen hentries.token_ne.2) nofun, ih]
    rfl
  | lastItem hvalue hclose ih =>
    intro stack before
    rw [ih, readFrom_of_step? (step?_closeList hclose) (by simp)]
  | item hvalue hcomma hitems ih ihs =>
    intro stack before
    rw [ih, readFrom_of_step? (step?_nextItem hcomma) (by simp), ihs, List.reverse_cons,
      List.append_assoc, List.singleton_append]
  | lastEntry hkey hname hcolon hvalue hclose ih =>
    intro stack before
    rw [readFrom_of_step? (step?_key hkey hname hcolon) nofun, ih,
      readFrom_of_step? (step?_closeTable hclose) (by simp)]
  | entry hkey hname hcolon hvalue hcomma hentries ih ihs =>
    intro stack before
    rw [readFrom_of_step? (step?_key hkey hname hcolon) nofun, ih,
      readFrom_of_step? (step?_nextEntry hcomma) (by simp), ihs, List.reverse_cons,
      List.append_assoc, List.singleton_append]

/-! What the reader got through follows the grammar. -/

theorem Reads.length_lt (h : Reads decode input part rest) : rest.length < input.length := by
  induction h <;> grind [→ length_nextToken?_lt]

theorem exists_step_of_readFrom {phase : Phase} {result : Document × List (Option Char)}
    (h : readFrom decode stack phase input = some result)
    (hopen : ∀ value, phase = .after value → stack ≠ []) :
    ∃ stack' phase' middle, step? decode stack phase input = some (stack', phase', middle) ∧
      readFrom decode stack' phase' middle = some result := by
  rw [readFrom_eq_bind_step? hopen] at h
  obtain ⟨⟨stack', phase', middle⟩, hstep, hread⟩ := Option.bind_eq_some_iff.mp h
  exact ⟨stack', phase', middle, hstep, hread⟩

theorem step?_value_cases {stack' : List Frame} {phase' : Phase}
    (h : step? decode stack .value input = some (stack', phase', rest)) :
    (∃ value, Reads decode input (.value value) rest ∧ stack' = stack ∧ phase' = .after value) ∨
    (nextToken? input = some (.openList, rest) ∧ stack' = .list [] :: stack ∧ phase' = .value) ∨
    (nextToken? input = some (.openTable, rest) ∧ stack' = stack ∧ phase' = .key []) := by
  unfold step? at h
  obtain ⟨⟨token, middle⟩, hnext, h⟩ := Option.bind_eq_some_iff.mp h
  have hscalar : ∀ value, token.scalar? decode = some value →
      Reads decode input (.value value) middle := fun value hvalue => .scalar hnext hvalue
  cases token with
  | openList =>
    dsimp only at h
    split at h
    · rename_i hclose
      cases h
      exact .inl ⟨_, .emptyList hnext hclose, rfl, rfl⟩
    · cases h
      exact .inr (.inl ⟨hnext, rfl, rfl⟩)
  | openTable =>
    dsimp only at h
    split at h
    · rename_i hclose
      cases h
      exact .inl ⟨_, .emptyTable hnext hclose, rfl, rfl⟩
    · cases h
      exact .inr (.inr ⟨hnext, rfl, rfl⟩)
  | _ =>
    obtain ⟨value, hvalue, h⟩ := Option.map_eq_some_iff.mp h
    cases h
    exact .inl ⟨value, hscalar value hvalue, rfl, rfl⟩

theorem step?_key_cases {stack' : List Frame} {phase' : Phase}
    {entries : List (String × Document)}
    (h : step? decode stack (.key entries) input = some (stack', phase', rest)) :
    ∃ units key middle, nextToken? input = some (.text units, middle) ∧ decode units = some key ∧
      nextToken? middle = some (.colon, rest) ∧ stack' = .table entries key :: stack ∧
      phase' = .value := by
  unfold step? at h
  obtain ⟨⟨token, middle⟩, hnext, h⟩ := Option.bind_eq_some_iff.mp h
  cases token with
  | text units =>
    dsimp only at h
    split at h
    · rename_i key rest hname hcolon
      cases h
      exact ⟨units, key, middle, hnext, hname, hcolon, rfl, rfl⟩
    · cases h
  | _ => cases h

theorem step?_list_cases {stack' : List Frame} {phase' : Phase} {items : List Document}
    (h : step? decode (.list items :: stack) (.after value) input = some (stack', phase', rest)) :
    (nextToken? input = some (.comma, rest) ∧ stack' = .list (value :: items) :: stack ∧
      phase' = .value) ∨
    (nextToken? input = some (.closeList, rest) ∧ stack' = stack ∧
      phase' = .after (.list (items.reverse ++ [value]))) := by
  unfold step? at h
  obtain ⟨⟨token, middle⟩, hnext, h⟩ := Option.bind_eq_some_iff.mp h
  cases token with
  | comma =>
    cases h
    exact .inl ⟨hnext, rfl, rfl⟩
  | closeList =>
    cases h
    exact .inr ⟨hnext, rfl, by rw [List.reverse_cons]⟩
  | _ => cases h

theorem step?_table_cases {stack' : List Frame} {phase' : Phase} {key : String}
    {entries : List (String × Document)}
    (h : step? decode (.table entries key :: stack) (.after value) input =
      some (stack', phase', rest)) :
    (nextToken? input = some (.comma, rest) ∧ stack' = stack ∧
      phase' = .key ((key, value) :: entries)) ∨
    (nextToken? input = some (.closeTable, rest) ∧ stack' = stack ∧
      phase' = .after (.table (entries.reverse ++ [(key, value)]))) := by
  unfold step? at h
  obtain ⟨⟨token, middle⟩, hnext, h⟩ := Option.bind_eq_some_iff.mp h
  cases token with
  | comma =>
    cases h
    exact .inl ⟨hnext, rfl, rfl⟩
  | closeTable =>
    cases h
    exact .inr ⟨hnext, rfl, by rw [List.reverse_cons]⟩
  | _ => cases h

/-- What the reader has to find in the input in order to get to its result. -/
structure Found (decode : List StringUnit → Option String) (result : Document × List (Option Char))
    (input : List (Option Char)) : Prop where
  value : ∀ stack, readFrom decode stack .value input = some result →
    ∃ value rest, Reads decode input (.value value) rest ∧
      readFrom decode stack (.after value) rest = some result
  items : ∀ stack before, readFrom decode (.list before :: stack) .value input = some result →
    ∃ items rest, Reads decode input (.items items) rest ∧
      readFrom decode stack (.after (.list (before.reverse ++ items))) rest = some result
  entries : ∀ stack before, readFrom decode stack (.key before) input = some result →
    ∃ entries rest, Reads decode input (.entries entries) rest ∧
      readFrom decode stack (.after (.table (before.reverse ++ entries))) rest = some result

theorem found (decode : List StringUnit → Option String) (result : Document × List (Option Char))
    (input : List (Option Char)) : Found decode result input := by
  induction hlength : input.length using Nat.strongRecOn generalizing input with
  | ind n ih =>
  have hless : ∀ rest : List (Option Char), rest.length < input.length →
      Found decode result rest := fun rest hlt => ih rest.length (hlength ▸ hlt) rest rfl
  have hvalue : ∀ stack, readFrom decode stack .value input = some result →
      ∃ value rest, Reads decode input (.value value) rest ∧
        readFrom decode stack (.after value) rest = some result := by
    intro stack hread
    obtain ⟨_, _, middle, hstep, hread⟩ := exists_step_of_readFrom hread nofun
    rcases step?_value_cases hstep with ⟨value, hreads, rfl, rfl⟩ | ⟨hopen, rfl, rfl⟩ |
      ⟨hopen, rfl, rfl⟩
    · exact ⟨value, middle, hreads, hread⟩
    · obtain ⟨items, rest, hitems, hread⟩ :=
        (hless middle (length_nextToken?_lt hopen)).items _ [] hread
      exact ⟨.list items, rest, .list hopen hitems, hread⟩
    · obtain ⟨entries, rest, hentries, hread⟩ :=
        (hless middle (length_nextToken?_lt hopen)).entries _ [] hread
      exact ⟨.table entries, rest, .table hopen hentries, hread⟩
  refine ⟨hvalue, ?_, ?_⟩
  · intro stack before hread
    obtain ⟨value, rest, hreads, hread⟩ := hvalue _ hread
    obtain ⟨_, _, middle, hstep, hread⟩ := exists_step_of_readFrom hread (by simp)
    rcases step?_list_cases hstep with ⟨hcomma, rfl, rfl⟩ | ⟨hclose, rfl, rfl⟩
    · have hmiddle := Nat.lt_trans (length_nextToken?_lt hcomma) hreads.length_lt
      obtain ⟨items, rest, hitems, hread⟩ := (hless middle hmiddle).items _ _ hread
      rw [List.reverse_cons, List.append_assoc, List.singleton_append] at hread
      exact ⟨value :: items, rest, .item hreads hcomma hitems, hread⟩
    · exact ⟨[value], middle, .lastItem hreads hclose, hread⟩
  · intro stack before hread
    obtain ⟨_, _, start, hstep, hread⟩ := exists_step_of_readFrom hread nofun
    obtain ⟨units, key, afterKey, hkey, hname, hcolon, rfl, rfl⟩ := step?_key_cases hstep
    have hstart := Nat.lt_trans (length_nextToken?_lt hcolon) (length_nextToken?_lt hkey)
    obtain ⟨value, rest, hreads, hread⟩ := (hless start hstart).value _ hread
    obtain ⟨_, _, middle, hstep, hread⟩ := exists_step_of_readFrom hread (by simp)
    rcases step?_table_cases hstep with ⟨hcomma, rfl, rfl⟩ | ⟨hclose, rfl, rfl⟩
    · have hmiddle := Nat.lt_trans (length_nextToken?_lt hcomma)
        (Nat.lt_trans hreads.length_lt hstart)
      obtain ⟨entries, rest, hentries, hread⟩ := (hless middle hmiddle).entries _ _ hread
      rw [List.reverse_cons, List.append_assoc, List.singleton_append] at hread
      exact ⟨(key, value) :: entries, rest, .entry hkey hname hcolon hreads hcomma hentries, hread⟩
    · exact ⟨[(key, value)], middle, .lastEntry hkey hname hcolon hreads hclose, hread⟩

/-- The reader finds the value that the grammar says, and fails if there is none. -/
theorem readFrom_eq_some_iff :
    readFrom decode [] .value input = some (value, rest) ↔
      Reads decode input (.value value) rest := by
  constructor
  · intro hread
    obtain ⟨_, _, hreads, hdone⟩ := (found decode (value, rest) input).value [] hread
    rw [readFrom_done] at hdone
    cases hdone
    exact hreads
  · intro hreads
    rw [hreads.passes, readFrom_done]

theorem Reads.unique {value' : Document} {rest' : List (Option Char)}
    (h : Reads decode input (.value value) rest) (h' : Reads decode input (.value value') rest') :
    value = value' ∧ rest = rest' := by
  have hread := readFrom_eq_some_iff.mpr h
  rw [readFrom_eq_some_iff.mpr h'] at hread
  cases hread
  exact ⟨rfl, rfl⟩

/-- The input begins with a part of this kind, up to the rest. -/
def Part.HasForm (decode : List StringUnit → Option String) (input rest : List (Option Char)) :
    Part → Prop
  | .value _ => ∃ value, Reads decode input (.value value) rest
  | .items _ => ∃ items, Reads decode input (.items items) rest
  | .entries _ => ∃ entries, Reads decode input (.entries entries) rest

/-- A part ends in the same place for any decoder that knows at least the same strings. -/
theorem Reads.hasForm (hdecode : ∀ units, (decode units).isSome → (decode' units).isSome)
    (h : Reads decode input part rest) : part.HasForm decode' input rest := by
  have hname : ∀ {units key}, decode units = some key → ∃ key', decode' units = some key' :=
    fun hkey => Option.isSome_iff_exists.mp (hdecode _ (by simp [hkey]))
  induction h with
  | @scalar input rest token value hnext hvalue =>
    cases token with
    | text units =>
      obtain ⟨text, htext, -⟩ := Option.map_eq_some_iff.mp hvalue
      obtain ⟨text', htext'⟩ := hname htext
      exact ⟨.text text', .scalar hnext (by simp [Token.scalar?, htext'])⟩
    | null | bool | number => exact ⟨value, .scalar hnext hvalue⟩
    | _ => cases hvalue
  | emptyList hopen hclose => exact ⟨_, .emptyList hopen hclose⟩
  | list hopen _ ih =>
    obtain ⟨items, hitems⟩ := ih
    exact ⟨_, .list hopen hitems⟩
  | emptyTable hopen hclose => exact ⟨_, .emptyTable hopen hclose⟩
  | table hopen _ ih =>
    obtain ⟨entries, hentries⟩ := ih
    exact ⟨_, .table hopen hentries⟩
  | lastItem _ hclose ih =>
    obtain ⟨value, hvalue⟩ := ih
    exact ⟨_, .lastItem hvalue hclose⟩
  | item _ hcomma _ ih ihs =>
    obtain ⟨value, hvalue⟩ := ih
    obtain ⟨items, hitems⟩ := ihs
    exact ⟨_, .item hvalue hcomma hitems⟩
  | lastEntry hkey hdecoded hcolon _ hclose ih =>
    obtain ⟨key, hkey'⟩ := hname hdecoded
    obtain ⟨value, hvalue⟩ := ih
    exact ⟨_, .lastEntry hkey hkey' hcolon hvalue hclose⟩
  | entry hkey hdecoded hcolon _ hcomma _ ih ihs =>
    obtain ⟨key, hkey'⟩ := hname hdecoded
    obtain ⟨value, hvalue⟩ := ih
    obtain ⟨entries, hentries⟩ := ihs
    exact ⟨_, .entry hkey hkey' hcolon hvalue hcomma hentries⟩

end

end Reckoner.Json
