import Reckoner.Proofs.Json.Writing

/-!
An indented document is read again as it was, unless one of its numbers has a sign, places or an
exponent: such a number is known by its spelling only.
-/
namespace Reckoner.Json

variable {decode : List StringUnit → Option String} {input input' rest : List (Option Char)}
  {part : Part}

/-- The parts without any numbers but whole ones that have no sign. -/
inductive Part.Plain : Part → Prop
  | null : Plain (.value .null)
  | bool (value : Bool) : Plain (.value (.bool value))
  | natural (n : Nat) : Plain (.value (.natural n))
  | text (text : String) : Plain (.value (.text text))
  | emptyList : Plain (.value (.list []))
  | list {value items} (hitems : Plain (.items (value :: items))) :
    Plain (.value (.list (value :: items)))
  | emptyTable : Plain (.value (.table []))
  | table {entry entries} (hentries : Plain (.entries (entry :: entries))) :
    Plain (.value (.table (entry :: entries)))
  | lastItem {value} (hvalue : Plain (.value value)) : Plain (.items [value])
  | item {value next items} (hvalue : Plain (.value value))
    (hitems : Plain (.items (next :: items))) : Plain (.items (value :: next :: items))
  | lastEntry {key value} (hvalue : Plain (.value value)) : Plain (.entries [(key, value)])
  | entry {key value next entries} (hvalue : Plain (.value value))
    (hentries : Plain (.entries (next :: entries))) :
    Plain (.entries ((key, value) :: next :: entries))

/-- A part as it stands in an indented text, up to the closing of its list or table. -/
def Part.indented (depth : Nat) : Part → List Char
  | .value v => Json.indented depth v
  | .items vs => indentedItems (depth + 1) vs ++ newline depth ++ [']']
  | .entries es => indentedEntries (depth + 1) es ++ newline depth ++ ['\x7d']

theorem Reads.congr_next (hnext : nextToken? input' = nextToken? input)
    (h : Reads decode input part rest) : Reads decode input' part rest := by
  induction h with
  | scalar h hvalue => exact .scalar (hnext.trans h) hvalue
  | emptyList hopen hclose => exact .emptyList (hnext.trans hopen) hclose
  | list hopen hitems => exact .list (hnext.trans hopen) hitems
  | emptyTable hopen hclose => exact .emptyTable (hnext.trans hopen) hclose
  | table hopen hentries => exact .table (hnext.trans hopen) hentries
  | lastItem _ hclose ih => exact .lastItem (ih hnext) hclose
  | item _ hcomma hitems ih => exact .item (ih hnext) hcomma hitems
  | lastEntry hkey hname hcolon hvalue hclose =>
    exact .lastEntry (hnext.trans hkey) hname hcolon hvalue hclose
  | entry hkey hname hcolon hvalue hcomma hentries =>
    exact .entry (hnext.trans hkey) hname hcolon hvalue hcomma hentries

section

variable (rest : List (Option Char))

theorem nextToken?_openList : nextToken? (some '[' :: rest) = some (.openList, rest) := rfl

theorem nextToken?_closeList : nextToken? (some ']' :: rest) = some (.closeList, rest) := rfl

theorem nextToken?_openTable : nextToken? (some '\x7b' :: rest) = some (.openTable, rest) := rfl

theorem nextToken?_closeTable : nextToken? (some '\x7d' :: rest) = some (.closeTable, rest) := rfl

theorem nextToken?_colon : nextToken? (some ':' :: rest) = some (.colon, rest) := rfl

theorem nextToken?_comma : nextToken? (some ',' :: rest) = some (.comma, rest) := rfl

theorem nextToken?_blank : nextToken? (some ' ' :: rest) = nextToken? rest := rfl

end

theorem nextToken?_newline (depth : Nat) (input : List (Option Char)) :
    nextToken? ((newline depth).map some ++ input) = nextToken? input := by
  have hblank : ∀ c ∈ (newline depth).map some, isBlank c = true := by
    intro c hc
    simp only [newline, List.map_cons, List.map_replicate, List.mem_cons, List.mem_replicate] at hc
    rcases hc with rfl | ⟨-, rfl⟩ <;> rfl
  unfold nextToken?
  rw [List.dropWhile_append_of_pos hblank]

theorem Numeral.ends_newline (depth : Nat) (rest : List (Option Char)) :
    Numeral.Ends ((newline depth).map some ++ rest) := by
  intro c hc
  cases hc
  decide

theorem Numeral.ends_comma (rest : List (Option Char)) : Numeral.Ends (some ',' :: rest) := by
  intro c hc
  cases hc
  decide

theorem reads_natural (n : Nat) (hrest : Numeral.Ends rest) :
    Reads decodeString? ((Nat.toDigits 10 n).map some ++ rest) (.value (.natural n)) rest := by
  have hproper : (⟨false, Nat.toDigits 10 n, [], none⟩ : Numeral).Proper := by
    refine ⟨Nat.toDigits_ne_nil, by simpa using isDigit_toDigits n, fun hhead => ?_, by simp⟩
    by_cases hzero : n = 0
    · subst hzero
      rfl
    · exact absurd hhead (head?_toDigits_ne hzero)
  have hreads := reads_spelled hproper hrest
  simpa [Numeral.spelled, Numeral.exponentText, Numeral.document, pointed_nil,
    digitsValue_toDigits] using hreads

/-- What an indented plain document says is read, whatever follows it. -/
theorem Part.Plain.reads (h : part.Plain) (depth : Nat) (hrest : Numeral.Ends rest) :
    Reads decodeString? ((part.indented depth).map some ++ rest) part rest := by
  -- What follows a value within a list or table is a comma or the line of the closing, neither of
  -- which goes on with a number.
  induction h generalizing depth rest with
  | null => exact .scalar (show nextToken? _ = some (.null, rest) from rfl) rfl
  | bool value => cases value with
    | true => exact .scalar (show nextToken? _ = some (.bool true, rest) from rfl) rfl
    | false => exact .scalar (show nextToken? _ = some (.bool false, rest) from rfl) rfl
  | natural n =>
    rw [Part.indented, Json.indented]
    exact reads_natural n hrest
  | text text =>
    rw [Part.indented, Json.indented]
    exact reads_writeText text rest
  | emptyList => exact .emptyList (nextToken?_openList _) (nextToken?_closeList rest)
  | emptyTable => exact .emptyTable (nextToken?_openTable _) (nextToken?_closeTable rest)
  | list _ ih =>
    have hitems := (ih depth hrest).congr_next (nextToken?_newline (depth + 1) _)
    simpa [Part.indented, Json.indented] using Reads.list (nextToken?_openList _) hitems
  | table _ ih =>
    have hentries := (ih depth hrest).congr_next (nextToken?_newline (depth + 1) _)
    simpa [Part.indented, Json.indented] using Reads.table (nextToken?_openTable _) hentries
  | lastItem _ ih =>
    have hvalue := ih (depth + 1) (Numeral.ends_newline depth (some ']' :: rest))
    have hclose := (nextToken?_newline depth _).trans (nextToken?_closeList rest)
    simpa [Part.indented, indentedItems] using Reads.lastItem hvalue hclose
  | item _ _ ih ihs =>
    have hitems := (ihs depth hrest).congr_next (nextToken?_newline (depth + 1) _)
    have hitem := Reads.item (ih (depth + 1) (Numeral.ends_comma _)) (nextToken?_comma _) hitems
    simpa [Part.indented, indentedItems] using hitem
  | @lastEntry key _ _ ih =>
    obtain ⟨units, hname, hkey⟩ := nextToken?_writeText key
    have hvalue := (ih (depth + 1) (Numeral.ends_newline depth (some '\x7d' :: rest))).congr_next
      (nextToken?_blank _)
    have hclose := (nextToken?_newline depth _).trans (nextToken?_closeTable rest)
    simpa [Part.indented, indentedEntries] using
      Reads.lastEntry (hkey _) hname (nextToken?_colon _) hvalue hclose
  | @entry key _ _ _ _ _ ih ihs =>
    obtain ⟨units, hname, hkey⟩ := nextToken?_writeText key
    have hentries := (ihs depth hrest).congr_next (nextToken?_newline (depth + 1) _)
    have hentry := Reads.entry (hkey _) hname (nextToken?_colon _)
      ((ih (depth + 1) (Numeral.ends_comma _)).congr_next (nextToken?_blank _))
      (nextToken?_comma _) hentries
    simpa [Part.indented, indentedEntries] using hentry

theorem read?_writeIndented {document : Document} (h : (Part.value document).Plain) :
    read? (writeIndented document) = some document := by
  have hreads := h.reads 0 (show Numeral.Ends [] from nofun)
  rw [List.append_nil] at hreads
  exact read?_of_reads hreads rfl

end Reckoner.Json
