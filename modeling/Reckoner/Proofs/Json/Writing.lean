import Reckoner.Proofs.Json.Numeral
import Reckoner.Proofs.Json.Reading
import Reckoner.Proofs.Json.Text

/-!
What is written on one line is read again as what was meant.
-/
namespace Reckoner.Json

variable {input : List Char} {rest : List (Option Char)} {key : String}
  {value document : Document} {n : Numeral}

theorem read?_eq_some_iff {text : String} : read? text = some document ↔
    ∃ rest, readValue? (text.toList.map some) = some (document, rest) ∧
      rest.all isBlank = true := by
  constructor
  · intro h
    unfold read? at h
    split at h
    · rename_i value rest hread
      split at h
      · rename_i hblank
        cases h
        exact ⟨rest, hread, hblank⟩
      · cases h
    · cases h
  · rintro ⟨rest, hread, hblank⟩
    rw [read?, hread]
    exact if_pos hblank

theorem read?_of_reads
    (h : Reads decodeString? (input.map some) (.value document) rest)
    (hblank : rest.all isBlank = true) : read? (String.ofList input) = some document := by
  rw [read?_eq_some_iff, String.toList_ofList]
  exact ⟨rest, readFrom_eq_some_iff.mpr h, hblank⟩

theorem reads_writeText (text : String) (rest : List (Option Char)) :
    Reads decodeString? ((writeText text).map some ++ rest) (.value (.text text)) rest := by
  obtain ⟨units, hdecoded, hnext⟩ := nextToken?_writeText text
  exact .scalar (hnext rest) (Token.scalar?_eq_text_iff.mpr ⟨units, rfl, hdecoded⟩)

theorem reads_spelled (hn : n.Proper) (hrest : Numeral.Ends rest) :
    Reads decodeString? (n.spelled.map some ++ rest) (.value n.document) rest :=
  .scalar (nextToken?_spelled hn hrest) rfl

/-- A table with one entry is read as such, if only its value is. -/
theorem read?_write_entry
    (hvalue : Reads decodeString? ((compact value).map some ++ [some '\x7d']) (.value document)
      [some '\x7d']) :
    read? (write (.table [(key, value)])) = some (.table [(key, document)]) := by
  obtain ⟨units, hdecoded, hnext⟩ := nextToken?_writeText key
  have hinput : (compact (.table [(key, value)])).map some = some '\x7b' ::
      ((writeText key).map some ++ some ':' :: ((compact value).map some ++ [some '\x7d'])) := by
    simp [compact, compactEntries]
  have hreads : Reads decodeString? ((compact (.table [(key, value)])).map some)
      (.value (.table [(key, document)])) [] := by
    rw [hinput]
    exact .table rfl (.lastEntry (hnext _) hdecoded rfl hvalue rfl)
  exact read?_of_reads hreads rfl

end Reckoner.Json
