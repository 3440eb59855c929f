import Mathlib.Data.List.Basic
import Mathlib.Tactic.SplitIfs
import Reckoner.Text.Utf8

/-!
The bytes of characters in UTF-8 are read as these characters, and no other bytes are.
-/
namespace Reckoner.Text

variable {n count high least code value : Nat} {byte : UInt8} {bytes rest : List UInt8} {c : Char}
  {cs : List Char} {before : List (Option Char)}

/-! One character. -/

/-- The byte that continues a character with a part of its code. -/
def tailByte (part : Nat) : UInt8 := UInt8.ofNat (part + 0x80)

theorem eq_ofNat_iff (h : n < 256) : byte = UInt8.ofNat n ↔ byte.toNat = n := by
  rw [← UInt8.toNat_inj, UInt8.toNat_ofNat', Nat.mod_eq_of_lt h]

theorem toNat_tailByte (h : n < 64) : (tailByte n).toNat = n + 0x80 :=
  (eq_ofNat_iff (n := n + 0x80) (by omega)).mp rfl

/-- How many bytes follow the first one tells how much of the code is in it. -/
theorem leadByte?_eq_some_iff : leadByte? byte = some (count, high, least) ↔
    (count = 0 ∧ least = 0 ∧ high < 0x80 ∧ byte.toNat = high) ∨
    (count = 1 ∧ least = 0x80 ∧ high < 0x20 ∧ byte.toNat = high + 0xC0) ∨
    (count = 2 ∧ least = 0x800 ∧ high < 0x10 ∧ byte.toNat = high + 0xE0) ∨
    (count = 3 ∧ least = 0x10000 ∧ high < 0x8 ∧ byte.toNat = high + 0xF0) := by
  have hbyte := byte.toNat_lt
  simp only [leadByte?, UInt8.lt_iff_toNat_lt, UInt8.reduceToNat]
  split_ifs <;> simp only [Option.some.injEq, Prod.mk.injEq, false_iff] <;> omega

/-- Each byte that follows holds the next six bits of the code. -/
theorem continueCode?_eq_some_iff : continueCode? count code bytes = some (value, rest) ↔
    ∃ parts : List Nat, parts.length = count ∧ (∀ part ∈ parts, part < 64) ∧
      bytes = parts.map tailByte ++ rest ∧ value = parts.foldl (· * 64 + ·) code := by
  induction count generalizing code bytes with
  | zero =>
    simp only [continueCode?, Option.some.injEq, Prod.mk.injEq, List.length_eq_zero_iff]
    constructor
    · rintro ⟨rfl, rfl⟩
      exact ⟨[], rfl, nofun, rfl, rfl⟩
    · rintro ⟨parts, rfl, -, rfl, rfl⟩
      exact ⟨rfl, rfl⟩
  | succ count ih =>
    constructor
    · intro h
      cases bytes with
      | nil => cases h
      | cons byte bytes =>
        rw [continueCode?] at h
        split at h
        · rename_i hbyte
          simp only [Bool.and_eq_true, decide_eq_true_eq, UInt8.le_iff_toNat_le,
            UInt8.lt_iff_toNat_lt, UInt8.reduceToNat] at hbyte
          obtain ⟨parts, hlength, hparts, rfl, hvalue⟩ := ih.mp h
          refine ⟨(byte.toNat - 0x80) :: parts, by simp [hlength], ?_, ?_, ?_⟩
          · exact List.forall_mem_cons.mpr ⟨by omega, hparts⟩
          · have htail : byte = tailByte (byte.toNat - 0x80) := by
              rw [← UInt8.toNat_inj, toNat_tailByte (by omega)]
              omega
            rw [List.map_cons, List.cons_append, ← htail]
          · rw [hvalue, List.foldl_cons]
        · cases h
    · rintro ⟨_ | ⟨part, parts⟩, hlength, hparts, rfl, rfl⟩
      · cases hlength
      · obtain ⟨hpart, hparts⟩ := List.forall_mem_cons.mp hparts
        have htail := toNat_tailByte hpart
        have hbyte : (0x80 ≤ tailByte part && tailByte part < 0xC0) = true := by
          simp only [Bool.and_eq_true, decide_eq_true_eq, UInt8.le_iff_toNat_le,
            UInt8.lt_iff_toNat_lt, UInt8.reduceToNat, htail]
          omega
        rw [List.map_cons, List.cons_append, continueCode?, if_pos hbyte, htail,
          Nat.add_sub_cancel]
        exact ih.mpr ⟨parts, Nat.succ.inj hlength, hparts, rfl, rfl⟩

theorem charOfCode?_eq_some_iff : charOfCode? code = some c ↔ code = c.toNat := by
  by_cases hvalid : code.isValidChar
  · rw [charOfCode?, dif_pos hvalid]
    constructor
    · rintro ⟨⟩
      rfl
    · rintro rfl
      exact congrArg some (Char.ext rfl)
  · rw [charOfCode?, dif_neg hvalid]
    constructor
    · intro h
      cases h
    · rintro rfl
      exact absurd c.valid hvalid

/-- A character whose code needs so many bytes is written as its parts. -/
theorem utf8EncodeChar_of_parts {parts : List Nat}
    (hlead : leadByte? byte = some (count, high, least)) (hlength : parts.length = count)
    (hparts : ∀ part ∈ parts, part < 64) (hcode : c.toNat = parts.foldl (· * 64 + ·) high)
    (hleast : least ≤ c.toNat) : String.utf8EncodeChar c = byte :: parts.map tailByte := by
  have hval : c.val.toNat = c.toNat := rfl
  rw [leadByte?_eq_some_iff] at hlead
  rcases hlead with ⟨rfl, rfl, hhigh, hbyte⟩ | ⟨rfl, rfl, hhigh, hbyte⟩ |
    ⟨rfl, rfl, hhigh, hbyte⟩ | ⟨rfl, rfl, hhigh, hbyte⟩
  · obtain rfl := List.length_eq_zero_iff.mp hlength
    rw [List.foldl_nil] at hcode
    rw [(eq_ofNat_iff (by omega)).mpr hbyte]
    simp only [String.utf8EncodeChar, hval, hcode]
    rw [if_pos (by omega)]
    rfl
  · obtain ⟨p, rfl⟩ := List.length_eq_one_iff.mp hlength
    have hp := hparts p (by simp)
    simp only [List.foldl_cons, List.foldl_nil] at hcode
    rw [(eq_ofNat_iff (by omega)).mpr hbyte]
    simp only [String.utf8EncodeChar, hval, hcode]
    rw [if_neg (by omega), if_pos (by omega), show (high * 64 + p) / 64 % 32 = high by omega,
      show (high * 64 + p) % 64 = p by omega]
    rfl
  · obtain ⟨p, q, rfl⟩ := List.length_eq_two.mp hlength
    have hp := hparts p (by simp)
    have hq := hparts q (by simp)
    simp only [List.foldl_cons, List.foldl_nil] at hcode
    rw [(eq_ofNat_iff (by omega)).mpr hbyte]
    simp only [String.utf8EncodeChar, hval, hcode]
    rw [if_neg (by omega), if_neg (by omega), if_pos (by omega),
      show ((high * 64 + p) * 64 + q) / 4096 % 16 = high by omega,
      show ((high * 64 + p) * 64 + q) / 64 % 64 = p by omega,
      show ((high * 64 + p) * 64 + q) % 64 = q by omega]
    rfl
  · obtain ⟨p, q, r, rfl⟩ := List.length_eq_three.mp hlength
    have hp := hparts p (by simp)
    have hq := hparts q (by simp)
    have hr := hparts r (by simp)
    simp only [List.foldl_cons, List.foldl_nil] at hcode
    rw [(eq_ofNat_iff (by omega)).mpr hbyte]
    simp only [String.utf8EncodeChar, hval, hcode]
    rw [if_neg (by omega), if_neg (by omega), if_neg (by omega),
      show (((high * 64 + p) * 64 + q) * 64 + r) / 262144 % 8 = high by omega,
      show (((high * 64 + p) * 64 + q) * 64 + r) / 4096 % 64 = p by omega,
      show (((high * 64 + p) * 64 + q) * 64 + r) / 64 % 64 = q by omega,
      show (((high * 64 + p) * 64 + q) * 64 + r) % 64 = r by omega]
    rfl

theorem leadByte?_ofNat (offset : Nat) (h : n + offset < 256)
    (hlead : (count = 0 ∧ least = 0 ∧ n < 0x80 ∧ offset = 0) ∨
      (count = 1 ∧ least = 0x80 ∧ n < 0x20 ∧ offset = 0xC0) ∨
      (count = 2 ∧ least = 0x800 ∧ n < 0x10 ∧ offset = 0xE0) ∨
      (count = 3 ∧ least = 0x10000 ∧ n < 0x8 ∧ offset = 0xF0)) :
    leadByte? (UInt8.ofNat (n + offset)) = some (count, n, least) := by
  have hbyte : (UInt8.ofNat (n + offset)).toNat = n + offset := (eq_ofNat_iff h).mp rfl
  rw [leadByte?_eq_some_iff, hbyte]
  rcases hlead with ⟨rfl, rfl, hn, rfl⟩ | ⟨rfl, rfl, hn, rfl⟩ | ⟨rfl, rfl, hn, rfl⟩ |
    ⟨rfl, rfl, hn, rfl⟩
  · exact .inl ⟨rfl, rfl, hn, rfl⟩
  · exact .inr (.inl ⟨rfl, rfl, hn, rfl⟩)
  · exact .inr (.inr (.inl ⟨rfl, rfl, hn, rfl⟩))
  · exact .inr (.inr (.inr ⟨rfl, rfl, hn, rfl⟩))

/-- Every code has such parts. -/
theorem exists_parts (c : Char) : ∃ byte count high least, ∃ parts : List Nat,
    leadByte? byte = some (count, high, least) ∧ parts.length = count ∧
      (∀ part ∈ parts, part < 64) ∧ c.toNat = parts.foldl (· * 64 + ·) high ∧
      least ≤ c.toNat := by
  have hlt : c.toNat < 0x110000 := by
    have hvalid : c.toNat.isValidChar := c.valid
    unfold Nat.isValidChar at hvalid
    omega
  generalize c.toNat = v at hlt ⊢
  rcases Nat.lt_or_ge v 0x80 with h1 | h1
  · exact ⟨_, 0, v, 0, [], leadByte?_ofNat 0 (by omega) (by omega), rfl, nofun, rfl,
      Nat.zero_le _⟩
  rcases Nat.lt_or_ge v 0x800 with h2 | h2
  · refine ⟨_, 1, v / 64, 0x80, [v % 64],
      leadByte?_ofNat 0xC0 (by omega) (by omega), rfl, ?_, ?_, h1⟩
    · simp [Nat.mod_lt]
    · simp only [List.foldl_cons, List.foldl_nil]
      omega
  rcases Nat.lt_or_ge v 0x10000 with h3 | h3
  · refine ⟨_, 2, v / 4096, 0x800, [v / 64 % 64, v % 64],
      leadByte?_ofNat 0xE0 (by omega) (by omega), rfl, ?_, ?_, h2⟩
    · simp [Nat.mod_lt]
    · simp only [List.foldl_cons, List.foldl_nil]
      omega
  · refine ⟨_, 3, v / 262144, 0x10000, [v / 4096 % 64, v / 64 % 64, v % 64],
      leadByte?_ofNat 0xF0 (by omega) (by omega), rfl, ?_, ?_, h3⟩
    · simp [Nat.mod_lt]
    · simp only [List.foldl_cons, List.foldl_nil]
      omega

/-- Bytes begin with a character if it is written there. -/
theorem decodeChar?_eq_some_iff :
    decodeChar? bytes = some (c, rest) ↔ bytes = String.utf8EncodeChar c ++ rest := by
  constructor
  · intro h
    cases bytes with
    | nil => cases h
    | cons byte bytes =>
      rw [decodeChar?] at h
      split at h
      · cases h
      · rename_i count high least hlead
        split at h
        · cases h
        · rename_i code after hcode
          split at h
          · cases h
          · rename_i hleast
            obtain ⟨d, hchar, hd⟩ := Option.map_eq_some_iff.mp h
            cases hd
            rw [charOfCode?_eq_some_iff] at hchar
            obtain ⟨parts, hlength, hparts, rfl, rfl⟩ := continueCode?_eq_some_iff.mp hcode
            rw [utf8EncodeChar_of_parts hlead hlength hparts hchar.symm
              (hchar ▸ Nat.le_of_not_lt hleast)]
            rfl
  · rintro rfl
    obtain ⟨byte, count, high, least, parts, hlead, hlength, hparts, hcode, hleast⟩ :=
      exists_parts c
    have hcontinue : continueCode? count high (parts.map tailByte ++ rest) =
        some (c.toNat, rest) :=
      continueCode?_eq_some_iff.mpr ⟨parts, hlength, hparts, rfl, hcode⟩
    rw [utf8EncodeChar_of_parts hlead hlength hparts hcode hleast, List.cons_append, decodeChar?,
      hlead]
    dsimp only
    rw [hcontinue]
    dsimp only
    rw [if_neg (Nat.not_lt.mpr hleast), charOfCode?_eq_some_iff.mpr rfl]
    rfl

/-! Many characters. -/

/-- What is read does not depend on what came before. -/
theorem symbolsAfter_eq (before : List (Option Char)) (bytes : List UInt8) :
    symbolsAfter before bytes = before.reverse ++ symbols bytes := by
  cases bytes with
  | nil => simp [symbols, symbolsAfter]
  | cons byte after =>
    rw [symbols, symbolsAfter, symbolsAfter]
    split
    · rename_i c rest hchar
      rw [symbolsAfter_eq (some c :: before) rest, symbolsAfter_eq [some c] rest]
      simp
    · rw [symbolsAfter_eq (none :: before) after, symbolsAfter_eq [none] after]
      simp
termination_by bytes.length
decreasing_by
  · exact length_decodeChar?_lt ‹_›
  · exact length_decodeChar?_lt ‹_›
  · exact Nat.lt_succ_self _
  · exact Nat.lt_succ_self _

theorem symbols_of_decodeChar? (h : decodeChar? bytes = some (c, rest)) :
    symbols bytes = some c :: symbols rest := by
  cases bytes with
  | nil => cases h
  | cons byte after =>
    rw [symbols, symbolsAfter]
    split
    · rename_i hchar
      obtain ⟨rfl, rfl⟩ := Prod.mk.inj (Option.some.inj (hchar.symm.trans h))
      exact symbolsAfter_eq _ _
    · rename_i hnone
      cases hnone.symm.trans h

theorem symbols_of_decodeChar?_eq_none (h : decodeChar? (byte :: rest) = none) :
    symbols (byte :: rest) = none :: symbols rest := by
  rw [symbols, symbolsAfter]
  split
  · rename_i hchar
    cases h.symm.trans hchar
  · exact symbolsAfter_eq _ _

/-- Bytes are characters throughout if they are these characters in UTF-8, one after the other. -/
theorem symbols_eq_map_some_iff :
    symbols bytes = cs.map some ↔ bytes = cs.flatMap String.utf8EncodeChar := by
  induction cs generalizing bytes with
  | nil =>
    cases bytes with
    | nil => simp [symbols, symbolsAfter]
    | cons byte after =>
      cases h : decodeChar? (byte :: after) with
      | none => simp [symbols_of_decodeChar?_eq_none h]
      | some result => simp [symbols_of_decodeChar? h]
  | cons c cs ih =>
    rw [List.flatMap_cons, ← decodeChar?_eq_some_iff, List.map_cons]
    constructor
    · intro h
      cases bytes with
      | nil => simp [symbols, symbolsAfter] at h
      | cons byte after =>
        cases hchar : decodeChar? (byte :: after) with
        | none =>
          rw [symbols_of_decodeChar?_eq_none hchar] at h
          cases h
        | some result =>
          obtain ⟨d, rest⟩ := result
          rw [symbols_of_decodeChar? hchar] at h
          obtain ⟨hd, hrest⟩ := List.cons.inj h
          rw [Option.some.inj hd, ih.mp hrest]
    · intro h
      rw [symbols_of_decodeChar? h, ih.mpr rfl]

theorem toList_loop (bs : ByteArray) (i : Nat) (taken : List UInt8) :
    ByteArray.toList.loop bs i taken = taken.reverse ++ bs.data.toList.drop i := by
  fun_induction ByteArray.toList.loop bs i taken with
  | case1 i taken h ih =>
    have hlt : i < bs.data.toList.length := h
    rw [ih, List.drop_eq_getElem_cons hlt]
    simp [ByteArray.get!, h]
  | case2 i taken h =>
    rw [List.drop_eq_nil_of_le (Nat.le_of_not_lt h), List.append_nil]

theorem toList_toUTF8 (text : String) :
    text.toUTF8.toList = text.toList.flatMap String.utf8EncodeChar := by
  rw [ByteArray.toList, toList_loop, String.toUTF8, ← String.utf8Encode_toList]
  exact List.toList_data_toByteArray

/-- The bytes of a text are read as its characters, and no other bytes are. -/
theorem symbols_eq_toList_iff {text : String} :
    symbols bytes = text.toList.map some ↔ bytes = text.toUTF8.toList := by
  rw [symbols_eq_map_some_iff, toList_toUTF8]

end Reckoner.Text
