import Reckoner.SocketAddress.Reader
import Reckoner.SocketAddress.Writer

/-!
Numbers, dotted addresses and rows of groups: each is read back from its text, whatever follows that
cannot belong to it.
-/
namespace Reckoner.SocketAddress

open Text (digitValue?)

variable {radix bound n count : Nat} {rest : List Char} {groups : List UInt16} {group : UInt16}

/-- No digit comes next. -/
def Stops (radix : Nat) (rest : List Char) : Prop := ∀ c ∈ rest.head?, digitValue? radix c = none

theorem Stops.of_cons {c : Char} (h : digitValue? radix c = none) : Stops radix (c :: rest) := by
  simpa [Stops] using h

theorem digitValue?_digitChar (h : n < radix) (hradix : radix ≤ 16) :
    digitValue? radix (Nat.digitChar n) = some n := by
  have hall : ∀ radix : Fin 17, ∀ n : Fin 16, n.val < radix.val →
      digitValue? radix (Nat.digitChar n) = some n.val := by decide
  exact hall ⟨radix, by omega⟩ ⟨n, by omega⟩ h

/-- What is no digit of the larger radix is none of the smaller. -/
theorem digitValue?_eq_none_of_le {radix' : Nat} {c : Char} (hle : radix ≤ radix')
    (h : digitValue? radix' c = none) : digitValue? radix c = none := by
  unfold digitValue? at h ⊢
  rw [Option.filter_eq_none_iff] at h ⊢
  intro value hvalue
  have := h value hvalue
  simp only [decide_eq_true_eq] at this ⊢
  omega

theorem isSome_digitValue?_of_mem_toDigits (hone : 1 < radix) (hradix : radix ≤ 16) {c : Char}
    (hc : c ∈ Nat.toDigits radix n) : (digitValue? radix c).isSome = true := by
  induction n using Nat.strongRecOn with
  | ind n ih =>
  rcases Nat.lt_or_ge n radix with hlt | hge
  · rw [Nat.toDigits_of_lt_base hlt] at hc
    rw [List.mem_singleton.mp hc, digitValue?_digitChar hlt hradix]
    rfl
  · rw [Nat.toDigits_of_base_le hone hge] at hc
    rcases List.mem_append.mp hc with hfront | hlast
    · exact ih (n / radix) (Nat.div_lt_self (by omega) hone) hfront
    · rw [List.mem_singleton.mp hlast,
        digitValue?_digitChar (Nat.mod_lt n (by omega)) hradix]
      rfl

theorem foldl_toDigits (hone : 1 < radix) (hradix : radix ≤ 16) (n : Nat) :
    (Nat.toDigits radix n).foldl (fun n c => radix * n + (digitValue? radix c).getD 0) 0 = n := by
  induction n using Nat.strongRecOn with
  | ind n ih =>
  rcases Nat.lt_or_ge n radix with hlt | hge
  · rw [Nat.toDigits_of_lt_base hlt]
    simp [digitValue?_digitChar hlt hradix]
  · rw [Nat.toDigits_of_base_le hone hge, List.foldl_append,
      ih (n / radix) (Nat.div_lt_self (by omega) hone)]
    simp only [List.foldl_cons, List.foldl_nil,
      digitValue?_digitChar (Nat.mod_lt n (by omega : radix > 0)) hradix, Option.getD_some]
    exact Nat.div_add_mod n radix

theorem takeWhile_stops (hrest : Stops radix rest) :
    rest.takeWhile (fun c => (digitValue? radix c).isSome) = [] := by
  cases rest with
  | nil => rfl
  | cons c rest => simp [hrest c rfl]

theorem readNumber?_toDigits (hone : 1 < radix) (hradix : radix ≤ 16) (hn : n < bound)
    (hrest : Stops radix rest) :
    readNumber? radix bound (Nat.toDigits radix n ++ rest) = some (n, rest) := by
  have htake : (Nat.toDigits radix n ++ rest).takeWhile (fun c => (digitValue? radix c).isSome) =
      Nat.toDigits radix n := by
    rw [List.takeWhile_append_of_pos
      fun c hc => isSome_digitValue?_of_mem_toDigits hone hradix hc, takeWhile_stops hrest,
      List.append_nil]
  unfold readNumber?
  simp only [htake, foldl_toDigits hone hradix]
  rw [if_neg (by simp [Nat.toDigits_ne_nil, Nat.not_le.mpr hn]), List.drop_left]

theorem readNumber?_of_stops (hrest : Stops radix rest) : readNumber? radix bound rest = none := by
  unfold readNumber?
  simp [takeWhile_stops hrest]

/-! Dotted addresses. -/

theorem readOctet?_toDigits (octet : UInt8) (hrest : Stops 10 rest) :
    readOctet? (Nat.toDigits 10 octet.toNat ++ rest) = some (octet, rest) := by
  have hread := readNumber?_toDigits (by decide) (by decide) octet.toNat_lt hrest
  unfold readOctet?
  simp [hread]

theorem stops_point (rest : List Char) : Stops 10 ('.' :: rest) := .of_cons rfl

theorem readIpv4?_write (ip : Ipv4) (hrest : Stops 10 rest) :
    readIpv4? (ip.write ++ rest) = some (ip, rest) := by
  unfold readIpv4? Ipv4.write
  simp [readOctet?_toDigits, stops_point, hrest, readChar?]

/-! Groups. -/

/-- What may follow a group: no digit of one, and no point, which would make its digits an octet. -/
structure EndsGroup (rest : List Char) : Prop where
  stops : Stops 16 rest
  ne_point : rest.head? ≠ some '.'

theorem EndsGroup.of_cons {c : Char} (h : digitValue? 16 c = none) (hpoint : c ≠ '.') :
    EndsGroup (c :: rest) := ⟨.of_cons h, by simpa using hpoint⟩

theorem EndsGroup.stops_ten (h : EndsGroup rest) : Stops 10 rest :=
  fun c hc => digitValue?_eq_none_of_le (by decide) (h.stops c hc)

theorem length_toDigits_le (h : n < 65536) : (Nat.toDigits 16 n).length ≤ 4 := by
  rw [Nat.length_toDigits_le_iff (by decide) (by decide)]
  exact h

theorem readGroup?_toDigits (group : UInt16) (hrest : Stops 16 rest) :
    readGroup? (Nat.toDigits 16 group.toNat ++ rest) = some (group, rest) := by
  have hread := readNumber?_toDigits (by decide) (by decide) group.toNat_lt hrest
  have hlength := length_toDigits_le group.toNat_lt
  unfold readGroup?
  simp [hread, hlength]

/-- The octet at the front takes all decimal digits that there are. -/
theorem eq_dropWhile_of_readOctet? {input after : List Char} {octet : UInt8}
    (h : readOctet? input = some (octet, after)) :
    after = input.dropWhile fun c => (digitValue? 10 c).isSome := by
  unfold readOctet? readNumber? at h
  dsimp only at h
  split at h
  · rename_i value rest hread
    split at hread
    · cases hread
    · cases hread
      split at h
      · cases h
        have hsplit := List.takeWhile_append_dropWhile
          (p := fun c => (digitValue? 10 c).isSome) (l := input)
        exact (congrArg (List.drop _) hsplit.symm).trans List.drop_left
      · cases h
  · cases h

theorem readIpv4?_of_ne_point {input : List Char}
    (h : (input.dropWhile fun c => (digitValue? 10 c).isSome).head? ≠ some '.') :
    readIpv4? input = none := by
  unfold readIpv4?
  cases hoctet : readOctet? input with
  | none => rfl
  | some read =>
    obtain ⟨octet, after⟩ := read
    have hafter := eq_dropWhile_of_readOctet? hoctet
    have hpoint : readChar? '.' after = none := by
      rw [hafter]
      cases hdrop : input.dropWhile fun c => (digitValue? 10 c).isSome with
      | nil => rfl
      | cons c rest =>
        have hne : '.' ≠ c := by
          rintro rfl
          exact h (by rw [hdrop]; rfl)
        simp [readChar?, hne]
    simp [hpoint]

/-- A group is not taken for an octet. -/
theorem readIpv4?_toDigits (group : UInt16) (hrest : EndsGroup rest) :
    readIpv4? (Nat.toDigits 16 group.toNat ++ rest) = none := by
  refine readIpv4?_of_ne_point ?_
  rw [List.dropWhile_append]
  split
  · have hstop : rest.dropWhile (fun c => (digitValue? 10 c).isSome) = rest := by
      cases rest with
      | nil => rfl
      | cons c rest => simp [hrest.stops_ten c rfl]
    rw [hstop]
    exact hrest.ne_point
  · rename_i hmore
    obtain ⟨c, tail, hdrop⟩ := List.exists_cons_of_ne_nil (mt List.isEmpty_iff.mpr hmore)
    rw [hdrop]
    rintro ⟨⟩
    have hmem : '.' ∈ Nat.toDigits 16 group.toNat :=
      (List.dropWhile_sublist _).subset (hdrop ▸ List.mem_cons_self)
    have hdigit := isSome_digitValue?_of_mem_toDigits (by decide) (by decide) hmem
    contradiction

theorem readIpv4?_of_stops (hrest : Stops 10 rest) : readIpv4? rest = none := by
  unfold readIpv4? readOctet?
  rw [readNumber?_of_stops hrest]
  rfl

theorem readGroup?_of_stops (hrest : Stops 16 rest) : readGroup? rest = none := by
  unfold readGroup?
  rw [readNumber?_of_stops hrest]

theorem readGroups_of_endsGroup (hrest : EndsGroup rest) (count : Nat) :
    readGroups count true rest = ([], false, rest) := by
  cases count with
  | zero => rfl
  | succ count =>
    simp [readGroups, readIpv4?_of_stops hrest.stops_ten, readGroup?_of_stops hrest.stops]

/-- No further group follows a group. -/
def IsLast (rest : List Char) : Prop :=
  ∀ count, readGroups count false rest = ([], false, rest)

theorem isLast_of_ne_colon (h : rest.head? ≠ some ':') : IsLast rest := by
  intro count
  cases count with
  | zero => rfl
  | succ count =>
    cases rest with
    | nil => rfl
    | cons c rest =>
      have hne : ':' ≠ c := by
        rintro rfl
        exact h rfl
      simp [readGroups, readChar?, hne]

theorem isLast_colons (rest : List Char) : IsLast (':' :: ':' :: rest) := by
  intro count
  cases count with
  | zero => rfl
  | succ count =>
    have hdotted : readIpv4? (':' :: rest) = none := readIpv4?_of_stops (.of_cons rfl)
    have hgroup : readGroup? (':' :: rest) = none := readGroup?_of_stops (.of_cons rfl)
    simp [readGroups, readChar?, hdotted, hgroup]

/-- The group that comes next, with a colon in front unless it is the first. -/
theorem readGroups_group (isFirst : Bool) (group : UInt16) (hrest : EndsGroup rest) (count : Nat) :
    readGroups (count + 1) isFirst
        ((if isFirst then [] else [':']) ++ (Nat.toDigits 16 group.toNat ++ rest)) =
      (group :: (readGroups count false rest).1, (readGroups count false rest).2) := by
  have hgroup := readGroup?_toDigits group hrest.stops
  have hdotted := readIpv4?_toDigits group hrest
  cases isFirst <;> simp [readGroups, readChar?, hgroup, hdotted]

/-- The groups with a colon in front of each. -/
def writeBehind (groups : List UInt16) : List Char :=
  groups.flatMap fun group => ':' :: Nat.toDigits 16 group.toNat

theorem writeGroups_cons (group : UInt16) (groups : List UInt16) :
    Ipv6.writeGroups (group :: groups) = Nat.toDigits 16 group.toNat ++ writeBehind groups := by
  induction groups generalizing group with
  | nil => simp [Ipv6.writeGroups, writeBehind]
  | cons next groups ih =>
    have hcons : Ipv6.writeGroups (group :: next :: groups) =
        Nat.toDigits 16 group.toNat ++ ':' :: Ipv6.writeGroups (next :: groups) := by
      simp [Ipv6.writeGroups, List.intercalate]
    rw [hcons, ih]
    simp [writeBehind]

theorem EndsGroup.writeBehind_append (hrest : EndsGroup rest) (groups : List UInt16) :
    EndsGroup (writeBehind groups ++ rest) := by
  cases groups with
  | nil => exact hrest
  | cons group groups => exact .of_cons rfl (by decide)

theorem readGroups_writeBehind (hcount : groups.length ≤ count) (hrest : EndsGroup rest)
    (hlast : IsLast rest) :
    readGroups count false (writeBehind groups ++ rest) = (groups, false, rest) := by
  induction groups generalizing count with
  | nil => exact hlast count
  | cons group groups ih =>
    obtain ⟨count, rfl⟩ := Nat.exists_eq_add_of_lt hcount
    have hread := readGroups_group false group (hrest.writeBehind_append groups)
      (groups.length + count)
    rw [ih (Nat.le_add_right _ _)] at hread
    simpa [writeBehind, Nat.add_assoc, Nat.add_comm, Nat.add_left_comm] using hread

/-- A row of groups is read back up to where it ends, if there is room for it. -/
theorem readGroups_writeGroups (hcount : groups.length ≤ count) (hrest : EndsGroup rest)
    (hlast : IsLast rest) :
    readGroups count true (Ipv6.writeGroups groups ++ rest) = (groups, false, rest) := by
  cases groups with
  | nil => exact readGroups_of_endsGroup hrest count
  | cons group groups =>
    obtain ⟨count, rfl⟩ := Nat.exists_eq_succ_of_ne_zero
      (Nat.ne_of_gt (Nat.lt_of_lt_of_le (Nat.succ_pos _) hcount))
    have hread := readGroups_group true group (hrest.writeBehind_append groups) count
    rw [readGroups_writeBehind (Nat.le_of_succ_le_succ hcount) hrest hlast] at hread
    rw [writeGroups_cons, List.append_assoc]
    exact hread

end Reckoner.SocketAddress
