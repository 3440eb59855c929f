import Reckoner.Proofs.SocketAddress.Groups

/-!
Every socket address is read back from its text, whichever zero groups the text leaves out.
-/
namespace Reckoner

variable {rest : List Char}

namespace Ipv6

/-- The run that is left out consists of zeros. -/
theorem longestZeros_spec (groups : List UInt16) :
    (longestZeros groups).1 + (longestZeros groups).2 ≤ groups.length ∧
      (groups.drop (longestZeros groups).1).take (longestZeros groups).2 =
        List.replicate (longestZeros groups).2 0 := by
  induction groups with
  | nil => exact ⟨Nat.le_refl _, rfl⟩
  | cons group groups ih =>
    obtain ⟨hle, hzeros⟩ := ih
    unfold longestZeros
    dsimp only
    split
    · have hsplit := List.takeWhile_append_dropWhile (p := (· == 0)) (l := group :: groups)
      refine ⟨?_, ?_⟩
      · rw [Nat.zero_add]
        exact (List.takeWhile_sublist _).length_le
      · rw [List.drop_zero, List.eq_replicate_iff]
        have htake : (group :: groups).take ((group :: groups).takeWhile (· == 0)).length =
            (group :: groups).takeWhile (· == 0) :=
          (congrArg (List.take _) hsplit.symm).trans List.take_left
        rw [htake]
        exact ⟨rfl, fun g hg => by simpa using List.all_eq_true.mp List.all_takeWhile g hg⟩
    · exact ⟨by rw [List.length_cons]; omega, hzeros⟩

/-- The groups around the run, with as many zeros between them as are missing. -/
theorem take_zeros_drop {groups : List UInt16} (hlength : groups.length = 8) :
    groups.take (longestZeros groups).1 ++
        List.replicate (8 - (groups.take (longestZeros groups).1).length -
          (groups.drop ((longestZeros groups).1 + (longestZeros groups).2)).length) 0 ++
        groups.drop ((longestZeros groups).1 + (longestZeros groups).2) = groups := by
  obtain ⟨hle, hzeros⟩ := longestZeros_spec groups
  have hmissing : 8 - (groups.take (longestZeros groups).1).length -
      (groups.drop ((longestZeros groups).1 + (longestZeros groups).2)).length =
      (longestZeros groups).2 := by
    rw [List.length_take, List.length_drop]
    omega
  rw [hmissing, ← hzeros, List.append_assoc, ← List.drop_drop, List.take_append_drop,
    List.take_append_drop]

end Ipv6

namespace SocketAddress

open Ipv6

/-- What may follow an address: the mark of a scope or the closing bracket. -/
structure EndsAddress (rest : List Char) : Prop where
  group : EndsGroup rest
  ne_colon : rest.head? ≠ some ':'

theorem EndsAddress.isLast (h : EndsAddress rest) : IsLast rest := isLast_of_ne_colon h.ne_colon

theorem readIpv6?_of_eight {input : List Char} {ip : Ipv6}
    (h : readGroups 8 true input = (ip.groups, false, rest)) :
    readIpv6? input = some (ip, rest) := by
  unfold readIpv6?
  simp [h, ip.length_groups]

/-- Two colons stand for the groups that are missing between those in front and those behind. -/
theorem readIpv6?_of_colons {input after : List Char} {head tail : List UInt16} {dotted : Bool}
    {ip : Ipv6} (hhead : readGroups 8 true input = (head, false, ':' :: ':' :: after))
    (hlength : head.length < 8)
    (htail : readGroups (7 - head.length) true after = (tail, dotted, rest))
    (hgroups : head ++ List.replicate (8 - head.length - tail.length) 0 ++ tail = ip.groups) :
    readIpv6? input = some (ip, rest) := by
  unfold readIpv6?
  have height : ¬ head.length = 8 := Nat.ne_of_lt hlength
  simp only [hhead, height, dif_neg, not_false_eq_true, Bool.false_eq_true, if_false]
  simp only [readChar?, if_true, Option.bind_some, bind, htail, hgroups]
  simp [ip.length_groups]

theorem endsGroup_colons (rest : List Char) : EndsGroup (':' :: ':' :: rest) :=
  .of_cons rfl (by decide)

theorem join_octets (group : UInt16) :
    (highOctet group).toUInt16 * 256 + group.toUInt8.toUInt16 = group := by
  rw [← UInt16.toNat_inj]
  have hlt := group.toNat_lt
  simp [highOctet, Nat.shiftRight_eq_div_pow]
  omega

/-- A dotted address takes the place of the last two groups. -/
theorem readGroups_dotted (dotted : Ipv4) (hrest : Stops 10 rest) (count : Nat) :
    readGroups (count + 2) false (':' :: (dotted.write ++ rest)) =
      ([dotted.first.toUInt16 * 256 + dotted.second.toUInt16,
        dotted.third.toUInt16 * 256 + dotted.fourth.toUInt16], true, rest) := by
  rw [readGroups]
  simp [readChar?, readIpv4?_write dotted hrest]

/-- A mapped address is read back from its dotted form. -/
theorem readIpv6?_mapped {ip : Ipv6} {dotted : Ipv4} (h : ip.mapped? = some dotted)
    (hrest : Stops 10 rest) :
    readIpv6? ("::ffff:".toList ++ dotted.write ++ rest) = some (ip, rest) := by
  have hmapped : ∃ high low, ip.groups = [0, 0, 0, 0, 0, 0xffff, high, low] ∧
      dotted = ⟨highOctet high, high.toUInt8, highOctet low, low.toUInt8⟩ := by
    unfold mapped? at h
    split at h
    · rename_i high low hgroups
      exact ⟨high, low, hgroups, (Option.some.inj h).symm⟩
    · cases h
  obtain ⟨high, low, hgroups, hdotted⟩ := hmapped
  have hlast : readGroups 6 false (':' :: (dotted.write ++ rest)) = ([high, low], true, rest) := by
    rw [readGroups_dotted dotted hrest, hdotted]
    simp only [join_octets]
  have htail : readGroups 7 true ("ffff".toList ++ ':' :: (dotted.write ++ rest)) =
      ([0xffff, high, low], true, rest) := by
    have hread := readGroups_group true 0xffff
      (show EndsGroup (':' :: (dotted.write ++ rest)) from .of_cons rfl (by decide)) 6
    rw [hlast] at hread
    exact hread
  have hinput : "::ffff:".toList ++ dotted.write ++ rest =
      ':' :: ':' :: ("ffff".toList ++ ':' :: (dotted.write ++ rest)) := by
    simp
  rw [hinput]
  exact readIpv6?_of_colons (readGroups_of_endsGroup (endsGroup_colons _) 8) (by decide) htail
    hgroups.symm

theorem readIpv6?_write (ip : Ipv6) (hrest : EndsAddress rest) :
    readIpv6? (ip.write ++ rest) = some (ip, rest) := by
  unfold Ipv6.write
  split
  · rename_i dotted hmapped
    exact readIpv6?_mapped hmapped hrest.group.stops_ten
  · dsimp only
    have hlength := ip.length_groups
    have hgroups := take_zeros_drop ip.length_groups
    have hbound := (longestZeros_spec ip.groups).1
    generalize (longestZeros ip.groups).1 = start at hgroups hbound ⊢
    generalize (longestZeros ip.groups).2 = length at hgroups hbound ⊢
    split
    · exact readIpv6?_of_eight
        (readGroups_writeGroups (Nat.le_of_eq ip.length_groups) hrest.group hrest.isLast)
    · have hhead : (ip.groups.take start).length = start := by
        rw [List.length_take]
        omega
      have htail : (ip.groups.drop (start + length)).length = 8 - (start + length) := by
        rw [List.length_drop, hlength]
      rw [List.append_assoc]
      refine readIpv6?_of_colons (readGroups_writeGroups (by omega) (endsGroup_colons _)
        (isLast_colons _)) (by omega)
        (readGroups_writeGroups (by omega) hrest.group hrest.isLast) hgroups

/-! Whole addresses. -/

theorem readPort?_write (port : UInt16) :
    readPort? (':' :: Nat.toDigits 10 port.toNat) = some (port, []) := by
  have hread := readNumber?_toDigits (by decide) (by decide) port.toNat_lt
    (show Stops 10 [] by simp [Stops])
  rw [List.append_nil] at hread
  unfold readPort?
  simp [readChar?, hread]

theorem readScope_write (scope : UInt32) (hrest : Stops 10 rest) (hmark : rest.head? ≠ some '%') :
    readScope ((if scope = 0 then [] else '%' :: Nat.toDigits 10 scope.toNat) ++ rest) =
      (scope, rest) := by
  unfold readScope
  by_cases hzero : scope = 0
  · have hnone : readChar? '%' rest = none := by
      cases rest with
      | nil => rfl
      | cons c rest =>
        have hne : '%' ≠ c := by
          rintro rfl
          exact hmark rfl
        simp [readChar?, hne]
    simp [hzero, hnone]
  · have hread := readNumber?_toDigits (by decide) (by decide) scope.toNat_lt hrest
    simp [hzero, readChar?, UInt32.size, hread]

theorem endsAddress_scope (scope : UInt32) (rest : List Char) :
    EndsAddress
      ((if scope = 0 then [] else '%' :: Nat.toDigits 10 scope.toNat) ++ ']' :: rest) := by
  split
  · exact ⟨.of_cons rfl (by decide), by simp⟩
  · exact ⟨.of_cons rfl (by decide), by simp⟩

/-- Every address is read back from its text. -/
theorem ofText?_text (a : SocketAddress) : ofText? a.text = some a := by
  unfold ofText? text
  rw [String.toList_ofList]
  cases a with
  | v4 ip port =>
    have hread : readV4? (write (v4 ip port)) = some (v4 ip port, []) := by
      unfold readV4? write
      simp [readIpv4?_write ip (show Stops 10 (':' :: _) from .of_cons rfl), readPort?_write]
    rw [hread]
    rfl
  | v6 ip scope port =>
    have hbracket : readV4? (write (v6 ip scope port)) = none := by
      unfold readV4? write
      rw [readIpv4?_of_stops (.of_cons rfl)]
      rfl
    have hread : readV6? (write (v6 ip scope port)) = some (v6 ip scope port, []) := by
      have hip := readIpv6?_write ip (endsAddress_scope scope (':' :: Nat.toDigits 10 port.toNat))
      have hscope := readScope_write scope
        (show Stops 10 (']' :: ':' :: Nat.toDigits 10 port.toNat) from .of_cons rfl) (by simp)
      have hwrite : write (v6 ip scope port) = '[' :: (ip.write ++
          ((if scope = 0 then [] else '%' :: Nat.toDigits 10 scope.toNat) ++
            ']' :: ':' :: Nat.toDigits 10 port.toNat)) := by
        simp [write]
      rw [hwrite]
      unfold readV6?
      simp [readChar?, hip, hscope, readPort?_write]
    rw [hbracket, hread]
    rfl

end SocketAddress
end Reckoner
