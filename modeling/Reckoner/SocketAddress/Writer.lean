import Reckoner.SocketAddress.Basic

/-! The one text in which a socket address is written. -/
namespace Reckoner

def Ipv4.write (ip : Ipv4) : List Char :=
  Nat.toDigits 10 ip.first.toNat ++ '.' :: (Nat.toDigits 10 ip.second.toNat ++ '.' ::
    (Nat.toDigits 10 ip.third.toNat ++ '.' :: Nat.toDigits 10 ip.fourth.toNat))

namespace Ipv6

/-- Where the longest run of zero groups starts, the first of several, and its length. -/
def longestZeros : List UInt16 → Nat × Nat
  | [] => (0, 0)
  | group :: groups =>
    let here := ((group :: groups).takeWhile (· == 0)).length
    let (start, length) := longestZeros groups
    if length ≤ here then (0, here) else (start + 1, length)

def writeGroups (groups : List UInt16) : List Char :=
  [':'].intercalate (groups.map fun group => Nat.toDigits 16 group.toNat)

def highOctet (group : UInt16) : UInt8 := (group >>> 8).toUInt8

/-- The address of the older family that this one stands for. -/
def mapped? (ip : Ipv6) : Option Ipv4 :=
  match ip.groups with
  | [0, 0, 0, 0, 0, 0xffff, high, low] =>
    some ⟨highOctet high, high.toUInt8, highOctet low, low.toUInt8⟩
  | _ => none

/-- Two zero groups or more are written as `::`, once. -/
def write (ip : Ipv6) : List Char :=
  match ip.mapped? with
  | some ip => "::ffff:".toList ++ ip.write
  | none =>
    let (start, length) := longestZeros ip.groups
    if length < 2 then writeGroups ip.groups
    else writeGroups (ip.groups.take start) ++ ':' :: ':' ::
      writeGroups (ip.groups.drop (start + length))

end Ipv6

namespace SocketAddress

def write : SocketAddress → List Char
  | v4 ip port => ip.write ++ ':' :: Nat.toDigits 10 port.toNat
  | v6 ip scope port =>
    '[' :: (ip.write ++ (if scope = 0 then [] else '%' :: Nat.toDigits 10 scope.toNat)
      ++ ']' :: ':' :: Nat.toDigits 10 port.toNat)

def text (address : SocketAddress) : String := String.ofList address.write

end SocketAddress
end Reckoner
