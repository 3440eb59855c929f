import Reckoner.SocketAddress.Basic
import Reckoner.Text.Numeral

/-!
Reading socket addresses: `a.b.c.d:port` with decimal octets, or `[groups]:port` with hexadecimal
groups, a scope after `%`, one `::` for zero groups, and an address of the older family in place
of the last two groups.
-/
namespace Reckoner.SocketAddress

open Text (digitValue?)

/-- Takes all digits at the front, one at least, whose number is below `bound`. -/
def readNumber? (radix bound : Nat) (input : List Char) : Option (Nat × List Char) :=
  let digits := input.takeWhile fun c => (digitValue? radix c).isSome
  let value := digits.foldl (fun n c => radix * n + (digitValue? radix c).getD 0) 0
  if digits.isEmpty || bound ≤ value then none
  else some (value, input.drop digits.length)

/-- An octet has no zeros in front. -/
def readOctet? (input : List Char) : Option (UInt8 × List Char) :=
  match readNumber? 10 256 input with
  | some (value, rest) =>
    if input.length - rest.length = (Nat.toDigits 10 value).length then some (value.toUInt8, rest)
    else none
  | none => none

def readChar? (c : Char) : List Char → Option (List Char)
  | d :: rest => if c = d then some rest else none
  | [] => none

def readIpv4? (input : List Char) : Option (Ipv4 × List Char) := do
  let (first, rest) ← readOctet? input
  let (second, rest) ← readChar? '.' rest >>= readOctet?
  let (third, rest) ← readChar? '.' rest >>= readOctet?
  let (fourth, rest) ← readChar? '.' rest >>= readOctet?
  return (⟨first, second, third, fourth⟩, rest)

/-- A group has four digits at most, which may be zeros. -/
def readGroup? (input : List Char) : Option (UInt16 × List Char) :=
  match readNumber? 16 65536 input with
  | some (value, rest) =>
    if input.length - rest.length ≤ 4 then some (value.toUInt16, rest) else none
  | none => none

/-- Up to `count` groups with colons between them, whether they end in a dotted address, and what
follows. A colon that no group follows is left. -/
def readGroups : Nat → Bool → List Char → List UInt16 × Bool × List Char
  | 0, _, input => ([], false, input)
  | count + 1, isFirst, input =>
    match (if isFirst then some input else readChar? ':' input) with
    | none => ([], false, input)
    | some start =>
      match (if count = 0 then none else readIpv4? start) with
      | some (ip, rest) =>
        ([ip.first.toUInt16 * 256 + ip.second.toUInt16,
          ip.third.toUInt16 * 256 + ip.fourth.toUInt16], true, rest)
      | none =>
        match readGroup? start with
        | none => ([], false, input)
        | some (group, rest) =>
          let (groups, dotted, rest) := readGroups count false rest
          (group :: groups, dotted, rest)

/-- Without `::` there have to be eight groups; with it one of them at least is left out, and
a dotted address may only stand at the end. -/
def readIpv6? (input : List Char) : Option (Ipv6 × List Char) :=
  let (head, dotted, rest) := readGroups 8 true input
  if h : head.length = 8 then some (⟨head, h⟩, rest)
  else if dotted then none
  else do
    let rest ← readChar? ':' rest >>= readChar? ':'
    let (tail, _, rest) := readGroups (7 - head.length) true rest
    let groups := head ++ List.replicate (8 - head.length - tail.length) 0 ++ tail
    if h : groups.length = 8 then some (⟨groups, h⟩, rest) else none

def readPort? (input : List Char) : Option (UInt16 × List Char) := do
  let rest ← readChar? ':' input
  let (port, rest) ← readNumber? 10 65536 rest
  return (port.toUInt16, rest)

def readScope (input : List Char) : UInt32 × List Char :=
  match readChar? '%' input >>= readNumber? 10 UInt32.size with
  | some (scope, rest) => (scope.toUInt32, rest)
  | none => (0, input)

def readV4? (input : List Char) : Option (SocketAddress × List Char) := do
  let (ip, rest) ← readIpv4? input
  let (port, rest) ← readPort? rest
  return (v4 ip port, rest)

def readV6? (input : List Char) : Option (SocketAddress × List Char) := do
  let rest ← readChar? '[' input
  let (ip, rest) ← readIpv6? rest
  let (scope, rest) := readScope rest
  let rest ← readChar? ']' rest
  let (port, rest) ← readPort? rest
  return (v6 ip scope port, rest)

def ofText? (text : String) : Option SocketAddress :=
  match readV4? text.toList <|> readV6? text.toList with
  | some (address, []) => some address
  | _ => none

end Reckoner.SocketAddress
