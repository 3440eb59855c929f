/-! Addresses of network sockets, of both families of the internet protocol. -/
namespace Reckoner

structure Ipv4 where
  first : UInt8
  second : UInt8
  third : UInt8
  fourth : UInt8
  deriving DecidableEq, Repr

/-- The eight groups of sixteen bits, the highest first. -/
structure Ipv6 where
  groups : List UInt16
  length_groups : groups.length = 8
  deriving DecidableEq, Repr

inductive SocketAddress where
  | v4 (ip : Ipv4) (port : UInt16)
  /-- The scope is zero if there is none. -/
  | v6 (ip : Ipv6) (scope : UInt32) (port : UInt16)
  deriving DecidableEq, Repr

namespace SocketAddress

def port : SocketAddress → UInt16
  | v4 _ port => port
  | v6 _ _ port => port

def withPort (port : UInt16) : SocketAddress → SocketAddress
  | v4 ip _ => v4 ip port
  | v6 ip scope _ => v6 ip scope port

@[simp] theorem port_withPort (port : UInt16) (a : SocketAddress) :
    (a.withPort port).port = port := by cases a <;> rfl

@[simp] theorem withPort_withPort (p q : UInt16) (a : SocketAddress) :
    (a.withPort p).withPort q = a.withPort q := by cases a <;> rfl

end SocketAddress
end Reckoner
