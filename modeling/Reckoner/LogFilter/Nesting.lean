/-! How deep the parts of a pattern are nested. -/
namespace Reckoner.LogFilter

/-- How deep a pattern may be nested. -/
def nestingLimit : Nat := 250

/-- Nesting of parts in a row: more than one part is one level more than the deepest of them. -/
def rowNesting (parts : List Nat) : Nat :=
  parts.foldl max 0 + if parts.length ≤ 1 then 0 else 1

/-- What has been read of a group, or of the pattern if no group is open, by its nesting: the pieces
of the last branch, the last first, and the branches before it. -/
structure Level where
  pieces : List Nat
  branches : List Nat
  /-- The last piece may be repeated. -/
  repeatable : Bool
  deriving DecidableEq, Repr

namespace Level

def empty : Level := ⟨[], [], false⟩

def nesting (l : Level) : Nat := rowNesting (rowNesting l.pieces :: l.branches)

def addPiece (l : Level) (nesting : Nat) : Level :=
  { l with pieces := nesting :: l.pieces, repeatable := true }

/-- Flags count as a piece that cannot be repeated. -/
def addFlags (l : Level) : Level := { l with pieces := 0 :: l.pieces, repeatable := false }

def endBranch (l : Level) : Level := ⟨[], rowNesting l.pieces :: l.branches, false⟩

/-- A sign of repetition makes a piece of the last one. -/
def repeat? (l : Level) : Option Level :=
  match l.pieces with
  | nesting :: pieces =>
    if l.repeatable then some { l with pieces := (nesting + 1) :: pieces } else none
  | [] => none

end Level

/-- What has been read of a class, by its nesting: the items behind the last sign of an operation,
and what stands before this sign. -/
structure ClassLevel where
  items : List Nat
  operand : Option Nat
  /-- There are only dashes as yet, which stand for themselves. -/
  opening : Bool
  deriving DecidableEq, Repr

namespace ClassLevel

def empty : ClassLevel := ⟨[], none, true⟩

def nesting (c : ClassLevel) : Nat :=
  match c.operand with
  | none => rowNesting c.items
  | some operand => max operand (rowNesting c.items) + 1

def addItem (c : ClassLevel) (nesting : Nat) : ClassLevel :=
  { c with items := nesting :: c.items, opening := false }

def addDash (c : ClassLevel) : ClassLevel := { c with items := 0 :: c.items }

/-- A sign of an operation stands behind all that was read. -/
def endOperand (c : ClassLevel) : ClassLevel := ⟨[], some c.nesting, false⟩

end ClassLevel
end Reckoner.LogFilter
