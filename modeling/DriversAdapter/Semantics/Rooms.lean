import Mathlib.Data.List.Basic

/-! A list in three rooms. The middle one grows and shrinks at both of its ends, and the rooms beside
it give what it takes and take what it gives. -/
namespace DriversAdapter.Semantics

structure Rooms (α : Type) where
  head : List α
  data : List α
  tail : List α

/-- From which room into which. -/
inductive Shift
  | dataToHead
  | headToData
  | tailToData
  | dataToTail
  deriving DecidableEq

namespace Rooms
variable {α : Type}

def size (r : Rooms α) : Nat := r.head.length + r.data.length + r.tail.length

/-- The room that gives. -/
def giver (r : Rooms α) : Shift → List α
  | .dataToHead | .dataToTail => r.data
  | .headToData => r.head
  | .tailToData => r.tail

def moved (n : Nat) (r : Rooms α) : Shift → Rooms α
  | .dataToHead => ⟨r.head ++ r.data.take n,r.data.drop n,r.tail⟩
  | .headToData =>
    ⟨r.head.take (r.head.length - n),r.head.drop (r.head.length - n) ++ r.data,r.tail⟩
  | .tailToData => ⟨r.head,r.data ++ r.tail.take n,r.tail.drop n⟩
  | .dataToTail =>
    ⟨r.head,r.data.take (r.data.length - n),r.data.drop (r.data.length - n) ++ r.tail⟩

/-- A prefix of the data is given to the room in front of it. -/
theorem moved_prefix (head first data tail : List α) :
    (⟨head,first ++ data,tail⟩ : Rooms α).moved first.length .dataToHead =
      ⟨head ++ first,data,tail⟩ := by
  simp [moved]

end Rooms

end DriversAdapter.Semantics
