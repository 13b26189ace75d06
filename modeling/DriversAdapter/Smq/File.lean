import DriversAdapter.Smq.Copy
import DriversAdapter.Smq.Construct

/-! The queue over the bytes of its memory: an attached endpoint finds the offsets, the
sync word and the elements wherever the description puts them, and every copy made
through it is a range of bytes relative to the data zone. -/
namespace DriversAdapter.Smq
open DriversAdapter.Base DriversAdapter.Semantics DriversAdapter.Semantics.Program

def loadWord (file : Bytes) (pos : Nat) : Nat → Nat
  | 0 => 0
  | n + 1 => loadWord file pos n + (file (pos + n)).toNat * 256^n

def storeWord (file : Bytes) (pos value n : Nat) : Bytes :=
  copyBytes file pos (fun k => UInt8.ofNat (value / 256^k)) 0 n

theorem loadWord_congr (f g : Bytes) (a n : Nat) (same : ∀ k < n, f (a + k) = g (a + k)) :
    loadWord f a n = loadWord g a n := by
  induction n with
  | zero => rfl
  | succ n ih =>
    rw [loadWord,loadWord,same n (Nat.lt_succ_self n),ih fun k early => same k (by omega)]

theorem loadWord_copyBytes (file : Bytes) (dst : Nat) (data : Bytes) (src len a n : Nat)
    (apart : Apart dst len a n) : loadWord (copyBytes file dst data src len) a n = loadWord file a n := by
  apply loadWord_congr
  intro k bound
  unfold copyBytes
  rw [if_neg]
  rcases apart with before | after <;> omega

theorem loadWord_storeWord (file : Bytes) (a value n : Nat) :
    loadWord (storeWord file a value n) a n = value % 256^n := by
  suffices low : ∀ m ≤ n, loadWord (storeWord file a value n) a m = value % 256^m from
    low n (Nat.le_refl n)
  intro m
  induction m with
  | zero => simp [loadWord,Nat.mod_one]
  | succ m ih =>
    intro le
    have byte : (storeWord file a value n (a + m)).toNat = value / 256^m % 256 := by
      unfold storeWord copyBytes
      rw [if_pos (by omega),Nat.zero_add,Nat.add_sub_cancel_left]
      simp
    rw [loadWord,ih (by omega),byte,Nat.pow_succ,Nat.mod_mul]
    ring

/-- What an attached endpoint works on: the file and a read offset of its own. -/
structure Mapped where
  file : Bytes
  readOffset : Nat

namespace SharedMemQueueMeta

/-- Where a zone begins in the file. -/
def position (m : SharedMemQueueMeta) (zone : MemZoneType) : Nat := (m.memzone zone).offset.toNat

/-- The bytes of the data zone that the mapping covers. -/
def mappedBytes (m : SharedMemQueueMeta) : Int :=
  (m.memzone .data).mapLength -
    ((m.memzone .data).offset - (m.memzone .data).pageStart).toNat

def readOffsetIn (m : SharedMemQueueMeta) (s : Mapped) : Nat :=
  if m.getType = syncedSmq then loadWord s.file (m.position .rptr) 8 else s.readOffset

def writeOffsetIn (m : SharedMemQueueMeta) (s : Mapped) : Nat :=
  loadWord s.file (m.position .wptr) 8

def serveFile (m : SharedMemQueueMeta) : (op : QueueOp) → Mapped → op.Res × Mapped
  | .loadReadOffset, s => (m.readOffsetIn s,s)
  | .loadWriteOffset, s => (m.writeOffsetIn s,s)
  | .storeReadOffset offset, s =>
    if m.getType = syncedSmq then
      ((),{s with file := storeWord s.file (m.position .rptr) offset 8})
    else ((),{s with readOffset := offset})
  | .storeWriteOffset offset, s =>
    ((),{s with file := storeWord s.file (m.position .wptr) offset 8})
  | .copyIn dst block, s => ((),{s with file := writeBlock s.file (m.position .data + dst) block})
  | .copyOut src len, s => (chunk s.file (m.position .data + src) len,s)
  | .clearIn dst len, s => ((),{s with file := clearBytes s.file (m.position .data + dst) len})
  | .checked _, s => ((),s)

end SharedMemQueueMeta

/-- The copy stays inside the first `bytes` bytes of the data zone. -/
def QueueOp.Inside (bytes : Int) : QueueOp → Prop
  | .copyIn dst block => (dst + block.length : Int) ≤ bytes
  | .copyOut src len => (src + len : Int) ≤ bytes
  | .clearIn dst len => (dst + len : Int) ≤ bytes
  | _ => True

instance (bytes : Int) : (op : QueueOp) → Decidable (op.Inside bytes)
  | .copyIn dst block => inferInstanceAs (Decidable ((dst + block.length : Int) ≤ bytes))
  | .copyOut src len => inferInstanceAs (Decidable ((src + len : Int) ≤ bytes))
  | .clearIn dst len => inferInstanceAs (Decidable ((dst + len : Int) ≤ bytes))
  | .loadReadOffset => .isTrue trivial
  | .loadWriteOffset => .isTrue trivial
  | .storeReadOffset _ => .isTrue trivial
  | .storeWriteOffset _ => .isTrue trivial
  | .checked _ => .isTrue trivial

/-- A call, or an update of the sync word; a blocking call is a sequence of these. -/
inductive Access
  | call (c : Call)
  | sync (word : Nat)

namespace SharedMemQueue

def access (q : SharedMemQueue) : Access → Mapped → List QueueOp × Mapped
  | .call c, s => ((q.issue c).trace q.metaData.serveFile s,
      ((q.issue c).run q.metaData.serveFile s).2)
  | .sync word, s =>
    ([],{s with file := storeWord s.file (q.metaData.position .syncer) word 4})

/-- The operations of a sequence of calls. -/
def accesses (q : SharedMemQueue) (requests : List Access) (s : Mapped) : List QueueOp :=
  (Machine.run q.access requests s).1.flatten

end SharedMemQueue

end DriversAdapter.Smq
