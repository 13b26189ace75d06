import DriversAdapter.Smq.File

/-! Copies of an attached endpoint, whatever description it was given. They stay in the
data zone when the ring fits there, the offsets and the sync word lie apart from it and
from each other, and the offset found in the file is at most two turns. -/
namespace DriversAdapter.Smq
open DriversAdapter.Base DriversAdapter.Semantics DriversAdapter.Semantics.Program

theorem QueueOp.inside_mono (op : QueueOp) (bytes more : Int) (le : bytes ≤ more)
    (inside : op.Inside bytes) : op.Inside more := by
  cases op <;> first | trivial | exact Int.le_trans inside le

namespace SharedMemQueueMeta

/-- The zones as an endpoint needs them when its ring takes `bytes` bytes. -/
structure Laid (m : SharedMemQueueMeta) (bytes : Nat) : Prop where
  fits : (bytes : Int) ≤ m.mappedBytes
  data_wptr : Apart (m.position .data) bytes (m.position .wptr) 8
  wptr_syncer : Apart (m.position .syncer) 4 (m.position .wptr) 8
  data_rptr : m.getType = syncedSmq → Apart (m.position .data) bytes (m.position .rptr) 8
  wptr_rptr : m.getType = syncedSmq → Apart (m.position .wptr) 8 (m.position .rptr) 8
  rptr_syncer : m.getType = syncedSmq → Apart (m.position .syncer) 4 (m.position .rptr) 8

/-- The offsets that the endpoint finds. -/
structure Sees (m : SharedMemQueueMeta) (s : Mapped) (w r : Nat) : Prop where
  write_eq : m.writeOffsetIn s = w
  read_eq : m.readOffsetIn s = r

theorem laid_lt (m : SharedMemQueueMeta) (bytes : Nat) (laid : m.Laid bytes) : bytes < 2^31 := by
  have fits := laid.fits
  have word := (((m.memzone .data).offset - (m.memzone .data).pageStart +
    (m.memzone .data).size).toInt32).toInt_lt
  unfold mappedBytes MemZone.mapLength at fits
  omega

section Frame
variable (m : SharedMemQueueMeta) (s : Mapped) (w r : Nat) (sees : m.Sees s w r)
include sees

theorem sees_copyBytes (dst : Nat) (data : Bytes) (src len : Nat)
    (wptr : Apart dst len (m.position .wptr) 8)
    (rptr : m.getType = syncedSmq → Apart dst len (m.position .rptr) 8) :
    m.Sees {s with file := copyBytes s.file dst data src len} w r := by
  refine ⟨?_,?_⟩
  · rw [← sees.write_eq]
    exact loadWord_copyBytes _ _ _ _ _ _ _ wptr
  · rw [← sees.read_eq]
    unfold readOffsetIn
    split
    next synced => exact loadWord_copyBytes _ _ _ _ _ _ _ (rptr synced)
    next => rfl

theorem sees_storeWriteOffset (bytes : Nat) (laid : m.Laid bytes) (offset : Nat)
    (word : offset < 2^64) : m.Sees (m.serveFile (.storeWriteOffset offset) s).2 offset r := by
  refine ⟨?_,?_⟩
  · have stored := loadWord_storeWord s.file (m.position .wptr) offset 8
    rwa [Nat.mod_eq_of_lt (by omega)] at stored
  · rw [← sees.read_eq]
    unfold readOffsetIn serveFile
    split
    next synced => exact loadWord_copyBytes _ _ _ _ _ _ _ (laid.wptr_rptr synced)
    next => rfl

theorem sees_storeReadOffset (bytes : Nat) (laid : m.Laid bytes) (offset : Nat)
    (word : offset < 2^64) : m.Sees (m.serveFile (.storeReadOffset offset) s).2 w offset := by
  unfold serveFile
  dsimp only
  by_cases synced : m.getType = syncedSmq
  · rw [if_pos synced]
    refine ⟨?_,?_⟩
    · rw [← sees.write_eq]
      exact loadWord_copyBytes _ _ _ _ _ _ _ (laid.wptr_rptr synced).symm
    · unfold readOffsetIn
      rw [if_pos synced]
      have stored := loadWord_storeWord s.file (m.position .rptr) offset 8
      rwa [Nat.mod_eq_of_lt (by omega)] at stored
  · rw [if_neg synced]
    refine ⟨sees.write_eq,?_⟩
    unfold readOffsetIn
    rw [if_neg synced]

theorem sees_data (bytes : Nat) (laid : m.Laid bytes) (dst : Nat) (data : Bytes) (src len : Nat)
    (inside : dst + len ≤ bytes) :
    m.Sees {s with file := copyBytes s.file (m.position .data + dst) data src len} w r := by
  have part : ∀ a, Apart (m.position .data) bytes a 8 → Apart (m.position .data + dst) len a 8 := by
    intro a whole
    unfold Apart at *
    omega
  exact m.sees_copyBytes s w r sees _ _ _ _ (part _ laid.data_wptr)
    (fun synced => part _ (laid.data_rptr synced))

end Frame

/-- Every copy of the program stays inside the ring. -/
def Confined {α : Type} (m : SharedMemQueueMeta) (bytes : Nat) (post : α → Mapped → Prop) :
    QueueM α → Mapped → Prop :=
  Safe (· = ·) (fun op s r t => m.serveFile op s = (r,t)) (fun op _ _ => op.Inside bytes) post

section Confined
variable {α : Type} (m : SharedMemQueueMeta) (bytes : Nat) (post : α → Mapped → Prop)
variable (s : Mapped) (w r : Nat) (sees : m.Sees s w r)

theorem confined_done (value : α) (holds : post value s) :
    m.Confined bytes post (.done value) s := by
  rintro t rfl
  exact holds

theorem confined_perform (op : QueueOp) (next : op.Res → QueueM α) (inside : op.Inside bytes)
    (rest : m.Confined bytes post (next (m.serveFile op s).1) (m.serveFile op s).2) :
    m.Confined bytes post (.perform op next) s :=
  safe_serve op next s inside rest

theorem confined_bind {β : Type} (mid : β → Mapped → Prop) (p : QueueM β) (f : β → QueueM α)
    (first : m.Confined bytes mid p s)
    (rest : ∀ value t, mid value t → m.Confined bytes post (f value) t) :
    m.Confined bytes post (p >>= f) s :=
  safe_bind (fun _ => rfl) p f s first rest

include sees in
theorem confined_loadWriteOffset (f : Nat → QueueM α) (rest : m.Confined bytes post (f w) s) :
    m.Confined bytes post (loadWriteOffset >>= f) s := by
  rw [← sees.write_eq] at rest
  exact m.confined_perform bytes post s .loadWriteOffset f trivial rest

include sees in
theorem confined_loadReadOffset (f : Nat → QueueM α) (rest : m.Confined bytes post (f r) s) :
    m.Confined bytes post (loadReadOffset >>= f) s := by
  rw [← sees.read_eq] at rest
  exact m.confined_perform bytes post s .loadReadOffset f trivial rest

include sees in
theorem confined_storeWriteOffset (laid : m.Laid bytes) (offset : Nat) (word : offset < 2^64)
    (f : Unit → QueueM α) (rest : ∀ t, m.Sees t offset r → m.Confined bytes post (f ()) t) :
    m.Confined bytes post (storeWriteOffset offset >>= f) s :=
  m.confined_perform bytes post s (.storeWriteOffset offset) f trivial
    (rest _ (m.sees_storeWriteOffset s w r sees bytes laid offset word))

include sees in
theorem confined_storeReadOffset (laid : m.Laid bytes) (offset : Nat) (word : offset < 2^64)
    (f : Unit → QueueM α) (rest : ∀ t, m.Sees t w offset → m.Confined bytes post (f ()) t) :
    m.Confined bytes post (storeReadOffset offset >>= f) s :=
  m.confined_perform bytes post s (.storeReadOffset offset) f trivial
    (rest _ (m.sees_storeReadOffset s w r sees bytes laid offset word))

include sees in
theorem confined_copyIn (laid : m.Laid bytes) (dst : Nat) (block : Block)
    (inside : dst + block.length ≤ bytes) (f : Unit → QueueM α)
    (rest : ∀ t, m.Sees t w r → m.Confined bytes post (f ()) t) :
    m.Confined bytes post (copyIn dst block >>= f) s :=
  m.confined_perform bytes post s (.copyIn dst block) f (by unfold QueueOp.Inside; omega)
    (rest _ (m.sees_data s w r sees bytes laid dst _ _ _ inside))

include sees in
theorem confined_clearIn (laid : m.Laid bytes) (dst len : Nat)
    (inside : dst + len ≤ bytes) (f : Unit → QueueM α)
    (rest : ∀ t, m.Sees t w r → m.Confined bytes post (f ()) t) :
    m.Confined bytes post (clearIn dst len >>= f) s :=
  m.confined_perform bytes post s (.clearIn dst len) f (by unfold QueueOp.Inside; omega)
    (rest _ (m.sees_data s w r sees bytes laid dst _ _ _ inside))

theorem confined_copyOut (src len : Nat) (inside : src + len ≤ bytes) (f : Block → QueueM α)
    (rest : ∀ block, m.Confined bytes post (f block) s) :
    m.Confined bytes post (copyOut src len >>= f) s :=
  m.confined_perform bytes post s (.copyOut src len) f (by unfold QueueOp.Inside; omega) (rest _)

end Confined

section Copies
variable (m : SharedMemQueueMeta) (bytes : Nat) (laid : m.Laid bytes)
variable (w r : Nat) (size : Nat)
include laid

theorem confined_copyElementsIn (data : Bytes) (n dst src : Nat) (s : Mapped)
    (sees : m.Sees s w r) (inside : dst + n * size ≤ bytes) :
    m.Confined bytes (fun _ t => m.Sees t w r) (copyElementsIn size dst data src n) s := by
  induction n generalizing dst src s with
  | zero => exact m.confined_done bytes _ s () sees
  | succ n ih =>
    rw [Nat.succ_mul] at inside
    unfold copyElementsIn
    apply m.confined_copyIn bytes _ s w r sees laid
    · rw [chunk_length]
      omega
    · intro t seen
      exact ih (dst + size) (src + size) t seen (by omega)

/-- `memcpy_s` into the ring writes at most what it is told the destination holds. -/
theorem confined_memcpyIn (data : Bytes) (dst destMax src count : Nat) (s : Mapped)
    (sees : m.Sees s w r)
    (room : destMax = 0 ∨ secureMemMaxLen < destMax ∨ dst + destMax ≤ bytes) :
    m.Confined bytes (fun err t => m.Sees t w r ∧
      (err = eok → 0 < destMax ∧ destMax ≤ secureMemMaxLen ∧ count ≤ destMax))
      (memcpyIn size dst destMax data src count) s := by
  have whole := Nat.div_add_mod' count size
  unfold memcpyIn
  split_ifs with refused short even
  · exact m.confined_done bytes _ s _ ⟨sees,fun ok => absurd ok (by decide)⟩
  · apply m.confined_clearIn bytes _ s w r sees laid dst destMax (by omega)
    intro t seen
    exact m.confined_done bytes _ t _ ⟨seen,fun ok => absurd ok (by decide)⟩
  · apply m.confined_bind bytes _ s (fun _ t => m.Sees t w r)
    · exact m.confined_copyElementsIn bytes laid w r size data _ _ _ s sees (by omega)
    · intro _ t seen
      exact m.confined_done bytes _ t _ ⟨seen,fun _ => by omega⟩
  · apply m.confined_bind bytes _ s (fun _ t => m.Sees t w r)
    · exact m.confined_copyElementsIn bytes laid w r size data _ _ _ s sees (by omega)
    · intro _ t seen
      apply m.confined_copyIn bytes _ t w r seen laid
      · rw [chunk_length]
        omega
      · intro u seen
        exact m.confined_done bytes _ u _ ⟨seen,fun _ => by omega⟩

omit laid in
theorem confined_copyElementsOut (n src : Nat) (s : Mapped) (inside : src + n * size ≤ bytes) :
    m.Confined bytes (fun _ t => t = s) (copyElementsOut size src n) s := by
  induction n generalizing src with
  | zero => exact m.confined_done bytes _ s _ rfl
  | succ n ih =>
    rw [Nat.succ_mul] at inside
    unfold copyElementsOut
    apply m.confined_copyOut bytes _ s src size (by omega)
    intro block
    apply m.confined_bind bytes _ s (fun _ t => t = s) _ _ (ih (src + size) (by omega))
    rintro rest t rfl
    exact m.confined_done bytes _ t _ rfl

omit laid in
theorem confined_memcpyOut (destMax src count : Nat) (s : Mapped) (inside : src + count ≤ bytes) :
    m.Confined bytes (fun _ t => t = s) (memcpyOut size destMax src count) s := by
  have whole := Nat.div_add_mod' count size
  unfold memcpyOut
  split_ifs with refused short even
  · exact m.confined_done bytes _ s _ rfl
  · exact m.confined_done bytes _ s _ rfl
  · apply m.confined_bind bytes _ s (fun _ t => t = s)
    · exact m.confined_copyElementsOut bytes size _ _ s (by omega)
    · rintro blocks t rfl
      exact m.confined_done bytes _ t _ rfl
  · apply m.confined_bind bytes _ s (fun _ t => t = s)
    · exact m.confined_copyElementsOut bytes size _ _ s (by omega)
    · rintro blocks t rfl
      apply m.confined_copyOut bytes _ t _ _ (by omega)
      intro part
      exact m.confined_done bytes _ t _ rfl

end Copies

end SharedMemQueueMeta

namespace SharedMemQueue

def ringBytes (q : SharedMemQueue) : Nat := q.metaData.getElementCount * q.sizeofT

section Calls
variable (q : SharedMemQueue) (laid : q.metaData.Laid q.ringBytes)

theorem mul_le_ringBytes (k : Nat) (le : k ≤ q.metaData.getElementCount) :
    k * q.sizeofT ≤ q.ringBytes := Nat.mul_le_mul_right _ le

theorem elementCount_le_ringBytes : q.metaData.getElementCount ≤ q.ringBytes :=
  Nat.le_mul_of_pos_right _ q.sizeof_pos

include laid in
theorem u64_laid (k : Nat) (le : k ≤ q.metaData.getElementCount) :
    u64 (k * q.sizeofT) = k * q.sizeofT := by
  have part := q.mul_le_ringBytes k le
  have small := q.metaData.laid_lt _ laid
  exact u64_of_lt _ (by omega)

variable (s : Mapped) (w r : Nat) (sees : q.metaData.Sees s w r)
variable (hw : w ≤ 2 * q.metaData.getElementCount) (hr : r ≤ q.metaData.getElementCount)

include sees in
theorem confined_getAvalidReadSize :
    q.metaData.Confined q.ringBytes (fun n t => t = s ∧ n = q.avalid w r) q.getAvalidReadSize s := by
  rw [getAvalidReadSize_eq]
  apply q.metaData.confined_loadWriteOffset q.ringBytes _ s w r sees
  apply q.metaData.confined_loadReadOffset q.ringBytes _ s w r sees
  exact q.metaData.confined_done q.ringBytes _ s _ ⟨rfl,rfl⟩

include laid hw hr in
theorem read_within (count : Nat) (within : count ≤ q.avalid w r) :
    r + count ≤ 2 * q.metaData.getElementCount := by
  have small := q.metaData.laid_lt _ laid
  have some := q.elementCount_le_ringBytes
  unfold avalid at within
  split at within
  next le =>
    rw [sub64_of_le _ _ le (by omega)] at within
    omega
  next lt =>
    rw [u64_of_lt _ (by omega),sub64_of_le _ _ (by omega) (by omega)] at within
    omega

include laid sees hw hr in
theorem confined_readNonBlocking (count : Nat) :
    q.metaData.Confined q.ringBytes
      (fun _ t => ∃ r', q.metaData.Sees t w r' ∧ r' ≤ q.metaData.getElementCount)
      (q.readNonBlocking count) s := by
  have small := q.metaData.laid_lt _ laid
  have some := q.elementCount_le_ringBytes
  unfold readNonBlocking
  split_ifs with none
  · exact q.metaData.confined_done _ _ s _ ⟨r,sees,hr⟩
  apply q.metaData.confined_bind _ _ s _ _ _ (q.confined_getAvalidReadSize s w r sees)
  rintro n t ⟨rfl,rfl⟩
  split_ifs with short
  · exact q.metaData.confined_done _ _ t _ ⟨r,sees,hr⟩
  have within := q.read_within laid w r hw hr count (Nat.not_lt.mp short)
  apply q.metaData.confined_perform _ _ t (.checked count) _ trivial
  apply q.metaData.confined_loadReadOffset _ _ t w r sees
  rw [u64_of_lt (r + count) (by omega)]
  split_ifs with fit
  · have first : r * q.sizeofT + count * q.sizeofT ≤ q.ringBytes := by
      rw [← Nat.add_mul]
      exact q.mul_le_ringBytes _ fit
    rw [q.u64_laid laid r hr,q.u64_laid laid count (by omega)]
    apply q.metaData.confined_bind _ _ t _ _ _
      (q.metaData.confined_memcpyOut _ q.sizeofT _ _ _ t first)
    rintro ⟨err,out⟩ u rfl
    dsimp only
    split_ifs
    · exact q.metaData.confined_done _ _ u _ ⟨r,sees,hr⟩
    · have turn : (r + count) % q.metaData.getElementCount ≤ q.metaData.getElementCount :=
        Nat.le_of_lt (Nat.mod_lt _ (by omega))
      apply q.metaData.confined_storeReadOffset _ _ u w r sees laid _ (by omega)
      intro v seen
      exact q.metaData.confined_done _ _ v _ ⟨_,seen,turn⟩
  · -- the first part ends at the end of the ring, the second starts at slot 0
    dsimp only
    rw [sub64_of_le _ _ hr (by omega),sub64_of_le _ _ (by omega) (by omega),
      q.u64_laid laid r hr,q.u64_laid laid _ (Nat.sub_le _ _),
      q.u64_laid laid (count - (q.metaData.getElementCount - r)) (by omega)]
    have first : r * q.sizeofT + (q.metaData.getElementCount - r) * q.sizeofT ≤ q.ringBytes := by
      rw [← Nat.add_mul,Nat.add_sub_cancel' hr]
      exact Nat.le_refl _
    have second : 0 + (count - (q.metaData.getElementCount - r)) * q.sizeofT ≤ q.ringBytes := by
      rw [Nat.zero_add]
      exact q.mul_le_ringBytes _ (by omega)
    apply q.metaData.confined_bind _ _ t _ _ _
      (q.metaData.confined_memcpyOut _ q.sizeofT _ _ _ t first)
    rintro ⟨err,out⟩ u rfl
    dsimp only
    split_ifs
    · exact q.metaData.confined_done _ _ u _ ⟨r,sees,hr⟩
    apply q.metaData.confined_bind _ _ u _ _ _
      (q.metaData.confined_memcpyOut _ q.sizeofT _ _ _ u second)
    rintro ⟨err,out⟩ v rfl
    dsimp only
    split_ifs
    · exact q.metaData.confined_done _ _ v _ ⟨r,sees,hr⟩
    · apply q.metaData.confined_storeReadOffset _ _ v w r sees laid _ (by omega)
      intro x seen
      exact q.metaData.confined_done _ _ x _ ⟨_,seen,by omega⟩

/-- A count that a synchronized queue checks, or whose bytes are counted without wrapping. -/
def Counted (q : SharedMemQueue) (count : Nat) : Prop :=
  q.metaData.getType = syncedSmq ∨ count * q.sizeofT < 2^64

include laid hw in
/-- A destination that is not behind the ring ends with it; any other is refused. -/
theorem write_room : u64 (sub64 q.metaData.getElementCount w * q.sizeofT) = 0 ∨
    secureMemMaxLen < u64 (sub64 q.metaData.getElementCount w * q.sizeofT) ∨
    (w < q.metaData.getElementCount ∧
      u64 (w * q.sizeofT) + u64 (sub64 q.metaData.getElementCount w * q.sizeofT) = q.ringBytes) := by
  have small := q.metaData.laid_lt _ laid
  have some := q.elementCount_le_ringBytes
  rcases Nat.lt_or_ge w q.metaData.getElementCount with inside | behind
  · refine .inr (.inr ⟨inside,?_⟩)
    rw [sub64_of_le _ _ (Nat.le_of_lt inside) (by omega),q.u64_laid laid w (Nat.le_of_lt inside),
      q.u64_laid laid _ (Nat.sub_le _ _),← Nat.add_mul,Nat.add_sub_cancel' (Nat.le_of_lt inside)]
    rfl
  rcases Nat.eq_or_lt_of_le behind with ends | beyond
  · left
    rw [← ends,sub64_of_le _ _ (Nat.le_refl _) (by omega),Nat.sub_self,Nat.zero_mul]
    rfl
  · right
    left
    have gap : sub64 q.metaData.getElementCount w + (w - q.metaData.getElementCount) = 2^64 := by
      unfold sub64 u64
      omega
    have gap_le := q.mul_le_ringBytes (w - q.metaData.getElementCount) (by omega)
    have gap_pos : 0 < (w - q.metaData.getElementCount) * q.sizeofT :=
      Nat.mul_pos (by omega) q.sizeof_pos
    have wrapped := u64_mul_wrapped _ _ q.sizeofT gap gap_pos (by omega)
    unfold secureMemMaxLen
    omega

include laid hr in
theorem second_part_le (count : Nat) (word : count < 2^64) (counted : q.Counted count)
    (hw : w < q.metaData.getElementCount)
    (free : ¬ (sub64 q.metaData.getElementCount (q.avalid w r) ≤ count ∧
      q.metaData.getType = syncedSmq))
    (long : ¬ u64 (w + count) ≤ q.metaData.getElementCount)
    (copied : u64 (sub64 count (sub64 q.metaData.getElementCount w) * q.sizeofT) ≤ q.ringBytes) :
    sub64 count (sub64 q.metaData.getElementCount w) ≤ q.metaData.getElementCount := by
  have small := q.metaData.laid_lt _ laid
  have some := q.elementCount_le_ringBytes
  have enough : q.metaData.getElementCount - w ≤ count := by
    by_contra few
    rw [u64_of_lt _ (by omega)] at long
    omega
  rw [sub64_of_le _ w (Nat.le_of_lt hw) (by omega)] at copied ⊢
  rw [sub64_of_le _ _ enough word] at copied ⊢
  rcases counted with synced | exact_bytes
  · have readable : q.avalid w r ≤ q.metaData.getElementCount := by
      unfold avalid
      split
      next le =>
        rw [sub64_of_le _ _ le (by omega)]
        omega
      next lt =>
        rw [u64_of_lt _ (by omega),sub64_of_le _ _ (by omega) (by omega)]
        omega
    have room : ¬ sub64 q.metaData.getElementCount (q.avalid w r) ≤ count :=
      fun full => free ⟨full,synced⟩
    rw [sub64_of_le _ _ readable (by omega)] at room
    omega
  · have part : (count - (q.metaData.getElementCount - w)) * q.sizeofT ≤ count * q.sizeofT :=
      Nat.mul_le_mul_right _ (Nat.sub_le _ _)
    rw [u64_of_lt _ (by omega)] at copied
    exact Nat.le_of_mul_le_mul_right copied q.sizeof_pos

include laid sees hw hr in
theorem confined_writeNonBlocking (data : Bytes) (count : Nat) (word : count < 2^64)
    (counted : q.Counted count) :
    q.metaData.Confined q.ringBytes
      (fun _ t => ∃ w', q.metaData.Sees t w' r ∧ w' ≤ 2 * q.metaData.getElementCount)
      (q.writeNonBlocking data count) s := by
  have small := q.metaData.laid_lt _ laid
  have some := q.elementCount_le_ringBytes
  have room := q.write_room laid w hw
  have kept : ∀ err t, q.metaData.Sees t w r → q.metaData.Confined q.ringBytes
      (fun (_ : Int) t => ∃ w', q.metaData.Sees t w' r ∧ w' ≤ 2 * q.metaData.getElementCount)
      (.done err) t := fun err t seen => q.metaData.confined_done _ _ t err ⟨w,seen,hw⟩
  have stored : ∀ offset t, q.metaData.Sees t w r → offset ≤ q.metaData.getElementCount →
      q.metaData.Confined q.ringBytes
        (fun (_ : Int) t => ∃ w', q.metaData.Sees t w' r ∧ w' ≤ 2 * q.metaData.getElementCount)
        (do storeWriteOffset offset; return 0) t := by
    intro offset t seen le
    apply q.metaData.confined_storeWriteOffset _ _ t w r seen laid _ (by omega)
    intro u after
    exact q.metaData.confined_done _ _ u _ ⟨_,after,by omega⟩
  unfold writeNonBlocking getAvalidWriteSize
  apply q.metaData.confined_bind _ _ s (fun n t => t = s ∧
    n = sub64 q.metaData.getElementCount (q.avalid w r))
  · apply q.metaData.confined_bind _ _ s _ _ _ (q.confined_getAvalidReadSize s w r sees)
    rintro n t ⟨rfl,rfl⟩
    exact q.metaData.confined_done _ _ t _ ⟨rfl,rfl⟩
  rintro n t ⟨rfl,rfl⟩
  split_ifs with full
  · exact kept _ t sees
  apply q.metaData.confined_loadWriteOffset _ _ t w r sees
  apply q.metaData.confined_loadReadOffset _ _ t w r sees
  dsimp only
  split_ifs with fit
  · apply q.metaData.confined_bind _ _ t _ _ _
      (q.metaData.confined_memcpyIn _ laid w r q.sizeofT data _ _ 0 _ t sees (by omega))
    rintro err u ⟨seen,_⟩
    split_ifs
    · exact kept _ u seen
    · exact stored _ u seen (Nat.le_trans (Nat.mod_le _ _) fit)
  · apply q.metaData.confined_bind _ _ t _ _ _
      (q.metaData.confined_memcpyIn _ laid w r q.sizeofT data _ _ 0 _ t sees (by omega))
    rintro err u ⟨seen,copied⟩
    split_ifs with failed
    · exact kept _ u seen
    have inside : w < q.metaData.getElementCount := by
      have accepted := copied (not_not.mp failed)
      omega
    rw [q.u64_laid laid _ (Nat.le_refl _)]
    apply q.metaData.confined_bind _ _ u _ _ _
      (q.metaData.confined_memcpyIn _ laid w r q.sizeofT data _ _ _ _ u seen
        (.inr (.inr (Nat.le_of_eq (Nat.zero_add _)))))
    rintro err v ⟨seen,copied⟩
    split_ifs with failed
    · exact kept _ v seen
    · exact stored _ v seen (q.second_part_le laid w r hr count word counted inside full fit
        (copied (not_not.mp failed)).2.2)

/-- The endpoint's offsets are at most two turns and one turn. -/
def Bounded (q : SharedMemQueue) (s : Mapped) : Prop :=
  ∃ w r, q.metaData.Sees s w r ∧ w ≤ 2 * q.metaData.getElementCount ∧
    r ≤ q.metaData.getElementCount

/-- The writes of a sequence are counted without wrapping. -/
def CountedAccess (q : SharedMemQueue) : Access → Prop
  | .call (.write _ count) => q.Counted count.toNat
  | _ => True

include laid in
theorem confined_issue (c : Call) (counted : q.CountedAccess (.call c)) (bounded : q.Bounded s) :
    q.metaData.Confined q.ringBytes (fun _ t => q.Bounded t) (q.issue c) s := by
  obtain ⟨w,r,sees,hw,hr⟩ := bounded
  rcases c with ⟨data,count⟩ | ⟨count⟩
  · apply q.metaData.confined_bind _ _ s _ _ _
      (q.confined_writeNonBlocking laid s w r sees hw hr data count.toNat count.toNat_lt counted)
    rintro ret t ⟨w',seen,le⟩
    exact q.metaData.confined_done _ _ t _ ⟨w',r,seen,le,hr⟩
  · apply q.metaData.confined_bind _ _ s _ _ _
      (q.confined_readNonBlocking laid s w r sees hw hr count.toNat)
    rintro ret t ⟨r',seen,le⟩
    exact q.metaData.confined_done _ _ t _ ⟨w,r',seen,hw,le⟩

include laid in
theorem access_inside (a : Access) (counted : q.CountedAccess a) (bounded : q.Bounded s) :
    (∀ op ∈ (q.access a s).1, op.Inside q.ringBytes) ∧ q.Bounded (q.access a s).2 := by
  rcases a with c | word
  · have confined := q.confined_issue laid s c counted bounded
    unfold SharedMemQueueMeta.Confined at confined
    exact ⟨trace_of_safe (QueueOp.Inside q.ringBytes) (fun _ _ _ inside => inside) _ s confined,
      run_of_safe _ s confined⟩
  · obtain ⟨w,r,sees,hw,hr⟩ := bounded
    refine ⟨by simp [access],w,r,?_,hw,hr⟩
    exact q.metaData.sees_copyBytes s w r sees _ _ _ _ laid.wptr_syncer laid.rptr_syncer

include laid in
theorem accesses_inside (requests : List Access) (counted : ∀ a ∈ requests, q.CountedAccess a)
    (bounded : q.Bounded s) : ∀ op ∈ q.accesses requests s, op.Inside q.ringBytes := by
  induction requests generalizing s with
  | nil => simp [accesses,Machine.run]
  | cons a rest ih =>
    obtain ⟨here,next⟩ := q.access_inside laid s a (counted a (by simp)) bounded
    intro op member
    simp only [accesses,Machine.run,List.flatten_cons,List.mem_append] at member
    rcases member with now | later
    · exact here op now
    · exact ih _ (fun b among => counted b (List.mem_cons_of_mem _ among)) next op later

end Calls

/-- An attach that succeeds has stored a read offset of zero and nothing else. -/
theorem attach_cases (env : Platform) (sizeofT : Nat) (sizeof_pos : 0 < sizeofT)
    (other : SharedMemQueueMeta) (q : SharedMemQueue) (before start : Mapped)
    (made : (attach env sizeofT sizeof_pos other).run other.serveFile before = (some q,start)) :
    q = ⟨sizeofT,sizeof_pos,{other with ashmemFd := env.dup other.ashmemFd}⟩ ∧
      start = (other.serveFile (.storeReadOffset 0) before).2 := by
  unfold attach init at made
  simp only [run_bind,run_ite] at made
  split at made
  next => simp [hdfFailure,hdfSuccess] at made
  split at made
  next => simp [hdfFailure,hdfSuccess] at made
  simp only [Bool.false_eq_true,if_false,pure_eq,run_done,if_true,Prod.mk.injEq,
    Option.some.injEq] at made
  exact ⟨made.1.symm,made.2.symm⟩

/-- A peer's description that leaves the ring room in the data zone and keeps the words of
the offsets apart from it, from each other and from the sync word. -/
theorem attached_accesses_inside (env : Platform) (sizeofT : Nat) (sizeof_pos : 0 < sizeofT)
    (parcel : MetaParcel) (before : Mapped) :
    ∀ other ∈ SharedMemQueueMeta.unMarshalling parcel, ∀ q start,
      (attach env sizeofT sizeof_pos other).run other.serveFile before = (some q,start) →
      other.Laid (other.getElementCount * sizeofT) →
      other.writeOffsetIn before ≤ 2 * other.getElementCount →
      ∀ requests : List Access, (∀ a ∈ requests, q.CountedAccess a) →
        ∀ op ∈ q.accesses requests start, op.Inside other.mappedBytes := by
  intro other _ q start made laid found requests counted op member
  obtain ⟨rfl,rfl⟩ := attach_cases env sizeofT sizeof_pos other q before start made
  have sees := other.sees_storeReadOffset before _ _ ⟨rfl,rfl⟩ _ laid 0 (by decide)
  refine op.inside_mono _ _ laid.fits ?_
  exact accesses_inside ⟨sizeofT,sizeof_pos,_⟩ laid _ requests counted
    ⟨_,_,sees,found,Nat.zero_le _⟩ op member

/-- A description of `count` elements of eight bytes over a data zone of sixteen. -/
def twoElementZone (count : UInt64) : SharedMemQueueMeta where
  ashmemFd := -1
  size := 40
  elementCount := count
  elementSize := 8
  type := syncedSmq
  memzone
    | .rptr => ⟨8,0⟩
    | .wptr => ⟨8,8⟩
    | .syncer => ⟨4,16⟩
    | .data => ⟨16,24⟩

theorem attached_accesses_inside_two :
    ∃ other q start, SharedMemQueueMeta.unMarshalling ⟨some (twoElementZone 2),5⟩ = some other ∧
      (attach .granting 8 (by decide) other).run other.serveFile ⟨fun _ => 0,0⟩ = (some q,start) ∧
      ∀ op ∈ q.accesses [.call (.write (fun _ => 7) 1),.sync 1,.call (.read 1)] start,
        op.Inside other.mappedBytes := by
  refine ⟨_,_,_,rfl,rfl,?_⟩
  refine attached_accesses_inside .granting 8 (by decide) ⟨some (twoElementZone 2),5⟩
    ⟨fun _ => 0,0⟩ _ rfl _ _ rfl ?_ (by decide) _ ?_
  · refine ⟨by decide,?_,?_,fun _ => ?_,fun _ => ?_,fun _ => ?_⟩ <;> unfold Apart <;> decide
  · simp only [List.forall_mem_cons]
    exact ⟨.inl rfl,trivial,trivial,by simp⟩

/-- Sixteen elements announced over the same zone: the third write is outside. -/
theorem hostile_count_accesses_outside :
    ∃ other q start, SharedMemQueueMeta.unMarshalling ⟨some (twoElementZone 16),5⟩ = some other ∧
      (attach .granting 8 (by decide) other).run other.serveFile ⟨fun _ => 0,0⟩ = (some q,start) ∧
      ¬ ∀ op ∈ q.accesses [.call (.write (fun _ => 7) 3)] start, op.Inside other.mappedBytes := by
  refine ⟨_,_,_,rfl,rfl,?_⟩
  decide

end SharedMemQueue

end DriversAdapter.Smq
