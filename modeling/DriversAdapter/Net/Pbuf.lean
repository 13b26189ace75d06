import DriversAdapter.Net.NetBufResize

/-! Frames between the segment chains of lwIP and the buffers of the adapter, all in one memory. A
frame in a chain starts with `ETH_PAD_SIZE` bytes of padding. -/
namespace DriversAdapter.Net
open DriversAdapter.Base

/-- A segment of a chain; the next one is the next in the list. -/
structure Pbuf where
  payload : Option Nat
  len : UInt16
  totLen : UInt16

/-- What is done with the buffers on the way. -/
inductive BufEvent
  | allocNetBuf
  | readNetBuf
  | freeNetBuf
  | allocPbuf
  | freePbuf
  | driverifInput
  deriving DecidableEq

/-- The length of an array, so not above what an `int` has. -/
abbrev EthPadSize := Fin (2^31)

def maxConversionLen : UInt32 := 65535

structure Converted (α : Type) where
  result : Option α
  memory : Bytes
  events : List BufEvent

/-- What `pbuf_alloc` hands out lies in the pool of lwIP. -/
structure PbufAlloc (pool : Nat → Prop) where
  alloc : UInt16 → Option Nat
  within : ∀ {len payload}, alloc len = some payload → ∀ i < len.toNat, pool (payload + i)

/-- What `NetBufDevAlloc` hands out is a buffer without data that lies outside of the pool. -/
structure NetBufDevAlloc (pool : Nat → Prop) where
  alloc : UInt32 → Option (Nat × NetBuf)
  partition : ∀ {len base nb}, alloc len = some (base,nb) → nb.Partition
  dataless : ∀ {len base nb}, alloc len = some (base,nb) → nb.dataLen = 0
  apart : ∀ {len base nb}, alloc len = some (base,nb) → ∀ i < nb.len.toNat, ¬ pool (base + i)

/-- A buffer whose memory begins at an address of the whole. -/
def NetBuf.inMemory (base : Nat) (memory : Bytes) (nb : NetBuf) : NetBuf :=
  {nb with mem := fun i => memory (base + i)}

def netBuf2Pbuf (pad : EthPadSize) (pbufAlloc : UInt16 → Option Nat) (base : Nat) (nb : NetBuf)
    (memory : Bytes) : Converted Pbuf :=
  let len := nb.netBufGetDataLen
  let size := len + UInt32.ofNat pad
  if maxConversionLen < size then ⟨none,memory,[.readNetBuf]⟩
  else match pbufAlloc size.toUInt16 with
  | none => ⟨none,memory,[.readNetBuf]⟩
  | some payload =>
    let copy := memcpyS memory (payload + pad) len.toNat memory (base + nb.dataBuf.offset.toNat)
      len.toNat
    if copy.1 ≠ eok then ⟨none,copy.2,[.readNetBuf,.allocPbuf,.readNetBuf,.freePbuf]⟩
    else ⟨some ⟨some payload,size.toUInt16,size.toUInt16⟩,copy.2,
      [.readNetBuf,.allocPbuf,.readNetBuf]⟩

/-- The loop over the segments; it ends early with no buffer. -/
def copyPbufs (base : Nat) : List Pbuf → UInt32 → NetBuf → Bytes → Option NetBuf × Bytes
  | [], _, nb, memory => (some nb,memory)
  | tmp::rest, offset, nb, memory => match tmp.payload with
    | none => copyPbufs base rest offset nb memory
    | some payload =>
      if tmp.len = 0 then copyPbufs base rest offset nb memory
      else if nb.tailBuf.len < tmp.len.toUInt32 then (none,memory)
      else
        let copy := memcpyS memory (base + offset.toNat) tmp.len.toNat memory payload tmp.len.toNat
        if copy.1 ≠ eok then (none,copy.2)
        else copyPbufs base rest (offset + tmp.len.toUInt32)
          (nb.netBufPush eDataBuf tmp.len.toUInt32).2 copy.2

def pbuf2NetBuf (netBufDevAlloc : UInt32 → Option (Nat × NetBuf)) (chain : List Pbuf)
    (memory : Bytes) : Converted NetBuf :=
  match chain with
  | [] => ⟨none,memory,[]⟩
  | lwipBuf::_ => match netBufDevAlloc lwipBuf.totLen.toUInt32 with
    | none => ⟨none,memory,[]⟩
    | some (base,nb) =>
      let copied := copyPbufs base chain nb.dataBuf.offset nb memory
      match copied.1 with
      | none => ⟨none,copied.2,[.allocNetBuf,.freeNetBuf]⟩
      | some nb => ⟨some (nb.inMemory base copied.2),copied.2,[.allocNetBuf]⟩

def Pbuf.bytes (memory : Bytes) (p : Pbuf) : Block :=
  match p.payload with
  | none => []
  | some payload => chunk memory payload p.len.toNat

def chainBytes (memory : Bytes) (chain : List Pbuf) : Block := chain.flatMap (Pbuf.bytes memory)

/-- The bytes behind the padding. -/
def frameBytes (pad : EthPadSize) (memory : Bytes) (chain : List Pbuf) : Block :=
  (chainBytes memory chain).drop pad

def ChainIn (pool : Nat → Prop) (chain : List Pbuf) : Prop :=
  ∀ p ∈ chain, ∀ payload, p.payload = some payload → ∀ i < p.len.toNat, pool (payload + i)

theorem NetBuf.Partition.inMemory {nb : NetBuf} (partition : nb.Partition) (base : Nat)
    (memory : Bytes) : (nb.inMemory base memory).Partition := NetBuf.partition_fill nb partition _

section Loop
variable {pool : Nat → Prop} {base : Nat} {memory other : Bytes}

theorem chainBytes_congr (chain : List Pbuf) (inPool : ChainIn pool chain)
    (same : ∀ a, pool a → other a = memory a) : chainBytes other chain = chainBytes memory chain := by
  induction chain with
  | nil => rfl
  | cons p rest ih =>
    have first : p.bytes other = p.bytes memory := by
      unfold Pbuf.bytes
      cases place : p.payload with
      | none => rfl
      | some payload =>
        apply chunk_congr
        intro i bound
        exact same _ (inPool p List.mem_cons_self payload place i bound)
    have later := ih fun q member => inPool q (List.mem_cons_of_mem p member)
    unfold chainBytes at later ⊢
    rw [List.flatMap_cons,List.flatMap_cons,first,later]

/-- One turn of the loop puts a segment behind the data. -/
structure Appended (base : Nat) (nb : NetBuf) (memory : Bytes) (block : Block) (nb' : NetBuf)
    (memory' : Bytes) : Prop where
  partition : nb'.Partition
  len : nb'.len = nb.len
  room : nb'.tailBuf.len.toNat + block.length = nb.tailBuf.len.toNat
  data : (nb'.inMemory base memory').data = (nb.inMemory base memory).data ++ block

theorem push_appended (nb : NetBuf) (partition : nb.Partition) (len : UInt32)
    (enough : ¬ nb.tailBuf.len < len) (payload : Nat) :
    Appended base nb memory (chunk memory payload len.toNat) (nb.netBufPush eDataBuf len).2
      (copyBytes memory (base + nb.tailBuf.offset.toNat) memory payload len.toNat) := by
  have fits := UInt32.le_iff_toNat_le.mp (UInt32.not_lt.mp enough)
  have data_end := partition.data_end
  have tail_end := partition.tail_end
  have moved (after : Bytes) : (nb.netBufPush eDataBuf len).2.inMemory base after =
      ((nb.inMemory base after).netBufPush eDataBuf len).2 := by
    rw [nb.push_data len enough,NetBuf.push_data (nb.inMemory base after) len enough]
    rfl
  refine ⟨NetBuf.partition_push nb partition eDataBuf len,?_,?_,?_⟩
  · rw [nb.push_data len enough]
  · rw [nb.push_data len enough,chunk_length]
    dsimp only
    rw [UInt32.toNat_sub_of_le _ _ (UInt32.not_lt.mp enough)]
    omega
  · have copied := NetBuf.data_push (nb.inMemory base (copyBytes memory
      (base + nb.tailBuf.offset.toNat) memory payload len.toNat)) (partition.inMemory _ _) len enough
    rw [moved,copied]
    unfold NetBuf.data NetBuf.inMemory
    dsimp only
    rw [partition.dataLen_eq]
    congr 1
    · apply chunk_congr
      intro i bound
      exact if_neg (by omega)
    · apply chunk_congr
      intro i bound
      unfold copyBytes
      rw [if_pos (by omega)]
      congr 1
      omega

theorem Appended.trans {nb nb' nb'' : NetBuf} {memory memory' memory'' : Bytes} {first later : Block}
    (one : Appended base nb memory first nb' memory')
    (rest : Appended base nb' memory' later nb'' memory'') :
    Appended base nb memory (first ++ later) nb'' memory'' := by
  refine ⟨rest.partition,rest.len.trans one.len,?_,?_⟩
  · have room := one.room
    rw [List.length_append,← room,← rest.room]
    omega
  · rw [rest.data,one.data,List.append_assoc]

omit pool in
theorem chainBytes_cons (tmp : Pbuf) (rest : List Pbuf) :
    chainBytes memory (tmp::rest) = tmp.bytes memory ++ chainBytes memory rest := List.flatMap_cons

theorem copied_outside (nb : NetBuf) (partition : nb.Partition)
    (apart : ∀ i < nb.len.toNat, ¬ pool (base + i)) (payload n : Nat)
    (fits : n ≤ nb.tailBuf.len.toNat) (a : Nat) (inside : pool a) :
    copyBytes memory (base + nb.tailBuf.offset.toNat) memory payload n a = memory a := by
  apply if_neg
  rintro ⟨low,high⟩
  have tail_end := partition.tail_end
  apply apart (a - base) (by omega)
  rwa [Nat.add_sub_cancel' (by omega)]

/-- The loop appends all segments or, where they do not all fit, ends with no buffer; it writes
only into the buffer. -/
theorem copyPbufs_spec (chain : List Pbuf) (nb : NetBuf) (memory : Bytes) (partition : nb.Partition)
    (apart : ∀ i < nb.len.toNat, ¬ pool (base + i)) (inPool : ChainIn pool chain) :
    (∀ a, pool a → (copyPbufs base chain nb.tailBuf.offset nb memory).2 a = memory a) ∧
      if (chainBytes memory chain).length ≤ nb.tailBuf.len.toNat then
        ∃ nb', (copyPbufs base chain nb.tailBuf.offset nb memory).1 = some nb' ∧
          Appended base nb memory (chainBytes memory chain) nb'
            (copyPbufs base chain nb.tailBuf.offset nb memory).2
      else (copyPbufs base chain nb.tailBuf.offset nb memory).1 = none := by
  induction chain generalizing nb memory with
  | nil =>
    have fits : (chainBytes memory []).length ≤ nb.tailBuf.len.toNat := Nat.zero_le _
    refine ⟨fun a _ => rfl,?_⟩
    rw [if_pos fits]
    exact ⟨nb,rfl,partition,rfl,rfl,(List.append_nil _).symm⟩
  | cons tmp rest ih =>
    have later : ChainIn pool rest := fun q member => inPool q (List.mem_cons_of_mem tmp member)
    unfold copyPbufs
    cases place : tmp.payload with
    | none =>
      have nothing : tmp.bytes memory = [] := by simp [Pbuf.bytes,place]
      rw [chainBytes_cons,nothing,List.nil_append]
      exact ih nb memory partition apart later
    | some payload =>
      have bytes : tmp.bytes memory = chunk memory payload tmp.len.toNat := by
        simp [Pbuf.bytes,place]
      rw [chainBytes_cons,bytes]
      dsimp only
      by_cases nothing : tmp.len = 0
      · have empty : chunk memory payload tmp.len.toNat = [] := by
          rw [nothing]
          rfl
        rw [if_pos nothing,empty,List.nil_append]
        exact ih nb memory partition apart later
      · have whole : tmp.len.toUInt32.toNat = tmp.len.toNat := UInt16.toNat_toUInt32 _
        have bound := tmp.len.toNat_lt
        have some_byte : 0 < tmp.len.toNat := by
          apply Nat.pos_of_ne_zero
          exact fun none => nothing (UInt16.toNat_inj.mp none)
        rw [if_neg nothing,List.length_append,chunk_length]
        by_cases refused : nb.tailBuf.len < tmp.len.toUInt32
        · have short := UInt32.lt_iff_toNat_lt.mp refused
          rw [if_pos refused,if_neg (by omega)]
          exact ⟨fun a _ => rfl,rfl⟩
        · have copied := memcpyS_whole memory (base + nb.tailBuf.offset.toNat) memory payload
            tmp.len.toNat some_byte (by unfold secureMemMaxLen; omega)
          have one : Appended base nb memory (chunk memory payload tmp.len.toNat) _ _ :=
            whole ▸ push_appended nb partition tmp.len.toUInt32 refused payload
          have next : nb.tailBuf.offset + tmp.len.toUInt32 =
              (nb.netBufPush eDataBuf tmp.len.toUInt32).2.tailBuf.offset := by
            rw [nb.push_data _ refused]
          have fits := UInt32.le_iff_toNat_le.mp (UInt32.not_lt.mp refused)
          have kept := @copied_outside pool base memory nb partition apart payload tmp.len.toNat
            (by omega)
          have same := chainBytes_congr rest later kept
          obtain ⟨frame,done⟩ := ih _ _ one.partition (one.len ▸ apart) later
          rw [if_neg refused,copied]
          dsimp only
          rw [if_neg (by decide),next]
          refine ⟨fun a inside => (frame a inside).trans (kept a inside),?_⟩
          have room := one.room
          rw [chunk_length] at room
          rw [same] at done
          split at done
          next fits =>
            obtain ⟨nb',result,appended⟩ := done
            rw [if_pos (by omega)]
            exact ⟨nb',result,one.trans appended⟩
          next short =>
            rw [if_neg (by omega)]
            exact done

end Loop

/-- A buffer for so long a chain is given and has room for so many bytes. -/
def NetBufDevAlloc.Takes {pool : Nat → Prop} (dev : NetBufDevAlloc pool) (totLen : UInt16)
    (n : Nat) : Prop :=
  ∃ base nb, dev.alloc totLen.toUInt32 = some (base,nb) ∧ n ≤ nb.tailBuf.len.toNat

/-- What is expected of a chain's conversion: the buffer has the frame, a failure leaves nothing
allocated, and the chain is as it was. -/
structure ConversionSound (pad : EthPadSize) (pool : Nat → Prop) (memory : Bytes)
    (chain : List Pbuf) (done : Converted NetBuf) : Prop where
  frame : ∀ nb, done.result = some nb → nb.data = frameBytes pad memory chain
  freed : done.result = none → done.events.count .allocNetBuf = done.events.count .freeNetBuf
  kept : ∀ a, pool a → done.memory a = memory a

/-- A buffer that is made a chain and then a buffer again has its data still. -/
def RoundTrip {pool : Nat → Prop} (pad : EthPadSize) (pbufs : PbufAlloc pool)
    (dev : NetBufDevAlloc pool) (memory : Bytes) (base : Nat) (nb : NetBuf) : Prop :=
  ∀ p, (netBuf2Pbuf pad pbufs.alloc base nb memory).result = some p → ∀ nb',
    (pbuf2NetBuf dev.alloc [p] (netBuf2Pbuf pad pbufs.alloc base nb memory).memory).result =
      some nb' → nb'.data = (nb.inMemory base memory).data

/-- A buffer that a chain of one segment is made of: it has data, not too much with the padding,
and the segment is given. -/
def Converts {pool : Nat → Prop} (pad : EthPadSize) (pbufs : PbufAlloc pool) (nb : NetBuf) : Prop :=
  0 < nb.dataLen.toNat ∧ nb.dataLen.toNat + pad ≤ 65535 ∧
    ∃ payload, pbufs.alloc (UInt16.ofNat (nb.dataLen.toNat + pad)) = some payload

section Conversion
variable {pool : Nat → Prop} (dev : NetBufDevAlloc pool) (memory : Bytes)

/-- The conversion of a chain gives all its bytes, the padding too, or no buffer. -/
theorem pbuf2NetBuf_spec (lwipBuf : Pbuf) (rest : List Pbuf)
    (inPool : ChainIn pool (lwipBuf::rest)) :
    (∀ a, pool a → (pbuf2NetBuf dev.alloc (lwipBuf::rest) memory).memory a = memory a) ∧
      (dev.Takes lwipBuf.totLen (chainBytes memory (lwipBuf::rest)).length →
        ∃ nb, (pbuf2NetBuf dev.alloc (lwipBuf::rest) memory).result = some nb ∧
          nb.data = chainBytes memory (lwipBuf::rest)) ∧
      (¬ dev.Takes lwipBuf.totLen (chainBytes memory (lwipBuf::rest)).length →
        (pbuf2NetBuf dev.alloc (lwipBuf::rest) memory).result = none ∧
          (pbuf2NetBuf dev.alloc (lwipBuf::rest) memory).events.count .allocNetBuf =
            (pbuf2NetBuf dev.alloc (lwipBuf::rest) memory).events.count .freeNetBuf) := by
  cases given : dev.alloc lwipBuf.totLen.toUInt32 with
  | none =>
    simp only [pbuf2NetBuf,given]
    refine ⟨fun _ _ => trivial,?_,fun _ => ⟨trivial,rfl⟩⟩
    rintro ⟨base,nb,same,_⟩
    rw [given] at same
    exact nomatch same
  | some buffer =>
    obtain ⟨base,nb⟩ := buffer
    have partition := dev.partition given
    have dataless := dev.dataless given
    have start : nb.dataBuf.offset = nb.tailBuf.offset := by
      have data_end := partition.data_end
      rw [← partition.dataLen_eq,dataless] at data_end
      exact UInt32.toNat_inj.mp data_end
    have takes : dev.Takes lwipBuf.totLen (chainBytes memory (lwipBuf::rest)).length ↔
        (chainBytes memory (lwipBuf::rest)).length ≤ nb.tailBuf.len.toNat := by
      constructor
      · rintro ⟨_,_,same,room⟩
        obtain ⟨rfl,rfl⟩ := Prod.mk.inj (Option.some.inj (given.symm.trans same))
        exact room
      · exact fun room => ⟨base,nb,given,room⟩
    have before : (nb.inMemory base memory).data = [] := by
      unfold NetBuf.data NetBuf.inMemory
      dsimp only
      rw [dataless]
      rfl
    obtain ⟨frame,done⟩ := copyPbufs_spec (lwipBuf::rest) nb memory partition (dev.apart given) inPool
    rw [takes]
    simp only [pbuf2NetBuf,given,start]
    split at done
    next fits =>
      obtain ⟨nb',result,appended⟩ := done
      simp only [result]
      refine ⟨frame,fun _ => ⟨_,rfl,?_⟩,fun short => absurd fits short⟩
      rw [appended.data,before,List.nil_append]
    next short =>
      simp only [done]
      exact ⟨frame,fun fits => absurd fits short,fun _ => ⟨trivial,rfl⟩⟩

theorem frameBytes_eq_iff (pad : EthPadSize) (chain : List Pbuf) :
    chainBytes memory chain = frameBytes pad memory chain ↔
      pad = 0 ∨ (chainBytes memory chain).length = 0 := by
  unfold frameBytes
  constructor
  · intro same
    have lengths := congrArg List.length same
    rw [List.length_drop] at lengths
    rcases Nat.eq_zero_or_pos (chainBytes memory chain).length with none | some_byte
    · exact .inr none
    · exact .inl (Fin.ext (by show (pad : Nat) = 0; omega))
  · rintro (rfl | none)
    · rfl
    · rw [List.length_eq_zero_iff.mp none,List.drop_nil]

def NetBufDevAlloc.TakesChain (chain : List Pbuf) : Prop :=
  ∃ lwipBuf ∈ chain.head?, dev.Takes lwipBuf.totLen (chainBytes memory chain).length

theorem chain_sound_iff (pad : EthPadSize) (chain : List Pbuf) (inPool : ChainIn pool chain) :
    ConversionSound pad pool memory chain (pbuf2NetBuf dev.alloc chain memory) ↔
      pad = 0 ∨ (chainBytes memory chain).length = 0 ∨ ¬ dev.TakesChain memory chain := by
  cases chain with
  | nil =>
    have nothing : ConversionSound pad pool memory [] (pbuf2NetBuf dev.alloc [] memory) :=
      ⟨fun _ absent => (nomatch absent),fun _ => rfl,fun _ _ => rfl⟩
    exact ⟨fun _ => .inr (.inl rfl),fun _ => nothing⟩
  | cons lwipBuf rest =>
    obtain ⟨kept,takes,refuses⟩ := pbuf2NetBuf_spec dev memory lwipBuf rest inPool
    have first : dev.TakesChain memory (lwipBuf::rest) ↔
        dev.Takes lwipBuf.totLen (chainBytes memory (lwipBuf::rest)).length := by
      simp [NetBufDevAlloc.TakesChain]
    rw [first,← or_assoc,← frameBytes_eq_iff memory pad]
    by_cases taken : dev.Takes lwipBuf.totLen (chainBytes memory (lwipBuf::rest)).length
    · obtain ⟨nb,result,data⟩ := takes taken
      constructor
      · intro sound
        exact .inl (data.symm.trans (sound.frame nb result))
      · rintro (same | refused)
        · refine ⟨fun nb' also => ?_,fun none => ?_,kept⟩
          · obtain rfl := Option.some.inj (result.symm.trans also)
            exact data.trans same
          · rw [result] at none
            exact nomatch none
        · exact absurd taken refused
    · obtain ⟨result,freed⟩ := refuses taken
      refine ⟨fun _ => .inr taken,fun _ => ⟨fun nb given => ?_,fun _ => freed,kept⟩⟩
      rw [result] at given
      exact nomatch given

variable (pbufs : PbufAlloc pool)

theorem size_of_converts (pad : EthPadSize) (nb : NetBuf) :
    (nb.netBufGetDataLen + UInt32.ofNat pad).toNat = (nb.dataLen.toNat + pad) % 2^32 := by
  have small := pad.isLt
  unfold NetBuf.netBufGetDataLen
  rw [UInt32.toNat_add,UInt32.toNat_ofNat',Nat.mod_eq_of_lt (show (pad : Nat) < 2^32 by omega)]

theorem toUInt16_of_small (size : UInt32) (n : Nat) (same : size.toNat = n) :
    size.toUInt16 = UInt16.ofNat n := by
  apply UInt16.toNat_inj.mp
  rw [UInt32.toNat_toUInt16,UInt16.toNat_ofNat',same]

theorem size_of_short (pad : EthPadSize) (nb : NetBuf) (short : nb.dataLen.toNat + pad < 2^32) :
    (nb.netBufGetDataLen + UInt32.ofNat pad).toNat = nb.dataLen.toNat + pad := by
  rw [size_of_converts,Nat.mod_eq_of_lt short]

/-- A buffer that no chain can be made of is refused, whatever the sum wraps to. -/
theorem netBuf2Pbuf_refused (pad : EthPadSize) (base : Nat) (nb : NetBuf)
    (refused : ¬ Converts pad pbufs nb) :
    (netBuf2Pbuf pad pbufs.alloc base nb memory).result = none := by
  have size := size_of_converts pad nb
  have small := pad.isLt
  have most : maxConversionLen.toNat = 65535 := rfl
  simp only [netBuf2Pbuf]
  split_ifs with long
  · rfl
  · have short := UInt32.le_iff_toNat_le.mp (UInt32.not_lt.mp long)
    split
    next => rfl
    next payload given =>
      rw [if_pos]
      intro copied
      obtain ⟨some_byte,limit,_⟩ := (memcpyS_eok_iff _ _ _ _ _ _).mp copied
      unfold NetBuf.netBufGetDataLen at some_byte limit
      unfold secureMemMaxLen at limit
      have whole := size_of_short pad nb (by omega)
      rw [toUInt16_of_small _ _ whole] at given
      exact refused ⟨some_byte,by omega,payload,given⟩

/-- Of any other buffer a segment is made, with its data behind the padding. -/
theorem netBuf2Pbuf_made (pad : EthPadSize) (base : Nat) (nb : NetBuf)
    (converts : Converts pad pbufs nb) : ∃ payload,
      (netBuf2Pbuf pad pbufs.alloc base nb memory).result =
        some ⟨some payload,UInt16.ofNat (nb.dataLen.toNat + pad),
          UInt16.ofNat (nb.dataLen.toNat + pad)⟩ ∧
      (∀ i < nb.dataLen.toNat + pad, pool (payload + i)) ∧
      chunk (netBuf2Pbuf pad pbufs.alloc base nb memory).memory (payload + pad) nb.dataLen.toNat =
        (nb.inMemory base memory).data := by
  obtain ⟨some_byte,short,payload,given⟩ := converts
  have most : maxConversionLen.toNat = 65535 := rfl
  have len : nb.netBufGetDataLen = nb.dataLen := rfl
  have whole := size_of_short pad nb (by omega)
  have allowed : ¬ maxConversionLen < nb.netBufGetDataLen + UInt32.ofNat pad := by
    rw [UInt32.lt_iff_toNat_lt]
    omega
  have copied := memcpyS_whole memory (payload + pad) memory (base + nb.dataBuf.offset.toNat)
    nb.dataLen.toNat some_byte (by unfold secureMemMaxLen; omega)
  have done : netBuf2Pbuf pad pbufs.alloc base nb memory =
      ⟨some ⟨some payload,UInt16.ofNat (nb.dataLen.toNat + pad),
          UInt16.ofNat (nb.dataLen.toNat + pad)⟩,
        copyBytes memory (payload + pad) memory (base + nb.dataBuf.offset.toNat) nb.dataLen.toNat,
        [.readNetBuf,.allocPbuf,.readNetBuf]⟩ := by
    unfold netBuf2Pbuf
    dsimp only
    rw [if_neg allowed,toUInt16_of_small _ _ whole,given]
    dsimp only
    rw [len,copied,if_neg (not_not.mpr rfl)]
  rw [done]
  refine ⟨payload,rfl,fun i bound => ?_,?_⟩
  · apply pbufs.within given
    rw [UInt16.toNat_ofNat']
    omega
  · dsimp only
    rw [chunk_copyBytes_self]
    apply chunk_congr
    intro i _
    rw [Nat.add_assoc]
    rfl

omit pool in
theorem chainBytes_single (payload n : Nat) (small : n < 2^16) :
    chainBytes memory [⟨some payload,UInt16.ofNat n,UInt16.ofNat n⟩] = chunk memory payload n := by
  have length : (UInt16.ofNat n).toNat = n := UInt16.toNat_ofNat_of_lt' small
  rw [chainBytes_cons]
  unfold Pbuf.bytes chainBytes
  dsimp only
  rw [length,List.flatMap_nil,List.append_nil]

/-- The padding comes back with the data, where the conversions both ways succeed. -/
theorem roundTrip_iff (pad : EthPadSize) (base : Nat) (nb : NetBuf) :
    RoundTrip pad pbufs dev memory base nb ↔ pad = 0 ∨ ¬ (Converts pad pbufs nb ∧
      dev.Takes (UInt16.ofNat (nb.dataLen.toNat + pad)) (nb.dataLen.toNat + pad)) := by
  unfold RoundTrip
  by_cases converts : Converts pad pbufs nb
  · obtain ⟨payload,made,inPool,data⟩ := netBuf2Pbuf_made memory pbufs pad base nb converts
    generalize (netBuf2Pbuf pad pbufs.alloc base nb memory).memory = after at data ⊢
    have short := converts.2.1
    have length : (UInt16.ofNat (nb.dataLen.toNat + pad)).toNat = nb.dataLen.toNat + pad := by
      rw [UInt16.toNat_ofNat',Nat.mod_eq_of_lt (by omega)]
    have chainIn : ChainIn pool [⟨some payload,UInt16.ofNat (nb.dataLen.toNat + pad),
        UInt16.ofNat (nb.dataLen.toNat + pad)⟩] := by
      intro p member address place i bound
      obtain rfl := List.mem_singleton.mp member
      obtain rfl := Option.some.inj place
      exact inPool i (length ▸ bound)
    obtain ⟨_,takes,refused⟩ := pbuf2NetBuf_spec dev after _ [] chainIn
    rw [chainBytes_single after payload _ (by omega),chunk_length] at takes refused
    have bytes : chunk after payload (nb.dataLen.toNat + pad) =
        chunk after payload pad ++ (nb.inMemory base memory).data := by
      rw [← data,chunk_append,Nat.add_comm (pad : Nat)]
    rw [made]
    by_cases taken : dev.Takes (UInt16.ofNat (nb.dataLen.toNat + pad)) (nb.dataLen.toNat + pad)
    · obtain ⟨nb',result,all⟩ := takes taken
      rw [bytes] at all
      constructor
      · intro trip
        have equal := trip _ rfl nb' result
        rw [all] at equal
        have lengths := congrArg List.length equal
        rw [List.length_append,chunk_length] at lengths
        exact .inl (Fin.ext (by show (pad : Nat) = 0; omega))
      · rintro (rfl | refused)
        · intro q first nb'' also
          obtain rfl := Option.some.inj first
          obtain rfl := Option.some.inj (result.symm.trans also)
          exact all
        · exact absurd ⟨converts,taken⟩ refused
    · refine ⟨fun _ => .inr fun both => taken both.2,fun _ q first nb' also => ?_⟩
      obtain rfl := Option.some.inj first
      rw [(refused taken).1] at also
      exact nomatch also
  · refine ⟨fun _ => .inr fun both => converts both.1,fun _ p made => ?_⟩
    rw [netBuf2Pbuf_refused memory pbufs pad base nb converts] at made
    exact nomatch made

/-- Chains and buffers keep their frames on the way where there is no padding to come along. -/
theorem conversions_sound_iff (pad : EthPadSize) :
    (∀ chain, ChainIn pool chain →
        (ConversionSound pad pool memory chain (pbuf2NetBuf dev.alloc chain memory) ↔
          pad = 0 ∨ (chainBytes memory chain).length = 0 ∨ ¬ dev.TakesChain memory chain)) ∧
      ∀ base nb, RoundTrip pad pbufs dev memory base nb ↔
        pad = 0 ∨ ¬ (Converts pad pbufs nb ∧
          dev.Takes (UInt16.ofNat (nb.dataLen.toNat + pad)) (nb.dataLen.toNat + pad)) :=
  ⟨chain_sound_iff dev memory pad,roundTrip_iff dev memory pbufs pad⟩

end Conversion

/-- lwIP has the first thousand bytes, where one segment is given. -/
def lwipPool (a : Nat) : Prop := a < 1000

def onePbuf : PbufAlloc lwipPool where
  alloc len := if len.toNat ≤ 1000 then some 0 else none
  within := by
    intro len payload given i bound
    split_ifs at given
    obtain rfl := Option.some.inj given
    show 0 + i < 1000
    omega

def freshNetBuf (len : UInt32) : NetBuf := ⟨fun _ => 0,len,0,⟨0,0⟩,⟨0,0⟩,⟨0,len⟩⟩

/-- Every buffer is new and begins behind the pool. -/
def freshNetBufs : NetBufDevAlloc lwipPool where
  alloc len := some (2000,freshNetBuf len)
  partition := by
    intro len base nb given
    obtain ⟨-,rfl⟩ := Prod.mk.inj (Option.some.inj given)
    exact ⟨rfl,rfl,rfl,Nat.zero_add _,rfl⟩
  dataless := by
    intro len base nb given
    obtain ⟨-,rfl⟩ := Prod.mk.inj (Option.some.inj given)
    rfl
  apart := by
    intro len base nb given i _ inside
    obtain ⟨rfl,-⟩ := Prod.mk.inj (Option.some.inj given)
    unfold lwipPool at inside
    omega

/-- Three bytes, which are one byte of a frame behind two of padding. -/
def paddedSegment : Pbuf := ⟨some 0,3,3⟩

theorem paddedSegment_inPool : ChainIn lwipPool [paddedSegment] := by
  intro p member payload place i bound
  obtain rfl := List.mem_singleton.mp member
  obtain rfl := Option.some.inj place
  have short : i < 3 := bound
  show 0 + i < 1000
  omega

theorem paddedSegment_taken : freshNetBufs.TakesChain (fun _ => 0) [paddedSegment] := by
  refine ⟨paddedSegment,rfl,2000,freshNetBuf 3,rfl,?_⟩
  decide

/-- Every byte of the pool is its own, and a frame lies in two pieces of it. -/
def numbered (a : Nat) : UInt8 := UInt8.ofNat (a + 1)

def twoSegments : List Pbuf := [⟨some 0,3,5⟩,⟨some 100,2,2⟩]

theorem conversions_sound_unpadded :
    ConversionSound 0 lwipPool numbered twoSegments
        (pbuf2NetBuf freshNetBufs.alloc twoSegments numbered) ∧
      (pbuf2NetBuf freshNetBufs.alloc twoSegments numbered).result.map NetBuf.data =
        some [1,2,3,101,102] := by
  have inPool : ChainIn lwipPool twoSegments := by
    intro p member payload place i bound
    rcases List.mem_pair.mp member with rfl | rfl
    · obtain rfl := Option.some.inj place
      have short : i < 3 := bound
      show 0 + i < 1000
      omega
    · obtain rfl := Option.some.inj place
      have short : i < 2 := bound
      show 100 + i < 1000
      omega
  exact ⟨((conversions_sound_iff freshNetBufs numbered onePbuf 0).1 twoSegments inPool).mpr
    (.inl rfl),by decide⟩

/-- With two bytes of padding they are taken for data, and one byte comes back as three. -/
theorem padding_becomes_data :
    (freshNetBufs.TakesChain (fun _ => 0) [paddedSegment] ∧
      ¬ ConversionSound 2 lwipPool (fun _ => 0) [paddedSegment]
        (pbuf2NetBuf freshNetBufs.alloc [paddedSegment] fun _ => 0)) ∧
    ¬ RoundTrip 2 onePbuf freshNetBufs (fun _ => 0) 3000
      ((freshNetBuf 100).netBufPush eDataBuf 1).2 := by
  refine ⟨⟨paddedSegment_taken,?_⟩,?_⟩
  · rw [chain_sound_iff freshNetBufs _ 2 _ paddedSegment_inPool]
    rintro (padded | empty | refused)
    · exact absurd padded (by decide)
    · exact absurd empty (by decide)
    · exact refused paddedSegment_taken
  · rw [roundTrip_iff]
    rintro (padded | refused)
    · exact absurd padded (by decide)
    · apply refused
      exact ⟨⟨by decide,by decide,0,rfl⟩,2000,freshNetBuf 3,rfl,by decide⟩

end DriversAdapter.Net
