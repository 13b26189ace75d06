import DriversAdapter.Net.Pbuf

/-! The way of a received buffer to lwIP. The driver has only the status to tell by whether the
buffer is its own still. -/
namespace DriversAdapter.Net
open DriversAdapter.Base

/-- What the headers of the driver framework fix. -/
structure FrameCodes where
  ethernetLink : UInt32
  maxReceiveFlag : UInt32
  etherTypeOffset : Nat
  etherTypeIp : UInt16
  etherTypeArp : UInt16
  etherTypeRarp : UInt16
  etherTypeIpv6 : UInt16
  etherType6lo : UInt16
  etherTypePae : UInt16

structure NetDevice where
  linkLayerType : UInt32

structure NetDeviceAdapterLite (Netif : Type) where
  lwipNetif : Option Netif

structure NetDeviceImpl (Netif : Type) where
  netDevice : NetDevice
  osPrivate : Option (NetDeviceAdapterLite Netif)

inductive ProcessingResult
  | processingError
  | processingContinue
  | processingComplete

abbrev Buff := Option (Nat × NetBuf)

structure Received where
  ret : Int
  memory : Bytes
  events : List BufEvent

def netBufFree : Buff → List BufEvent
  | none => []
  | some _ => [.freeNetBuf]

section Code
variable {Netif : Type} (codes : FrameCodes) (pad : EthPadSize) (pbufAlloc : UInt16 → Option Nat)
  (memory : Bytes)

def getNetIfFromDevImpl : Option (NetDeviceImpl Netif) → Option Netif
  | none => none
  | some impl => match impl.osPrivate with
    | none => none
    | some liteNdPri => liteNdPri.lwipNetif

def converNetBufToPBuf : Buff → Converted Pbuf
  | none => ⟨none,memory,[]⟩
  | some (base,nb) => netBuf2Pbuf pad pbufAlloc base nb memory

/-- The type in the header at the start of the data, from the order of the network. -/
def etherType (base : Nat) (nb : NetBuf) : UInt16 :=
  let place := base + nb.dataBuf.offset.toNat + codes.etherTypeOffset
  UInt16.ofNat ((memory place).toNat * 2^8 + (memory (place + 1)).toNat)

/-- The link is Ethernet or the type is one of those that are taken from any link. -/
def Accepted (lwipNd : NetDevice) (etherType : UInt16) : Prop :=
  lwipNd.linkLayerType = codes.ethernetLink ∨ etherType = codes.etherTypeIp ∨
    etherType = codes.etherTypeArp ∨ etherType = codes.etherTypeRarp ∨
    etherType = codes.etherTypeIpv6 ∨ etherType = codes.etherType6lo ∨
    etherType = codes.etherTypePae

instance (lwipNd : NetDevice) (etherType : UInt16) : Decidable (Accepted codes lwipNd etherType) :=
  inferInstanceAs (Decidable (_ ∨ _))

def liteNetDevDataFilter (netDeviceImpl : Option (NetDeviceImpl Netif)) (buff : Buff) :
    ProcessingResult × List BufEvent :=
  match netDeviceImpl, buff with
  | some impl, some (base,nb) =>
    if Accepted codes impl.netDevice (etherType codes memory base nb) then
      (.processingContinue,[.readNetBuf])
    else (.processingComplete,.readNetBuf::netBufFree buff)
  | _, _ => (.processingError,[])

def liteNetDevDataReceive (netDeviceImpl : Option (NetDeviceImpl Netif)) (buff : Buff) : Received :=
  match getNetIfFromDevImpl netDeviceImpl with
  | none => ⟨hdfErrInvalidParam,memory,netBufFree buff⟩
  | some _ =>
    let pBuff := converNetBufToPBuf pad pbufAlloc memory buff
    match pBuff.result with
    | none => ⟨hdfFailure,pBuff.memory,pBuff.events ++ netBufFree buff⟩
    | some _ => ⟨hdfSuccess,pBuff.memory,pBuff.events ++ .driverifInput::netBufFree buff⟩

def liteNetDevReceive (netDeviceImpl : Option (NetDeviceImpl Netif)) (buff : Buff)
    (flag : UInt32) : Received :=
  if codes.maxReceiveFlag ≤ flag then ⟨hdfErrInvalidParam,memory,[]⟩
  else match getNetIfFromDevImpl netDeviceImpl, buff with
  | some _, some _ =>
    let ret := liteNetDevDataFilter codes memory netDeviceImpl buff
    match ret.1 with
    | .processingContinue =>
      let done := liteNetDevDataReceive pad pbufAlloc memory netDeviceImpl buff
      {done with events := ret.2 ++ done.events}
    | .processingComplete => ⟨hdfSuccess,memory,ret.2⟩
    | .processingError => ⟨hdfFailure,memory,ret.2⟩
  | _, _ => ⟨hdfErrInvalidParam,memory,[]⟩

end Code

/-- No read of the buffer stands behind its release. -/
def NeverReadFreed (events : List BufEvent) : Prop :=
  events.Pairwise fun earlier later => earlier = .freeNetBuf → later ≠ .readNetBuf

/-- The buffer is still held, lwIP got so many segments, and no other segment is left. -/
structure Held (events : List BufEvent) (handed : Nat) : Prop where
  held : .freeNetBuf ∉ events
  input : events.count .driverifInput = handed
  balanced : events.count .allocPbuf = events.count .freePbuf + handed

theorem neverReadFreed_of_held (events : List BufEvent) (held : .freeNetBuf ∉ events) :
    NeverReadFreed (events ++ [.freeNetBuf]) := by
  apply List.pairwise_append.mpr
  refine ⟨?_,List.pairwise_singleton _ _,?_⟩
  · apply List.pairwise_of_forall_mem_list
    intro earlier member later _ freed
    exact absurd (freed ▸ member) held
  · intro earlier member later _ freed
    exact absurd (freed ▸ member) held

theorem Held.append {first later : List BufEvent} {m n : Nat} (one : Held first m)
    (rest : Held later n) : Held (first ++ later) (m + n) := by
  refine ⟨?_,?_,?_⟩
  · intro member
    exact (List.mem_append.mp member).elim one.held rest.held
  · rw [List.count_append,one.input,rest.input]
  · rw [List.count_append,List.count_append,one.balanced,rest.balanced]
    omega

theorem held_read : Held [.readNetBuf] 0 := ⟨by decide,rfl,rfl⟩

/-- What a call does with the buffer and the segments, by the status it ends with. -/
structure ReceiveOwned {Netif : Type} (codes : FrameCodes) (memory : Bytes)
    (netDeviceImpl : Option (NetDeviceImpl Netif)) (buff : Buff) (done : Received) : Prop where
  freed : done.events.count .freeNetBuf = if done.ret = hdfErrInvalidParam then 0 else 1
  unread : NeverReadFreed done.events
  once : done.events.count .driverifInput ≤ 1
  accepted : .driverifInput ∈ done.events → ∃ impl base nb, netDeviceImpl = some impl ∧
    buff = some (base,nb) ∧ Accepted codes impl.netDevice (etherType codes memory base nb)
  balanced : done.events.count .allocPbuf =
    done.events.count .freePbuf + done.events.count .driverifInput

section Ownership
variable {Netif : Type} (codes : FrameCodes) (pad : EthPadSize) (pbufAlloc : UInt16 → Option Nat)
  (memory : Bytes)

theorem netBuf2Pbuf_events (base : Nat) (nb : NetBuf) :
    match (netBuf2Pbuf pad pbufAlloc base nb memory).result with
    | none => Held (netBuf2Pbuf pad pbufAlloc base nb memory).events 0
    | some _ => Held ((netBuf2Pbuf pad pbufAlloc base nb memory).events ++ [.driverifInput]) 1 := by
  simp only [netBuf2Pbuf]
  by_cases long : maxConversionLen < nb.netBufGetDataLen + UInt32.ofNat pad
  · rw [if_pos long]
    exact held_read
  · rw [if_neg long]
    cases pbufAlloc (nb.netBufGetDataLen + UInt32.ofNat pad).toUInt16 with
    | none => exact held_read
    | some payload =>
      have failed : Held [.readNetBuf,.allocPbuf,.readNetBuf,.freePbuf] 0 := ⟨by decide,rfl,rfl⟩
      have done : Held [.readNetBuf,.allocPbuf,.readNetBuf,.driverifInput] 1 :=
        ⟨by decide,rfl,rfl⟩
      dsimp only
      split_ifs
      · exact failed
      · exact done

/-- With an interface the buffer is released last, whatever its conversion comes to. -/
theorem liteNetDevDataReceive_spec (netDeviceImpl : Option (NetDeviceImpl Netif)) (lwipNf : Netif)
    (present : getNetIfFromDevImpl netDeviceImpl = some lwipNf) (base : Nat) (nb : NetBuf) :
    (liteNetDevDataReceive pad pbufAlloc memory netDeviceImpl (some (base,nb))).ret ≠
        hdfErrInvalidParam ∧
      ∃ events handed, Held events handed ∧ handed ≤ 1 ∧
        (liteNetDevDataReceive pad pbufAlloc memory netDeviceImpl (some (base,nb))).events =
          events ++ [.freeNetBuf] := by
  have converted := netBuf2Pbuf_events pad pbufAlloc memory base nb
  unfold liteNetDevDataReceive
  rw [present]
  simp only [converNetBufToPBuf]
  split at converted
  next result =>
    have failed : hdfFailure ≠ hdfErrInvalidParam := by decide
    exact ⟨failed,_,0,converted,Nat.zero_le 1,rfl⟩
  next p result =>
    have done : hdfSuccess ≠ hdfErrInvalidParam := by decide
    refine ⟨done,_,1,converted,Nat.le_refl 1,?_⟩
    exact (List.append_assoc _ [_] _).symm

theorem receiveOwned_of_held {netDeviceImpl : Option (NetDeviceImpl Netif)} {buff : Buff}
    {ret : Int} {after : Bytes} (events : List BufEvent) (handed : Nat) (held : Held events handed)
    (most : handed ≤ 1) (kept : ret ≠ hdfErrInvalidParam)
    (accepted : 0 < handed → ∃ impl base nb, netDeviceImpl = some impl ∧
      buff = some (base,nb) ∧ Accepted codes impl.netDevice (etherType codes memory base nb)) :
    ReceiveOwned codes memory netDeviceImpl buff ⟨ret,after,events ++ [.freeNetBuf]⟩ := by
  have input : (events ++ [BufEvent.freeNetBuf]).count BufEvent.driverifInput = handed := by
    rw [List.count_append,held.input]
    rfl
  refine ⟨?_,neverReadFreed_of_held events held.held,input ▸ most,?_,?_⟩
  · rw [if_neg kept,List.count_append,List.count_eq_zero.mpr held.held]
    rfl
  · intro member
    apply accepted
    rw [← input]
    exact List.count_pos_iff.mpr member
  · rw [input,List.count_append,List.count_append,held.balanced]
    rfl

theorem receiveOwned_refused (netDeviceImpl : Option (NetDeviceImpl Netif)) (buff : Buff) :
    ReceiveOwned codes memory netDeviceImpl buff ⟨hdfErrInvalidParam,memory,[]⟩ :=
  ⟨rfl,List.Pairwise.nil,Nat.zero_le 1,fun member => (nomatch member),rfl⟩

theorem liteNetDevReceive_owned (netDeviceImpl : Option (NetDeviceImpl Netif)) (buff : Buff)
    (flag : UInt32) : ReceiveOwned codes memory netDeviceImpl buff
      (liteNetDevReceive codes pad pbufAlloc memory netDeviceImpl buff flag) := by
  unfold liteNetDevReceive
  split_ifs with high
  · exact receiveOwned_refused codes memory netDeviceImpl buff
  · cases buff with
    | none =>
      have refused := receiveOwned_refused codes memory netDeviceImpl none
      cases getNetIfFromDevImpl netDeviceImpl <;> exact refused
    | some buffer =>
      obtain ⟨base,nb⟩ := buffer
      cases netDeviceImpl with
      | none => exact receiveOwned_refused codes memory none _
      | some impl =>
        cases present : getNetIfFromDevImpl (some impl) with
        | none => exact receiveOwned_refused codes memory _ _
        | some lwipNf =>
          simp only [liteNetDevDataFilter]
          by_cases taken : Accepted codes impl.netDevice (etherType codes memory base nb)
          · rw [if_pos taken]
            obtain ⟨kept,events,handed,held,most,all⟩ :=
              liteNetDevDataReceive_spec pad pbufAlloc memory (some impl) lwipNf present base nb
            dsimp only
            rw [all,← List.append_assoc]
            apply receiveOwned_of_held codes memory _ handed _ most kept
            · exact fun _ => ⟨impl,base,nb,rfl,rfl,taken⟩
            · exact Nat.zero_add handed ▸ held_read.append held
          · rw [if_neg taken]
            have kept : hdfSuccess ≠ hdfErrInvalidParam := by decide
            exact receiveOwned_of_held codes memory [.readNetBuf] 0 held_read (Nat.zero_le 1) kept
              fun some_segment => absurd some_segment (Nat.lt_irrefl 0)

end Ownership

end DriversAdapter.Net
