import Mathlib.Data.List.Basic

/-! A two-wire bus with one master: what passes on it, and a listener that puts it together to frames
of an address, a direction and bytes. -/
namespace DriversAdapter.Semantics.TwoWire

/-- The master sends a byte, or takes one and tells whether it wants another. -/
inductive Signal
  | start
  | sent (byte : UInt8)
  | received (byte : UInt8) (ack : Bool)
  | stop
  deriving DecidableEq

structure Frame where
  address : UInt8
  reads : Bool
  bytes : List UInt8
  deriving DecidableEq

inductive Phase
  | idle
  | begun
  | writing (address : UInt8) (bytes : List UInt8)
  | reading (address : UInt8) (bytes : List UInt8) (more : Bool)
  | broken
  deriving DecidableEq

structure Listener where
  phase : Phase
  frames : List Frame

/-- The first byte after a start has the address above the direction. The master takes bytes up to
the first one that it does not acknowledge, and stops there. -/
def Listener.hear (l : Listener) : Signal → Listener
  | .start => match l.phase with
    | .idle => {l with phase := .begun}
    | _ => {l with phase := .broken}
  | .sent byte => match l.phase with
    | .begun =>
      if byte &&& 1 = 0 then {l with phase := .writing (byte >>> 1) []}
      else {l with phase := .reading (byte >>> 1) [] true}
    | .writing address bytes => {l with phase := .writing address (bytes ++ [byte])}
    | _ => {l with phase := .broken}
  | .received byte ack => match l.phase with
    | .reading address bytes true => {l with phase := .reading address (bytes ++ [byte]) ack}
    | _ => {l with phase := .broken}
  | .stop => match l.phase with
    | .writing address bytes => ⟨.idle,l.frames ++ [⟨address,false,bytes⟩]⟩
    | .reading address bytes more =>
      if bytes = [] ∨ more = false then ⟨.idle,l.frames ++ [⟨address,true,bytes⟩]⟩
      else {l with phase := .broken}
    | _ => {l with phase := .broken}

/-- The byte that addresses a device, with the direction below. -/
def header (address : UInt8) (reads : Bool) : UInt8 :=
  if reads then address <<< 1 ||| 1 else address <<< 1

theorem low_bits (i : Nat) (bound : i < 8) : (127#8)[i] = decide (i < 7) := by
  have ones := Nat.testBit_two_pow_sub_one 7 i
  rw [← BitVec.getLsbD_eq_getElem,BitVec.getLsbD_ofNat]
  simp only [Nat.reducePow,Nat.add_one_sub_one] at ones
  simp [ones,bound]

theorem header_write (address : UInt8) : header address false &&& 1 = 0 := by
  apply UInt8.toBitVec_inj.1
  ext i bound
  simp [header]
  grind

theorem header_read (address : UInt8) : header address true &&& 1 ≠ 0 := by
  have odd : header address true &&& 1 = 1 := by
    apply UInt8.toBitVec_inj.1
    ext i bound
    simp [header]
    grind
  rw [odd]
  decide

/-- Seven bits of the address go over the bus. -/
theorem header_address (address : UInt8) (reads : Bool) :
    header address reads >>> 1 = address &&& 0x7f := by
  apply UInt8.toBitVec_inj.1
  ext i bound
  cases reads with
  | false =>
    simp [header,low_bits]
    grind
  | true =>
    simp [header,low_bits]
    grind

/-- An address begins a frame. -/
theorem hear_header (address : UInt8) (reads : Bool) (frames : List Frame) :
    Listener.hear ⟨.begun,frames⟩ (.sent (header address reads)) = ⟨if reads then
      .reading (address &&& 0x7f) [] true else .writing (address &&& 0x7f) [],frames⟩ := by
  simp only [Listener.hear,header_address]
  cases reads with
  | false => simp [header_write]
  | true => simp [header_read]

end DriversAdapter.Semantics.TwoWire
