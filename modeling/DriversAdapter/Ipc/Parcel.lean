import DriversAdapter.Semantics.Wire
import Mathlib.Algebra.Group.Nat.Hom
import Mathlib.Data.List.TakeWhile

/-! Message parcels as the buffers of the driver framework use them: integers and C strings,
each padded to whole words, and the parcel that packs them as bytes. -/
namespace DriversAdapter.Ipc
open DriversAdapter.Semantics

/-- The bytes in front of the terminating NUL. -/
structure CString where
  bytes : List UInt8
  no_nul : 0 ∉ bytes
  deriving DecidableEq

def CString.strlen (s : CString) : Nat := s.bytes.length

/-- The bytes in front of the first NUL. -/
def CString.upToNul (bytes : List UInt8) : CString :=
  ⟨bytes.takeWhile (· ≠ 0),fun nul => by simpa using List.mem_takeWhile_imp nul⟩

/-- The readers and writers of a `MessageParcel`. A string that loses a part of its padding
can still be read, with nothing behind it. -/
structure Parcel where
  uint16 : Format UInt8 UInt16
  uint32 : Format UInt8 UInt32
  int32 : Format UInt8 Int32
  cString : Format UInt8 CString
  accepts : List UInt8 → List UInt8 → Bool
  uint32_canonical : ∀ bytes, uint32.Canonical bytes
  int32_length : ∀ v, (int32.put v).length = 4
  int32_cut : ∀ v cut, cut <+: int32.put v → cut ≠ int32.put v → int32.get cut = none
  cString_cut : ∀ s cut, cut <+: cString.put s → cut ≠ cString.put s →
    cString.get cut = none ∨ cString.get cut = some (s,[])
  cString_word : ∀ bytes s rest, cString.get bytes = some (s,rest) →
    s.strlen < bytes.length ∧ rest.length ≤ bytes.length - 4

/-- What a call that writes answers, and the parcel it leaves. -/
abbrev Writer := List UInt8 → Bool × List UInt8

namespace Writer

def nothing : Writer := fun sbuf => (true,sbuf)

/-- The second call is made when the first one succeeds. -/
def andThen (first next : Writer) : Writer := fun sbuf =>
  if (first sbuf).1 = false then first sbuf else next (first sbuf).2

/-- Both calls are made and both have to succeed. -/
def both (first next : Writer) : Writer := fun sbuf =>
  ((first sbuf).1 && (next (first sbuf).2).1,(next (first sbuf).2).2)

/-- A call that succeeds has appended these bytes. -/
def Takes (w : Writer) (bytes : List UInt8) : Prop :=
  ∀ sbuf, (w sbuf).1 = true → (w sbuf).2 = sbuf ++ bytes

theorem andThen_taken (first next : Writer) (sbuf : List UInt8)
    (taken : (first.andThen next sbuf).1 = true) :
    (first sbuf).1 = true ∧ first.andThen next sbuf = next (first sbuf).2 := by
  unfold andThen at taken ⊢
  by_cases refused : (first sbuf).1 = false
  · rw [if_pos refused,refused] at taken
    contradiction
  · exact ⟨Bool.not_eq_false _ ▸ refused,if_neg refused⟩

theorem takes_andThen (first next : Writer) (a b : List UInt8) (left : first.Takes a)
    (right : next.Takes b) : (first.andThen next).Takes (a ++ b) := by
  intro sbuf taken
  obtain ⟨begun,same⟩ := andThen_taken first next sbuf taken
  rw [same] at taken ⊢
  rw [right _ taken,left sbuf begun,List.append_assoc]

theorem takes_both (first next : Writer) (a b : List UInt8) (left : first.Takes a)
    (right : next.Takes b) : (first.both next).Takes (a ++ b) := by
  intro sbuf taken
  obtain ⟨begun,ended⟩ := Bool.and_eq_true_iff.mp taken
  change (next (first sbuf).2).2 = _
  rw [right _ ended,left sbuf begun,List.append_assoc]

end Writer

namespace Parcel

variable (P : Parcel)

def write (bytes : List UInt8) : Writer := fun sbuf =>
  if P.accepts sbuf bytes then (true,sbuf ++ bytes) else (false,sbuf)

def writeUint16 (v : UInt16) : Writer := P.write (P.uint16.put v)

def writeUint32 (v : UInt32) : Writer := P.write (P.uint32.put v)

def writeInt32 (v : Int32) : Writer := P.write (P.int32.put v)

/-- `none` is the null pointer. -/
def writeString : Option CString → Writer
  | none => fun sbuf => (false,sbuf)
  | some s => P.write (P.cString.put s)

/-- A reader that fails stores 0 and leaves the parcel where it is. -/
def readUint16 (parcel : List UInt8) : Bool × UInt16 × List UInt8 :=
  match P.uint16.get parcel with
  | none => (false,0,parcel)
  | some (v,rest) => (true,v,rest)

def readUint32 (parcel : List UInt8) : Bool × UInt32 × List UInt8 :=
  match P.uint32.get parcel with
  | none => (false,0,parcel)
  | some (v,rest) => (true,v,rest)

def readInt32 (parcel : List UInt8) : Bool × Int32 × List UInt8 :=
  match P.int32.get parcel with
  | none => (false,0,parcel)
  | some (v,rest) => (true,v,rest)

theorem write_taken (bytes : List UInt8) : (P.write bytes).Takes bytes := by
  intro sbuf taken
  unfold write at taken ⊢
  split_ifs at taken ⊢
  rfl

/-- The same parcel without a limit. -/
def unlimited : Parcel := {P with accepts := fun _ _ => true}

@[simp] theorem unlimited_write (bytes sbuf : List UInt8) :
    P.unlimited.write bytes sbuf = (true,sbuf ++ bytes) := rfl

theorem cString_get_nil : P.cString.get [] = none := by
  cases got : P.cString.get [] with
  | none => rfl
  | some found => exact absurd (P.cString_word [] found.1 found.2 got).1 (Nat.not_lt_zero _)

end Parcel

/-- Four bytes, the lowest first. -/
def word (n : Nat) : List UInt8 :=
  [.ofNat n,.ofNat (n / 2^8),.ofNat (n / 2^16),.ofNat (n / 2^24)]

def readWord : List UInt8 → Option (Nat × List UInt8)
  | a::b::c::d::rest =>
    some (a.toNat + 2^8 * b.toNat + 2^16 * c.toNat + 2^24 * d.toNat,rest)
  | _ => none

theorem readWord_word (n : Nat) (small : n < 2^32) (rest : List UInt8) :
    readWord (word n ++ rest) = some (n,rest) := by
  simp only [word,List.cons_append,List.nil_append,readWord,UInt8.toNat_ofNat',Option.some.injEq,
    Prod.mk.injEq,and_true]
  omega

theorem readWord_some (bytes rest : List UInt8) (n : Nat) (got : readWord bytes = some (n,rest)) :
    n < 2^32 ∧ bytes = word n ++ rest := by
  match bytes, got with
  | a::b::c::d::left, got =>
    obtain ⟨rfl,rfl⟩ := Prod.mk.inj (Option.some.inj got)
    have ha := a.toNat_lt
    have hb := b.toNat_lt
    have hc := c.toNat_lt
    have hd := d.toNat_lt
    refine ⟨by omega,?_⟩
    simp only [word,List.cons_append,List.nil_append,List.cons.injEq,and_true]
    refine ⟨?_,?_,?_,?_⟩ <;>
    · rw [← UInt8.toNat_inj,UInt8.toNat_ofNat']
      omega

theorem readWord_short (bytes : List UInt8) (short : bytes.length < 4) : readWord bytes = none := by
  match bytes, short with
  | [], _ => rfl
  | [_], _ => rfl
  | [_,_], _ => rfl
  | [_,_,_], _ => rfl
  | _::_::_::_::_, short =>
    simp only [List.length_cons] at short
    omega

theorem readWord_cut (n : Nat) (cut : List UInt8) (prefixed : cut <+: word n)
    (short : cut ≠ word n) : readWord cut = none := by
  apply readWord_short
  have bound : cut.length ≤ 4 := prefixed.length_le
  have differs : cut.length ≠ 4 := fun same => short (prefixed.eq_of_length same)
  omega

/-- The bytes after a text of this length up to the next word. -/
def padding (len : Nat) : List UInt8 := List.replicate (3 - len % 4) 0

/-- A text, its NUL and the bytes up to the next word. -/
def readText (bytes : List UInt8) : Option (CString × List UInt8) :=
  if 0 ∈ bytes then
    some (CString.upToNul bytes,bytes.drop (4 * ((CString.upToNul bytes).strlen / 4 + 1)))
  else none

theorem upToNul_text (s : CString) (rest : List UInt8) :
    CString.upToNul (s.bytes ++ 0 :: rest) = s := by
  have bytes : (s.bytes ++ 0 :: rest).takeWhile (· ≠ 0) = s.bytes := by
    rw [List.takeWhile_append_of_pos]
    · simp
    · intro b member
      exact decide_eq_true (fun zero => s.no_nul (zero ▸ member))
  obtain ⟨text,no_nul⟩ := s
  unfold CString.upToNul
  simp only [bytes]

theorem readText_nul (s : CString) (rest : List UInt8) :
    readText (s.bytes ++ 0 :: rest) =
      some (s,(s.bytes ++ 0 :: rest).drop (4 * (s.strlen / 4 + 1))) := by
  unfold readText
  rw [if_pos (by simp),upToNul_text]

theorem text_length (s : CString) :
    (s.bytes ++ 0 :: padding s.strlen).length = 4 * (s.strlen / 4 + 1) := by
  rw [List.length_append,List.length_cons,padding,List.length_replicate]
  change s.strlen + _ = _
  omega

/-- Little-endian words, texts with their NUL, and no limit. -/
def messageParcel : Parcel where
  uint16 :=
    { put := fun v => word v.toNat
      get := fun bytes => (readWord bytes).map fun got => (UInt16.ofNat got.1,got.2)
      get_put := by
        intro v rest
        have small := v.toNat_lt
        rw [readWord_word v.toNat (by omega)]
        simp }
  uint32 :=
    { put := fun v => word v.toNat
      get := fun bytes => (readWord bytes).map fun got => (UInt32.ofNat got.1,got.2)
      get_put := by
        intro v rest
        rw [readWord_word v.toNat v.toNat_lt]
        simp }
  int32 :=
    { put := fun v => word v.toUInt32.toNat
      get := fun bytes => (readWord bytes).map fun got => ((UInt32.ofNat got.1).toInt32,got.2)
      get_put := by
        intro v rest
        rw [readWord_word v.toUInt32.toNat v.toUInt32.toNat_lt,Option.map_some,
          UInt32.ofNat_toNat,Int32.toInt32_toUInt32] }
  cString :=
    { put := fun s => s.bytes ++ 0 :: padding s.strlen
      get := readText
      get_put := by
        intro s rest
        rw [List.append_assoc,List.cons_append,readText_nul,← List.cons_append,← List.append_assoc,
          ← text_length,List.drop_left] }
  accepts _ _ := true
  uint32_canonical := by
    intro bytes v rest got
    obtain ⟨⟨n,left⟩,found,same⟩ := Option.map_eq_some_iff.mp got
    obtain ⟨rfl,rfl⟩ := Prod.mk.inj same
    obtain ⟨small,rfl⟩ := readWord_some bytes left n found
    dsimp only
    rw [UInt32.toNat_ofNat',Nat.mod_eq_of_lt small]
  int32_length _ := rfl
  int32_cut v cut prefixed short := by
    change (readWord cut).map _ = none
    rw [readWord_cut _ cut prefixed short]
    rfl
  cString_cut := by
    intro s cut prefixed short
    rcases Format.cut_append _ _ cut prefixed short with ⟨inside,_⟩ | ⟨left,rfl,behind,proper⟩
    · refine .inl (if_neg fun nul => s.no_nul (inside.subset nul))
    · cases left with
      | nil =>
        rw [List.append_nil]
        exact .inl (if_neg s.no_nul)
      | cons b left =>
        obtain ⟨rfl,_⟩ := List.cons_prefix_cons.mp behind
        refine .inr ?_
        change readText _ = _
        rw [readText_nul,List.drop_eq_nil_of_le]
        rw [← text_length]
        exact prefixed.length_le
  cString_word := by
    intro bytes s rest got
    change readText bytes = _ at got
    unfold readText at got
    split_ifs at got with nul
    obtain ⟨rfl,rfl⟩ := Prod.mk.inj (Option.some.inj got)
    constructor
    · change (bytes.takeWhile (· ≠ 0)).length < bytes.length
      refine lt_of_le_of_ne (List.takeWhile_prefix _).length_le (fun whole => ?_)
      rw [← (List.takeWhile_prefix _).eq_of_length whole] at nul
      simpa using List.mem_takeWhile_imp nul
    · rw [List.length_drop]
      omega

end DriversAdapter.Ipc
