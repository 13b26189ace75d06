import Mathlib.Data.List.Basic
import Mathlib.Data.Nat.ModEq
import Mathlib.Tactic.SplitIfs

/-! Windows of a ring of `n` slots: the list seen from a position on, the distance
between two positions, and what a run of overwritten slots does to a window. -/
namespace DriversAdapter.Semantics.Ring

variable {α : Type}

/-- The `len` elements from slot `start` on, around the ring. -/
def window (n : Nat) (slots : Nat → α) (start len : Nat) : List α :=
  (List.range len).map (fun i => slots ((start + i) % n))

/-- How far slot `stop` is ahead of slot `start`. -/
def ahead (n start stop : Nat) : Nat := if start ≤ stop then stop - start else stop + n - start

theorem mod_of_lt_double (n x : Nat) (small : x < 2 * n) :
    x % n = if x < n then x else x - n := by
  split
  next inside => exact Nat.mod_eq_of_lt inside
  next outside =>
    rw [Nat.mod_eq_sub_mod (by omega)]
    exact Nat.mod_eq_of_lt (by omega)

theorem ahead_lt (n start stop : Nat) (hs : start < n) (ht : stop < n) : ahead n start stop < n := by
  unfold ahead
  split <;> omega

theorem step_ahead (n start stop : Nat) (hs : start < n) (ht : stop < n) :
    (start + ahead n start stop) % n = stop := by
  have near := ahead_lt n start stop hs ht
  rw [mod_of_lt_double n _ (by omega)]
  unfold ahead
  split_ifs <;> omega

theorem ahead_step (n start k : Nat) (hs : start < n) (hk : k < n) :
    ahead n start ((start + k) % n) = k := by
  rw [mod_of_lt_double n _ (by omega)]
  unfold ahead
  split_ifs <;> omega

/-- The distance grows with the position as long as it stays below one turn. -/
theorem ahead_add (n start stop k : Nat) (hs : start < n) (ht : stop < n)
    (room : ahead n start stop + k < n) : ahead n start ((stop + k) % n) = ahead n start stop + k := by
  have moved : (stop + k) % n = (start + (ahead n start stop + k)) % n := by
    conv_lhs => rw [← step_ahead n start stop hs ht]
    rw [Nat.mod_add_mod,Nat.add_assoc]
  rw [moved]
  exact ahead_step n start _ hs room

/-- A slot before `stop` is none of those that follow `stop` within the turn. -/
theorem window_ne (n start stop j k : Nat) (hs : start < n) (ht : stop < n)
    (inside : j < ahead n start stop) (room : ahead n start stop + k < n) :
    (start + j) % n ≠ (stop + k) % n := by
  intro same
  have near := ahead_step n start j hs (by omega)
  have far := ahead_add n start stop k hs ht room
  rw [same,far] at near
  omega

theorem ahead_sub (n start stop k : Nat) (hs : start < n) (ht : stop < n)
    (within : k ≤ ahead n start stop) : ahead n ((start + k) % n) stop = ahead n start stop - k := by
  have near := ahead_lt n start stop hs ht
  have start_lt : (start + k) % n < n := Nat.mod_lt _ (by omega)
  have moved : ((start + k) % n + (ahead n start stop - k)) % n = stop := by
    rw [Nat.mod_add_mod,Nat.add_assoc,Nat.add_sub_cancel' within]
    exact step_ahead n start stop hs ht
  have found := ahead_step n ((start + k) % n) (ahead n start stop - k) start_lt (by omega)
  rwa [moved] at found

theorem ahead_self (n start : Nat) : ahead n start start = 0 := by
  simp [ahead]

@[simp] theorem window_length (n : Nat) (slots : Nat → α) (start len : Nat) :
    (window n slots start len).length = len := by
  simp [window]

@[simp] theorem window_zero (n : Nat) (slots : Nat → α) (start : Nat) :
    window n slots start 0 = [] := rfl

theorem window_add (n : Nat) (slots : Nat → α) (start a b : Nat) :
    window n slots start (a + b) =
      window n slots start a ++ window n slots ((start + a) % n) b := by
  unfold window
  rw [List.range_add,List.map_append,List.map_map]
  congr 1
  apply List.map_congr_left
  intro i _
  simp only [Function.comp_apply,Nat.mod_add_mod,Nat.add_assoc]

theorem window_take (n : Nat) (slots : Nat → α) (start len c : Nat) (within : c ≤ len) :
    (window n slots start len).take c = window n slots start c := by
  obtain ⟨rest,rfl⟩ := Nat.exists_eq_add_of_le within
  rw [window_add]
  exact List.take_left' (window_length _ _ _ _)

theorem window_drop (n : Nat) (slots : Nat → α) (start len c : Nat) (within : c ≤ len) :
    (window n slots start len).drop c = window n slots ((start + c) % n) (len - c) := by
  obtain ⟨rest,rfl⟩ := Nat.exists_eq_add_of_le within
  rw [window_add,Nat.add_sub_cancel_left]
  exact List.drop_left' (window_length _ _ _ _)

theorem window_congr (n : Nat) (f g : Nat → α) (start len : Nat)
    (same : ∀ i < len, f ((start + i) % n) = g ((start + i) % n)) :
    window n f start len = window n g start len := by
  apply List.map_congr_left
  intro i member
  exact same i (List.mem_range.mp member)

/-- The ring `g` is the ring `f` with `c` slots from `start` on overwritten by `data`. -/
def Overwritten (n : Nat) (f g : Nat → α) (start c : Nat) (data : Nat → α) : Prop :=
  ∀ k < n, g k = if ahead n start k < c then data (ahead n start k) else f k

theorem window_overwritten (n : Nat) (f g : Nat → α) (start c : Nat) (data : Nat → α)
    (hs : start < n) (room : c ≤ n) (written : Overwritten n f g start c data) :
    window n g start c = (List.range c).map data := by
  apply List.map_congr_left
  intro i member
  have bound : i < c := List.mem_range.mp member
  rw [written _ (Nat.mod_lt _ (by omega)),ahead_step n start i hs (by omega),if_pos bound]

/-- A window that ends where the overwritten slots begin is unchanged, up to one turn. -/
theorem window_before_overwritten (n : Nat) (f g : Nat → α) (start len c : Nat)
    (data : Nat → α) (hs : start < n) (room : len + c ≤ n)
    (written : Overwritten n f g ((start + len) % n) c data) :
    window n g start len = window n f start len := by
  apply window_congr
  intro i bound
  have slot_lt : (start + i) % n < n := Nat.mod_lt _ (by omega)
  have far : ¬ ahead n ((start + len) % n) ((start + i) % n) < c := by
    rw [mod_of_lt_double n (start + len) (by omega),mod_of_lt_double n (start + i) (by omega)]
    unfold ahead
    split_ifs <;> omega
  rw [written _ slot_lt,if_neg far]

/-- Overwriting the slots after a window and moving its end past them appends the data. -/
theorem window_append (n : Nat) (f g : Nat → α) (start stop c : Nat) (data : Nat → α)
    (hs : start < n) (ht : stop < n) (room : ahead n start stop + c < n)
    (written : Overwritten n f g stop c data) :
    window n g start (ahead n start ((stop + c) % n)) =
      window n f start (ahead n start stop) ++ (List.range c).map data := by
  have seam := step_ahead n start stop hs ht
  rw [ahead_add n start stop c hs ht room,window_add,seam,
    window_overwritten n f g stop c data ht (by omega) written]
  congr 1
  apply window_before_overwritten n f g start _ c data hs (by omega)
  rwa [seam]

theorem window_forward (n : Nat) (slots : Nat → α) (start stop c : Nat) (hs : start < n)
    (ht : stop < n) (within : c ≤ ahead n start stop) :
    window n slots ((start + c) % n) (ahead n ((start + c) % n) stop) =
      (window n slots start (ahead n start stop)).drop c := by
  rw [ahead_sub n start stop c hs ht within,window_drop n slots start _ c within]

theorem ahead_eq_mod (n start stop : Nat) (hs : start < n) (ht : stop < n) :
    (stop + n - start) % n = ahead n start stop := by
  rw [mod_of_lt_double n _ (by omega)]
  unfold ahead
  split_ifs <;> omega

/-- The last elements of a log, up to one turn, lie in the slots of their positions. -/
def Logged (n : Nat) (slots : Nat → α) (log : List α) : Prop :=
  ∀ k (old : k < log.length), log.length ≤ k + n → slots (k % n) = log[k]

theorem logged_append (n : Nat) (f g : Nat → α) (log : List α) (c : Nat) (data : Nat → α)
    (pos : 0 < n) (turn : c ≤ n) (logged : Logged n f log)
    (written : Overwritten n f g (log.length % n) c data) :
    Logged n g (log ++ (List.range c).map data) := by
  have end_lt : log.length % n < n := Nat.mod_lt _ pos
  intro k bound recent
  simp only [List.length_append,List.length_map,List.length_range] at bound recent
  rw [written _ (Nat.mod_lt _ pos)]
  by_cases old : k < log.length
  · -- a whole turn back, the slot of `k` is behind the overwritten ones
    have far : ahead n (log.length % n) (k % n) = (k + n - log.length) % n := by
      have same : k % n = (log.length % n + (k + n - log.length) % n) % n := by
        rw [← Nat.add_mod,Nat.add_sub_cancel' (by omega),Nat.add_mod_right]
      rw [same]
      exact ahead_step n _ _ end_lt (Nat.mod_lt _ pos)
    rw [far,Nat.mod_eq_of_lt (by omega),if_neg (by omega),List.getElem_append_left old]
    exact logged k old (by omega)
  · obtain ⟨j,rfl⟩ := Nat.exists_eq_add_of_le (Nat.not_lt.mp old)
    have near : ahead n (log.length % n) ((log.length + j) % n) = j % n := by
      rw [Nat.add_mod]
      exact ahead_step n _ _ end_lt (Nat.mod_lt _ pos)
    have inside : j < c := by omega
    rw [near,Nat.mod_eq_of_lt (by omega),if_pos inside,
      List.getElem_append_right (Nat.le_add_right _ _)]
    simp

/-- A window that ends where the log ends holds the end of the log. -/
theorem window_logged (n : Nat) (slots : Nat → α) (log : List α) (start len : Nat)
    (logged : Logged n slots log) (turn : len ≤ n) (within : len ≤ log.length)
    (ends : (start + len) % n = log.length % n) :
    window n slots start len = log.drop (log.length - len) := by
  have aligned : start ≡ log.length - len [MOD n] := by
    have shifted : start + len ≡ log.length - len + len [MOD n] := by
      rwa [Nat.sub_add_cancel within]
    exact Nat.ModEq.add_right_cancel' len shifted
  apply List.ext_getElem
  · rw [window_length,List.length_drop]
    omega
  · intro i inside _
    rw [window_length] at inside
    have slot_eq : (start + i) % n = (log.length - len + i) % n := aligned.add_right i
    simp only [window,List.getElem_map,List.getElem_range,List.getElem_drop]
    rw [slot_eq]
    exact logged _ (by omega) (by omega)

end DriversAdapter.Semantics.Ring
