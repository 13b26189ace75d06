import DriversAdapter.Svc.Ownership

/-! Every interleaving of requests and death notifications in which no entry is changed
behind the back of a request: no object is released twice, or while it is registered. -/
namespace DriversAdapter.Svc
open DriversAdapter.Base DriversAdapter.Semantics DriversAdapter.Semantics.Program

variable {ι κ : Type} [DecidableEq ι]

namespace Census

section Programs
variable (core : IDevSvcManager κ) (lawful : core.Lawful) (base : Nat) (i : ι)

def duty (op : StubOp) (s t : Census ι κ) : Prop := guar core base i op s t ∧ Sound core base t

abbrev Triple {α : Type} (post : α → Census ι κ → Prop) (p : StubM α) (s : Census ι κ) : Prop :=
  Safe (rely core base i) ((traffic core (Undisturbed core base)).step i) (duty core base i) post p s

/-- A program that needs nothing but the invariant, and keeps it. -/
abbrev Keeps {α : Type} (p : StubM α) (s : Census ι κ) : Prop :=
  Triple core base i (fun _ t => Sound core base t) p s

omit [DecidableEq ι] in
theorem sound_stable (s t : Census ι κ) (moved : rely core base i s t) (sound : Sound core base s) :
    Sound core base t := (moved sound).sound

theorem keeps_done {α : Type} (value : α) (s : Census ι κ) (sound : Sound core base s) :
    Keeps core base i (.done value : StubM α) s :=
  safe_done value s (sound_stable core base i) sound

omit [DecidableEq ι] in
theorem duty_of_guar {op : StubOp} {s t : Census ι κ} (sound : Sound core base s)
    (kept : guar core base i op s t) : duty core base i op s t := ⟨kept,(kept sound).1⟩

omit [DecidableEq ι] in
theorem guar_refl (op : StubOp) (s : Census ι κ) (harmless : Harmless core base op s) :
    guar core base i op s s :=
  fun sound => ⟨sound,kept_refl s,harmless,fun _ _ => ⟨rfl,rfl,rfl⟩⟩

theorem triple_perform {α : Type} {post : α → Census ι κ → Prop} (holds : Census ι κ → Prop)
    (op : StubOp) (f : op.Res → StubM α) (s : Census ι κ)
    (stable : ∀ s t, rely core base i s t → Sound core base s ∧ holds s → holds t)
    (now : Sound core base s ∧ holds s)
    (stepped : ∀ t out, Sound core base t → holds t → Undisturbed core base i op t →
      let served := serve core out op t.stub
      let u : Census ι κ := {t.note core i op served.1 with stub := served.2}
      guar core base i op t u ∧
        (Sound core base u → Triple core base i post (f served.1) u)) :
    Triple core base i post (DevSvcManagerStub.perform op >>= f) s := by
  refine safe_call (fun s => Sound core base s ∧ holds s) op f s ?_ now ?_
  · exact fun s t moved before => ⟨(moved before.1).sound,stable s t moved before⟩
  · rintro t ⟨sound,here⟩ r u ⟨allowed,out,ran⟩
    obtain ⟨kept,rest⟩ := stepped t out sound here allowed
    cases ran
    exact ⟨duty_of_guar core base i sound kept,rest (kept sound).1⟩

omit [DecidableEq ι] in
theorem holds_stable (o : ObjectId) (s t : Census ι κ) (moved : rely core base i s t)
    (before : Sound core base s ∧ Holds base i o s) : Holds base i o t := by
  have sees := moved before.1
  unfold Holds
  rw [sees.made_eq,sees.replaced_eq]
  exact before.2

theorem keeps_releaseServiceObject (o : Option ObjectId) (s : Census ι κ)
    (sound : Sound core base s) (holds : ∀ x, o = some x → Holds base i x s) :
    Keeps core base i (DevSvcManagerStub.releaseServiceObject o) s := by
  cases o with
  | none => exact keeps_done core base i () s sound
  | some o =>
    refine triple_perform core base i (Holds base i o) (.readPriv o) _ s
      (holds_stable core base i o) ⟨sound,holds o rfl⟩ ?_
    intro t out sound here _
    refine ⟨guar_refl core base i _ t trivial,fun _ => ?_⟩
    dsimp only [serve]
    cases (t.stub.object o).priv with
    | none => exact keeps_done core base i () t sound
    | some name =>
      refine triple_perform core base i (Holds base i o) (.freeServiceObject o) .done t
        (holds_stable core base i o) ⟨sound,here⟩ ?_
      intro u out _ here _
      exact ⟨guar_free core base i u o here,keeps_done core base i () _⟩

theorem keeps_permCheck {α : Type} (refused accepted : Int → StubM α) (s : Census ι κ)
    (sound : Sound core base s)
    (refuse : ∀ t, Sound core base t → Keeps core base i (refused hdfErrNoPerm) t)
    (accept : ∀ t, Sound core base t → Keeps core base i (accepted hdfSuccess) t) :
    Keeps core base i (DevSvcManagerStub.perform .permCheck >>= fun ret =>
      if ret ≠ hdfSuccess then refused ret else accepted ret) s := by
  refine triple_perform core base i (fun _ => True) .permCheck _ s (fun _ _ _ _ => trivial)
    ⟨sound,trivial⟩ ?_
  intro t out sound _ _
  refine ⟨guar_refl core base i _ t trivial,fun _ => ?_⟩
  cases permitted : out.permitted with
  | false =>
    simp only [serve,permitted,Bool.false_eq_true,if_false]
    exact refuse t sound
  | true =>
    simp only [serve,permitted,if_true]
    exact accept t sound

theorem keeps_readService (data : Parcel) (next : String → UInt16 → RemoteId → StubM Int)
    (s : Census ι κ) (sound : Sound core base s)
    (rest : ∀ name devClass service t, Sound core base t →
      Keeps core base i (next name devClass service) t) :
    Keeps core base i (DevSvcManagerStub.readService data next) s := by
  unfold DevSvcManagerStub.readService
  split_ifs with token
  · exact keeps_done core base i _ s sound
  cases data.name with
  | none => exact keeps_done core base i _ s sound
  | some name =>
    refine keeps_permCheck core base i _ _ s sound (fun t => keeps_done core base i _ t) ?_
    intro t sound
    cases data.devClass with
    | none => exact keeps_done core base i _ t sound
    | some devClass =>
      refine triple_perform core base i (fun _ => True) (.readRemoteService data.remote) _ t
        (fun _ _ _ _ => trivial) ⟨sound,trivial⟩ ?_
      intro u out sound _ _
      refine ⟨guar_readRemoteService core base i u data.remote,fun after => ?_⟩
      dsimp only [serve]
      cases (u.stub.readRemoteService data.remote).1 with
      | none => exact keeps_done core base i _ _ after
      | some service => exact rest name devClass service _ after

/-- The object that client `i` is about to register. -/
def Offers (i : ι) (name : String) (o : ObjectId) (s : Census ι κ) : Prop :=
  s.made i = some o ∧ (s.stub.object o).priv = some name

omit [DecidableEq ι] in
theorem offers_stable (name : String) (o : ObjectId) (s t : Census ι κ)
    (moved : rely core base i s t) (before : Sound core base s ∧ Offers i name o s) :
    Offers i name o t := by
  have sees := moved before.1
  have makes : t.made i = some o := sees.made_eq.trans before.2.1
  have within := (before.1.made i o before.2.1).2.1
  have alive := (sees.sound.made i o makes).2.2.1
  refine ⟨makes,?_⟩
  rw [(sees.object_eq o within alive).2]
  exact before.2.2

theorem keeps_getObject (name : String) (f : Option ObjectId → StubM Int)
    (holds : Census ι κ → Prop)
    (stable : ∀ s t, rely core base i s t → Sound core base s ∧ holds s → holds t)
    (looked : ∀ s found, holds s → holds {s with seen := Function.update s.seen i found})
    (s : Census ι κ) (sound : Sound core base s) (now : holds s)
    (rest : ∀ found t, Sound core base t → holds t → t.seen i = found →
      Keeps core base i (f found) t) :
    Keeps core base i (DevSvcManagerStub.perform (.getObject name) >>= f) s := by
  refine triple_perform core base i holds (.getObject name) _ s stable ⟨sound,now⟩ ?_
  intro t out sound here _
  refine ⟨guar_same core base i t (.getObject name) trivial t.stub _ (fun _ => rfl) rfl rfl rfl
    (fun _ _ target => target),fun after => ?_⟩
  exact rest _ _ after (looked t _ here) (Function.update_self _ _ _)

theorem keeps_obtain (name : String) (service : RemoteId) (f : Option ObjectId → StubM Int)
    (holds : Census ι κ → Prop)
    (stable : ∀ s t, rely core base i s t → Sound core base s ∧ holds s → holds t)
    (made : ∀ s stub obtained, holds s →
      holds {s with stub := stub, made := Function.update s.made i obtained})
    (s : Census ι κ) (sound : Sound core base s) (now : holds s)
    (none_made : ∀ t, Sound core base t → Keeps core base i (f none) t)
    (some_made : ∀ o t, Sound core base t → holds t → Offers i name o t →
      Keeps core base i (f (some o)) t) :
    Keeps core base i (DevSvcManagerStub.perform (.obtainServiceObject name service) >>= f) s := by
  refine triple_perform core base i holds (.obtainServiceObject name service) _ s stable
    ⟨sound,now⟩ ?_
  intro t out sound here _
  cases obtains : out.obtains with
  | false =>
    have served : serve core out (.obtainServiceObject name service) t.stub = (none,t.stub) :=
      t.stub.obtainServiceObject_failed service out obtains name
    rw [served]
    exact ⟨guar_unmade core base i t _ trivial,fun after => none_made _ after⟩
  | true =>
    obtain ⟨calloc,copy⟩ := Bool.and_eq_true_iff.mp obtains
    have served : serve core out (.obtainServiceObject name service) t.stub = _ :=
      t.stub.obtainServiceObject_ok service out obtains name
    rw [served]
    refine ⟨guar_made core base i t (.obtainServiceObject name service) trivial name service _
      rfl rfl rfl rfl ?_,fun after => ?_⟩
    · intro r
      by_cases same : r = service
      · subst r
        simp
      · simp [same]
    · refine some_made _ _ after (made t _ _ here) ⟨?_,?_⟩
      · simp [note]
      · simp

theorem keeps_releaseOther (ret : Int) (o : ObjectId) (old : Option ObjectId) (s : Census ι κ)
    (sound : Sound core base s) (fails : ret ≠ hdfSuccess → Holds base i o s)
    (succeeds : ret = hdfSuccess → ∀ x, old = some x → Holds base i x s) :
    Keeps core base i (DevSvcManagerStub.releaseOther ret o old) s := by
  unfold DevSvcManagerStub.releaseOther
  split_ifs with failed
  · refine safe_bind (rely_refl core base i) _ _ s (keeps_releaseServiceObject core base i
      (some o) s sound fun x same => ?_) fun _ t after => keeps_done core base i ret t after
    cases same
    exact fails failed
  · exact safe_bind (rely_refl core base i) _ _ s (keeps_releaseServiceObject core base i old s
      sound (succeeds (not_not.mp failed))) fun _ t after => keeps_done core base i ret t after

theorem guar_offer (op : StubOp) (s : Census ι κ) (harmless : Harmless core base op s)
    (name : String) (o : ObjectId) (offers : Offers i name o s) (ret : Int) (k : κ)
    (taken : ret = hdfSuccess → ∀ other, core.getObject other k =
      if other = name then some o else core.getObject other s.stub.core)
    (refused : ret ≠ hdfSuccess → ∀ other, core.getObject other k =
      core.getObject other s.stub.core)
    (current : ret = hdfSuccess → Current core base i name s) :
    let t : Census ι κ := {(if ret = hdfSuccess then s.replace i else s) with
      stub := {s.stub with core := k}}
    guar core base i op s t ∧ (ret ≠ hdfSuccess → Holds base i o t) ∧
      (ret = hdfSuccess → ∀ x, s.seen i = some x → Holds base i x t) := by
  by_cases ok : ret = hdfSuccess
  · dsimp only
    rw [if_pos ok]
    refine ⟨guar_replace core base i s op harmless name k (some o) (taken ok) ?_ (current ok),
      fun failed => absurd ok failed,fun _ x saw => .inr (.inl ?_)⟩
    · rintro x _ ⟨⟩
      exact offers
    · simp [replace,saw]
  · dsimp only
    rw [if_neg ok]
    have same := guar_same core base i s op harmless {s.stub with core := k} (s.seen i)
      (refused ok) rfl rfl rfl (fun _ _ target => target)
    rw [Function.update_eq_self] at same
    exact ⟨same,fun _ => .inl offers.1,fun succeeded => absurd succeeded ok⟩

/-- A request that is about to register its object, with what it has looked up. -/
def Looked (i : ι) (name : String) (o : ObjectId) (old : Option ObjectId) (s : Census ι κ) : Prop :=
  Offers i name o s ∧ s.seen i = old

omit [DecidableEq ι] in
theorem looked_stable (name : String) (o : ObjectId) (old : Option ObjectId) (s t : Census ι κ)
    (moved : rely core base i s t) (before : Sound core base s ∧ Looked i name o old s) :
    Looked i name o old t :=
  ⟨offers_stable core base i name o s t moved ⟨before.1,before.2.1⟩,
    (moved before.1).seen_eq.trans before.2.2⟩

include lawful in
theorem keeps_addService (data : Parcel) (s : Census ι κ) (sound : Sound core base s) :
    Keeps core base i (DevSvcManagerStub.addService data) s := by
  refine keeps_readService core base i data _ s sound ?_
  intro name devClass service t sound
  refine keeps_obtain core base i name service _ (fun _ => True) (fun _ _ _ _ => trivial)
    (fun _ _ _ _ => trivial) t sound trivial (fun u => keeps_done core base i _ u) ?_
  intro o u sound _ offers
  refine keeps_getObject core base i name _ (Offers i name o) (offers_stable core base i name o)
    (fun _ _ offers => offers) u sound offers ?_
  intro old v sound offers saw
  refine triple_perform core base i (Looked i name o old)
    (.addService name devClass o data.servInfo) _ v (looked_stable core base i name o old)
    ⟨sound,offers,saw⟩ ?_
  rintro w out _ ⟨offers,saw⟩ current
  obtain ⟨kept,fails,succeeds⟩ := guar_offer core base i
    (.addService name devClass o data.servInfo) w trivial name o offers _ _
    (lawful.added name devClass o data.servInfo w.stub.core)
    (lawful.not_added name devClass o data.servInfo w.stub.core) current
  rw [saw] at succeeds
  exact ⟨kept,fun after => keeps_releaseOther core base i _ o _ _ after fails succeeds⟩

include lawful in
theorem keeps_updateService (data : Parcel) (s : Census ι κ) (sound : Sound core base s) :
    Keeps core base i (DevSvcManagerStub.updateService data) s := by
  refine keeps_readService core base i data _ s sound ?_
  intro name devClass service t sound
  refine keeps_getObject core base i name _ (fun _ => True) (fun _ _ _ _ => trivial)
    (fun _ _ _ => trivial) t sound trivial ?_
  intro found u sound _ saw
  cases found with
  | none => exact keeps_done core base i _ u sound
  | some old =>
    refine keeps_obtain core base i name service _ (fun s => s.seen i = some old) ?_
      (fun _ _ _ saw => saw) u sound saw (fun u => keeps_done core base i _ u) ?_
    · exact fun s t moved before => (moved before.1).seen_eq.trans before.2
    intro o v sound saw offers
    refine triple_perform core base i (Looked i name o (some old))
      (.updateService name devClass o data.servInfo) _ v (looked_stable core base i name o _)
      ⟨sound,offers,saw⟩ ?_
    rintro w out _ ⟨offers,saw⟩ current
    obtain ⟨kept,fails,succeeds⟩ := guar_offer core base i
      (.updateService name devClass o data.servInfo) w trivial name o offers _ _
      (lawful.updated name devClass o data.servInfo w.stub.core)
      (lawful.not_updated name devClass o data.servInfo w.stub.core) current
    rw [saw] at succeeds
    exact ⟨kept,fun after => keeps_releaseOther core base i _ o _ _ after fails succeeds⟩

include lawful in
/-- A request takes the entry of what it has looked up away. -/
theorem keeps_take {α : Type} (name : String) (o : ObjectId) (p : StubM α) (s : Census ι κ)
    (sound : Sound core base s) (saw : s.seen i = some o)
    (rest : ∀ t, Sound core base t → Holds base i o t → Keeps core base i p t) :
    Keeps core base i (DevSvcManagerStub.perform (.removeService name) >>= fun _ => p) s := by
  refine triple_perform core base i (fun s => s.seen i = some o) (.removeService name) _ s
    (fun s t moved before => (moved before.1).seen_eq.trans before.2) ⟨sound,saw⟩ ?_
  intro t out sound saw current
  refine ⟨guar_replace core base i t (.removeService name) trivial name _ none
    (lawful.removed name t.stub.core) (fun _ _ impossible => by cases impossible) current,
    fun after => rest _ after (.inr (.inl ?_))⟩
  simp [note,replace,saw]

theorem keeps_release (o : ObjectId) (s : Census ι κ) (sound : Sound core base s)
    (holds : Holds base i o s) :
    Keeps core base i (DevSvcManagerStub.releaseServiceObject (some o)) s := by
  refine keeps_releaseServiceObject core base i (some o) s sound fun x same => ?_
  cases same
  exact holds

include lawful in
theorem keeps_removeService (data : Parcel) (s : Census ι κ) (sound : Sound core base s) :
    Keeps core base i (DevSvcManagerStub.removeService data) s := by
  unfold DevSvcManagerStub.removeService
  split_ifs with token
  · exact keeps_done core base i _ s sound
  cases data.name with
  | none => exact keeps_done core base i _ s sound
  | some name =>
    refine keeps_permCheck core base i _ _ s sound (fun t => keeps_done core base i _ t) ?_
    intro t sound
    refine keeps_getObject core base i name _ (fun _ => True) (fun _ _ _ _ => trivial)
      (fun _ _ _ => trivial) t sound trivial ?_
    intro found u sound _ saw
    cases found with
    | none => exact keeps_done core base i _ u sound
    | some serviceObject =>
      refine triple_perform core base i (fun s => s.seen i = some serviceObject)
        (.readPriv serviceObject) _ u
        (fun s t moved before => (moved before.1).seen_eq.trans before.2) ⟨sound,saw⟩ ?_
      intro v out sound saw _
      refine ⟨guar_refl core base i _ v trivial,fun _ => ?_⟩
      dsimp only [serve]
      cases (v.stub.object serviceObject).priv with
      | none => exact keeps_done core base i _ v sound
      | some servName =>
        dsimp only
        split_ifs with differs
        · exact keeps_done core base i _ v sound
        · refine keeps_take core lawful base i name serviceObject _ v sound saw ?_
          intro w sound holds
          exact safe_bind (rely_refl core base i) _ _ w
            (keeps_release core base i serviceObject w sound holds)
            fun _ x after => keeps_done core base i _ x after

/-- The death callback knows its object, and once it has read it the object's name. -/
structure Mourns (base : Nat) (i : ι) (remote : RemoteId) (o : ObjectId)
    (named : Option String → Prop) (s : Census ι κ) : Prop where
  saw : s.seen i = some o
  within : base ≤ o → o < s.stub.objectCount
  serves : base ≤ o → s.stub.released o = 0 →
    (s.stub.object o).service = some remote ∧ named (s.stub.object o).priv

omit [DecidableEq ι] in
theorem mourns_stable (remote : RemoteId) (o : ObjectId) (named : Option String → Prop)
    (s t : Census ι κ) (moved : rely core base i s t)
    (before : Sound core base s ∧ Mourns base i remote o named s) :
    Mourns base i remote o named t := by
  have sees := moved before.1
  have here := before.2
  refine ⟨sees.seen_eq.trans here.saw,
    fun ours => Nat.lt_of_lt_of_le (here.within ours) sees.count_le,fun ours alive => ?_⟩
  obtain ⟨before,same⟩ := sees.object_eq o (here.within ours) alive
  rw [same]
  exact here.serves ours before

include lawful in
theorem keeps_onServiceDied (remote : RemoteId) (s : Census ι κ) (sound : Sound core base s) :
    Keeps core base i (DevSvcManagerStub.onServiceDied remote) s := by
  unfold DevSvcManagerStub.onServiceDied
  refine triple_perform core base i (fun _ => True) (.readTarget remote) _ s
    (fun _ _ _ _ => trivial) ⟨sound,trivial⟩ ?_
  intro t out sound _ _
  refine ⟨guar_same core base i t (.readTarget remote) trivial t.stub _ (fun _ => rfl) rfl rfl rfl
    (fun _ _ target => target),fun after => ?_⟩
  dsimp only [serve] at after ⊢
  cases target : (t.stub.remote remote).target with
  | none => exact keeps_done core base i _ _ (target ▸ after)
  | some o =>
    rw [target] at after
    have mourns : Mourns base i remote o (fun _ => True)
        {t with seen := Function.update t.seen i (some o)} :=
      ⟨Function.update_self _ _ _,fun ours => (sound.linked remote o ours target).1,
        fun ours alive => ⟨(sound.linked remote o ours target).2 alive,trivial⟩⟩
    refine triple_perform core base i (Mourns base i remote o fun _ => True) (.readPriv o) _ _
      (mourns_stable core base i remote o _) ⟨after,mourns⟩ ?_
    intro u out sound mourns _
    refine ⟨guar_refl core base i _ u trivial,fun _ => ?_⟩
    dsimp only [serve]
    cases priv : (u.stub.object o).priv with
    | none => exact keeps_done core base i _ u sound
    | some name =>
      have mourns : Mourns base i remote o (· = some name) u :=
        ⟨mourns.saw,mourns.within,fun ours alive => ⟨(mourns.serves ours alive).1,priv⟩⟩
      refine triple_perform core base i (Mourns base i remote o (· = some name))
        (.getService name) _ u (mourns_stable core base i remote o _) ⟨sound,mourns⟩ ?_
      intro v out sound mourns free
      have goes : ∀ (service : Option RemoteId) (w : Census ι κ), Sound core base w →
          w.seen i = some o → (service ≠ some remote → Holds base i o w) →
            Keeps core base i (if service = some remote then do
              DevSvcManagerStub.perform (.removeService name)
              DevSvcManagerStub.releaseServiceObject (some o)
            else DevSvcManagerStub.releaseServiceObject (some o)) w := by
        intro service w sound saw holds
        split_ifs with same
        · exact keeps_take core lawful base i name o _ w sound saw
            (keeps_release core base i o)
        · exact keeps_release core base i o w sound (holds same)
      dsimp only [note,serve]
      rw [lawful.found]
      by_cases mapped : core.getObject name v.stub.core = v.seen i
      · -- the registry has the object, and the service found there is the dead one
        rw [if_pos mapped]
        refine ⟨guar_refl core base i _ v trivial,fun _ => goes _ v sound mourns.saw ?_⟩
        rw [mapped,mourns.saw]
        intro differs
        by_contra kept
        have ours : base ≤ o := Nat.not_lt.mp fun foreign => kept (.inr (.inr foreign))
        have alive := (sound.mapped name o ours (mapped.trans mourns.saw)).2.1
        exact differs (mourns.serves ours alive).1
      · rw [if_neg mapped]
        refine ⟨guar_take core base i v (.getService name) trivial ?_,fun after =>
          goes _ _ after mourns.saw fun _ => .inr (.inl ?_)⟩
        · intro other ours saw
          obtain rfl : other = o := Option.some.inj (saw.symm.trans mourns.saw)
          rcases free other ours saw with found | ⟨alive,nobody⟩
          · exact absurd (found.trans saw.symm) mapped
          · refine ⟨mourns.within ours,alive,fun known found => mapped ?_,nobody⟩
            have named := (sound.mapped known other ours found).2.2.1
            have same := (mourns.serves ours alive).2
            cases named.symm.trans same
            exact found.trans saw.symm
        · exact (Function.update_self _ _ _).trans mourns.saw

include lawful in
theorem keeps_body (client : Client) (s : Census ι κ) (sound : Sound core base s) :
    Keeps core base i client.body s := by
  have returns : ∀ (p : StubM Int) (t : Census ι κ), Keeps core base i p t →
      Keeps core base i (do return .inr (← p) : StubM (Unit ⊕ Int)) t :=
    fun p t kept => safe_bind (rely_refl core base i) p _ t kept
      fun ret u after => keeps_done core base i _ u after
  cases client with
  | add data => exact returns _ s (keeps_addService core lawful base i data s sound)
  | update data => exact returns _ s (keeps_updateService core lawful base i data s sound)
  | remove data => exact returns _ s (keeps_removeService core lawful base i data s sound)
  | died remote =>
    exact safe_bind (rely_refl core base i) _ _ s
      (keeps_onServiceDied core lawful base i remote s sound)
      fun _ u after => keeps_done core base i _ u after

end Programs

/-- The proof outline of undisturbed traffic: the invariant, at every point of every call. -/
def outline (core : IDevSvcManager κ) (lawful : core.Lawful) (base : Nat) :
    Outline (traffic (ι := ι) core (Undisturbed core base)) where
  rely := rely core base
  guar := guar core base
  idle _ _ := Sound core base
  during _ _ _ := Sound core base
  label _ _ _ _ := Sound core base
  rely_refl := rely_refl core base
  rely_trans := rely_trans core base
  idle_stable i _ := sound_stable core base i
  during_stable i _ _ := sound_stable core base i
  invoke _ _ _ _ _ sound := ⟨sound,sound⟩
  body i _ client _ s sound := by
    refine safe_mono _ s (fun _ _ _ kept => kept) (fun next t after => ?_)
      (keeps_body core lawful base i client s sound)
    cases next <;> exact after
  compatible i j op s t other kept sound := by
    obtain ⟨after,kept,_,others⟩ := kept sound
    obtain ⟨seen,made,replaced⟩ := others j (Ne.symm other)
    exact ⟨kept,after,seen,made,replaced⟩

section Runs
variable (core : IDevSvcManager κ) (lawful : core.Lawful) (start : StubState κ)
variable (ready : start.WellFormed core)

include ready in
omit [DecidableEq ι] in
theorem opening_sound : Sound core start.objectCount (opening (ι := ι) start) where
  base_le := Nat.le_refl _
  mapped name o ours found := absurd (ready.mapped_lt name o found) (Nat.not_lt.mpr ours)
  made _ _ makes := by cases makes
  replaced _ _ _ takes := by cases takes
  linked r o ours target := absurd (ready.target_lt r o target) (Nat.not_lt.mpr ours)
  fresh o beyond := ready.released_zero o beyond
  once o ours := by
    have unreleased := ready.released_zero o ours
    dsimp only [opening]
    omega

include lawful ready in
/-- An object that the stub has made is released at most once, and when it is, no name is
mapped to it. -/
theorem released_once (cfg : Config ι StubOp StubOp.Res Client Unit Int (Census ι κ))
    (reached : (traffic core (Undisturbed core start.objectCount)).Reachable (opening start) cfg)
    (o : ObjectId) (ours : start.objectCount ≤ o) :
    cfg.shared.stub.released o ≤ 1 ∧
      (∀ i past client next,
        cfg.session i = ⟨past,some (client,.perform (.freeServiceObject o) next)⟩ →
          ∀ name, core.getObject name cfg.shared.stub.core ≠ some o) ∧
      ∀ name, core.getObject name cfg.shared.stub.core = some o →
        cfg.shared.stub.released o = 0 := by
  let O := outline core lawful (ι := ι) start.objectCount
  have idle : ∀ i, O.idle i [] (opening start) := fun _ => opening_sound core start ready
  have sound : Sound core start.objectCount cfg.shared :=
    O.sound_always (opening start) idle (Sound core start.objectCount)
      (opening_sound core start ready) (fun _ _ _ here => here) (fun _ _ _ _ here => here) cfg reached
  refine ⟨sound.once o ours,?_,fun name found => (sound.mapped name o ours found).2.1⟩
  intro i past client next here
  have kept := O.sound_perform (opening start) idle cfg reached i client past _ next here () _
    ⟨trivial,.granting,rfl⟩
  obtain ⟨_,_,harmless,_⟩ := kept sound
  exact harmless ours

end Runs

/-- One client registers a service and another registers one of the same name. -/
def succession : List (Nat × Move Client Outcomes) :=
  (0,.invoke (.add .sample)) :: List.replicate 6 (0,.act .granting) ++
    (1,.invoke (.add .sample)) :: List.replicate 8 (1,.act .granting)

theorem released_once_succession :
    ∃ cfg, (traffic Registry.manager (Undisturbed Registry.manager 0)).schedule succession
        (.start (opening (StubState.starting Registry.empty))) = some cfg ∧
      cfg.shared.stub.released 0 = 1 ∧ cfg.shared.stub.released 1 = 0 ∧
        cfg.shared.stub.released 0 ≤ 1 := by
  have once := fun cfg admitted ran => released_once Registry.manager Registry.manager_lawful
    (StubState.starting Registry.empty) StubState.starting_wellFormed cfg
    (System.schedule_reachable _ _ succession _ cfg admitted .start ran) 0 (Nat.le_refl _)
  refine ⟨_,rfl,rfl,rfl,(once _ ?_ rfl).1⟩
  refine ⟨trivial,trivial,trivial,trivial,trivial,fun _ o _ saw => ?_,trivial,
    trivial,trivial,trivial,trivial,trivial,fun _ o _ saw => ?_,trivial,trivial,trivial,trivial⟩
  · have nothing : (none : Option ObjectId) = some o := saw
    contradiction
  · have looked : some 0 = some o := saw
    exact looked

/-- Two clients look the same service up before either replaces it. -/
def collision : List (Nat × Move Client Outcomes) :=
  (0,.invoke (.add .sample)) :: List.replicate 6 (0,.act .granting) ++
    (1,.invoke (.add .sample)) :: List.replicate 4 (1,.act .granting) ++
    (2,.invoke (.add .sample)) :: List.replicate 4 (2,.act .granting) ++
    [(1,.act .granting),(2,.act .granting),(1,.act .granting),(2,.act .granting),
      (1,.act .granting),(2,.act .granting)]

theorem released_twice_collision :
    ∃ cfg : Config Nat StubOp StubOp.Res Client Unit Int (Census Nat Registry),
      (traffic Registry.manager fun _ _ _ => True).Reachable
        (opening (StubState.starting Registry.empty)) cfg ∧
      cfg.shared.stub.released 0 = 2 := by
  have reached := fun cfg ran => System.schedule_reachable
    (traffic (ι := Nat) Registry.manager fun _ _ _ => True)
    (opening (StubState.starting Registry.empty)) collision _ cfg
    (System.admitsAll_of_calls _ (fun _ _ _ => trivial) collision (fun _ _ _ => trivial) _) .start ran
  exact ⟨_,reached _ rfl,rfl⟩

end Census

end DriversAdapter.Svc
