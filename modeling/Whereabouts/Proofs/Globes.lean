import Whereabouts.Atlas
import Whereabouts.Proofs.Worlds

/-!
# Runs of requests

A globe is an atlas and the population that its maps share. Things go from one map to another, end
while they are on a map, and maps are unloaded under them. `Globe.Sound` holds of the empty globe
and is kept by each request: every loaded map is sound beside the whole population, and a living
thing refers to no map that is not loaded. What one map does to the population is no matter to the
other maps, because it only lets things in that were on no map and out that were on this one.
-/

namespace Whereabouts

namespace Atlas

lemma number_inj {id id' : MapId} : id.number = id'.number ↔ id = id' := by
  rw [MapId.mk.injEq]

lemma find?_put (a : Atlas) (m : GameMap) (id : MapId) :
    (a.put m).find? id = if id = m.id then some m else a.find? id := by
  simp only [find?, put, Std.TreeMap.getElem?_insert, Std.LawfulEqCmp.compare_eq_iff_eq, number_inj,
    eq_comm (a := m.id)]

lemma take?_eq (a : Atlas) (id : MapId) : (a.take? id).1 = a.find? id := by
  unfold take?
  split
  · next h => exact h.symm
  · next h => exact h.symm

lemma find?_take? (a : Atlas) (id id' : MapId) :
    (a.take? id).2.find? id' = if id' = id then none else a.find? id' := by
  unfold take?
  split
  · next h =>
    by_cases hid : id' = id
    · rw [if_pos hid, hid]
      exact h
    · rw [if_neg hid]
  · simp only [find?, Std.TreeMap.getElem?_erase, Std.LawfulEqCmp.compare_eq_iff_eq, number_inj,
      eq_comm (a := id)]

/-- Settling maps one after the other puts each settled map in the place of the old one. -/
lemma foldlM_settleNext {people : Population} (count : GameMap → Nat)
    (after : GameMap → GameMap) {l : List (UInt32 × GameMap)}
    (hkeys : l.Pairwise fun a b => a.1 ≠ b.1)
    (hgoes : ∀ x ∈ l, Delivers (x.2.settle people) (count x.2, after x.2))
    (total : Report (Nat × Atlas)) (hquiet : Quiet total.events) :
    ∃ k a, Delivers (l.foldlM (fun total x => settleNext people total x.1 x.2) total) (k, a) ∧
      (∀ x ∈ l, a.maps[x.1]? = some (after x.2)) ∧
      ∀ number, (∀ x ∈ l, x.1 ≠ number) → a.maps[number]? = total.value.2.maps[number]? := by
  induction l generalizing total with
  | nil => exact ⟨_, _, ⟨_, rfl, hquiet⟩, nofun, fun _ _ => rfl⟩
  | cons x l ih =>
    obtain ⟨hx, hkeys⟩ := List.pairwise_cons.mp hkeys
    obtain ⟨events, hsettle, hevents⟩ := hgoes x List.mem_cons_self
    obtain ⟨k, a, hfold, hthere, hother⟩ := ih hkeys
      (fun y hy => hgoes y (List.mem_cons_of_mem x hy))
      ⟨(total.value.1 + count x.2, ⟨total.value.2.maps.insert x.1 (after x.2)⟩),
        total.events ++ events⟩ (quiet_append.mpr ⟨hquiet, hevents⟩)
    refine ⟨k, a, ?_, ?_, ?_⟩
    · rw [List.foldlM_cons, settleNext, hsettle]
      exact hfold
    · intro y hy
      rcases List.mem_cons.mp hy with rfl | hy
      · rw [hother y.1 fun z hz => (hx z hz).symm]
        simp
      · exact hthere y hy
    · intro number hnumber
      rw [hother number fun z hz => hnumber z (List.mem_cons_of_mem x hz)]
      have hne := hnumber x List.mem_cons_self
      simp only [Std.TreeMap.getElem?_insert, Std.LawfulEqCmp.compare_eq_iff_eq, if_neg hne]

/-- When every map settles, all of them do. -/
lemma settleAll_delivers {a : Atlas} {people : Population} {count : GameMap → Nat}
    {after : GameMap → GameMap}
    (h : ∀ id m, a.find? id = some m → Delivers (m.settle people) (count m, after m)) :
    ∃ k a', Delivers (a.settleAll people) (k, a') ∧ ∀ id, a'.find? id = (a.find? id).map after := by
  have hkeys : a.maps.toList.Pairwise fun x y => x.1 ≠ y.1 := by
    refine a.maps.distinct_keys_toList.imp ?_
    intro x y hne heq
    exact hne (Std.LawfulEqCmp.compare_eq_iff_eq.mpr heq)
  have hmem : ∀ number m, (number, m) ∈ a.maps.toList ↔ a.find? ⟨number⟩ = some m :=
    fun _ _ => Std.TreeMap.mem_toList_iff_getElem?_eq_some
  obtain ⟨k, a', hfold, hthere, hother⟩ := foldlM_settleNext count after hkeys
    (fun x hx => h ⟨x.1⟩ x.2 ((hmem x.1 x.2).mp hx)) ⟨(0, a), []⟩ quiet_nil
  refine ⟨k, a', ?_, ?_⟩
  · rw [settleAll, Std.TreeMap.foldlM_eq_foldlM_toList]
    exact hfold
  · intro id
    cases hm : a.find? id with
    | some m => exact hthere (id.number, m) ((hmem id.number m).mpr hm)
    | none =>
      refine (hother id.number ?_).trans hm
      intro x hx (heq : x.1 = id.number)
      obtain rfl : id = ⟨x.1⟩ := number_inj.mp heq.symm
      rw [(hmem x.1 x.2).mp hx] at hm
      cases hm

lemma take?_of_find? {a : Atlas} {id : MapId} {m : GameMap} (hm : a.find? id = some m) :
    a.take? id = (some m, (a.take? id).2) :=
  Prod.ext ((a.take?_eq id).trans hm) rfl

lemma take?_of_not_loaded {a : Atlas} {id : MapId} (hm : a.find? id = none) :
    a.take? id = (none, a) := by
  unfold take?
  rw [hm]

lemma unload_of_find? {a : Atlas} {id : MapId} {m : GameMap} (hm : a.find? id = some m)
    (people : Population) :
    (a.unload people id).value =
      (.ok (m.clear people).2.1, (a.take? id).2, (m.clear people).2.2) := by
  unfold unload
  rw [take?_of_find? hm]

lemma unload_of_not_loaded {a : Atlas} {id : MapId} (hm : a.find? id = none)
    (people : Population) :
    (a.unload people id).value = (.error (.mapNotLoaded id), a, people) := by
  unfold unload
  rw [take?_of_not_loaded hm]

lemma contains_eq (a : Atlas) (id : MapId) : a.contains id = (a.find? id).isSome :=
  Std.TreeMap.contains_eq_isSome_getElem?

end Atlas

/-- Between the two populations lies only traffic with one map: of what lived before, some things
that referred to this map or to none refer to this map or to none now. -/
structure Population.Traffic (p p' : Population) (id : MapId) : Prop where
  issued : ∀ k, p.Issued k → p'.Issued k
  live : ∀ k t', p'.get? k = some t' → ∃ t, p.get? k = some t ∧
    (t' = t ∨ (t.map = none ∨ t.map = some id) ∧
      (t'.map = some id ∨ t'.map = none ∧ t'.publicId = none))

namespace Population.Traffic

lemma refl (p : Population) (id : MapId) : p.Traffic p id where
  issued _ hk := hk
  live _ t ht := ⟨t, ht, .inl rfl⟩

lemma enter {p : Population} {h : Handle} {t : Thing} (ht : p.get? h = some t)
    (hmap : t.map = none) (id : MapId) (publicId : Option PublicId) :
    p.Traffic (p.modify h (·.enter id publicId)) id where
  issued _ hk := issued_modify.mpr hk
  live k t' ht' := by
    rw [get?_modify] at ht'
    by_cases hk : k = h
    · rw [if_pos hk, ht, Option.map_some, Option.some.injEq] at ht'
      subst hk ht'
      exact ⟨t, ht, .inr ⟨.inl hmap, .inl rfl⟩⟩
    · rw [if_neg hk] at ht'
      exact ⟨t', ht', .inl rfl⟩

lemma leaveAll {p : Population} {ts : List Handle} {id : MapId}
    (hts : ∀ h ∈ ts, ∀ t, p.get? h = some t → t.map = some id) :
    p.Traffic (p.modifyAll Thing.leave ts) id where
  issued _ hk := issued_modifyAll.mpr hk
  live k t' ht' := by
    rw [get?_modifyAll p Thing.leave_leave] at ht'
    by_cases hk : k ∈ ts
    · rw [if_pos hk] at ht'
      obtain ⟨t, ht, rfl⟩ := Option.map_eq_some_iff.mp ht'
      exact ⟨t, ht, .inr ⟨.inr (hts k hk t ht), .inr ⟨rfl, rfl⟩⟩⟩
    · rw [if_neg hk] at ht'
      exact ⟨t', ht', .inl rfl⟩

end Population.Traffic

/-- What is on no map has no public id. -/
def Population.Nameless (p : Population) : Prop :=
  ∀ h t, p.get? h = some t → t.map = none → t.publicId = none

lemma Population.Aside.nameless {p p' : Population} (h : p.Aside p') (hp : p.Nameless) :
    p'.Nameless := by
  intro k t' ht' hmap
  rcases h.live k t' ht' with ⟨t, ht, hstanding⟩ | ⟨-, -, hid⟩
  · have hsame : t'.map = t.map := congrArg (fun s => s.2.2.1) hstanding
    have hid : t'.publicId = t.publicId := congrArg (fun s => s.2.2.2) hstanding
    rw [hid]
    exact hp k t ht (hsame.symm.trans hmap)
  · exact hid

lemma Population.Traffic.nameless {p p' : Population} {id : MapId} (h : p.Traffic p' id)
    (hp : p.Nameless) : p'.Nameless := by
  intro k t' ht' hmap
  obtain ⟨t, ht, rfl | ⟨-, hthere | ⟨-, hid⟩⟩⟩ := h.live k t' ht'
  · exact hp k t' ht hmap
  · rw [hthere] at hmap
    cases hmap
  · exact hid

/-- Traffic with one map is no matter to another one. -/
lemma GameMap.Sound.of_traffic {m : GameMap} {p p' : Population} (hm : m.Sound p) {id : MapId}
    (h : p.Traffic p' id) (hne : id ≠ m.id) : m.Sound p' := by
  apply hm.of_people h.issued
  intro k t' ht'
  obtain ⟨t, ht, rfl | ⟨hbefore, hafter⟩⟩ := h.live k t' ht'
  · exact .inl ⟨t', ht, rfl⟩
  · right
    constructor
    · rcases hafter with hthere | ⟨hnone, -⟩
      · rw [hthere]
        exact fun heq => hne (Option.some.inj heq)
      · simp [hnone]
    · rintro e he rfl
      have hhere := (hm.tied.shows he ht).2.2.1
      rcases hbefore with hnone | hthere
      · rw [hnone] at hhere
        cases hhere
      · rw [hthere] at hhere
        exact hne (Option.some.inj hhere)

/-- What is called on a map, and not on the things alone. -/
def Call.onMap : Call → Bool
  | .insert _ | .erase _ | .settle | .clear => true
  | .spawn .. | .despawn _ | .moveTo .. | .beginTick _ => false

/-- A call on a map lets things in and out of this map, and does nothing else to them. -/
lemma World.Sound.traffic_step {w : World} {n : Nat} (h : w.Sound n) {c : Call} (hc : c.onMap) :
    w.people.Traffic (w.step c).people w.map.id := by
  have hlisted : ∀ e ∈ w.map.listed, ∀ t, w.people.get? e.thing = some t → t.map = some w.map.id :=
    fun e he t ht => (h.map.tied.shows he ht).2.2.1
  cases c with
  | spawn kind visible position => cases hc
  | despawn t => cases hc
  | moveTo t position => cases hc
  | beginTick t => cases hc
  | settle =>
    rw [h.people_settle]
    exact .refl w.people w.map.id
  | insert t =>
    rcases h.step_insert t with hsame | ⟨thing, id, m', ht, hmap, hstep, -⟩
    · rw [hsame]
      exact .refl w.people w.map.id
    · rw [hstep]
      exact .enter ht hmap w.map.id id
  | erase t =>
    rcases h.step_erase t with ⟨-, hsame⟩ | ⟨e, m', rfl, hstep, hlost⟩
    · rw [hsame]
      exact .refl w.people w.map.id
    · rw [hstep]
      have he := hlost.mem_listed
      have hgone : ∀ k ∈ [e.thing], ∀ t, w.people.get? k = some t → t.map = some w.map.id := by
        intro k hk t ht
        obtain rfl := List.mem_singleton.mp hk
        exact hlisted e he t ht
      exact .leaveAll hgone
  | clear =>
    apply Population.Traffic.leaveAll
    intro k hk t ht
    obtain ⟨e, he, rfl⟩ := GameMap.mem_things.mp hk
    exact hlisted e he t ht

structure Globe where
  people : Population
  atlas : Atlas

/-- What is asked of a globe. A request about a map that is not loaded does nothing. -/
inductive Request where
  | load (id : MapId) (name : String) (layout : Layout)
  | unload (id : MapId)
  | settleAll
  | spawn (kind : Kind) (visible : Bool) (position : Point)
  | despawn (t : Handle)
  | moveTo (t : Handle) (position : Point)
  | beginTick (t : Handle)
  | insert (id : MapId) (t : Handle)
  | erase (id : MapId) (t : Handle)
  | settle (id : MapId)
  | clear (id : MapId)
deriving DecidableEq

def Request.isSpawn : Request → Bool
  | spawn .. => true
  | _ => false

namespace Globe

/-- Nobody lives and no map is loaded. -/
def empty : Globe :=
  { people := .empty, atlas := .empty }

/-- Call a map, if it is loaded. -/
def visit (g : Globe) (id : MapId) (c : Call) : Except OutsideGrid Globe :=
  match g.atlas.take? id with
  | (none, _) => .ok g
  | (some m, atlas) => do
    let r ← World.attempt { people := g.people, map := m } c
    return { people := r.value.people, atlas := atlas.put r.value.map }

/-- Answer a request, which fails when a zone is looked up that is not there. -/
def attempt (g : Globe) : Request → Except OutsideGrid Globe
  | .load id name layout =>
    match (g.atlas.load id name layout).value with
    | .ok atlas => .ok { g with atlas }
    | .error _ => .ok g
  | .unload id =>
    let r := g.atlas.unload g.people id
    .ok { people := r.value.2.2, atlas := r.value.2.1 }
  | .settleAll => do
    let r ← g.atlas.settleAll g.people
    return { g with atlas := r.value.2 }
  | .spawn kind visible position =>
    .ok { g with people := (g.people.spawn (.fresh kind visible position)).2 }
  | .despawn t => .ok { g with people := (g.people.despawn t).value.2 }
  | .moveTo t position => .ok { g with people := g.people.modify t (·.moveTo position) }
  | .beginTick t => .ok { g with people := g.people.modify t Thing.beginTick }
  | .insert id t => g.visit id (.insert t)
  | .erase id t => g.visit id (.erase t)
  | .settle id => g.visit id .settle
  | .clear id => g.visit id .clear

/-- The globe after a request. A request that fails would leave it as it is, but none does. -/
def step (g : Globe) (r : Request) : Globe :=
  match g.attempt r with
  | .ok g' => g'
  | .error _ => g

def run (g : Globe) (requests : List Request) : Globe :=
  requests.foldl step g

/-- What holds of a globe after `n` spawns. -/
structure Sound (g : Globe) (n : Nat) : Prop where
  people : g.people.Sound n
  id_eq : ∀ id m, g.atlas.find? id = some m → m.id = id
  maps : ∀ id m, g.atlas.find? id = some m → m.Sound g.people
  loaded : ∀ h t, g.people.get? h = some t → ∀ id, t.map = some id → (g.atlas.find? id).isSome
  nameless : ∀ h t, g.people.get? h = some t → t.map = none → t.publicId = none

lemma find?_empty (id : MapId) : Atlas.empty.find? id = none :=
  Std.TreeMap.getElem?_emptyc

lemma sound_empty : empty.Sound 0 where
  people := Population.sound_empty
  id_eq id m hm := by simp [empty, find?_empty] at hm
  maps id m hm := by simp [empty, find?_empty] at hm
  loaded h t ht := by simp [empty, Population.get?_empty] at ht
  nameless h t ht := by simp [empty, Population.get?_empty] at ht

variable {g : Globe} {n : Nat}

lemma Sound.of_aside (h : g.Sound n) {people : Population} {n' : Nat} (hp : people.Sound n')
    (haside : g.people.Aside people) : Sound { g with people } n' where
  people := hp
  id_eq := h.id_eq
  maps id m hm := (h.maps id m hm).of_aside haside
  loaded k t' ht' id hmap := by
    rcases haside.live k t' ht' with ⟨t, ht, hstanding⟩ | ⟨-, hnone, -⟩
    · have hsame : t'.map = t.map := congrArg (fun s => s.2.2.1) hstanding
      exact h.loaded k t ht id (hsame.symm.trans hmap)
    · rw [hnone] at hmap
      cases hmap
  nameless := haside.nameless h.nameless

/-- The world that a loaded map makes with the population. -/
lemma Sound.world (h : g.Sound n) {id : MapId} {m : GameMap} (hm : g.atlas.find? id = some m) :
    World.Sound { people := g.people, map := m } n :=
  ⟨h.people, h.maps id m hm⟩

lemma step_eq {g' : Globe} {r : Request} (h : g.attempt r = .ok g') : g.step r = g' := by
  rw [step, h]

lemma Sound.visit_of_find? (h : g.Sound n) {id : MapId} {m : GameMap}
    (hm : g.atlas.find? id = some m) (c : Call) :
    let w := World.step { people := g.people, map := m } c
    g.visit id c = .ok { people := w.people, atlas := (g.atlas.take? id).2.put w.map } := by
  intro w
  obtain ⟨events, hattempt, -⟩ := (h.world hm).attempt_delivers c
  unfold visit
  rw [Atlas.take?_of_find? hm]
  simp only [hattempt, bind, Except.bind]
  rfl

lemma visit_of_not_loaded {id : MapId} (hm : g.atlas.find? id = none) (c : Call) :
    g.visit id c = .ok g := by
  unfold visit
  rw [Atlas.take?_of_not_loaded hm]

/-- After traffic with one map a globe is sound again if this map is, or is gone with everything
that was on it, and all others are as they were. -/
lemma Sound.of_traffic (h : g.Sound n) {people : Population} {atlas : Atlas} {id : MapId}
    (hp : people.Sound n) (htraffic : g.people.Traffic people id)
    (hother : ∀ id', id' ≠ id → atlas.find? id' = g.atlas.find? id')
    (hhere : ∀ m, atlas.find? id = some m → m.id = id ∧ m.Sound people)
    (hgone : atlas.find? id = none → ∀ k t, people.get? k = some t → t.map ≠ some id) :
    Sound { people, atlas } n where
  people := hp
  id_eq id' m hm := by
    by_cases hid : id' = id
    · subst hid
      exact (hhere m hm).1
    · rw [hother id' hid] at hm
      exact h.id_eq id' m hm
  maps id' m hm := by
    by_cases hid : id' = id
    · subst hid
      exact (hhere m hm).2
    · rw [hother id' hid] at hm
      apply (h.maps id' m hm).of_traffic htraffic
      rw [h.id_eq id' m hm]
      exact Ne.symm hid
  loaded k t' ht' id' hmap := by
    by_cases hid : id' = id
    · subst hid
      rw [← Option.ne_none_iff_isSome]
      intro hnone
      exact hgone hnone k t' ht' hmap
    · rw [hother id' hid]
      obtain ⟨t, ht, rfl | ⟨-, hthere | ⟨hnone, -⟩⟩⟩ := htraffic.live k t' ht'
      · exact h.loaded k t' ht id' hmap
      · rw [hthere] at hmap
        exact absurd (Option.some.inj hmap).symm hid
      · rw [hnone] at hmap
        cases hmap
  nameless := htraffic.nameless h.nameless

lemma Sound.visit (h : g.Sound n) (hn : n < 2 ^ 32) (id : MapId) {c : Call} (hc : c.onMap) :
    ∃ g', g.visit id c = .ok g' ∧ g'.Sound n := by
  cases hm : g.atlas.find? id with
  | none => exact ⟨g, visit_of_not_loaded hm c, h⟩
  | some m =>
    have hw := h.world hm
    have hid := h.id_eq id m hm
    have hsame := (hw.same_map_step c).1
    have hstep := hw.step hn c
    have hspawn : c.isSpawn = false := by
      cases c with
      | spawn => cases hc
      | _ => rfl
    have htraffic := hw.traffic_step hc
    rw [hspawn, Bool.toNat_false, Nat.add_zero] at hstep
    rw [hid] at hsame htraffic
    refine ⟨_, h.visit_of_find? hm c, ?_⟩
    apply h.of_traffic hstep.people htraffic
    · intro id' hne
      rw [Atlas.find?_put, hsame, if_neg hne, Atlas.find?_take?, if_neg hne]
    · intro m' hm'
      rw [Atlas.find?_put, hsame, if_pos rfl, Option.some.injEq] at hm'
      subst hm'
      exact ⟨hsame, hstep.map⟩
    · intro hnone
      rw [Atlas.find?_put, hsame, if_pos rfl] at hnone
      cases hnone

/-- Either nothing happens or an empty map is loaded under a number that was free. -/
lemma load_cases (g : Globe) (id : MapId) (name : String) (layout : Layout) :
    g.step (.load id name layout) = g ∨
      layout.check = .ok () ∧ g.atlas.find? id = none ∧
        g.step (.load id name layout) =
          { g with atlas := g.atlas.put (.build id name layout) } := by
  simp only [step, attempt, Atlas.load, Atlas.contains_eq]
  cases layout.check with
  | error fault => exact .inl rfl
  | ok =>
    cases g.atlas.find? id with
    | some m => exact .inl rfl
    | none => exact .inr ⟨rfl, rfl, rfl⟩

lemma Sound.load (h : g.Sound n) (id : MapId) (name : String) (layout : Layout) :
    (g.step (.load id name layout)).Sound n := by
  rcases g.load_cases id name layout with hsame | ⟨hcheck, hfree, hstep⟩
  · rwa [hsame]
  · rw [hstep]
    have hput := g.atlas.find?_put (.build id name layout)
    have hhere : (g.atlas.put (.build id name layout)).find? id = some (.build id name layout) :=
      (hput id).trans (if_pos rfl)
    apply h.of_traffic h.people (.refl g.people id)
    · intro id' hne
      exact (hput id').trans (if_neg hne)
    · intro m hm
      rw [hhere, Option.some.injEq] at hm
      subst hm
      refine ⟨rfl, GameMap.sound_build id name hcheck ?_⟩
      intro k t ht hmap
      have hloaded := h.loaded k t ht id hmap
      rw [hfree] at hloaded
      cases hloaded
    · intro hnone
      rw [hhere] at hnone
      cases hnone

lemma unload_of_find? {id : MapId} {m : GameMap} (hm : g.atlas.find? id = some m) :
    g.step (.unload id) =
      { people := g.people.modifyAll Thing.leave m.things, atlas := (g.atlas.take? id).2 } := by
  simp only [step, attempt, Atlas.unload_of_find? hm, GameMap.clear_people]

lemma unload_of_not_loaded {id : MapId} (hm : g.atlas.find? id = none) :
    g.step (.unload id) = g := by
  simp only [step, attempt, Atlas.unload_of_not_loaded hm]

lemma Sound.unload (h : g.Sound n) (hn : n < 2 ^ 32) (id : MapId) :
    (g.step (.unload id)).Sound n := by
  cases hm : g.atlas.find? id with
  | none => rwa [unload_of_not_loaded hm]
  | some m =>
    have hw := h.world hm
    have hstep := hw.step hn .clear
    have htraffic := hw.traffic_step (c := .clear) rfl
    have hid := h.id_eq id m hm
    rw [hid] at htraffic
    rw [unload_of_find? hm]
    apply h.of_traffic hstep.people htraffic
    · intro id' hne
      rw [Atlas.find?_take?, if_neg hne]
    · intro m' hm'
      rw [Atlas.find?_take?, if_pos rfl] at hm'
      cases hm'
    · intro _ k t ht hmap
      rw [← hid] at hmap
      obtain ⟨e, he, -⟩ := hstep.map.tied.listed k t ht hmap
      exact absurd he (Multiset.notMem_zero e)

lemma Sound.settleAll (h : g.Sound n) :
    ∃ g', g.attempt .settleAll = .ok g' ∧ g'.Sound n := by
  have hticks : ∀ m, ∃ k m', (∃ id, g.atlas.find? id = some m) →
      Delivers (m.settle g.people) (k, m') ∧ m.Ticked g.people k m' := by
    intro m
    by_cases hm : ∃ id, g.atlas.find? id = some m
    · obtain ⟨id, hid⟩ := hm
      obtain ⟨k, m', hticked⟩ := GameMap.settle_ticks (h.maps id m hid).occupancy g.people
      exact ⟨k, m', fun _ => hticked⟩
    · exact ⟨0, m, fun hloaded => absurd hloaded hm⟩
  choose count after hticks using hticks
  obtain ⟨k, atlas, ⟨events, hsettle, -⟩, hfind⟩ := Atlas.settleAll_delivers
    (fun id m hm => (hticks m ⟨id, hm⟩).1)
  refine ⟨{ g with atlas }, ?_, ?_⟩
  · rw [attempt, hsettle]
    rfl
  · constructor
    · exact h.people
    · intro id m' hm'
      rw [hfind, Option.map_eq_some_iff] at hm'
      obtain ⟨m, hm, rfl⟩ := hm'
      exact (hticks m ⟨id, hm⟩).2.id.trans (h.id_eq id m hm)
    · intro id m' hm'
      rw [hfind, Option.map_eq_some_iff] at hm'
      obtain ⟨m, hm, rfl⟩ := hm'
      exact (hticks m ⟨id, hm⟩).2.sound (h.maps id m hm)
    · intro k t ht id hmap
      rw [hfind, Option.isSome_map]
      exact h.loaded k t ht id hmap
    · exact h.nameless

/-- In a sound globe every request goes through. -/
theorem Sound.attempt_eq (h : g.Sound n) (hn : n < 2 ^ 32) (r : Request) :
    g.attempt r = .ok (g.step r) := by
  have hgoes : ∃ g', g.attempt r = .ok g' := by
    cases r with
    | load id name layout =>
      rw [attempt]
      split
      · exact ⟨_, rfl⟩
      · exact ⟨_, rfl⟩
    | settleAll =>
      obtain ⟨g', hg', -⟩ := h.settleAll
      exact ⟨g', hg'⟩
    | insert id t =>
      obtain ⟨g', hg', -⟩ := h.visit hn id (c := .insert t) rfl
      exact ⟨g', hg'⟩
    | erase id t =>
      obtain ⟨g', hg', -⟩ := h.visit hn id (c := .erase t) rfl
      exact ⟨g', hg'⟩
    | settle id =>
      obtain ⟨g', hg', -⟩ := h.visit hn id (c := .settle) rfl
      exact ⟨g', hg'⟩
    | clear id =>
      obtain ⟨g', hg', -⟩ := h.visit hn id (c := .clear) rfl
      exact ⟨g', hg'⟩
    | _ => exact ⟨_, rfl⟩
  obtain ⟨g', hg'⟩ := hgoes
  rw [step_eq hg', hg']

theorem Sound.step (h : g.Sound n) (hn : n < 2 ^ 32) (r : Request) :
    (g.step r).Sound (n + r.isSpawn.toNat) := by
  cases r with
  | load id name layout => exact h.load id name layout
  | unload id => exact h.unload hn id
  | settleAll =>
    obtain ⟨g', hg', hsound⟩ := h.settleAll
    rwa [step_eq hg']
  | spawn kind visible position =>
    exact h.of_aside (h.people.spawn hn _) (h.people.aside_spawn hn rfl rfl)
  | despawn t => exact h.of_aside (h.people.despawn hn t) (h.people.aside_despawn hn t)
  | moveTo t position =>
    exact h.of_aside (h.people.modify t _) (g.people.aside_modify t (fun _ => rfl))
  | beginTick t =>
    exact h.of_aside (h.people.modify t _) (g.people.aside_modify t (fun _ => rfl))
  | insert id t =>
    obtain ⟨g', hg', hsound⟩ := h.visit hn id (c := .insert t) rfl
    rwa [step_eq (r := .insert id t) hg']
  | erase id t =>
    obtain ⟨g', hg', hsound⟩ := h.visit hn id (c := .erase t) rfl
    rwa [step_eq (r := .erase id t) hg']
  | settle id =>
    obtain ⟨g', hg', hsound⟩ := h.visit hn id (c := .settle) rfl
    rwa [step_eq (r := .settle id) hg']
  | clear id =>
    obtain ⟨g', hg', hsound⟩ := h.visit hn id (c := .clear) rfl
    rwa [step_eq (r := .clear id) hg']

theorem Sound.run (h : g.Sound n) {requests : List Request}
    (hn : n + requests.countP Request.isSpawn < 2 ^ 32) :
    (g.run requests).Sound (n + requests.countP Request.isSpawn) := by
  induction requests generalizing g n with
  | nil => exact h
  | cons r requests ih =>
    rw [countP_cons_toNat, ← Nat.add_assoc] at hn ⊢
    exact ih (h.step (by omega) r) hn

/-- Every run keeps the globe sound. -/
theorem sound_run {requests : List Request} (hn : requests.countP Request.isSpawn < 2 ^ 32) :
    (empty.run requests).Sound (requests.countP Request.isSpawn) := by
  rw [← Nat.zero_add (requests.countP Request.isSpawn)] at hn ⊢
  exact sound_empty.run hn

end Globe

end Whereabouts
