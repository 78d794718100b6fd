import Whereabouts.GameMap
import Whereabouts.Proofs.Bookkeeping
import Whereabouts.Proofs.Handles

/-!
# Things and their maps

A living thing that a map lists refers back to the map, and a thing that refers to the map is
listed there. Things enter and leave through the map alone, so nothing is listed twice: a thing
that is listed is either alive and refers to the map, or its handle is not given out again.
-/

namespace Whereabouts

/-- What a thing shows of itself in the entry that lists it. -/
def Thing.standing (t : Thing) : Kind × Bool × Option MapId × Option PublicId :=
  (t.kind, t.visible, t.map, t.publicId)

/-- What the thing of an entry shows of itself as long as it lives. -/
def Entry.standing (e : Entry) (id : MapId) : Kind × Bool × Option MapId × Option PublicId :=
  (e.kind, e.zone.isSome, some id, e.publicId)

lemma Thing.leave_leave (t : Thing) : t.leave.leave = t.leave := rfl

lemma Thing.beginTick_beginTick (t : Thing) : t.beginTick.beginTick = t.beginTick := rfl

namespace Population

/-- The second population comes of the first one without any map: what lives in it shows the same of
itself as before, or is new and on no map. -/
structure Aside (p p' : Population) : Prop where
  issued : ∀ k, p.Issued k → p'.Issued k
  live : ∀ k t', p'.get? k = some t' →
    (∃ t, p.get? k = some t ∧ t'.standing = t.standing) ∨
      ¬p.Issued k ∧ t'.map = none ∧ t'.publicId = none

lemma Sound.aside_spawn {p : Population} {n : Nat} (hp : p.Sound n) (hn : n < 2 ^ 32) {t : Thing}
    (hmap : t.map = none) (hid : t.publicId = none) : p.Aside (p.spawn t).2 where
  issued k hk := issued_spawn hp hn t hk
  live k t' ht' := by
    rw [get?_spawn hp hn] at ht'
    by_cases hk : k = (p.spawn t).1
    · rw [if_pos hk, Option.some.injEq] at ht'
      subst hk ht'
      exact .inr ⟨not_issued_spawn hp hn t, hmap, hid⟩
    · rw [if_neg hk] at ht'
      exact .inl ⟨t', ht', rfl⟩

lemma Sound.aside_despawn {p : Population} {n : Nat} (hp : p.Sound n) (hn : n < 2 ^ 32)
    (h : Handle) : p.Aside (p.despawn h).value.2 where
  issued k hk := issued_despawn hp hn h hk
  live k t' ht' := by
    rw [get?_despawn] at ht'
    split at ht'
    · cases ht'
    · exact .inl ⟨t', ht', rfl⟩

/-- An edit of a thing that does not touch what it shows of itself. -/
lemma aside_modify (p : Population) (h : Handle) {f : Thing → Thing}
    (hf : ∀ t : Thing, (f t).standing = t.standing) : p.Aside (p.modify h f) where
  issued k hk := issued_modify.mpr hk
  live k t' ht' := by
    rw [get?_modify] at ht'
    split at ht'
    · next hk =>
      obtain ⟨t, ht, rfl⟩ := Option.map_eq_some_iff.mp ht'
      exact .inl ⟨t, hk ▸ ht, hf t⟩
    · exact .inl ⟨t', ht', rfl⟩

end Population

namespace GameMap

/-- The entries of a map, whatever their order. -/
def listed (m : GameMap) : Multiset Entry :=
  m.occupancy.roster.listed

/-- The entries of a map and the things of a population refer to each other. -/
structure Tied (m : GameMap) (people : Population) : Prop where
  issued : ∀ e ∈ m.listed, people.Issued e.thing
  agrees : ∀ e ∈ m.listed, ∀ t, people.get? e.thing = some t → t.standing = e.standing m.id
  listed : ∀ h t, people.get? h = some t → t.map = some m.id → ∃ e ∈ m.listed, e.thing = h

/-- What holds of a map and the population its things live in, whatever was done to them. -/
structure Sound (m : GameMap) (people : Population) : Prop where
  layout_ok : m.layout.check = .ok ()
  shape : m.grid.shape = (Grid.ofLayout m.layout).shape
  occupancy : m.occupancy.Sound
  tied : m.Tied people

/-- The two maps differ in nothing but in who is on them. -/
structure SameGround (m m' : GameMap) : Prop where
  id : m'.id = m.id
  layout : m'.layout = m.layout
  shape : m'.grid.shape = m.grid.shape
  departed : ∀ y x, m'.grid.Departed y x ↔ m.grid.Departed y x

lemma SameGround.refl (m : GameMap) : m.SameGround m :=
  ⟨rfl, rfl, rfl, fun _ _ => Iff.rfl⟩

lemma SameGround.trans {m m' m'' : GameMap} (h : m.SameGround m') (h' : m'.SameGround m'') :
    m.SameGround m'' where
  id := h'.id.trans h.id
  layout := h'.layout.trans h.layout
  shape := h'.shape.trans h.shape
  departed y x := (h'.departed y x).trans (h.departed y x)

lemma sound_build (id : MapId) (name : String) {l : Layout} (hl : l.check = .ok ())
    {people : Population} (hpeople : ∀ h t, people.get? h = some t → t.map ≠ some id) :
    (build id name l).Sound people where
  layout_ok := hl
  shape := rfl
  occupancy := Occupancy.sound_ofLayout hl
  tied := by
    constructor
    · intro e he
      exact absurd he (Multiset.notMem_zero e)
    · intro e he
      exact absurd he (Multiset.notMem_zero e)
    · intro h t ht hmap
      exact absurd hmap (hpeople h t ht)

section

variable {m m' : GameMap} {people people' : Population}

lemma Tied.shows (h : m.Tied people) {e : Entry} (he : e ∈ m.listed) {t : Thing}
    (ht : people.get? e.thing = some t) :
    t.kind = e.kind ∧ t.visible = e.zone.isSome ∧ t.map = some m.id ∧ t.publicId = e.publicId := by
  have hstanding := h.agrees e he t ht
  simpa only [Thing.standing, Entry.standing, Prod.mk.injEq] using hstanding

/-- A change of the population that keeps what the things of the map show of themselves. -/
lemma Tied.of_people (h : m.Tied people) (hissued : ∀ k, people.Issued k → people'.Issued k)
    (hlive : ∀ k t', people'.get? k = some t' →
      (∃ t, people.get? k = some t ∧ t'.standing = t.standing) ∨
        t'.map ≠ some m.id ∧ ∀ e ∈ m.listed, e.thing ≠ k) :
    m.Tied people' where
  issued e he := hissued e.thing (h.issued e he)
  agrees e he t' ht' := by
    rcases hlive e.thing t' ht' with ⟨t, ht, hstanding⟩ | ⟨-, hnot⟩
    · rw [hstanding]
      exact h.agrees e he t ht
    · exact absurd rfl (hnot e he)
  listed k t' ht' hmap := by
    rcases hlive k t' ht' with ⟨t, ht, hstanding⟩ | ⟨hnot, -⟩
    · have hmaps := congrArg (fun s => s.2.2.1) hstanding
      exact h.listed k t ht (hmaps.symm.trans hmap)
    · exact absurd hmap hnot

lemma Sound.of_people (h : m.Sound people) (hissued : ∀ k, people.Issued k → people'.Issued k)
    (hlive : ∀ k t', people'.get? k = some t' →
      (∃ t, people.get? k = some t ∧ t'.standing = t.standing) ∨
        t'.map ≠ some m.id ∧ ∀ e ∈ m.listed, e.thing ≠ k) :
    m.Sound people' where
  layout_ok := h.layout_ok
  shape := h.shape
  occupancy := h.occupancy
  tied := h.tied.of_people hissued hlive

/-- What happens to the things alone is no matter to a map. -/
lemma Sound.of_aside (h : m.Sound people) (hp : people.Aside people') : m.Sound people' := by
  apply h.of_people hp.issued
  intro k t' ht'
  rcases hp.live k t' ht' with hold | ⟨hnew, hmap, -⟩
  · exact .inl hold
  · refine .inr ⟨by simp [hmap], ?_⟩
    rintro e he rfl
    exact hnew (h.tied.issued e he)

/-! Putting a thing on a map -/

/-- The entry that a map makes for a thing. -/
def entryFor (m : GameMap) (t : Handle) (thing : Thing) (publicId : Option PublicId) : Entry :=
  m.occupancy.entryOf t thing.kind (if thing.visible then some thing.position else none) publicId

lemma zone_entryFor (m : GameMap) (t : Handle) (thing : Thing) (publicId : Option PublicId) :
    (m.entryFor t thing publicId).zone =
      if thing.visible then some (m.grid.zoneAt thing.position) else none := by
  unfold entryFor Occupancy.entryOf
  dsimp only
  split
  · rfl
  · rfl

lemma isSome_zone_entryFor (m : GameMap) (t : Handle) (thing : Thing)
    (publicId : Option PublicId) : (m.entryFor t thing publicId).zone.isSome = thing.visible := by
  rw [zone_entryFor]
  cases thing.visible
  · rfl
  · rfl

/-- The zone that a map makes an entry for is one of its own. -/
lemma Sound.contains_entryFor (hm : m.Sound people) (t : Handle) (thing : Thing)
    (publicId : Option PublicId) {z : ZoneId} (hz : (m.entryFor t thing publicId).zone = some z) :
    m.occupancy.grid.contains z := by
  rw [zone_entryFor] at hz
  split at hz
  · rw [← Option.some.inj hz]
    exact Grid.contains_zoneAt hm.occupancy.numbered _
  · cases hz

/-- The map once an entry is on the roster and its thing in its zone, with the pool of ids that this
takes. -/
def withEntry (m : GameMap) (e : Entry) (ids : IdPool) : GameMap :=
  { m with
    occupancy :=
      { grid := m.occupancy.grid.place e
        ids
        roster := m.occupancy.roster.add e } }

/-- What becomes of a map that receives a thing. -/
lemma Sound.receive_eq (hm : m.Sound people) (t : Handle) (thing : Thing)
    (publicId : Option PublicId) (ids : IdPool) :
    receive { m with occupancy := { m.occupancy with ids } } people t thing publicId =
      .ok (m.withEntry (m.entryFor t thing publicId) ids,
        people.modify t (·.enter m.id publicId)) := by
  have henlist := Occupancy.enlist_eq (o := { m.occupancy with ids })
    fun z hz => hm.contains_entryFor t thing publicId hz
  simp only [receive, henlist, bind, Except.bind]
  rfl

/-- Whether a thing is due a public id can be told from its entry. -/
lemma named_entryFor (m : GameMap) (t : Handle) (thing : Thing) (publicId : Option PublicId) :
    (m.entryFor t thing publicId).zone.isSome ∧ (m.entryFor t thing publicId).kind.movable ↔
      (thing.visible && thing.movable) = true := by
  rw [isSome_zone_entryFor, Bool.and_eq_true]
  rfl

/-- The map lists one more entry. -/
structure Gained (m : GameMap) (e : Entry) (m' : GameMap) : Prop extends SameGround m m' where
  sound : m'.occupancy.Sound
  listed : m'.listed = e ::ₘ m.listed

lemma Sound.gained_withEntry (hm : m.Sound people) {t : Handle} {thing : Thing}
    (hnew : ∀ e ∈ m.listed, e.thing ≠ t) {publicId : Option PublicId} {ids : IdPool}
    (hnamed : Named ids (m.entryFor t thing publicId ::ₘ m.listed)) :
    Gained m (m.entryFor t thing publicId) (m.withEntry (m.entryFor t thing publicId) ids) := by
  refine ⟨⟨rfl, rfl, Grid.shape_place _ _, ?_⟩, ?_, Roster.listed_add _ _⟩
  · intro y x
    exact Grid.departed_place _ _
  · exact hm.occupancy.add (e := m.entryFor t thing publicId) hnew
      (fun z => hm.contains_entryFor t thing publicId) hnamed

/-- A thing that refers to no map is not listed, also if its slot was used before. -/
lemma Sound.not_listed (hm : m.Sound people) {t : Handle} {thing : Thing}
    (ht : people.get? t = some thing) (hmap : thing.map = none) : ∀ e ∈ m.listed, e.thing ≠ t := by
  rintro e he rfl
  have hhere := (hm.tied.shows he ht).2.2.1
  rw [hmap] at hhere
  cases hhere

/-! The five ways in which a request to be let in ends. -/

section

variable {t : Handle} {thing : Thing}

lemma insert_of_dead (ht : people.get? t = none) :
    Delivers (m.insert people t) (.error (.unknownThing t), m, people) := by
  unfold insert
  rw [ht]
  exact .pure _

lemma insert_of_elsewhere (ht : people.get? t = some thing) {other : MapId}
    (hmap : thing.map = some other) :
    Delivers (m.insert people t) (.error (.alreadyOnMap t other), m, people) := by
  unfold insert
  simp only [ht, hmap]
  exact .pure _

lemma Sound.insert_unnamed (hm : m.Sound people) (ht : people.get? t = some thing)
    (hmap : thing.map = none) (hid : ¬(thing.visible && thing.movable) = true) :
    Delivers (m.insert people t) (.ok none,
      m.withEntry (m.entryFor t thing none) m.occupancy.ids,
      people.modify t (·.enter m.id none)) := by
  have hreceive := hm.receive_eq t thing none m.occupancy.ids
  unfold insert
  simp only [ht, hmap, if_neg hid, hreceive, bind, Except.bind]
  exact .pure _

lemma insert_none_left (ht : people.get? t = some thing) (hmap : thing.map = none)
    (hid : (thing.visible && thing.movable) = true)
    (hgrant : (m.occupancy.ids.grant t).value = (none, m.occupancy.ids)) :
    Delivers (m.insert people t) (.error (.idsExhausted m.id), m, people) := by
  have hquiet := m.occupancy.ids.quiet_grant t
  unfold insert Occupancy.reserve
  simp only [ht, hmap, if_pos hid, hgrant]
  exact ⟨_, rfl, quiet_append.mpr ⟨hquiet, quiet_singleton nofun⟩⟩

lemma Sound.insert_named (hm : m.Sound people) (ht : people.get? t = some thing)
    (hmap : thing.map = none) (hid : (thing.visible && thing.movable) = true) {id : PublicId}
    {ids : IdPool} (hgrant : (m.occupancy.ids.grant t).value = (some id, ids)) :
    Delivers (m.insert people t) (.ok (some id),
      m.withEntry (m.entryFor t thing (some id)) ids,
      people.modify t (·.enter m.id (some id))) := by
  have hquiet := m.occupancy.ids.quiet_grant t
  have hreceive := hm.receive_eq t thing (some id) ids
  unfold insert Occupancy.reserve
  simp only [ht, hmap, if_pos hid, hgrant, hreceive, bind, Except.bind]
  exact ⟨_, rfl, hquiet⟩

end

/-- Either nothing happens or a living thing that was on no map enters this one. -/
theorem Sound.insert_cases (hm : m.Sound people) (t : Handle) :
    (∃ r, Delivers (m.insert people t) (.error r, m, people)) ∨
      ∃ thing id m', people.get? t = some thing ∧ thing.map = none ∧
        Delivers (m.insert people t) (.ok id, m', people.modify t (·.enter m.id id)) ∧
        Gained m (m.entryFor t thing id) m' := by
  cases ht : people.get? t with
  | none => exact .inl ⟨_, insert_of_dead ht⟩
  | some thing =>
    cases hmap : thing.map with
    | some other => exact .inl ⟨_, insert_of_elsewhere ht hmap⟩
    | none =>
      have hnew := hm.not_listed ht hmap
      have hnamed := hm.occupancy.named
      by_cases hid : (thing.visible && thing.movable) = true
      · rcases IdPool.grant_spec hnamed.sound t with hnone | ⟨id, hgrant, hgranted⟩
        · exact .inl ⟨_, insert_none_left ht hmap hid hnone⟩
        · have hnamed' := hnamed.cons_granted (e := m.entryFor t thing (some id)) rfl
            ((m.named_entryFor t thing _).mpr hid) hgranted
          have hinsert := hm.insert_named ht hmap hid (Prod.ext (y := (_, _)) hgrant rfl)
          exact .inr ⟨thing, some id, _, rfl, hmap, hinsert, hm.gained_withEntry hnew hnamed'⟩
      · have hnamed' := hnamed.cons_unnamed (e := m.entryFor t thing none) rfl
          (fun h => hid ((m.named_entryFor t thing none).mp h))
        exact .inr ⟨thing, none, _, rfl, hmap, hm.insert_unnamed ht hmap hid,
          hm.gained_withEntry hnew hnamed'⟩

theorem Gained.sound_enter {t : Handle} {thing : Thing} {id : Option PublicId}
    (h : Gained m (m.entryFor t thing id) m') (hm : m.Sound people)
    (ht : people.get? t = some thing) (hmap : thing.map = none) :
    m'.Sound (people.modify t (·.enter m.id id)) where
  layout_ok := h.layout ▸ hm.layout_ok
  shape := by rw [h.shape, hm.shape, h.layout]
  occupancy := h.sound
  tied := by
    have hnot := hm.not_listed ht hmap
    constructor
    · intro e he
      rw [Population.issued_modify]
      rw [h.listed, Multiset.mem_cons] at he
      rcases he with rfl | he
      · exact Population.issued_of_get? ht
      · exact hm.tied.issued e he
    · intro e he x hx
      rw [h.listed, Multiset.mem_cons] at he
      rw [Population.get?_modify] at hx
      rcases he with rfl | he
      · have hself : (m.entryFor t thing id).thing = t := rfl
        rw [if_pos hself, ht, Option.map_some, Option.some.injEq] at hx
        rw [← hx, Entry.standing, isSome_zone_entryFor, h.id]
        rfl
      · rw [if_neg (hnot e he)] at hx
        rw [h.id]
        exact hm.tied.agrees e he x hx
    · intro k x hx hxmap
      rw [h.listed]
      rw [Population.get?_modify] at hx
      by_cases hk : k = t
      · exact ⟨_, Multiset.mem_cons_self _ _, hk.symm⟩
      · rw [if_neg hk] at hx
        obtain ⟨e, he, hek⟩ := hm.tied.listed k x hx (h.id ▸ hxmap)
        exact ⟨e, Multiset.mem_cons_of_mem he, hek⟩

/-! Taking a thing off a map -/

/-- The map lists one entry less. -/
structure Lost (m : GameMap) (e : Entry) (m' : GameMap) : Prop extends SameGround m m' where
  sound : m'.occupancy.Sound
  listed : m.listed = e ::ₘ m'.listed

lemma Lost.mem_listed {e : Entry} (h : Lost m e m') : e ∈ m.listed := by
  rw [h.listed]
  exact Multiset.mem_cons_self e m'.listed

/-- When an entry is struck its thing, if it still lives, leaves. -/
lemma Sound.erase_of_listed (hm : m.Sound people) {e : Entry} (he : e ∈ m.listed) :
    Delivers (m.erase people e.thing)
        (.ok (), { m with occupancy := m.occupancy.without e },
          people.modify e.thing Thing.leave) ∧
      Lost m e { m with occupancy := m.occupancy.without e } := by
  obtain ⟨hstrike, hstruck⟩ := Occupancy.strike_of_listed hm.occupancy he
  refine ⟨?_, ⟨rfl, rfl, hstruck.shape, hstruck.departed⟩, hstruck.sound, hstruck.listed⟩
  unfold erase
  simp only [hstrike, bind, Except.bind]
  by_cases hlive : people.contains e.thing
  · rw [if_pos hlive]
    exact .pure _
  · have hdead : people.get? e.thing = none := by
      simpa [Population.contains] using hlive
    rw [if_neg hlive, Population.modify_of_dead hdead]
    exact ⟨_, rfl, quiet_singleton nofun⟩

lemma Sound.erase_of_unlisted (hm : m.Sound people) {t : Handle}
    (ht : ∀ e ∈ m.listed, e.thing ≠ t) :
    Delivers (m.erase people t) (.error (.notOnMap t m.id), m, people) := by
  unfold erase
  simp only [Occupancy.strike_of_unlisted hm.occupancy ht, bind, Except.bind]
  exact .pure _

/-- Either nothing happens or an entry goes and its thing, if it still lives, leaves. -/
theorem Sound.erase_cases (hm : m.Sound people) (t : Handle) :
    (∀ e ∈ m.listed, e.thing ≠ t) ∧
        (∃ r, Delivers (m.erase people t) (.error r, m, people)) ∨
      ∃ e m', e.thing = t ∧
        Delivers (m.erase people t) (.ok (), m', people.modify t Thing.leave) ∧ Lost m e m' := by
  by_cases hlisted : ∃ e ∈ m.listed, e.thing = t
  · obtain ⟨e, he, rfl⟩ := hlisted
    exact .inr ⟨e, _, rfl, hm.erase_of_listed he⟩
  · have hnot : ∀ e ∈ m.listed, e.thing ≠ t := by
      intro e he hte
      exact hlisted ⟨e, he, hte⟩
    exact .inl ⟨hnot, _, hm.erase_of_unlisted hnot⟩

theorem Lost.sound_leave {e : Entry} (h : Lost m e m') (hm : m.Sound people) :
    m'.Sound (people.modify e.thing Thing.leave) where
  layout_ok := h.layout ▸ hm.layout_ok
  shape := by rw [h.shape, hm.shape, h.layout]
  occupancy := h.sound
  tied := by
    have hother := hm.occupancy.indexed.ne_of_listed_eq h.listed
    have hsub : ∀ e' ∈ m'.listed, e' ∈ m.listed := by
      intro e' he'
      rw [h.listed]
      exact Multiset.mem_cons_of_mem he'
    constructor
    · intro e' he'
      rw [Population.issued_modify]
      exact hm.tied.issued e' (hsub e' he')
    · intro e' he' x hx
      rw [Population.get?_modify, if_neg (hother e' he')] at hx
      rw [h.id]
      exact hm.tied.agrees e' (hsub e' he') x hx
    · intro k x hx hxmap
      rw [Population.get?_modify] at hx
      by_cases hk : k = e.thing
      · rw [if_pos hk, Option.map_eq_some_iff] at hx
        obtain ⟨y, -, rfl⟩ := hx
        cases hxmap
      · rw [if_neg hk] at hx
        obtain ⟨e', he', hek⟩ := hm.tied.listed k x hx (h.id ▸ hxmap)
        rw [h.listed, Multiset.mem_cons] at he'
        rcases he' with rfl | he'
        · exact absurd hek.symm hk
        · exact ⟨e', he', hek⟩

/-! Ending the tick, and clearing the map -/

/-- The map when the tick is over. -/
structure Ticked (m : GameMap) (people : Population) (crossings : Nat) (m' : GameMap) : Prop where
  id : m'.id = m.id
  layout : m'.layout = m.layout
  settled : Occupancy.Settled people m.occupancy crossings m'.occupancy

theorem settle_ticks (ho : m.occupancy.Sound) (people : Population) :
    ∃ n m', Delivers (m.settle people) (n, m') ∧ m.Ticked people n m' := by
  obtain ⟨n, o, ⟨events, hsettle, hquiet⟩, hsettled⟩ :=
    Occupancy.settle_settles ho.numbered ho.holds people
  refine ⟨n, { m with occupancy := o }, ⟨if n = 0 then events else events ++ [.crossings m.name n],
    ?_, ?_⟩, rfl, rfl, hsettled⟩
  · simp only [settle, hsettle, bind, Except.bind]
    rfl
  · split
    · exact hquiet
    · exact quiet_append.mpr ⟨hquiet, quiet_singleton nofun⟩

lemma Ticked.listed {n : Nat} (h : m.Ticked people n m') :
    m'.listed = m.listed.map (Entry.settled m.grid people) :=
  h.settled.listed

lemma standing_settled (g : Grid) (p : Population) (e : Entry) (id : MapId) :
    (e.settled g p).standing id = e.standing id := by
  rw [Entry.standing, Entry.standing, Entry.settled, Entry.isSome_due]

theorem Ticked.sound {n : Nat} (h : m.Ticked people n m') (hm : m.Sound people) :
    m'.Sound people where
  layout_ok := h.layout ▸ hm.layout_ok
  shape := (h.settled.shape.trans hm.shape).trans (by rw [h.layout])
  occupancy := h.settled.sound hm.occupancy
  tied := by
    constructor
    · intro e he
      rw [h.listed, Multiset.mem_map] at he
      obtain ⟨e, he, rfl⟩ := he
      exact hm.tied.issued e he
    · intro e he t ht
      rw [h.listed, Multiset.mem_map] at he
      obtain ⟨e, he, rfl⟩ := he
      rw [standing_settled, h.id]
      exact hm.tied.agrees e he t ht
    · intro k t ht hmap
      rw [h.id] at hmap
      obtain ⟨e, he, hek⟩ := hm.tied.listed k t ht hmap
      rw [h.listed]
      exact ⟨_, Multiset.mem_map_of_mem _ he, hek⟩

lemma clear_people (m : GameMap) (people : Population) :
    (m.clear people).2.2 = people.modifyAll Thing.leave m.things := rfl

lemma mem_things {t : Handle} : t ∈ m.things ↔ ∃ e ∈ m.listed, e.thing = t :=
  List.mem_map

theorem Sound.clear (hm : m.Sound people) : (m.clear people).2.1.Sound (m.clear people).2.2 := by
  apply sound_build m.id m.name hm.layout_ok
  intro k t ht
  rw [clear_people, Population.get?_modifyAll people Thing.leave_leave] at ht
  split at ht
  · obtain ⟨x, -, rfl⟩ := Option.map_eq_some_iff.mp ht
    intro hmap
    cases hmap
  · next hk =>
    intro hmap
    exact hk (mem_things.mpr (hm.tied.listed k t ht hmap))

end

end GameMap

end Whereabouts
