import Whereabouts.Proofs.IdPools
import Whereabouts.Proofs.Settling

/-!
# The books of a map

A map keeps three books: the roster, the zones and the public ids. `Occupancy.Sound` says that they
agree, and each change to them that a map makes is shown here to keep it.
-/

namespace Whereabouts

lemma exists_mem_cons {α : Type} {p : α → Prop} {a : α} {s : Multiset α} :
    (∃ x ∈ a ::ₘ s, p x) ↔ p a ∨ ∃ x ∈ s, p x := by
  simp only [Multiset.mem_cons, or_and_right, exists_or, exists_eq_left]

/-- The pool gives its ids to exactly the entries that should have one. -/
structure Named (ids : IdPool) (es : Multiset Entry) : Prop where
  sound : ids.Sound
  holder_iff : ∀ id t, ids.holder id = some t ↔ ∃ e ∈ es, e.publicId = some id ∧ e.thing = t
  taken_eq : ids.taken = es.countP fun e => e.publicId.isSome
  publicId_iff : ∀ e ∈ es, e.publicId.isSome ↔ e.zone.isSome ∧ e.kind.movable

lemma named_empty : Named .empty 0 where
  sound := IdPool.sound_empty
  holder_iff id t := by simp [IdPool.empty, IdPool.holder]
  taken_eq := rfl
  publicId_iff e he := by simp at he

lemma Named.cons_unnamed {ids : IdPool} {es : Multiset Entry} (h : Named ids es) {e : Entry}
    (hid : e.publicId = none) (he : ¬(e.zone.isSome ∧ e.kind.movable)) : Named ids (e ::ₘ es) where
  sound := h.sound
  holder_iff id t := by
    rw [h.holder_iff]
    simp [hid]
  taken_eq := by
    rw [h.taken_eq, Multiset.countP_cons_of_neg _ (by simp [hid])]
  publicId_iff e' he' := by
    rcases Multiset.mem_cons.mp he' with rfl | hmem
    · simpa [hid] using he
    · exact h.publicId_iff e' hmem

lemma Named.cons_granted {ids ids' : IdPool} {es : Multiset Entry} (h : Named ids es) {e : Entry}
    {id : PublicId} (hid : e.publicId = some id) (he : e.zone.isSome ∧ e.kind.movable)
    (hgranted : ids.Granted e.thing id ids') : Named ids' (e ::ₘ es) where
  sound := hgranted.sound
  holder_iff id' t := by
    have hfree : ∀ e' ∈ es, e'.publicId ≠ some id := by
      intro e' he' heq
      have hheld := (h.holder_iff id e'.thing).mpr ⟨e', he', heq, rfl⟩
      rw [hgranted.holder_before] at hheld
      cases hheld
    rw [hgranted.holder_after, exists_mem_cons, hid]
    by_cases hid' : id' = id
    · subst hid'
      have hno : ¬∃ e' ∈ es, e'.publicId = some id' ∧ e'.thing = t := by
        rintro ⟨e', he', heq, -⟩
        exact hfree e' he' heq
      simp [hno]
    · rw [if_neg hid', h.holder_iff]
      simp [Ne.symm hid']
  taken_eq := by
    rw [hgranted.taken_after, h.taken_eq, Multiset.countP_cons_of_pos _ (by simp [hid])]
  publicId_iff e' he' := by
    rcases Multiset.mem_cons.mp he' with rfl | hmem
    · simp [hid, he]
    · exact h.publicId_iff e' hmem

lemma Named.of_cons_unnamed {ids : IdPool} {es : Multiset Entry} {e : Entry}
    (h : Named ids (e ::ₘ es)) (hid : e.publicId = none) : Named ids es where
  sound := h.sound
  holder_iff id t := by
    rw [h.holder_iff, exists_mem_cons]
    simp [hid]
  taken_eq := by
    rw [h.taken_eq, Multiset.countP_cons_of_neg _ (by simp [hid])]
  publicId_iff e' he' := h.publicId_iff e' (Multiset.mem_cons_of_mem he')

lemma Named.release {ids : IdPool} {es : Multiset Entry} {e : Entry} {id : PublicId}
    (h : Named ids (e ::ₘ es)) (hid : e.publicId = some id)
    (hother : ∀ e' ∈ es, e'.thing ≠ e.thing) :
    (ids.release id).events = [] ∧ Named (ids.release id).value es := by
  have hheld := (h.holder_iff id e.thing).mpr ⟨e, Multiset.mem_cons_self e es, hid, rfl⟩
  obtain ⟨hevents, hsound, hholder, htaken⟩ := IdPool.release_spec h.sound hheld
  refine ⟨hevents, hsound, ?_, ?_, ?_⟩
  · intro id' t
    rw [hholder]
    by_cases hid' : id' = id
    · subst hid'
      have hno : ¬∃ e' ∈ es, e'.publicId = some id' ∧ e'.thing = t := by
        rintro ⟨e', he', heq, -⟩
        have hheld' := (h.holder_iff id' e'.thing).mpr
          ⟨e', Multiset.mem_cons_of_mem he', heq, rfl⟩
        rw [hheld] at hheld'
        exact hother e' he' (Option.some.inj hheld').symm
      simp [hno]
    · rw [if_neg hid', h.holder_iff, exists_mem_cons, hid]
      simp [Ne.symm hid']
  · have hcount := h.taken_eq
    rw [Multiset.countP_cons_of_pos _ (by simp [hid])] at hcount
    omega
  · intro e' he'
    exact h.publicId_iff e' (Multiset.mem_cons_of_mem he')

/-- The ids do not depend on which zone an entry is in. -/
lemma Named.map {ids : IdPool} {es : Multiset Entry} (h : Named ids es) {f : Entry → Entry}
    (hf : ∀ e, (f e).thing = e.thing ∧ (f e).kind = e.kind ∧ (f e).publicId = e.publicId ∧
      (f e).zone.isSome = e.zone.isSome) : Named ids (es.map f) where
  sound := h.sound
  holder_iff id t := by
    rw [h.holder_iff]
    simp [hf]
  taken_eq := by
    rw [h.taken_eq, Multiset.countP_map, Multiset.countP_eq_card_filter]
    simp only [hf]
  publicId_iff e' he' := by
    obtain ⟨e, he, rfl⟩ := Multiset.mem_map.mp he'
    rw [(hf e).2.1, (hf e).2.2.1, (hf e).2.2.2]
    exact h.publicId_iff e he

/-- The grid once the thing of an entry stands where the entry says, if it says anything. -/
def Grid.place (g : Grid) (e : Entry) : Grid :=
  match e.zone with
  | none => g
  | some z => g.edit z (·.insert e.thing e.kind)

lemma Grid.shape_place (g : Grid) (e : Entry) : (g.place e).shape = g.shape := by
  unfold place
  split
  · rfl
  · rfl

lemma Grid.departed_place (g : Grid) (e : Entry) {y x : ZoneId} :
    (g.place e).Departed y x ↔ g.Departed y x := by
  unfold place
  split
  · rfl
  · exact departed_edit (fun zone => Zone.departures_insert zone _ _) _

lemma Grid.Holds.place {g : Grid} {es : Multiset Entry} (hg : g.Holds es) {e : Entry}
    (he : ∀ z, e.zone = some z → g.contains z) : (g.place e).Holds (e ::ₘ es) := by
  unfold Grid.place
  split
  · next hz => exact hg.cons_unplaced hz
  · next z hz => exact hg.insert hz (he z hz)

/-- The grid once the thing of an entry is out of where the entry says, if it says anything. -/
def Grid.displace (g : Grid) (e : Entry) : Grid :=
  match e.zone with
  | none => g
  | some z => g.edit z fun zone => (zone.erase e.thing e.kind).value.2

lemma Grid.displace_of_none {g : Grid} {e : Entry} (hz : e.zone = none) : g.displace e = g := by
  unfold displace
  rw [hz]

/-- The thing of an entry is found where the entry says. -/
lemma Grid.Holds.erase_eq_displace {g : Grid} {es : Multiset Entry} {e : Entry} {z : ZoneId}
    (hg : g.Holds (e ::ₘ es)) (hz : e.zone = some z) :
    g.erase z e.thing e.kind = .ok ⟨(true, g.displace e), []⟩ ∧
      ∃ i, g.displace e = g.edit z (·.eraseAt i) ∧ (g.displace e).Holds es := by
  obtain ⟨zone, i, hzone, hi, herase, hholds⟩ := hg.erase hz
  have hdisplace : g.displace e = g.edit z (·.eraseAt i) := by
    simp only [displace, hz]
    apply edit_congr
    intro zone' hzone'
    obtain rfl := Option.some.inj (hzone.symm.trans hzone')
    simp only [Zone.erase, hi]
  rw [hdisplace]
  exact ⟨herase, i, rfl, hholds⟩

lemma Grid.Holds.displace {g : Grid} {es : Multiset Entry} {e : Entry} (hg : g.Holds (e ::ₘ es)) :
    (g.displace e).Holds es ∧ (g.displace e).shape = g.shape ∧
      ∀ y x, (g.displace e).Departed y x ↔ g.Departed y x := by
  cases hz : e.zone with
  | none =>
    rw [displace_of_none hz]
    exact ⟨hg.of_cons_unplaced hz, rfl, fun y x => Iff.rfl⟩
  | some z =>
    obtain ⟨-, i, hdisplace, hholds⟩ := hg.erase_eq_displace hz
    refine ⟨hholds, ?_, ?_⟩
    · rw [hdisplace]
      rfl
    · intro y x
      rw [hdisplace]
      exact departed_edit (fun zone => Zone.departures_eraseAt zone i) z

lemma IdPool.quiet_grant (p : IdPool) (t : Handle) : Quiet (p.grant t).events := by
  unfold grant
  split
  · exact quiet_nil
  · dsimp only
    split
    · exact quiet_nil
    · exact quiet_singleton nofun

/-- Take back the id of an entry, if it has one. -/
def IdPool.recover (ids : IdPool) (e : Entry) : Report IdPool :=
  match e.publicId with
  | some id => ids.release id
  | none => ⟨ids, []⟩

lemma Named.recover {ids : IdPool} {es : Multiset Entry} {e : Entry} (h : Named ids (e ::ₘ es))
    (hother : ∀ e' ∈ es, e'.thing ≠ e.thing) :
    (ids.recover e).events = [] ∧ Named (ids.recover e).value es := by
  unfold IdPool.recover
  split
  · next id hid => exact h.release hid hother
  · next hid => exact ⟨rfl, h.of_cons_unnamed hid⟩

namespace Occupancy

structure Sound (o : Occupancy) : Prop where
  numbered : o.grid.Numbered
  indexed : o.roster.Indexed
  holds : o.grid.Holds o.roster.listed
  named : Named o.ids o.roster.listed
  departed_inside : ∀ y x, o.grid.Departed y x → o.grid.contains x

lemma zone_ofLayout {l : Layout} {z : ZoneId} {zone : Zone}
    (h : (Grid.ofLayout l).zone? z = some zone) : zone = .empty := by
  simp only [Grid.ofLayout, Grid.zone?, Array.getElem?_replicate] at h
  split at h
  · exact (Option.some.inj h).symm
  · cases h

theorem sound_ofLayout {l : Layout} (h : l.check = .ok ()) : (ofLayout l).Sound where
  numbered := Grid.numbered_ofLayout h
  indexed := Roster.indexed_empty
  holds := by
    constructor
    · intro e he
      exact absurd he (Multiset.notMem_zero e)
    · intro z zone hzone p
      rw [zone_ofLayout hzone]
      cases p <;> rfl
  named := named_empty
  departed_inside := by
    rintro y x ⟨zone, hzone, hx⟩
    rw [zone_ofLayout hzone] at hx
    exact absurd hx (Region.not_mem_empty x)

/-- The entry that listing a thing makes. -/
def entryOf (o : Occupancy) (t : Handle) (kind : Kind) (position : Option Point)
    (publicId : Option PublicId) : Entry :=
  { thing := t, kind, zone := position.map o.grid.zoneAt, publicId }

/-- A thing can be listed when the zone that its entry names is there. -/
lemma enlist_eq {o : Occupancy} {t : Handle} {kind : Kind} {position : Option Point}
    {publicId : Option PublicId}
    (h : ∀ z, (o.entryOf t kind position publicId).zone = some z → o.grid.contains z) :
    o.enlist t kind position publicId = .ok
      { o with
        grid := o.grid.place (o.entryOf t kind position publicId)
        roster := o.roster.add (o.entryOf t kind position publicId) } := by
  cases position with
  | none => rfl
  | some p =>
    have hzone : o.grid.contains (o.grid.zoneAt p) := h _ rfl
    simp only [enlist, Option.map_some, Grid.insert, Grid.modify_eq hzone, bind, Except.bind]
    rfl

theorem Sound.add {o : Occupancy} (ho : o.Sound) {e : Entry}
    (hnew : ∀ e' ∈ o.roster.listed, e'.thing ≠ e.thing)
    (hinside : ∀ z, e.zone = some z → o.grid.contains z) {ids : IdPool}
    (hnamed : Named ids (e ::ₘ o.roster.listed)) :
    Sound { grid := o.grid.place e, ids, roster := o.roster.add e } where
  numbered := (Grid.numbered_congr (o.grid.shape_place e)).mpr ho.numbered
  indexed := ho.indexed.add hnew
  holds := by
    rw [Roster.listed_add]
    exact ho.holds.place hinside
  named := by
    rw [Roster.listed_add]
    exact hnamed
  departed_inside y x hx := by
    rw [Grid.contains_congr (o.grid.shape_place e)]
    exact ho.departed_inside y x ((Grid.departed_place _ e).mp hx)

/-- The occupancy once an entry is off the roster, its thing out of its zone and its id free. -/
def without (o : Occupancy) (e : Entry) : Occupancy where
  grid := o.grid.displace e
  ids := (o.ids.recover e).value
  roster := (o.roster.erase e.thing).2

lemma strike_eq {o : Occupancy} {e : Entry} (h : (o.roster.erase e.thing).1 = some e)
    {es : Multiset Entry} (ho : o.grid.Holds (e ::ₘ es)) :
    o.strike e.thing = .ok ⟨(some e, o.without e), (o.ids.recover e).events⟩ := by
  unfold strike without
  generalize o.roster.erase e.thing = er at *
  obtain ⟨found, roster⟩ := er
  subst h
  dsimp only
  cases hz : e.zone with
  | none =>
    rw [Grid.displace_of_none hz]
    rfl
  | some z =>
    have herase := (ho.erase_eq_displace hz).1
    simp only [herase, bind, Except.bind]
    rfl

/-- An occupancy that has given up an entry and nothing else. -/
structure Struck (o : Occupancy) (e : Entry) (o' : Occupancy) : Prop where
  sound : o'.Sound
  listed : o.roster.listed = e ::ₘ o'.roster.listed
  shape : o'.grid.shape = o.grid.shape
  departed : ∀ y x, o'.grid.Departed y x ↔ o.grid.Departed y x

/-- What is listed can be struck, and the safeguards on the way are not needed. -/
theorem strike_of_listed {o : Occupancy} (ho : o.Sound) {e : Entry} (he : e ∈ o.roster.listed) :
    o.strike e.thing = .ok ⟨(some e, o.without e), []⟩ ∧ o.Struck e (o.without e) := by
  obtain ⟨hfst, hlisted⟩ := ho.indexed.listed_erase he rfl
  have hholds := ho.holds
  have hnamed := ho.named
  rw [hlisted] at hholds hnamed
  obtain ⟨hplaced, hshape, hdeparted⟩ := hholds.displace
  obtain ⟨hids, hnamed'⟩ := hnamed.recover (ho.indexed.ne_of_listed_eq hlisted)
  have hstrike := strike_eq hfst hholds
  rw [hids] at hstrike
  refine ⟨hstrike, ⟨?_, ho.indexed.erase e.thing, hplaced, hnamed', ?_⟩, hlisted, hshape,
    hdeparted⟩
  · exact (Grid.numbered_congr hshape).mpr ho.numbered
  · intro y x hx
    have hinside := ho.departed_inside y x ((hdeparted y x).mp hx)
    rwa [← Grid.contains_congr hshape] at hinside

theorem strike_of_unlisted {o : Occupancy} (ho : o.Sound) {t : Handle}
    (ht : ∀ e ∈ o.roster.listed, e.thing ≠ t) : o.strike t = .ok ⟨(none, o), []⟩ := by
  have hnone := ho.indexed.index_eq_none_iff.mpr ht
  rw [strike, Roster.erase_of_index_none hnone]
  rfl

namespace Settled

variable {people : Population} {o o' : Occupancy} {n : Nat}

lemma listed (h : Settled people o n o') :
    o'.roster.listed = o.roster.listed.map (Entry.settled o.grid people) := by
  rw [Roster.listed, Roster.listed, h.entries, Multiset.map_coe]

lemma things (h : Settled people o n o') : o'.roster.things = o.roster.things := by
  rw [Roster.things, Roster.things, h.entries, List.map_map]
  rfl

lemma indexed (h : Settled people o n o') (ho : o.roster.Indexed) : o'.roster.Indexed := by
  intro t i
  have hget : o'.roster.entries[i]?.map Entry.thing = o.roster.entries[i]?.map Entry.thing := by
    have hthings := congrArg (·[i]?) h.things
    simpa [Roster.things] using hthings
  rw [h.index, hget]
  exact ho t i

theorem sound (h : Settled people o n o') (ho : o.Sound) : o'.Sound where
  numbered := (Grid.numbered_congr h.shape).mpr ho.numbered
  indexed := h.indexed ho.indexed
  holds := h.holds
  named := by
    rw [h.ids, h.listed]
    apply ho.named.map
    intro e
    exact ⟨rfl, rfl, rfl, e.isSome_due o.grid people⟩
  departed_inside := by
    intro y x hx
    obtain ⟨e, he, hy, hdue, hne⟩ := (h.departed y x).mp hx
    rw [Grid.contains_congr h.shape]
    exact Entry.contains_due ho.numbered (ho.holds.inside e he) hdue

end Settled

end Occupancy

end Whereabouts
