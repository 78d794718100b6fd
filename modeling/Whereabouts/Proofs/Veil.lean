import Whereabouts.Proofs.Frames
import Whereabouts.Proofs.Relocation
import Whereabouts.Proofs.Residence

/-!
# Invisible things leave no trace

A map lists an invisible thing, but gives it neither a place nor a public id. To tell that nothing
else depends on it, a run is compared with the run in which invisible things are never put on the
map nor taken off. Their entries change the order of the roster, and with it the order in which
things change zone when the tick ends. This order has no say in the outcome, so the two runs give
the same answers, the same ids and the same zones.
-/

namespace Whereabouts

lemma Grid.Holds.placed {g : Grid} {es : Multiset Entry} (hg : g.Holds es) :
    g.Holds (es.filter (·.zone.isSome)) where
  inside e he := hg.inside e (Multiset.mem_of_mem_filter he)
  parts z zone hzone p := by
    rw [hg.parts z zone hzone, residents, residents, Multiset.filter_filter]
    congr 1
    apply Multiset.filter_congr
    intro e _
    constructor
    · rintro ⟨hz, hp⟩
      exact ⟨⟨hz, hp⟩, by rw [hz]; rfl⟩
    · rintro ⟨h, -⟩
      exact h

namespace GameMap

/-- The two maps are those of a run and of the run that spares the things under the handles `V`.
They differ in the entries of these things and in the order of the others. -/
structure Veils (V : List Handle) (m m' : GameMap) : Prop where
  id : m'.id = m.id
  layout : m'.layout = m.layout
  ids : m'.occupancy.ids = m.occupancy.ids
  departed : ∀ y x, m'.grid.Departed y x ↔ m.grid.Departed y x
  listed : m'.listed = m.listed.filter (·.zone.isSome)
  placed : ∀ e ∈ m.listed, e.zone.isSome ↔ e.thing ∉ V

variable {V : List Handle} {m m' a a' : GameMap} {people people' : Population} {e : Entry}

lemma entryFor_congr (h : m'.grid.shape = m.grid.shape) (t : Handle) (thing : Thing)
    (publicId : Option PublicId) : m'.entryFor t thing publicId = m.entryFor t thing publicId := by
  have hzone : m'.occupancy.grid.zoneAt = m.occupancy.grid.zoneAt := funext (Grid.zoneAt_congr h)
  rw [entryFor, entryFor, Occupancy.entryOf, Occupancy.entryOf, hzone]

lemma Ticked.crossings_eq {k : Nat} (h : m.Ticked people k a) :
    k = m.listed.countP fun e => e.due m.grid people ≠ e.zone := by
  rw [h.settled.crossings_eq, ← Multiset.coe_countP]
  rfl

/-- To take off what is not placed leaves the ids as they are. -/
lemma Sound.ids_without_of_unplaced (hm : m.Sound people) (he : e ∈ m.listed)
    (hz : e.zone = none) : (m.occupancy.without e).ids = m.occupancy.ids := by
  have hnameless : e.publicId = none := by
    rw [← Option.not_isSome_iff_eq_none, hm.occupancy.named.publicId_iff e he, hz]
    simp
  rw [Occupancy.without, IdPool.recover, hnameless]

/-- What a request to be let in is answered, and what it makes of the ids, depends on the thing and
on the ids alone. -/
lemma Sound.insert_congr {t : Handle} (hm : m.Sound people) (hm' : m'.Sound people')
    (hid : m'.id = m.id) (hids : m'.occupancy.ids = m.occupancy.ids)
    (ht : people'.get? t = people.get? t) :
    ∃ answer r r', Delivers (m.insert people t) (answer, r) ∧
      Delivers (m'.insert people' t) (answer, r') ∧
      r'.1.occupancy.ids = r.1.occupancy.ids := by
  cases hthing : people.get? t with
  | none => exact ⟨_, _, _, insert_of_dead hthing, insert_of_dead (ht.trans hthing), hids⟩
  | some thing =>
    have hthing' := ht.trans hthing
    cases hmap : thing.map with
    | some other =>
      exact ⟨_, _, _, insert_of_elsewhere hthing hmap, insert_of_elsewhere hthing' hmap, hids⟩
    | none =>
      by_cases hname : (thing.visible && thing.movable) = true
      · rcases IdPool.grant_spec hm.occupancy.named.sound t with hnone | ⟨id, hgranted, -⟩
        · have hnone' := insert_none_left hthing' hmap hname (by rw [hids, hnone])
          rw [hid] at hnone'
          exact ⟨_, _, _, insert_none_left hthing hmap hname hnone, hnone', hids⟩
        · have hgrant : (m.occupancy.ids.grant t).value = (some id, _) := Prod.ext hgranted rfl
          have hgrant' := hgrant
          rw [← hids] at hgrant'
          exact ⟨_, _, _, hm.insert_named hthing hmap hname hgrant,
            hm'.insert_named hthing' hmap hname hgrant', by rw [hids]; rfl⟩
      · exact ⟨_, _, _, hm.insert_unnamed hthing hmap hname,
          hm'.insert_unnamed hthing' hmap hname, hids⟩

namespace Veils

lemma shape (h : m.Veils V m') (hm : m.Sound people) (hm' : m'.Sound people') :
    m'.grid.shape = m.grid.shape := by
  rw [hm'.shape, hm.shape, h.layout]

theorem alike (h : m.Veils V m') (hm : m.Sound people) (hm' : m'.Sound people') :
    m'.grid.Alike m.grid := by
  apply Grid.alike_of_holds (h.shape hm hm') hm'.occupancy.holds
  · have hplaced := hm.occupancy.holds.placed
    have hlisted : m'.occupancy.roster.listed = _ := h.listed
    rw [hlisted]
    exact hplaced
  · exact h.departed

lemma mem_listed_iff (h : m.Veils V m') (he : e.thing ∉ V) : e ∈ m'.listed ↔ e ∈ m.listed := by
  rw [h.listed, Multiset.mem_filter]
  constructor
  · rintro ⟨hmem, -⟩
    exact hmem
  · intro hmem
    exact ⟨hmem, (h.placed e hmem).mpr he⟩

lemma mem_things_iff (h : m.Veils V m') {t : Handle} (ht : t ∉ V) :
    t ∈ m'.things ↔ t ∈ m.things := by
  rw [mem_things, mem_things]
  constructor
  · rintro ⟨e, he, rfl⟩
    exact ⟨e, (h.mem_listed_iff ht).mp he, rfl⟩
  · rintro ⟨e, he, rfl⟩
    exact ⟨e, (h.mem_listed_iff ht).mpr he, rfl⟩

/-- The spared things are one more, which no map lists yet. -/
lemma cons (h : m.Veils V m') {t : Handle} (ht : ∀ e ∈ m.listed, e.thing ≠ t) :
    m.Veils (t :: V) m' :=
  { h with
    placed := by
      intro e he
      rw [h.placed e he, List.mem_cons, or_iff_right (ht e he)] }

/-- The two maps list the same thing more. -/
lemma gained (h : m.Veils V m') (hg : m.Gained e a) (hg' : m'.Gained e a') (he : e.thing ∉ V)
    (hz : e.zone.isSome) (hids : a'.occupancy.ids = a.occupancy.ids) : a.Veils V a' where
  id := by rw [hg'.id, hg.id, h.id]
  layout := by rw [hg'.layout, hg.layout, h.layout]
  ids := hids
  departed y x := by rw [hg'.departed, hg.departed, h.departed]
  listed := by
    rw [hg'.listed, hg.listed, h.listed,
      Multiset.filter_cons_of_pos (p := fun e : Entry => e.zone.isSome) _ hz]
  placed e' he' := by
    rw [hg.listed, Multiset.mem_cons] at he'
    rcases he' with rfl | he'
    · exact iff_of_true hz he
    · exact h.placed e' he'

/-- The full map lists one of the spared things more. -/
lemma gained_left (h : m.Veils V m') (hg : m.Gained e a) (he : e.thing ∈ V) (hz : e.zone = none)
    (hids : a.occupancy.ids = m.occupancy.ids) : a.Veils V m' where
  id := by rw [hg.id, h.id]
  layout := by rw [hg.layout, h.layout]
  ids := h.ids.trans hids.symm
  departed y x := by rw [hg.departed, h.departed]
  listed := by rw [hg.listed, h.listed, Multiset.filter_cons_of_neg _ (by simp [hz])]
  placed e' he' := by
    rw [hg.listed, Multiset.mem_cons] at he'
    rcases he' with rfl | he'
    · exact iff_of_false (by simp [hz]) (not_not.mpr he)
    · exact h.placed e' he'

/-- The two maps have lost the same thing. -/
lemma lost (h : m.Veils V m') (hl : m.Lost e a) (hl' : m'.Lost e a')
    (hids : a'.occupancy.ids = a.occupancy.ids) : a.Veils V a' where
  id := by rw [hl'.id, hl.id, h.id]
  layout := by rw [hl'.layout, hl.layout, h.layout]
  ids := hids
  departed y x := by rw [hl'.departed, hl.departed, h.departed]
  listed := by
    have hlisted := h.listed
    have hz : e.zone.isSome := by
      have hmem := hl'.mem_listed
      rw [hlisted] at hmem
      exact (Multiset.mem_filter.mp hmem).2
    rw [hl'.listed, hl.listed,
      Multiset.filter_cons_of_pos (p := fun e : Entry => e.zone.isSome) _ hz] at hlisted
    exact (Multiset.cons_inj_right e).mp hlisted
  placed e' he' := h.placed e' (hl.listed ▸ Multiset.mem_cons_of_mem he')

/-- The full map has lost one of the spared things. -/
lemma lost_left (h : m.Veils V m') (hl : m.Lost e a) (he : e.thing ∈ V)
    (hids : a.occupancy.ids = m.occupancy.ids) : a.Veils V m' where
  id := by rw [hl.id, h.id]
  layout := by rw [hl.layout, h.layout]
  ids := h.ids.trans hids.symm
  departed y x := by rw [hl.departed, h.departed]
  listed := by
    have hz : ¬e.zone.isSome := by
      rw [h.placed e hl.mem_listed]
      exact not_not.mpr he
    rw [h.listed, hl.listed, Multiset.filter_cons_of_neg (p := fun e : Entry => e.zone.isSome) _ hz]
  placed e' he' := h.placed e' (hl.listed ▸ Multiset.mem_cons_of_mem he')

lemma build (h : m.Veils V m') :
    (GameMap.build m.id m.name m.layout).Veils V (.build m'.id m'.name m'.layout) where
  id := h.id
  layout := h.layout
  ids := rfl
  departed y x := by
    rw [h.layout]
    rfl
  listed := rfl
  placed e he := absurd he (Multiset.notMem_zero e)

/-- Where a thing is due is the same for all that the two maps share. -/
lemma due_congr (h : m.Veils V m') (hm : m.Sound people) (hm' : m'.Sound people')
    (hsame : ∀ k ∉ V, people'.get? k = people.get? k) (he : e ∈ m.listed) (hz : e.zone.isSome) :
    e.due m'.grid people' = e.due m.grid people := by
  rw [Entry.due_congr (h.shape hm hm')]
  simp only [Entry.due, hsame e.thing ((h.placed e he).mp hz)]

/-- An entry without a zone goes nowhere, so the two maps see the same things change zone. -/
lemma crossings_congr (h : m.Veils V m') (hm : m.Sound people) (hm' : m'.Sound people')
    (hsame : ∀ k ∉ V, people'.get? k = people.get? k) {k k' : Nat} (ht : m.Ticked people k a)
    (ht' : m'.Ticked people' k' a') : k' = k := by
  rw [ht'.crossings_eq, ht.crossings_eq, h.listed, Multiset.countP_filter]
  apply Multiset.countP_congr rfl
  intro e he
  apply propext
  by_cases hz : e.zone.isSome
  · rw [h.due_congr hm hm' hsame he hz, and_iff_left hz]
  · have hnone : e.zone = none := Option.not_isSome_iff_eq_none.mp hz
    have hdue : e.due m.grid people = e.zone := (Entry.due_eq_none_iff.mpr hnone).trans hnone.symm
    refine iff_of_false ?_ (not_not.mpr hdue)
    rintro ⟨-, hz'⟩
    exact hz hz'

lemma settle (h : m.Veils V m') (hm : m.Sound people) (hm' : m'.Sound people')
    (hsame : ∀ k ∉ V, people'.get? k = people.get? k) {k k' : Nat} (ht : m.Ticked people k a)
    (ht' : m'.Ticked people' k' a') : a.Veils V a' where
  id := by rw [ht'.id, ht.id, h.id]
  layout := by rw [ht'.layout, ht.layout, h.layout]
  ids := by rw [ht'.settled.ids, ht.settled.ids, h.ids]
  departed y x := by
    have hleft : ∀ e, e ∈ m'.listed ∧ e.zone = some y ∧ e.due m'.grid people' = some x ∧ x ≠ y ↔
        e ∈ m.listed ∧ e.zone = some y ∧ e.due m.grid people = some x ∧ x ≠ y := by
      intro e
      rw [h.listed, Multiset.mem_filter, and_assoc]
      refine and_congr_right fun he => ?_
      constructor
      · rintro ⟨hz, hsource, hdue, hne⟩
        exact ⟨hsource, h.due_congr hm hm' hsame he hz ▸ hdue, hne⟩
      · rintro ⟨hsource, hdue, hne⟩
        have hz : e.zone.isSome := by rw [hsource]; rfl
        exact ⟨hz, hsource, (h.due_congr hm hm' hsame he hz).trans hdue, hne⟩
    exact (ht'.settled.departed y x).trans
      ((exists_congr hleft).trans (ht.settled.departed y x).symm)
  listed := by
    rw [ht'.listed, ht.listed, h.listed, Multiset.filter_map]
    have hplaced : ((fun e : Entry => e.zone.isSome = true) ∘ Entry.settled m.grid people) =
        fun e : Entry => e.zone.isSome = true := by
      funext e
      exact congrArg (· = true) (e.isSome_due m.grid people)
    simp only [hplaced]
    apply Multiset.map_congr rfl
    intro e he
    obtain ⟨he, hz⟩ := Multiset.mem_filter.mp he
    rw [Entry.settled, Entry.settled, h.due_congr hm hm' hsame he hz]
  placed e' he' := by
    rw [ht.listed, Multiset.mem_map] at he'
    obtain ⟨e, he, rfl⟩ := he'
    rw [Entry.settled, e.isSome_due m.grid people]
    exact h.placed e he

end Veils

end GameMap

/-- Whether a call puts one of these things on the map or takes it off. -/
def Call.concerns (ts : List Handle) : Call → Bool
  | insert t => ts.contains t
  | erase t => ts.contains t
  | _ => false

lemma Call.isSpawn_of_concerns {c : Call} {ts : List Handle} (h : c.concerns ts) :
    c.isSpawn = false := by
  cases c with
  | spawn => cases h
  | _ => rfl

namespace World

/-- The handles of the things that were spawned invisible, which are those in `V` and the one that
the call spawns. -/
def veil (w : World) (V : List Handle) : Call → List Handle
  | .spawn kind visible position =>
    if visible then V else (w.people.spawn (.fresh kind visible position)).1 :: V
  | _ => V

/-- The handles of the things that were spawned invisible by the end of a run. -/
def hidden (w : World) (V : List Handle) : List Call → List Handle
  | [] => V
  | c :: calls => (w.step c).hidden (w.veil V c) calls

/-- The calls of a run without those that put an invisible thing on the map or take it off. -/
def kept (w : World) (V : List Handle) : List Call → List Call
  | [] => []
  | c :: calls =>
    let rest := (w.step c).kept (w.veil V c) calls
    if c.concerns V then rest else c :: rest

lemma kept_append (w : World) (V : List Handle) (before after : List Call) :
    w.kept V (before ++ after) =
      w.kept V before ++ (w.run before).kept (w.hidden V before) after := by
  induction before generalizing w V with
  | nil => rfl
  | cons c before ih =>
    rw [List.cons_append, kept, kept, ih]
    split
    · rfl
    · rfl

lemma countP_kept (w : World) (V : List Handle) (calls : List Call) :
    (w.kept V calls).countP Call.isSpawn = calls.countP Call.isSpawn := by
  induction calls generalizing w V with
  | nil => rfl
  | cons c calls ih =>
    rw [kept, countP_cons_toNat]
    split
    · next hc =>
      rw [ih, Call.isSpawn_of_concerns hc, Bool.toNat_false, Nat.zero_add]
    · rw [countP_cons_toNat, ih]

lemma kept_sublist (w : World) (V : List Handle) (calls : List Call) :
    (w.kept V calls).Sublist calls := by
  induction calls generalizing w V with
  | nil => exact .slnil
  | cons c calls ih =>
    rw [kept]
    split
    · exact (ih _ _).cons c
    · exact (ih _ _).cons_cons c

/-- The two worlds are those of a run and of its kept calls. -/
structure Veils (V : List Handle) (w w' : World) : Prop where
  people : w.people.Veils V w'.people
  map : w.map.Veils V w'.map

variable {w w' : World} {V : List Handle} {n : Nat} {t : Handle}

lemma veils_start (id : MapId) (name : String) (l : Layout) :
    (start id name l).Veils [] (start id name l) where
  people :=
    { frame := .refl _
      same := fun _ _ => rfl
      visible := by
        intro k t ht
        simp [start, Population.get?_empty] at ht
      issued := fun k hk => absurd hk List.not_mem_nil }
  map :=
    { id := rfl
      layout := rfl
      ids := rfl
      departed := fun _ _ => Iff.rfl
      listed := rfl
      placed := fun e he => absurd he (Multiset.notMem_zero e) }

namespace Veils

lemma insert (hv : w.Veils V w') (h : w.Sound n) (h' : w'.Sound n) (ht : t ∉ V) :
    (∃ answer, answered (w.map.insert w.people t) = some answer ∧
        answered (w'.map.insert w'.people t) = some answer) ∧
      (w.step (.insert t)).Veils V (w'.step (.insert t)) := by
  have hsame := hv.people.same t ht
  obtain ⟨answer, r, r', hr, hr', hids⟩ :=
    h.map.insert_congr h'.map hv.map.id hv.map.ids hsame
  refine ⟨⟨answer, hr.answered, hr'.answered⟩, ?_⟩
  rcases h.map.insert_cases t with ⟨fault, hx⟩ | ⟨thing, id, m, hthing, -, hx, hgained⟩
  · cases hr.unique hx
    rcases h'.map.insert_cases t with ⟨fault', hx'⟩ | ⟨thing', id', m', -, -, hx', -⟩
    · rw [World.step_eq (attempt_insert hx), World.step_eq (attempt_insert hx')]
      exact hv
    · cases hr'.unique hx'
  · cases hr.unique hx
    rcases h'.map.insert_cases t with ⟨fault', hx'⟩ | ⟨thing', id', m', hthing', -, hx', hgained'⟩
    · cases hr'.unique hx'
    · cases hr'.unique hx'
      have hthings : thing' = thing := Option.some.inj (hthing'.symm.trans (hsame.trans hthing))
      rw [hthings, GameMap.entryFor_congr (hv.map.shape h.map h'.map)] at hgained'
      rw [World.step_eq (attempt_insert hx), World.step_eq (attempt_insert hx'), hv.map.id]
      refine ⟨hv.people.modify t fun _ => rfl, ?_⟩
      apply hv.map.gained hgained hgained' ht ?_ hids
      rw [GameMap.isSome_zone_entryFor]
      exact (hv.people.visible t thing hthing).mpr ht

/-- The full run lets an invisible thing in. -/
lemma insert_left (hv : w.Veils V w') (h : w.Sound n) (ht : t ∈ V) :
    (w.step (.insert t)).Veils V w' := by
  rcases h.map.insert_cases t with ⟨r, hr⟩ | ⟨thing, id, m, hthing, hmap, hr, hgained⟩
  · rw [World.step_eq (attempt_insert hr)]
    exact hv
  · have hinvisible : thing.visible = false := by
      have hiff := hv.people.visible t thing hthing
      simpa [ht] using hiff
    have hz : (w.map.entryFor t thing id).zone = none := by
      rw [GameMap.zone_entryFor, hinvisible]
      rfl
    have hids : m.occupancy.ids = w.map.occupancy.ids := by
      have hx := h.map.insert_unnamed hthing hmap (by simp [hinvisible])
      cases hr.unique hx
      rfl
    rw [World.step_eq (attempt_insert hr)]
    exact ⟨hv.people.modify_left ht fun _ => rfl, hv.map.gained_left hgained ht hz hids⟩

lemma erase (hv : w.Veils V w') (h : w.Sound n) (h' : w'.Sound n) (ht : t ∉ V) :
    (∃ answer, answered (w.map.erase w.people t) = some answer ∧
        answered (w'.map.erase w'.people t) = some answer) ∧
      (w.step (.erase t)).Veils V (w'.step (.erase t)) := by
  by_cases hlisted : ∃ e ∈ w.map.listed, e.thing = t
  · obtain ⟨e, he, rfl⟩ := hlisted
    have he' := (hv.map.mem_listed_iff ht).mpr he
    obtain ⟨hx, hlost⟩ := h.map.erase_of_listed he
    obtain ⟨hx', hlost'⟩ := h'.map.erase_of_listed he'
    refine ⟨⟨_, hx.answered, hx'.answered⟩, ?_⟩
    rw [World.step_eq (attempt_erase hx), World.step_eq (attempt_erase hx')]
    refine ⟨hv.people.modify e.thing fun _ => rfl, hv.map.lost hlost hlost' ?_⟩
    simp only [Occupancy.without, hv.map.ids]
  · have hnot : ∀ e ∈ w.map.listed, e.thing ≠ t := by
      intro e he het
      exact hlisted ⟨e, he, het⟩
    have hnot' : ∀ e ∈ w'.map.listed, e.thing ≠ t := by
      rintro e he rfl
      exact hnot e ((hv.map.mem_listed_iff ht).mp he) rfl
    have hx := h.map.erase_of_unlisted hnot
    have hx' := h'.map.erase_of_unlisted hnot'
    rw [hv.map.id] at hx'
    refine ⟨⟨_, hx.answered, hx'.answered⟩, ?_⟩
    rw [World.step_eq (attempt_erase hx), World.step_eq (attempt_erase hx')]
    exact hv

/-- The full run takes an invisible thing off. -/
lemma erase_left (hv : w.Veils V w') (h : w.Sound n) (ht : t ∈ V) :
    (w.step (.erase t)).Veils V w' := by
  by_cases hlisted : ∃ e ∈ w.map.listed, e.thing = t
  · obtain ⟨e, he, rfl⟩ := hlisted
    obtain ⟨hx, hlost⟩ := h.map.erase_of_listed he
    have hz : e.zone = none := by
      have hiff := hv.map.placed e he
      simpa [ht] using hiff
    rw [World.step_eq (attempt_erase hx)]
    exact ⟨hv.people.modify_left ht fun _ => rfl,
      hv.map.lost_left hlost ht (h.map.ids_without_of_unplaced he hz)⟩
  · have hnot : ∀ e ∈ w.map.listed, e.thing ≠ t := by
      intro e he het
      exact hlisted ⟨e, he, het⟩
    rw [World.step_eq (attempt_erase (h.map.erase_of_unlisted hnot))]
    exact hv

lemma settle (hv : w.Veils V w') (h : w.Sound n) (h' : w'.Sound n) :
    (∃ k, answered (w.map.settle w.people) = some k ∧
        answered (w'.map.settle w'.people) = some k) ∧
      (w.step .settle).Veils V (w'.step .settle) := by
  have hsame := hv.people.same
  obtain ⟨k, hx, hticked, hpeople⟩ := h.step_settle
  obtain ⟨k', hx', hticked', hpeople'⟩ := h'.step_settle
  obtain rfl := hv.map.crossings_congr h.map h'.map hsame hticked hticked'
  refine ⟨⟨_, hx.answered, hx'.answered⟩, ?_, hv.map.settle h.map h'.map hsame hticked hticked'⟩
  rw [hpeople, hpeople']
  exact hv.people

/-- One kept call. -/
theorem step (hv : w.Veils V w') (h : w.Sound n) (h' : w'.Sound n) (hn : n < 2 ^ 32) {c : Call}
    (hc : ¬c.concerns V) : (w.step c).Veils (w.veil V c) (w'.step c) := by
  cases c with
  | spawn kind visible position =>
    refine ⟨hv.people.spawn h.people h'.people hn (.fresh kind visible position), ?_⟩
    rw [veil]
    split
    · exact hv.map
    · apply hv.map.cons
      rintro e he hnew
      apply Population.not_issued_spawn h.people hn (.fresh kind visible position)
      rw [← hnew]
      exact h.map.tied.issued e he
  | despawn t => exact ⟨hv.people.despawn h.people hn t, hv.map⟩
  | moveTo t position => exact ⟨hv.people.modify t fun _ => rfl, hv.map⟩
  | beginTick t => exact ⟨hv.people.modify t fun _ => rfl, hv.map⟩
  | insert t => exact (hv.insert h h' (by simpa [Call.concerns] using hc)).2
  | erase t => exact (hv.erase h h' (by simpa [Call.concerns] using hc)).2
  | settle => exact (hv.settle h h').2
  | clear => exact ⟨hv.people.leaveAll fun k hk => hv.map.mem_things_iff hk, hv.map.build⟩

/-- One call that the second run is spared. -/
theorem step_left (hv : w.Veils V w') (h : w.Sound n) {c : Call} (hc : c.concerns V) :
    (w.step c).Veils (w.veil V c) w' := by
  cases c with
  | insert t => exact hv.insert_left h (by simpa [Call.concerns] using hc)
  | erase t => exact hv.erase_left h (by simpa [Call.concerns] using hc)
  | _ => cases hc

theorem run (hv : w.Veils V w') (h : w.Sound n) (h' : w'.Sound n) {calls : List Call}
    (hn : n + calls.countP Call.isSpawn < 2 ^ 32) :
    (w.run calls).Veils (w.hidden V calls) (w'.run (w.kept V calls)) := by
  induction calls generalizing w w' V n with
  | nil => exact hv
  | cons c calls ih =>
    rw [countP_cons_toNat, ← Nat.add_assoc] at hn
    have hn' : n < 2 ^ 32 := by omega
    rw [hidden, kept]
    split
    · next hc =>
      have hstay : w'.Sound (n + c.isSpawn.toNat) := by
        rwa [Call.isSpawn_of_concerns hc]
      exact ih (hv.step_left h hc) (h.step hn' c) hstay hn
    · next hc => exact ih (hv.step h h' hn' hc) (h.step hn' c) (h'.step hn' c) hn

end Veils

/-- An invisible monster enters before two characters and is gone when they cross. -/
def haunting : List Call :=
  [.spawn .monster false ⟨10, 20⟩, .spawn .character true ⟨10, 20⟩, .spawn .character true ⟨30, 40⟩,
    .insert ⟨0, .first⟩, .insert ⟨1, .first⟩, .insert ⟨2, .first⟩, .erase ⟨0, .first⟩,
    .moveTo ⟨1, .first⟩ ⟨250, 150⟩, .moveTo ⟨2, .first⟩ ⟨250, 150⟩, .settle]

end World

/-- What invisible things do on a map has no effect on anything else. A run is compared with the one
that keeps all its calls but those that put an invisible thing on the map or take it off. After the
run, and so after each of its calls, the two have the same ids, and the same things and the same
notes in every zone. They list the same visible things, in an order of their own, and the full run
lists invisible ones besides. Every further call is answered alike in both, unless it is one of
those that are left out. -/
theorem invisible_things_are_inert (id : MapId) (name : String) {l : Layout}
    (hl : l.check = .ok ()) {calls : List Call} (hspawns : calls.countP Call.isSpawn < 2 ^ 32) :
    let start := World.start id name l
    let kept := start.kept [] calls
    let hidden := start.hidden [] calls
    let w := start.run calls
    let w' := start.run kept
    kept.Sublist calls ∧
    (∀ more, start.kept [] (calls ++ more) = kept ++ w.kept hidden more) ∧
    (∀ t x, w.people.get? t = some x → (x.visible ↔ t ∉ hidden)) ∧
    w'.map.occupancy.ids = w.map.occupancy.ids ∧
    w'.map.grid.Alike w.map.grid ∧
    w'.map.occupancy.roster.entries.toList.Perm
      (w.map.occupancy.roster.entries.toList.filter (·.zone.isSome)) ∧
    (∀ e ∈ w.map.occupancy.roster.entries, e.zone.isSome ↔ e.thing ∉ hidden) ∧
    (∀ t ∉ hidden, w'.people.get? t = w.people.get? t ∧
      (∃ answer, answered (w.map.insert w.people t) = some answer ∧
        answered (w'.map.insert w'.people t) = some answer) ∧
      ∃ answer, answered (w.map.erase w.people t) = some answer ∧
        answered (w'.map.erase w'.people t) = some answer) ∧
    (∃ k, answered (w.map.settle w.people) = some k ∧
      answered (w'.map.settle w'.people) = some k) ∧
    (∀ thing, (w'.people.spawn thing).1 = (w.people.spawn thing).1) := by
  intro start kept hidden w w'
  have hkept : kept.countP Call.isSpawn = calls.countP Call.isSpawn := start.countP_kept [] calls
  have hw : w.Sound _ := World.sound_run id name hl hspawns
  have hw' : w'.Sound (calls.countP Call.isSpawn) := by
    rw [← hkept] at hspawns ⊢
    exact World.sound_run id name hl hspawns
  have hv : w.Veils hidden w' := by
    have hstart := World.sound_start id name hl
    exact (World.veils_start id name l).run hstart hstart (by omega)
  refine ⟨start.kept_sublist [] calls, start.kept_append [] calls, hv.people.visible, hv.map.ids,
    hv.map.alike hw.map hw'.map, ?_, ?_, ?_, ?_, ?_⟩
  · apply Multiset.coe_eq_coe.mp
    refine hv.map.listed.trans ?_
    rw [GameMap.listed, Roster.listed, Multiset.filter_coe]
    simp only [Bool.decide_eq_true]
  · intro e he
    exact hv.map.placed e (Roster.mem_entries.mp he)
  · intro t ht
    exact ⟨hv.people.same t ht, (hv.insert hw hw' ht).1, (hv.erase hw hw' ht).1⟩
  · exact (hv.settle hw hw').1
  · intro thing
    exact (hv.people.frame.spawn_same hw.people hw'.people hspawns thing thing).1

theorem invisible_things_are_inert_haunting :
    World.plaza.check = .ok () ∧ World.haunting.countP Call.isSpawn < 2 ^ 32 ∧
      (World.start ⟨1⟩ "plaza" World.plaza).kept [] World.haunting =
        [.spawn .monster false ⟨10, 20⟩, .spawn .character true ⟨10, 20⟩,
          .spawn .character true ⟨30, 40⟩, .insert ⟨1, .first⟩, .insert ⟨2, .first⟩,
          .moveTo ⟨1, .first⟩ ⟨250, 150⟩, .moveTo ⟨2, .first⟩ ⟨250, 150⟩, .settle] ∧
      ((World.start ⟨1⟩ "plaza" World.plaza).run World.haunting).map.holder ⟨1⟩ =
        some ⟨2, .first⟩ ∧
      ⟨2, .first⟩ ∉ (World.start ⟨1⟩ "plaza" World.plaza).hidden [] World.haunting ∧
      answered (((World.start ⟨1⟩ "plaza" World.plaza).run World.haunting).map.insert
        ((World.start ⟨1⟩ "plaza" World.plaza).run World.haunting).people ⟨2, .first⟩) =
          some (.error (.alreadyOnMap ⟨2, .first⟩ ⟨1⟩)) := by
  have hl : World.plaza.check = .ok () := by decide
  have hspawns : World.haunting.countP Call.isSpawn < 2 ^ 32 := by decide
  obtain ⟨-, -, -, hids, -, -, -, hsame, -⟩ := invisible_things_are_inert ⟨1⟩ "plaza" hl hspawns
  have hshown : ⟨2, .first⟩ ∉ (World.start ⟨1⟩ "plaza" World.plaza).hidden [] World.haunting := by
    decide +kernel
  refine ⟨hl, hspawns, by decide +kernel, ?_, hshown, ?_⟩
  -- The run of the kept calls can be evaluated in place of the full one.
  · rw [GameMap.holder, ← hids]
    decide +kernel
  · obtain ⟨-, ⟨answer, hfull, hkept⟩, -⟩ := hsame _ hshown
    rw [hfull, ← hkept]
    decide +kernel

end Whereabouts
