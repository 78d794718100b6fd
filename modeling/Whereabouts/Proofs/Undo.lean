import Whereabouts.Proofs.Globes

/-!
# A visit leaves no trace

A thing that enters a map and leaves it again right away leaves everything as it was, the order of
things in the zones and in the roster among it. The turn that each part of a zone makes to let the
thing in is undone by the turn it makes to let it out; the thing is last in the roster, so nothing
takes its place there; and its public id is free again. What remains is where the pool looks for
the next id.
-/

namespace Whereabouts

namespace Zone

/-- A zone is made up of its parts and its notes. -/
lemma eq_of_parts {z z' : Zone} (hparts : ∀ q, z.part q = z'.part q)
    (hdepartures : z.departures = z'.departures) : z = z' := by
  have hthings : z.things = z'.things := by
    apply Array.toList_inj.mp
    rw [z.toList_things, z'.toList_things, hparts, hparts, hparts]
  have hcharacters : z.characters = z'.characters := by
    rw [← z.length_part_characters, ← z'.length_part_characters, hparts]
  have hmoving : z.moving = z'.moving := by
    rw [← z.length_part_others, ← z'.length_part_others, hparts, hparts]
  cases z
  cases z'
  simp only at hthings hcharacters hmoving hdepartures
  subst hthings hcharacters hmoving hdepartures
  rfl

lemma rotate_back {α : Type} (l : List α) :
    (l.rotate 1).rotate ((l.rotate 1).length - 1) = l := by
  rw [List.rotate_rotate, List.length_rotate]
  cases l with
  | nil => rfl
  | cons a l =>
    have hall : 1 + ((a :: l).length - 1) = (a :: l).length := by simp; omega
    rw [hall, List.rotate_length]

/-- A thing that was not in its part before is found behind all others there, and letting it out
turns each part back. -/
theorem eraseAt_insert {z : Zone} {t : Handle} {kind : Kind} (ht : t ∉ z.part kind.part) :
    ∃ i, (z.insert t kind).place? t kind = some i ∧ (z.insert t kind).eraseAt i = z := by
  have hpart : (z.insert t kind).part kind.part = z.part kind.part ++ t :: [] := by
    rw [part_insert, if_pos rfl]
  rcases (z.insert t kind).place?_spec t kind with ⟨-, hnot⟩ | ⟨P, Q, hPQ, -, hplace⟩
  · rw [hpart] at hnot
    exact absurd (List.mem_append_right _ (List.mem_singleton_self t)) hnot
  · obtain ⟨rfl, -, rfl⟩ :=
      (List.append_cons_inj_of_notMem ht List.not_mem_nil).mp (hpart.symm.trans hPQ)
    refine ⟨_, hplace, eq_of_parts ?_ ?_⟩
    · intro q
      rw [part_eraseAt _ hPQ, part_insert]
      by_cases hq : q = kind.part
      · rw [if_pos hq, hq, List.rotate_nil, List.append_nil]
      · rw [if_neg hq, if_neg hq]
        split
        · exact rotate_back _
        · rfl
    · rw [departures_eraseAt, departures_insert]

end Zone

namespace Grid

lemma edit_edit (g : Grid) (z : ZoneId) (f f' : Zone → Zone) :
    (g.edit z f).edit z f' = g.edit z (f' ∘ f) := by
  simp only [edit, Grid.mk.injEq, true_and]
  apply Array.ext_getElem?
  intro i
  simp only [Array.getElem?_modify]
  split
  · rw [Option.map_map]
  · rfl

lemma edit_id (g : Grid) (z : ZoneId) : g.edit z id = g := by
  have hzones : g.zones.modify z.index.toNat id = g.zones := by
    apply Array.ext_getElem?
    intro i
    rw [Array.getElem?_modify, Option.map_id, id, ite_self]
  cases g
  simp only [edit, Grid.mk.injEq, true_and]
  exact hzones

/-- A thing that is placed and taken out again leaves every zone as it was. -/
theorem Holds.displace_place {g : Grid} {es : Multiset Entry} (hg : g.Holds es) {e : Entry}
    (hnew : ∀ e' ∈ es, e'.thing ≠ e.thing) : (g.place e).displace e = g := by
  unfold Grid.place Grid.displace
  cases hz : e.zone with
  | none => rfl
  | some z =>
    dsimp only
    rw [edit_edit]
    refine (edit_congr ?_).trans (g.edit_id z)
    intro zone hzone
    have hnot : e.thing ∉ zone.part e.kind.part := by
      rw [← Multiset.mem_coe, hg.parts z zone hzone, mem_residents]
      rintro ⟨e', he', -, -, heq⟩
      exact hnew e' he' heq
    obtain ⟨i, hplace, hback⟩ := Zone.eraseAt_insert hnot
    simp only [Function.comp_apply, Zone.erase, hplace, hback, id]

end Grid

namespace Roster

/-- A thing that is listed and struck again leaves the list and what the index says as it was. -/
theorem Indexed.erase_add {r : Roster} (hr : r.Indexed) {e : Entry}
    (hnew : ∀ e' ∈ r.listed, e'.thing ≠ e.thing) :
    ((r.add e).erase e.thing).1 = some e ∧ ((r.add e).erase e.thing).2.entries = r.entries ∧
      ∀ t : Handle, ((r.add e).erase e.thing).2.index[t]? = r.index[t]? := by
  have hindex : (r.add e).index[e.thing]? = some r.entries.size := by
    simp [Roster.add]
  have hlisted : e ∈ (r.add e).listed := by
    rw [listed_add]
    exact Multiset.mem_cons_self e r.listed
  obtain ⟨e', A, B, -, -, -, -, hentries, hreindex⟩ := erase_of_index_some hindex
  have hdrop : dropAt (r.add e).entries r.entries.size (lt_size hindex) = r.entries := by
    apply Array.ext_getElem?
    intro j
    rw [getElem?_dropAt, Roster.add, Array.size_push, Nat.add_sub_cancel]
    split
    · next hj =>
      rw [if_neg (Nat.ne_of_lt hj), Array.getElem?_push_lt hj, Array.getElem?_eq_getElem hj]
    · next hj => exact (Array.getElem?_eq_none (Nat.le_of_not_lt hj)).symm
  refine ⟨((hr.add hnew).listed_erase hlisted rfl).1, hentries.trans hdrop, ?_⟩
  intro t
  have hlast : r.entries[r.entries.size]? = none := Array.getElem?_eq_none (Nat.le_refl _)
  rw [hreindex, hdrop, hlast, Roster.reindex, Roster.add, Std.HashMap.getElem?_erase]
  by_cases ht : e.thing = t
  · subst ht
    rw [if_pos (beq_self_eq_true _), hr.index_eq_none_iff.mpr hnew]
  · rw [if_neg (by simpa using ht), Std.HashMap.getElem?_insert, if_neg (by simpa using ht)]

end Roster

namespace IdBlock

/-- A block is made up of which slots are free, who holds them, the count and the next slot. -/
lemma eq_of_slots {b b' : IdBlock} (hisFree : ∀ s, b.isFree s = b'.isFree s)
    (hholder : ∀ s, b.holder s = b'.holder s) (hfree : b.free = b'.free)
    (hhint : b.hint = b'.hint) : b = b' := by
  have hwords : b.words = b'.words := by
    apply Vector.ext
    intro i hi
    rw [← UInt64.toBitVec_inj]
    apply BitVec.eq_of_getLsbD_eq
    intro j hj
    have hslot : (UInt8.ofNat (64 * i + j)).toNat = 64 * i + j :=
      UInt8.toNat_ofNat_of_lt' (by simp only [UInt8.size]; omega)
    have hword : (wordOf (UInt8.ofNat (64 * i + j))).val = i := by
      simp only [wordOf, hslot]
      omega
    have hbit : (64 * i + j) % 64 = j := by omega
    have hsame := hisFree (UInt8.ofNat (64 * i + j))
    rw [isFree_eq_getLsbD _ _ (by omega), isFree_eq_getLsbD _ _ (by omega)] at hsame
    simpa only [hslot, hword, hbit] using hsame
  have hholders : b.holders = b'.holders := by
    apply Vector.ext
    intro i hi
    have hslot : (UInt8.ofNat i).toNat = i := UInt8.toNat_ofNat_of_lt' hi
    have hsame := hholder (UInt8.ofNat i)
    rw [holder_eq_getElem _ _ (by omega), holder_eq_getElem _ _ (by omega)] at hsame
    simpa only [hslot] using hsame
  cases b
  cases b'
  simp only at hwords hfree hhint hholders
  subst hwords hfree hhint hholders
  rfl

/-- A slot that is taken and vacated again leaves a mark only on what the block tries next. -/
theorem Sound.vacate_take {b : IdBlock} (hb : b.Sound) {s : UInt8} (hs : b.isFree s) (t : Handle) :
    (b.take s t).vacate s = { b with hint := s + 1 } := by
  apply eq_of_slots
  · intro s'
    have hsame : isFree { b with hint := s + 1 } s' = b.isFree s' := rfl
    rw [isFree_vacate, isFree_take, hsame]
    by_cases h : s' = s
    · rw [h, hs, beq_self_eq_true, Bool.or_true]
    · rw [bne_iff_ne.mpr h, beq_false_of_ne h, Bool.and_true, Bool.or_false]
  · intro s'
    rw [holder_vacate, holder_take]
    by_cases h : s' = s
    · rw [if_pos h, h]
      exact ((hb.isFree_iff s).mp hs).symm
    · rw [if_neg h, if_neg h]
      rfl
  · exact Nat.sub_add_cancel (hb.free_pos hs)
  · rfl

end IdBlock

namespace IdPool

/-- The two pools give the same ids to the same things. They may differ in what they give out next:
in the slot that each block tries first, in the block that comes first, and in blocks that were
opened since and are all free. -/
structure SameSlots (p p' : IdPool) : Prop where
  kept : ∀ (i : Nat) (b : IdBlock), p.blocks[i]? = some b →
    ∃ hint, p'.blocks[i]? = some { b with hint }
  opened : ∀ (i : Nat) (b : IdBlock), p.blocks.size ≤ i → p'.blocks[i]? = some b →
    ∃ hint, b = { IdBlock.empty with hint }

variable {p p' : IdPool}

lemma SameSlots.refl (p : IdPool) : p.SameSlots p where
  kept i b hb := ⟨b.hint, hb⟩
  opened i b hi hb := by
    rw [Array.getElem?_eq_none hi] at hb
    cases hb

/-- A grant changes one block, and there it takes a free slot. -/
lemma blocks_grant (hp : p.Sound) {t : Handle} {id : PublicId}
    (h : (p.grant t).value = (some id, p')) :
    id.block.toNat ≤ p.blocks.size ∧ (p.block id.block.toNat).isFree id.slot ∧
      p'.blocks[id.block.toNat]? = some ((p.block id.block.toNat).take id.slot t) ∧
      ∀ j : Nat, j ≠ id.block.toNat → p'.blocks[j]? = p.blocks[j]? := by
  unfold grant at h
  cases hc : p.candidate? with
  | none => simp [hc] at h
  | some found =>
    obtain ⟨i, s⟩ := found
    obtain ⟨hle, hi, hfree⟩ := candidate?_spec hp hc
    simp only [hc] at h
    split at h
    · next hopen =>
      simp only [Prod.mk.injEq, Option.some.injEq] at h
      obtain ⟨rfl, rfl⟩ := h
      have hb := Array.getElem?_eq_getElem hopen
      rw [block_ofParts_ofNat hi, PublicId.slot_ofParts]
      refine ⟨hle, hfree, ?_, ?_⟩
      · rw [Array.getElem?_modify, if_pos rfl, block, hb]
        rfl
      · intro j hj
        rw [Array.getElem?_modify, if_neg (Ne.symm hj)]
    · next hclosed =>
      simp only [Prod.mk.injEq, Option.some.injEq] at h
      obtain ⟨rfl, rfl⟩ := h
      obtain rfl : i = p.blocks.size := by omega
      have hb : p.blocks[p.blocks.size]? = none := Array.getElem?_eq_none (Nat.le_refl _)
      rw [block_ofParts_ofNat hi, PublicId.slot_ofParts]
      refine ⟨hle, hfree, ?_, ?_⟩
      · simp [block]
      · intro j hj
        simp [Array.getElem?_push, hj]

/-- An id that is granted and released again is as free as before. -/
theorem sameSlots_release_grant (hp : p.Sound) {t : Handle} {id : PublicId}
    (h : (p.grant t).value = (some id, p')) : p.SameSlots (p'.release id).value := by
  obtain ⟨hle, hfree, hhere, hother⟩ := blocks_grant hp h
  have hb := block_sound hp id.block.toNat
  have htaken : ((p.block id.block.toNat).take id.slot t).isFree id.slot = false := by
    simp [IdBlock.isFree_take]
  have hblocks : ∀ j : Nat, (p'.release id).value.blocks[j]? =
      if j = id.block.toNat then some { p.block id.block.toNat with hint := id.slot + 1 }
      else p.blocks[j]? := by
    intro j
    simp only [release, hhere, htaken, Bool.false_eq_true, if_false, Array.getElem?_modify]
    by_cases hj : j = id.block.toNat
    · subst hj
      rw [if_pos rfl, if_pos rfl, hhere, Option.map_some, hb.vacate_take hfree]
    · rw [if_neg (Ne.symm hj), if_neg hj, hother j hj]
  constructor
  · intro i b hib
    rw [hblocks]
    by_cases hi : i = id.block.toNat
    · subst hi
      rw [if_pos rfl, block, hib]
      exact ⟨_, rfl⟩
    · rw [if_neg hi]
      exact ⟨b.hint, hib⟩
  · intro i b hi hib
    have hnone := Array.getElem?_eq_none hi
    rw [hblocks] at hib
    by_cases hid : i = id.block.toNat
    · subst hid
      rw [if_pos rfl, block, hnone, Option.some.injEq] at hib
      exact ⟨_, hib.symm⟩
    · rw [if_neg hid, hnone] at hib
      cases hib

end IdPool

namespace GameMap

variable {m : GameMap} {people : Population} {t : Handle} {publicId : Option PublicId}

/-- How a map and its population look once a thing has been let in. -/
lemma Sound.insert_of_ok (hm : m.Sound people)
    (h : answered (m.insert people t) = some (.ok publicId)) :
    ∃ thing ids, people.get? t = some thing ∧ thing.map = none ∧
      m.occupancy.ids.SameSlots (ids.recover (m.entryFor t thing publicId)).value ∧
      Delivers (m.insert people t) (.ok publicId,
        m.withEntry (m.entryFor t thing publicId) ids,
        people.modify t (·.enter m.id publicId)) := by
  cases ht : people.get? t with
  | none =>
    rw [(insert_of_dead ht).answered] at h
    cases h
  | some thing =>
    cases hmap : thing.map with
    | some other =>
      rw [(insert_of_elsewhere ht hmap).answered] at h
      cases h
    | none =>
      by_cases hid : (thing.visible && thing.movable) = true
      · have hsound := hm.occupancy.named.sound
        rcases IdPool.grant_spec hsound t with hnone | ⟨id, hgranted, -⟩
        · rw [(insert_none_left ht hmap hid hnone).answered] at h
          cases h
        · have hgrant : (m.occupancy.ids.grant t).value = (some id, _) := Prod.ext hgranted rfl
          have hinsert := hm.insert_named ht hmap hid hgrant
          rw [hinsert.answered] at h
          cases h
          exact ⟨thing, _, rfl, hmap, IdPool.sameSlots_release_grant hsound hgrant, hinsert⟩
      · have hinsert := hm.insert_unnamed ht hmap hid
        rw [hinsert.answered] at h
        cases h
        exact ⟨thing, m.occupancy.ids, rfl, hmap, .refl _, hinsert⟩

/-- A map that lets a thing in and out again has its zones and its list back, gives the same ids to
the same things, and the thing has but taken its bearings anew. -/
theorem Sound.erase_insert (hm : m.Sound people) (hpeople : people.Nameless)
    (h : answered (m.insert people t) = some (.ok publicId)) :
    ∃ inside people' ids roster, Delivers (m.insert people t) (.ok publicId, inside, people') ∧
      Delivers (inside.erase people' t)
        (.ok (), { m with occupancy := { grid := m.grid, ids, roster } },
          people.modify t Thing.beginTick) ∧
      m.occupancy.ids.SameSlots ids ∧
      roster.entries = m.occupancy.roster.entries ∧
      ∀ k : Handle, roster.index[k]? = m.occupancy.roster.index[k]? := by
  obtain ⟨thing, ids, ht, hmap, hids, hinsert⟩ := hm.insert_of_ok h
  have hnew := hm.not_listed ht hmap
  have hinside : (m.withEntry (m.entryFor t thing publicId) ids).Sound
      (people.modify t (·.enter m.id publicId)) := by
    rcases hm.insert_cases t with ⟨r, hr⟩ | ⟨thing', id, m', ht', hmap', hr, hgained⟩
    · cases hr.unique hinsert
    · cases hr.unique hinsert
      exact hgained.sound_enter hm ht' hmap'
  have hself : (m.entryFor t thing publicId).thing = t := rfl
  generalize m.entryFor t thing publicId = e at *
  obtain rfl := hself
  obtain ⟨-, hentries, hindex⟩ := hm.occupancy.indexed.erase_add hnew
  have hgrid := hm.occupancy.holds.displace_place hnew
  have hlisted : e ∈ (m.withEntry e ids).listed := by
    have hadd : (m.withEntry e ids).listed = e ::ₘ m.listed := Roster.listed_add _ _
    rw [hadd]
    exact Multiset.mem_cons_self e m.listed
  have herase := (hinside.erase_of_listed hlisted).1
  have hleft : (people.modify e.thing (·.enter m.id publicId)).modify e.thing Thing.leave =
      people.modify e.thing Thing.beginTick := by
    rw [Population.modify_modify]
    apply Population.modify_congr ht
    simp [Thing.enter, Thing.leave, Thing.beginTick, hmap, hpeople _ _ ht hmap]
  rw [hleft] at herase
  refine ⟨_, _, _, _, hinsert, ?_, hids, hentries, hindex⟩
  rw [grid, ← hgrid]
  exact herase

end GameMap

namespace World

variable {w : World} {n : Nat}

lemma Sound.nameless_step (h : w.Sound n) (hn : n < 2 ^ 32) (hw : w.people.Nameless) (c : Call) :
    (w.step c).people.Nameless := by
  cases c with
  | spawn kind visible position => exact (h.people.aside_spawn hn rfl rfl).nameless hw
  | despawn t => exact (h.people.aside_despawn hn t).nameless hw
  | moveTo t position =>
    exact (w.people.aside_modify t (f := (·.moveTo position)) fun _ => rfl).nameless hw
  | beginTick t =>
    exact (w.people.aside_modify t (f := Thing.beginTick) fun _ => rfl).nameless hw
  | insert t => exact (h.traffic_step (c := .insert t) rfl).nameless hw
  | erase t => exact (h.traffic_step (c := .erase t) rfl).nameless hw
  | settle => exact (h.traffic_step (c := .settle) rfl).nameless hw
  | clear => exact (h.traffic_step (c := .clear) rfl).nameless hw

lemma nameless_run (id : MapId) (name : String) {l : Layout} (hl : l.check = .ok ())
    {calls : List Call} (hn : calls.countP Call.isSpawn < 2 ^ 32) :
    ((start id name l).run calls).people.Nameless := by
  refine ((sound_start id name hl).run_keeps (by omega) (P := fun w => w.people.Nameless) ?_ ?_).2
  · intro h t ht
    simp [start, Population.get?_empty] at ht
  · intro v k c _ hv hk hnameless
    exact hv.nameless_step hk hnameless c

/-- A character, a monster and two trees stand close together, and one more character waits off
the map. -/
def crowd : List Call :=
  [.spawn .character true ⟨10, 20⟩, .spawn .monster true ⟨30, 40⟩, .spawn .fixed true ⟨50, 60⟩,
    .spawn .fixed true ⟨70, 80⟩, .spawn .character true ⟨90, 90⟩, .insert ⟨0, .first⟩,
    .insert ⟨1, .first⟩, .insert ⟨2, .first⟩, .insert ⟨3, .first⟩]

end World

/-- After every run of calls, a thing that is let in and taken off again leaves the map as it was:
the roster in its order, the index, and each zone with its handles in their order, its counts and
its notes. Each block of ids that was open before has the same slots, and one that was opened for
the thing is all free. The thing itself has taken its bearings anew, and nothing else in the
population has changed. -/
theorem erase_undoes_insert (id : MapId) (name : String) {l : Layout} (hl : l.check = .ok ())
    {calls : List Call} (hspawns : calls.countP Call.isSpawn < 2 ^ 32) :
    let w := (World.start id name l).run calls
    ∀ t publicId, answered (w.map.insert w.people t) = some (.ok publicId) →
      let inside := w.step (.insert t)
      let after := inside.step (.erase t)
      answered (inside.map.erase inside.people t) = some (.ok ()) ∧
      after.map = { w.map with occupancy := after.map.occupancy } ∧
      after.map.occupancy.roster.entries = w.map.occupancy.roster.entries ∧
      (∀ k : Handle,
        after.map.occupancy.roster.index[k]? = w.map.occupancy.roster.index[k]?) ∧
      after.map.grid = w.map.grid ∧
      (∀ (i : Nat) (b : IdBlock), w.map.occupancy.ids.blocks[i]? = some b →
        ∃ hint, after.map.occupancy.ids.blocks[i]? = some { b with hint }) ∧
      (∀ (i : Nat) (b : IdBlock), w.map.occupancy.ids.blocks.size ≤ i →
        after.map.occupancy.ids.blocks[i]? = some b → ∃ hint, b = { IdBlock.empty with hint }) ∧
      after.people = w.people.modify t fun x => { x with origin := x.position } := by
  intro w t publicId hanswer inside after
  have hw : w.Sound _ := World.sound_run id name hl hspawns
  obtain ⟨m, people, ids, roster, hinsert, herase, hids, hentries, hindex⟩ :=
    hw.map.erase_insert (World.nameless_run id name hl hspawns) hanswer
  have hinside : inside = ⟨people, m⟩ := World.step_eq (World.attempt_insert hinsert)
  have hafter : after = ⟨w.people.modify t Thing.beginTick,
      { w.map with occupancy := { grid := w.map.grid, ids, roster } }⟩ := by
    simp only [after, hinside]
    exact World.step_eq (World.attempt_erase herase)
  rw [hafter, hinside]
  exact ⟨herase.answered, rfl, hentries, hindex, rfl, hids.kept, hids.opened, rfl⟩

theorem erase_undoes_insert_crowd :
    World.plaza.check = .ok () ∧ World.crowd.countP Call.isSpawn < 2 ^ 32 ∧
      answered (((World.start ⟨1⟩ "plaza" World.plaza).run World.crowd).map.insert
        ((World.start ⟨1⟩ "plaza" World.plaza).run World.crowd).people ⟨4, .first⟩) =
          some (.ok (some ⟨2⟩)) ∧
      ((((World.start ⟨1⟩ "plaza" World.plaza).run World.crowd).step
        (.insert ⟨4, .first⟩)).step (.erase ⟨4, .first⟩)).map.grid =
          ((World.start ⟨1⟩ "plaza" World.plaza).run World.crowd).map.grid ∧
      (((World.start ⟨1⟩ "plaza" World.plaza).run World.crowd).map.grid.zone? ⟨0⟩).map
        Zone.things = some #[⟨0, .first⟩, ⟨1, .first⟩, ⟨2, .first⟩, ⟨3, .first⟩] :=
  have hl : World.plaza.check = .ok () := by decide
  have hspawns : World.crowd.countP Call.isSpawn < 2 ^ 32 := by decide
  have hanswer :
      answered (((World.start ⟨1⟩ "plaza" World.plaza).run World.crowd).map.insert
        ((World.start ⟨1⟩ "plaza" World.plaza).run World.crowd).people ⟨4, .first⟩) =
          some (.ok (some ⟨2⟩)) := by
    decide +kernel
  ⟨hl, hspawns, hanswer,
    (erase_undoes_insert ⟨1⟩ "plaza" hl hspawns _ _ hanswer).2.2.2.2.1, by decide +kernel⟩

end Whereabouts
