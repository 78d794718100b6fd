import Mathlib.Logic.Function.Basic
import Whereabouts.Proofs.Ticks

/-!
# Safeguards that are never needed

A zone can be asked for a thing that is not there, a pool for an id that nothing holds, a roster for
a thing it lists already. Each of them copes, and what copes says so in an event of level `error`.
None of this can happen through a map: what a map hands on to its parts is always what the part has.

What settling relies on is that each thing is recorded where its tick began. `Observes` follows every
thing through its own tick, since things enter while a tick runs. Unlike `Follows` it lets things
end while they are on the map, and lets what cannot move be moved.
-/

namespace Whereabouts

namespace Occupancy

variable {o : Occupancy}

/-- How far `settle` has come after so many entries, unless it looked up a zone that the grid does
not have. -/
def settlingAfter (o : Occupancy) (people : Population) (k : Nat) : Except OutsideGrid Settling :=
  (Roster.rezoneList (settleEntry people)
    { grid := o.grid.forgetDepartures, crossings := 0, events := [] } #[]
    (o.roster.entries.toList.take k)).map Prod.fst

/-- When settling comes to an entry its thing is still in the zone the entry says. -/
lemma Sound.holds_settlingAfter (ho : o.Sound) (people : Population) {k : Nat} {e : Entry}
    (he : o.roster.entries[k]? = some e) :
    ∃ s es, o.settlingAfter people k = .ok s ∧ s.grid.shape = o.grid.shape ∧
      s.grid.Holds (e ::ₘ es) := by
  have hstart : o.grid.forgetDepartures.Holds
      (↑(o.roster.entries.toList.take k) + ↑(o.roster.entries.toList.drop k)) := by
    rw [Multiset.coe_add, List.take_append_drop]
    exact ho.holds.forgetDepartures
  have hdrop : o.roster.entries.toList.drop k = e :: o.roster.entries.toList.drop (k + 1) := by
    rw [← Array.getElem?_toList] at he
    obtain ⟨hk, rfl⟩ := List.getElem?_eq_some_iff.mp he
    exact List.drop_eq_getElem_cons hk
  obtain ⟨s, out, heq, -, hprogress⟩ := rezoneList_progress ho.numbered people _
    (s := { grid := o.grid.forgetDepartures, crossings := 0, events := [] })
    o.grid.shape_forgetDepartures hstart #[]
  have hholds := hprogress.holds
  rw [hdrop, ← Multiset.cons_coe, Multiset.add_cons] at hholds
  refine ⟨s, _, ?_, hprogress.shape, hholds⟩
  rw [settlingAfter, heq]
  rfl

/-- What is struck off the roster is in its zone, and its id is taken. -/
lemma Sound.of_struck (ho : o.Sound) {t : Handle} {e : Entry} (h : (o.roster.erase t).1 = some e) :
    (∀ z, e.zone = some z → ∃ g, o.grid.erase z t e.kind = .ok ⟨(true, g), []⟩) ∧
      ∀ p, e.publicId = some p →
        ∃ b, o.ids.blocks[p.block.toNat]? = some b ∧ b.isFree p.slot = false := by
  obtain ⟨he, rfl⟩ := Roster.mem_listed_of_erase h
  constructor
  · intro z hz
    have hholds := ho.holds
    rw [(ho.indexed.listed_erase he rfl).2] at hholds
    obtain ⟨-, i, -, -, herase, -⟩ := hholds.erase hz
    exact ⟨_, herase⟩
  · intro p hp
    have hholder := (ho.named.holder_iff p e.thing).mpr ⟨e, he, hp, rfl⟩
    have htaken := (IdPool.isTaken_iff ho.named.sound).mpr (by rw [hholder]; rfl)
    rw [IdPool.isTaken, Option.any_eq_true] at htaken
    simpa using htaken

end Occupancy

namespace World

variable {w : World} {n : Nat}

/-! The tick of each thing -/

/-- A thing that lives, is on the map and can move. -/
def Stands (w : World) (h : Handle) (t : Thing) : Prop :=
  w.people.get? h = some t ∧ h ∈ w.map.things ∧ t.movable

/-- What the protocol asks for: on the map things take their bearings before they move and move
before the map settles, and it settles once they have all taken them. -/
def Permits (w : World) (φ : Handle → Phase) : Call → Prop
  | .beginTick h => ∀ t, w.Stands h t → φ h = .moving → t.moved = false
  | .moveTo h _ => ∀ t, w.Stands h t → φ h = .moving
  | .settle => ∀ h t, w.Stands h t → φ h = .moving
  | _ => True

/-- The tick of a thing begins when it takes its bearings or enters, and ends for all at once. -/
def turn (w : World) (φ : Handle → Phase) : Call → Handle → Phase
  | .beginTick h => Function.update φ h .moving
  | .insert h => if h ∈ w.map.things then φ else Function.update φ h .moving
  | .settle => fun _ => .settled
  | _ => φ

/-- The runs that keep to the protocol for every thing, with the phases they leave things in. -/
inductive Observes (w : World) : (Handle → Phase) → List Call → Prop
  | start : Observes w (fun _ => .settled) []
  | act {φ : Handle → Phase} {calls : List Call} {c : Call} (h : Observes w φ calls)
      (hc : (w.run calls).Permits φ c) : Observes w ((w.run calls).turn φ c) (calls ++ [c])

/-- What can move is recorded where it is marked, each thing in its own phase. -/
def OnRecord (w : World) (φ : Handle → Phase) : Prop :=
  ∀ e ∈ w.map.listed, e.kind.movable → ∀ t, w.people.get? e.thing = some t →
    ∀ z, e.zone = some z → z = w.map.grid.zoneAt ((φ e.thing).mark t)

variable {φ : Handle → Phase}

lemma stands_of_listed (hw : w.Sound n) {e : Entry} (he : e ∈ w.map.listed)
    (hmovable : e.kind.movable) {t : Thing} (ht : w.people.get? e.thing = some t) :
    w.Stands e.thing t := by
  refine ⟨ht, GameMap.mem_things.mpr ⟨e, he, rfl⟩, ?_⟩
  rwa [Thing.movable, (hw.map.tied.shows he ht).1]

/-- What the protocol permits leaves each thing on the map marked where it was. -/
lemma Permits.act {c : Call} (hc : w.Permits φ c) (hsettle : c ≠ .settle) {h : Handle}
    {t t' : Thing} (ht : w.Stands h t) (hact : c.act h (some t) = some t') :
    (w.turn φ c h).mark t' = (φ h).mark t := by
  cases c with
  | settle => exact absurd rfl hsettle
  | despawn s =>
    simp only [Call.act] at hact
    split at hact
    · cases hact
    · cases hact
      rfl
  | moveTo s position =>
    simp only [Call.act] at hact
    split at hact
    · next hs =>
      subst hs
      cases hact
      have hmoving : φ h = .moving := hc t ht
      simp only [turn, hmoving]
      exact Thing.tickStart_moveTo ht.2.2 position
    · cases hact
      rfl
  | beginTick s =>
    simp only [Call.act] at hact
    split at hact
    · next hs =>
      subst hs
      cases hact
      have hafter := Phase.moving.mark_of_not_moved (Thing.moved_of_origin (t := t.beginTick) rfl)
      simp only [turn, Function.update_self, hafter]
      cases hφ : φ h with
      | settled => rfl
      | moving => exact (Phase.moving.mark_of_not_moved (hc t ht hφ)).symm
    · next hs =>
      cases hact
      simp only [turn, Function.update_of_ne hs]
  | insert s =>
    cases hact
    by_cases hs : s ∈ w.map.things
    · simp only [turn, if_pos hs]
    · have hne : h ≠ s := ne_of_mem_of_not_mem ht.2.1 hs
      simp only [turn, if_neg hs, Function.update_of_ne hne]
  | _ =>
    cases hact
    rfl

lemma OnRecord.act (h : w.OnRecord φ) (hw : w.Sound n) (hn : n < 2 ^ 32) {c : Call}
    (hc : w.Permits φ c) : (w.step c).OnRecord (w.turn φ c) := by
  intro e he hmovable t' ht' z hz
  rw [Grid.zoneAt_congr (hw.shape_step hn c)]
  by_cases hsettle : c = .settle
  · subst hsettle
    rw [hw.listed_settle, Multiset.mem_map] at he
    obtain ⟨e, he, rfl⟩ := he
    rw [hw.people_settle] at ht'
    have hmoving : φ e.thing = .moving := hc e.thing t' (stands_of_listed hw he hmovable ht')
    have hzone := h e he hmovable t' ht'
    rw [hmoving] at hzone
    exact Entry.zone_settled (hw.map.tied.shows he ht').1 ht' hzone hz
  · rcases hw.step_entry hn hsettle he with ⟨hold, hget⟩ | ⟨s, thing, id, rfl, hget⟩
    · rw [ht'] at hget
      cases ht : w.people.get? e.thing with
      | none =>
        rw [ht, Call.act_none] at hget
        cases hget
      | some t =>
        rw [ht] at hget
        rw [hc.act hsettle (stands_of_listed hw hold hmovable ht) hget.symm]
        exact h e hold hmovable t ht z hz
    · obtain rfl : t' = thing.enter w.map.id id := Option.some.inj (ht'.symm.trans hget)
      exact GameMap.zone_entered hz _

/-- A run that keeps to the protocol keeps every record. -/
theorem Observes.onRecord {calls : List Call} (hc : w.Observes φ calls) (hw : w.Sound n)
    (h : w.OnRecord fun _ => .settled) (hn : n + calls.countP Call.isSpawn < 2 ^ 32) :
    (w.run calls).OnRecord φ := by
  induction hc with
  | start => exact h
  | act hc hpermits ih =>
    rw [List.countP_append] at hn
    rw [run_append]
    exact (ih (by omega)).act (hw.run (by omega)) (by omega) hpermits

/-- The stroll, up to where the tick is to end. -/
lemma observes_stroll : ∃ φ, (start ⟨1⟩ "plaza" plaza).Observes φ (stroll.take 6) ∧
    ((start ⟨1⟩ "plaza" plaza).run (stroll.take 6)).Permits φ .settle := by
  have hcharacter := Observes.start.act (w := start ⟨1⟩ "plaza" plaza)
    (c := .spawn .character true ⟨10, 20⟩) trivial
  have htree := hcharacter.act (c := .spawn .fixed true ⟨30, 40⟩) trivial
  have hfirst := htree.act (c := .insert ⟨0, .first⟩) trivial
  have hsecond := hfirst.act (c := .insert ⟨1, .first⟩) trivial
  have hbegin := hsecond.act (c := .beginTick ⟨0, .first⟩) <| by
    rintro t ⟨ht, -⟩ -
    have hfresh : (((start ⟨1⟩ "plaza" plaza).run (stroll.take 4)).people.get? ⟨0, .first⟩).map
        Thing.moved = some false := by
      decide +kernel
    exact Option.some.inj ((congrArg (Option.map Thing.moved) ht).symm.trans hfresh)
  have hmove := hbegin.act (c := .moveTo ⟨0, .first⟩ ⟨250, 150⟩)
    (fun _ _ => by simp only [turn, Function.update_self])
  refine ⟨_, hmove, ?_⟩
  rintro h t ⟨ht, hon, hmovable⟩
  have hthings : ((start ⟨1⟩ "plaza" plaza).run (stroll.take 6)).map.things =
      [⟨0, .first⟩, ⟨1, .first⟩] := by
    decide +kernel
  have hfixed : (((start ⟨1⟩ "plaza" plaza).run (stroll.take 6)).people.get? ⟨1, .first⟩).map
      Thing.movable = some false := by
    decide +kernel
  rw [hthings, List.mem_pair] at hon
  rcases hon with rfl | rfl
  · simp only [turn, Function.update_self]
  · rw [ht, Option.map_some, hmovable] at hfixed
    cases hfixed

end World

/-- In every run of calls, whatever comes next, the parts of a map are asked only for what they can
do. A thing that is let in is not on the roster yet. What is struck off the roster is in the zone
of its entry, and its id is taken in a block that was opened; what is settled is in the zone of its
entry by then. A scan of a block that is not full comes to a slot. So no call reports an error. And
if the run keeps to the tick protocol and the map may settle now, then what can move and lives is
recorded in the zone where it began the tick. -/
theorem safeguards_not_needed (id : MapId) (name : String) {l : Layout} (hl : l.check = .ok ())
    {calls : List Call} (hspawns : calls.countP Call.isSpawn < 2 ^ 32) :
    let w := (World.start id name l).run calls
    let o := w.map.occupancy
    (∀ t publicId, answered (w.map.insert w.people t) = some (.ok publicId) →
      o.roster.index[t]? = none) ∧
    (∀ t e, (o.roster.erase t).1 = some e →
      (∀ z, e.zone = some z → ∃ g, o.grid.erase z t e.kind = .ok ⟨(true, g), []⟩) ∧
      ∀ p, e.publicId = some p →
        ∃ b, o.ids.blocks[p.block.toNat]? = some b ∧ b.isFree p.slot = false) ∧
    (∀ (k : Nat) e z, o.roster.entries[k]? = some e → e.zone = some z →
      ∃ s g, o.settlingAfter w.people k = .ok s ∧
        s.grid.erase z e.thing e.kind = .ok ⟨(true, g), []⟩) ∧
    (∀ i start, (o.ids.block i).free ≠ 0 → ((o.ids.block i).scan start).isSome) ∧
    (∀ c, ∃ events, w.attempt c = .ok ⟨w.step c, events⟩ ∧ Quiet events) ∧
    ∀ φ, (World.start id name l).Observes φ calls → w.Permits φ .settle →
      ∀ e ∈ o.roster.entries, ∀ t, w.people.get? e.thing = some t → t.movable →
        ∀ z, e.zone = some z → z = w.map.grid.zoneAt t.tickStart := by
  intro w o
  have hw : w.Sound _ := World.sound_run id name hl hspawns
  have ho : o.Sound := hw.map.occupancy
  refine ⟨?_, fun t e => ho.of_struck, ?_, ?_, hw.attempt_delivers, ?_⟩
  · intro t publicId hin
    rcases hw.map.insert_cases t with ⟨r, hr⟩ | ⟨thing, p, m', ht, hmap, -, -⟩
    · rw [hr.answered] at hin
      cases hin
    · exact ho.indexed.index_eq_none_iff.mpr (hw.map.not_listed ht hmap)
  · intro k e z he hz
    obtain ⟨s, es, hs, -, hholds⟩ := ho.holds_settlingAfter w.people he
    obtain ⟨-, i, -, -, herase, -⟩ := hholds.erase hz
    exact ⟨s, _, hs, herase⟩
  · intro i start hfree
    obtain ⟨s, hs⟩ := (IdPool.block_sound ho.named.sound i).exists_isFree hfree
    exact Option.isSome_iff_exists.mpr (IdBlock.exists_scan hs start)
  · intro φ hobserves hpermits e he t ht hmovable z hz
    have hlisted := Roster.mem_entries.mp he
    have hrecord : w.OnRecord φ := by
      refine hobserves.onRecord (World.sound_start id name hl) ?_ (by omega)
      intro e he
      exact absurd he (Multiset.notMem_zero e)
    have hmoving : φ e.thing = .moving :=
      hpermits e.thing t ⟨ht, GameMap.mem_things.mpr ⟨e, hlisted, rfl⟩, hmovable⟩
    have hkind : e.kind.movable := by rwa [← (hw.map.tied.shows hlisted ht).1]
    have hzone := hrecord e hlisted hkind t ht z hz
    rwa [hmoving] at hzone

theorem safeguards_not_needed_stroll :
    World.plaza.check = .ok () ∧ (World.stroll.take 6).countP Call.isSpawn < 2 ^ 32 ∧
      ∀ e ∈ ((World.start ⟨1⟩ "plaza" World.plaza).run
          (World.stroll.take 6)).map.occupancy.roster.entries,
        ∀ t, ((World.start ⟨1⟩ "plaza" World.plaza).run
            (World.stroll.take 6)).people.get? e.thing = some t → t.movable →
          ∀ z, e.zone = some z →
            z = ((World.start ⟨1⟩ "plaza" World.plaza).run
              (World.stroll.take 6)).map.grid.zoneAt t.tickStart := by
  have hl : World.plaza.check = .ok () := by decide
  have hspawns : (World.stroll.take 6).countP Call.isSpawn < 2 ^ 32 := by decide
  obtain ⟨φ, hobserves, hpermits⟩ := World.observes_stroll
  exact ⟨hl, hspawns,
    (safeguards_not_needed ⟨1⟩ "plaza" hl hspawns).2.2.2.2.2 φ hobserves hpermits⟩

end Whereabouts
