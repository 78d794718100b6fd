import Whereabouts.Proofs.Agreement

/-!
# The tick protocol

A tick begins with every movable thing on the map taking its bearings; then things move, and the
tick ends when the map settles. Settling only looks at things that have moved, so it relies on the
zone in which each thing was recorded when the tick began. `InPlace` carries that across the ticks:
while a tick runs a thing is recorded where it was when the tick began, and after that where it is.
-/

namespace Whereabouts

inductive Phase where
  /-- A tick has begun and the map has not settled yet. -/
  | moving
  /-- The map has settled, or no tick has begun at all. -/
  | settled

/-- Where a thing is recorded. -/
def Phase.mark : Phase → Thing → Point
  | moving, t => t.tickStart
  | settled, t => t.position

lemma Thing.tickStart_moveTo {t : Thing} (ht : t.movable) (position : Point) :
    (t.moveTo position).tickStart = t.tickStart := by
  have hstart : ∀ x : Thing, x.movable → x.tickStart = x.origin := fun x hx => if_pos hx
  rw [hstart t ht, hstart (t.moveTo position) ht]
  exact if_pos ht

/-- Who has just taken bearings has not moved. -/
lemma Thing.moved_of_origin {t : Thing} (h : t.origin = t.position) : t.moved = false := by
  simp [moved, tickStart, h]

/-- What has not moved is marked where it is, in every phase. -/
lemma Phase.mark_of_not_moved (φ : Phase) {t : Thing} (h : t.moved = false) :
    φ.mark t = t.position := by
  cases φ with
  | moving =>
    have hstart : t.tickStart = t.position := by simpa [Thing.moved] using h
    exact hstart
  | settled => rfl

/-- A thing enters with fresh bearings, so it is in the zone of its mark in every phase. -/
lemma GameMap.zone_entered {m : GameMap} {t : Handle} {thing : Thing} {id : Option PublicId}
    {z : ZoneId} (hz : (m.entryFor t thing id).zone = some z) (φ : Phase) :
    z = m.grid.zoneAt (φ.mark (thing.enter m.id id)) := by
  have hmark : φ.mark (thing.enter m.id id) = thing.position :=
    φ.mark_of_not_moved (Thing.moved_of_origin rfl)
  rw [zone_entryFor] at hz
  split at hz
  · rw [hmark, ← Option.some.inj hz]
  · cases hz

/-- The end of a tick brings an entry from where its thing was to where it is. -/
lemma Entry.zone_settled {g : Grid} {people : Population} {e : Entry} {t : Thing}
    (hkind : t.kind = e.kind) (ht : people.get? e.thing = some t)
    (hzone : ∀ z, e.zone = some z → z = g.zoneAt (Phase.moving.mark t)) {z : ZoneId}
    (hz : (e.settled g people).zone = some z) : z = g.zoneAt (Phase.settled.mark t) := by
  cases hsource : e.zone with
  | none =>
    rw [settled, due_eq_none_iff.mpr hsource] at hz
    cases hz
  | some source =>
    simp only [settled, due, hsource, ht] at hz
    by_cases hm : (e.kind.movable && t.moved) = true
    · rw [if_pos hm, Option.some.injEq] at hz
      exact hz.symm
    · rw [if_neg hm, Option.some.injEq] at hz
      -- The recorded zone is that of the tick's begin, so the thing must not have moved since.
      have hstill : t.tickStart = t.position := by
        by_cases hmovable : e.kind.movable
        · have hmoved : t.moved = false := by simpa [hmovable] using hm
          exact Phase.moving.mark_of_not_moved hmoved
        · have hfixed : ¬t.movable := by rwa [Thing.movable, hkind]
          exact if_neg hfixed
      rw [← hz, hzone source hsource]
      exact congrArg g.zoneAt hstill

namespace World

/-- What the protocol allows between the begin and the end of a tick, and from there to the next
one. Nothing ends while it is on the map, and what is on the map moves while a tick runs, if it can
move at all. -/
def Allows (w : World) : Phase → Call → Prop
  | _, .spawn .. | _, .insert _ | _, .erase _ | _, .clear => True
  | _, .despawn t => t ∉ w.map.things
  | .moving, .moveTo t _ => t ∈ w.map.things → (w.people.get? t).all Thing.movable
  | .settled, .moveTo t _ => t ∉ w.map.things
  | _, .beginTick _ | _, .settle => False

/-- The runs that keep to the protocol, with the phase they end in. -/
inductive Follows (w : World) : Phase → List Call → Prop
  | start : Follows w .settled []
  | tick {calls : List Call} (ts : List Handle) (h : Follows w .settled calls)
      (hts : ∀ e ∈ (w.run calls).map.occupancy.roster.entries, e.kind.movable → e.thing ∈ ts) :
      Follows w .moving (calls ++ ts.map .beginTick)
  | act {φ : Phase} {calls : List Call} {c : Call} (h : Follows w φ calls)
      (hc : (w.run calls).Allows φ c) : Follows w φ (calls ++ [c])
  | settle {calls : List Call} (h : Follows w .moving calls) :
      Follows w .settled (calls ++ [.settle])

/-- Everything on the map lives, and what is in a zone is recorded where the phase says. -/
def InPlace (w : World) (φ : Phase) : Prop :=
  ∀ e ∈ w.map.listed, ∃ t, w.people.get? e.thing = some t ∧
    ∀ z, e.zone = some z → z = w.map.grid.zoneAt (φ.mark t)

variable {w : World} {n : Nat} {φ : Phase}

lemma run_beginTick (w : World) (ts : List Handle) :
    w.run (ts.map .beginTick) = { w with people := w.people.modifyAll Thing.beginTick ts } := by
  induction ts generalizing w with
  | nil => rfl
  | cons t ts ih => exact ih (w.step (.beginTick t))

lemma InPlace.tick (h : w.InPlace .settled) {ts : List Handle} (hw : w.Sound n)
    (hts : ∀ e ∈ w.map.listed, e.kind.movable → e.thing ∈ ts) :
    (w.run (ts.map .beginTick)).InPlace .moving := by
  rw [run_beginTick]
  intro e he
  obtain ⟨t, ht, hzone⟩ := h e he
  rw [Population.get?_modifyAll _ Thing.beginTick_beginTick, ht]
  have hkind := (hw.map.tied.shows he ht).1
  by_cases hmem : e.thing ∈ ts
  · refine ⟨t.beginTick, by rw [if_pos hmem]; rfl, ?_⟩
    rw [Phase.mark_of_not_moved _ (Thing.moved_of_origin (t := t.beginTick) rfl)]
    exact hzone
  · refine ⟨t, by rw [if_neg hmem], ?_⟩
    have hfixed : t.movable = false := by
      rw [Thing.movable, hkind]
      exact Bool.eq_false_iff.mpr (fun hm => hmem (hts e he hm))
    have hmark : Phase.moving.mark t = t.position := by
      simp [Phase.mark, Thing.tickStart, hfixed]
    rw [hmark]
    exact hzone

lemma inPlace_start (id : MapId) (name : String) (l : Layout) (φ : Phase) :
    (start id name l).InPlace φ := by
  intro e he
  exact absurd he (Multiset.notMem_zero e)

/-- What the protocol allows leaves what is listed alive, and marked where it was. -/
lemma Allows.act {c : Call} (hc : w.Allows φ c) {h : Handle} (hlisted : h ∈ w.map.things)
    {t : Thing} (ht : w.people.get? h = some t) :
    ∃ t', c.act h (some t) = some t' ∧ φ.mark t' = φ.mark t := by
  have hother : ∀ (s : Handle) (x : Option Thing), s ∉ w.map.things →
      (if h = s then x else some t) = some t := by
    intro s x hs
    exact if_neg (ne_of_mem_of_not_mem hlisted hs)
  cases c with
  | despawn s =>
    have hs : s ∉ w.map.things := by cases φ <;> exact hc
    exact ⟨t, hother s _ hs, rfl⟩
  | moveTo s position =>
    cases φ with
    | settled => exact ⟨t, hother s _ hc, rfl⟩
    | moving =>
      by_cases hs : h = s
      · subst hs
        have hmovable : t.movable := by
          have hall := hc hlisted
          rwa [ht] at hall
        exact ⟨t.moveTo position, if_pos rfl, Thing.tickStart_moveTo hmovable position⟩
      · exact ⟨t, if_neg hs, rfl⟩
  | beginTick s => cases φ <;> exact hc.elim
  | settle => cases φ <;> exact hc.elim
  | _ => exact ⟨t, rfl, rfl⟩

/-- What the protocol allows keeps every record. -/
lemma InPlace.act (h : w.InPlace φ) (hw : w.Sound n) (hn : n < 2 ^ 32) {c : Call}
    (hc : w.Allows φ c) : (w.step c).InPlace φ := by
  have hsettle : c ≠ .settle := by
    rintro rfl
    cases φ <;> exact hc
  intro e he
  simp only [Grid.zoneAt_congr (hw.shape_step hn c)]
  rcases hw.step_entry hn hsettle he with ⟨hold, hget⟩ | ⟨t, thing, id, rfl, hget⟩
  · obtain ⟨t, ht, hzone⟩ := h e hold
    obtain ⟨t', ht', hmark⟩ := hc.act (GameMap.mem_things.mpr ⟨e, hold, rfl⟩) ht
    refine ⟨t', by rw [hget, ht, ht'], ?_⟩
    rw [hmark]
    exact hzone
  · exact ⟨_, hget, fun z hz => GameMap.zone_entered hz φ⟩

/-- A thing that has not moved is still where the tick began for it. -/
lemma InPlace.settle (h : w.InPlace .moving) (hw : w.Sound n) (hn : n < 2 ^ 32) :
    (w.step .settle).InPlace .settled := by
  intro e' he'
  rw [hw.listed_settle, Multiset.mem_map] at he'
  obtain ⟨e, he, rfl⟩ := he'
  obtain ⟨t, ht, hzone⟩ := h e he
  rw [hw.people_settle]
  refine ⟨t, ht, ?_⟩
  rw [Grid.zoneAt_congr (hw.shape_step hn .settle)]
  exact fun z hz => Entry.zone_settled (hw.map.tied.shows he ht).1 ht hzone hz

/-- A run that keeps to the protocol keeps every record, whatever the number of ticks. -/
theorem Follows.inPlace {calls : List Call} (hc : w.Follows φ calls) (hw : w.Sound n)
    (h : w.InPlace .settled) (hn : n + calls.countP Call.isSpawn < 2 ^ 32) :
    (w.run calls).InPlace φ := by
  induction hc with
  | start => exact h
  | @tick calls ts hc hts ih =>
    rw [List.countP_append] at hn
    have hcalls : n + calls.countP Call.isSpawn < 2 ^ 32 := by omega
    have hw' := hw.run hcalls
    rw [run_append]
    apply (ih hcalls).tick hw'
    intro e he
    exact hts e (Roster.mem_entries.mpr he)
  | @act φ calls c hc hallows ih =>
    rw [List.countP_append] at hn
    have hcalls : n + calls.countP Call.isSpawn < 2 ^ 32 := by omega
    have hw' := hw.run hcalls
    rw [run_append]
    exact (ih hcalls).act hw' (by omega) hallows
  | @settle calls hc ih =>
    rw [List.countP_append] at hn
    have hcalls : n + calls.countP Call.isSpawn < 2 ^ 32 := by omega
    have hw' := hw.run hcalls
    rw [run_append]
    exact (ih hcalls).settle hw' (by omega)

lemma follows_stroll : (start ⟨1⟩ "plaza" plaza).Follows .settled stroll := by
  have hcharacter := Follows.start.act (w := start ⟨1⟩ "plaza" plaza)
    (c := .spawn .character true ⟨10, 20⟩) trivial
  have htree := hcharacter.act (c := .spawn .fixed true ⟨30, 40⟩) trivial
  have hfirst := htree.act (c := .insert ⟨0, .first⟩) trivial
  have hsecond := hfirst.act (c := .insert ⟨1, .first⟩) trivial
  have htick := hsecond.tick [⟨0, .first⟩] (by decide +kernel)
  have hmove := htick.act (c := .moveTo ⟨0, .first⟩ ⟨250, 150⟩) (fun _ => by decide +kernel)
  exact hmove.settle

end World

/-- From the end of each tick to the begin of the next one everything on the map lives, and what is
visible is recorded in the zone of its position, stands in this zone and stands in no other one. -/
theorem settled_in_zone_of_position (id : MapId) (name : String) {l : Layout}
    (hl : l.check = .ok ()) {calls : List Call}
    (hticks : (World.start id name l).Follows .settled calls)
    (hspawns : calls.countP Call.isSpawn < 2 ^ 32) :
    let w := (World.start id name l).run calls
    ∀ h ∈ w.map.things, ∃ t, w.people.get? h = some t ∧
      (t.visible →
        (w.map.entry? h).bind Entry.zone = some (w.map.grid.zoneAt t.position) ∧
        (∃ zone, w.map.grid.zone? (w.map.grid.zoneAt t.position) = some zone ∧ h ∈ zone.things) ∧
        ∀ z zone, w.map.grid.zone? z = some zone → h ∈ zone.things →
          z = w.map.grid.zoneAt t.position) := by
  intro w h hh
  have hw : w.Sound _ := World.sound_run id name hl hspawns
  have ho := hw.map.occupancy
  have hplace : w.InPlace .settled := by
    refine hticks.inPlace (World.sound_start id name hl) ?_ (by omega)
    intro e he
    exact absurd he (Multiset.notMem_zero e)
  obtain ⟨e, he, rfl⟩ := GameMap.mem_things.mp hh
  obtain ⟨t, ht, hzone⟩ := hplace e he
  refine ⟨t, ht, ?_⟩
  intro hvisible
  have hvisible' := (hw.map.tied.shows he ht).2.1
  rw [hvisible, eq_comm, Option.isSome_iff_exists] at hvisible'
  obtain ⟨z, hz⟩ := hvisible'
  obtain rfl := hzone z hz
  refine ⟨?_, ?_, ?_⟩
  · have hentry : w.map.entry? e.thing = some e := ho.indexed.get?_eq_some_iff.mpr ⟨he, rfl⟩
    rw [hentry]
    exact hz
  · obtain ⟨zone, hzone'⟩ := Grid.contains_iff.mp (ho.holds.inside e he _ hz)
    refine ⟨zone, hzone', ?_⟩
    rw [← Array.mem_toList_iff, ← List.count_pos_iff, ho.count_things he hzone', if_pos hz]
    exact Nat.one_pos
  · intro z zone hzone' hmem
    obtain ⟨e', he', hz', heq⟩ := ho.listed_of_mem_things hzone' hmem
    rw [ho.indexed.entry_unique he' he heq, hz] at hz'
    exact (Option.some.inj hz').symm

theorem settled_in_zone_of_position_stroll :
    World.plaza.check = .ok () ∧
      (World.start ⟨1⟩ "plaza" World.plaza).Follows .settled World.stroll ∧
      World.stroll.countP Call.isSpawn < 2 ^ 32 ∧
      (((World.start ⟨1⟩ "plaza" World.plaza).run World.stroll).map.entry? ⟨0, .first⟩).bind
        Entry.zone = some ⟨5⟩ := by
  have hl : World.plaza.check = .ok () := by decide
  have hspawns : World.stroll.countP Call.isSpawn < 2 ^ 32 := by decide
  have hon : ⟨0, .first⟩ ∈
      ((World.start ⟨1⟩ "plaza" World.plaza).run World.stroll).map.things := by
    decide +kernel
  have hlive : ((World.start ⟨1⟩ "plaza" World.plaza).run World.stroll).people.get? ⟨0, .first⟩ =
      some ⟨.character, true, ⟨250, 150⟩, ⟨10, 20⟩, some ⟨1⟩, some ⟨0⟩⟩ := by
    decide +kernel
  have hzone : ((World.start ⟨1⟩ "plaza" World.plaza).run World.stroll).map.grid.zoneAt
      ⟨250, 150⟩ = ⟨5⟩ := by
    decide +kernel
  obtain ⟨t, ht, hvisible⟩ :=
    settled_in_zone_of_position ⟨1⟩ "plaza" hl World.follows_stroll hspawns _ hon
  rw [hlive, Option.some.injEq] at ht
  subst ht
  rw [hzone] at hvisible
  exact ⟨hl, World.follows_stroll, hspawns, (hvisible rfl).1⟩

end Whereabouts
