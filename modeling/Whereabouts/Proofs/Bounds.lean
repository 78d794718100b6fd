import Whereabouts.Proofs.Coverage
import Whereabouts.Proofs.Safeguards

/-!
# Nothing is looked up out of bounds

Zone numbers are 32-bit words computed from coordinates, and they are kept in entries, in notes of
departures and in regions until a zone is looked up by them. The layouts that pass their check are
small enough for every number to be exact and below the number of zones. No call makes a number in
another way, so whatever is looked up is there. Counts are never taken below zero.
-/

namespace Whereabouts

/-! Numbers and coordinates -/

namespace Box

/-- The edges fit into 64 bits. -/
def Fits (b : Box) : Prop :=
  ∀ edge ∈ [b.left, b.top, b.right, b.bottom], -2 ^ 63 ≤ edge ∧ edge < 2 ^ 63

lemma fits_square (center : Point) (radius : UInt32) : (center.square radius).Fits := by
  have hx := center.x.toInt_lt
  have hx' := center.x.le_toInt
  have hy := center.y.toInt_lt
  have hy' := center.y.le_toInt
  have hr := radius.toNat_lt
  intro edge hedge
  simp only [Point.square, List.mem_cons, List.not_mem_nil, or_false] at hedge
  omega

lemma fits_area (r : Rect) : r.area.Fits := by
  have hx := r.x.toInt_lt
  have hx' := r.x.le_toInt
  have hy := r.y.toInt_lt
  have hy' := r.y.le_toInt
  have hw := r.w.toInt_lt
  have hw' := r.w.le_toInt
  have hh := r.h.toInt_lt
  have hh' := r.h.le_toInt
  intro edge hedge
  simp only [Rect.area, List.mem_cons, List.not_mem_nil, or_false] at hedge
  omega

end Box

namespace Grid

variable {g : Grid}

/-- Columns, rows and zone numbers are what they are in exact arithmetic. -/
structure Exact (g : Grid) : Prop where
  column : ∀ x : Int,
    ((g.column x).toNat : Int) = min (max x 0 / g.zoneSize.toNat) (g.columns.toNat - 1)
  row : ∀ y : Int, ((g.row y).toNat : Int) = min (max y 0 / g.zoneSize.toNat) (g.rows.toNat - 1)
  number : ∀ x y : UInt32, x.toNat < g.columns.toNat → y.toNat < g.rows.toNat →
    y.toNat * g.columns.toNat + x.toNat < 2 ^ 32 ∧
      (ZoneId.ofCell x y g.columns).index.toNat = y.toNat * g.columns.toNat + x.toNat

lemma toInt_clamped (x : Int) (size : Nat) {count : Nat} (hcount : 0 < count) :
    ((min (x.toNat / size) (count - 1) : Nat) : Int) = min (max x 0 / size) (count - 1) := by
  have hdiv : ((x.toNat / size : Nat) : Int) = max x 0 / size := by
    rw [Int.natCast_ediv, Int.ofNat_toNat]
  omega

lemma exact_of_numbered (hg : g.Numbered) : g.Exact where
  column x := by rw [toNat_column, toInt_clamped x _ g.columns_pos]
  row y := by rw [toNat_row, toInt_clamped y _ g.rows_pos]
  number x y hx hy := ⟨Nat.lt_of_lt_of_le (cell_lt hx hy) hg, toNat_ofCell hg hx hy⟩

end Grid

/-! Walks -/

namespace ZoneWalk

/-- The walk comes to another one by calls of `next`. -/
inductive Leads (w : ZoneWalk) : ZoneWalk → Prop
  | here : Leads w w
  | next {w' w'' : ZoneWalk} {zone : Zone} (h : Leads w w')
      (hnext : w'.next = .ok (some (zone, w''))) : Leads w w''

lemma eq_of_next {w w' : ZoneWalk} {zone : Zone} (h : w.next = .ok (some (zone, w'))) :
    w' = { w with pos := w.pos + 1 } := by
  unfold next at h
  split at h
  · cases h
  · cases h
  · cases h
    rfl

lemma Inside.leads {w w' : ZoneWalk} (hw : w.Inside) (h : w.Leads w') : w'.Inside := by
  induction h with
  | here => exact hw
  | next h hnext ih =>
    rw [eq_of_next hnext]
    intro z hz
    rw [ahead_succ] at hz
    exact ih z (List.mem_of_mem_tail hz)

lemma inside_ofRegion {g : Grid} (hg : g.Numbered) {region : Region}
    (hregion : ∀ z ∈ region, g.contains z) : (ofRegion g region).Inside := by
  intro z hz
  by_cases hsome : ∃ z, z ∈ region
  · rw [ahead_ofRegion g hsome] at hz
    exact hregion z (Region.mem_toList.mp hz)
  · -- An empty region is walked as the whole grid.
    obtain rfl : region = .empty :=
      Region.ext fun x => iff_of_false (fun hx => hsome ⟨x, hx⟩) (Region.not_mem_empty x)
    exact Grid.inside_ofGrid hg z hz

/-- Wherever calls of `next` have led a walk, it goes on to its end, and so does the walk over the
things of a segment that starts from there. -/
lemma Inside.goes_on {w w' : ZoneWalk} (hw : w.Inside) (h : w.Leads w') :
    (∃ zs, w'.Visits zs) ∧ ∀ s, ∃ ts, (w'.narrow s).Yields ts := by
  have hin := hw.leads h
  exact ⟨⟨_, visits_ahead hin⟩, fun s => ⟨_, ThingWalk.yields_ahead hin⟩⟩

end ZoneWalk

/-- The queries of a map. -/
inductive Query where
  | near (center : Point) (radius : UInt32)
  | nearThing (thing : Thing) (radius : UInt32)
  | within (r : Rect)
  | inSight (watcher : Thing) (radius : UInt32)
  | everywhere

namespace GameMap

/-- The walk that answers a query, which fails when it looks up a zone that is not there. -/
def answer (m : GameMap) : Query → Except OutsideGrid ZoneWalk
  | .near center radius => .ok (m.near center radius)
  | .nearThing thing radius => .ok (m.nearThing thing radius)
  | .within r => .ok (m.within r)
  | .inSight watcher radius => m.inSight watcher radius
  | .everywhere => .ok m.everywhere

/-- Every query is answered with a walk over zones that are there. -/
lemma Sound.answer_inside {m : GameMap} {people : Population} (hm : m.Sound people) (q : Query) :
    ∃ walk, m.answer q = .ok walk ∧ walk.Inside := by
  have hnumbered : m.grid.Numbered := hm.occupancy.numbered
  have hbox : ∀ {left top right bottom},
      (ZoneWalk.ofRegion m.grid (m.grid.fillBox .empty left top right bottom)).Inside :=
    ZoneWalk.inside_ofRegion hnumbered (fun z hz => Grid.contains_of_mem_fillBox hnumbered hz)
  cases q with
  | near center radius => exact ⟨_, rfl, hbox⟩
  | nearThing thing radius => exact ⟨_, rfl, hbox⟩
  | within r => exact ⟨_, rfl, hbox⟩
  | inSight watcher radius =>
    obtain ⟨region, hregion, -, hinside, -⟩ := hm.inSight_eq watcher radius
    exact ⟨_, hregion, ZoneWalk.inside_ofRegion hnumbered hinside⟩
  | everywhere => exact ⟨_, rfl, Grid.inside_ofGrid hnumbered⟩

end GameMap

/-! Calls -/

namespace World

/-- Make calls one after the other until one of them fails. -/
def attempts (w : World) (calls : List Call) : Except OutsideGrid World :=
  calls.foldlM (fun w c => (w.attempt c).map Report.value) w

/-- Whatever looks zones up comes to zones that are there. -/
structure Finds (w : World) : Prop where
  insert : ∀ t, ∃ r, w.map.insert w.people t = .ok r
  erase : ∀ t, ∃ r, w.map.erase w.people t = .ok r
  settle : ∃ r, w.map.settle w.people = .ok r
  enlist : ∀ t kind position publicId, ∃ o,
    w.map.occupancy.enlist t kind position publicId = .ok o
  strike : ∀ t, ∃ r, w.map.occupancy.strike t = .ok r
  /-- When settling comes to an entry. -/
  settleEntry : ∀ (k : Nat) e, w.map.occupancy.roster.entries[k]? = some e →
    ∃ s r, w.map.occupancy.settlingAfter w.people k = .ok s ∧
      Occupancy.settleEntry w.people s e = .ok r
  /-- A query is answered, and wherever calls of `next` lead its walk, this goes on to its end, and
  so does the walk over the things of a segment that starts from there. -/
  answer : ∀ q, ∃ walk, w.map.answer q = .ok walk ∧ ∀ walk', walk.Leads walk' →
    (∃ zs, walk'.Visits zs) ∧ ∀ s, ∃ ts, (walk'.narrow s).Yields ts

variable {w : World} {n : Nat}

/-- A run goes through call by call. -/
lemma Sound.attempts_eq (h : w.Sound n) {calls : List Call}
    (hn : n + calls.countP Call.isSpawn < 2 ^ 32) : w.attempts calls = .ok (w.run calls) := by
  induction calls generalizing w n with
  | nil => rfl
  | cons c calls ih =>
    rw [countP_cons_toNat, ← Nat.add_assoc] at hn
    obtain ⟨events, hattempt, -⟩ := h.attempt_delivers c
    have hrest := ih (h.step (by omega) c) hn
    rw [attempts, List.foldlM_cons, hattempt]
    exact hrest

lemma Sound.contains_of_listed (h : w.Sound n) {e : Entry} (he : e ∈ w.map.listed) {z : ZoneId}
    (hz : e.zone = some z) : w.map.grid.contains z :=
  h.map.occupancy.holds.inside e he z hz

theorem Sound.finds (h : w.Sound n) : w.Finds where
  insert t := by
    rcases h.map.insert_cases t with ⟨r, events, hr, -⟩ | ⟨thing, id, m', -, -, ⟨events, hr, -⟩, -⟩
    · exact ⟨_, hr⟩
    · exact ⟨_, hr⟩
  erase t := by
    rcases h.map.erase_cases t with ⟨-, r, events, hr, -⟩ | ⟨e, m', -, ⟨events, hr, -⟩, -⟩
    · exact ⟨_, hr⟩
    · exact ⟨_, hr⟩
  settle := by
    obtain ⟨k, m', ⟨events, hr, -⟩, -⟩ := GameMap.settle_ticks h.map.occupancy w.people
    exact ⟨_, hr⟩
  enlist t kind position publicId := by
    refine ⟨_, Occupancy.enlist_eq ?_⟩
    intro z hz
    obtain ⟨p, -, rfl⟩ := Option.map_eq_some_iff.mp hz
    exact Grid.contains_zoneAt h.map.occupancy.numbered p
  strike t := by
    by_cases hlisted : ∃ e ∈ w.map.listed, e.thing = t
    · obtain ⟨e, he, rfl⟩ := hlisted
      exact ⟨_, (Occupancy.strike_of_listed h.map.occupancy he).1⟩
    · refine ⟨_, Occupancy.strike_of_unlisted h.map.occupancy ?_⟩
      intro e he het
      exact hlisted ⟨e, he, het⟩
  settleEntry k e he := by
    obtain ⟨s, es, hs, hshape, hholds⟩ := h.map.occupancy.holds_settlingAfter w.people he
    obtain ⟨s', hentry, -⟩ :=
      Occupancy.settleEntry_progress h.map.occupancy.numbered w.people hshape hholds
    exact ⟨s, _, hs, hentry⟩
  answer q := by
    obtain ⟨walk, hanswer, hinside⟩ := h.map.answer_inside q
    exact ⟨walk, hanswer, fun walk' hleads => hinside.goes_on hleads⟩

end World

/-! Counts -/

namespace Zone

lemma length_part_eraseAt (z : Zone) {t : Handle} {kind : Kind} {i : Nat}
    (h : z.place? t kind = some i) (q : Part) :
    (z.part q).length = (if q = kind.part then 1 else 0) + ((z.eraseAt i).part q).length := by
  have hcard := congrArg Multiset.card (z.coe_part_eraseAt h q)
  rw [Multiset.card_add, Multiset.coe_card, Multiset.coe_card] at hcard
  rw [hcard]
  split
  · rfl
  · rfl

/-- The counts are those of before without one thing of this kind. -/
structure CountedOut (z : Zone) (kind : Kind) (z' : Zone) : Prop where
  size : z'.size + 1 = z.size
  moving : z'.moving + (if kind.movable then 1 else 0) = z.moving
  characters : z'.characters + (if kind = .character then 1 else 0) = z.characters

/-- A thing that is taken out of a zone was counted there. -/
lemma countedOut_eraseAt (z : Zone) {t : Handle} {kind : Kind} {i : Nat}
    (h : z.place? t kind = some i) : z.CountedOut kind (z.eraseAt i) := by
  have hparts := z.length_part_eraseAt h
  have hc := hparts .characters
  have ho := hparts .others
  have hf := hparts .fixed
  constructor
  · rw [Zone.size, Zone.size, ← length_part_fixed, ← length_part_fixed]
    cases kind <;> simp only [Kind.part, reduceCtorEq, if_true, if_false] at hc ho hf <;> omega
  · rw [← length_part_others, ← length_part_others]
    cases kind <;> simp [Kind.part, Kind.movable] at hc ho ⊢ <;> omega
  · rw [← length_part_characters, ← length_part_characters]
    cases kind <;> simp [Kind.part] at hc ⊢ <;> omega

end Zone

/-- A slot that a block gives out was counted as free. -/
lemma IdBlock.free_take {b : IdBlock} {s : UInt8} (h : b.candidate? = some s) (t : Handle) :
    (b.take s t).free + 1 = b.free := by
  have hfree : b.free ≠ 0 := by
    unfold candidate? at h
    split at h
    · cases h
    · next hfull => simpa [isFull] using hfull
  exact Nat.sub_add_cancel (Nat.pos_of_ne_zero hfree)

/-- A thing that ends was counted as alive. -/
lemma Population.Sound.alive_despawn {p : Population} {n : Nat} (hp : p.Sound n) {h : Handle}
    {t : Thing} (ht : p.get? h = some t) : (p.despawn h).value.2.alive + 1 = p.alive := by
  have hi := index_lt_of_get? ht
  have hslot := get?_eq_some_iff.mp ht
  have hpos : 0 < p.alive := by
    rw [hp.alive_eq, Array.countP_pos_iff]
    exact ⟨_, Array.mem_of_getElem? hslot, rfl⟩
  unfold Population.despawn
  split
  · next hnone => simp [ht] at hnone
  · exact Nat.sub_add_cancel hpos

/-- Whatever leads to a zone leads to one of the map. -/
structure GameMap.Bounded (m : GameMap) : Prop where
  zoneAt : ∀ p, m.grid.contains (m.grid.zoneAt p)
  fillAround : ∀ region center radius, ∀ z ∈ m.grid.fillAround region center radius,
    z ∈ region ∨ m.grid.contains z
  fillOverlapping : ∀ region r, ∀ z ∈ m.grid.fillOverlapping region r,
    z ∈ region ∨ m.grid.contains z
  listed : ∀ e ∈ m.occupancy.roster.entries, ∀ z, e.zone = some z → m.grid.contains z
  departed : ∀ zone ∈ m.grid.zones, ∀ z ∈ zone.departures, m.grid.contains z

lemma World.Sound.bounded {w : World} {n : Nat} (h : w.Sound n) : w.map.Bounded := by
  have hnumbered : w.map.grid.Numbered := h.map.occupancy.numbered
  have hbox : ∀ {region left top right bottom},
      ∀ z ∈ w.map.grid.fillBox region left top right bottom,
        z ∈ region ∨ w.map.grid.contains z := by
    intro region left top right bottom z hz
    rw [Grid.fillBox_eq_union, Region.mem_union] at hz
    exact hz.imp_right (Grid.contains_of_mem_fillBox hnumbered)
  refine ⟨Grid.contains_zoneAt hnumbered, fun _ _ _ => hbox, fun _ _ => hbox, ?_, ?_⟩
  · intro e he z hz
    exact h.contains_of_listed (Roster.mem_entries.mp he) hz
  · intro zone hzone z hz
    obtain ⟨i, hi⟩ := Array.mem_iff_getElem?.mp hzone
    obtain ⟨y, -, hy⟩ := Grid.exists_zone?_eq hnumbered hi
    exact h.map.occupancy.departed_inside y z ⟨zone, hy, hz⟩

/-- On a map of a layout that passes its check every run of calls goes through. After it zone
numbers are exact, and each zone that a point, an area, an entry or a note of a departure leads to
is one of the map. So whatever looks a zone up, in a call, in a query and at each step of a walk,
finds it. No count falls below zero. -/
theorem lookups_within_bounds (id : MapId) (name : String) {l : Layout} (hl : l.check = .ok ())
    {calls : List Call} (hspawns : calls.countP Call.isSpawn < 2 ^ 32) :
    let w := (World.start id name l).run calls
    (World.start id name l).attempts calls = .ok w ∧
    w.map.grid.Exact ∧
    ((∀ center radius, (Point.square center radius).Fits) ∧ ∀ r, (Rect.area r).Fits) ∧
    w.map.Bounded ∧
    w.Finds ∧
    (∀ (zone : Zone) t kind i, zone.place? t kind = some i →
      zone.CountedOut kind (zone.eraseAt i)) ∧
    (∀ (b : IdBlock) s t, b.candidate? = some s → (b.take s t).free + 1 = b.free) ∧
    (∀ h t, w.people.get? h = some t →
      (w.people.despawn h).value.2.alive + 1 = w.people.alive) := by
  intro w
  have hw : w.Sound _ := World.sound_run id name hl hspawns
  refine ⟨(World.sound_start id name hl).attempts_eq (by omega),
    Grid.exact_of_numbered hw.map.occupancy.numbered, ⟨Box.fits_square, Box.fits_area⟩,
    hw.bounded, hw.finds, ?_, ?_, ?_⟩
  · intro zone t kind i hplace
    exact zone.countedOut_eraseAt hplace
  · intro b s t hcandidate
    exact IdBlock.free_take hcandidate t
  · intro h t ht
    exact hw.people.alive_despawn ht

/-- A point in the corner of the plane, and a watcher in the same corner. -/
theorem lookups_within_bounds_stroll :
    World.plaza.check = .ok () ∧ World.stroll.countP Call.isSpawn < 2 ^ 32 ∧
      (World.start ⟨1⟩ "plaza" World.plaza).attempts World.stroll =
        .ok ((World.start ⟨1⟩ "plaza" World.plaza).run World.stroll) ∧
      ((World.start ⟨1⟩ "plaza" World.plaza).run World.stroll).map.grid.contains
        (((World.start ⟨1⟩ "plaza" World.plaza).run World.stroll).map.grid.zoneAt
          ⟨-2147483648, 2147483647⟩) ∧
      (∃ walk zs, ((World.start ⟨1⟩ "plaza" World.plaza).run World.stroll).map.inSight
        (.fresh .monster true ⟨-2147483648, 2147483647⟩) 4294967295 = .ok walk ∧
          walk.Visits zs) ∧
      (((World.start ⟨1⟩ "plaza" World.plaza).run World.stroll).people.despawn
        ⟨0, .first⟩).value.2.alive + 1 = 2 := by
  have hl : World.plaza.check = .ok () := by decide
  have hspawns : World.stroll.countP Call.isSpawn < 2 ^ 32 := by decide
  obtain ⟨hgoes, -, -, hbounded, hfinds, -, -, halive⟩ :=
    lookups_within_bounds ⟨1⟩ "plaza" hl hspawns
  obtain ⟨walk, hwalk, hends⟩ :=
    hfinds.answer (.inSight (.fresh .monster true ⟨-2147483648, 2147483647⟩) 4294967295)
  obtain ⟨⟨zs, hvisits⟩, -⟩ := hends walk .here
  have hthing : ((World.start ⟨1⟩ "plaza" World.plaza).run World.stroll).people.get?
      ⟨0, .first⟩ = some ⟨.character, true, ⟨250, 150⟩, ⟨10, 20⟩, some ⟨1⟩, some ⟨0⟩⟩ := by
    decide +kernel
  refine ⟨hl, hspawns, hgoes, hbounded.zoneAt _, ⟨walk, zs, hwalk, hvisits⟩, ?_⟩
  rw [halive _ _ hthing]
  decide +kernel

end Whereabouts
