import Whereabouts.Proofs.ZoneParts
import Whereabouts.Roster

/-!
# The index of a roster

As long as no thing is listed twice the index is exact: it leads from a handle to the one entry of
its thing, and to nothing when there is none. Listing a new thing keeps it so, and so does striking
one, whose place the last entry takes.
-/

namespace Whereabouts

namespace Roster

/-- The entries, whatever their order. -/
def listed (r : Roster) : Multiset Entry :=
  r.entries.toList

/-- The index leads to every entry, and so each thing is listed at most once. -/
def Indexed (r : Roster) : Prop :=
  ∀ t i, r.index[t]? = some i ↔ r.entries[i]?.map Entry.thing = some t

lemma mem_entries {r : Roster} {e : Entry} : e ∈ r.entries ↔ e ∈ r.listed :=
  Array.mem_toList_iff.symm

lemma mem_listed {r : Roster} {e : Entry} : e ∈ r.listed ↔ ∃ i : Nat, r.entries[i]? = some e := by
  rw [listed, Multiset.mem_coe, Array.mem_toList_iff, Array.mem_iff_getElem?]

lemma indexed_empty : empty.Indexed := by
  intro t i
  simp [empty]

lemma Indexed.eq_of_thing_eq {r : Roster} (hr : r.Indexed) {i j : Nat} {e e' : Entry}
    (hi : r.entries[i]? = some e) (hj : r.entries[j]? = some e') (h : e.thing = e'.thing) :
    i = j := by
  have hiex := (hr e.thing i).mpr (by rw [hi]; rfl)
  have hjex := (hr e.thing j).mpr (by rw [hj, h]; rfl)
  rw [hiex] at hjex
  exact Option.some.inj hjex

theorem Indexed.nodup {r : Roster} (hr : r.Indexed) : r.things.Nodup := by
  rw [things, List.nodup_iff_getElem?_ne_getElem?]
  intro i j hij hj heq
  rw [List.length_map, Array.length_toList] at hj
  have hi : i < r.entries.size := by omega
  have hi' := Array.getElem?_eq_getElem hi
  have hj' := Array.getElem?_eq_getElem hj
  rw [List.getElem?_map, List.getElem?_map, Array.getElem?_toList, Array.getElem?_toList,
    hi', hj', Option.map_some, Option.map_some, Option.some.injEq] at heq
  exact absurd (hr.eq_of_thing_eq hi' hj' heq) (Nat.ne_of_lt hij)

/-- Two entries of one thing are the same entry. -/
lemma Indexed.entry_unique {r : Roster} (hr : r.Indexed) {e e' : Entry} (he : e ∈ r.listed)
    (he' : e' ∈ r.listed) (h : e.thing = e'.thing) : e = e' := by
  obtain ⟨i, hi⟩ := mem_listed.mp he
  obtain ⟨j, hj⟩ := mem_listed.mp he'
  rw [hr.eq_of_thing_eq hi hj h, hj] at hi
  exact (Option.some.inj hi).symm

/-- Beside an entry there is no other one of its thing. -/
lemma Indexed.ne_of_listed_eq {r : Roster} (hr : r.Indexed) {e : Entry} {es : Multiset Entry}
    (h : r.listed = e ::ₘ es) : ∀ e' ∈ es, e'.thing ≠ e.thing := by
  intro e' he' heq
  have hnodup : (r.listed.map Entry.thing).Nodup := hr.nodup
  rw [h, Multiset.map_cons, Multiset.nodup_cons] at hnodup
  exact hnodup.1 (Multiset.mem_map.mpr ⟨e', he', heq⟩)

lemma Indexed.get?_eq_some_iff {r : Roster} (hr : r.Indexed) {t : Handle} {e : Entry} :
    r.get? t = some e ↔ e ∈ r.listed ∧ e.thing = t := by
  rw [mem_listed, get?]
  constructor
  · intro h
    obtain ⟨i, hi, he⟩ := Option.bind_eq_some_iff.mp h
    have hlead := r.index_leads t i hi
    rw [he] at hlead
    exact ⟨⟨i, he⟩, Option.some.inj hlead⟩
  · rintro ⟨⟨i, he⟩, ht⟩
    have hi := (hr t i).mpr (by rw [he, ← ht]; rfl)
    rw [hi]
    exact he

lemma Indexed.index_eq_none_iff {r : Roster} (hr : r.Indexed) {t : Handle} :
    r.index[t]? = none ↔ ∀ e ∈ r.listed, e.thing ≠ t := by
  constructor
  · rintro hnone e he rfl
    obtain ⟨i, hi⟩ := mem_listed.mp he
    have hsome := (hr e.thing i).mpr (by rw [hi]; rfl)
    rw [hnone] at hsome
    cases hsome
  · intro hall
    cases hi : r.index[t]? with
    | none => rfl
    | some i =>
      have hlead := r.index_leads t i hi
      rw [Option.map_eq_some_iff] at hlead
      obtain ⟨e, he, ht⟩ := hlead
      exact absurd ht (hall e (mem_listed.mpr ⟨i, he⟩))

lemma listed_add (r : Roster) (e : Entry) : (r.add e).listed = e ::ₘ r.listed := by
  rw [listed, add, Array.toList_push, ← Multiset.coe_add, add_comm]
  rfl

theorem Indexed.add {r : Roster} (hr : r.Indexed) {e : Entry}
    (hnew : ∀ e' ∈ r.listed, e'.thing ≠ e.thing) : (r.add e).Indexed := by
  intro t i
  refine ⟨(r.add e).index_leads t i, ?_⟩
  intro h
  simp only [Roster.add, Array.getElem?_push] at h ⊢
  rw [Std.HashMap.getElem?_insert]
  by_cases hi : i = r.entries.size
  · rw [if_pos hi, Option.map_some, Option.some.injEq] at h
    rw [if_pos (beq_iff_eq.mpr h), hi]
  · rw [if_neg hi] at h
    have ht : e.thing ≠ t := by
      rw [Option.map_eq_some_iff] at h
      obtain ⟨e', he', rfl⟩ := h
      exact (hnew e' (mem_listed.mpr ⟨i, he'⟩)).symm
    rw [if_neg (by simpa using ht)]
    exact (hr t i).mpr h

lemma erase_of_index_none {r : Roster} {t : Handle} (h : r.index[t]? = none) :
    r.erase t = (none, r) := by
  unfold erase
  split
  · rfl
  · next hs => simp [h] at hs

lemma toList_dropAt {entries : Array Entry} {A B : List Entry} {e : Entry}
    (h : entries.toList = A ++ e :: B) (hi : A.length < entries.size) :
    (dropAt entries A.length hi).toList = A ++ B.rotate (B.length - 1) := by
  have hsize := congrArg List.length h
  simp only [Array.length_toList, List.length_append, List.length_cons] at hsize
  have hswap := swap_back (A := A) (B := B) (t := e) (D := []) (h.trans (by simp))
    (i := A.length) (j := entries.size - 1) rfl (by omega) hi (by omega)
  rw [dropAt, Array.toList_pop, hswap]
  simp

/-- What striking a listed thing does to the roster. -/
lemma erase_of_index_some {r : Roster} {t : Handle} {i : Nat} (h : r.index[t]? = some i) :
    ∃ e A B, r.entries.toList = A ++ e :: B ∧ A.length = i ∧ e.thing = t ∧
      (r.erase t).1 = some e ∧ (r.erase t).2.entries = dropAt r.entries i (lt_size h) ∧
      (r.erase t).2.index = reindex r.index t i (dropAt r.entries i (lt_size h))[i]? := by
  have hi := lt_size h
  have hlead := r.index_leads t i h
  rw [Array.getElem?_eq_getElem hi, Option.map_some, Option.some.injEq] at hlead
  refine ⟨r.entries[i], r.entries.toList.take i, r.entries.toList.drop (i + 1), ?_, ?_, hlead, ?_⟩
  · have hi' : i < r.entries.toList.length := by simpa using hi
    rw [← Array.getElem_toList, List.getElem_cons_drop, List.take_append_drop]
  · simp
    omega
  · unfold erase
    split
    · next hn => simp [h] at hn
    · next j hj =>
      obtain rfl : i = j := Option.some.inj (h.symm.trans hj)
      exact ⟨rfl, rfl, rfl⟩

/-- The new index leads to what is left: to the moved entry at its new place, and to each of the
others where it was. -/
lemma Indexed.reindex {r : Roster} (hr : r.Indexed) {t : Handle} {i : Nat}
    (h : r.index[t]? = some i) (s : Handle) (j : Nat)
    (hj : (dropAt r.entries i (lt_size h))[j]?.map Entry.thing = some s) :
    (Roster.reindex r.index t i (dropAt r.entries i (lt_size h))[i]?)[s]? = some j := by
  have hi := lt_size h
  have ht := (hr t i).mp h
  rw [getElem?_dropAt] at hj ⊢
  by_cases hjs : j < r.entries.size - 1
  · rw [if_pos hjs] at hj
    by_cases hji : j = i
    · rw [if_pos hji] at hj
      obtain ⟨e, he, hes⟩ := Option.map_eq_some_iff.mp hj
      rw [if_pos (by omega), if_pos rfl, he, Roster.reindex, Std.HashMap.getElem?_insert, hes,
        if_pos (beq_self_eq_true s), hji]
    · rw [if_neg hji] at hj
      have hs := (hr s j).mpr hj
      have hts : t ≠ s := by
        rintro rfl
        exact hji (Option.some.inj (hs.symm.trans h))
      have herase : (r.index.erase t)[s]? = some j := by
        rw [Std.HashMap.getElem?_erase, if_neg (by simpa using hts), hs]
      -- When `t` was not the last one, the last one has been listed anew, and is not `s`.
      by_cases hlast : i < r.entries.size - 1
      · have hsize : r.entries.size - 1 < r.entries.size := by omega
        have hmoved := Array.getElem?_eq_getElem hsize
        have hne : r.entries[r.entries.size - 1].thing ≠ s := by
          intro he
          have hindex := (hr s (r.entries.size - 1)).mpr (by rw [hmoved, ← he]; rfl)
          have := Option.some.inj (hindex.symm.trans hs)
          omega
        rw [if_pos hlast, if_pos rfl, hmoved, Roster.reindex, Std.HashMap.getElem?_insert,
          if_neg (by simpa using hne), herase]
      · rw [if_neg hlast, Roster.reindex, herase]
  · rw [if_neg hjs] at hj
    cases hj

theorem Indexed.erase {r : Roster} (hr : r.Indexed) (t : Handle) : (r.erase t).2.Indexed := by
  cases h : r.index[t]? with
  | none => rwa [erase_of_index_none h]
  | some i =>
    obtain ⟨e, A, B, -, -, -, -, hentries, hindex⟩ := erase_of_index_some h
    intro s j
    refine ⟨(r.erase t).2.index_leads s j, ?_⟩
    rw [hentries, hindex]
    exact hr.reindex h s j

/-- What is struck was listed. -/
lemma mem_listed_of_erase {r : Roster} {t : Handle} {e : Entry} (h : (r.erase t).1 = some e) :
    e ∈ r.listed ∧ e.thing = t := by
  cases hi : r.index[t]? with
  | none =>
    rw [erase_of_index_none hi] at h
    cases h
  | some i =>
    obtain ⟨e', A, B, hlist, -, ht, hfst, -⟩ := erase_of_index_some hi
    obtain rfl : e' = e := Option.some.inj (hfst.symm.trans h)
    refine ⟨?_, ht⟩
    rw [listed, hlist]
    simp

/-- Striking a thing takes its entry out of the list, if there is one. -/
theorem Indexed.listed_erase {r : Roster} (hr : r.Indexed) {t : Handle} {e : Entry}
    (he : e ∈ r.listed) (ht : e.thing = t) :
    (r.erase t).1 = some e ∧ r.listed = e ::ₘ (r.erase t).2.listed := by
  cases h : r.index[t]? with
  | none => exact absurd ht (hr.index_eq_none_iff.mp h e he)
  | some i =>
    obtain ⟨e', A, B, hlist, hlen, ht', hfst, hentries, -⟩ := erase_of_index_some h
    have he' := (mem_listed_of_erase hfst).1
    obtain rfl := hr.entry_unique he he' (ht.trans ht'.symm)
    refine ⟨hfst, ?_⟩
    subst hlen
    rw [listed, listed, hentries, toList_dropAt hlist, hlist, Multiset.cons_coe]
    apply Multiset.coe_eq_coe.mpr
    exact List.perm_middle.trans (((List.rotate_perm B _).symm.append_left A).cons e)

end Roster

end Whereabouts
