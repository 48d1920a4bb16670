import KeyDigest.Collection.SortedMap
import KeyDigest.Proofs.Collection.Traversal

/-! # Contents of a sorted map

Where later entries replace earlier ones, what counts is the last of those that have a key in
common. So a map made from a list of entries holds those that no later entry of the list has the key
of. Since the order is strict, a map has no key twice and is known by the entries it holds.
-/

/-! ## The last item with a property

Reading a list item by item keeps its last item last; in a list that ascends, the last is the
greatest.
-/

namespace KeyDigest

variable {α β ε : Type} {p : α → Prop} {a : α} {l : List α}

/-- The item stands in the list, and none after it has the property. -/
def IsLast (p : α → Prop) (a : α) (l : List α) : Prop :=
  ∃ before after, l = before ++ a :: after ∧ ∀ b ∈ after, ¬ p b

theorem not_isLast_nil : ¬ IsLast p a [] := by
  rintro ⟨before, after, hsplit, -⟩
  cases before <;> cases hsplit

theorem isLast_cons_iff {first : α} :
    IsLast p a (first :: l) ↔ IsLast p a l ∨ a = first ∧ ∀ b ∈ l, ¬ p b := by
  constructor
  · rintro ⟨before, after, hsplit, hafter⟩
    cases before with
    | nil =>
      obtain ⟨rfl, rfl⟩ := List.cons.inj hsplit
      exact .inr ⟨rfl, hafter⟩
    | cons b before =>
      obtain ⟨-, rfl⟩ := List.cons.inj hsplit
      exact .inl ⟨before, after, rfl, hafter⟩
  · rintro (⟨before, after, rfl, hafter⟩ | ⟨rfl, hafter⟩)
    · exact ⟨first :: before, after, rfl, hafter⟩
    · exact ⟨[], l, rfl, hafter⟩

theorem IsLast.mem (h : IsLast p a l) : a ∈ l := by
  obtain ⟨before, after, rfl, -⟩ := h
  simp

theorem exists_isLast (h : ∃ a ∈ l, p a) : ∃ a, p a ∧ IsLast p a l := by
  induction l with
  | nil => simp at h
  | cons first l ih =>
    -- The first item is the last one with the property only if no later item has it.
    by_cases hrest : ∃ a ∈ l, p a
    · obtain ⟨a, ha, hlast⟩ := ih hrest
      exact ⟨a, ha, isLast_cons_iff.mpr (.inl hlast)⟩
    · obtain ⟨a, hmem, ha⟩ := h
      obtain rfl | hmem := List.mem_cons.mp hmem
      · exact ⟨a, ha, isLast_cons_iff.mpr (.inr ⟨rfl, fun b hb hp => hrest ⟨b, hb, hp⟩⟩)⟩
      · exact absurd ⟨a, hmem, ha⟩ hrest

/-- Reading item by item keeps the order, so it takes the last item to the last result. -/
theorem isLast_iff_of_map_eq {f : α → Except ε β} {bs : List β} {q : β → Prop} {b : β}
    (h : l.map f = bs.map .ok) :
    IsLast q b bs ↔ ∃ a, f a = .ok b ∧ IsLast (fun a => ∃ c, f a = .ok c ∧ q c) a l := by
  constructor
  · rintro ⟨before, after, rfl, hafter⟩
    rw [List.map_append, List.map_cons] at h
    obtain ⟨early, rest, rfl, -, hrest⟩ := List.map_eq_append_iff.mp h
    obtain ⟨a, late, rfl, ha, hlate⟩ := List.map_eq_cons_iff.mp hrest
    refine ⟨a, ha, early, late, rfl, ?_⟩
    rintro x hx ⟨d, hd, hq⟩
    exact hafter d ((mem_iff_of_map_eq hlate).mpr ⟨x, hx, hd⟩) hq
  · rintro ⟨a, ha, before, after, rfl, hafter⟩
    rw [List.map_append, List.map_cons, ha] at h
    obtain ⟨early, rest, rfl, -, hrest⟩ := List.map_eq_append_iff.mp h.symm
    obtain ⟨c, late, rfl, hc, hlate⟩ := List.map_eq_cons_iff.mp hrest
    obtain rfl := Except.ok.inj hc
    refine ⟨early, late, rfl, fun d hd hq => ?_⟩
    obtain ⟨x, hx, hxd⟩ := (mem_iff_of_map_eq hlate.symm).mp hd
    exact hafter x hx ⟨d, hxd, hq⟩

/-! ### Ascending lists -/

section Ascending

variable {κ : Type} [LT κ] {key : α → κ} {before after : List α}

theorem lt_of_mem_before (h : (before ++ a :: after).Pairwise fun a b => key a < key b) {b : α}
    (hb : b ∈ before) : key b < key a :=
  (List.pairwise_append.mp h).2.2 b hb a List.mem_cons_self

theorem lt_of_mem_after (h : (before ++ a :: after).Pairwise fun a b => key a < key b) {b : α}
    (hb : b ∈ after) : key a < key b :=
  (List.pairwise_cons.mp (List.pairwise_append.mp h).2.1).1 b hb

variable [LE κ] [Std.IsLinearOrder κ] [Std.LawfulOrderLT κ]

theorem isLast_iff_of_ascending (ascending : l.Pairwise fun a b => key a < key b) :
    IsLast p a l ↔ a ∈ l ∧ ∀ b ∈ l, p b → key b ≤ key a := by
  constructor
  · intro h
    refine ⟨h.mem, fun b hb hp => ?_⟩
    obtain ⟨before, after, rfl, hafter⟩ := h
    obtain hbefore | hb := List.mem_append.mp hb
    · exact Std.le_of_lt (lt_of_mem_before ascending hbefore)
    · obtain rfl | hlater := List.mem_cons.mp hb
      · exact Std.le_refl _
      · exact absurd hp (hafter b hlater)
  · rintro ⟨hmem, hgreatest⟩
    obtain ⟨before, after, rfl⟩ := List.append_of_mem hmem
    refine ⟨before, after, rfl, fun b hb hp => ?_⟩
    exact Std.not_lt.mpr (hgreatest b (by simp [hb]) hp) (lt_of_mem_after ascending hb)

/-- What stands before an item of an ascending list are the lesser items. -/
theorem exists_split_iff_of_ascending {q : α → Prop}
    (ascending : l.Pairwise fun a b => key a < key b) :
    (∃ before a after, l = before ++ a :: after ∧ (∀ b ∈ before, p b) ∧ q a) ↔
      ∃ a ∈ l, (∀ b ∈ l, key b < key a → p b) ∧ q a := by
  constructor
  · rintro ⟨before, a, after, rfl, hbefore, ha⟩
    refine ⟨a, by simp, fun b hb hless => ?_, ha⟩
    obtain hearlier | hb := List.mem_append.mp hb
    · exact hbefore b hearlier
    · obtain rfl | hlater := List.mem_cons.mp hb
      · exact absurd hless Std.lt_irrefl
      · exact absurd (Std.lt_trans hless (lt_of_mem_after ascending hlater)) Std.lt_irrefl
  · rintro ⟨a, hmem, hbefore, ha⟩
    obtain ⟨before, after, rfl⟩ := List.append_of_mem hmem
    refine ⟨before, a, after, rfl, fun b hb => ?_, ha⟩
    exact hbefore b (by simp [hb]) (lt_of_mem_before ascending hb)

end Ascending

end KeyDigest

/-! ## Maps -/

namespace KeyDigest.SortedMap

variable {κ α : Type} [Ord κ] [Std.LawfulEqOrd κ]

theorem ne_of_compare_eq_lt {a b : κ} (h : compare a b = .lt) : a ≠ b := by
  rintro rfl
  rw [Std.ReflOrd.compare_self] at h
  cases h

/-- Since the keys ascend, none is repeated. -/
theorem nodup_keys (map : SortedMap κ α) : (map.entries.map Prod.fst).Nodup :=
  List.pairwise_map.mpr (map.ascending.imp ne_of_compare_eq_lt)

theorem nodup_entries (map : SortedMap κ α) : map.entries.Nodup :=
  map.ascending.imp fun hlt heq => ne_of_compare_eq_lt hlt (congrArg Prod.fst heq)

variable [Std.TransOrd κ]

theorem mem_insertEntry_iff {key : κ} {value : α} {entry : κ × α} :
    ∀ {entries : List (κ × α)}, (entries.Pairwise fun a b => compare a.1 b.1 = .lt) →
      (entry ∈ insertEntry key value entries ↔
        entry = (key, value) ∨ entry.1 ≠ key ∧ entry ∈ entries)
  | [], _ => by simp [insertEntry]
  | first :: rest, h => by
    obtain ⟨before, ascending⟩ := List.pairwise_cons.mp h
    unfold insertEntry
    split
    · -- The new entry goes in front, and all keys behind it are greater.
      rename_i less
      have hne : ∀ other ∈ first :: rest, other.1 ≠ key :=
        List.forall_mem_cons.mpr ⟨(ne_of_compare_eq_lt less).symm, fun other member =>
          (ne_of_compare_eq_lt (Std.TransCmp.lt_trans less (before other member))).symm⟩
      rw [List.mem_cons]
      exact or_congr_right ⟨fun member => ⟨hne entry member, member⟩, And.right⟩
    · -- The first entry is replaced, and no later one has its key.
      rename_i same
      have hsame : key = first.1 := Std.LawfulEqOrd.eq_of_compare same
      have hne : ∀ other ∈ rest, other.1 ≠ key := fun other member =>
        hsame ▸ (ne_of_compare_eq_lt (before other member)).symm
      rw [List.mem_cons, List.mem_cons]
      refine or_congr_right ⟨fun member => ⟨hne entry member, .inr member⟩, ?_⟩
      rintro ⟨hkey, rfl | member⟩
      · exact absurd hsame.symm hkey
      · exact member
    · -- The first entry stays, because its key is less.
      rename_i greater
      have hne : first.1 ≠ key := ne_of_compare_eq_lt (Std.OrientedCmp.lt_of_gt greater)
      rw [List.mem_cons, List.mem_cons, mem_insertEntry_iff ascending]
      constructor
      · rintro (rfl | rfl | ⟨hkey, member⟩)
        · exact .inr ⟨hne, .inl rfl⟩
        · exact .inl rfl
        · exact .inr ⟨hkey, .inr member⟩
      · rintro (rfl | ⟨hkey, rfl | member⟩)
        · exact .inr (.inl rfl)
        · exact .inl rfl
        · exact .inr (.inr ⟨hkey, member⟩)

theorem mem_insert_iff {map : SortedMap κ α} {key : κ} {value : α} {entry : κ × α} :
    entry ∈ (map.insert key value).entries ↔
      entry = (key, value) ∨ entry.1 ≠ key ∧ entry ∈ map.entries :=
  mem_insertEntry_iff map.ascending

theorem mem_foldl_insert_iff {entry : κ × α} (pairs : List (κ × α)) (map : SortedMap κ α) :
    entry ∈ (pairs.foldl (fun map pair => map.insert pair.1 pair.2) map).entries ↔
      IsLast (·.1 = entry.1) entry pairs ∨
        (∀ pair ∈ pairs, pair.1 ≠ entry.1) ∧ entry ∈ map.entries := by
  induction pairs generalizing map with
  | nil => simp [not_isLast_nil]
  | cons first rest ih =>
    -- The first pair counts until one of the rest has its key, as did the map before it.
    rw [List.foldl_cons, ih, mem_insert_iff, isLast_cons_iff, List.forall_mem_cons, ne_comm]
    grind

theorem mem_ofList_iff {entry : κ × α} {pairs : List (κ × α)} :
    entry ∈ (ofList pairs).entries ↔ IsLast (·.1 = entry.1) entry pairs := by
  rw [ofList, mem_foldl_insert_iff]
  exact or_iff_left fun h => List.not_mem_nil h.2

example : (ofList [(2, 'a'), (1, 'b'), (2, 'c')]).entries = [(1, 'b'), (2, 'c')] := by decide

theorem mem_keys_ofList_iff {key : κ} {pairs : List (κ × α)} :
    key ∈ (ofList pairs).entries.map Prod.fst ↔ key ∈ pairs.map Prod.fst := by
  constructor
  · intro h
    obtain ⟨entry, hmem, rfl⟩ := List.mem_map.mp h
    exact List.mem_map_of_mem (mem_ofList_iff.mp hmem).mem
  · intro h
    obtain ⟨pair, hmem, rfl⟩ := List.mem_map.mp h
    obtain ⟨entry, hkey, hlast⟩ := exists_isLast (p := (·.1 = pair.1)) ⟨pair, hmem, rfl⟩
    rw [← hkey] at hlast ⊢
    exact List.mem_map_of_mem (mem_ofList_iff.mpr hlast)

theorem eq_of_mem_iff {a b : SortedMap κ α} (h : ∀ entry, entry ∈ a.entries ↔ entry ∈ b.entries) :
    a = b := by
  have hperm : a.entries.Perm b.entries :=
    (List.perm_ext_iff_of_nodup a.nodup_entries b.nodup_entries).mpr h
  have hentries : a.entries = b.entries := by
    refine hperm.eq_of_pairwise (fun x y _ _ hxy hyx => ?_) a.ascending b.ascending
    rw [Std.OrientedOrd.eq_swap, hyx] at hxy
    cases hxy
  cases a
  cases b
  cases hentries
  rfl

end KeyDigest.SortedMap
