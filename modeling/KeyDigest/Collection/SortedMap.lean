/-! # Sorted maps

A map whose entries stand in ascending order of their keys, so that two maps with the same
entries are equal and listing one needs no sorting.  A key that is inserted again keeps its place
and gets the new value.
-/

namespace KeyDigest

/-- Entries in strictly ascending order of their keys. -/
structure SortedMap (κ α : Type) [Ord κ] where
  entries : List (κ × α)
  ascending : entries.Pairwise fun a b => compare a.1 b.1 = .lt

namespace SortedMap

variable {κ α : Type} [Ord κ]

def empty : SortedMap κ α where
  entries := []
  ascending := .nil

def insertEntry (key : κ) (value : α) : List (κ × α) → List (κ × α)
  | [] => [(key, value)]
  | entry :: rest =>
    match compare key entry.1 with
    | .lt => (key, value) :: entry :: rest
    | .eq => (key, value) :: rest
    | .gt => entry :: insertEntry key value rest

theorem eq_or_mem_of_mem_insertEntry {key : κ} {value : α} {entry : κ × α} :
    ∀ {entries : List (κ × α)}, entry ∈ insertEntry key value entries →
      entry = (key, value) ∨ entry ∈ entries
  | [], h => by simpa [insertEntry] using h
  | first :: rest, h => by
    unfold insertEntry at h
    split at h
    · simpa using h
    · simp only [List.mem_cons] at h ⊢
      exact h.imp_right .inr
    · simp only [List.mem_cons] at h ⊢
      rcases h with h | h
      · exact .inr (.inl h)
      · exact (eq_or_mem_of_mem_insertEntry h).imp_right .inr

theorem pairwise_insertEntry [Std.TransOrd κ] {key : κ} {value : α} :
    ∀ {entries : List (κ × α)}, (entries.Pairwise fun a b => compare a.1 b.1 = .lt) →
      ((insertEntry key value entries).Pairwise fun a b => compare a.1 b.1 = .lt)
  | [], _ => by simp [insertEntry]
  | first :: rest, h => by
    have ⟨before, ascending⟩ := List.pairwise_cons.mp h
    unfold insertEntry
    split
    · rename_i less
      refine List.pairwise_cons.mpr ⟨fun entry member => ?_, h⟩
      rcases List.mem_cons.mp member with rfl | member
      · exact less
      · exact Std.TransCmp.lt_trans less (before entry member)
    · rename_i same
      exact List.pairwise_cons.mpr
        ⟨fun entry member => Std.TransCmp.lt_of_eq_of_lt same (before entry member), ascending⟩
    · rename_i greater
      refine List.pairwise_cons.mpr ⟨fun entry member => ?_, pairwise_insertEntry ascending⟩
      rcases eq_or_mem_of_mem_insertEntry member with rfl | member
      · exact Std.OrientedCmp.lt_of_gt greater
      · exact before entry member

variable [Std.TransOrd κ]

/-- The map with a value under a key, in place of any that was there. -/
def insert (map : SortedMap κ α) (key : κ) (value : α) : SortedMap κ α where
  entries := insertEntry key value map.entries
  ascending := pairwise_insertEntry map.ascending

/-- The map of a list of entries, of which a later one replaces an earlier one. -/
def ofList (entries : List (κ × α)) : SortedMap κ α :=
  entries.foldl (fun map entry => map.insert entry.1 entry.2) empty

end SortedMap

end KeyDigest
