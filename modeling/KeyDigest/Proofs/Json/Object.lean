import KeyDigest.Json.Value

/-! # Entries of an object

Whatever the order in which entries are written, the value under a key is that of the last entry
that has it.  Putting the entries in ascending order keeps these values, since the sort is stable,
and leaves one entry for each key.
-/

namespace KeyDigest.Json

variable {α : Type} {entries : List (String × α)} {key : String} {value : α}

/-! ## Values under a key -/

theorem get?_cons (first : String × α) (rest : List (String × α)) (key : String) :
    get? (first :: rest) key =
      (get? rest key).or (if first.1 = key then some first.2 else none) := by
  rw [get?, get?, List.findRev?]
  cases rest.findRev? fun entry => entry.1 = key with
  | some entry => rfl
  | none => by_cases h : first.1 = key <;> simp [h]

example : get? [("b", 1), ("a", 2), ("b", 3)] "b" = some 3 := by decide

theorem mem_of_get? (h : get? entries key = some value) : (key, value) ∈ entries := by
  induction entries with
  | nil => cases h
  | cons first rest ih =>
    rw [get?_cons, Option.or_eq_some_iff] at h
    obtain h | ⟨-, h⟩ := h
    · exact List.mem_cons_of_mem _ (ih h)
    · obtain ⟨rfl, rfl⟩ := by simpa using h
      exact List.mem_cons_self

theorem exists_get?_of_mem {entry : String × α} (h : entry ∈ entries) :
    ∃ value, get? entries entry.1 = some value := by
  induction entries with
  | nil => cases h
  | cons first rest ih =>
    rw [get?_cons]
    cases hrest : get? rest entry.1 with
    | some value => exact ⟨value, rfl⟩
    | none =>
      obtain rfl | hmem := List.mem_cons.mp h
      · exact ⟨entry.2, by simp⟩
      · obtain ⟨value, hvalue⟩ := ih hmem
        rw [hrest] at hvalue
        cases hvalue

/-- Where no key comes twice, the value under a key is the one in its entry. -/
theorem get?_eq_some_iff (ascending : entries.Pairwise fun a b => a.1 < b.1) :
    get? entries key = some value ↔ (key, value) ∈ entries := by
  refine ⟨mem_of_get?, fun h => ?_⟩
  induction entries with
  | nil => cases h
  | cons first rest ih =>
    obtain ⟨hfirst, hrest⟩ := List.pairwise_cons.mp ascending
    rw [get?_cons, Option.or_eq_some_iff]
    obtain rfl | hmem := List.mem_cons.mp h
    · refine .inr ⟨?_, by simp⟩
      refine Option.eq_none_iff_forall_ne_some.mpr fun other hother => ?_
      exact String.lt_irrefl key (hfirst (key, other) (mem_of_get? hother))
    · exact .inl (ih hrest hmem)

theorem get?_eq_getLast?_filter (entries : List (String × α)) (key : String) :
    get? entries key = ((entries.filter fun entry => entry.1 = key).getLast?).map Prod.snd := by
  rw [get?, List.findRev?_eq_find?_reverse, List.getLast?_filter]

/-! ## Ascending order -/

theorem keyLe_trans (a b c : String × α) (hab : decide (a.1 ≤ b.1)) (hbc : decide (b.1 ≤ c.1)) :
    decide (a.1 ≤ c.1) :=
  decide_eq_true (String.le_trans (of_decide_eq_true hab) (of_decide_eq_true hbc))

theorem keyLe_total (a b : String × α) : decide (a.1 ≤ b.1) || decide (b.1 ≤ a.1) := by
  simpa using String.le_total a.1 b.1

theorem filter_mergeSort (entries : List (String × α)) (key : String) :
    ((entries.mergeSort fun a b => a.1 ≤ b.1).filter fun entry => entry.1 = key) =
      entries.filter fun entry => entry.1 = key := by
  -- The entries with one key are in order already, so the sort leaves them as they are.
  have hequal : (entries.filter fun entry => entry.1 = key).Pairwise
      fun a b => decide (a.1 ≤ b.1) = true := by
    refine List.pairwise_of_forall_mem_list fun a ha b hb => ?_
    have hkey : a.1 = b.1 := by simp_all
    exact decide_eq_true (hkey ▸ String.le_refl _)
  have hsublist := List.sublist_mergeSort keyLe_trans keyLe_total hequal List.filter_sublist
  have hfilter := hsublist.filter fun entry => entry.1 = key
  simp only [List.filter_filter, Bool.and_self] at hfilter
  refine (hfilter.eq_of_length ?_).symm
  exact ((List.mergeSort_perm _ _).filter _).length_eq.symm

theorem get?_mergeSort (entries : List (String × α)) (key : String) :
    get? (entries.mergeSort fun a b => a.1 ≤ b.1) key = get? entries key := by
  rw [get?_eq_getLast?_filter, get?_eq_getLast?_filter, filter_mergeSort]

theorem get?_lastOfEach (entries : List (String × α)) (key : String) :
    get? (lastOfEach entries) key = get? entries key := by
  fun_induction lastOfEach entries with
  | case1 first second rest heq ih =>
    rw [ih, get?_cons first, get?_cons second, heq]
    cases get? rest key <;> by_cases h : second.1 = key <;> simp [h]
  | case2 first second rest hne ih => rw [get?_cons first, get?_cons first, ih]
  | case3 => rfl

theorem mem_of_mem_lastOfEach {entry : String × α} (h : entry ∈ lastOfEach entries) :
    entry ∈ entries := by
  fun_induction lastOfEach entries with
  | case1 first second rest heq ih => exact List.mem_cons_of_mem _ (ih h)
  | case2 first second rest hne ih =>
    obtain rfl | hmem := List.mem_cons.mp h
    · exact List.mem_cons_self
    · exact List.mem_cons_of_mem _ (ih hmem)
  | case3 => exact h

theorem pairwise_lastOfEach (h : entries.Pairwise fun a b => a.1 ≤ b.1) :
    (lastOfEach entries).Pairwise fun a b => a.1 < b.1 := by
  fun_induction lastOfEach entries with
  | case1 first second rest heq ih => exact ih (List.pairwise_cons.mp h).2
  | case2 first second rest hne ih =>
    obtain ⟨hfirst, hrest⟩ := List.pairwise_cons.mp h
    have hless : first.1 < second.1 := Std.lt_of_le_of_ne (hfirst _ List.mem_cons_self) hne
    refine List.pairwise_cons.mpr ⟨fun entry hmem => ?_, ih hrest⟩
    obtain rfl | hlater := List.mem_cons.mp (mem_of_mem_lastOfEach hmem)
    · exact hless
    · exact Std.lt_of_lt_of_le hless ((List.pairwise_cons.mp hrest).1 entry hlater)
  | case3 entries hshort =>
    match entries with
    | [] => exact .nil
    | [entry] => exact List.pairwise_singleton _ _
    | first :: second :: rest => exact absurd rfl (hshort first second rest)

theorem pairwise_byKey (entries : List (String × α)) :
    (byKey entries).Pairwise fun a b => a.1 < b.1 := by
  apply pairwise_lastOfEach
  exact (List.pairwise_mergeSort keyLe_trans keyLe_total entries).imp of_decide_eq_true

theorem mem_byKey_iff :
    (key, value) ∈ byKey entries ↔ get? entries key = some value := by
  rw [← get?_eq_some_iff (pairwise_byKey entries), byKey, get?_lastOfEach, get?_mergeSort]

end KeyDigest.Json
