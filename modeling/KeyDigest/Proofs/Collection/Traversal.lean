/-! # Reading item by item

`List.mapM` reads the items of a list from the left and stops at the first that fails.  It succeeds
just when every item does, and then has one result for each; otherwise its error is that of an item
before which none fails.  What is done to the value or the error of an outcome afterwards does not
change whether it is a success.
-/

namespace KeyDigest

/-! ## One outcome -/

section Outcomes

variable {α β ε γ : Type} {outcome : Except ε α}

theorem map_eq_ok_iff {g : α → β} {b : β} :
    outcome.map g = .ok b ↔ ∃ a, outcome = .ok a ∧ g a = b := by
  cases outcome <;> simp [Except.map]

theorem exists_map_eq_ok_iff {g : α → β} :
    (∃ b, outcome.map g = .ok b) ↔ ∃ a, outcome = .ok a := by
  cases outcome <;> simp [Except.map]

theorem map_eq_error_iff {g : α → β} {e : ε} : outcome.map g = .error e ↔ outcome = .error e := by
  cases outcome <;> simp [Except.map]

theorem mapError_eq_ok_iff {g : ε → γ} {a : α} : outcome.mapError g = .ok a ↔ outcome = .ok a := by
  cases outcome with
  | ok b =>
    show Except.ok b = Except.ok a ↔ _
    rw [Except.ok.injEq, Except.ok.injEq]
  | error e => exact ⟨nofun, nofun⟩

theorem mapError_eq_error_iff {g : ε → γ} {c : γ} :
    outcome.mapError g = .error c ↔ ∃ e, outcome = .error e ∧ g e = c := by
  cases outcome with
  | ok a => exact ⟨nofun, nofun⟩
  | error e =>
    show Except.error (g e) = Except.error c ↔ _
    simp

end Outcomes

/-! ## Lists of items -/

variable {α β ε : Type} {f : α → Except ε β}

theorem mapM_cons_of_ok {a : α} {b : β} (h : f a = .ok b) (l : List α) :
    (a :: l).mapM f = (l.mapM f).map (b :: ·) := by
  rw [List.mapM_cons, h]
  show (l.mapM f >>= fun bs => pure (b :: bs)) = _
  cases l.mapM f <;> rfl

theorem mapM_cons_of_error {a : α} {e : ε} (h : f a = .error e) (l : List α) :
    (a :: l).mapM f = .error e := by
  rw [List.mapM_cons, h]
  rfl

theorem mapM_eq_ok_iff {l : List α} {bs : List β} :
    l.mapM f = .ok bs ↔ l.map f = bs.map .ok := by
  induction l generalizing bs with
  | nil => cases bs <;> simp [pure, Except.pure]
  | cons a l ih =>
    cases hread : f a with
    | error e =>
      rw [mapM_cons_of_error hread]
      cases bs <;> simp [hread]
    | ok b =>
      rw [mapM_cons_of_ok hread]
      cases bs with
      | nil => simp [map_eq_ok_iff]
      | cons c bs =>
        rw [map_eq_ok_iff, List.map_cons, List.map_cons, hread, List.cons.injEq, Except.ok.injEq,
          ← ih]
        constructor
        · rintro ⟨bs, hrest, hcons⟩
          obtain ⟨rfl, rfl⟩ := List.cons.inj hcons
          exact ⟨rfl, hrest⟩
        · rintro ⟨rfl, hrest⟩
          exact ⟨bs, hrest, rfl⟩

theorem mem_iff_of_map_eq {l : List α} {bs : List β} (h : l.map f = bs.map .ok) {b : β} :
    b ∈ bs ↔ ∃ a ∈ l, f a = .ok b := by
  have hmem : (Except.ok b : Except ε β) ∈ bs.map Except.ok ↔ b ∈ bs := by simp
  rw [← hmem, ← h, List.mem_map]

theorem exists_mapM_eq_ok_iff {l : List α} :
    (∃ bs, l.mapM f = .ok bs) ↔ ∀ a ∈ l, ∃ b, f a = .ok b := by
  induction l with
  | nil => simp [pure, Except.pure]
  | cons a l ih =>
    rw [List.forall_mem_cons, ← ih]
    cases hread : f a with
    | error e => simp [mapM_cons_of_error hread]
    | ok b =>
      rw [mapM_cons_of_ok hread, exists_map_eq_ok_iff]
      simp

/-- The error is that of the first item that fails. -/
theorem mapM_eq_error_iff {l : List α} {e : ε} :
    l.mapM f = .error e ↔ ∃ before a after, l = before ++ a :: after ∧
      (∀ b ∈ before, ∃ c, f b = .ok c) ∧ f a = .error e := by
  induction l with
  | nil => simp [pure, Except.pure]
  | cons x l ih =>
    cases hread : f x with
    | error first =>
      -- The first item fails, so it is the one, and nothing stands before it.
      rw [mapM_cons_of_error hread, Except.error.injEq]
      constructor
      · rintro rfl
        exact ⟨[], x, l, rfl, List.forall_mem_nil _, hread⟩
      · rintro ⟨before, a, after, hsplit, hbefore, ha⟩
        cases before with
        | nil =>
          obtain ⟨rfl, rfl⟩ := List.cons.inj hsplit
          exact Except.error.inj (hread.symm.trans ha)
        | cons b before =>
          obtain ⟨rfl, rfl⟩ := List.cons.inj hsplit
          obtain ⟨c, hc⟩ := hbefore x List.mem_cons_self
          rw [hread] at hc
          cases hc
    | ok y =>
      -- The first item can be read, so the one that fails stands behind it.
      have hrest : (x :: l).mapM f = .error e ↔ l.mapM f = .error e := by
        rw [mapM_cons_of_ok hread, map_eq_error_iff]
      rw [hrest, ih]
      constructor
      · rintro ⟨before, a, after, rfl, hbefore, ha⟩
        exact ⟨x :: before, a, after, rfl, List.forall_mem_cons.mpr ⟨⟨y, hread⟩, hbefore⟩, ha⟩
      · rintro ⟨before, a, after, hsplit, hbefore, ha⟩
        cases before with
        | nil =>
          obtain ⟨rfl, rfl⟩ := List.cons.inj hsplit
          rw [hread] at ha
          cases ha
        | cons b before =>
          obtain ⟨rfl, rfl⟩ := List.cons.inj hsplit
          exact ⟨before, a, after, rfl, (List.forall_mem_cons.mp hbefore).2, ha⟩

end KeyDigest
