/-! # Telling joined pieces apart

What is put together from pieces gives the pieces away if they are seen to begin or to end.  Lists
that are joined by a separator can be had back as long as the separator begins with a mark that
stands in none of them: each ends where the mark is met first.  Texts that open in different ways
are different whatever follows.
-/

namespace KeyDigest

/-! ## Separators -/

section Separators

variable {α : Type} {mark : α} {separator : List α}

theorem append_cons_inj {a b r s : List α} (ha : mark ∉ a) (hb : mark ∉ b)
    (h : a ++ mark :: r = b ++ mark :: s) : a = b ∧ r = s := by
  induction a generalizing b with
  | nil =>
    cases b with
    | nil => exact ⟨rfl, (List.cons.inj h).2⟩
    | cons y b =>
      obtain ⟨rfl, -⟩ := List.cons.inj h
      exact absurd List.mem_cons_self hb
  | cons x a ih =>
    cases b with
    | nil =>
      obtain ⟨rfl, -⟩ := List.cons.inj h
      exact absurd List.mem_cons_self ha
    | cons y b =>
      obtain ⟨rfl, htail⟩ := List.cons.inj h
      obtain ⟨rfl, rfl⟩ := ih (fun hmem => ha (List.mem_cons_of_mem _ hmem))
        (fun hmem => hb (List.mem_cons_of_mem _ hmem)) htail
      exact ⟨rfl, rfl⟩

theorem mark_mem_intercalate (x y : List α) (rest : List (List α)) :
    mark ∈ (mark :: separator).intercalate (x :: y :: rest) := by
  rw [List.intercalate_cons_cons]
  simp

theorem intercalate_inj {xs ys : List (List α)} (hxs : ∀ x ∈ xs, mark ∉ x)
    (hys : ∀ y ∈ ys, mark ∉ y) (hxsne : xs ≠ []) (hysne : ys ≠ [])
    (h : (mark :: separator).intercalate xs = (mark :: separator).intercalate ys) : xs = ys := by
  induction xs generalizing ys with
  | nil => exact absurd rfl hxsne
  | cons x xs ih =>
    obtain ⟨hx, hxrest⟩ := List.forall_mem_cons.mp hxs
    cases ys with
    | nil => exact absurd rfl hysne
    | cons y ys =>
      obtain ⟨hy, hyrest⟩ := List.forall_mem_cons.mp hys
      cases xs with
      | nil =>
        cases ys with
        | nil => simpa using h
        | cons y' ys =>
          rw [List.intercalate_singleton] at h
          exact absurd (h ▸ mark_mem_intercalate y y' ys) hx
      | cons x' xs =>
        cases ys with
        | nil =>
          rw [List.intercalate_singleton] at h
          exact absurd (h ▸ mark_mem_intercalate x x' xs) hy
        | cons y' ys =>
          -- Both first lists end at the first mark, and what follows is joined alike.
          rw [List.intercalate_cons_cons, List.intercalate_cons_cons, List.append_assoc,
            List.append_assoc, List.cons_append, List.cons_append] at h
          obtain ⟨rfl, hrest⟩ := append_cons_inj hx hy h
          have htail := ih hxrest hyrest (List.cons_ne_nil _ _) (List.cons_ne_nil _ _)
            (List.append_cancel_left hrest)
          rw [htail]

/-- Joined texts are known from what they make up, if none of them has the character that begins
the separator. -/
theorem intercalate_text_inj {mark : Char} {rest : List Char} {separator : String}
    {xs ys : List String} (hseparator : separator.toList = mark :: rest)
    (hxs : ∀ x ∈ xs, mark ∉ x.toList) (hys : ∀ y ∈ ys, mark ∉ y.toList) (hxsne : xs ≠ [])
    (hysne : ys ≠ []) (h : separator.intercalate xs = separator.intercalate ys) : xs = ys := by
  have hlist := congrArg String.toList h
  rw [String.toList_intercalate, String.toList_intercalate, hseparator] at hlist
  have hmapped := intercalate_inj (List.forall_mem_map.mpr hxs) (List.forall_mem_map.mpr hys)
    (by simpa using hxsne) (by simpa using hysne) hlist
  exact (List.map_inj_right fun _ _ => String.toList_inj.mp).mp hmapped

end Separators

/-! ## Openings -/

/-- Neither of two texts opens with the other. -/
def Apart (p q : String) : Prop :=
  ¬ p.toList <+: q.toList ∧ ¬ q.toList <+: p.toList

instance (p q : String) : Decidable (Apart p q) :=
  inferInstanceAs (Decidable (_ ∧ _))

namespace Apart

variable {p q : String}

theorem symm (h : Apart p q) : Apart q p :=
  ⟨h.2, h.1⟩

theorem append_ne_append (h : Apart p q) (s t : String) : p ++ s ≠ q ++ t := by
  intro heq
  have hlist := congrArg String.toList heq
  rw [String.toList_append, String.toList_append] at hlist
  have hp : p.toList <+: q.toList ++ t.toList := hlist ▸ List.prefix_append _ _
  obtain hprefix | hprefix := List.prefix_or_prefix_of_prefix hp (List.prefix_append _ _)
  · exact h.1 hprefix
  · exact h.2 hprefix

theorem ne_append (h : Apart p q) (s : String) : p ≠ q ++ s := by
  rintro rfl
  exact h.2 (by simp)

end Apart

end KeyDigest
