import ServiceLink.Text.Pieces

/-! What stands between separators: all that was there, and a separator parts what is before it from what is
behind it. -/

namespace ServiceLink.Text

variable {α : Type} {isSeparator : α → Bool} {a : α} {l m : List α}

theorem pieces_cons_of_pos (h : isSeparator a) : pieces isSeparator (a :: l) = [] :: pieces isSeparator l := by
  rw [pieces, List.foldr_cons, if_pos h, pieces]

theorem pieces_cons_of_neg (h : ¬ isSeparator a) :
    ∃ piece rest, pieces isSeparator l = piece :: rest ∧ pieces isSeparator (a :: l) = (a :: piece) :: rest := by
  have hsome : pieces isSeparator l ≠ [] := by
    cases l with
    | nil => exact List.cons_ne_nil _ _
    | cons b l =>
      rw [pieces, List.foldr_cons]
      split
      · exact List.cons_ne_nil _ _
      · split <;> exact List.cons_ne_nil _ _
  obtain ⟨piece, rest, hl⟩ := List.exists_cons_of_ne_nil hsome
  refine ⟨piece, rest, hl, ?_⟩
  rw [pieces] at hl ⊢
  rw [List.foldr_cons, if_neg h, hl]

theorem pieces_of_none (h : ∀ a ∈ l, ¬ isSeparator a) : pieces isSeparator l = [l] := by
  induction l with
  | nil => rfl
  | cons a l ih =>
    have ih := ih fun b hb => h b (List.mem_cons_of_mem _ hb)
    obtain ⟨piece, rest, hl, hcons⟩ := pieces_cons_of_neg (l := l) (h a List.mem_cons_self)
    rw [hcons]
    obtain ⟨rfl, rfl⟩ := List.cons.inj (hl.symm.trans ih)
    rfl

theorem mem_of_mem_pieces {piece : List α} (hp : piece ∈ pieces isSeparator l) (ha : a ∈ piece) : a ∈ l := by
  induction l generalizing piece with
  | nil =>
    obtain rfl := List.mem_singleton.1 hp
    cases ha
  | cons b l ih =>
    by_cases hb : isSeparator b
    · rw [pieces_cons_of_pos hb] at hp
      rcases List.mem_cons.1 hp with rfl | hp
      · cases ha
      · exact List.mem_cons_of_mem _ (ih hp ha)
    · obtain ⟨first, rest, hl, hcons⟩ := pieces_cons_of_neg (l := l) hb
      rw [hcons] at hp
      rcases List.mem_cons.1 hp with rfl | hp
      · rcases List.mem_cons.1 ha with rfl | ha
        · exact List.mem_cons_self
        · exact List.mem_cons_of_mem _ (ih (hl ▸ List.mem_cons_self) ha)
      · exact List.mem_cons_of_mem _ (ih (hl ▸ List.mem_cons_of_mem _ hp) ha)

theorem pieces_append_cons (h : isSeparator a) :
    pieces isSeparator (l ++ a :: m) = pieces isSeparator l ++ pieces isSeparator m := by
  induction l with
  | nil => exact pieces_cons_of_pos h
  | cons b l ih =>
    rw [List.cons_append]
    by_cases hb : isSeparator b
    · rw [pieces_cons_of_pos hb, pieces_cons_of_pos hb, ih]
      rfl
    · obtain ⟨piece, rest, hl, hcons⟩ := pieces_cons_of_neg (l := l) hb
      obtain ⟨piece', rest', hl', hcons'⟩ := pieces_cons_of_neg (l := l ++ a :: m) hb
      rw [hcons, hcons', List.cons_append]
      rw [hl', hl, List.cons_append] at ih
      obtain ⟨rfl, rfl⟩ := List.cons.inj ih
      rfl

end ServiceLink.Text
