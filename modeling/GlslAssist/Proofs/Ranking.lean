import GlslAssist.Proofs.Lookup

/-!
# The ranking of candidates

The ranking is a stable sort of one candidate for each symbol: none is lost or doubled, and the
candidates of fewer symbols are ranked as they stand among those of more (`ranked_sublist`).
-/

namespace GlslAssist

section Sorting

variable {α : Type} {le : α → α → Bool}

/-- In a stable order an item put in front comes right after all that have to precede it. -/
theorem mergeSort_cons_eq (htrans : ∀ x y z, le x y = true → le y z = true → le x z = true)
    (htotal : ∀ x y, (le x y || le y x) = true) (x : α) (items : List α) :
    (x :: items).mergeSort le
      = (items.mergeSort le).filter (fun y => !le x y)
        ++ x :: (items.mergeSort le).filter (fun y => le x y) := by
  obtain ⟨before, after, hcons, htail, hbefore⟩ := List.mergeSort_cons htrans htotal x items
  have hsorted := List.pairwise_mergeSort htrans htotal (x :: items)
  rw [hcons, List.pairwise_append, List.pairwise_cons] at hsorted
  have hafter : ∀ y ∈ after, le x y = true := hsorted.2.1.1
  have hbefore : ∀ y ∈ before, le x y = false := fun y hy => by simpa using hbefore y hy
  have hnot : (before ++ after).filter (fun y => !le x y) = before := by
    rw [List.filter_append, List.filter_eq_self.2 fun y hy => by simp [hbefore y hy],
      List.filter_eq_nil_iff.2 fun y hy => by simp [hafter y hy], List.append_nil]
  have hyes : (before ++ after).filter (fun y => le x y) = after := by
    rw [List.filter_append, List.filter_eq_nil_iff.2 fun y hy => by simp [hbefore y hy],
      List.filter_eq_self.2 hafter, List.nil_append]
  rw [hcons, htail, hnot, hyes]

/-- Items that are left out leave the others in the order in which they are sorted. -/
theorem mergeSort_sublist_mergeSort (htrans : ∀ x y z, le x y = true → le y z = true → le x z = true)
    (htotal : ∀ x y, (le x y || le y x) = true) {few all : List α} (h : few.Sublist all) :
    (few.mergeSort le).Sublist (all.mergeSort le) := by
  induction h with
  | slnil => exact List.Sublist.refl _
  | @cons few all x h ih =>
    obtain ⟨before, after, hcons, htail, -⟩ := List.mergeSort_cons htrans htotal x all
    rw [htail] at ih
    rw [hcons]
    exact ih.trans (List.Sublist.append_left (List.sublist_cons_self x after) before)
  | @cons_cons few all x h ih =>
    rw [mergeSort_cons_eq htrans htotal, mergeSort_cons_eq htrans htotal]
    exact (ih.filter _).append ((ih.filter _).cons_cons x)

/-- Items of one place in the order stay as they stood. -/
theorem filter_mergeSort (htrans : ∀ x y z, le x y = true → le y z = true → le x z = true)
    (htotal : ∀ x y, (le x y || le y x) = true) {p : α → Bool}
    (hsame : ∀ x y, p x = true → p y = true → le x y = true) (items : List α) :
    (items.mergeSort le).filter p = items.filter p := by
  have hsorted : (items.filter p).Pairwise fun x y => le x y = true :=
    List.pairwise_of_forall_mem_list fun x hx y hy =>
      hsame x y (List.mem_filter.1 hx).2 (List.mem_filter.1 hy).2
  have hsub := (List.sublist_mergeSort htrans htotal hsorted List.filter_sublist).filter p
  simp only [List.filter_filter, Bool.and_self] at hsub
  have hlen := ((List.mergeSort_perm items le).filter p).length_eq
  exact (hsub.eq_of_length hlen.symm).symm

end Sorting

namespace Candidate

theorem sortText_trans (a b c : Candidate) (hab : decide (a.sortText ≤ b.sortText) = true)
    (hbc : decide (b.sortText ≤ c.sortText) = true) : decide (a.sortText ≤ c.sortText) = true := by
  rw [decide_eq_true_iff] at hab hbc ⊢
  exact String.le_trans hab hbc

theorem sortText_total (a b : Candidate) :
    (decide (a.sortText ≤ b.sortText) || decide (b.sortText ≤ a.sortText)) = true := by
  rw [Bool.or_eq_true, decide_eq_true_iff, decide_eq_true_iff]
  exact String.le_total _ _

theorem ranked_perm (r : Registry) : (ranked r).Perm (r.symbols.map ofSymbol) :=
  List.mergeSort_perm _ _

theorem ranked_sublist {few all : Registry} (h : few.symbols.Sublist all.symbols) :
    (ranked few).Sublist (ranked all) :=
  mergeSort_sublist_mergeSort sortText_trans sortText_total (h.map ofSymbol)

end Candidate

end GlslAssist
