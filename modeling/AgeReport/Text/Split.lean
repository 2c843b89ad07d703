/-!
# Splitting

A list in two at a mark, as in `name=value`. The mark itself belongs to neither part.

* `splitOnce_of_not_mem`: without the mark the first part is everything;
* `splitOnce_append_cons`, `eq_append_of_splitOnce`: with it the parts are those around the first.
-/

namespace AgeReport.Text

variable {α : Type} [BEq α]

/-- What stands before the first `mark`, and what stands behind it if there is one. -/
def splitOnce (mark : α) (l : List α) : List α × Option (List α) :=
  (l.takeWhile (· != mark),
    match l.dropWhile (· != mark) with
    | [] => none
    | _ :: behind => some behind)

theorem splitOnce_of_not_mem [LawfulBEq α] {mark : α} {l : List α} (h : mark ∉ l) :
    splitOnce mark l = (l, none) := by
  have hp : ∀ a ∈ l, (a != mark) = true := fun a ha => bne_iff_ne.2 fun e => h (e ▸ ha)
  have ht : l.takeWhile (· != mark) = l := by
    induction l with
    | nil => rfl
    | cons a l ih => simp_all
  have hd : l.dropWhile (· != mark) = [] := by
    induction l with
    | nil => rfl
    | cons a l ih => simp_all
  simp [splitOnce, ht, hd]

theorem splitOnce_append_cons [LawfulBEq α] {mark : α} {l : List α} (h : mark ∉ l) (r : List α) :
    splitOnce mark (l ++ mark :: r) = (l, some r) := by
  have hp : ∀ a ∈ l, (a != mark) = true := fun a ha => bne_iff_ne.2 fun e => h (e ▸ ha)
  rw [splitOnce, List.takeWhile_append_of_pos hp, List.dropWhile_append_of_pos hp]
  simp

theorem eq_append_of_splitOnce [LawfulBEq α] {mark : α} {l a : List α} {b : Option (List α)}
    (h : splitOnce mark l = (a, b)) : l = a ++ b.elim [] (mark :: ·) := by
  simp only [splitOnce, Prod.mk.injEq] at h
  obtain ⟨rfl, rfl⟩ := h
  have happend := List.takeWhile_append_dropWhile (p := (· != mark)) (l := l)
  have hhead := List.head?_dropWhile_not (· != mark) l
  cases hdrop : l.dropWhile (· != mark) with
  | nil =>
    rw [hdrop] at happend
    exact happend.symm
  | cons c r =>
    rw [hdrop] at happend hhead
    have hc : c = mark := by simpa using hhead
    subst hc
    exact happend.symm

end AgeReport.Text
