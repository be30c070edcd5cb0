import TableDesk.Proofs.Text.Width
import TableDesk.Text.Cluster

/-!
The columns of a text that is drawn cluster by cluster. They need not be the columns of the whole text, since
letters of neighbouring clusters may join; but a space at an end of a text always makes one column more.
-/

namespace TableDesk.Text

def sumWidths (texts : List (List Char)) : Nat := texts.foldr (width · + ·) 0

@[simp] theorem sumWidths_cons (text : List Char) (rest : List (List Char)) :
    sumWidths (text :: rest) = width text + sumWidths rest := rfl

/-- The columns of a text cluster by cluster. -/
def clusterColumns (text : List Char) : Nat := sumWidths (clusters text)

/-- What is seen of a text of which each cluster is drawn by itself: a cluster without a width is left out. -/
def shown (text : List Char) : List Char := ((clusters text).filter (width · ≠ 0)).flatten

theorem sumWidths_clustersFrom_cons_space (cluster : List Char) (border : Border) (text : List Char) :
    sumWidths (clustersFrom (' ' :: cluster) border text) = sumWidths (clustersFrom cluster border text) + 1 := by
  induction text generalizing cluster border with
  | nil => exact congrArg (· + 0) (width_cons_space cluster)
  | cons c rest ih =>
    rw [clustersFrom, clustersFrom]
    split
    · exact ih (cluster ++ [c]) (border.extend c)
    · rw [sumWidths_cons, sumWidths_cons, width_cons_space, Nat.add_right_comm]

theorem sumWidths_clustersFrom_append_space (cluster : List Char) (border : Border) (text : List Char) :
    sumWidths (clustersFrom cluster border (text ++ [' '])) = sumWidths (clustersFrom cluster border text) + 1 := by
  induction text generalizing cluster border with
  | nil =>
    simp only [List.nil_append, clustersFrom]
    split
    · exact congrArg (· + 0) (width_append_space cluster)
    · rfl
  | cons c rest ih =>
    rw [List.cons_append, clustersFrom, clustersFrom]
    split
    · exact ih (cluster ++ [c]) (border.extend c)
    · rw [sumWidths_cons, sumWidths_cons, ih [c] (.start c), Nat.add_assoc]

/-- A space in front of a cluster leaves no trace at its border. -/
theorem Border.extend_start_space (c : Char) : (Border.start ' ').extend c = Border.start c := by
  have hspace : Border.start ' ' = ⟨.other, .none, false, .none⟩ := by decide +kernel
  rw [hspace]
  cases h : Role.of c <;> simp [Border.extend, Border.start, h]

theorem clusterColumns_cons_space (text : List Char) : clusterColumns (' ' :: text) = clusterColumns text + 1 := by
  cases text with
  | nil => rfl
  | cons c rest =>
    show sumWidths (clustersFrom [' '] (.start ' ') (c :: rest)) = _
    rw [clustersFrom]
    split
    · rw [Border.extend_start_space]
      exact sumWidths_clustersFrom_cons_space [c] (.start c) rest
    · exact Nat.add_comm 1 _

theorem clusterColumns_append_space (text : List Char) :
    clusterColumns (text ++ [' ']) = clusterColumns text + 1 := by
  cases text with
  | nil => rfl
  | cons c rest => exact sumWidths_clustersFrom_append_space [c] (.start c) rest

theorem not_mem_clusters_of_not_mem {text : List Char} {c : Char} (h : c ∉ text) : [c] ∉ clusters text := by
  intro hc
  rw [← flatten_clusters text] at h
  exact h (List.mem_flatten.2 ⟨[c], hc, List.mem_singleton_self c⟩)

end TableDesk.Text
