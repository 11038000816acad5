import TrackedSettings.Deployment

/-! # Workspaces in a deployment

Each cache of a deployment has a seat with what is its own, and shares the rest with all others.
-/

namespace TrackedSettings.Deployment

variable {dep : Deployment} {i j : Nat}

@[simp] theorem shared_workspace (dep : Deployment) (i : Nat) :
    (dep.workspace i).shared = dep.shared := by
  unfold workspace
  split <;> rfl

theorem putBack_workspace (dep : Deployment) (i : Nat) : dep.putBack i (dep.workspace i) = dep := by
  have same : dep.seats.modify i (fun seat =>
      { seat with copies := (dep.workspace i).copies, store := (dep.workspace i).store }) =
        dep.seats := by
    apply Array.ext_getElem?
    intro j
    rw [Array.getElem?_modify]
    split
    · next here =>
      subst here
      unfold workspace
      cases dep.seats[i]? <;> rfl
    · rfl
  rw [putBack, same, shared_workspace]

theorem putBack_putBack (dep : Deployment) (i : Nat) (w w' : Workspace) :
    (dep.putBack i w).putBack i w' = dep.putBack i w' := by
  have same : (dep.seats.modify i fun seat => { seat with copies := w.copies, store := w.store }
      ).modify i (fun seat => { seat with copies := w'.copies, store := w'.store }) =
        dep.seats.modify i fun seat => { seat with copies := w'.copies, store := w'.store } := by
    apply Array.ext_getElem?
    intro j
    simp only [Array.getElem?_modify]
    split
    · rw [Option.map_map]
      rfl
    · rfl
  simp only [putBack, same]

theorem workspace_putBack (inside : i < dep.seats.size) (w : Workspace) :
    (dep.putBack i w).workspace i = w := by
  have here : (dep.putBack i w).seats[i]? =
      some { dep.seats[i] with copies := w.copies, store := w.store } := by
    rw [putBack, Array.getElem?_modify, if_pos rfl, Array.getElem?_eq_getElem inside]
    rfl
  rw [workspace, here]
  rfl

/-- Other caches find what is shared changed, and nothing else. -/
theorem copies_putBack_of_ne (other : j ≠ i) (w : Workspace) :
    ((dep.putBack i w).workspace j).copies = (dep.workspace j).copies := by
  have same : (dep.putBack i w).seats[j]? = dep.seats[j]? := by
    rw [putBack, Array.getElem?_modify, if_neg other.symm]
  unfold workspace
  rw [same]
  cases dep.seats[j]? <;> rfl

end TrackedSettings.Deployment
