import Delegation.Signals
import Mathlib.Tactic.Common
/-!
# What a guard does to the dispositions

Taking a guard saves both dispositions and leaves default handling (`Guard.saved_install`,
`Guard.install_snd`).  Dropping it gives back what was saved, signal by signal, except where default
handling was saved; there whatever is found stays (`Guard.get_release`).
-/

namespace Delegation

namespace Dispositions

lemma ext_get {d d' : Dispositions} (h : ∀ s, d.get s = d'.get s) : d = d' := by
  obtain ⟨i, t⟩ := d
  obtain ⟨i', t'⟩ := d'
  have hi : i = i' := h .interrupt
  have ht : t = t' := h .terminate
  rw [hi, ht]

lemma get_restore_self (d : Dispositions) (s : Signal) (x : Disposition) :
    (d.restore s x).get s = if x = .default then d.get s else x := by
  rw [restore]
  split
  · rfl
  · exact get_set_self d s x

lemma get_restore_of_ne (d : Dispositions) {s t : Signal} (x : Disposition) (h : t ≠ s) :
    (d.restore s x).get t = d.get t := by
  rw [restore]
  split
  · rfl
  · exact get_set_of_ne d x h

/-- Default handling of both signals. -/
@[simp] lemma get_default (s : Signal) : ({} : Dispositions).get s = .default := by
  cases s <;> rfl

end Dispositions

namespace Guard

@[simp] lemma saved_install (d : Dispositions) : (install d).1.saved = d := rfl

@[simp] lemma install_snd (d : Dispositions) : (install d).2 = {} := rfl

/-- A signal gets back what was saved for it, unless that is default handling. -/
lemma get_release (g : Guard) (d : Dispositions) (s : Signal) :
    (g.release d).get s = if g.saved.get s = .default then d.get s else g.saved.get s := by
  rw [release]
  cases s with
  | interrupt =>
    rw [Dispositions.get_restore_of_ne _ _ (by simp), Dispositions.get_restore_self]
    rfl
  | terminate =>
    rw [Dispositions.get_restore_self, Dispositions.get_restore_of_ne _ _ (by simp)]
    rfl

/-- A guard that is dropped where it left off restores everything. -/
lemma release_install (d : Dispositions) : (install d).1.release (install d).2 = d := by
  refine Dispositions.ext_get fun s => ?_
  rw [get_release, saved_install, install_snd, Dispositions.get_default]
  split
  · exact Eq.symm ‹_›
  · rfl

end Guard

end Delegation
