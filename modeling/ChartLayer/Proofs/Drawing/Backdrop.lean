import ChartLayer.Proofs.Drawing.Entries
import ChartLayer.Surface.Memory

/-!
# What lies behind the drawings

The backdrop of a surface in memory is all of it but its drawings. Drawing and removing never touch
it: the frame asked for, the pan, the bars, the labels stay as they are in every reconciliation
(`backdrop_reconcile`) and when everything is removed (`backdrop_clearAll`).
-/

namespace ChartLayer

namespace MemorySurface

/-- The surface without its drawings. -/
def backdrop (s : MemorySurface) : MemorySurface :=
  { s with drawings := [], nextHandle := 1 }

variable {s s' : MemorySurface}

theorem panEnabled_eq_of_backdrop (h : s'.backdrop = s.backdrop) :
    s'.panEnabled = s.panEnabled := by
  have hpan : s'.backdrop.panEnabled = s.backdrop.panEnabled := by rw [h]
  exact hpan

theorem framePending_eq_of_backdrop (h : s'.backdrop = s.backdrop) :
    s'.framePending = s.framePending := by
  have hframe : s'.backdrop.framePending = s.backdrop.framePending := by rw [h]
  exact hframe

theorem bars_eq_of_backdrop (h : s'.backdrop = s.backdrop) : s'.bars = s.bars := by
  have hbars : s'.backdrop.bars = s.backdrop.bars := by rw [h]
  exact hbars

theorem labels_eq_of_backdrop (h : s'.backdrop = s.backdrop) : s'.labels = s.labels := by
  have hlabels : s'.backdrop.labels = s.backdrop.labels := by rw [h]
  exact hlabels

end MemorySurface

namespace Registry

theorem backdrop_invariant (backdrop : MemorySurface) :
    Invariant fun (_ : Registry) (s : MemorySurface) => s.backdrop = backdrop where
  remove {r s} key h := by
    unfold Registry.remove
    split <;> exact h
  create _ h _ := h
  update h _ hredraw := by
    obtain ⟨-, rfl⟩ := Prod.mk.inj hredraw
    exact h
  lost h hredraw := by
    obtain ⟨-, rfl⟩ := Prod.mk.inj hredraw
    exact h

@[simp] theorem backdrop_reconcile (family : DrawingFamily) (desired : DesiredDrawings)
    (r : Registry) (s : MemorySurface) :
    (r.reconcile family desired s).surface.backdrop = s.backdrop :=
  (backdrop_invariant s.backdrop).reconcile rfl family desired

@[simp] theorem backdrop_clearAll (r : Registry) (s : MemorySurface) :
    (r.clearAll s).2.2.backdrop = s.backdrop := by
  unfold clearAll
  generalize r.entries.toList = entries
  induction entries generalizing s with
  | nil => rfl
  | cons first rest ih => exact ih (Surface.erase first.2.handle s)

end Registry

end ChartLayer
