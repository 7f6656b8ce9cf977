import Mathlib.Logic.Basic

/-!
Owns components: a part of a state that can be read and replaced, so that code
over the part can run on the whole.
-/

namespace Openobsw.Lib

/-- A part of type `κ` inside a state of type `σ`. -/
structure Component (σ κ : Type) where
  get : σ → κ
  set : κ → σ → σ
  get_set : ∀ part state, get (set part state) = part
  set_get : ∀ state, set (get state) state = state

attribute [simp] Component.get_set Component.set_get

/-- A part of a part. -/
def Component.comp {σ τ κ : Type} (outer : Component σ τ) (inner : Component τ κ) :
    Component σ κ where
  get state := inner.get (outer.get state)
  set part state := outer.set (inner.set part (outer.get state)) state
  get_set part state := by simp
  set_get state := by simp

/-- A view of the state shows the same part. -/
structure Component.Shown {σ τ κ : Type} (whole : Component σ κ) (shown : Component τ κ)
    (view : σ → τ) : Prop where
  get : ∀ state, shown.get (view state) = whole.get state
  set : ∀ part state, shown.set part (view state) = view (whole.set part state)

theorem Component.Shown.comp {σ τ κ ι : Type} {whole : Component σ κ} {shown : Component τ κ}
    {view : σ → τ} (same : whole.Shown shown view) (inner : Component κ ι) :
    (whole.comp inner).Shown (shown.comp inner) view where
  get state := congrArg inner.get (same.get state)
  set part state := by
    show shown.set (inner.set part (shown.get (view state))) (view state) = _
    rw [same.get, same.set]
    rfl

end Openobsw.Lib
