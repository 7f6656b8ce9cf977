import Openobsw.Pus.Handler
import Openobsw.Time.Obt

/-!
Owns time management (`s9.c`). The context is the on-board time it sets.
-/

namespace Openobsw.Pus.S9

open Openobsw.Util Openobsw.Pus.S1 Openobsw.Pus.Handler Openobsw.Time

variable {cfg : Config}

def setObtLen : Nat := 6

/-- `obsw_s9_set_obt` -/
def setObt (tc : Tc) (obt : Obt) (link : Link cfg) : Option (Int × Obt × Link cfg) :=
  requireUserData setObtLen tc obt link fun u => do
    let coarse ← obswBe32 u 0
    let fine ← obswBe16 u 4
    execute tc (fun _ => some (Obt.set coarse fine)) obt link

theorem setObt_updates (tc : Tc) (obt : Obt) (link : Link cfg) :
    Updates tc obt link (fun after => ∃ coarse fine, after = Obt.set coarse fine)
      (setObt tc obt link) := by
  apply requireUserData_updates
  intro u _ long
  have enough : 6 ≤ u.length := long
  obtain ⟨coarse, coarseEq⟩ := obswBe32_isSome u 0 (by omega)
  obtain ⟨fine, fineEq⟩ := obswBe16_isSome u 4 (by omega)
  simp only [coarseEq, fineEq, Option.bind_eq_bind, Option.bind_some]
  exact execute_updates tc link rfl ⟨coarse, fine, rfl⟩

end Openobsw.Pus.S9
