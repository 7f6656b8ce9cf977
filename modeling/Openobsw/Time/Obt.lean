/-!
Owns on-board time (`time/obt.c`), CUC-4,2 with a millisecond remainder.
-/

namespace Openobsw.Time

/-- `obsw_obt_t` -/
structure Obt where
  coarse : UInt32
  fine : UInt16
  rem : UInt16
deriving DecidableEq, Repr

namespace Obt

/-- `obsw_obt_advance` -/
def advance (obt : Obt) (dtMs : UInt32) : Obt :=
  let scaled : UInt32 := dtMs * 65536 + obt.rem.toUInt32
  let newFine : UInt32 := obt.fine.toUInt32 + scaled / 1000
  { coarse := obt.coarse + newFine / 65536
    fine := (newFine % 65536).toUInt16
    rem := (scaled % 1000).toUInt16 }

/-- `obsw_obt_set` -/
def set (coarse : UInt32) (fine : UInt16) : Obt where
  coarse := coarse
  fine := fine
  rem := 0

end Obt

end Openobsw.Time
