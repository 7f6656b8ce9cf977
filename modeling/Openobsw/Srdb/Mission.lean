import Openobsw.Fdir.Fsm

/-!
Owns the constants that the build generates from the mission database under
`srdb/data` (`srdb_generated.h`), as far as the reference builds use them.
-/

namespace Openobsw.Srdb.Mission

open Openobsw.Fdir

/-- `SRDB_APID_DEFAULT` -/
def apidDefault : UInt16 := 0x103

/-- `SRDB_EVENT_BOOT_COMPLETE` -/
def eventBootComplete : UInt16 := 0x0001

/-- `SRDB_EVENT_SAFE_MODE_ENTRY` -/
def eventSafeModeEntry : UInt16 := 0x0002

/-- `SRDB_EVENT_STANDBY_ENTRY` -/
def eventStandbyEntry : UInt16 := 0x0004

/-- `SRDB_EVENT_NOMINAL_ENTRY` -/
def eventNominalEntry : UInt16 := 0x0005

/-- `SRDB_EVENT_WATCHDOG_EXPIRY` -/
def eventWatchdogExpiry : UInt16 := 0x0010

/-- `SRDB_EVENT_POWER_FAULT_3V3` -/
def eventPowerFault3v3 : UInt16 := 0x0020

/-- `SRDB_EVENT_POWER_FAULT_5V` -/
def eventPowerFault5v : UInt16 := 0x0021

/-- `SRDB_EVENT_TEMPERATURE_HARD_LIMIT` -/
def eventTemperatureHardLimit : UInt16 := 0x0051

/-- `SRDB_SAFE_TC_WHITELIST` -/
def safeTcWhitelist : List TcEntry := [⟨17, 1⟩, ⟨8, 1⟩, ⟨9, 128⟩, ⟨20, 3⟩]

/-- `SRDB_SAFE_TC_COUNT` -/
def safeTcCount : UInt8 := 4

/-- `SRDB_SAFE_TRIGGER_IDS` -/
def safeTriggerIds : List UInt16 := [0x0010, 0x0020, 0x0021, 0x0051]

/-- The values of the parameter `obc_mode`. -/
def obcMode : Mode → UInt32
  | .standby => 0
  | .safe => 1
  | .nominal => 2

/-- `SRDB_ENUM_AOCS_CONTROLLER_OFF` -/
def aocsControllerOff : UInt32 := 0

/-- `SRDB_ENUM_AOCS_CONTROLLER_BDOT` -/
def aocsControllerBdot : UInt32 := 1

/-- `SRDB_ENUM_AOCS_CONTROLLER_PD` -/
def aocsControllerPd : UInt32 := 2

end Openobsw.Srdb.Mission
