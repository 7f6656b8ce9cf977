import Mathlib.Algebra.Group.Nat.Defs

/-!
Owns the compile-time configuration of the library: the `#ifndef` macros that a
build may set on the command line, with the defaults of the headers.
-/

namespace Openobsw

/-- The configuration macros the modelled functions read. The fields that are
propositions are what the declarations require of a configuration: a packet slot
is an array of at least one byte, the ring buffer size is a power of two, and
`queued` counts the S19 queue in 8 bits. -/
structure Config where
  /-- `OBSW_TM_MAX_PACKET_LEN` -/
  tmMaxPacketLen : Nat
  /-- `OBSW_TM_STORE_SLOTS` -/
  tmStoreSlots : Nat
  /-- `OBSW_S11_TC_MAX_LEN` -/
  s11TcMaxLen : Nat
  /-- `OBSW_S19_ACTION_MAX_LEN` -/
  s19ActionMaxLen : Nat
  /-- `OBSW_S19_QUEUE_LEN` -/
  s19QueueLen : Nat
  packetNonempty : 0 < tmMaxPacketLen
  slotsPowerOfTwo : ∃ k, tmStoreSlots = 2 ^ (k + 1)
  queueCountFits : s19QueueLen < 256

namespace Config

theorem tmStoreSlots_pos (cfg : Config) : 0 < cfg.tmStoreSlots := by
  obtain ⟨k, slots⟩ := cfg.slotsPowerOfTwo
  rw [slots]
  exact Nat.two_pow_pos _

/-- The values the headers define when the build sets none. -/
def default : Config where
  tmMaxPacketLen := 1024
  tmStoreSlots := 32
  s11TcMaxLen := 64
  s19ActionMaxLen := 64
  s19QueueLen := 4
  packetNonempty := by decide
  slotsPowerOfTwo := ⟨4, rfl⟩
  queueCountFits := by decide

end Config

end Openobsw
