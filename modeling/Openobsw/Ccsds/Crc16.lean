/-!
Owns CRC-16/CCITT (`obsw_crc16_ccitt` of `tc_frame.c`): polynomial 0x1021,
initial value 0xFFFF, no final exclusive or.
-/

namespace Openobsw.Ccsds

/-- One turn of the inner loop over the bits of a byte. -/
def crcBit (crc : UInt16) : UInt16 :=
  if crc &&& 0x8000 ≠ 0 then (crc <<< 1) ^^^ 0x1021 else crc <<< 1

/-- One turn of the outer loop: mix in a byte, then eight bit turns. -/
def crcByte (crc : UInt16) (byte : UInt8) : UInt16 :=
  Nat.repeat crcBit 8 (crc ^^^ (byte.toUInt16 <<< 8))

/-- `obsw_crc16_ccitt` -/
def crc16Ccitt (buf : List UInt8) : UInt16 :=
  buf.foldl crcByte 0xFFFF

/-- The catalogue check value of CRC-16/CCITT-FALSE, over the ASCII digits 1 to 9. -/
example : crc16Ccitt [0x31, 0x32, 0x33, 0x34, 0x35, 0x36, 0x37, 0x38, 0x39] = 0x29B1 := by
  decide +kernel

end Openobsw.Ccsds
