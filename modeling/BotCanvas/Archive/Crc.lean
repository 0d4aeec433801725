/-!
# Checksums of archive entries

The cyclic redundancy check of 32 bits, with the reflected polynomial `edb88320`.
-/

namespace BotCanvas

/-- Bytes in order. -/
abbrev Bytes := List UInt8

namespace Crc

/-- Divides one more bit. -/
def shift (r : UInt32) : UInt32 :=
  if r &&& 1 = 0 then r >>> 1 else (r >>> 1) ^^^ 0xedb88320

/-- Takes in one byte. -/
def step (r : UInt32) (b : UInt8) : UInt32 :=
  let start := r ^^^ b.toUInt32
  shift (shift (shift (shift (shift (shift (shift (shift start)))))))

/-- The checksum of bytes. -/
def checksum (data : Bytes) : UInt32 :=
  data.foldl step 0xffffffff ^^^ 0xffffffff

end Crc

end BotCanvas
