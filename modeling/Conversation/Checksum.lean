import Conversation.Text.Decimal

namespace Conversation.Checksum

/-- The divisor of CRC-32C (Castagnoli), in reflected order and without its leading term. -/
def divisor : UInt32 := 0x82F63B78

def reduce : (n : Nat) → UInt32 → UInt32
  | 0, remainder => remainder
  | n + 1, remainder =>
      let shifted := remainder >>> 1
      reduce n (if remainder &&& 1 = 1 then shifted ^^^ divisor else shifted)

def addByte (remainder : UInt32) (byte : UInt8) : UInt32 :=
  reduce 8 (remainder ^^^ byte.toUInt32)

def crc32c (bytes : List UInt8) : UInt32 :=
  bytes.foldl addByte 0xFFFFFFFF ^^^ 0xFFFFFFFF

/-- The checksum of a text in UTF-8, as eight hexadecimal digits. -/
def ofText (text : String) : String :=
  String.ofList (Text.hexadecimal 8 (crc32c text.toUTF8.toList).toNat)

-- The check value that is published for the checksum, of the digits from 1 to 9.
example :
    crc32c [0x31, 0x32, 0x33, 0x34, 0x35, 0x36, 0x37, 0x38, 0x39] = 0xE3069283 := by
  decide +kernel

end Conversation.Checksum
