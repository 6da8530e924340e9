/-!
# Message blocks

The digests work on a message that is filled up to whole blocks: a bit 1, zeros, and the length of
the message in bits. Digests are written in lowercase hexadecimal digits.
-/

namespace PagedSparql.Digest

/-- A number as bytes, the most significant first. -/
def bigEndian : Nat → Nat → List UInt8
  | 0, _ => []
  | width + 1, n => bigEndian width (n / 256) ++ [UInt8.ofNat (n % 256)]

/-- A number as bytes, the least significant first. -/
def littleEndian : Nat → Nat → List UInt8
  | 0, _ => []
  | width + 1, n => UInt8.ofNat (n % 256) :: littleEndian width (n / 256)

/-- The number of bytes that stand with the most significant first. -/
def ofBigEndian (bytes : List UInt8) : Nat := bytes.foldl (fun n b => 256 * n + b.toNat) 0

/-- The number of bytes that stand with the least significant first. -/
def ofLittleEndian (bytes : List UInt8) : Nat := bytes.foldr (fun b n => 256 * n + b.toNat) 0

/-- The message filled up to blocks of `block` bytes, with its length as the last `width` bytes. -/
def pad (block width : Nat) (length : Nat → List UInt8) (message : List UInt8) : List UInt8 :=
  -- The bit 1 takes a byte of its own, since messages are whole bytes.
  let used := (message.length + 1 + width) % block
  let zeros := (block - used) % block
  message ++ 0x80 :: List.replicate zeros 0 ++ length (8 * message.length)

/-- The parts of a list, each of `size` elements; at most `fuel` of them are taken. -/
def chunks {α : Type} (size : Nat) : Nat → List α → List (List α)
  | 0, _ => []
  | fuel + 1, xs => if xs.isEmpty then [] else xs.take size :: chunks size fuel (xs.drop size)

/-- The blocks of a message. -/
def blocks (size : Nat) (message : List UInt8) : List (List UInt8) :=
  chunks size message.length message

/-- The hexadecimal digit of a number below 16. -/
def hexDigit (n : Nat) : Char := if n < 10 then Char.ofNat (48 + n) else Char.ofNat (87 + n)

/-- Bytes in lowercase hexadecimal digits. -/
def toHex (bytes : List UInt8) : String :=
  .ofList (bytes.flatMap fun b => [hexDigit (b.toNat / 16), hexDigit (b.toNat % 16)])

/-- The bytes of a text in UTF-8. -/
def utf8 (text : String) : List UInt8 := text.toUTF8.toList

end PagedSparql.Digest
