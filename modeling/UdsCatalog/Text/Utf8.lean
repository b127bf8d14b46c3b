/-! Texts from bytes: characters as one to four bytes, and what stands in place of wrong ones. -/

namespace UdsCatalog.Text

/-- What the front of a list of bytes is. -/
inductive ByteChunk where
  | char (c : Char)
  /-- Bytes that begin no character. -/
  | malformed
  deriving DecidableEq, Repr

/-- The character of a chunk. -/
def ByteChunk.char? : ByteChunk → Option Char
  | .char c => some c
  | .malformed => none

/-- A byte that continues a character. -/
def isContinuation (byte : UInt8) : Bool := 0x80 ≤ byte.toNat && byte.toNat ≤ 0xBF

/-- The range in which the second byte of a character lies, and the number of bytes behind the first;
none for a byte that begins no character of several bytes. -/
def leadRange? (byte : UInt8) : Option (Nat × Nat × Nat) :=
  let b := byte.toNat
  -- Smaller lead bytes would spell ASCII characters in two bytes.
  if 0xC2 ≤ b ∧ b ≤ 0xDF then some (0x80, 0xBF, 1)
  -- The bounds of the second byte rule out spellings that are too long, surrogates, and values beyond
  -- the last character.
  else if b = 0xE0 then some (0xA0, 0xBF, 2)
  else if b = 0xED then some (0x80, 0x9F, 2)
  else if 0xE1 ≤ b ∧ b ≤ 0xEF then some (0x80, 0xBF, 2)
  else if b = 0xF0 then some (0x90, 0xBF, 3)
  else if 0xF1 ≤ b ∧ b ≤ 0xF3 then some (0x80, 0xBF, 3)
  else if b = 0xF4 then some (0x80, 0x8F, 3)
  else none

/-- Reads the bytes of a character that are still to come. Those read count even if one is missing. -/
def readContinuations : Nat → Nat → List UInt8 → ByteChunk × List UInt8
  | 0, value, bytes => (.char (Char.ofNat value), bytes)
  | _ + 1, _, [] => (.malformed, [])
  | left + 1, value, byte :: rest =>
    if isContinuation byte then readContinuations left (value * 64 + byte.toNat % 64) rest
    -- The byte that does not fit begins the next chunk.
    else (.malformed, byte :: rest)

/-- The first character of bytes, or the shortest chunk that begins none, and the rest. -/
def readChunk (first : UInt8) (rest : List UInt8) : ByteChunk × List UInt8 :=
  if first.toNat < 0x80 then (.char (Char.ofNat first.toNat), rest)
  else
    match leadRange? first, rest with
    | some (low, high, count), second :: behind =>
      if low ≤ second.toNat ∧ second.toNat ≤ high then
        -- What the lead byte contributes are its bits below the marker of its length.
        let lead := first.toNat % (if count = 1 then 32 else if count = 2 then 16 else 8)
        readContinuations (count - 1) (lead * 64 + second.toNat % 64) behind
      -- The lead byte alone is the chunk, since the second byte may begin a character.
      else (.malformed, rest)
    | _, _ => (.malformed, rest)

/-- The chunks of bytes. The number bounds how many there are. -/
def readChunks : Nat → List UInt8 → List ByteChunk
  | _, [] => []
  -- Every chunk takes a byte, so the room that the length gives is never used up.
  | 0, _ :: _ => []
  | room + 1, first :: rest =>
    let (chunk, rest) := readChunk first rest
    chunk :: readChunks room rest

/-- The chunks of bytes. -/
def byteChunks (bytes : List UInt8) : List ByteChunk := readChunks bytes.length bytes

/-- The text of bytes; none when some of them begin no character. -/
def decodeBytes? (bytes : List UInt8) : Option String :=
  ((byteChunks bytes).mapM ByteChunk.char?).map String.ofList

/-- The sign that stands in place of bytes that begin no character. -/
def replacement : Char := Char.ofNat 0xFFFD

/-- The text of bytes, with a sign in place of each chunk that begins no character. -/
def showBytes (bytes : List UInt8) : String :=
  String.ofList ((byteChunks bytes).map fun chunk => chunk.char?.getD replacement)

end UdsCatalog.Text
