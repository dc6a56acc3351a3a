/-!
# Digests

SHA-1 and Base64, which a feed's handshake is confirmed with. The digest works on bytes and
words of 32 bits that wrap around.
-/

namespace CourierDispatch.Http

/-- The word of four bytes, the most significant first. -/
def word (bytes : List UInt8) : UInt32 :=
  bytes.foldl (fun w b => (w <<< 8) ||| UInt32.ofNat b.toNat) 0

/-- The bytes of a number, the most significant first. -/
def bigEndian (count n : Nat) : List UInt8 :=
  (List.range count).map fun i => UInt8.ofNat (n / Nat.pow 256 (count - 1 - i) % 256)

/-- Consecutive parts of some length. -/
def chunks (size : Nat) (xs : List α) : List (List α) :=
  (List.range ((xs.length + size - 1) / size)).map fun i => (xs.drop (i * size)).take size

/-- A message filled up to whole blocks of 64 bytes, with its length in bits at the end. -/
def padded (message : List UInt8) : List UInt8 :=
  let zeros := (119 - message.length % 64) % 64
  message ++ 0x80 :: List.replicate zeros 0 ++ bigEndian 8 (8 * message.length)

def rotateLeft (x : UInt32) (k : UInt32) : UInt32 := (x <<< k) ||| (x >>> (32 - k))

/-- The eighty words of a block, the latest first. -/
def schedule (block : List UInt8) : List UInt32 :=
  let first := (chunks 4 block).map word
  (List.range 64).foldl (fun w _ =>
    rotateLeft (w.getD 2 0 ^^^ w.getD 7 0 ^^^ w.getD 13 0 ^^^ w.getD 15 0) 1 :: w) first.reverse

/-- The five words of the state. -/
structure Sha1 where
  a : UInt32
  b : UInt32
  c : UInt32
  d : UInt32
  e : UInt32
  deriving DecidableEq, Repr

namespace Sha1

def start : Sha1 := ⟨0x67452301, 0xEFCDAB89, 0x98BADCFE, 0x10325476, 0xC3D2E1F0⟩

/-- One round with a word of the schedule. -/
def round (s : Sha1) (i : Nat) (w : UInt32) : Sha1 :=
  let (f, k) : UInt32 × UInt32 :=
    if i < 20 then ((s.b &&& s.c) ||| (~~~s.b &&& s.d), 0x5A827999)
    else if i < 40 then (s.b ^^^ s.c ^^^ s.d, 0x6ED9EBA1)
    else if i < 60 then ((s.b &&& s.c) ||| (s.b &&& s.d) ||| (s.c &&& s.d), 0x8F1BBCDC)
    else (s.b ^^^ s.c ^^^ s.d, 0xCA62C1D6)
  ⟨rotateLeft s.a 5 + f + s.e + k + w, s.a, rotateLeft s.b 30, s.c, s.d⟩

/-- The rounds of one block. -/
def rounds (s : Sha1) (i : Nat) : List UInt32 → Sha1
  | [] => s
  | w :: rest => rounds (s.round i w) (i + 1) rest

def block (s : Sha1) (bytes : List UInt8) : Sha1 :=
  let t := s.rounds 0 (schedule bytes).reverse
  ⟨s.a + t.a, s.b + t.b, s.c + t.c, s.d + t.d, s.e + t.e⟩

def bytes (s : Sha1) : List UInt8 :=
  [s.a, s.b, s.c, s.d, s.e].flatMap fun w => bigEndian 4 w.toNat

end Sha1

/-- The SHA-1 digest of some bytes. -/
def sha1 (message : List UInt8) : List UInt8 :=
  ((chunks 64 (padded message)).foldl Sha1.block Sha1.start).bytes

def base64Alphabet : List Char :=
  "ABCDEFGHIJKLMNOPQRSTUVWXYZabcdefghijklmnopqrstuvwxyz0123456789+/".toList

/-- Up to three bytes as four characters. -/
def base64Group (bytes : List UInt8) : List Char :=
  let filled : List UInt8 := bytes ++ List.replicate (3 - bytes.length) 0
  let n := filled.foldl (fun n b => 256 * n + b.toNat) 0
  let sextets := (List.range 4).map fun i => base64Alphabet.getD (n / Nat.pow 64 (3 - i) % 64) 'A'
  sextets.take (bytes.length + 1) ++ List.replicate (3 - bytes.length) '='

/-- Bytes in Base64, filled up with equals signs. -/
def base64 (bytes : List UInt8) : List Char := (chunks 3 bytes).flatMap base64Group

end CourierDispatch.Http
