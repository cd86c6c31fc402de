import Cerbero.Lib.Text
import Cerbero.Lib.UuidV7

/-!
# Lib/Sha256 — SHA-256

FIPS 180-4 on bytes.  A word is a natural number below `2 ^ 32`, so a digest is evaluated by the
arithmetic of the kernel.  The text of a digest has 64 characters, hexadecimal digits in lower case
(`length_sha256LowerHex`, `digit_of_mem_sha256LowerHex`).
-/

namespace Cerbero

namespace Sha256

/-! ## Words -/

/-- `ROTR`, of a word. -/
def rotateRight (n word : ℕ) : ℕ := word >>> n ||| (word <<< (32 - n)) % 2 ^ 32

/-- `Σ₀`. -/
def bigSigma0 (x : ℕ) : ℕ := rotateRight 2 x ^^^ rotateRight 13 x ^^^ rotateRight 22 x

/-- `Σ₁`. -/
def bigSigma1 (x : ℕ) : ℕ := rotateRight 6 x ^^^ rotateRight 11 x ^^^ rotateRight 25 x

/-- `σ₀`. -/
def smallSigma0 (x : ℕ) : ℕ := rotateRight 7 x ^^^ rotateRight 18 x ^^^ x >>> 3

/-- `σ₁`. -/
def smallSigma1 (x : ℕ) : ℕ := rotateRight 17 x ^^^ rotateRight 19 x ^^^ x >>> 10

/-- `Ch`. -/
def choose (x y z : ℕ) : ℕ := (x &&& y) ^^^ ((2 ^ 32 - 1 - x) &&& z)

/-- `Maj`. -/
def majority (x y z : ℕ) : ℕ := (x &&& y) ^^^ (x &&& z) ^^^ (y &&& z)

/-- `K`: the first 32 bits of the fractional parts of the cube roots of the first 64 primes. -/
def roundConstants : List ℕ :=
  [0x428a2f98, 0x71374491, 0xb5c0fbcf, 0xe9b5dba5, 0x3956c25b, 0x59f111f1, 0x923f82a4, 0xab1c5ed5,
    0xd807aa98, 0x12835b01, 0x243185be, 0x550c7dc3, 0x72be5d74, 0x80deb1fe, 0x9bdc06a7, 0xc19bf174,
    0xe49b69c1, 0xefbe4786, 0x0fc19dc6, 0x240ca1cc, 0x2de92c6f, 0x4a7484aa, 0x5cb0a9dc, 0x76f988da,
    0x983e5152, 0xa831c66d, 0xb00327c8, 0xbf597fc7, 0xc6e00bf3, 0xd5a79147, 0x06ca6351, 0x14292967,
    0x27b70a85, 0x2e1b2138, 0x4d2c6dfc, 0x53380d13, 0x650a7354, 0x766a0abb, 0x81c2c92e, 0x92722c85,
    0xa2bfe8a1, 0xa81a664b, 0xc24b8b70, 0xc76c51a3, 0xd192e819, 0xd6990624, 0xf40e3585, 0x106aa070,
    0x19a4c116, 0x1e376c08, 0x2748774c, 0x34b0bcb5, 0x391c0cb3, 0x4ed8aa4a, 0x5b9cca4f, 0x682e6ff3,
    0x748f82ee, 0x78a5636f, 0x84c87814, 0x8cc70208, 0x90befffa, 0xa4506ceb, 0xbef9a3f7, 0xc67178f2]

/-! ## Compression -/

/-- The eight words that are carried from one block to the next. -/
structure Working where
  a : ℕ
  b : ℕ
  c : ℕ
  d : ℕ
  e : ℕ
  f : ℕ
  g : ℕ
  h : ℕ

/-- `H⁽⁰⁾`: the first 32 bits of the fractional parts of the square roots of the first 8 primes. -/
def Working.initial : Working :=
  ⟨0x6a09e667, 0xbb67ae85, 0x3c6ef372, 0xa54ff53a, 0x510e527f, 0x9b05688c, 0x1f83d9ab, 0x5be0cd19⟩

def round (s : Working) (constant word : ℕ) : Working :=
  let t := s.h + bigSigma1 s.e + choose s.e s.f s.g + constant + word
  ⟨(t + bigSigma0 s.a + majority s.a s.b s.c) % 2 ^ 32, s.a, s.b, s.c, (s.d + t) % 2 ^ 32,
    s.e, s.f, s.g⟩

/-- The next word of the message schedule, of which the latest words come first. -/
def nextWord (words : List ℕ) : ℕ :=
  (smallSigma1 (words.getD 1 0) + words.getD 6 0 + smallSigma0 (words.getD 14 0) +
    words.getD 15 0) % 2 ^ 32

/-- The message schedule, with a number of words added. -/
def schedule : ℕ → List ℕ → List ℕ
  | 0, words => words
  | n + 1, words => schedule n (nextWord words :: words)

def rounds : List ℕ → List ℕ → Working → Working
  | constant :: constants, word :: words, s => rounds constants words (round s constant word)
  | _, _, s => s

/-- The big-endian words of a block. -/
def wordsOf : List ℕ → List ℕ
  | b₀ :: b₁ :: b₂ :: b₃ :: rest => (((b₀ * 256 + b₁) * 256 + b₂) * 256 + b₃) :: wordsOf rest
  | _ => []

def compress (s : Working) (block : List ℕ) : Working :=
  let t := rounds roundConstants (schedule 48 (wordsOf block).reverse).reverse s
  ⟨(s.a + t.a) % 2 ^ 32, (s.b + t.b) % 2 ^ 32, (s.c + t.c) % 2 ^ 32, (s.d + t.d) % 2 ^ 32,
    (s.e + t.e) % 2 ^ 32, (s.f + t.f) % 2 ^ 32, (s.g + t.g) % 2 ^ 32, (s.h + t.h) % 2 ^ 32⟩

/-! ## Messages -/

/-- A number in a width of bytes, the most significant first. -/
def bigEndian : ℕ → ℕ → List ℕ
  | 0, _ => []
  | width + 1, n => bigEndian width (n / 256) ++ [n % 256]

/-- A message is padded to whole blocks: a bit, zeros, and its length in bits. -/
def pad (message : List ℕ) : List ℕ :=
  message ++ 0x80 :: (List.replicate ((119 - message.length % 64) % 64) 0 ++
    bigEndian 8 (8 * message.length))

/-- Evaluate a number, and go on with its value. -/
def force {α : Type} (f : ℕ → α) : ℕ → α
  | 0 => f 0
  | n + 1 => f (n + 1)

/-- Evaluate words, and go on with their values. -/
def Working.force {α : Type} (f : Working → α) (s : Working) : α :=
  Sha256.force (fun a => Sha256.force (fun b => Sha256.force (fun c => Sha256.force (fun d =>
    Sha256.force (fun e => Sha256.force (fun f' => Sha256.force (fun g => Sha256.force (fun h =>
      f ⟨a, b, c, d, e, f', g, h⟩) s.h) s.g) s.f) s.e) s.d) s.c) s.b) s.a

/-- A number of blocks of 64 bytes, compressed one after the other. -/
def compressBlocks : ℕ → List ℕ → Working → Working
  | 0, _, s => s
  | n + 1, data, s => (compress s (data.take 64)).force (compressBlocks n (data.drop 64))

/-- The words of a digest. -/
def digestWords (data : List UInt8) : List ℕ :=
  let padded := pad (data.map UInt8.toNat)
  let s := compressBlocks (padded.length / 64) padded .initial
  [s.a, s.b, s.c, s.d, s.e, s.f, s.g, s.h]

end Sha256

open Sha256

/-- **The SHA-256 of a message** in lower-case hexadecimal; only the kernel is to evaluate it. -/
@[irreducible] def sha256LowerHex (data : List UInt8) : String :=
  String.ofList ((digestWords data).flatMap (hexDigits 8))

example : sha256LowerHex [0x61, 0x62, 0x63] =
    "ba7816bf8f01cfea414140de5dae2223b00361a396177a9cb410ff61f20015ad" := by
  decide +kernel

theorem length_sha256LowerHex (data : List UInt8) : (sha256LowerHex data).toList.length = 64 := by
  simp [sha256LowerHex, digestWords, length_hexDigits]

/-- The characters of a digest are digits in lower case. -/
theorem digit_of_mem_sha256LowerHex {data : List UInt8} {ch : Char}
    (h : ch ∈ (sha256LowerHex data).toList) : ∃ d : Fin 16, Nat.digitChar d = ch := by
  rw [sha256LowerHex, String.toList_ofList, List.mem_flatMap] at h
  obtain ⟨word, -, hch⟩ := h
  exact mem_hexDigits hch

end Cerbero
