import MediaSync.Foundation.Text

/-! The digest `hashlib.sha256(text.encode("utf-8")).hexdigest()` that the journals chain their
events with. -/
namespace MediaSync.Sha256
open Text

abbrev Word := BitVec 32

abbrev Byte := BitVec 8

def roundConstants : List Word :=
  [0x428a2f98, 0x71374491, 0xb5c0fbcf, 0xe9b5dba5, 0x3956c25b, 0x59f111f1, 0x923f82a4, 0xab1c5ed5,
    0xd807aa98, 0x12835b01, 0x243185be, 0x550c7dc3, 0x72be5d74, 0x80deb1fe, 0x9bdc06a7, 0xc19bf174,
    0xe49b69c1, 0xefbe4786, 0x0fc19dc6, 0x240ca1cc, 0x2de92c6f, 0x4a7484aa, 0x5cb0a9dc, 0x76f988da,
    0x983e5152, 0xa831c66d, 0xb00327c8, 0xbf597fc7, 0xc6e00bf3, 0xd5a79147, 0x06ca6351, 0x14292967,
    0x27b70a85, 0x2e1b2138, 0x4d2c6dfc, 0x53380d13, 0x650a7354, 0x766a0abb, 0x81c2c92e, 0x92722c85,
    0xa2bfe8a1, 0xa81a664b, 0xc24b8b70, 0xc76c51a3, 0xd192e819, 0xd6990624, 0xf40e3585, 0x106aa070,
    0x19a4c116, 0x1e376c08, 0x2748774c, 0x34b0bcb5, 0x391c0cb3, 0x4ed8aa4a, 0x5b9cca4f, 0x682e6ff3,
    0x748f82ee, 0x78a5636f, 0x84c87814, 0x8cc70208, 0x90befffa, 0xa4506ceb, 0xbef9a3f7, 0xc67178f2]

structure Chain where
  a : Word
  b : Word
  c : Word
  d : Word
  e : Word
  f : Word
  g : Word
  h : Word

namespace Chain

def initial : Chain :=
  ⟨0x6a09e667, 0xbb67ae85, 0x3c6ef372, 0xa54ff53a, 0x510e527f, 0x9b05688c, 0x1f83d9ab, 0x5be0cd19⟩

def words (s : Chain) : List Word := [s.a, s.b, s.c, s.d, s.e, s.f, s.g, s.h]

def round (s : Chain) (step : Word × Word) : Chain :=
  let sigma1 := s.e.rotateRight 6 ^^^ s.e.rotateRight 11 ^^^ s.e.rotateRight 25
  let choose := (s.e &&& s.f) ^^^ (~~~s.e &&& s.g)
  let t1 := s.h + sigma1 + choose + step.1 + step.2
  let sigma0 := s.a.rotateRight 2 ^^^ s.a.rotateRight 13 ^^^ s.a.rotateRight 22
  let majority := (s.a &&& s.b) ^^^ (s.a &&& s.c) ^^^ (s.b &&& s.c)
  ⟨t1 + (sigma0 + majority), s.a, s.b, s.c, s.d + t1, s.e, s.f, s.g⟩

def add (s t : Chain) : Chain :=
  ⟨s.a + t.a, s.b + t.b, s.c + t.c, s.d + t.d, s.e + t.e, s.f + t.f, s.g + t.g, s.h + t.h⟩

end Chain

/-- `value` in `count` bytes, the highest first. -/
def bigEndian (count value : Nat) : List Byte :=
  (List.range count).map fun i => BitVec.ofNat 8 (value >>> (8 * (count - 1 - i)))

def pad (message : List Byte) : List Byte :=
  message ++ [0x80] ++ List.replicate ((119 - message.length % 64) % 64) 0 ++
    bigEndian 8 (8 * message.length)

def wordsOf : List Byte → List Word
  | b₀ :: b₁ :: b₂ :: b₃ :: rest =>
    BitVec.ofNat 32 (((b₀.toNat * 256 + b₁.toNat) * 256 + b₂.toNat) * 256 + b₃.toNat) ::
      wordsOf rest
  | _ => []

/-- `count` further words of a schedule that is kept newest first. -/
def extend : Nat → List Word → List Word
  | 0, newestFirst => newestFirst
  | count + 1, newestFirst =>
    let w := fun back => newestFirst.getD back 0
    let sigma0 := (w 14).rotateRight 7 ^^^ (w 14).rotateRight 18 ^^^ (w 14) >>> 3
    let sigma1 := (w 1).rotateRight 17 ^^^ (w 1).rotateRight 19 ^^^ (w 1) >>> 10
    extend count ((w 15 + sigma0 + w 6 + sigma1) :: newestFirst)

def schedule (block : List Word) : List Word := (extend 48 block.reverse).reverse

def compress (s : Chain) (block : List Word) : Chain :=
  s.add ((roundConstants.zip (schedule block)).foldl Chain.round s)

/-- The chain after `count` blocks of sixteen words. -/
def absorb : Nat → Chain → List Word → Chain
  | 0, s, _ => s
  | count + 1, s, words => absorb count (compress s (words.take 16)) (words.drop 16)

def digest (message : List Byte) : List Word :=
  let words := wordsOf (pad message)
  (absorb (words.length / 16) Chain.initial words).words

def hexDigit (n : Nat) : Char := "0123456789abcdef".toList.getD n '0'

def hexWord (word : Word) : List Char :=
  [28, 24, 20, 16, 12, 8, 4, 0].map fun shift => hexDigit (word.toNat >>> shift % 16)

/-- `hashlib.sha256(text.encode("utf-8")).hexdigest()`. -/
def hexdigest (text : String) : String :=
  String.ofList ((digest (text.toUTF8.toList.map fun byte => byte.toBitVec)).flatMap hexWord)

example : hexdigest "abc" = "ba7816bf8f01cfea414140de5dae2223b00361a396177a9cb410ff61f20015ad" := by
  decide +kernel

theorem isLowerHex_hexDigit (n : Nat) : isLowerHex (hexDigit n) = true := by
  have hall : "0123456789abcdef".toList.all isLowerHex = true := by decide
  rw [hexDigit, List.getD_eq_getElem?_getD]
  cases h : "0123456789abcdef".toList[n]? with
  | none => rfl
  | some c => exact List.all_eq_true.mp hall c (List.mem_of_getElem? h)

theorem hexWord_length (word : Word) : (hexWord word).length = 8 := rfl

theorem isHash_hexdigest (text : String) : isHash (hexdigest text) = true := by
  have hwords : ∀ words : List Word, (words.flatMap hexWord).length = 8 * words.length ∧
      (words.flatMap hexWord).all isLowerHex = true := by
    intro words
    induction words with
    | nil => exact ⟨rfl, rfl⟩
    | cons word rest ih =>
      rw [List.flatMap_cons, List.length_append, ih.1, hexWord_length, List.all_append, ih.2]
      refine ⟨by rw [List.length_cons]; omega, ?_⟩
      simp [hexWord, isLowerHex_hexDigit]
  rw [isHash, hexdigest, String.toList_ofList, Bool.and_eq_true]
  exact ⟨by rw [(hwords _).1]; rfl, (hwords _).2⟩

end MediaSync.Sha256
