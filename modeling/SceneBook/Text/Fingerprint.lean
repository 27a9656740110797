import SceneBook.Text.Bytes
import SceneBook.Text.Hex

/-!
# Fingerprints

The 64-bit xxHash of the bytes of a text with seed zero, written in sixteen hexadecimal digits.
Bytes are taken in stripes of 32 by four lanes, and what is left by words of 8 and 4 and singly.
-/

namespace SceneBook

namespace Fingerprint

def prime1 : UInt64 := 0x9E3779B185EBCA87
def prime2 : UInt64 := 0xC2B2AE3D27D4EB4F
def prime3 : UInt64 := 0x165667B19E3779F9
def prime4 : UInt64 := 0x85EBCA77C2B2AE63
def prime5 : UInt64 := 0x27D4EB2F165667C5

def rotate (x k : UInt64) : UInt64 := (x <<< k) ||| (x >>> (64 - k))

/-- The number that bytes spell, lowest byte first. -/
def word (bs : List Nat) : UInt64 := UInt64.ofNat (bs.foldr (fun b n => b + 256 * n) 0)

def mix (lane input : UInt64) : UInt64 := rotate (lane + input * prime2) 31 * prime1

def merge (h lane : UInt64) : UInt64 := (h ^^^ mix 0 lane) * prime1 + prime4

structure Lanes where
  a : UInt64
  b : UInt64
  c : UInt64
  d : UInt64

namespace Lanes

def start : Lanes := ⟨prime1 + prime2, prime2, 0, 0 - prime1⟩

def stripe (l : Lanes) (bs : List Nat) : Lanes :=
  ⟨mix l.a (word (bs.take 8)), mix l.b (word ((bs.drop 8).take 8)),
    mix l.c (word ((bs.drop 16).take 8)), mix l.d (word ((bs.drop 24).take 8))⟩

/-- The lanes after `n` stripes, and the bytes that follow them. -/
def stripes : Nat → Lanes → List Nat → Lanes × List Nat
  | 0, l, bs => (l, bs)
  | n + 1, l, bs => stripes n (l.stripe bs) (bs.drop 32)

def total (l : Lanes) : UInt64 :=
  merge (merge (merge (merge
    (rotate l.a 1 + rotate l.b 7 + rotate l.c 12 + rotate l.d 18) l.a) l.b) l.c) l.d

end Lanes

def takeWords : Nat → UInt64 → List Nat → UInt64 × List Nat
  | 0, h, bs => (h, bs)
  | n + 1, h, bs =>
    takeWords n (rotate (h ^^^ mix 0 (word (bs.take 8))) 27 * prime1 + prime4) (bs.drop 8)

def takeHalf (h : UInt64) (bs : List Nat) : UInt64 × List Nat :=
  if bs.length < 4 then (h, bs)
  else (rotate (h ^^^ (word (bs.take 4) * prime1)) 23 * prime2 + prime3, bs.drop 4)

def takeByte (h : UInt64) (b : Nat) : UInt64 := rotate (h ^^^ (UInt64.ofNat b * prime5)) 11 * prime1

/-- The final scrambling, by which each bit of the sum reaches each bit of the result. -/
def scramble (h : UInt64) : UInt64 :=
  let h := (h ^^^ (h >>> 33)) * prime2
  let h := (h ^^^ (h >>> 29)) * prime3
  h ^^^ (h >>> 32)

def ofBytes (bs : List Nat) : UInt64 :=
  let size := bs.length
  let (l, rest) := Lanes.stripes (size / 32) .start bs
  let h := (if size < 32 then prime5 else l.total) + UInt64.ofNat size
  let (h, rest) := takeWords (size % 32 / 8) h rest
  let (h, rest) := takeHalf h rest
  scramble (rest.foldl takeByte h)

def digits (h : UInt64) : Text := Text.hex 16 h.toNat

end Fingerprint

/-- The fingerprint of a text depends on the bytes of the text alone. -/
def Text.fingerprint (t : Text) : Text := Fingerprint.digits (Fingerprint.ofBytes t.bytes)

end SceneBook
