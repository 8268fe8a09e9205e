import Mathlib.Data.List.Basic

/-! # Compressed streams

RFC 1950 puts a header before a stream of RFC 1951 and a checksum behind it.  A stream of one kind
is not one of the other. -/

namespace Zlib

/-- The header: the method is 8, the window is at most 32 KB, the check bits are right, and there
is no preset dictionary. -/
def isHeader (cmf flg : UInt8) : Bool :=
  cmf.toNat % 16 = 8 && cmf.toNat / 16 ≤ 7 && (cmf.toNat * 256 + flg.toNat) % 31 = 0 &&
    flg.toNat / 32 % 2 = 0

def adlerStep (sums : Nat × Nat) (byte : UInt8) : Nat × Nat :=
  let a := (sums.1 + byte.toNat) % 65521
  (a, (sums.2 + a) % 65521)

def adler32 (bytes : List UInt8) : Nat :=
  let sums := bytes.foldl adlerStep (1, 0)
  sums.2 * 65536 + sums.1

def bigEndian (bytes : List UInt8) : Nat := bytes.foldl (fun n byte => n * 256 + byte.toNat) 0

def inflate (inflateRaw : List UInt8 → Option (List UInt8)) : List UInt8 → Option (List UInt8)
  | cmf :: flg :: rest =>
    let body := rest.take (rest.length - 4)
    let checksum := rest.drop (rest.length - 4)
    if isHeader cmf flg && 4 ≤ rest.length then
      (inflateRaw body).filter fun bytes => adler32 bytes = bigEndian checksum
    else none
  | _ => none

/-- What begins with a byte of another method is no such stream. -/
theorem inflate_of_method {inflateRaw : List UInt8 → Option (List UInt8)} {first : UInt8}
    {rest : List UInt8} (other : first.toNat % 16 ≠ 8) : inflate inflateRaw (first :: rest) = none := by
  cases rest with
  | nil => rfl
  | cons flg rest => simp [inflate, isHeader, other]

end Zlib
