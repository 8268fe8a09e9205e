import Idenplane.Names
import Mathlib.Computability.RegularExpressions
import Idenplane.Lib.Numerals

/-! # The classifier of IP addresses

`isBlockedIp` decides from the text of an address whether requests to it are blocked.  What
counts as the text of an address is `isIP` of the platform, two regular expressions.
-/

namespace Idenplane.Security

open RegularExpression

section IsIP

/-- `[…]`. -/
def anyOf (characters : String) : RegularExpression Char := (characters.toList.map char).sum

/-- `P{m,n}`. -/
def times (P : RegularExpression Char) (m n : Nat) : RegularExpression Char :=
  ((List.range (n + 1 - m)).map fun k => P ^ (m + k)).sum

def digit : RegularExpression Char := anyOf "0123456789"

/-- `(?:25[0-5]|2[0-4]\d|1\d\d|[1-9]\d|\d)`. -/
def v4Seg : RegularExpression Char :=
  char '2' * char '5' * anyOf "012345" + char '2' * anyOf "01234" * digit +
    char '1' * digit * digit + anyOf "123456789" * digit + digit

/-- `(?:v4Seg\.){3}v4Seg`. -/
def v4Str : RegularExpression Char := (v4Seg * char '.') ^ 3 * v4Seg

def hexDigit : RegularExpression Char := anyOf "0123456789abcdefABCDEF"

/-- `(?:[0-9a-fA-F]{1,4})`. -/
def v6Seg : RegularExpression Char := times hexDigit 1 4

/-- `(?:v6Seg:){k}`. -/
def v6Opening (k : Nat) : RegularExpression Char := (v6Seg * char ':') ^ k

/-- `(?::v6Seg){m,n}`. -/
def v6Closing (m n : Nat) : RegularExpression Char := times (char ':' * v6Seg) m n

/-- `(?:v6Seg:){k}(?:(?::v6Seg){0,5-k}:v4Str|(?::v6Seg){1,7-k}|:)`. -/
def v6Compressed (k : Nat) : RegularExpression Char :=
  v6Opening k * (v6Closing 0 (5 - k) * char ':' * v4Str + v6Closing 1 (7 - k) + char ':')

/-- The alternatives of an address without its zone, by the number of groups that open it. -/
def v6Body : RegularExpression Char :=
  v6Opening 7 * (v6Seg + char ':') + v6Opening 6 * (v4Str + char ':' * v6Seg + char ':') +
    v6Compressed 5 + v6Compressed 4 + v6Compressed 3 + v6Compressed 2 + v6Compressed 1 +
    char ':' * (v6Closing 0 5 * char ':' * v4Str + v6Closing 1 7 + char ':')

def zoneChar : RegularExpression Char :=
  anyOf "0123456789abcdefghijklmnopqrstuvwxyzABCDEFGHIJKLMNOPQRSTUVWXYZ-.:"

/-- `(?:%[0-9a-zA-Z-.:]{1,})?`. -/
def v6Zone : RegularExpression Char := 1 + char '%' * (zoneChar * zoneChar.star)

def isIP (text : List Char) : Nat :=
  if v4Str.rmatch text then 4
  else if (v6Body * v6Zone).rmatch text then 6
  else 0

end IsIP

section Ipv4

def IPV4_BLOCKED_RANGES : List (String × Nat) :=
  [("0.0.0.0", 8), ("10.0.0.0", 8), ("100.64.0.0", 10), ("127.0.0.0", 8), ("169.254.0.0", 16),
    ("172.16.0.0", 12), ("192.0.0.0", 24), ("192.0.2.0", 24), ("192.168.0.0", 16),
    ("198.18.0.0", 15), ("198.51.100.0", 24), ("203.0.113.0", 24), ("224.0.0.0", 4),
    ("240.0.0.0", 4), ("255.255.255.255", 32)]

/-- `/^\d{1,3}$/`. -/
def isOctetText (part : List Char) : Bool :=
  part.all Char.isDigit && 1 ≤ part.length && part.length ≤ 3

/-- The loop of `ipv4ToInt`, on 32-bit integers. -/
def readOctets : List (List Char) → BitVec 32 → Option (BitVec 32)
  | [], value => some value
  | part :: rest, value =>
    if !isOctetText part then none
    else
      let octet := Numerals.value 10 part
      if octet > 255 then none
      else readOctets rest ((value <<< 8) ||| BitVec.ofNat 32 octet)

def ipv4ToInt (ip : List Char) : Option (BitVec 32) :=
  let parts := Text.split '.' ip
  if parts.length ≠ 4 then none else readOctets parts 0

def ipv4IntInCidr (value : BitVec 32) (network : String) (prefixLength : Nat) : Bool :=
  match ipv4ToInt network.toList with
  | none => false
  | some base =>
    let mask := if prefixLength = 0 then 0 else (~~~(0 : BitVec 32)) <<< (32 - prefixLength)
    value &&& mask = base &&& mask

/-- What cannot be read is blocked. -/
def isBlockedIpv4 (ip : List Char) : Bool :=
  match ipv4ToInt ip with
  | none => true
  | some value => IPV4_BLOCKED_RANGES.any fun range => ipv4IntInCidr value range.1 range.2

end Ipv4

section Ipv6

def IPV6_BLOCKED_RANGES : List (String × Nat) :=
  [("::1", 128), ("::", 128), ("fc00::", 7), ("fe80::", 10), ("ff00::", 8), ("2001:db8::", 32),
    ("64:ff9b::", 96)]

def FULL_128_MASK : Nat := 1 <<< 128 - 1

def ipv6PrefixMask (prefixLength : Nat) : Nat :=
  if prefixLength = 0 then 0
  else if prefixLength ≥ 128 then FULL_128_MASK
  else (FULL_128_MASK <<< (128 - prefixLength)) &&& FULL_128_MASK

def afterLastColon (addr : List Char) : List Char :=
  (addr.reverse.takeWhile (· ≠ ':')).reverse

def throughLastColon (addr : List Char) : List Char :=
  (addr.reverse.dropWhile (· ≠ ':')).reverse

/-- The texts around the first `::`, if there is one. -/
def splitAtDoubleColon : List Char → Option (List Char × List Char)
  | [] => none
  | ':' :: ':' :: rest => some ([], rest)
  | c :: rest => (splitAtDoubleColon rest).map fun (left, right) => (c :: left, right)

/-- `text.length > 0 ? text.split(':') : []`. -/
def colonParts (text : List Char) : List (List Char) :=
  if text.isEmpty then [] else Text.split ':' text

/-- `/^[0-9a-fA-F]{1,4}$/`. -/
def isGroupText (group : List Char) : Bool :=
  group.all (fun c => (Text.hexDigit c).isSome) && 1 ≤ group.length && group.length ≤ 4

def replaceDottedTail (addr : List Char) : Option (List Char) :=
  let tailCandidate := afterLastColon addr
  if '.' ∈ tailCandidate then
    match ipv4ToInt tailCandidate with
    | none => none
    | some v4 =>
      let hi := Numerals.numeral 16 ((v4 >>> 16) &&& 0xffff).toNat
      let lo := Numerals.numeral 16 (v4 &&& 0xffff).toNat
      some (throughLastColon addr ++ hi ++ ':' :: lo)
  else some addr

def splitGroups (addr : List Char) : Option (List (List Char)) :=
  match splitAtDoubleColon addr with
  | none =>
    let groups := Text.split ':' addr
    if groups.length ≠ 8 then none else some groups
  | some (left, right) =>
    -- the search for a second `::` begins at the second colon of the first
    if (splitAtDoubleColon (':' :: right)).isSome then none
    else
      let leftParts := colonParts left
      let rightParts := colonParts right
      if 8 < leftParts.length + rightParts.length then none
      else
        some (leftParts ++ List.replicate (8 - (leftParts.length + rightParts.length)) ['0'] ++
          rightParts)

def expandIpv6Groups (ip : List Char) : Option (List (List Char)) := do
  let addr := ip.takeWhile (· ≠ '%')
  let addr ← replaceDottedTail addr
  let groups ← splitGroups addr
  if groups.length ≠ 8 then none
  else if !groups.all isGroupText then none
  else some groups

def ipv6ToBigInt (ip : List Char) : Option Nat :=
  (expandIpv6Groups ip).map fun groups =>
    groups.foldl (fun value group => (value <<< 16) ||| Numerals.value 16 group) 0

def ipv6InCidr (value : Nat) (network : String) (prefixLength : Nat) : Bool :=
  match ipv6ToBigInt network.toList with
  | none => false
  | some base =>
    let mask := ipv6PrefixMask prefixLength
    value &&& mask = base &&& mask

def bigIntToIpv4 (value : Nat) : List Char :=
  let v := BitVec.ofNat 32 (value &&& 0xffffffff)
  let octet (shift : Nat) := Numerals.numeral 10 ((v >>> shift) &&& 0xff).toNat
  octet 24 ++ '.' :: octet 16 ++ '.' :: octet 8 ++ '.' :: octet 0

def isBlockedIpv6 (ip : List Char) : Bool :=
  match ipv6ToBigInt ip with
  | none => true
  | some value =>
    let lies (network : String) (prefixLength : Nat) : Bool :=
      match ipv6ToBigInt network.toList with
      | none => false
      | some base => value &&& ipv6PrefixMask prefixLength = base &&& ipv6PrefixMask prefixLength
    if IPV6_BLOCKED_RANGES.any fun range => ipv6InCidr value range.1 range.2 then true
    else if lies "::ffff:0:0" 96 then isBlockedIpv4 (bigIntToIpv4 (value &&& 0xffffffff))
    else if value &&& ipv6PrefixMask 96 = 0 then
      isBlockedIpv4 (bigIntToIpv4 (value &&& 0xffffffff))
    else if lies "2002::" 16 then
      isBlockedIpv4 (bigIntToIpv4 ((value >>> 80) &&& 0xffffffff))
    else false

end Ipv6

/-- What is no address is blocked. -/
def isBlockedIp (ip : List Char) : Bool :=
  if isIP ip = 4 then isBlockedIpv4 ip
  else if isIP ip = 6 then isBlockedIpv6 ip
  else true

section HostnameLiterals

def BLOCKED_HOSTNAME_LITERALS : List String := ["localhost", "localhost.localdomain"]

def parseNumericIpv4Segment (segment : List Char) : Option Nat :=
  let isHex (text : List Char) := !text.isEmpty && text.all fun c => (Text.hexDigit c).isSome
  match segment with
  | [] => none
  | '0' :: [] => some 0
  | '0' :: x :: digits =>
    if (x = 'x' ∨ x = 'X') ∧ isHex digits then some (Numerals.value 16 digits)
    else if (x :: digits).all fun c => '0' ≤ c ∧ c ≤ '7' then some (Numerals.value 8 (x :: digits))
    else none
  | c :: digits =>
    if c.isDigit && digits.all Char.isDigit then some (Numerals.value 10 segment) else none

/-- The last segment takes the bits that the segments before it leave. -/
def combineSegments : List Nat → Option (BitVec 32)
  | [a] => if a > 0xffffffff then none else some (BitVec.ofNat 32 a)
  | [a, b] =>
    if a > 0xff ∨ b > 0xffffff then none
    else some ((BitVec.ofNat 32 a <<< 24) ||| BitVec.ofNat 32 b)
  | [a, b, c] =>
    if a > 0xff ∨ b > 0xff ∨ c > 0xffff then none
    else some ((BitVec.ofNat 32 a <<< 24) ||| (BitVec.ofNat 32 b <<< 16) ||| BitVec.ofNat 32 c)
  | [a, b, c, d] =>
    if a > 0xff ∨ b > 0xff ∨ c > 0xff ∨ d > 0xff then none
    else
      some ((BitVec.ofNat 32 a <<< 24) ||| (BitVec.ofNat 32 b <<< 16) |||
        (BitVec.ofNat 32 c <<< 8) ||| BitVec.ofNat 32 d)
  | _ => none

def normalizeNumericIpv4Literal (hostname : List Char) : Option (List Char) := do
  let segments := Text.split '.' hostname
  if 4 < segments.length then none
  else
    let values ← segments.mapM parseNumericIpv4Segment
    let ipInt ← combineSegments values
    some (bigIntToIpv4 ipInt.toNat)

/-- `if (host.startsWith('[') && host.endsWith(']')) host = host.slice(1, -1)`. -/
def withoutBrackets (host : List Char) : List Char :=
  if host.head? = some '[' ∧ host.getLast? = some ']' then (host.drop 1).dropLast else host

/-- `if (host.endsWith('.') && host.length > 1) host = host.slice(0, -1)`. -/
def withoutRootDot (host : List Char) : List Char :=
  if host.getLast? = some '.' ∧ 1 < host.length then host.dropLast else host

def isBlockedHostnameLiteral (toLowerCase : List Char → List Char) (hostname : List Char) : Bool :=
  let host := toLowerCase (Text.trim (String.ofList hostname)).toList
  let host := withoutRootDot (withoutBrackets host)
  if host.isEmpty then true
  else if String.ofList host ∈ BLOCKED_HOSTNAME_LITERALS ∨ ".localhost".toList.isSuffixOf host then true
  else if isIP host ≠ 0 then isBlockedIp host
  else
    match normalizeNumericIpv4Literal host with
    | some normalized => isBlockedIpv4 normalized
    | none => false

end HostnameLiterals

end Idenplane.Security
