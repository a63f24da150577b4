import Mathlib

/-!
# Texts of IP addresses and networks

Addresses and networks of both versions as the `ipaddress` module of the Python standard library
reads and writes them: decimal octets without leading zeros, hextets with at most one run of zeros
left out, scope identifiers, prefix lengths and, for version 4, net masks and host masks. A network
is read only when its host bits are clear, so a block carries that with it.
-/

namespace IpAddresses

/-! ## Addresses -/

/-- An address; the scope identifier of a version 6 address is its zone. -/
inductive Address
  | v4 (ip : BitVec 32)
  | v6 (ip : BitVec 128) (scopeId : Option (List Char))
deriving DecidableEq

def valueOf (base : Nat) (digits : List Char) (digit : Char → Nat) : Nat :=
  digits.foldl (fun value c => base * value + digit c) 0

def decimalDigit (c : Char) : Nat := c.toNat - '0'.toNat

def isHexDigit (c : Char) : Bool :=
  c.isDigit || ('a' ≤ c && c ≤ 'f') || ('A' ≤ c && c ≤ 'F')

def hexDigit (c : Char) : Nat :=
  if c.isDigit then c.toNat - '0'.toNat
  else if 'a' ≤ c then c.toNat - 'a'.toNat + 10
  else c.toNat - 'A'.toNat + 10

/-- `_BaseV4._parse_octet`. -/
def parseOctet (t : List Char) : Option Nat :=
  if t ≠ [] ∧ t.all Char.isDigit ∧ t.length ≤ 3 ∧ (t = ['0'] ∨ t.head? ≠ some '0') then
    let octet := valueOf 10 t decimalDigit
    if octet ≤ 255 then some octet else none
  else none

/-- `_BaseV4._ip_int_from_string`. -/
def ipv4FromText (t : List Char) : Option (BitVec 32) :=
  match t.splitOn '.' with
  | [a, b, c, d] => do
    let octets ← [a, b, c, d].mapM parseOctet
    return .ofNat 32 (octets.foldl (fun ip octet => 256 * ip + octet) 0)
  | _ => none

def ipv4Address (t : List Char) : Option (BitVec 32) :=
  if '/' ∈ t then none else ipv4FromText t

/-- `_BaseV6._parse_hextet`. -/
def parseHextet (t : List Char) : Option Nat :=
  if t ≠ [] ∧ t.all isHexDigit ∧ t.length ≤ 4 then some (valueOf 16 t hexDigit) else none

def hextetsValue (high : Nat) (hextets : List Nat) : Nat :=
  hextets.foldl (fun ip hextet => 65536 * ip + hextet) high

/-- The parts of an address text, with the hextets of a version 4 suffix in its place. -/
def ipv6Parts (t : List Char) : Option (List (List Char)) := do
  let parts := t.splitOn ':'
  if parts.length < 3 then none
  let parts ← match parts.getLast? with
    | some suffix =>
      if '.' ∈ suffix then do
        let ip ← ipv4Address suffix
        pure (parts.dropLast ++
          [Nat.toDigits 16 (ip >>> 16).toNat, Nat.toDigits 16 (ip &&& 0xFFFF).toNat])
      else pure parts
    | none => none
  if 9 < parts.length then none
  return parts

/-- One side of the run of zeros: it may be a lone empty part, which stands for none. -/
def sideOf (parts : List (List Char)) (outermost : Option (List Char)) :
    Option (List (List Char)) :=
  if outermost = some [] then
    if parts.length = 1 then some [] else none
  else some parts

/-- `_BaseV6._ip_int_from_string`. -/
def ipv6FromText (t : List Char) : Option (BitVec 128) := do
  let parts ← ipv6Parts t
  match (List.range parts.length).filter fun i =>
      0 < i ∧ i + 1 < parts.length ∧ parts[i]? = some [] with
  | [] =>
    if parts.length ≠ 8 then none
    let hextets ← parts.mapM parseHextet
    return .ofNat 128 (hextetsValue 0 hextets)
  | [skipIndex] =>
    let high ← sideOf (parts.take skipIndex) parts.head?
    let low ← sideOf (parts.drop (skipIndex + 1)) parts.getLast?
    if 8 ≤ high.length + low.length then none
    let highHextets ← high.mapM parseHextet
    let lowHextets ← low.mapM parseHextet
    let skipped := 8 - (high.length + low.length)
    return .ofNat 128 (hextetsValue (hextetsValue 0 highHextets * 65536 ^ skipped) lowHextets)
  | _ => none

/-- `_BaseV6._split_scope_id`. -/
def splitScopeId (t : List Char) : Option (List Char × Option (List Char)) :=
  match t.splitOn '%' with
  | [address] => some (address, none)
  | [address, scopeId] => if scopeId = [] then none else some (address, some scopeId)
  | _ => none

def ipv6Address (t : List Char) : Option (BitVec 128 × Option (List Char)) :=
  if '/' ∈ t then none
  else do
    let (address, scopeId) ← splitScopeId t
    let ip ← ipv6FromText address
    return (ip, scopeId)

def ipAddress (t : List Char) : Option Address :=
  match ipv4Address t with
  | some ip => some (.v4 ip)
  | none => (ipv6Address t).map fun (ip, scopeId) => .v6 ip scopeId

/-! ### Writing -/

/-- `_BaseV4._string_from_ip_int`. -/
def ipv4Text (ip : BitVec 32) : List Char :=
  List.intercalate ['.'] ([24, 16, 8, 0].map fun shift =>
    Nat.toDigits 10 ((ip >>> shift).toNat % 256))

/-- Where the first longest run of zeros starts and how long it is. -/
def longestZeros (hextets : List Nat) : Nat × Nat :=
  (hextets.zipIdx.foldl (fun ((best, run) : (Nat × Nat) × Nat × Nat) (hextet, i) =>
    if hextet = 0 then
      let run := (if run.2 = 0 then i else run.1, run.2 + 1)
      (if best.2 < run.2 then run else best, run)
    else (best, (0, 0))) ((0, 0), (0, 0))).1

def hextetsText (hextets : List Nat) : List Char :=
  List.intercalate [':'] (hextets.map (Nat.toDigits 16))

/-- `_BaseV6._string_from_ip_int`, with `_compress_hextets`. -/
def ipv6Text (ip : BitVec 128) : List Char :=
  let hextets := [112, 96, 80, 64, 48, 32, 16, 0].map fun shift => (ip >>> shift).toNat % 65536
  let (start, length) := longestZeros hextets
  if 1 < length then
    hextetsText (hextets.take start) ++ [':', ':'] ++ hextetsText (hextets.drop (start + length))
  else hextetsText hextets

/-- `str` of an address; a mapped version 4 address is written as one. -/
def Address.text : Address → List Char
  | .v4 ip => ipv4Text ip
  | .v6 ip scopeId =>
    let address :=
      if ip >>> 32 = 0xFFFF then ipv6Text (ip >>> 32) ++ ':' :: ipv4Text (ip.setWidth 32)
      else ipv6Text ip
    match scopeId with
    | none => address
    | some scopeId => address ++ '%' :: scopeId

/-! ## Networks -/

/-- `_ip_int_from_prefix`. -/
def maskOf (width prefixLength : Nat) : BitVec width :=
  BitVec.allOnes width ^^^ (BitVec.allOnes width >>> prefixLength)

/-- The addresses that share the leading bits of one whose other bits are clear. -/
structure Block (width : Nat) where
  networkAddress : BitVec width
  prefixLength : Nat
  noHostBits : networkAddress &&& maskOf width prefixLength = networkAddress

/-- The strict constructors refuse host bits. -/
def Block.of? {width : Nat} (ip : BitVec width) (prefixLength : Nat) : Option (Block width) :=
  if clear : ip &&& maskOf width prefixLength = ip then some ⟨ip, prefixLength, clear⟩ else none

inductive Network
  | v4 (block : Block 32)
  | v6 (block : Block 128)

def Block.holds {width : Nat} (block : Block width) (ip : BitVec width) : Bool :=
  ip &&& maskOf width block.prefixLength = block.networkAddress

/-- `_BaseNetwork.__contains__`. -/
def Network.contains : Network → Address → Bool
  | .v4 block, .v4 ip => block.holds ip
  | .v6 block, .v6 ip _ => block.holds ip
  | _, _ => false

/-- The interpreter converts no more digits than this to an integer. -/
def maximumDigits : Nat := 4300

/-- `_prefix_from_prefix_string`. -/
def prefixFromDigits (width : Nat) (t : List Char) : Option Nat :=
  if t ≠ [] ∧ t.all Char.isDigit ∧ t.length ≤ maximumDigits ∧ valueOf 10 t decimalDigit ≤ width then
    some (valueOf 10 t decimalDigit)
  else none

/-- `_prefix_from_ip_int`. -/
def prefixFromMask (mask : BitVec 32) : Option Nat :=
  (List.range 33).find? fun prefixLength => maskOf 32 prefixLength = mask

/-- `_prefix_from_ip_string`: a net mask, or else a host mask. -/
def prefixFromIpText (t : List Char) : Option Nat := do
  let mask ← ipv4FromText t
  prefixFromMask mask <|> prefixFromMask (~~~mask)

def ipv4Network (t : List Char) : Option (Block 32) :=
  match t.splitOn '/' with
  | [address] => do Block.of? (← ipv4Address address) 32
  | [address, mask] => do
    let ip ← ipv4Address address
    let prefixLength ← prefixFromDigits 32 mask <|> prefixFromIpText mask
    Block.of? ip prefixLength
  | _ => none

def ipv6Network (t : List Char) : Option (Block 128) :=
  match t.splitOn '/' with
  | [address] => do Block.of? (← ipv6Address address).1 128
  | [address, mask] => do
    let (ip, _) ← ipv6Address address
    let prefixLength ← prefixFromDigits 128 mask
    Block.of? ip prefixLength
  | _ => none

/-- `ip_network`; a version 4 network refused for its host bits is no version 6 network either. -/
def ipNetwork (t : List Char) : Option Network :=
  (ipv4Network t).map .v4 <|> (ipv6Network t).map .v6

end IpAddresses
