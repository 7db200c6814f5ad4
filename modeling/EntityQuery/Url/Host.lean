import EntityQuery.Decimal.Numeral
import EntityQuery.Domain.Name
import EntityQuery.Url.Basic

/-!
# Hosts

The host part of a URL: a domain name, an IPv4 address or an IPv6 address, in
normalised text.

## Main Definitions

* `Url.parseHost`: the host of a scheme with well-known rules.
* `Url.parseOpaqueHost`: the host of any other scheme.
* `Url.Ipv4.parse`, `Url.Ipv6.parse`: addresses.

## Design Notes

A name that ends in a number is an address, and this is decided on its ASCII
form: digits of every kind can spell one.
-/

namespace EntityQuery.Url

open Decimal

/-! ## IPv4 addresses -/

namespace Ipv4

/-- The value of digits in a base, if all of them are digits of the base. -/
def digitsIn? (base : Nat) (ds : List Char) : Option Nat :=
  ds.foldl (fun n d => do
    let v ← Text.hexValue? d
    if v < base then pure ((← n) * base + v) else none) (some 0)

/-- A part of an address: decimal, octal after `0`, hexadecimal after `0x`. -/
def number? : List Char → Option Nat
  | [] => none
  | '0' :: 'x' :: rest => digitsIn? 16 rest
  | '0' :: 'X' :: rest => digitsIn? 16 rest
  | '0' :: d :: rest => digitsIn? 8 (d :: rest)
  | ds => digitsIn? 10 ds

/-- The parts of a name; one empty part at the end does not count. -/
def parts (domain : List Char) : List (List Char) :=
  let ps := Text.splitOn (· == '.') domain
  if 1 < ps.length && ps.getLast? = some [] then ps.dropLast else ps

/-- Whether a name ends like an address. -/
def endsInNumber (domain : List Char) : Bool :=
  match (parts domain).getLast? with
  | none => false
  | some [] => false
  | some last => last.all isDigit || (last.head? = some '0' && (number? last).isSome)

/-- The address that a name is. -/
def parse (domain : List Char) : Except Error Nat := do
  let ps := parts domain
  if 4 < ps.length then throw .invalidIpv4Address
  match ps.mapM number? with
  | none => throw .invalidIpv4Address
  | some ns =>
    let last := ns.getLastD 0
    let leading := ns.dropLast
    if leading.any (255 < ·) || Nat.pow 256 (5 - ns.length) ≤ last then throw .invalidIpv4Address
    let high := leading.foldl (fun n b => n * 256 + b) 0
    pure (high * Nat.pow 256 (5 - ns.length) + last)

/-- An address as four decimal numbers. -/
def text (address : Nat) : String :=
  ".".intercalate ([3, 2, 1, 0].map fun i => toString (address / Nat.pow 256 i % 256))

end Ipv4

/-! ## IPv6 addresses -/

namespace Ipv6

/-- One group of up to four hexadecimal digits. -/
def group? (ds : List Char) : Option Nat :=
  if ds.isEmpty || 4 < ds.length then none else Ipv4.digitsIn? 16 ds

/-- Four decimal numbers without leading zeros, as two groups. -/
def dotted? (s : List Char) : Option (List Nat) := do
  let ps := Text.splitOn (· == '.') s
  if ps.length ≠ 4 then none
  let ns ← ps.mapM fun p => do
    if p.isEmpty || !p.all isDigit || (1 < p.length && p.head? = some '0') then none
    let n := natOfDigits p
    if 255 < n then none else pure n
  match ns with
  | [a, b, c, d] => pure [a * 256 + b, c * 256 + d]
  | _ => none

/-- The groups of a part of an address; only the last may be in dotted form. -/
def groups? (mayEndDotted : Bool) (s : List Char) : Option (List Nat) :=
  if s.isEmpty then some []
  else
    let ps := Text.splitOn (· == ':') s
    let last := ps.getLastD []
    if mayEndDotted && last.contains '.' then do
      let leading ← ps.dropLast.mapM group?
      pure (leading ++ (← dotted? last))
    else ps.mapM group?

/-- The eight groups of an address. -/
def parse (s : List Char) : Except Error (List Nat) :=
  let result : Option (List Nat) :=
    match Text.cutFirstPair ':' s with
    | none => do
      let gs ← groups? true s
      if gs.length = 8 then pure gs else none
    | some (before, after) => do
      let front ← groups? false before
      let back ← groups? true after
      let missing := 8 - (front.length + back.length)
      if missing = 0 then none
      else pure (front ++ List.replicate missing 0 ++ back)
  match result with
  | some gs => .ok gs
  | none => .error .invalidIpv6Address

/-- The length of the run of zeros at the front. -/
def zeroRun (gs : List Nat) : Nat :=
  (gs.takeWhile (· == 0)).length

/-- Where the first longest run of at least two zeros starts, and its length. -/
def longestRun (gs : List Nat) : Option (Nat × Nat) :=
  let runs := (List.range gs.length).map fun i => (i, zeroRun (gs.drop i))
  let best := runs.foldl (fun b r => if b.2 < r.2 then r else b) (0, 0)
  if best.2 < 2 then none else some best

/-- An address in brackets, its longest run of zeros left out. -/
def text (gs : List Nat) : String :=
  let group (n : Nat) : String := String.ofList (Nat.toDigits 16 n)
  let join (gs : List Nat) : String := ":".intercalate (gs.map group)
  let body := match longestRun gs with
    | none => join gs
    | some (i, n) => join (gs.take i) ++ "::" ++ join (gs.drop (i + n))
  "[" ++ body ++ "]"

end Ipv6

/-! ## Hosts -/

/-- An address in brackets. -/
def parseBracketed (s : List Char) : Except Error String :=
  if s.getLast? = some ']' then (Ipv6.parse (s.drop 1).dropLast).map Ipv6.text
  else .error .invalidIpv6Address

/-- The host of a scheme with well-known rules. -/
def parseHost (s : List Char) : Except Error String :=
  if s.head? = some '[' then parseBracketed s
  else
    match (Text.decode? (percentDecode s)).bind Domain.asciiName? with
    | none => .error .invalidInternationalName
    | some domain =>
      if domain.isEmpty then .error .emptyHost
      else if Ipv4.endsInNumber domain then (Ipv4.parse domain).map Ipv4.text
      else .ok (String.ofList domain)

/-- The characters that no opaque host holds. -/
def isForbiddenInHost (c : Char) : Bool :=
  ['\x00', '\t', '\n', '\r', ' ', '#', '/', ':', '<', '>', '?', '@', '[', '\\', ']', '^',
    '|'].contains c

/-- What stands for a character that a part of a URL cannot hold. -/
def percentEncodeChar (isEncoded : Char → Bool) (c : Char) : List Char :=
  if 0x7F ≤ c.toNat || c.toNat < 0x20 || isEncoded c then
    (String.utf8EncodeChar c).flatMap percentByte
  else [c]

/-- A part of a URL with the characters encoded that it cannot hold. -/
def percentEncode (isEncoded : Char → Bool) (s : List Char) : List Char :=
  s.flatMap (percentEncodeChar isEncoded)

/-- The host of any other scheme. -/
def parseOpaqueHost (s : List Char) : Except Error String :=
  if s.head? = some '[' then parseBracketed s
  else if s.any isForbiddenInHost then .error .invalidDomainCharacter
  else .ok (String.ofList (percentEncode (fun _ => false) s))

end EntityQuery.Url
