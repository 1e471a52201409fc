import McrxCore.Packet

/-!
# Addresses and numbers as text

`Display` and `FromStr` of the address types and of the unsigned integers, after the
parser of `core::net`: a reader takes characters from the front of its input, and one that
fails takes none.
-/

namespace McrxCore

/-! ## Display -/

def Ipv4Addr.display (addr : Ipv4Addr) : String :=
  ".".intercalate (addr.octets.toList.map fun octet => toString octet.toNat)

namespace Ipv6Addr

def segments (addr : Ipv6Addr) : List Nat :=
  (List.range 8).map fun i =>
    (addr.octets.toList.getD (2 * i) 0).toNat * 256 +
      (addr.octets.toList.getD (2 * i + 1) 0).toNat

def isIpv4Mapped (addr : Ipv6Addr) : Bool := addr.segments.take 6 == [0, 0, 0, 0, 0, 0xffff]

/-- `{:x}` of each segment, with colons between them. -/
def fmtSubslice (chunk : List Nat) : String :=
  ":".intercalate (chunk.map fun segment => String.ofList (Nat.toDigits 16 segment))

/-- A run of zero segments. -/
structure Span where
  start : Nat
  len : Nat
  deriving DecidableEq, Repr

/-- The first of the longest runs of zero segments from segment `i` on. -/
def longestZeros (longest current : Span) (i : Nat) : List Nat → Span
  | [] => longest
  | segment :: rest =>
    if segment = 0 then
      let current : Span :=
        if current.len = 0 then { start := i, len := 1 }
        else { current with len := current.len + 1 }
      let longest := if longest.len < current.len then current else longest
      longestZeros longest current (i + 1) rest
    else longestZeros longest { start := 0, len := 0 } (i + 1) rest

def display (addr : Ipv6Addr) : String :=
  let segments := addr.segments
  if addr.isIpv4Mapped then
    "::ffff:" ++ ".".intercalate ((addr.octets.toList.drop 12).map fun octet =>
      toString octet.toNat)
  else
    let zeroes := longestZeros { start := 0, len := 0 } { start := 0, len := 0 } 0 segments
    if 1 < zeroes.len then
      fmtSubslice (segments.take zeroes.start) ++ "::" ++
        fmtSubslice (segments.drop (zeroes.start + zeroes.len))
    else fmtSubslice segments

end Ipv6Addr

def IpAddr.display : IpAddr → String
  | .v4 addr => addr.display
  | .v6 addr => addr.display

def SocketAddr.display (addr : SocketAddr) : String :=
  match addr.ip with
  | .v4 ip => ip.display ++ ":" ++ toString addr.port.toNat
  | .v6 ip =>
    if addr.scopeId = 0 then "[" ++ ip.display ++ "]:" ++ toString addr.port.toNat
    else
      "[" ++ ip.display ++ "%" ++ toString addr.scopeId.toNat ++ "]:" ++
        toString addr.port.toNat

/-! ## Numbers -/

def toDigit (radix : Nat) (c : Char) : Option Nat :=
  let value :=
    if '0' ≤ c ∧ c ≤ '9' then c.toNat - '0'.toNat
    else if 'a' ≤ c ∧ c ≤ 'z' then c.toNat - 'a'.toNat + 10
    else if 'A' ≤ c ∧ c ≤ 'Z' then c.toNat - 'A'.toNat + 10
    else radix
  if value < radix then some value else none

inductive ParseIntError where
  | empty
  | invalidDigit
  | posOverflow
  deriving DecidableEq, Repr

def ParseIntError.display : ParseIntError → String
  | .empty => "cannot parse integer from empty string"
  | .invalidDigit => "invalid digit found in string"
  | .posOverflow => "number too large to fit in target type"

/-- The digit loop of `from_str_radix`: an invalid digit is seen before the overflow of the
multiplication. -/
def parseDigits (limit : Nat) : List Char → Nat → Except ParseIntError Nat
  | [], result => .ok result
  | c :: rest, result =>
    match toDigit 10 c with
    | none => .error .invalidDigit
    | some digit =>
      if limit ≤ result * 10 + digit then .error .posOverflow
      else parseDigits limit rest (result * 10 + digit)

/-- `str::parse` of an unsigned integer below the limit. -/
def parseUnsigned (limit : Nat) (value : List Char) : Except ParseIntError Nat :=
  match value with
  | [] => .error .empty
  | ['+'] | ['-'] => .error .invalidDigit
  | '+' :: digits => parseDigits limit digits 0
  | digits => parseDigits limit digits 0

/-! ## Addresses -/

/-- `Parser::read_number`: between one and `maxDigits` digits. -/
def readNumber (radix maxDigits : Nat) (allowZeroPrefix : Bool) (limit : Nat)
    (input : List Char) : Option (Nat × List Char) :=
  let digits := input.takeWhile fun c => (toDigit radix c).isSome
  let value := digits.foldl (fun result c => result * radix + (toDigit radix c).getD 0) 0
  if digits = [] ∨ maxDigits < digits.length then none
  else if !allowZeroPrefix ∧ digits.head? = some '0' ∧ 1 < digits.length then none
  else if limit ≤ value then none
  else some (value, input.drop digits.length)

/-- `Parser::read_separator`: the separator stands before every item but the first. -/
def readSeparator {α : Type} (separator : Char) (index : Nat)
    (inner : List Char → Option (α × List Char)) (input : List Char) : Option (α × List Char) :=
  if index = 0 then inner input
  else
    match input with
    | c :: rest => if c = separator then inner rest else none
    | [] => none

def readIpv4Octet (index : Nat) (input : List Char) : Option (Nat × List Char) :=
  readSeparator '.' index (readNumber 10 3 false 256) input

def readIpv4Addr (input : List Char) : Option (Ipv4Addr × List Char) := do
  let (a, input) ← readIpv4Octet 0 input
  let (b, input) ← readIpv4Octet 1 input
  let (c, input) ← readIpv4Octet 2 input
  let (d, input) ← readIpv4Octet 3 input
  some (.new (.ofNat a) (.ofNat b) (.ofNat c) (.ofNat d), input)

/-- The groups of `read_groups` from group `i` on, with `remaining` more that fit, and
whether an embedded IPv4 address ended them. -/
def readGroups (i : Nat) : Nat → List Char → List Nat × Bool × List Char
  | 0, input => ([], false, input)
  | remaining + 1, input =>
    match if 0 < remaining then readSeparator ':' i readIpv4Addr input else none with
    | some (addr, rest) =>
      let octets := addr.octets.toList.map UInt8.toNat
      ([octets.getD 0 0 * 256 + octets.getD 1 0, octets.getD 2 0 * 256 + octets.getD 3 0],
        true, rest)
    | none =>
      match readSeparator ':' i (readNumber 16 4 true 65536) input with
      | some (group, rest) =>
        let (groups, ipv4, rest) := readGroups (i + 1) remaining rest
        (group :: groups, ipv4, rest)
      | none => ([], false, input)

def Ipv6Addr.ofSegments (segments : List Nat) : Ipv6Addr :=
  { octets := Vector.ofFn fun i : Fin 16 =>
      let segment := segments.getD (i / 2) 0
      .ofNat (if i.val % 2 = 0 then segment / 256 else segment % 256) }

def readIpv6Addr (input : List Char) : Option (Ipv6Addr × List Char) :=
  let (head, headIpv4, input) := readGroups 0 8 input
  if head.length = 8 then some (.ofSegments head, input)
  else if headIpv4 then none
  else
    match input with
    | ':' :: ':' :: input =>
      let (tail, _, input) := readGroups 0 (8 - (head.length + 1)) input
      some (.ofSegments (head ++ List.replicate (8 - head.length - tail.length) 0 ++ tail), input)
    | _ => none

def readIpAddr (input : List Char) : Option (IpAddr × List Char) :=
  match readIpv4Addr input with
  | some (addr, input) => some (.v4 addr, input)
  | none => (readIpv6Addr input).map fun (addr, input) => (.v6 addr, input)

inductive AddrParseError where
  | ip
  | ipv6
  deriving DecidableEq, Repr

def AddrParseError.display : AddrParseError → String
  | .ip => "invalid IP address syntax"
  | .ipv6 => "invalid IPv6 address syntax"

/-- `Parser::parse_with`: the reader has to take the whole input. -/
def parseWith {α : Type} (inner : List Char → Option (α × List Char)) (kind : AddrParseError)
    (input : List Char) : Except AddrParseError α :=
  match inner input with
  | some (value, []) => .ok value
  | _ => .error kind

def parseIpAddr (value : List Char) : Except AddrParseError IpAddr :=
  parseWith readIpAddr .ip value

def parseIpv6Addr (value : List Char) : Except AddrParseError Ipv6Addr :=
  parseWith readIpv6Addr .ipv6 value

end McrxCore
