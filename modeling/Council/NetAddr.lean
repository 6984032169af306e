import Council.GoStrings

/-!
`net.ParseIP` and `net.SplitHostPort` of Go's standard library, as their
documentation and sources have them. An IPv4 field has no leading zero, so a
dotted address has one spelling; an IPv6 address has many.
-/

namespace Council.NetAddr

open Council.GoStrings

def dot : UInt8 := 0x2E
def colon : UInt8 := 0x3A
def percent : UInt8 := 0x25
def openBracket : UInt8 := 0x5B
def closeBracket : UInt8 := 0x5D

def isDigit (byte : UInt8) : Bool := 0x30 ≤ byte && byte ≤ 0x39

/-- The loop of `parseIPv4Fields`: the fields so far, and the value and the
number of digits of the current one. `digits` is zero at the start and after a
dot. -/
def parseFields (fields : List UInt8) (value digits : Nat) : GoString → Option (List UInt8)
  | [] => if fields.length < 3 then none else some (fields ++ [UInt8.ofNat value])
  | byte :: rest =>
      if isDigit byte then
        if digits = 1 ∧ value = 0 then none
        else
          let next := value * 10 + (byte.toNat - 0x30)
          if 255 < next then none else parseFields fields next (digits + 1) rest
      else if byte = dot then
        if digits = 0 ∨ rest = [] then none
        else if fields.length = 3 then none
        else parseFields (fields ++ [UInt8.ofNat value]) 0 0 rest
      else none

def parseIPv4 (text : GoString) : Option (List UInt8) := parseFields [] 0 0 text

def hexValue (byte : UInt8) : Option Nat :=
  if isDigit byte then some (byte.toNat - 0x30)
  else if 0x61 ≤ byte && byte ≤ 0x66 then some (byte.toNat - 0x61 + 10)
  else if 0x41 ≤ byte && byte ≤ 0x46 then some (byte.toNat - 0x41 + 10)
  else none

/-- The hexadecimal digits at the front: how many, their value and the rest. -/
def hexGroup (off acc : Nat) : GoString → Option (Nat × Nat × GoString)
  | [] => some (off, acc, [])
  | byte :: rest =>
      match hexValue byte with
      | none => some (off, acc, byte :: rest)
      | some digit =>
          if 3 < off then none
          else if 0xFFFF < acc * 16 + digit then none
          else hexGroup (off + 1) (acc * 16 + digit) rest

/-- The loop of `parseIPv6` over at most eight groups: the bytes so far, where
among them the ellipsis is, and what is left of the text. -/
def parseGroups : Nat → List UInt8 → Option Nat → GoString →
    Option (List UInt8 × Option Nat × GoString)
  | 0, ip, ellipsis, text => some (ip, ellipsis, text)
  | groups + 1, ip, ellipsis, text =>
      match hexGroup 0 0 text with
      | none => none
      | some (off, acc, rest) =>
          if off = 0 then none
          else if rest.head? = some dot then
            -- an IPv4 tail takes the place of the last two groups
            if ellipsis = none ∧ ip.length ≠ 12 then none
            else if 16 < ip.length + 4 then none
            else (parseFields [] 0 0 text).map fun fields => (ip ++ fields, ellipsis, [])
          else
            let ip := ip ++ [UInt8.ofNat (acc / 0x100), UInt8.ofNat (acc % 0x100)]
            match rest with
            | [] => some (ip, ellipsis, [])
            | [_] => none
            | separator :: next :: after =>
                if separator ≠ colon then none
                else if next = colon then
                  if ellipsis.isSome then none
                  else if after = [] then some (ip, some ip.length, [])
                  else parseGroups groups ip (some ip.length) after
                else parseGroups groups ip ellipsis (next :: after)

/-- The bytes of the address, the ellipsis filled with zeros. -/
def expand : List UInt8 × Option Nat × GoString → Option (List UInt8)
  | (ip, ellipsis, left) =>
      if left ≠ [] then none
      else if ip.length < 16 then
        ellipsis.map fun place =>
          ip.take place ++ List.replicate (16 - ip.length) 0 ++ ip.drop place
      else if ellipsis.isSome then none
      else some ip

structure Addr6 where
  bytes : List UInt8
  zone : GoString
  deriving DecidableEq, Repr

def parseIPv6 (input : GoString) : Option Addr6 :=
  let text := input.takeWhile (· ≠ percent)
  let zone := (input.dropWhile (· ≠ percent)).drop 1
  if percent ∈ input ∧ zone = [] then none
  else
    match text with
    | 0x3A :: 0x3A :: [] => some ⟨List.replicate 16 0, zone⟩
    | 0x3A :: 0x3A :: rest =>
        ((parseGroups 8 [] (some 0) rest).bind expand).map (⟨·, zone⟩)
    | _ => ((parseGroups 8 [] none text).bind expand).map (⟨·, zone⟩)

inductive Addr where
  | v4 (fields : List UInt8)
  | v6 (addr : Addr6)
  deriving DecidableEq, Repr

/-- `netip.ParseAddr`: the first dot, colon or percent sign decides. -/
def parseAddr (text : GoString) : Option Addr :=
  match text.find? fun byte => byte = dot ∨ byte = colon ∨ byte = percent with
  | some 0x2E => (parseIPv4 text).map .v4
  | some 0x3A => (parseIPv6 text).map .v6
  | _ => none

/-- The prefix of an IPv4 address in sixteen bytes. -/
def v4InV6Prefix : List UInt8 := List.replicate 10 0 ++ [0xFF, 0xFF]

/-- `net.ParseIP`: the sixteen bytes of the address; one with a zone is none. -/
def parseIP (text : GoString) : Option (List UInt8) :=
  match parseAddr text with
  | some (.v4 fields) => some (v4InV6Prefix ++ fields)
  | some (.v6 addr) => if addr.zone = [] then some addr.bytes else none
  | none => none

def lastIndexByte (text : GoString) (byte : UInt8) : Option Nat :=
  (indexByte text.reverse byte).map fun back => text.length - 1 - back

def splitHostPort (hostport : GoString) : Except String (GoString × GoString) :=
  match lastIndexByte hostport colon with
  | none => .error "missing port in address"
  | some last =>
      if hostport.head? = some openBracket then
        match indexByte hostport closeBracket with
        | none => .error "missing ']' in address"
        | some stop =>
            if stop + 1 = hostport.length then .error "missing port in address"
            else if stop + 1 ≠ last then
              if hostport[stop + 1]? = some colon then .error "too many colons in address"
              else .error "missing port in address"
            else if openBracket ∈ hostport.drop 1 then .error "unexpected '[' in address"
            else if closeBracket ∈ hostport.drop (stop + 1) then
              .error "unexpected ']' in address"
            else .ok ((hostport.take stop).drop 1, hostport.drop (last + 1))
      else if colon ∈ hostport.take last then .error "too many colons in address"
      else if openBracket ∈ hostport then .error "unexpected '[' in address"
      else if closeBracket ∈ hostport then .error "unexpected ']' in address"
      else .ok (hostport.take last, hostport.drop (last + 1))

example : parseIP (literal "::ffff:1.2.3.4") = parseIP (literal "1.2.3.4") := by decide

example : parseIP (literal "2001:db8::1") = parseIP (literal "2001:0DB8:0:0::0.0.0.1") ∧
    (parseIP (literal "2001:db8::1")).isSome = true := by decide

example : [literal "01.2.3.4", literal "1.2.3", literal "1.2.3.256", literal "1::2::3",
    literal "1:2:3:4:5:6:7", literal "1:2:3:4:5:6:7::8:9", literal "fe80::1%eth0", literal "::g",
    literal "12345::", literal "1:2:3:4:5:6:7:8:9", literal "1:", literal ""].map parseIP =
    List.replicate 12 none := by decide

end Council.NetAddr
