/-
What may stand between the slashes of an absolute URL: the check on the
host part. Behind the last at sign a host in brackets is a numeric address
of the long kind or a tagged address of a future kind, with nothing before
the brackets and at most a port behind them; outside brackets anything is a
host, so long as no character of it decomposes into one that ends a host.
-/
import MockApi.Text.Quoted

namespace MockApi

/-- Why a URL has no host that can be told from its path. -/
inductive UrlError where
  /-- One bracket without the other, or text beside a pair of them. -/
  | misplacedBrackets
  /-- A tagged address without a tag or an address. -/
  | malformedFutureAddress
  /-- Brackets around something that is no address. -/
  | notAnAddress (host : Text)
  /-- Brackets around an address of the short kind. -/
  | shortAddressInBrackets
  /-- A character that decomposes into a delimiter. -/
  | confusable (host : Text)
deriving DecidableEq, Repr

def UrlError.message : UrlError → Text
  | misplacedBrackets => "Invalid IPv6 URL"
  | malformedFutureAddress => "IPvFuture address is invalid"
  | notAnAddress host =>
    Text.quoted host ++ " does not appear to be an IPv4 or IPv6 address"
  | shortAddressInBrackets => "An IPv4 address cannot be in brackets"
  | confusable host =>
    "netloc '" ++ host ++ "' contains invalid characters under NFKC normalization"

namespace Host

def isHexDigit (c : CodePoint) : Bool :=
  Text.isAsciiDigit c || ('a' ≤ c && c ≤ 'f') || ('A' ≤ c && c ≤ 'F')

/-- A number from 0 to 255 without needless zeros. -/
def isOctet (t : Text) : Bool :=
  !t.isEmpty && t.all Text.isAsciiDigit && t.length ≤ 3
    && (t == "0" || t.head? != some '0')
    && t.foldl (fun n c => 10 * n + (c.toNat - '0'.toNat)) 0 ≤ 255

/-- An address of the short kind: four octets. -/
def isShortAddress (t : Text) : Bool :=
  let parts := Text.splitOn '.' t
  parts.length == 4 && parts.all isOctet

/-- A group of a long address: one to four hexadecimal digits. -/
def isGroup (t : Text) : Bool := !t.isEmpty && t.length ≤ 4 && t.all isHexDigit

/-- Parts between colons that make up eight groups: all of them written, or a
run of zero groups left out at one place that shows as an empty part. At
either end of the address the left-out run leaves two empty parts. -/
def areGroups (parts : List Text) : Bool :=
  let inner := (parts.drop 1).dropLast
  match inner.findIdx? (·.isEmpty) with
  | none => parts.length == 8 && parts.all isGroup
  | some gap =>
    let front := parts.take (gap + 1)
    let back := parts.drop (gap + 2)
    let front := if front == [[]] then [] else front
    let back := if back == [[]] then [] else back
    parts.length ≤ 9 && front.all isGroup && back.all isGroup
      && front.length + back.length ≤ 7

/-- An address of the long kind, the zone behind a percent sign left out. Its
last part may be a short address, which stands for two groups. -/
def isGroupedAddress (t : Text) : Bool :=
  let parts := Text.splitOn ':' t
  let last := parts.getLastD []
  3 ≤ parts.length &&
    if last.contains '.' then
      isShortAddress last && areGroups (parts.dropLast ++ List.replicate 2 ("0" : Text))
    else areGroups parts

/-- An address of the long kind. -/
def isLongAddress (t : Text) : Bool :=
  match Text.after? '%' t with
  | none => isGroupedAddress t
  | some zone => !zone.isEmpty && !zone.contains '%' && isGroupedAddress (Text.before '%' t)

/-- A tagged address: a letter v, hexadecimal digits, a point and more. -/
def isFutureAddress (t : Text) : Bool :=
  match t with
  | .char 'v' :: rest =>
    !(rest.takeWhile isHexDigit).isEmpty &&
      match rest.dropWhile isHexDigit with
      | .char '.' :: address => !address.isEmpty
      | _ => false
  | _ => false

/-- Checks what stands between brackets. -/
def checkBracketed (t : Text) : Except UrlError Unit :=
  if t.head? == some 'v' then
    if isFutureAddress t then .ok () else .error .malformedFutureAddress
  else if isShortAddress t then .error .shortAddressInBrackets
  else if isLongAddress t then .ok ()
  else .error (.notAnAddress t)

/-- Characters that decompose into a slash, a question mark, a hash, an at
sign or a colon. -/
def confusables : List (Nat × Nat) :=
  [(0x2047, 0x2049), (0x2100, 0x2101), (0x2105, 0x2106), (0x2a74, 0x2a74), (0xfe13, 0xfe13),
   (0xfe16, 0xfe16), (0xfe55, 0xfe56), (0xfe5f, 0xfe5f), (0xfe6b, 0xfe6b), (0xff03, 0xff03),
   (0xff0f, 0xff0f), (0xff1a, 0xff1a), (0xff1f, 0xff20)]

/-- The host in a part that holds both brackets. The brackets enclose all that
stands behind the last at sign but a port. Where they stand before the at
sign, the port is all that is cut off. -/
def bracketed (part : Text) : Except UrlError Text :=
  let host := Text.afterLast '@' part
  match Text.after? '[' host with
  | none => .ok (Text.before ':' host)
  | some inside =>
    let behind := (Text.after? ']' inside).getD []
    if Text.before '[' host != [] || !(behind.isEmpty || behind.head? == some ':') then
      .error .misplacedBrackets
    else .ok (Text.before ']' inside)

/-- Checks the host part of a URL. -/
def check (part : Text) : Except UrlError Unit := do
  if part.contains '[' != part.contains ']' then throw .misplacedBrackets
  if part.contains '[' then checkBracketed (← bracketed part)
  if part.any (Text.inRanges confusables) then throw (.confusable part)

end Host

end MockApi
