import Mathlib.Data.List.Basic

/-!
# The address of a client

`normalizeIp`, `addressMatches` and `resolveClientIp` of `transport/ws-transport.ts`, and the header
filter of the gateway in `server-gateway/src/routing.ts`. Texts are lists of characters. `isIP` is
that of Node's `net`.
-/

namespace SwitchRemake.Gateway.ClientAddress

abbrev Text := List Char

/-! ## Texts -/

def split (separator : Char) : Text → List Text
  | [] => [[]]
  | c :: rest =>
    if c = separator then [] :: split separator rest
    else match split separator rest with
      | [] => [[c]]
      | part :: parts => (c :: part) :: parts

/-- White space and line ends, as `trim` takes them off. -/
def spaces : List Char :=
  ['\t', '\n', '\x0b', '\x0c', '\r', ' ', '\u00a0', '\u1680', '\u2000', '\u2001', '\u2002',
    '\u2003', '\u2004', '\u2005', '\u2006', '\u2007', '\u2008', '\u2009', '\u200a', '\u2028',
    '\u2029', '\u202f', '\u205f', '\u3000', '\ufeff']

def isSpace (c : Char) : Bool := spaces.contains c

def trim (text : Text) : Text :=
  ((text.dropWhile isSpace).reverse.dropWhile isSpace).reverse

/-- `join(', ')`. -/
def join : List Text → Text
  | [] => []
  | [text] => text
  | text :: rest => text ++ ',' :: ' ' :: join rest

/-- The value of decimal digits. -/
def decimal (text : Text) : Nat := text.foldl (fun n c => 10 * n + (c.toNat - '0'.toNat)) 0

/-! ## Addresses -/

/-- A number up to 255 with no leading zero. -/
def isOctet (text : Text) : Bool :=
  text.all Char.isDigit && decide (1 ≤ text.length ∧ text.length ≤ 3 ∧ decimal text ≤ 255) &&
    decide (text = ['0'] ∨ text.head? ≠ some '0')

def isIPv4 (text : Text) : Bool :=
  let octets := split '.' text
  decide (octets.length = 4) && octets.all isOctet

def isHex (c : Char) : Bool :=
  c.isDigit || ['a', 'b', 'c', 'd', 'e', 'f', 'A', 'B', 'C', 'D', 'E', 'F'].contains c

def isGroup (text : Text) : Bool :=
  text.all isHex && decide (1 ≤ text.length ∧ text.length ≤ 4)

/-- How many groups of sixteen bits the parts of an address make; an IPv4 address, at the end of an
address only, makes two. -/
def groupCount (parts : List Text) : Option Nat :=
  match parts with
  | [] => some 0
  | [last] => if isGroup last then some 1 else if isIPv4 last then some 2 else none
  | part :: rest => if isGroup part then (groupCount rest).map (· + 1) else none

/-- The texts around the first `::`. -/
def splitDouble : Text → Option (Text × Text)
  | ':' :: ':' :: rest => some ([], rest)
  | c :: rest => (splitDouble rest).map fun sides => (c :: sides.1, sides.2)
  | [] => none

/-- The parts of one side of `::`, which may have none. -/
def sideParts (text : Text) : List Text := if text = [] then [] else split ':' text

/-- Eight groups, or fewer around one `::`. -/
def isIPv6Digits (text : Text) : Bool :=
  match splitDouble text with
  | none => groupCount (split ':' text) = some 8
  | some (left, right) =>
    (sideParts left).all isGroup &&
      (groupCount (sideParts right)).any fun count => decide ((sideParts left).length + count ≤ 7)

def isZone (c : Char) : Bool := c.isAlphanum || ['-', '.', ':'].contains c

def isIPv6 (text : Text) : Bool :=
  let digits := text.takeWhile (· ≠ '%')
  let zone := text.dropWhile (· ≠ '%')
  isIPv6Digits digits && (zone = [] || decide (2 ≤ zone.length) && zone.tail.all isZone)

def isIP (text : Text) : Nat := if isIPv4 text then 4 else if isIPv6 text then 6 else 0

/-! ## The gateway -/

inductive HeaderValue where
  | single (value : Text)
  | many (values : List Text)
deriving DecidableEq

/-- Headers that are there, under their names. -/
abbrev Headers := List (String × HeaderValue)

def setHeader (headers : Headers) (name : String) (value : HeaderValue) : Headers :=
  if headers.any fun header => header.1 == name then
    headers.map fun header => if header.1 = name then (name, value) else header
  else headers ++ [(name, value)]

def unbracket (text : Text) : Text :=
  if text.head? = some '[' ∧ text.getLast? = some ']' then text.tail.dropLast else text

def normalizeRemoteAddress (address : Option Text) : Option Text :=
  address.bind fun address =>
    let trimmed := trim address
    if trimmed.head? = some '[' ∧ trimmed.getLast? = some ']' then some trimmed.tail.dropLast
    else if trimmed.length = 0 then none else some trimmed

def HeaderValue.elements : HeaderValue → List Text
  | .single value => [value]
  | .many values => values

def filterRequestHeaders (headers : Headers) (allowed : String → Bool)
    (remoteAddress : Option Text) : Headers :=
  let filtered := headers.foldl (fun filtered header =>
    if allowed header.1.toLower then setHeader filtered header.1.toLower header.2 else filtered) []
  match normalizeRemoteAddress remoteAddress with
  | none => filtered
  | some observedAddress =>
    let chain := ((headers.lookup "x-forwarded-for").map HeaderValue.elements).getD []
    setHeader filtered "x-forwarded-for" (.single (join (chain ++ [observedAddress])))

/-! ## The game server -/

/-- `'::ffff:'`. -/
def mappedPrefix : Text := [':', ':', 'f', 'f', 'f', 'f', ':']

def normalizeIp (ip : Option Text) : Text :=
  match ip with
  | none | some [] => "unknown".toList
  | some ip =>
    let unbracketed := unbracket ip
    if mappedPrefix.isPrefixOf unbracketed then unbracketed.drop 7 else unbracketed

def ipv4Number (ip : Text) : Option (BitVec 32) :=
  if isIP ip ≠ 4 then none
  else some ((split '.' ip).foldl (fun result octet =>
    result <<< 8 ||| BitVec.ofNat 32 (decimal octet)) 0)

/-- `Number(text)` for the digits of a prefix; any other text is taken for none. -/
def prefixNumber (text : Text) : Option Nat :=
  if text ≠ [] ∧ text.all Char.isDigit then some (decimal text) else none

def addressMatches (address rule : Text) : Bool :=
  let normalizedRule := normalizeIp (some rule)
  match split '/' normalizedRule with
  | networkText :: prefixText :: _ =>
    match ipv4Number address, ipv4Number networkText, prefixNumber prefixText with
    | some addressNumber, some networkNumber, some bits =>
      if 32 < bits then false
      else
        let mask : BitVec 32 := if bits = 0 then 0 else 0xffffffff#32 <<< (32 - bits)
        addressNumber &&& mask = networkNumber &&& mask
    | _, _, _ => false
  | _ => address = normalizedRule

def trusted (trustedProxies : List Text) (address : Text) : Bool :=
  trustedProxies.any (addressMatches address)

/-- The valid addresses of the chain, from the client to us. -/
def forwardedChain (forwarded : Option HeaderValue) : List Text :=
  ((((forwarded.getD (.single [])).elements.flatMap (split ',')).map fun value =>
    normalizeIp (some (trim value))).filter fun value => isIP value ≠ 0)

def resolveClientIp (remoteAddress : Option Text) (forwarded : Option HeaderValue)
    (trustedProxies : List Text) : Text :=
  let peer := normalizeIp remoteAddress
  if ¬ trusted trustedProxies peer then peer
  else ((forwardedChain forwarded).reverse.find? fun address =>
    !trusted trustedProxies address).getD peer

end SwitchRemake.Gateway.ClientAddress
