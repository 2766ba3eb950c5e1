import SwitchRemake.Lib.JsNumber

/-!
# JSON text

`JSON.stringify` of a value built from plain objects and `JSON.parse` of any text. How a number is
written and what a numeral is worth are left to `JsonNumber`.
-/

namespace SwitchRemake.Lib

/-- The members of an object stand in the order of the text. A reader takes the last of a name. -/
inductive Json (K : Type) where
  | null
  | bool (b : Bool)
  | num (n : K)
  | str (s : String)
  | arr (items : List (Json K))
  | obj (members : List (String × Json K))

namespace Json

variable {K : Type}

def member? (name : String) : Json K → Option (Json K)
  | obj members => (members.reverse.find? fun member => member.1 = name).map Prod.snd
  | _ => none

/-! ## Numerals -/

/-- A scanner splits what it accepts from the front of a text. -/
abbrev Scanner := List Char → Option (List Char × List Char)

def Scanner.followedBy (first second : Scanner) : Scanner := fun cs => do
  let (front, rest) ← first cs
  let (middle, rest) ← second rest
  return (front ++ middle, rest)

def isDigit (c : Char) : Bool := '0' ≤ c ∧ c ≤ '9'

def digits : Scanner := fun cs =>
  if cs.takeWhile isDigit = [] then none else some (cs.takeWhile isDigit, cs.dropWhile isDigit)

def minus : Scanner
  | '-' :: rest => some (['-'], rest)
  | rest => some ([], rest)

def sign : Scanner
  | '-' :: rest => some (['-'], rest)
  | '+' :: rest => some (['+'], rest)
  | rest => some ([], rest)

def integer : Scanner
  | '0' :: rest => some (['0'], rest)
  | rest => digits rest

def fraction : Scanner
  | '.' :: rest => (digits rest).map fun (front, rest) => ('.' :: front, rest)
  | rest => some ([], rest)

def exponent : Scanner
  | 'e' :: rest => (sign.followedBy digits rest).map fun (front, rest) => ('e' :: front, rest)
  | 'E' :: rest => (sign.followedBy digits rest).map fun (front, rest) => ('E' :: front, rest)
  | rest => some ([], rest)

/-- The longest numeral in front. -/
def numeral : Scanner :=
  minus.followedBy (integer.followedBy (fraction.followedBy exponent))

end Json

/-- How numbers are written and read: `text` is none for the numbers that JSON has no text for. -/
class JsonNumber (K : Type) where
  text : K → Option (List Char)
  value : List Char → K
  text_numeral {n : K} {cs : List Char} : text n = some cs → Json.numeral cs = some (cs, [])

namespace Json

variable {K : Type} [JsonNumber K]

/-! ## Strings -/

def hexDigit (n : Nat) : Char := if n < 10 then Char.ofNat (48 + n) else Char.ofNat (87 + n)

def hexValue (c : Char) : Option Nat :=
  if '0' ≤ c ∧ c ≤ '9' then some (c.toNat - 48)
  else if 'a' ≤ c ∧ c ≤ 'f' then some (c.toNat - 87)
  else if 'A' ≤ c ∧ c ≤ 'F' then some (c.toNat - 55)
  else none

def escape (c : Char) : List Char :=
  match c.toNat with
  | 0x22 => ['\\', '"']
  | 0x5c => ['\\', '\\']
  | 8 => ['\\', 'b']
  | 9 => ['\\', 't']
  | 10 => ['\\', 'n']
  | 12 => ['\\', 'f']
  | 13 => ['\\', 'r']
  | n => if n < 0x20 then ['\\', 'u', '0', '0', hexDigit (n / 16), hexDigit (n % 16)] else [c]

def quote (s : String) : List Char := '"' :: (s.toList.flatMap escape ++ ['"'])

def unescape : Char → Option Nat
  | '"' => some 0x22
  | '\\' => some 0x5c
  | '/' => some 0x2f
  | 'b' => some 8
  | 't' => some 9
  | 'n' => some 10
  | 'f' => some 12
  | 'r' => some 13
  | _ => none

/-- The characters up to the closing quote by number: `\u` gives a UTF-16 unit. -/
def units : List Char → Option (List Nat × List Char)
  | [] => none
  | '"' :: rest => some ([], rest)
  | '\\' :: 'u' :: a :: b :: c :: d :: rest => do
    let unit := 4096 * (← hexValue a) + 256 * (← hexValue b) + 16 * (← hexValue c) + (← hexValue d)
    let (more, rest) ← units rest
    return (unit :: more, rest)
  | '\\' :: c :: rest => do
    let unit ← unescape c
    let (more, rest) ← units rest
    return (unit :: more, rest)
  | c :: rest =>
    if c.toNat < 0x20 then none else (units rest).map fun (more, rest) => (c.toNat :: more, rest)

/-- Two surrogates make one character. One alone is the replacement character here. -/
def fromUnits : List Nat → List Char
  | [] => []
  | [unit] => [if unit.isValidChar then Char.ofNat unit else Char.ofNat 0xfffd]
  | high :: low :: rest =>
    if 0xd800 ≤ high ∧ high < 0xdc00 ∧ 0xdc00 ≤ low ∧ low < 0xe000 then
      Char.ofNat (0x10000 + (high - 0xd800) * 1024 + (low - 0xdc00)) :: fromUnits rest
    else (if high.isValidChar then Char.ofNat high else Char.ofNat 0xfffd) :: fromUnits (low :: rest)

def string (cs : List Char) : Option (String × List Char) :=
  (units cs).map fun (numbers, rest) => (String.ofList (fromUnits numbers), rest)

/-! ## Values -/

mutual

/-- `JSON.stringify(value)`. -/
def stringify : Json K → List Char
  | null => ['n', 'u', 'l', 'l']
  | bool true => ['t', 'r', 'u', 'e']
  | bool false => ['f', 'a', 'l', 's', 'e']
  | num n => (JsonNumber.text n).getD ['n', 'u', 'l', 'l']
  | str s => quote s
  | arr [] => ['[', ']']
  | arr (first :: rest) => '[' :: (stringify first ++ stringifyItems rest)
  | obj [] => ['\x7b', '\x7d']
  | obj ((name, first) :: rest) =>
    '\x7b' :: (quote name ++ ':' :: (stringify first ++ stringifyMembers rest))

def stringifyItems : List (Json K) → List Char
  | [] => [']']
  | first :: rest => ',' :: (stringify first ++ stringifyItems rest)

def stringifyMembers : List (String × Json K) → List Char
  | [] => ['\x7d']
  | (name, first) :: rest =>
    ',' :: (quote name ++ ':' :: (stringify first ++ stringifyMembers rest))

end

def isSpace (c : Char) : Bool := c = ' ' ∨ c = '\t' ∨ c = '\n' ∨ c = '\r'

def skipSpace (cs : List Char) : List Char := cs.dropWhile isSpace

/-- What stands behind this character, which may have spaces in front. -/
def expect (c : Char) (cs : List Char) : Option (List Char) :=
  match skipSpace cs with
  | [] => none
  | first :: rest => if first = c then some rest else none

def scalar : List Char → Option (Json K × List Char)
  | 'n' :: 'u' :: 'l' :: 'l' :: rest => some (null, rest)
  | 't' :: 'r' :: 'u' :: 'e' :: rest => some (bool true, rest)
  | 'f' :: 'a' :: 'l' :: 's' :: 'e' :: rest => some (bool false, rest)
  | '"' :: rest => (string rest).map fun (s, rest) => (str s, rest)
  | rest => (numeral rest).map fun (text, rest) => (num (JsonNumber.value text), rest)

mutual

/-- One value, and what follows it. -/
def value : Nat → List Char → Option (Json K × List Char)
  | 0, _ => none
  | rounds + 1, cs =>
    match expect '[' cs with
    | some rest =>
      match expect ']' rest with
      | some rest => some (arr [], rest)
      | none => (items rounds rest).map fun (items, rest) => (arr items, rest)
    | none =>
      match expect '\x7b' cs with
      | some rest =>
        match expect '\x7d' rest with
        | some rest => some (obj [], rest)
        | none => (members rounds rest).map fun (members, rest) => (obj members, rest)
      | none => scalar (skipSpace cs)

def items : Nat → List Char → Option (List (Json K) × List Char)
  | 0, _ => none
  | rounds + 1, cs => do
    let (first, rest) ← value rounds cs
    match expect ']' rest with
    | some rest => some ([first], rest)
    | none => (expect ',' rest).bind fun rest =>
        (items rounds rest).map fun (more, rest) => (first :: more, rest)

def members : Nat → List Char → Option (List (String × Json K) × List Char)
  | 0, _ => none
  | rounds + 1, cs => do
    let (name, rest) ← string (← expect '"' cs)
    let (first, rest) ← value rounds (← expect ':' rest)
    match expect '\x7d' rest with
    | some rest => some ([(name, first)], rest)
    | none => (expect ',' rest).bind fun rest =>
        (members rounds rest).map fun (more, rest) => ((name, first) :: more, rest)

end

/-- `JSON.parse(text)`, none where it throws. Two rounds for each character are enough. -/
def parse (text : String) : Option (Json K) := do
  let (j, rest) ← value (2 * text.toList.length + 1) text.toList
  if skipSpace rest = [] then some j else none

/-! ## Exact numbers -/

def natural (ds : List Char) : Nat := ds.foldl (fun n c => 10 * n + (c.toNat - 48)) 0

def signed (cs : List Char) : Int :=
  match cs with
  | '-' :: ds => -(natural ds)
  | '+' :: ds => natural ds
  | ds => natural ds

/-- What the numeral stands for. -/
def decimal (cs : List Char) : ℚ :=
  let (negative, cs) := match cs with
    | '-' :: rest => (true, rest)
    | rest => (false, rest)
  let whole := cs.takeWhile isDigit
  let rest := cs.dropWhile isDigit
  let places := match rest with
    | '.' :: rest => rest.takeWhile isDigit
    | _ => []
  let power := match rest.dropWhile fun c => c ≠ 'e' ∧ c ≠ 'E' with
    | _ :: rest => signed rest
    | [] => 0
  let magnitude : ℚ := mkRat (natural (whole ++ places) * 10 ^ power.toNat)
    (10 ^ (places.length + (-power).toNat))
  if negative then -magnitude else magnitude

def wholeText (n : Int) : List Char :=
  if n < 0 then '-' :: Nat.toDigits 10 n.natAbs else Nat.toDigits 10 n.natAbs

/-- The rationals can be evaluated: the whole ones have a text. -/
instance : JsonNumber ℚ where
  text q :=
    if q.den = 1 ∧ numeral (wholeText q.num) = some (wholeText q.num, []) then
      some (wholeText q.num)
    else none
  value := decimal
  text_numeral := by
    intro q cs written
    split at written
    · rename_i whole
      cases written
      exact whole.2
    · cases written

end Json
end SwitchRemake.Lib
