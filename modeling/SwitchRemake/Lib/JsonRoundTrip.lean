import SwitchRemake.Lib.Json

/-!
# Written values are read back

Parsing a written value gives the value with its numbers as the text holds them, and never runs out
of rounds.
-/

namespace SwitchRemake.Lib.Json

/-! ## Numerals before other text -/

/-- Nothing that would make a numeral longer. -/
def Ends : List Char → Prop
  | [] => True
  | c :: _ => isDigit c = false ∧ c ∉ ['-', '+', '.', 'e', 'E']

/-- Text behind the numeral changes nothing. -/
def Local (scan : Scanner) : Prop :=
  ∀ cs front rest more, Ends more → scan cs = some (front, rest) →
    scan (cs ++ more) = some (front, rest ++ more)

theorem Local.followedBy {first second : Scanner} (left : Local first) (right : Local second) :
    Local (first.followedBy second) := by
  intro cs front rest more ends scanned
  simp only [Scanner.followedBy, Option.bind_eq_bind, Option.bind_eq_some_iff, Prod.exists,
    Option.pure_def, Option.some.injEq, Prod.mk.injEq] at scanned ⊢
  obtain ⟨a, middle, first, b, last, second, rfl, rfl⟩ := scanned
  exact ⟨a, middle ++ more, left _ _ _ _ ends first, b, last ++ more, right _ _ _ _ ends second, rfl, rfl⟩

/-- One more character in front of the numeral. -/
theorem Local.cons {scan : Scanner} (here : Local scan) (c : Char) {cs front rest more : List Char}
    (ends : Ends more)
    (scanned : (scan cs).map (fun (front, rest) => (c :: front, rest)) = some (front, rest)) :
    (scan (cs ++ more)).map (fun (front, rest) => (c :: front, rest)) =
      some (front, rest ++ more) := by
  obtain ⟨⟨tail, after⟩, split, eq⟩ := Option.map_eq_some_iff.mp scanned
  cases eq
  rw [here _ _ _ _ ends split]
  rfl

theorem digits_local : Local digits := by
  intro cs front rest more ends scanned
  have stops : more.takeWhile isDigit = [] := by
    cases more with
    | nil => rfl
    | cons c tail => simp [ends.1]
  have keeps : more.dropWhile isDigit = more := by
    cases more with
    | nil => rfl
    | cons c tail => simp [ends.1]
  have front : (cs ++ more).takeWhile isDigit = cs.takeWhile isDigit := by
    rw [List.takeWhile_append, stops, List.append_nil]
    split
    · rename_i whole
      exact ((List.takeWhile_prefix _).eq_of_length whole).symm
    · rfl
  have back : (cs ++ more).dropWhile isDigit = cs.dropWhile isDigit ++ more := by
    rw [List.dropWhile_append, keeps]
    split
    · rename_i empty
      rw [List.isEmpty_iff.mp empty, List.nil_append]
    · rfl
  unfold digits at scanned ⊢
  rw [front, back]
  split at scanned
  · cases scanned
  · rename_i some
    cases scanned
    rw [if_neg some]

theorem minus_local : Local minus := by
  intro cs front rest more ends scanned
  cases cs with
  | nil =>
    cases scanned
    cases more with
    | nil => rfl
    | cons c tail =>
      obtain ⟨-, other⟩ := ends
      simp only [List.nil_append, minus]
      split <;> simp_all
  | cons c tail =>
    simp only [List.cons_append, minus] at scanned ⊢
    split at scanned <;> cases scanned <;> simp_all

theorem sign_local : Local sign := by
  intro cs front rest more ends scanned
  cases cs with
  | nil =>
    cases scanned
    cases more with
    | nil => rfl
    | cons c tail =>
      obtain ⟨-, other⟩ := ends
      simp only [List.nil_append, sign]
      split <;> simp_all
  | cons c tail =>
    simp only [List.cons_append, sign] at scanned ⊢
    split at scanned <;> cases scanned <;> simp_all

theorem integer_local : Local integer := by
  intro cs front rest more ends scanned
  cases cs with
  | nil => cases scanned
  | cons c tail =>
    by_cases zero : c = '0'
    · subst zero
      cases scanned
      rfl
    · have plain : ∀ tail, integer (c :: tail) = digits (c :: tail) := by
        intro tail
        simp only [integer]
        split <;> simp_all
      rw [plain] at scanned
      rw [List.cons_append, plain]
      exact digits_local _ _ _ _ ends scanned

theorem fraction_local : Local fraction := by
  intro cs front rest more ends scanned
  cases cs with
  | nil =>
    cases scanned
    cases more with
    | nil => rfl
    | cons c tail =>
      obtain ⟨-, other⟩ := ends
      simp only [List.nil_append, fraction]
      split <;> simp_all
  | cons c tail =>
    simp only [List.cons_append, fraction] at scanned ⊢
    split at scanned
    · rename_i dot
      cases dot
      exact Local.cons digits_local '.' ends scanned
    · cases scanned
      simp_all

theorem exponent_local : Local exponent := by
  intro cs front rest more ends scanned
  cases cs with
  | nil =>
    cases scanned
    cases more with
    | nil => rfl
    | cons c tail =>
      obtain ⟨-, other⟩ := ends
      simp only [List.nil_append, exponent]
      split <;> simp_all
  | cons c tail =>
    simp only [List.cons_append, exponent] at scanned ⊢
    split at scanned
    · rename_i letter
      cases letter
      exact Local.cons (sign_local.followedBy digits_local) 'e' ends scanned
    · rename_i letter
      cases letter
      exact Local.cons (sign_local.followedBy digits_local) 'E' ends scanned
    · cases scanned
      simp_all

theorem numeral_local : Local numeral :=
  minus_local.followedBy (integer_local.followedBy (fraction_local.followedBy exponent_local))

/-- The first character of a numeral. -/
theorem numeral_starts {c : Char} {cs front rest : List Char}
    (scanned : numeral (c :: cs) = some (front, rest)) : c = '-' ∨ isDigit c = true := by
  by_contra neither
  rw [not_or, Bool.not_eq_true] at neither
  obtain ⟨positive, other⟩ := neither
  have nothing : minus (c :: cs) = some ([], c :: cs) := by
    simp only [minus]
    split <;> simp_all
  have zero : c ≠ '0' := by
    rintro rfl
    cases other
  have fails : integer (c :: cs) = none := by
    have plain : integer (c :: cs) = digits (c :: cs) := by
      simp only [integer]
      split <;> simp_all
    rw [plain]
    simp [digits, other]
  simp [numeral, Scanner.followedBy, nothing, fails] at scanned

/-! ## Strings -/

theorem hexValue_hexDigit : ∀ n < 16, hexValue (hexDigit n) = some n := by decide

theorem units_short {c : Char} {n : Nat} (short : unescape c = some n) (rest : List Char) :
    units ('\\' :: c :: rest) = (units rest).map fun (more, rest) => (n :: more, rest) := by
  rw [units, short]
  · cases units rest <;> rfl
  · rintro a b c d tail rfl
    cases short

theorem units_escape (c : Char) (rest : List Char) :
    units (escape c ++ rest) = (units rest).map fun (more, rest) => (c.toNat :: more, rest) := by
  unfold escape
  split
  case h_8 plain slash quote _ _ _ _ _ =>
    split
    · rename_i low
      have high := hexValue_hexDigit (c.toNat / 16) (by omega)
      have digit := hexValue_hexDigit (c.toNat % 16) (by omega)
      have zero : hexValue '0' = some 0 := by decide
      have number : 16 * (c.toNat / 16) + c.toNat % 16 = c.toNat := Nat.div_add_mod _ _
      simp only [List.cons_append, List.nil_append, units, zero, high, digit]
      cases units rest <;> simp [number]
    · rename_i high
      have noQuote : c ≠ '"' := by rintro rfl; contradiction
      have noSlash : c ≠ '\\' := by rintro rfl; contradiction
      simp only [List.cons_append, List.nil_append]
      rw [units]
      · rw [if_neg high]
      all_goals simp_all
  all_goals
    rename_i number
    rw [number]
    exact units_short rfl rest

theorem fromUnits_toNat : ∀ cs : List Char, fromUnits (cs.map Char.toNat) = cs
  | [] => rfl
  | [c] => by
    have valid : c.toNat.isValidChar := c.valid
    simp [fromUnits, valid]
  | c :: d :: rest => by
    have valid : c.toNat.isValidChar := c.valid
    have whole : ¬ (0xd800 ≤ c.toNat ∧ c.toNat < 0xdc00 ∧ 0xdc00 ≤ d.toNat ∧ d.toNat < 0xe000) := by
      rcases valid with low | high <;> omega
    have more := fromUnits_toNat (d :: rest)
    simp only [List.map_cons] at more ⊢
    rw [fromUnits, if_neg whole, if_pos valid, more, Char.ofNat_toNat]

theorem units_quoted (cs rest : List Char) :
    units (cs.flatMap escape ++ '"' :: rest) = some (cs.map Char.toNat, rest) := by
  induction cs with
  | nil => rfl
  | cons c tail ih => rw [List.flatMap_cons, List.append_assoc, units_escape, ih]; rfl

theorem string_quoted (s : String) (rest : List Char) :
    string (s.toList.flatMap escape ++ '"' :: rest) = some (s, rest) := by
  rw [string, units_quoted, Option.map_some]
  simp only [fromUnits_toNat, String.ofList_toList]

/-! ## Values -/

variable {K : Type} [JsonNumber K]

theorem expect_same {c : Char} (solid : isSpace c = false) (rest : List Char) :
    expect c (c :: rest) = some rest := by
  simp [expect, skipSpace, solid]

theorem expect_other {c d : Char} (solid : isSpace d = false) (other : d ≠ c) (rest : List Char) :
    expect c (d :: rest) = none := by
  simp [expect, skipSpace, solid, other]

mutual

/-- The value with its numbers as the text holds them. -/
def stored : Json K → Json K
  | null => null
  | bool b => bool b
  | num n => ((JsonNumber.text n).map fun text => num (JsonNumber.value text)).getD null
  | str s => str s
  | arr items => arr (storedItems items)
  | obj members => obj (storedMembers members)

def storedItems : List (Json K) → List (Json K)
  | [] => []
  | first :: rest => stored first :: storedItems rest

def storedMembers : List (String × Json K) → List (String × Json K)
  | [] => []
  | (name, first) :: rest => (name, stored first) :: storedMembers rest

end

theorem digit_solid {c : Char} (digit : isDigit c = true) : isSpace c = false := by
  rw [Bool.eq_false_iff]
  intro space
  simp only [isSpace, decide_eq_true_eq] at space
  rcases space with rfl | rfl | rfl | rfl <;> contradiction

/-- The first character of a written value. -/
theorem stringify_starts (j : Json K) :
    ∃ c tail, stringify j = c :: tail ∧ isSpace c = false ∧ c ≠ ']' := by
  cases j with
  | null => exact ⟨_, _, rfl, rfl, by decide⟩
  | bool b => cases b <;> exact ⟨_, _, rfl, rfl, by decide⟩
  | str s => exact ⟨_, _, rfl, rfl, by decide⟩
  | arr items => cases items <;> exact ⟨_, _, rfl, rfl, by decide⟩
  | obj members => rcases members with _ | ⟨⟨name, first⟩, rest⟩ <;> exact ⟨_, _, rfl, rfl, by decide⟩
  | num n =>
    cases written : JsonNumber.text n with
    | none => exact ⟨'n', ['u', 'l', 'l'], by rw [stringify, written]; rfl, rfl, by decide⟩
    | some text =>
      have scanned := JsonNumber.text_numeral written
      cases text with
      | nil => cases scanned
      | cons c tail =>
        refine ⟨c, tail, by rw [stringify, written]; rfl, ?_, ?_⟩
        · cases numeral_starts scanned with
          | inl minus => subst minus; rfl
          | inr digit => exact digit_solid digit
        · rintro rfl
          cases numeral_starts scanned <;> contradiction

theorem scalar_numeral {c : Char} (starts : c = '-' ∨ isDigit c = true) (tail : List Char) :
    scalar (K := K) (c :: tail) =
      (numeral (c :: tail)).map fun (text, rest) => (num (JsonNumber.value text), rest) := by
  unfold scalar
  split
  case h_5 => rfl
  all_goals
    rename_i letter
    cases letter
    cases starts <;> contradiction

/-- With enough rounds the text is this value and what follows. -/
def Reads (cs : List Char) (j : Json K) (rest : List Char) : Prop :=
  ∃ enough, ∀ rounds, enough ≤ rounds → value rounds cs = some (j, rest)

def ReadsItems (cs : List Char) (js : List (Json K)) (rest : List Char) : Prop :=
  ∃ enough, ∀ rounds, enough ≤ rounds → items rounds cs = some (js, rest)

def ReadsMembers (cs : List Char) (ms : List (String × Json K)) (rest : List Char) : Prop :=
  ∃ enough, ∀ rounds, enough ≤ rounds → members rounds cs = some (ms, rest)

theorem Reads.scalar {c : Char} {cs rest : List Char} {j : Json K} (solid : isSpace c = false)
    (list : c ≠ '[') (object : c ≠ '\x7b') (reads : Json.scalar (c :: cs) = some (j, rest)) :
    Reads (c :: cs) j rest := by
  refine ⟨1, fun rounds enough => ?_⟩
  obtain ⟨rounds, rfl⟩ := Nat.exists_eq_add_of_le' enough
  have kept : skipSpace (c :: cs) = c :: cs := by simp [skipSpace, solid]
  rw [value, expect_other solid list, expect_other solid object]
  dsimp only
  rw [kept, reads]

theorem Reads.list {c : Char} {cs rest : List Char} {js : List (Json K)} (solid : isSpace c = false)
    (other : c ≠ ']') (reads : ReadsItems (c :: cs) js rest) :
    Reads ('[' :: c :: cs) (arr js) rest := by
  obtain ⟨enough, reads⟩ := reads
  refine ⟨enough + 1, fun rounds more => ?_⟩
  obtain ⟨rounds, rfl⟩ := Nat.exists_eq_add_of_le' (Nat.le_of_add_left_le more)
  rw [value, expect_same rfl]
  dsimp only
  rw [expect_other solid other]
  dsimp only
  rw [reads rounds (by omega)]
  rfl

theorem Reads.object {c : Char} {cs rest : List Char} {ms : List (String × Json K)}
    (solid : isSpace c = false) (other : c ≠ '\x7d') (reads : ReadsMembers (c :: cs) ms rest) :
    Reads ('\x7b' :: c :: cs) (obj ms) rest := by
  obtain ⟨enough, reads⟩ := reads
  refine ⟨enough + 1, fun rounds more => ?_⟩
  obtain ⟨rounds, rfl⟩ := Nat.exists_eq_add_of_le' (Nat.le_of_add_left_le more)
  rw [value, expect_other rfl (by decide), expect_same rfl]
  dsimp only
  rw [expect_other solid other]
  dsimp only
  rw [reads rounds (by omega)]
  rfl

theorem Reads.lastItem {cs rest : List Char} {j : Json K} (reads : Reads cs j (']' :: rest)) :
    ReadsItems cs [j] rest := by
  obtain ⟨enough, reads⟩ := reads
  refine ⟨enough + 1, fun rounds more => ?_⟩
  obtain ⟨rounds, rfl⟩ := Nat.exists_eq_add_of_le' (Nat.le_of_add_left_le more)
  rw [items, reads rounds (by omega)]
  simp only [Option.bind_eq_bind, Option.bind_some]
  rw [expect_same rfl]

theorem Reads.nextItem {cs tail rest : List Char} {j : Json K} {js : List (Json K)}
    (reads : Reads cs j (',' :: tail)) (later : ReadsItems tail js rest) :
    ReadsItems cs (j :: js) rest := by
  obtain ⟨enough, reads⟩ := reads
  obtain ⟨further, later⟩ := later
  refine ⟨enough + further + 1, fun rounds more => ?_⟩
  obtain ⟨rounds, rfl⟩ := Nat.exists_eq_add_of_le' (Nat.le_of_add_left_le more)
  rw [items, reads rounds (by omega)]
  simp only [Option.bind_eq_bind, Option.bind_some]
  rw [expect_other rfl (by decide), expect_same rfl]
  simp only [Option.bind_some]
  rw [later rounds (by omega)]
  rfl

theorem Reads.lastMember {cs rest : List Char} {j : Json K} (name : String)
    (reads : Reads cs j ('\x7d' :: rest)) :
    ReadsMembers (quote name ++ ':' :: cs) [(name, j)] rest := by
  obtain ⟨enough, reads⟩ := reads
  refine ⟨enough + 1, fun rounds more => ?_⟩
  obtain ⟨rounds, rfl⟩ := Nat.exists_eq_add_of_le' (Nat.le_of_add_left_le more)
  rw [quote, List.cons_append, List.append_assoc, List.cons_append, List.nil_append, members,
    expect_same rfl]
  simp only [Option.bind_eq_bind, Option.bind_some]
  rw [string_quoted]
  simp only [Option.bind_some]
  rw [expect_same rfl]
  simp only [Option.bind_some]
  rw [reads rounds (by omega)]
  simp only [Option.bind_some]
  rw [expect_same rfl]

theorem Reads.nextMember {cs tail rest : List Char} {j : Json K} {ms : List (String × Json K)}
    (name : String) (reads : Reads cs j (',' :: tail)) (later : ReadsMembers tail ms rest) :
    ReadsMembers (quote name ++ ':' :: cs) ((name, j) :: ms) rest := by
  obtain ⟨enough, reads⟩ := reads
  obtain ⟨further, later⟩ := later
  refine ⟨enough + further + 1, fun rounds more => ?_⟩
  obtain ⟨rounds, rfl⟩ := Nat.exists_eq_add_of_le' (Nat.le_of_add_left_le more)
  rw [quote, List.cons_append, List.append_assoc, List.cons_append, List.nil_append, members,
    expect_same rfl]
  simp only [Option.bind_eq_bind, Option.bind_some]
  rw [string_quoted]
  simp only [Option.bind_some]
  rw [expect_same rfl]
  simp only [Option.bind_some]
  rw [reads rounds (by omega)]
  simp only [Option.bind_some]
  rw [expect_other rfl (by decide), expect_same rfl]
  simp only [Option.bind_some]
  rw [later rounds (by omega)]
  rfl

theorem ends_items (js : List (Json K)) (rest : List Char) : Ends (stringifyItems js ++ rest) := by
  cases js <;> exact ⟨rfl, by decide⟩

theorem ends_members (ms : List (String × Json K)) (rest : List Char) :
    Ends (stringifyMembers ms ++ rest) := by
  rcases ms with _ | ⟨⟨name, j⟩, ms⟩ <;> exact ⟨rfl, by decide⟩

theorem reads_number (n : K) {rest : List Char} (ends : Ends rest) :
    Reads (stringify (num n) ++ rest) (stored (num n)) rest := by
  rw [stringify, stored]
  cases written : JsonNumber.text n with
  | none => exact .scalar rfl (by decide) (by decide) rfl
  | some text =>
    have scanned := JsonNumber.text_numeral written
    cases text with
    | nil => cases scanned
    | cons c tail =>
      have starts := numeral_starts scanned
      have solid : isSpace c = false := by
        cases starts with
        | inl minus => rw [minus]; rfl
        | inr digit => exact digit_solid digit
      refine .scalar solid ?_ ?_ ?_
      · rintro rfl
        cases starts <;> contradiction
      · rintro rfl
        cases starts <;> contradiction
      · have further : numeral (c :: (tail ++ rest)) = some (c :: tail, rest) :=
          numeral_local _ _ _ _ ends scanned
        change scalar (c :: (tail ++ rest)) = _
        rw [scalar_numeral starts, further]
        rfl

mutual

theorem reads_stringify : ∀ (j : Json K) (rest : List Char), Ends rest →
    Reads (stringify j ++ rest) (stored j) rest
  | null, rest, _ => .scalar rfl (by decide) (by decide) rfl
  | bool true, rest, _ => .scalar rfl (by decide) (by decide) rfl
  | bool false, rest, _ => .scalar rfl (by decide) (by decide) rfl
  | num n, rest, ends => reads_number n ends
  | str s, rest, _ => by
    rw [stringify, quote, List.cons_append, List.append_assoc]
    refine .scalar rfl (by decide) (by decide) ?_
    rw [scalar, List.cons_append, List.nil_append, string_quoted]
    rfl
  | arr [], rest, _ => by
    refine ⟨1, fun rounds enough => ?_⟩
    obtain ⟨rounds, rfl⟩ := Nat.exists_eq_add_of_le' enough
    rfl
  | arr (first :: more), rest, ends => by
    have reads := reads_items more first _ rest (reads_stringify first _ (ends_items more rest))
    obtain ⟨c, tail, text, solid, other⟩ := stringify_starts first
    rw [stringify, List.cons_append, List.append_assoc]
    rw [text, List.cons_append] at reads ⊢
    exact .list solid other reads
  | obj [], rest, _ => by
    refine ⟨1, fun rounds enough => ?_⟩
    obtain ⟨rounds, rfl⟩ := Nat.exists_eq_add_of_le' enough
    rfl
  | obj ((name, first) :: more), rest, ends => by
    have reads := reads_members more name first _ rest
      (reads_stringify first _ (ends_members more rest))
    rw [stringify, List.cons_append, List.append_assoc, List.cons_append, List.append_assoc]
    exact .object rfl (by decide) reads

theorem reads_items : ∀ (js : List (Json K)) (first : Json K) (cs rest : List Char),
    Reads cs (stored first) (stringifyItems js ++ rest) →
      ReadsItems cs (stored first :: storedItems js) rest
  | [], first, cs, rest, reads => reads.lastItem
  | next :: js, first, cs, rest, reads => by
    have later := reads_items js next _ rest (reads_stringify next _ (ends_items js rest))
    rw [stringifyItems, List.cons_append, List.append_assoc] at reads
    exact reads.nextItem later

theorem reads_members : ∀ (ms : List (String × Json K)) (name : String) (first : Json K)
    (cs rest : List Char), Reads cs (stored first) (stringifyMembers ms ++ rest) →
      ReadsMembers (quote name ++ ':' :: cs) ((name, stored first) :: storedMembers ms) rest
  | [], name, first, cs, rest, reads => reads.lastMember name
  | (next, j) :: ms, name, first, cs, rest, reads => by
    have later := reads_members ms next j _ rest (reads_stringify j _ (ends_members ms rest))
    rw [stringifyMembers, List.cons_append, List.append_assoc, List.cons_append,
      List.append_assoc] at reads
    exact reads.nextMember name later

end

/-! ## Enough rounds -/

theorem skipSpace_length (cs : List Char) : (skipSpace cs).length ≤ cs.length :=
  (List.dropWhile_suffix _).length_le

theorem expect_length {c : Char} {cs rest : List Char} (found : expect c cs = some rest) :
    rest.length < cs.length := by
  have shorter := skipSpace_length cs
  unfold expect at found
  split at found
  · cases found
  · rename_i front
    rw [front, List.length_cons] at shorter
    split at found
    · cases found
      omega
    · cases found

theorem units_length : ∀ {cs : List Char} {numbers rest}, units cs = some (numbers, rest) →
    rest.length < cs.length := by
  intro cs
  induction cs using units.induct with
  | case1 => intro numbers rest found; cases found
  | case2 tail =>
    intro numbers rest found
    cases found
    exact Nat.lt_succ_self _
  | case3 a b c d tail ih =>
    intro numbers rest found
    simp only [units, Option.bind_eq_bind, Option.bind_eq_some_iff, Prod.exists, Option.pure_def,
      Option.some.injEq, Prod.mk.injEq] at found
    obtain ⟨_, _, _, _, _, _, _, _, more, after, reads, rfl, rfl⟩ := found
    have shorter := ih reads
    simp only [List.length_cons]
    omega
  | case4 c tail noUnit ih =>
    intro numbers rest found
    rw [units] at found
    · simp only [Option.bind_eq_bind, Option.bind_eq_some_iff, Prod.exists, Option.pure_def,
        Option.some.injEq, Prod.mk.injEq] at found
      obtain ⟨_, _, more, after, reads, rfl, rfl⟩ := found
      have shorter := ih reads
      simp only [List.length_cons]
      omega
    · exact noUnit
  | case5 c tail noQuote noUnit noSlash control =>
    intro numbers rest found
    rw [units] at found
    · rw [if_pos control] at found
      cases found
    all_goals assumption
  | case6 c tail noQuote noUnit noSlash plain ih =>
    intro numbers rest found
    rw [units] at found
    · rw [if_neg plain] at found
      obtain ⟨⟨more, after⟩, reads, eq⟩ := Option.map_eq_some_iff.mp found
      cases eq
      have shorter := ih reads
      simp only [List.length_cons]
      omega
    all_goals assumption

theorem string_length {cs rest : List Char} {s : String} (found : string cs = some (s, rest)) :
    rest.length < cs.length := by
  obtain ⟨⟨numbers, after⟩, reads, eq⟩ := Option.map_eq_some_iff.mp found
  cases eq
  exact units_length reads

/-- What is scanned and what is left are the text. -/
def Splits (scan : Scanner) : Prop :=
  ∀ cs front rest, scan cs = some (front, rest) → cs = front ++ rest

theorem Splits.followedBy {first second : Scanner} (left : Splits first) (right : Splits second) :
    Splits (first.followedBy second) := by
  intro cs front rest scanned
  simp only [Scanner.followedBy, Option.bind_eq_bind, Option.bind_eq_some_iff, Prod.exists,
    Option.pure_def, Option.some.injEq, Prod.mk.injEq] at scanned
  obtain ⟨a, middle, first, b, last, second, rfl, rfl⟩ := scanned
  rw [left _ _ _ first, right _ _ _ second, List.append_assoc]

theorem Splits.cons {scan : Scanner} (splits : Splits scan) (c : Char) {cs front rest : List Char}
    (scanned : (scan cs).map (fun (front, rest) => (c :: front, rest)) = some (front, rest)) :
    c :: cs = front ++ rest := by
  obtain ⟨⟨tail, after⟩, found, eq⟩ := Option.map_eq_some_iff.mp scanned
  cases eq
  rw [splits _ _ _ found]
  rfl

theorem digits_splits : Splits digits := by
  intro cs front rest scanned
  unfold digits at scanned
  split at scanned
  · cases scanned
  · cases scanned
    exact List.takeWhile_append_dropWhile.symm

theorem minus_splits : Splits minus := by
  intro cs front rest scanned
  unfold minus at scanned
  split at scanned <;> cases scanned <;> rfl

theorem sign_splits : Splits sign := by
  intro cs front rest scanned
  unfold sign at scanned
  split at scanned <;> cases scanned <;> rfl

theorem integer_splits : Splits integer := by
  intro cs front rest scanned
  unfold integer at scanned
  split at scanned
  · cases scanned
    rfl
  · exact digits_splits _ _ _ scanned

theorem fraction_splits : Splits fraction := by
  intro cs front rest scanned
  unfold fraction at scanned
  split at scanned
  · exact digits_splits.cons '.' scanned
  · cases scanned
    rfl

theorem exponent_splits : Splits exponent := by
  intro cs front rest scanned
  unfold exponent at scanned
  split at scanned
  · exact Splits.cons (sign_splits.followedBy digits_splits) 'e' scanned
  · exact Splits.cons (sign_splits.followedBy digits_splits) 'E' scanned
  · cases scanned
    rfl

theorem numeral_splits : Splits numeral :=
  minus_splits.followedBy (integer_splits.followedBy (fraction_splits.followedBy exponent_splits))

theorem integer_nonempty {cs front rest : List Char} (scanned : integer cs = some (front, rest)) :
    front ≠ [] := by
  unfold integer at scanned
  split at scanned
  · cases scanned
    exact List.cons_ne_nil _ _
  · unfold digits at scanned
    split at scanned
    · cases scanned
    · cases scanned
      assumption

theorem numeral_length {cs front rest : List Char} (scanned : numeral cs = some (front, rest)) :
    rest.length < cs.length := by
  have split := congrArg List.length (numeral_splits _ _ _ scanned)
  simp only [numeral, Scanner.followedBy, Option.bind_eq_bind, Option.bind_eq_some_iff, Prod.exists,
    Option.pure_def, Option.some.injEq, Prod.mk.injEq] at scanned
  obtain ⟨_, _, _, _, _, ⟨whole, _, found, _, _, _, rfl, rfl⟩, rfl, rfl⟩ := scanned
  have some := List.length_pos_iff.mpr (integer_nonempty found)
  simp only [List.length_append] at split
  omega

theorem scalar_length {cs rest : List Char} {j : Json K} (found : scalar cs = some (j, rest)) :
    rest.length < cs.length := by
  unfold scalar at found
  split at found
  · cases found
    simp only [List.length_cons]
    omega
  · cases found
    simp only [List.length_cons]
    omega
  · cases found
    simp only [List.length_cons]
    omega
  · obtain ⟨⟨s, after⟩, reads, eq⟩ := Option.map_eq_some_iff.mp found
    cases eq
    exact Nat.lt_succ_of_lt (string_length reads)
  · obtain ⟨⟨text, after⟩, reads, eq⟩ := Option.map_eq_some_iff.mp found
    cases eq
    exact numeral_length reads

/-- What the three parsers leave is shorter than what they were given. -/
theorem rounds_length : ∀ rounds : Nat,
    (∀ cs rest (j : Json K), value rounds cs = some (j, rest) → rest.length < cs.length) ∧
    (∀ cs rest (js : List (Json K)), items rounds cs = some (js, rest) →
      rest.length < cs.length) ∧
    ∀ cs rest (ms : List (String × Json K)), members rounds cs = some (ms, rest) →
      rest.length < cs.length
  | 0 => ⟨nofun, nofun, nofun⟩
  | rounds + 1 => by
    obtain ⟨ofValue, ofItems, ofMembers⟩ := rounds_length rounds
    refine ⟨?_, ?_, ?_⟩
    · intro cs rest j found
      rw [value] at found
      split at found
      · rename_i inside list
        have shorter := expect_length list
        split at found
        · rename_i after close
          have closes := expect_length close
          cases found
          omega
        · obtain ⟨⟨js, after⟩, reads, eq⟩ := Option.map_eq_some_iff.mp found
          cases eq
          have further := ofItems _ _ _ reads
          omega
      · split at found
        · rename_i inside object
          have shorter := expect_length object
          split at found
          · rename_i after close
            have closes := expect_length close
            cases found
            omega
          · obtain ⟨⟨ms, after⟩, reads, eq⟩ := Option.map_eq_some_iff.mp found
            cases eq
            have further := ofMembers _ _ _ reads
            omega
        · have further := scalar_length found
          have shorter := skipSpace_length cs
          omega
    · intro cs rest js found
      simp only [items, Option.bind_eq_bind, Option.bind_eq_some_iff, Prod.exists] at found
      obtain ⟨first, after, reads, found⟩ := found
      have shorter := ofValue _ _ _ reads
      split at found
      · rename_i last close
        have closes := expect_length close
        cases found
        omega
      · obtain ⟨next, comma, found⟩ := Option.bind_eq_some_iff.mp found
        have closes := expect_length comma
        obtain ⟨⟨more, last⟩, reads, eq⟩ := Option.map_eq_some_iff.mp found
        cases eq
        change last.length < cs.length
        have further := ofItems _ _ _ reads
        omega
    · intro cs rest ms found
      simp only [members, Option.bind_eq_bind, Option.bind_eq_some_iff, Prod.exists] at found
      obtain ⟨inside, quote, name, after, key, next, colon, first, tail, reads, found⟩ := found
      have opens := expect_length quote
      have named := string_length key
      have separates := expect_length colon
      have shorter := ofValue _ _ _ reads
      split at found
      · rename_i last close
        have closes := expect_length close
        cases found
        omega
      · obtain ⟨next, comma, found⟩ := Option.bind_eq_some_iff.mp found
        have closes := expect_length comma
        obtain ⟨⟨more, last⟩, reads, eq⟩ := Option.map_eq_some_iff.mp found
        cases eq
        change last.length < cs.length
        have further := ofMembers _ _ _ reads
        omega

/-- Rounds for a text of this length: one more changes nothing. -/
theorem rounds_enough : ∀ rounds : Nat,
    (∀ cs, 2 * cs.length < rounds → value (K := K) (rounds + 1) cs = value rounds cs) ∧
    (∀ cs, 2 * cs.length + 1 < rounds → items (K := K) (rounds + 1) cs = items rounds cs) ∧
    ∀ cs, 2 * cs.length < rounds → members (K := K) (rounds + 1) cs = members rounds cs
  | 0 => ⟨nofun, nofun, nofun⟩
  | rounds + 1 => by
    obtain ⟨ofValue, ofItems, ofMembers⟩ := rounds_enough rounds
    obtain ⟨shorter, -, -⟩ := rounds_length (K := K) rounds
    refine ⟨?_, ?_, ?_⟩
    · intro cs enough
      rw [value, value]
      cases list : expect '[' cs with
      | some rest =>
        have opens := expect_length list
        dsimp only
        rw [ofItems rest (by omega)]
      | none =>
        cases object : expect '\x7b' cs with
        | some rest =>
          have opens := expect_length object
          dsimp only
          rw [ofMembers rest (by omega)]
        | none => rfl
    · intro cs enough
      rw [items, items, ofValue cs (by omega)]
      cases read : value (K := K) rounds cs with
      | none => rfl
      | some pair =>
        have less := shorter _ _ _ read
        simp only [Option.bind_eq_bind, Option.bind_some]
        cases comma : expect ',' pair.2 with
        | none => rfl
        | some rest =>
          have closes := expect_length comma
          simp only [Option.bind_some]
          rw [ofItems rest (by omega)]
    · intro cs enough
      rw [members, members]
      cases quoted : expect '"' cs with
      | none => rfl
      | some inside =>
        have opens := expect_length quoted
        simp only [Option.bind_eq_bind, Option.bind_some]
        cases named : string inside with
        | none => rfl
        | some pair =>
          have name := string_length named
          simp only [Option.bind_some]
          cases colon : expect ':' pair.2 with
          | none => rfl
          | some after =>
            have separates := expect_length colon
            simp only [Option.bind_some]
            rw [ofValue after (by omega)]
            cases read : value (K := K) rounds after with
            | none => rfl
            | some first =>
              have less := shorter _ _ _ read
              simp only [Option.bind_some]
              cases comma : expect ',' first.2 with
              | none => rfl
              | some rest =>
                have closes := expect_length comma
                simp only [Option.bind_some]
                rw [ofMembers rest (by omega)]

theorem value_enough (cs : List Char) (more : Nat) :
    value (K := K) (2 * cs.length + 1 + more) cs = value (2 * cs.length + 1) cs := by
  induction more with
  | zero => rfl
  | succ more ih => rw [← ih, ← Nat.add_assoc, (rounds_enough _).1 cs (by omega)]

/-- A written value is read back with its numbers as the text holds them. -/
theorem parse_stringify (j : Json K) : parse (String.ofList (stringify j)) = some (stored j) := by
  obtain ⟨enough, reads⟩ := reads_stringify j [] trivial
  rw [List.append_nil] at reads
  have read := reads (2 * (stringify j).length + 1 + enough) (Nat.le_add_left _ _)
  rw [value_enough] at read
  rw [parse, String.toList_ofList, read]
  rfl

/-! ## Values that survive -/

mutual

def numbers : Json K → List K
  | num n => [n]
  | arr items => numbersOfItems items
  | obj members => numbersOfMembers members
  | _ => []

def numbersOfItems : List (Json K) → List K
  | [] => []
  | first :: rest => numbers first ++ numbersOfItems rest

def numbersOfMembers : List (String × Json K) → List K
  | [] => []
  | (_, first) :: rest => numbers first ++ numbersOfMembers rest

end

/-- The text of the number is worth the number. -/
def Exact (n : K) : Prop := (JsonNumber.text n).map JsonNumber.value = some n

theorem stored_num (n : K) : stored (num n) = num n ↔ Exact n := by
  rw [stored, Exact]
  cases JsonNumber.text n with
  | none => simp
  | some text => simp

mutual

/-- Exactly the values whose numbers are all exact come back as they were. -/
theorem stored_eq_iff : ∀ j : Json K, stored j = j ↔ ∀ n ∈ numbers j, Exact n
  | null => by simp [stored, numbers]
  | bool b => by simp [stored, numbers]
  | str s => by simp [stored, numbers]
  | num n => by rw [stored_num]; simp [numbers]
  | arr items => by rw [stored, numbers, ← storedItems_eq_iff items]; simp
  | obj members => by rw [stored, numbers, ← storedMembers_eq_iff members]; simp

theorem storedItems_eq_iff : ∀ js : List (Json K),
    storedItems js = js ↔ ∀ n ∈ numbersOfItems js, Exact n
  | [] => by simp [storedItems, numbersOfItems]
  | first :: rest => by
    have head := stored_eq_iff first
    have tail := storedItems_eq_iff rest
    simp [storedItems, numbersOfItems, head, tail, or_imp, forall_and]

theorem storedMembers_eq_iff : ∀ ms : List (String × Json K),
    storedMembers ms = ms ↔ ∀ n ∈ numbersOfMembers ms, Exact n
  | [] => by simp [storedMembers, numbersOfMembers]
  | (name, first) :: rest => by
    have head := stored_eq_iff first
    have tail := storedMembers_eq_iff rest
    simp [storedMembers, numbersOfMembers, head, tail, or_imp, forall_and]

end

end SwitchRemake.Lib.Json
