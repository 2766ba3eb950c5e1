import SwitchRemake.Gateway.ClientAddress

/-!
# Forged addresses

What a client writes into the chain of addresses does not change the address it is seen under, but
for an address that is cut as if it were an IPv4-mapped one.
-/

namespace SwitchRemake.Gateway.ClientAddress

/-! ## Texts -/

variable {separator : Char} {text : Text}

theorem split_ne_nil (separator : Char) (text : Text) : split separator text ≠ [] := by
  cases text with
  | nil => simp [split]
  | cons c rest =>
    rw [split]
    split
    · simp
    · split <;> simp

theorem split_append (front rest : Text) :
    split separator (front ++ separator :: rest) =
      split separator front ++ split separator rest := by
  induction front with
  | nil => simp [split]
  | cons c front ih =>
    by_cases here : c = separator
    · simp [split, here, ih]
    · simp only [List.cons_append, split, here, if_false, ih]
      cases parts : split separator front with
      | nil => exact absurd parts (split_ne_nil separator front)
      | cons part others => rfl

theorem split_single (none_ : separator ∉ text) : split separator text = [text] := by
  induction text with
  | nil => rfl
  | cons c rest ih =>
    have here : c ≠ separator := fun same => none_ (same ▸ List.mem_cons_self)
    simp [split, here, ih fun later => none_ (List.mem_cons_of_mem c later)]

theorem mem_split (separator : Char) {c : Char} (member : c ∈ text) :
    c = separator ∨ ∃ part ∈ split separator text, c ∈ part := by
  induction text with
  | nil => cases member
  | cons first rest ih =>
    rw [split]
    split
    · rename_i here
      rcases List.mem_cons.mp member with rfl | later
      · exact .inl here
      · rcases ih later with same | ⟨part, listed, inside⟩
        · exact .inl same
        · exact .inr ⟨part, List.mem_cons_of_mem _ listed, inside⟩
    · split
      · rename_i empty
        exact absurd empty (split_ne_nil separator rest)
      · rename_i part parts found
        rcases List.mem_cons.mp member with rfl | later
        · exact .inr ⟨_, List.mem_cons_self, List.mem_cons_self⟩
        · rcases ih later with same | ⟨other, listed, inside⟩
          · exact .inl same
          · rw [found] at listed
            rcases List.mem_cons.mp listed with rfl | behind
            · exact .inr ⟨_, List.mem_cons_self, List.mem_cons_of_mem _ inside⟩
            · exact .inr ⟨other, List.mem_cons_of_mem _ behind, inside⟩

theorem join_append (chain : List Text) (last : Text) :
    join (chain ++ [last]) = last ∨
      ∃ front, join (chain ++ [last]) = front ++ ',' :: ' ' :: last := by
  induction chain with
  | nil => exact .inl rfl
  | cons text chain ih =>
    have longer :
        join (text :: chain ++ [last]) = text ++ ',' :: ' ' :: join (chain ++ [last]) := by
      cases chain <;> rfl
    rw [longer]
    rcases ih with same | ⟨front, same⟩
    · exact .inr ⟨text, by rw [same]⟩
    · exact .inr ⟨text ++ ',' :: ' ' :: front, by rw [same]; simp⟩

theorem trim_plain (none_ : ∀ c ∈ text, isSpace c = false) : trim text = text := by
  have keeps (cs : Text) (plain : ∀ c ∈ cs, isSpace c = false) : cs.dropWhile isSpace = cs := by
    cases cs with
    | nil => rfl
    | cons c rest => simp [List.dropWhile, plain c List.mem_cons_self]
  have reversed := keeps text.reverse fun c member => none_ c (List.mem_reverse.mp member)
  rw [trim, keeps text none_, reversed, List.reverse_reverse]

theorem trim_space (text : Text) : trim (' ' :: text) = trim text := rfl

/-! ## The characters of an address -/

def isAddressChar (c : Char) : Bool := c.isAlphanum || [':', '.', '%', '-'].contains c

theorem isHex_address {c : Char} (hex : isHex c = true) : isAddressChar c = true := by
  rw [isHex, Bool.or_eq_true] at hex
  rcases hex with digit | letter
  · simp [isAddressChar, Char.isAlphanum, digit]
  · have all : ['a', 'b', 'c', 'd', 'e', 'f', 'A', 'B', 'C', 'D', 'E', 'F'].all isAddressChar =
        true := by decide
    exact List.all_eq_true.mp all c (by simpa using letter)

/-- The text has characters of an address only. -/
def Plain (text : Text) : Prop := ∀ c ∈ text, isAddressChar c = true

theorem Plain.append {front rest : Text} (first : Plain front) (second : Plain rest) :
    Plain (front ++ rest) := by
  intro c member
  rcases List.mem_append.mp member with before | after
  · exact first c before
  · exact second c after

theorem Plain.not_mem {c : Char} (plain : Plain text) (other : isAddressChar c = false) :
    c ∉ text := by
  intro member
  rw [plain c member] at other
  cases other

theorem Plain.of_split (letter : isAddressChar separator = true)
    (parts : ∀ part ∈ split separator text, Plain part) : Plain text := by
  intro c member
  rcases mem_split separator member with rfl | ⟨part, listed, inside⟩
  · exact letter
  · exact parts part listed c inside

theorem isIPv4_chars (valid : isIPv4 text = true) {c : Char} (member : c ∈ text) :
    c = '.' ∨ c.isDigit = true := by
  obtain ⟨-, octets⟩ := Bool.and_eq_true_iff.mp valid
  rcases mem_split '.' member with dot | ⟨part, listed, inside⟩
  · exact .inl dot
  · have octet := List.all_eq_true.mp octets part listed
    rw [isOctet, Bool.and_eq_true, Bool.and_eq_true] at octet
    exact .inr (List.all_eq_true.mp octet.1.1 c inside)

theorem isIPv4_plain (valid : isIPv4 text = true) : Plain text := by
  intro c member
  rcases isIPv4_chars valid member with rfl | digit
  · decide
  · simp [isAddressChar, Char.isAlphanum, digit]

theorem isGroup_plain (group : isGroup text = true) : Plain text := fun c inside =>
  isHex_address (List.all_eq_true.mp (Bool.and_eq_true_iff.mp group).1 c inside)

theorem groupCount_plain {parts : List Text} {count : Nat}
    (counts : groupCount parts = some count) :
    ∀ part ∈ parts, Plain part := by
  induction parts generalizing count with
  | nil => simp
  | cons part rest ih =>
    cases rest with
    | nil =>
      rw [groupCount] at counts
      rintro _ (_ | ⟨_, ⟨⟩⟩)
      split at counts
      · rename_i group
        exact isGroup_plain group
      · split at counts
        · rename_i address
          exact isIPv4_plain address
        · cases counts
    | cons next others =>
      rw [groupCount] at counts
      split at counts
      · rename_i group
        obtain ⟨more, found, -⟩ := Option.map_eq_some_iff.mp counts
        intro text listed
        rcases List.mem_cons.mp listed with rfl | later
        · exact isGroup_plain group
        · exact ih found text later
      · cases counts
      · simp

theorem splitDouble_spec {left right : Text} (found : splitDouble text = some (left, right)) :
    text = left ++ ':' :: ':' :: right := by
  induction text using splitDouble.induct generalizing left with
  | case1 rest =>
    cases found
    rfl
  | case2 c rest other ih =>
    rw [splitDouble] at found
    · obtain ⟨sides, inner, same⟩ := Option.map_eq_some_iff.mp found
      cases same
      rw [ih inner]
      rfl
    · exact other
  | case3 => cases found

theorem sideParts_plain (parts : ∀ part ∈ sideParts text, Plain part) : Plain text := by
  by_cases empty : text = []
  · subst empty
    intro c member
    cases member
  · rw [sideParts, if_neg empty] at parts
    exact .of_split (by decide) parts

theorem isIPv6Digits_plain (valid : isIPv6Digits text = true) : Plain text := by
  unfold isIPv6Digits at valid
  split at valid
  · exact .of_split (by decide) (groupCount_plain (of_decide_eq_true valid))
  · rename_i left right found
    obtain ⟨groups, counts⟩ := Bool.and_eq_true_iff.mp valid
    obtain ⟨count, counted, -⟩ := Option.any_eq_true _ _ |>.mp counts
    rw [splitDouble_spec found]
    have colon : isAddressChar ':' = true := by decide
    refine (sideParts_plain fun part listed => ?_).append fun c member => ?_
    · exact isGroup_plain (List.all_eq_true.mp groups part listed)
    · rcases List.mem_cons.mp member with rfl | member
      · exact colon
      · rcases List.mem_cons.mp member with rfl | member
        · exact colon
        · exact sideParts_plain (groupCount_plain counted) c member

theorem isZone_address {c : Char} (zone : isZone c = true) : isAddressChar c = true := by
  simp only [isZone, isAddressChar, Bool.or_eq_true, List.contains_eq_mem, decide_eq_true_eq,
    List.mem_cons, List.not_mem_nil, or_false] at zone ⊢
  tauto

theorem isIPv6_plain (valid : isIPv6 text = true) : Plain text := by
  obtain ⟨digits, zone⟩ := Bool.and_eq_true_iff.mp valid
  rw [← List.takeWhile_append_dropWhile (p := fun c => decide (c ≠ '%')) (l := text)]
  refine (isIPv6Digits_plain digits).append fun c member => ?_
  cases rest : text.dropWhile fun c => decide (c ≠ '%') with
  | nil =>
    rw [rest] at member
    cases member
  | cons sign name =>
    rw [rest] at member zone
    have percent : sign = '%' := by
      have fails := List.head?_dropWhile_not (fun c => decide (c ≠ '%')) text
      simp only [rest] at fails
      simpa using fails
    rcases List.mem_cons.mp member with rfl | later
    · rw [percent]
      decide
    · have zones : 1 ≤ name.length ∧ ∀ x ∈ name, isZone x = true := by simpa using zone
      exact isZone_address (zones.2 c later)

theorem isIP_plain (valid : isIP text ≠ 0) : Plain text := by
  unfold isIP at valid
  split at valid
  · rename_i address
    exact isIPv4_plain address
  · split at valid
    · rename_i address
      exact isIPv6_plain address
    · exact absurd rfl valid

theorem isIP_nonempty (valid : isIP text ≠ 0) : text ≠ [] := by
  rintro rfl
  exact valid (by decide)

theorem isIP_eq_four : isIP text = 4 ↔ isIPv4 text = true := by
  unfold isIP
  split
  · simp [*]
  · split <;> simp [*]

theorem isSpace_other {c : Char} (space : isSpace c = true) : isAddressChar c = false := by
  have all : spaces.all (fun c => !isAddressChar c) = true := by decide
  simpa using List.all_eq_true.mp all c (by simpa [isSpace] using space)

theorem Plain.trim (plain : Plain text) : trim text = text := by
  refine trim_plain fun c member => ?_
  by_contra space
  have other := isSpace_other (Bool.not_eq_false _ ▸ space)
  exact plain.not_mem other member

/-! ## The chain -/

/-- The address without the front of an IPv4-mapped one. -/
def unmapped (address : Text) : Text :=
  if mappedPrefix.isPrefixOf address = true ∧ isIP (address.drop 7) = 4 then address.drop 7
  else address

theorem normalizeIp_bare {c : Char} {rest : Text} (bracket : c ≠ '[') :
    normalizeIp (some (c :: rest)) =
      if mappedPrefix.isPrefixOf (c :: rest) = true then (c :: rest).drop 7 else c :: rest := by
  have whole : unbracket (c :: rest) = c :: rest := by simp [unbracket, bracket]
  -- by definition: the equations of `normalizeIp` would decode its text for an absent address
  change (if mappedPrefix.isPrefixOf (unbracket (c :: rest)) = true then
    (unbracket (c :: rest)).drop 7 else unbracket (c :: rest)) = _
  rw [whole]

theorem normalizeIp_plain (plain : Plain text) (nonempty : text ≠ []) :
    normalizeIp (some text) =
      if mappedPrefix.isPrefixOf text = true then text.drop 7 else text := by
  cases text with
  | nil => exact absurd rfl nonempty
  | cons c rest =>
    have bracket : c ≠ '[' := by
      rintro rfl
      exact plain.not_mem (by decide) List.mem_cons_self
    exact normalizeIp_bare bracket

theorem normalizeRemoteAddress_plain (plain : Plain text) (nonempty : text ≠ []) :
    normalizeRemoteAddress (some text) = some text := by
  cases text with
  | nil => exact absurd rfl nonempty
  | cons c rest =>
    have bracket : c ≠ '[' := by
      rintro rfl
      exact plain.not_mem (by decide) List.mem_cons_self
    simp [normalizeRemoteAddress, plain.trim, bracket]

theorem lookup_setHeader (headers : Headers) (name : String) (value : HeaderValue) :
    (setHeader headers name value).lookup name = some value := by
  unfold setHeader
  split
  · rename_i there
    induction headers with
    | nil => simp at there
    | cons header rest ih =>
      obtain ⟨first, held⟩ := header
      by_cases here : first = name
      · simp [here]
      · have later : (rest.any fun header => header.1 == name) = true := by
          simpa [here] using there
        have other : (name == first) = false := by simp [Ne.symm here]
        simp [here, List.lookup_cons, other, ih later]
  · rename_i absent
    induction headers with
    | nil => simp
    | cons header rest ih =>
      obtain ⟨first, held⟩ := header
      have none_ : first ≠ name ∧ ¬ (rest.any fun header => header.1 == name) = true := by
        simpa using absent
      have other : (name == first) = false := by simp [Ne.symm none_.1]
      simp [List.lookup_cons, other, ih none_.2]

theorem forwardedChain_append (front rest : Text) :
    forwardedChain (some (.single (front ++ ',' :: rest))) =
      forwardedChain (some (.single front)) ++ forwardedChain (some (.single rest)) := by
  simp [forwardedChain, HeaderValue.elements, split_append]

theorem forwardedChain_single (plain : Plain text) :
    forwardedChain (some (.single text)) =
      [normalizeIp (some text)].filter fun value => isIP value ≠ 0 := by
  have comma : ',' ∉ text := plain.not_mem (by decide)
  simp [forwardedChain, HeaderValue.elements, split_single comma, plain.trim]

theorem forwardedChain_space (plain : Plain text) :
    forwardedChain (some (.single (' ' :: text))) = forwardedChain (some (.single text)) := by
  have comma : ',' ∉ text := plain.not_mem (by decide)
  have spaced : ',' ∉ ' ' :: text := by simpa using comma
  simp [forwardedChain, HeaderValue.elements, split_single comma, split_single spaced, trim_space]

/-- Whatever the chain held, it ends with the address the gateway saw. -/
theorem forwardedChain_join (plain : Plain text) (chain : List Text) :
    ∃ front, forwardedChain (some (.single (join (chain ++ [text])))) =
      front ++ [normalizeIp (some text)].filter fun value => isIP value ≠ 0 := by
  rcases join_append chain text with same | ⟨front, same⟩
  · exact ⟨[], by rw [same, forwardedChain_single plain, List.nil_append]⟩
  · refine ⟨forwardedChain (some (.single front)), ?_⟩
    rw [same, forwardedChain_append, forwardedChain_space plain, forwardedChain_single plain]

theorem resolveClientIp_last {remoteAddress : Option Text} {forwarded : Option HeaderValue}
    {trustedProxies : List Text} (peer : trusted trustedProxies (normalizeIp remoteAddress) = true)
    {front back : List Text} {address : Text}
    (chain : forwardedChain forwarded = front ++ address :: back)
    (stranger : trusted trustedProxies address = false)
    (hops : ∀ hop ∈ back, trusted trustedProxies hop = true) :
    resolveClientIp remoteAddress forwarded trustedProxies = address := by
  have past : (back.reverse.find? fun address => !trusted trustedProxies address) = none := by
    rw [List.find?_eq_none]
    intro hop member
    simp [hops hop (List.mem_reverse.mp member)]
  simp [resolveClientIp, peer, chain, List.find?_append, past, stranger]

/-! ## Prefixes -/

/-- The number that the four octets of an address make. -/
def addressValue (address : Text) : Nat :=
  (split '.' address).foldl (fun value octet => 256 * value + decimal octet) 0

theorem toNat_shift_or (result : BitVec 32) {octet : Nat} (room : result.toNat < 16777216)
    (small : octet ≤ 255) :
    (result <<< 8 ||| BitVec.ofNat 32 octet).toNat = 256 * result.toNat + octet := by
  have joined := Nat.two_pow_add_eq_or_of_lt (i := 8) (b := octet) (by omega) result.toNat
  simp only [BitVec.toNat_or, BitVec.toNat_shiftLeft, BitVec.toNat_ofNat, Nat.shiftLeft_eq]
  rw [Nat.mod_eq_of_lt (by omega), Nat.mod_eq_of_lt (a := octet) (by omega), Nat.mul_comm]
  exact joined.symm

theorem ipv4Number_value (valid : isIPv4 text = true) :
    ∃ number, ipv4Number text = some number ∧ number.toNat = addressValue text := by
  obtain ⟨four, octets⟩ := Bool.and_eq_true_iff.mp valid
  have small (octet : Text) (listed : octet ∈ split '.' text) : decimal octet ≤ 255 := by
    have checked := List.all_eq_true.mp octets octet listed
    rw [isOctet, Bool.and_eq_true, Bool.and_eq_true] at checked
    exact (of_decide_eq_true checked.1.2).2.2
  refine ⟨_, by rw [ipv4Number, if_neg (not_not.mpr (isIP_eq_four.mpr valid))], ?_⟩
  rw [addressValue]
  generalize split '.' text = parts at four small
  obtain ⟨a, b, c, d, rfl⟩ := List.length_eq_four.mp (of_decide_eq_true four)
  have smallA := small a (by simp)
  have smallB := small b (by simp)
  have smallC := small c (by simp)
  have smallD := small d (by simp)
  have first := toNat_shift_or 0 (by decide) smallA
  simp only [List.foldl_cons, List.foldl_nil]
  generalize (0 : BitVec 32) <<< 8 ||| BitVec.ofNat 32 (decimal a) = one at first ⊢
  have zero : (0 : BitVec 32).toNat = 0 := rfl
  have second := toNat_shift_or one (by omega) smallB
  generalize one <<< 8 ||| BitVec.ofNat 32 (decimal b) = two at second ⊢
  have third := toNat_shift_or two (by omega) smallC
  generalize two <<< 8 ||| BitVec.ofNat 32 (decimal c) = three at third ⊢
  rw [toNat_shift_or three (by omega) smallD]
  omega

/-- The mask of a prefix. -/
def prefixMask (bits : Nat) : BitVec 32 := if bits = 0 then 0 else 0xffffffff#32 <<< (32 - bits)

theorem getMsbD_prefixMask {bits i : Nat} (range : bits ≤ 32) :
    (prefixMask bits).getMsbD i = decide (i < bits) := by
  have ones : 0xffffffff#32 = BitVec.allOnes 32 := by decide
  unfold prefixMask
  split
  · simp [*]
  · rw [ones, BitVec.getMsbD_shiftLeft, BitVec.getMsbD_allOnes, decide_eq_decide]
    omega

theorem and_prefixMask {bits : Nat} (range : bits ≤ 32) (x y : BitVec 32) :
    x &&& prefixMask bits = y &&& prefixMask bits ↔ ∀ i < bits, x.getMsbD i = y.getMsbD i := by
  constructor
  · intro same i inside
    have bit := congrArg (fun word => word.getMsbD i) same
    simpa [BitVec.getMsbD_and, getMsbD_prefixMask range, inside] using bit
  · intro same
    refine BitVec.eq_of_getMsbD_eq fun i _ => ?_
    rw [BitVec.getMsbD_and, BitVec.getMsbD_and, getMsbD_prefixMask range]
    by_cases inside : i < bits
    · rw [same i inside]
    · simp [inside]

theorem getMsbD_eq {number : BitVec 32} {i : Nat} (inside : i < 32) :
    number.getMsbD i = number.toNat.testBit (31 - i) := by
  simp [BitVec.getMsbD, inside, BitVec.getLsbD]

theorem addressMatches_prefix {network digits : Text} {bits : Nat} (valid : isIPv4 network = true)
    (prefix_ : prefixNumber digits = some bits) (range : bits ≤ 32) (address : Text) :
    addressMatches address (network ++ '/' :: digits) = true ↔
      isIPv4 address = true ∧ ∀ i < bits,
        (addressValue address).testBit (31 - i) = (addressValue network).testBit (31 - i) := by
  obtain ⟨networkNumber, numbered, value⟩ := ipv4Number_value valid
  have normal : normalizeIp (some (network ++ '/' :: digits)) = network ++ '/' :: digits := by
    cases network with
    | nil => exact absurd valid (by decide)
    | cons c rest =>
      have first := isIPv4_chars valid (c := c) List.mem_cons_self
      have bracket : c ≠ '[' := by
        rintro rfl
        exact absurd first (by decide)
      have colon : ':' ≠ c := by
        rintro rfl
        exact absurd first (by decide)
      rw [List.cons_append, normalizeIp_bare bracket]
      simp [mappedPrefix, colon]
  have parts : split '/' (network ++ '/' :: digits) = [network, digits] := by
    have left : '/' ∉ network := (isIPv4_plain valid).not_mem (by decide)
    have right : '/' ∉ digits := by
      intro member
      unfold prefixNumber at prefix_
      split at prefix_
      · rename_i shaped
        exact absurd (List.all_eq_true.mp shaped.2 _ member) (by decide)
      · cases prefix_
    rw [split_append, split_single left, split_single right]
    rfl
  simp only [addressMatches, normal, parts, numbered, prefix_]
  by_cases ipv4 : isIPv4 address = true
  · obtain ⟨number, found, same⟩ := ipv4Number_value ipv4
    have masked := and_prefixMask range number networkNumber
    rw [prefixMask] at masked
    simp only [found, Nat.not_lt.mpr range, if_false, decide_eq_true_eq, masked, ipv4, true_and]
    refine forall_congr' fun i => imp_congr_right fun inside => ?_
    rw [getMsbD_eq (by omega), getMsbD_eq (by omega), same, value]
  · have absent : ipv4Number address = none := by
      rw [ipv4Number, if_pos fun four => ipv4 (isIP_eq_four.mp four)]
    simp [absent, ipv4]

/-! ## What the game server sees -/

/-- The address under which the game server sees a client of the gateway. -/
def clientIp (gateway : Option Text) (headers : Headers) (allowed : String → Bool)
    (observed : Text) (trustedProxies : List Text) : Text :=
  resolveClientIp gateway
    ((filterRequestHeaders headers allowed (some observed)).lookup "x-forwarded-for") trustedProxies

theorem clientIp_chain {observed : Text} (valid : isIP observed ≠ 0) (headers : Headers)
    (allowed : String → Bool) :
    ∃ front, forwardedChain
        ((filterRequestHeaders headers allowed (some observed)).lookup "x-forwarded-for") =
      front ++ [normalizeIp (some observed)].filter fun value => isIP value ≠ 0 := by
  have plain := isIP_plain valid
  simp only [filterRequestHeaders, normalizeRemoteAddress_plain plain (isIP_nonempty valid),
    lookup_setHeader]
  exact forwardedChain_join plain _

theorem clientIp_unmapped {gateway : Option Text} {trustedProxies : List Text} {observed : Text}
    (ours : trusted trustedProxies (normalizeIp gateway) = true) (valid : isIP observed ≠ 0)
    (stranger : trusted trustedProxies (unmapped observed) = false)
    (mapped : mappedPrefix.isPrefixOf observed = true → isIP (observed.drop 7) = 4)
    (headers : Headers) (allowed : String → Bool) :
    clientIp gateway headers allowed observed trustedProxies = unmapped observed := by
  obtain ⟨front, chain⟩ := clientIp_chain valid headers allowed
  have normal : normalizeIp (some observed) = unmapped observed := by
    rw [normalizeIp_plain (isIP_plain valid) (isIP_nonempty valid), unmapped]
    by_cases cut : mappedPrefix.isPrefixOf observed = true
    · rw [if_pos cut, if_pos ⟨cut, mapped cut⟩]
    · rw [if_neg cut, if_neg fun both => cut both.1]
  have kept : isIP (unmapped observed) ≠ 0 := by
    unfold unmapped
    split
    · rename_i both
      rw [both.2]
      decide
    · exact valid
  have last : forwardedChain
      ((filterRequestHeaders headers allowed (some observed)).lookup "x-forwarded-for") =
        front ++ unmapped observed :: [] := by
    rw [chain, normal]
    simp [kept]
  exact resolveClientIp_last ours last stranger (by simp)

theorem clientIp_cut {gateway : Option Text} {trustedProxies : List Text} {observed : Text}
    (ours : trusted trustedProxies (normalizeIp gateway) = true) (valid : isIP observed ≠ 0)
    (stranger : trusted trustedProxies (unmapped observed) = false)
    (cut : mappedPrefix.isPrefixOf observed = true) (unfit : isIP (observed.drop 7) ≠ 4)
    (allowed : String → Bool) :
    clientIp gateway [] allowed observed trustedProxies ≠ unmapped observed := by
  have plain := isIP_plain valid
  have whole : unmapped observed = observed := by rw [unmapped, if_neg fun both => unfit both.2]
  have peer : normalizeIp gateway ≠ observed := by
    intro same
    rw [whole, ← same, ours] at stranger
    cases stranger
  have shorter : observed.drop 7 ≠ observed := by
    intro same
    have length := congrArg List.length same
    have filled := List.length_pos_of_ne_nil (isIP_nonempty valid)
    rw [List.length_drop] at length
    omega
  have chain : forwardedChain
      ((filterRequestHeaders [] allowed (some observed)).lookup "x-forwarded-for") =
        [observed.drop 7].filter fun value => isIP value ≠ 0 := by
    simp only [filterRequestHeaders, normalizeRemoteAddress_plain plain (isIP_nonempty valid),
      lookup_setHeader]
    have single := forwardedChain_single plain
    rw [normalizeIp_plain plain (isIP_nonempty valid), if_pos cut] at single
    exact single
  rw [whole, clientIp, resolveClientIp, chain]
  simp only [ours, not_true, if_false]
  cases found : (([observed.drop 7].filter fun value => decide (isIP value ≠ 0)).reverse.find?
      fun address => !trusted trustedProxies address) with
  | none => exact peer
  | some address =>
    have listed := List.mem_of_find?_eq_some found
    have same : address = observed.drop 7 := by
      simpa using (List.mem_filter.mp (List.mem_reverse.mp listed)).1
    rw [Option.getD_some, same]
    exact shorter

end SwitchRemake.Gateway.ClientAddress
