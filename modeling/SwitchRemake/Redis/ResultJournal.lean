import SwitchRemake.Lib.KeyedList
import SwitchRemake.Shared.ResultJson
import Mathlib.Data.String.Basic

/-!
# The journal of results

`redis/result-journal.ts`. The directory is shared by all workers; each function here is one
operation on it or what a worker computes from one. Temporary files have names of their own, which
nobody lists, and are left out.
-/

namespace SwitchRemake.Redis
open Lib

def maxResultJournalBytes : Nat := 256 * 1024

structure File where
  name : String
  text : String
  deriving DecidableEq

abbrev Directory := KeyedList File.name

def fits (text : String) : Bool := text.utf8ByteSize ≤ maxResultJournalBytes

namespace ResultJournal

section
variable (hash : String → String)

def nameOf (matchId : MatchId) : String := hash matchId ++ ".json"

variable (K : Type) [JsNumber K] [JsonNumber K]

def payloadOf (result : MatchResultMessage) : String :=
  String.ofList (Json.stringify (result.toJson : Json K))

def serialized (result : MatchResultMessage) : String :=
  String.ofList (Json.stringify
    (.obj [("checksum", .str (hash (payloadOf K result))), ("payload", .str (payloadOf K result))] :
      Json K))

/-- What `append` checks before it touches the directory. -/
def appendable (result : MatchResultMessage) : Bool :=
  fits (payloadOf K result) && fits (serialized hash K result)

end

inductive ReadFailure where
  | missing
  | oversized
  deriving DecidableEq

def read (name : String) (files : Directory) : Except ReadFailure String :=
  match files.get? name with
  | none => .error .missing
  | some file => if fits file.text then .ok file.text else .error .oversized

def names (files : Directory) : List String := files.entries.map File.name

/-- The names after the cursor first, then those before it. -/
def batch (limit : Nat) (cursor : String) (names : List String) : List String :=
  let sorted := names.mergeSort (· ≤ ·)
  let start := (sorted.findIdx? fun name => cursor < name).getD 0
  (sorted.drop start ++ sorted.take start).take limit

/-- An entry that was read: the id it is kept under, and all of the result. -/
structure Entry (K : Type) where
  matchId : MatchId
  result : Json K

variable {K : Type} [JsNumber K] [JsonNumber K] {hash : String → String}

omit [JsNumber K] in
/-- None for a corrupt entry. -/
def entryOf (hash : String → String) (name raw : String) : Option (Entry K) := do
  let envelope : Json K ← Json.parse raw
  let some (.str checksum) := envelope.member? "checksum" | none
  let some (.str payload) := envelope.member? "payload" | none
  guard (checksum = hash payload)
  let result : Json K ← Json.parse payload
  let some (.str matchId) := result.member? "matchId" | none
  guard (matchId ≠ "" ∧ name = nameOf hash matchId)
  return { matchId, result }

/-- What `append` publishes `entries` reads back. -/
theorem entryOf_serialized (result : MatchResultMessage) (named : result.matchId ≠ "") :
    (entryOf hash (nameOf hash result.matchId) (serialized hash K result) : Option (Entry K)) =
      some ⟨result.matchId, Json.stored result.toJson⟩ := by
  unfold entryOf serialized
  rw [Json.parse_stringify]
  simp [Json.stored, Json.storedMembers, Json.member?, payloadOf, Json.parse_stringify,
    MatchResultMessage.toJson, named]

/-! ## Sizes -/

theorem utf8ByteSize_ofList_le (cs : List Char) :
    (String.ofList cs).utf8ByteSize ≤ 4 * cs.length := by
  induction cs with
  | nil => simp
  | cons c rest ih =>
    have one := Char.utf8Size_le_four c
    rw [String.ofList_cons]
    simp
    omega

theorem length_escape_le (c : Char) : (Json.escape c).length ≤ 6 := by
  unfold Json.escape
  split <;> try simp
  split <;> simp

theorem length_quote_le (s : String) : (Json.quote s).length ≤ 2 + 6 * s.toList.length := by
  have inner : ∀ cs : List Char, (cs.flatMap Json.escape).length ≤ 6 * cs.length := by
    intro cs
    induction cs with
    | nil => simp
    | cons c rest ih =>
      have one := length_escape_le c
      simp only [List.flatMap_cons, List.length_append, List.length_cons]
      omega
  have text := inner s.toList
  simp only [Json.quote, List.length_cons, List.length_append, List.length_nil]
  omega

theorem fits_ofList {cs : List Char} (short : cs.length ≤ 65536) :
    fits (String.ofList cs) = true := by
  have size := utf8ByteSize_ofList_le cs
  apply decide_eq_true
  rw [maxResultJournalBytes]
  omega

/-- No check of `append` stops a result whose text and digest are short. -/
theorem appendable_of_short {result : MatchResultMessage}
    (payload : (Json.stringify (result.toJson : Json K)).length ≤ 5000)
    (digest : (hash (payloadOf K result)).toList.length ≤ 5000) :
    fits (serialized hash K result) = true ∧ appendable hash K result = true := by
  have serializes : fits (serialized hash K result) = true := by
    have first := length_quote_le (hash (payloadOf K result))
    have second := length_quote_le (payloadOf K result)
    rw [payloadOf, String.toList_ofList] at second
    have names : (Json.quote "checksum").length = 10 ∧ (Json.quote "payload").length = 9 := by
      decide +kernel
    apply fits_ofList
    simp only [payloadOf] at first second digest ⊢
    simp only [Json.stringify, Json.stringifyMembers, List.length_cons, List.length_append, names.1,
      names.2, List.length_nil]
    omega
  refine ⟨serializes, ?_⟩
  rw [appendable, serializes, Bool.and_true]
  exact fits_ofList (by omega)

end ResultJournal
end SwitchRemake.Redis
