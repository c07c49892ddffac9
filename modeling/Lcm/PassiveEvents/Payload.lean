import Lcm.Text.JsNumber
import Lcm.Text.Uuid
import Mathlib.Data.List.Sort

namespace Lcm.PassiveEvents
open Text

/-- The members of a JSON object in their order. -/
abbrev JsonObject (Number : Type) := List (JsString × Json Number)

/-- What the code relies on outside itself: the numbers and the text order of the runtime, and the
object that the database gives back for a stored one. -/
structure PayloadPlatform (Number : Type) where
  numbers : JsNumbers Number
  localeCompare : JsString → JsString → Ordering
  jsonb : JsonObject Number → JsonObject Number

section CanonicalJson

variable {Number : Type} (platform : PayloadPlatform Number)

/-- The entries of an object in the text order of their keys; equal keys keep their order. -/
def sortEntries {Value : Type} (entries : List (JsString × Value)) : List (JsString × Value) :=
  entries.insertionSort fun left right => platform.localeCompare left.1 right.1 ≠ .gt

/-- The canonical text of an object from the canonical texts of its members. -/
def objectText (entries : List (JsString × JsString)) : JsString :=
  123 :: join (js ",") ((sortEntries platform entries).map fun (key, text) =>
    Json.printString key ++ js ":" ++ text) ++ [125]

mutual

def canonicalJson : Json Number → JsString
  | .array elements => js "[" ++ join (js ",") (canonicalElements elements) ++ js "]"
  | .object members => objectText platform (canonicalMembers members)
  | .null => js "null"
  | .boolean true => js "true"
  | .boolean false => js "false"
  | .number value => platform.numbers.format.print value
  | .string units => Json.printString units

def canonicalElements : List (Json Number) → List JsString
  | [] => []
  | element :: rest => canonicalJson element :: canonicalElements rest

def canonicalMembers : List (JsString × Json Number) → List (JsString × JsString)
  | [] => []
  | (key, value) :: rest => (key, canonicalJson value) :: canonicalMembers rest

end

/-- A text has the shape of a template in which a zero stands for any digit. -/
def hasShape (template text : JsString) : Bool :=
  template.length == text.length && (template.zip text).all fun (expected, unit) =>
    if expected == 48 then Json.isDigit unit else expected == unit

/-- The fraction and the end of a time of day, padded to microseconds. -/
def canonicalFraction (rest : JsString) : Option JsString :=
  match rest with
  | 46 :: units =>
      let digits := units.takeWhile Json.isDigit
      if 1 ≤ digits.length ∧ digits.length ≤ 6 ∧ units.drop digits.length ∈ [[], [90]] then
        some (digits ++ List.replicate (6 - digits.length) 48)
      else none
  | _ => if rest ∈ [[], [90]] then some (List.replicate 6 48) else none

/-- The text of one instant in the one form that SQLite and portable text share. -/
def canonicalInstantText (text : JsString) : JsString :=
  let date := text.take 10
  let time := (text.drop 11).take 8
  if hasShape (js "0000-00-00") date && (text[10]?.any fun unit => unit ∈ [84, 32]) &&
      hasShape (js "00:00:00") time then
    match canonicalFraction (text.drop 19) with
    | some fraction => date ++ js "T" ++ time ++ js "." ++ fraction ++ js "Z"
    | none => text
  else text

def canonicalInstant : Json Number → Json Number
  | .string text => .string (canonicalInstantText text)
  | value => value

/-- The part of a payload that counts in a comparison with another payload. -/
def comparablePayload (payload other : JsonObject Number) : JsonObject Number :=
  (payload.filter fun (key, _) =>
    key ≠ js "previousEventId" || key ∈ other.map Prod.fst).map fun (key, value) =>
      (key, if key = js "createdAt" then canonicalInstant value else value)

/-- Two payloads describe one event up to the form of its time and a missing local row id. -/
def samePassiveEventPayload (left right : JsonObject Number) : Bool :=
  canonicalJson platform (.object (comparablePayload left right)) ==
    canonicalJson platform (.object (comparablePayload right left))

mutual

/-- The database stores a JSON value whose texts and numbers it can represent. -/
def isPostgreSqlJson : Json Number → Bool
  | .null | .boolean _ => true
  | .string units => isPostgreSqlText units
  | .number value => platform.numbers.isFinite value
  | .array elements => arePostgreSqlElements elements
  | .object members => arePostgreSqlMembers members

def arePostgreSqlElements : List (Json Number) → Bool
  | [] => true
  | element :: rest => isPostgreSqlJson element && arePostgreSqlElements rest

def arePostgreSqlMembers : List (JsString × Json Number) → Bool
  | [] => true
  | (key, value) :: rest =>
      isPostgreSqlText key && isPostgreSqlJson value && arePostgreSqlMembers rest

end

def isAsciiLetter (unit : UInt16) : Bool := 97 ≤ toLowerAscii unit && toLowerAscii unit ≤ 122

/-- What the database and the runtime promise: a stored object keeps its members up to their
order, and the text order is total and tells words of letters apart. -/
structure PayloadPlatform.Lawful (platform : PayloadPlatform Number) : Prop where
  jsonb : ∀ members, arePostgreSqlMembers platform members = true →
    Json.Printable platform.numbers.format (.object members) →
      (platform.jsonb members).Perm members
  total : ∀ first second, platform.localeCompare first second ≠ .gt ∨
    platform.localeCompare second first ≠ .gt
  transitive : ∀ first second third, platform.localeCompare first second ≠ .gt →
    platform.localeCompare second third ≠ .gt → platform.localeCompare first third ≠ .gt
  letters : ∀ first second, first.all isAsciiLetter = true → second.all isAsciiLetter = true →
    platform.localeCompare first second ≠ .gt → platform.localeCompare second first ≠ .gt →
      first = second

variable {platform}

/-- Two orders of the same entries sort alike when their keys are distinct words. -/
theorem sortEntries_perm {Value : Type} (lawful : platform.Lawful)
    {left right : List (JsString × Value)} (same : left.Perm right)
    (distinct : (left.map Prod.fst).Nodup)
    (letters : ∀ entry ∈ left, entry.1.all isAsciiLetter = true) :
    sortEntries platform left = sortEntries platform right := by
  have total : Std.Total fun first second : JsString × Value =>
      platform.localeCompare first.1 second.1 ≠ .gt :=
    ⟨fun first second => lawful.total first.1 second.1⟩
  have transitive : IsTrans (JsString × Value) fun first second =>
      platform.localeCompare first.1 second.1 ≠ .gt :=
    ⟨fun first second third => lawful.transitive first.1 second.1 third.1⟩
  have leftPerm : (sortEntries platform left).Perm left := List.perm_insertionSort _ _
  have rightPerm : (sortEntries platform right).Perm right := List.perm_insertionSort _ _
  apply List.Perm.eq_of_pairwise _ (List.pairwise_insertionSort _ left)
    (List.pairwise_insertionSort _ right) (leftPerm.trans (same.trans rightPerm.symm))
  intro first second firstIn secondIn before after
  replace firstIn := leftPerm.mem_iff.mp firstIn
  replace secondIn := same.mem_iff.mpr (rightPerm.mem_iff.mp secondIn)
  apply List.inj_on_of_nodup_map distinct firstIn secondIn
  exact lawful.letters first.1 second.1 (letters first firstIn) (letters second secondIn) before after

theorem canonicalMembers_eq (members : JsonObject Number) :
    canonicalMembers platform members =
      members.map fun member => (member.1, canonicalJson platform member.2) := by
  induction members with
  | nil => rw [canonicalMembers, List.map_nil]
  | cons member members ih => rw [canonicalMembers, ih, List.map_cons]

/-- A payload is the same as any other order of its members. -/
theorem samePassiveEventPayload_perm (lawful : platform.Lawful) {left right : JsonObject Number}
    (same : left.Perm right) (distinct : (left.map Prod.fst).Nodup)
    (letters : ∀ member ∈ left, member.1.all isAsciiLetter = true) :
    samePassiveEventPayload platform left right = true := by
  have whole : ∀ payload other : JsonObject Number, payload.Perm other →
      comparablePayload payload other = payload.map fun member =>
        (member.1, if member.1 = js "createdAt" then canonicalInstant member.2 else member.2) := by
    intro payload other order
    rw [comparablePayload, List.filter_eq_self.mpr]
    intro member inside
    by_cases previous : member.1 = js "previousEventId"
    · have known := List.mem_map_of_mem (order.mem_iff.mp inside) (f := Prod.fst)
      simpa [previous] using known
    · simp [previous]
  rw [samePassiveEventPayload, beq_iff_eq, whole left right same, whole right left same.symm,
    canonicalJson, canonicalJson, objectText, objectText, canonicalMembers_eq, canonicalMembers_eq,
    List.map_map, List.map_map, sortEntries_perm lawful (same.map _)]
  · rw [List.map_map]
    exact distinct
  · intro entry inside
    obtain ⟨member, stored, rfl⟩ := List.mem_map.mp inside
    exact letters member stored

end CanonicalJson

end Lcm.PassiveEvents
