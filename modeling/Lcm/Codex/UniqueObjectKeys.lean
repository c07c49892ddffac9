import Lcm.Codex.NativeReader
import Lcm.Library.JsonNames

namespace Lcm.Codex
open Text

section Scanner

variable {Number : Type} (format : Json.NumberFormat Number)

/-- A string token behind its opening quote, and the text behind the token. -/
def stringToken : JsString → JsString × JsString
  | [] => ([], [])
  | 34 :: rest => ([34], rest)
  | [92] => ([92], [])
  | 92 :: escaped :: rest => (92 :: escaped :: (stringToken rest).1, (stringToken rest).2)
  | unit :: rest => (unit :: (stringToken rest).1, (stringToken rest).2)

theorem stringToken_length (text : JsString) : (stringToken text).2.length ≤ text.length := by
  fun_induction stringToken text <;> simp_all <;> omega

/-- The name that a token spells. -/
def objectKey (token : JsString) : Option JsString :=
  match Json.parse format token with
  | some (.string key) => some key
  | _ => none

/-- The open containers from the inside out. An object carries the keys that were seen in it. -/
abbrev Containers := List (Option (List JsString))

def scanObjectKeys : Containers → JsString → Except TranscriptQuarantineReason Unit
  | _, [] => .ok ()
  | containers, 123 :: rest => scanObjectKeys (some [] :: containers) rest
  | containers, 91 :: rest => scanObjectKeys (none :: containers) rest
  | containers, 125 :: rest => scanObjectKeys containers.tail rest
  | containers, 93 :: rest => scanObjectKeys containers.tail rest
  | containers, 34 :: rest =>
      match containers, ((stringToken rest).2.dropWhile isWhiteSpace).head? with
      | some keys :: outer, some 58 =>
          match objectKey format (34 :: (stringToken rest).1) with
          | none => .error .malformedJson
          | some key =>
              if keys.contains key then .error .malformedJson
              else scanObjectKeys (some (key :: keys) :: outer) (stringToken rest).2
      | _, _ => scanObjectKeys containers (stringToken rest).2
  | containers, _ :: rest => scanObjectKeys containers rest
termination_by _ text => text.length
decreasing_by all_goals simp only [List.length_cons]; have shorter := stringToken_length rest; omega

def assertUniqueJsonObjectKeys (text : JsString) : Except TranscriptQuarantineReason Unit :=
  scanObjectKeys format [] text

end Scanner

section Tokens

variable {Number : Type} {format : Json.NumberFormat Number}

theorem hexValue_plain {unit : UInt16} {value : Nat} (hex : Json.hexValue unit = some value) :
    unit ≠ 34 ∧ unit ≠ 92 := by
  constructor
  · rintro rfl
    rw [show Json.hexValue 34 = none from rfl] at hex
    cases hex
  · rintro rfl
    rw [show Json.hexValue 92 = none from rfl] at hex
    cases hex

theorem stringToken_plain {unit : UInt16} (quote : unit ≠ 34) (backslash : unit ≠ 92) (rest : JsString) :
    stringToken (unit :: rest) = (unit :: (stringToken rest).1, (stringToken rest).2) :=
  stringToken.eq_5 unit rest quote (fun same _ => absurd same backslash) fun _ _ same => absurd same backslash

theorem readEscape_plain {first second third fourth unit : UInt16}
    (read : Json.readEscape first second third fourth = some unit) :
    (first ≠ 34 ∧ first ≠ 92) ∧ (second ≠ 34 ∧ second ≠ 92) ∧ (third ≠ 34 ∧ third ≠ 92) ∧
      fourth ≠ 34 ∧ fourth ≠ 92 := by
  simp only [Json.readEscape, Option.bind_eq_bind, Option.bind_eq_some_iff] at read
  obtain ⟨one, first, two, second, three, third, four, fourth, _⟩ := read
  exact ⟨hexValue_plain first, hexValue_plain second, hexValue_plain third, hexValue_plain fourth⟩

/-- A string literal of the grammar is one token, and the token alone spells the same string. -/
theorem stringToken_parse {text units rest : JsString} (read : Json.parseUnits text = some (units, rest)) :
    (stringToken text).2 = rest ∧ Json.parseUnits (stringToken text).1 = some (units, []) := by
  fun_induction Json.parseUnits text generalizing units rest with
  | case1 => cases read
  | case2 text =>
      cases read
      exact ⟨rfl, rfl⟩
  | case3 first second third fourth text ih =>
      simp only [Option.bind_eq_bind, Option.bind_eq_some_iff] at read
      obtain ⟨unit, escape, ⟨tail, behind⟩, more, same⟩ := read
      cases same
      obtain ⟨one, two, three, four⟩ := readEscape_plain escape
      obtain ⟨ends, spells⟩ := ih more
      rw [stringToken, stringToken_plain one.1 one.2, stringToken_plain two.1 two.2,
        stringToken_plain three.1 three.2, stringToken_plain four.1 four.2]
      · exact ⟨ends, by simp [Json.parseUnits, escape, spells]⟩
  | case4 letter text other ih =>
      simp only [Option.bind_eq_bind, Option.bind_eq_some_iff] at read
      obtain ⟨unit, short, ⟨tail, behind⟩, more, same⟩ := read
      cases same
      obtain ⟨ends, spells⟩ := ih more
      have escape : letter ≠ 117 := by
        rintro rfl
        cases short
      rw [stringToken]
      refine ⟨ends, ?_⟩
      rw [Json.parseUnits.eq_4 letter _ fun _ _ _ _ _ same => absurd same escape, short, spells]
      rfl
  | case5 first text quote escape short ih =>
      simp only [Option.bind_eq_bind, Option.bind_eq_some_iff] at read
      obtain ⟨_, plain, ⟨tail, behind⟩, more, same⟩ := read
      cases same
      obtain ⟨visible, backslash⟩ : 32 ≤ first ∧ first ≠ 92 := by
        by_contra invalid
        simp only [guard, invalid, if_false] at plain
        cases plain
      obtain ⟨ends, spells⟩ := ih more
      rw [stringToken_plain quote backslash]
      refine ⟨ends, ?_⟩
      rw [Json.parseUnits_plain visible quote backslash, spells]
      rfl

/-- A string token of the grammar spells its key. -/
theorem objectKey_token {text key rest : JsString} (read : Json.parseUnits text = some (key, rest)) :
    objectKey format (34 :: (stringToken text).1) = some key := by
  have spells := (stringToken_parse read).2
  have whole : Json.parse format (34 :: (stringToken text).1) = some (.string key) := by
    rw [Json.parse, Json.parseValue, Json.skipSpace_cons rfl]
    simp only [spells, Option.bind_eq_bind, Option.bind_some]
    rfl
  rw [objectKey, whole]

end Tokens

section Steps

variable {Number : Type} {format : Json.NumberFormat Number}

/-- Units that neither open nor close anything are passed over. -/
theorem scan_plain {unit : UInt16} (plain : unit ∉ ([34, 91, 93, 123, 125] : List UInt16))
    (containers : Containers) (rest : JsString) :
    scanObjectKeys format containers (unit :: rest) = scanObjectKeys format containers rest := by
  simp only [List.mem_cons, List.not_mem_nil, or_false, not_or] at plain
  rw [scanObjectKeys] <;> simp [plain]

theorem scan_append {first : JsString} (plain : ∀ unit ∈ first, unit ∉ ([34, 91, 93, 123, 125] : List UInt16))
    (containers : Containers) (rest : JsString) :
    scanObjectKeys format containers (first ++ rest) = scanObjectKeys format containers rest := by
  induction first with
  | nil => rw [List.nil_append]
  | cons unit first ih =>
      obtain ⟨head, tail⟩ := List.forall_mem_cons.mp plain
      rw [List.cons_append, scan_plain head, ih tail]

theorem isSpace_white {unit : UInt16} (space : Json.isSpace unit = true) :
    isWhiteSpace unit = true ∧ unit ∉ ([34, 91, 93, 123, 125] : List UInt16) := by
  simp only [Json.isSpace, Bool.or_eq_true, beq_iff_eq] at space
  rcases space with ((rfl | rfl) | rfl) | rfl <;> exact ⟨by decide, by decide⟩

theorem scan_skipSpace (containers : Containers) (text : JsString) :
    scanObjectKeys format containers (Json.skipSpace text) = scanObjectKeys format containers text := by
  have parts : text.takeWhile Json.isSpace ++ Json.skipSpace text = text := List.takeWhile_append_dropWhile
  have passed := @scan_append _ format (text.takeWhile Json.isSpace)
    (fun unit inside => (isSpace_white (List.mem_takeWhile_imp inside)).2) containers (Json.skipSpace text)
  rw [parts] at passed
  exact passed.symm

/-- The white space of the grammar is white space of the language. -/
theorem dropWhile_skipSpace (text : JsString) :
    (Json.skipSpace text).dropWhile isWhiteSpace = text.dropWhile isWhiteSpace := by
  induction text with
  | nil => rfl
  | cons unit rest ih =>
      rw [Json.skipSpace, List.dropWhile_cons]
      split
      · next space => rw [List.dropWhile_cons_of_pos (isSpace_white space).1, ← ih, Json.skipSpace]
      · rfl

/-- What stands behind a key is a colon, and behind a value it is not. -/
theorem following_cons {text rest : JsString} {unit : UInt16} (behind : Json.skipSpace text = unit :: rest)
    (visible : isWhiteSpace unit = false) : (text.dropWhile isWhiteSpace).head? = some unit := by
  rw [← dropWhile_skipSpace, behind, List.dropWhile_cons_of_neg (by simp [visible]), List.head?_cons]

theorem scan_key {text key rest : JsString} {keys : List JsString} {outer : Containers}
    (read : Json.parseUnits text = some (key, rest)) (colon : (rest.dropWhile isWhiteSpace).head? = some 58) :
    scanObjectKeys format (some keys :: outer) (34 :: text) =
      if keys.contains key then .error .malformedJson
      else scanObjectKeys format (some (key :: keys) :: outer) rest := by
  have behind := (stringToken_parse read).1
  rw [scanObjectKeys, objectKey_token read, behind]
  rw [behind]
  exact colon

theorem scan_value {text units rest : JsString} {containers : Containers}
    (read : Json.parseUnits text = some (units, rest)) (other : (rest.dropWhile isWhiteSpace).head? ≠ some 58) :
    scanObjectKeys format containers (34 :: text) = scanObjectKeys format containers rest := by
  have behind := (stringToken_parse read).1
  rw [scanObjectKeys, behind]
  intro keys outer _ colon
  rw [behind] at colon
  exact other colon

end Steps

section Agreement

variable {Number : Type} {format : Json.NumberFormat Number}

/-- A scan fails where something is repeated, and else has the result of the scan of the rest. -/
structure Settles (repeated : Prop) (result rest : Except TranscriptQuarantineReason Unit) : Prop where
  fails : repeated → result = .error .malformedJson
  passes : ¬ repeated → result = rest

namespace Settles

variable {first second : Prop} {result middle rest : Except TranscriptQuarantineReason Unit}

theorem of_eq (same : result = rest) : Settles False result rest := ⟨False.elim, fun _ => same⟩

theorem congr (settles : Settles first result rest) (same : second ↔ first) : Settles second result rest :=
  ⟨fun repeated => settles.fails (same.mp repeated), fun none => settles.passes (mt same.mpr none)⟩

theorem trans (before : Settles first result middle) (after : Settles second middle rest) :
    Settles (first ∨ second) result rest := by
  constructor
  · intro repeated
    by_cases early : first
    · exact before.fails early
    · exact (before.passes early).trans (after.fails (repeated.resolve_left early))
  · intro none
    rw [not_or] at none
    exact (before.passes none.1).trans (after.passes none.2)

end Settles

/-- Members repeat a name of the keys before them, a name of their own, or names further inside. -/
def RepeatsAfter (keys : List JsString) (members : List (JsString × Json Number)) : Prop :=
  match members with
  | [] => False
  | member :: rest => member.1 ∈ keys ∨ member.2.RepeatsNames ∨ RepeatsAfter (member.1 :: keys) rest

theorem repeatsAfter_iff (keys : List JsString) (members : List (JsString × Json Number)) :
    RepeatsAfter keys members ↔ (∃ member ∈ members, member.1 ∈ keys) ∨
      ¬ (members.map Prod.fst).Nodup ∨ ∃ member ∈ members, member.2.RepeatsNames := by
  induction members generalizing keys with
  | nil => simp [RepeatsAfter]
  | cons member rest ih =>
      rw [RepeatsAfter, ih, List.map_cons, List.nodup_cons, List.exists_mem_cons_iff,
        List.exists_mem_cons_iff]
      simp only [List.mem_cons]
      have own : (∃ other ∈ rest, other.1 = member.1 ∨ other.1 ∈ keys) ↔
          member.1 ∈ rest.map Prod.fst ∨ ∃ other ∈ rest, other.1 ∈ keys := by
        simp only [List.mem_map]
        constructor
        · rintro ⟨other, inside, same | used⟩
          · exact .inl ⟨other, inside, same⟩
          · exact .inr ⟨other, inside, used⟩
        · rintro (⟨other, inside, same⟩ | ⟨other, inside, used⟩)
          · exact ⟨other, inside, .inl same⟩
          · exact ⟨other, inside, .inr used⟩
      rw [own, not_and_or, not_not]
      exact iff_of_eq (by ac_rfl)

theorem repeatsAfter_object (members : List (JsString × Json Number)) :
    (Json.object members).RepeatsNames ↔ RepeatsAfter [] members := by
  rw [repeatsAfter_iff, Json.repeatsNames_object]
  simp

/-- A value is followed by no colon. -/
def EndsValue (rest : JsString) : Prop := (rest.dropWhile isWhiteSpace).head? ≠ some 58

theorem endsValue_cons {text rest : JsString} {unit : UInt16} (behind : Json.skipSpace text = unit :: rest)
    (closes : unit ∈ ([44, 93, 125] : List UInt16)) : EndsValue text := by
  have visible : ∀ unit ∈ ([44, 93, 125] : List UInt16), isWhiteSpace unit = false ∧ unit ≠ 58 := by decide
  rw [EndsValue, following_cons behind (visible unit closes).1]
  exact fun same => (visible unit closes).2 (Option.some.inj same)

theorem scan_number {text rest : JsString} {value : Json Number}
    (read : Json.parseNumber format text = some (value, rest)) (containers : Containers) :
    ¬ value.RepeatsNames ∧ scanObjectKeys format containers text = scanObjectKeys format containers rest := by
  simp only [Json.parseNumber, Option.bind_eq_bind, Option.bind_eq_some_iff] at read
  obtain ⟨_, _, same⟩ := read
  cases same
  have plain : ∀ unit ∈ text.takeWhile Json.isNumberUnit,
      unit ∉ ([34, 91, 93, 123, 125] : List UInt16) := by
    intro unit inside structural
    have digit := List.mem_takeWhile_imp inside
    have others : ∀ unit ∈ ([34, 91, 93, 123, 125] : List UInt16), Json.isNumberUnit unit = false := by decide
    rw [others unit structural] at digit
    cases digit
  have passed := @scan_append _ format _ plain containers (text.dropWhile Json.isNumberUnit)
  rw [List.takeWhile_append_dropWhile] at passed
  exact ⟨fun repeats => (by cases repeats), passed⟩

/-- The scan of what was read fails where a name is repeated, and else goes on behind it. -/
theorem scan_read (fuel : Nat) :
    (∀ text value rest containers, Json.readValue format fuel text = some (value, rest) → EndsValue rest →
      Settles value.RepeatsNames (scanObjectKeys format containers text)
        (scanObjectKeys format containers rest)) ∧
    (∀ text elements rest outer, Json.readElements format fuel text = some (elements, rest) →
      Settles (∃ element ∈ elements, element.RepeatsNames) (scanObjectKeys format (none :: outer) text)
        (scanObjectKeys format outer rest)) ∧
    (∀ text members rest keys outer, Json.readMembers format fuel text = some (members, rest) →
      Settles (RepeatsAfter keys members) (scanObjectKeys format (some keys :: outer) text)
        (scanObjectKeys format outer rest)) := by
  induction fuel with
  | zero =>
      refine ⟨?_, ?_, ?_⟩
      · intro _ _ _ _ read
        cases read
      · intro _ _ _ _ read
        cases read
      · intro _ _ _ _ _ read
        cases read
  | succ fuel ih =>
      obtain ⟨values, elements, members⟩ := ih
      refine ⟨?_, ?_, ?_⟩
      · intro text value rest containers read ends
        rw [Json.readValue] at read
        rw [← scan_skipSpace containers text]
        generalize Json.skipSpace text = body at *
        split at read
        · next behind =>
            cases read
            exact (Settles.of_eq (@scan_append _ _ [110, 117, 108, 108] (by decide) ..)).congr
              ⟨fun repeats => (by cases repeats), False.elim⟩
        · next behind =>
            cases read
            exact (Settles.of_eq (@scan_append _ _ [116, 114, 117, 101] (by decide) ..)).congr
              ⟨fun repeats => (by cases repeats), False.elim⟩
        · next behind =>
            cases read
            exact (Settles.of_eq (@scan_append _ _ [102, 97, 108, 115, 101] (by decide) ..)).congr
              ⟨fun repeats => (by cases repeats), False.elim⟩
        · next quoted =>
            simp only [Option.bind_eq_bind, Option.bind_eq_some_iff] at read
            obtain ⟨⟨units, behind⟩, token, same⟩ := read
            cases same
            exact (Settles.of_eq (scan_value token ends)).congr ⟨fun repeats => (by cases repeats), False.elim⟩
        · next inner =>
            rw [scanObjectKeys]
            split at read
            · next behind closed =>
                cases read
                rw [← scan_skipSpace _ inner, closed, scanObjectKeys]
                exact (Settles.of_eq rfl).congr (by simp [Json.repeatsNames_array])
            · simp only [Option.bind_eq_bind, Option.bind_eq_some_iff] at read
              obtain ⟨⟨listed, behind⟩, each, same⟩ := read
              cases same
              exact (elements _ _ _ containers each).congr Json.repeatsNames_array
        · next inner =>
            rw [scanObjectKeys]
            split at read
            · next behind closed =>
                cases read
                rw [← scan_skipSpace _ inner, closed, scanObjectKeys]
                exact (Settles.of_eq rfl).congr (by simp [Json.repeatsNames_object])
            · simp only [Option.bind_eq_bind, Option.bind_eq_some_iff] at read
              obtain ⟨⟨listed, behind⟩, each, same⟩ := read
              cases same
              exact (members _ _ _ _ containers each).congr (repeatsAfter_object _)
        · obtain ⟨single, passed⟩ := scan_number read containers
          exact (Settles.of_eq passed).congr ⟨single, False.elim⟩
      · intro text listed rest outer read
        simp only [Json.readElements, Option.bind_eq_bind, Option.bind_eq_some_iff] at read
        obtain ⟨⟨element, behind⟩, first, read⟩ := read
        dsimp only at read
        split at read
        · next following comma =>
            simp only [Option.bind_eq_some_iff] at read
            obtain ⟨⟨others, final⟩, each, same⟩ := read
            cases same
            have head := values _ _ _ (none :: outer) first (endsValue_cons comma (by decide))
            rw [← scan_skipSpace _ behind, comma, scan_plain (by decide)] at head
            exact (head.trans (elements _ _ _ outer each)).congr (List.exists_mem_cons_iff ..)
        · next following closed =>
            cases read
            have head := values _ _ _ (none :: outer) first (endsValue_cons closed (by decide))
            rw [← scan_skipSpace _ behind, closed, scanObjectKeys] at head
            exact head.congr (by simp)
        · cases read
      · intro text listed rest keys outer read
        rw [Json.readMembers] at read
        rw [← scan_skipSpace _ text]
        generalize Json.skipSpace text = body at *
        split at read
        · next quoted =>
            simp only [Option.bind_eq_bind, Option.bind_eq_some_iff] at read
            obtain ⟨⟨name, afterName⟩, token, read⟩ := read
            dsimp only at read
            split at read
            · next afterColon colon =>
                simp only [Option.bind_eq_some_iff] at read
                obtain ⟨⟨value, behind⟩, first, read⟩ := read
                have key := @scan_key _ format _ _ _ keys outer token (following_cons colon (by decide))
                have own : Settles (name ∈ keys) (scanObjectKeys format (some keys :: outer) (34 :: quoted))
                    (scanObjectKeys format (some (name :: keys) :: outer) afterColon) := by
                  rw [key, ← scan_skipSpace _ afterName, colon, scan_plain (by decide)]
                  constructor
                  · intro used
                    rw [if_pos (List.contains_iff_mem.mpr used)]
                  · intro fresh
                    rw [if_neg (mt List.contains_iff_mem.mp fresh)]
                dsimp only at read
                split at read
                · next following comma =>
                    simp only [Option.bind_eq_some_iff] at read
                    obtain ⟨⟨others, final⟩, each, same⟩ := read
                    cases same
                    have head := values _ _ _ (some (name :: keys) :: outer) first
                      (endsValue_cons comma (by decide))
                    rw [← scan_skipSpace _ behind, comma, scan_plain (by decide)] at head
                    exact own.trans (head.trans (members _ _ _ _ outer each))
                · next following closed =>
                    cases read
                    have head := values _ _ _ (some (name :: keys) :: outer) first
                      (endsValue_cons closed (by decide))
                    rw [← scan_skipSpace _ behind, closed, scanObjectKeys] at head
                    exact (own.trans head).congr (by simp [RepeatsAfter])
                · cases read
            · cases read
        · cases read

/-- A text is refused exactly when some object in it repeats a name. Nothing of an accepted text is lost. -/
theorem assertUniqueJsonObjectKeys_exact {text : JsString} {value : Json Number}
    (parsed : Json.parse format text = some value) :
    ∃ written, Json.read format text = some written ∧
      (assertUniqueJsonObjectKeys format text = .error .malformedJson ↔ written.RepeatsNames) ∧
      (assertUniqueJsonObjectKeys format text = .ok () ↔ ¬ written.RepeatsNames) ∧
      (assertUniqueJsonObjectKeys format text = .ok () → value = written) := by
  rw [Json.parse_eq_read, Option.map_eq_some_iff] at parsed
  obtain ⟨written, read, kept⟩ := parsed
  have settles : Settles written.RepeatsNames (assertUniqueJsonObjectKeys format text) (.ok ()) := by
    rw [Json.read] at read
    simp only [Option.bind_eq_bind, Option.bind_eq_some_iff] at read
    obtain ⟨⟨whole, rest⟩, first, _, blank, same⟩ := read
    cases same
    have ends : Json.skipSpace rest = [] := by
      by_contra more
      simp only [guard, more, if_false] at blank
      cases blank
    have last : EndsValue rest := by
      rw [EndsValue, ← dropWhile_skipSpace, ends]
      rintro ⟨⟩
    have scanned := (scan_read _).1 _ _ _ [] first last
    rwa [← scan_skipSpace _ rest, ends, scanObjectKeys] at scanned
  have accepts : assertUniqueJsonObjectKeys format text = .ok () ↔ ¬ written.RepeatsNames := by
    constructor
    · intro accepted repeated
      rw [settles.fails repeated] at accepted
      cases accepted
    · exact settles.passes
  refine ⟨written, read, ⟨?_, settles.fails⟩, accepts, ?_⟩
  · intro refused
    by_contra distinct
    rw [settles.passes distinct] at refused
    cases refused
  · intro accepted
    rw [← kept, Json.collapse_distinct (accepts.mp accepted)]

/-- An object with the member `a` twice, once behind a space and once as an escape. -/
def repeatedKey : JsString :=
  [123, 32, 34, 97, 34, 58, 49, 44, 34, 92, 117, 48, 48, 54, 49, 34, 32, 58, 50, 125]

theorem assertUniqueJsonObjectKeys_exact_sample :
    Json.parse naturalFormat repeatedKey = some (.object [([97], .number 2)]) ∧
      assertUniqueJsonObjectKeys naturalFormat repeatedKey = .error .malformedJson := by
  have parsed : Json.parse naturalFormat repeatedKey = some (.object [([97], .number 2)]) := rfl
  obtain ⟨written, read, refused, _⟩ := assertUniqueJsonObjectKeys_exact parsed
  have both : Json.read naturalFormat repeatedKey = some (.object [([97], .number 1), ([97], .number 2)]) := rfl
  have twice : written.RepeatsNames := by
    rw [both] at read
    cases read
    exact .here (by decide)
  exact ⟨parsed, refused.mpr twice⟩

end Agreement

end Lcm.Codex
