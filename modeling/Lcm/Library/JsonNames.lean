import Lcm.Library.JsonSpace

namespace Json

variable {Number : Type}

/-- Some object in a value has two members of one name. -/
inductive RepeatsNames : Json Number → Prop
  | here {members : List (List UInt16 × Json Number)} (repeated : ¬ (members.map Prod.fst).Nodup) :
      RepeatsNames (.object members)
  | element {elements : List (Json Number)} {element : Json Number} (inside : element ∈ elements)
      (below : RepeatsNames element) : RepeatsNames (.array elements)
  | member {members : List (List UInt16 × Json Number)} {member : List UInt16 × Json Number}
      (inside : member ∈ members) (below : RepeatsNames member.2) : RepeatsNames (.object members)

theorem repeatsNames_array {elements : List (Json Number)} :
    RepeatsNames (.array elements) ↔ ∃ element ∈ elements, RepeatsNames element := by
  constructor
  · rintro (_ | ⟨inside, below⟩)
    exact ⟨_, inside, below⟩
  · intro ⟨element, inside, below⟩
    exact .element inside below

theorem repeatsNames_object {members : List (List UInt16 × Json Number)} :
    RepeatsNames (.object members) ↔
      ¬ (members.map Prod.fst).Nodup ∨ ∃ member ∈ members, RepeatsNames member.2 := by
  constructor
  · rintro (repeated | _ | ⟨inside, below⟩)
    · exact .inl repeated
    · exact .inr ⟨_, inside, below⟩
  · rintro (repeated | ⟨member, inside, below⟩)
    · exact .here repeated
    · exact .member inside below

section Collapse

/-- The members that remain when a later one replaces an earlier one of its name. -/
def defineAll (before members : List (List UInt16 × Json Number)) : List (List UInt16 × Json Number) :=
  members.foldl (fun defined member => define defined member.1 member.2) before

mutual

/-- A value as it is kept: every object has one member for each of its names. -/
def collapse : Json Number → Json Number
  | .array elements => .array (collapseElements elements)
  | .object members => .object (defineAll [] (collapseMembers members))
  | .null => .null
  | .boolean value => .boolean value
  | .number value => .number value
  | .string units => .string units

def collapseElements : List (Json Number) → List (Json Number)
  | [] => []
  | element :: rest => collapse element :: collapseElements rest

def collapseMembers : List (List UInt16 × Json Number) → List (List UInt16 × Json Number)
  | [] => []
  | (name, value) :: rest => (name, collapse value) :: collapseMembers rest

end

theorem collapseElements_eq (elements : List (Json Number)) :
    collapseElements elements = elements.map collapse := by
  induction elements with
  | nil => rw [collapseElements, List.map_nil]
  | cons element rest ih => rw [collapseElements, ih, List.map_cons]

theorem collapseMembers_eq (members : List (List UInt16 × Json Number)) :
    collapseMembers members = members.map fun member => (member.1, collapse member.2) := by
  induction members with
  | nil => rw [collapseMembers, List.map_nil]
  | cons member rest ih => rw [collapseMembers, ih, List.map_cons]

/-- Members with new and distinct names are all kept. -/
theorem defineAll_distinct {before members : List (List UInt16 × Json Number)}
    (distinct : ((before ++ members).map Prod.fst).Nodup) : defineAll before members = before ++ members := by
  induction members generalizing before with
  | nil => rw [List.append_nil, defineAll, List.foldl_nil]
  | cons member rest ih =>
      have fresh : member.1 ∉ before.map Prod.fst := by
        rw [List.map_append, List.nodup_append] at distinct
        exact fun used => distinct.2.2 member.1 used member.1 (by simp) rfl
      have moved : before ++ member :: rest = (before ++ [(member.1, member.2)]) ++ rest := by simp
      rw [moved] at distinct ⊢
      rw [defineAll, List.foldl_cons, define_fresh fresh]
      exact ih distinct

/-- A value without repeated names is kept whole. -/
theorem collapse_distinct {value : Json Number} (distinct : ¬ RepeatsNames value) : collapse value = value := by
  induction value with
  | null => rw [collapse]
  | boolean value => rw [collapse]
  | number value => rw [collapse]
  | string units => rw [collapse]
  | array elements ih =>
      rw [repeatsNames_array, not_exists] at distinct
      have each : ∀ element ∈ elements, collapse element = element := fun element inside =>
        ih element inside fun below => distinct element ⟨inside, below⟩
      rw [collapse, collapseElements_eq, List.map_congr_left each, List.map_id']
  | object members ih =>
      rw [repeatsNames_object, not_or, not_not, not_exists] at distinct
      obtain ⟨names, below⟩ := distinct
      have each : ∀ member ∈ members, (member.1, collapse member.2) = member := fun member inside => by
        rw [ih member inside fun repeated => below member ⟨inside, repeated⟩]
      rw [collapse, collapseMembers_eq, List.map_congr_left each, List.map_id',
        defineAll_distinct (by simpa using names), List.nil_append]

end Collapse

section Reading

variable (format : NumberFormat Number)

mutual

/-- A value at the head of a text with every member that is written. -/
def readValue : Nat → List UInt16 → Option (Json Number × List UInt16)
  | 0, _ => none
  | fuel + 1, text =>
      match skipSpace text with
      | 110 :: 117 :: 108 :: 108 :: rest => some (.null, rest)
      | 116 :: 114 :: 117 :: 101 :: rest => some (.boolean true, rest)
      | 102 :: 97 :: 108 :: 115 :: 101 :: rest => some (.boolean false, rest)
      | 34 :: rest => do
          let (units, remaining) ← parseUnits rest
          some (.string units, remaining)
      | 91 :: rest =>
          match skipSpace rest with
          | 93 :: remaining => some (.array [], remaining)
          | _ => do
              let (elements, remaining) ← readElements fuel rest
              some (.array elements, remaining)
      | 123 :: rest =>
          match skipSpace rest with
          | 125 :: remaining => some (.object [], remaining)
          | _ => do
              let (members, remaining) ← readMembers fuel rest
              some (.object members, remaining)
      | other => parseNumber format other

def readElements : Nat → List UInt16 → Option (List (Json Number) × List UInt16)
  | 0, _ => none
  | fuel + 1, text => do
      let (element, rest) ← readValue fuel text
      match skipSpace rest with
      | 44 :: remaining => do
          let (elements, final) ← readElements fuel remaining
          some (element :: elements, final)
      | 93 :: remaining => some ([element], remaining)
      | _ => none

def readMembers : Nat → List UInt16 → Option (List (List UInt16 × Json Number) × List UInt16)
  | 0, _ => none
  | fuel + 1, text =>
      match skipSpace text with
      | 34 :: quoted => do
          let (name, afterName) ← parseUnits quoted
          match skipSpace afterName with
          | 58 :: afterColon => do
              let (value, rest) ← readValue fuel afterColon
              match skipSpace rest with
              | 44 :: remaining => do
                  let (members, final) ← readMembers fuel remaining
                  some ((name, value) :: members, final)
              | 125 :: remaining => some ([(name, value)], remaining)
              | _ => none
          | _ => none
      | _ => none

end

/-- What a text says, with every member of every object. -/
def read (text : List UInt16) : Option (Json Number) := do
  let (value, rest) ← readValue format (2 * text.length + 2) text
  guard (skipSpace rest = [])
  some value

variable {format}

theorem parseNumber_collapse (text : List UInt16) :
    parseNumber format text = (parseNumber format text).map fun result => (collapse result.1, result.2) := by
  rw [parseNumber]
  cases isNumberToken (text.takeWhile isNumberUnit)
  · rfl
  · simp [guard, collapse]

/-- What is parsed is what is read, as it is kept. -/
theorem parse_collapse (fuel : Nat) :
    (∀ text, parseValue format fuel text =
      (readValue format fuel text).map fun result => (collapse result.1, result.2)) ∧
    (∀ text, parseElements format fuel text =
      (readElements format fuel text).map fun result => (collapseElements result.1, result.2)) ∧
    (∀ before text, parseMembers format fuel before text =
      (readMembers format fuel text).map fun result =>
        (defineAll before (collapseMembers result.1), result.2)) := by
  induction fuel with
  | zero => exact ⟨fun _ => rfl, fun _ => rfl, fun _ _ => rfl⟩
  | succ fuel ih =>
      obtain ⟨values, elements, members⟩ := ih
      refine ⟨?_, ?_, ?_⟩
      · intro text
        rw [parseValue, readValue]
        generalize skipSpace text = body
        split
        · rfl
        · rfl
        · rfl
        · next rest =>
            cases read : parseUnits rest <;> simp [collapse, read]
        · next rest =>
            simp only [elements]
            generalize skipSpace rest = inner
            split
            · rfl
            · cases readElements format fuel rest <;> simp [collapse]
        · next rest =>
            simp only [members]
            generalize skipSpace rest = inner
            split
            · rfl
            · cases readMembers format fuel rest <;> simp [collapse]
        · next notNull notTrue notFalse notString notArray notObject =>
            simpa only [notNull, notTrue, notFalse, notString, notArray, notObject] using
              parseNumber_collapse _
      · intro text
        rw [parseElements, readElements, values]
        cases readValue format fuel text with
        | none => rfl
        | some result =>
            obtain ⟨element, behind⟩ := result
            simp only [Option.map_some, Option.bind_eq_bind, Option.bind_some]
            generalize skipSpace behind = ends
            split
            · next remaining =>
                rw [elements]
                cases read : readElements format fuel remaining <;> simp [collapseElements, read]
            · simp [collapseElements]
            · simp
      · intro before text
        rw [parseMembers, readMembers]
        generalize skipSpace text = body
        split
        · next quoted =>
            simp only [Option.bind_eq_bind]
            cases parseUnits quoted with
            | none => rfl
            | some name =>
                obtain ⟨name, afterName⟩ := name
                simp only [Option.bind_some]
                generalize skipSpace afterName = colon
                split
                · next afterColon =>
                    simp only [values]
                    cases readValue format fuel afterColon with
                    | none => rfl
                    | some result =>
                        obtain ⟨value, behind⟩ := result
                        simp only [Option.map_some, Option.bind_some]
                        generalize skipSpace behind = ends
                        split
                        · next remaining =>
                            rw [members]
                            cases read : readMembers format fuel remaining <;> simp [collapseMembers, defineAll, read]
                        · simp [collapseMembers, defineAll]
                        · simp
                · simp
        · simp

theorem parse_eq_read (text : List UInt16) : parse format text = (read format text).map collapse := by
  rw [parse, read, (parse_collapse _).1]
  cases readValue format (2 * text.length + 2) text with
  | none => rfl
  | some result =>
      simp only [Option.map_some, Option.bind_eq_bind, Option.bind_some, guard]
      split <;> rfl

end Reading

end Json
