import Lcm.Library.Json

namespace Json

variable {Number : Type} {format : NumberFormat Number}

section Lengths

theorem skipSpace_length (text : List UInt16) : (skipSpace text).length ≤ text.length :=
  (List.dropWhile_sublist _).length_le

theorem parseUnits_length {text units rest : List UInt16} (read : parseUnits text = some (units, rest)) :
    rest.length < text.length := by
  fun_induction parseUnits text generalizing units rest with
  | case1 => cases read
  | case2 =>
      cases read
      exact Nat.lt_succ_self _
  | case3 first second third fourth text ih =>
      simp only [Option.bind_eq_bind, Option.bind_eq_some_iff, Option.some.injEq, Prod.mk.injEq] at read
      obtain ⟨_, _, ⟨_, remaining⟩, inner, _, rfl⟩ := read
      have shorter := ih inner
      simp only [List.length_cons]
      omega
  | case4 letter text _ ih =>
      simp only [Option.bind_eq_bind, Option.bind_eq_some_iff, Option.some.injEq, Prod.mk.injEq] at read
      obtain ⟨_, _, ⟨_, remaining⟩, inner, _, rfl⟩ := read
      have shorter := ih inner
      simp only [List.length_cons]
      omega
  | case5 unit text _ _ _ ih =>
      simp only [Option.bind_eq_bind, Option.bind_eq_some_iff, Option.some.injEq, Prod.mk.injEq] at read
      obtain ⟨_, _, ⟨_, remaining⟩, inner, _, rfl⟩ := read
      have shorter := ih inner
      simp only [List.length_cons]
      omega

theorem parseNumber_length {text rest : List UInt16} {value : Json Number}
    (read : parseNumber format text = some (value, rest)) : rest.length < text.length := by
  simp only [parseNumber, Option.bind_eq_bind, Option.bind_eq_some_iff, Option.some.injEq, Prod.mk.injEq] at read
  obtain ⟨_, token, _, rfl⟩ := read
  have valid : isNumberToken (text.takeWhile isNumberUnit) = true := by
    by_contra invalid
    simp [guard, invalid] at token
  have nonempty := List.length_pos_iff.mpr (isNumberToken_units valid).1
  have parts := congrArg List.length (@List.takeWhile_append_dropWhile _ isNumberUnit text)
  rw [List.length_append] at parts
  omega

/-- What a parser leaves is shorter than its text. -/
theorem parse_lengths (fuel : Nat) :
    (∀ text value rest, parseValue format fuel text = some (value, rest) → rest.length < text.length) ∧
    (∀ text elements rest, parseElements format fuel text = some (elements, rest) → rest.length < text.length) ∧
    (∀ before text members rest, parseMembers format fuel before text = some (members, rest) →
      rest.length < text.length) := by
  induction fuel with
  | zero => exact ⟨nofun, nofun, nofun⟩
  | succ fuel ih =>
      obtain ⟨values, elements', members'⟩ := ih
      refine ⟨?_, ?_, ?_⟩
      · intro text value rest read
        have spaces := skipSpace_length text
        rw [parseValue] at read
        split at read
        · next same => cases read; simp only [same, List.length_cons] at spaces; omega
        · next same => cases read; simp only [same, List.length_cons] at spaces; omega
        · next same => cases read; simp only [same, List.length_cons] at spaces; omega
        · next same =>
            simp only [Option.bind_eq_bind, Option.bind_eq_some_iff, Option.some.injEq, Prod.mk.injEq] at read
            obtain ⟨⟨_, remaining⟩, inner, _, rfl⟩ := read
            have shorter := parseUnits_length inner
            simp only [same, List.length_cons] at spaces
            dsimp only
            omega
        · next opened same =>
            have inside := skipSpace_length opened
            simp only [same, List.length_cons] at spaces
            split at read
            · next closed => cases read; simp only [closed, List.length_cons] at inside; omega
            · simp only [Option.bind_eq_bind, Option.bind_eq_some_iff, Option.some.injEq, Prod.mk.injEq] at read
              obtain ⟨⟨_, remaining⟩, inner, _, rfl⟩ := read
              have shorter := elements' _ _ _ inner
              dsimp only
              omega
        · next opened same =>
            have inside := skipSpace_length opened
            simp only [same, List.length_cons] at spaces
            split at read
            · next closed => cases read; simp only [closed, List.length_cons] at inside; omega
            · simp only [Option.bind_eq_bind, Option.bind_eq_some_iff, Option.some.injEq, Prod.mk.injEq] at read
              obtain ⟨⟨_, remaining⟩, inner, _, rfl⟩ := read
              have shorter := members' _ _ _ _ inner
              dsimp only
              omega
        · have shorter := parseNumber_length read
          omega
      · intro text elements rest read
        rw [parseElements] at read
        simp only [Option.bind_eq_bind, Option.bind_eq_some_iff] at read
        obtain ⟨⟨element, behind⟩, first, read⟩ := read
        have shorter := values _ _ _ first
        have spaces := skipSpace_length behind
        dsimp only at read
        split at read
        · next same =>
            simp only [Option.bind_eq_some_iff, Option.some.injEq, Prod.mk.injEq] at read
            obtain ⟨⟨_, final⟩, inner, _, rfl⟩ := read
            have later := elements' _ _ _ inner
            simp only [same, List.length_cons] at spaces
            dsimp only
            omega
        · next same =>
            cases read
            simp only [same, List.length_cons] at spaces
            omega
        · cases read
      · intro before text members rest read
        have spaces := skipSpace_length text
        rw [parseMembers] at read
        split at read
        · next quoted same =>
            simp only [same, List.length_cons] at spaces
            simp only [Option.bind_eq_bind, Option.bind_eq_some_iff] at read
            obtain ⟨⟨name, afterName⟩, named, read⟩ := read
            have shorter := parseUnits_length named
            have inside := skipSpace_length afterName
            dsimp only at read
            split at read
            · next afterColon colon =>
                simp only [colon, List.length_cons] at inside
                simp only [Option.bind_eq_some_iff] at read
                obtain ⟨⟨value, behind⟩, first, read⟩ := read
                have valued := values _ _ _ first
                have ends := skipSpace_length behind
                dsimp only at read
                split at read
                · next comma =>
                    have later := members' _ _ _ _ read
                    simp only [comma, List.length_cons] at ends
                    omega
                · next brace =>
                    cases read
                    simp only [brace, List.length_cons] at ends
                    omega
                · cases read
            · cases read
        · cases read

end Lengths

section Fuel

/-- Two amounts of fuel read a text alike. -/
structure SameReading (format : NumberFormat Number) (text : List UInt16) : Prop where
  values : ∀ first second, 2 * text.length + 1 ≤ first → 2 * text.length + 1 ≤ second →
    parseValue format first text = parseValue format second text
  elements : ∀ first second, 2 * text.length + 2 ≤ first → 2 * text.length + 2 ≤ second →
    parseElements format first text = parseElements format second text
  members : ∀ first second before, 2 * text.length + 2 ≤ first → 2 * text.length + 2 ≤ second →
    parseMembers format first before text = parseMembers format second before text

/-- More fuel than a text needs changes nothing. The induction is on the length of the text. -/
theorem sameReading (text : List UInt16) : SameReading format text := by
  induction size : text.length using Nat.strongRecOn generalizing text with
  | ind size ih =>
    have shorter : ∀ other : List UInt16, other.length < text.length → SameReading format other :=
      fun other small => ih other.length (by omega) other rfl
    have spaces := skipSpace_length text
    have values : ∀ first second, 2 * text.length + 1 ≤ first → 2 * text.length + 1 ≤ second →
        parseValue format first text = parseValue format second text := by
      intro first second enough other
      obtain ⟨first, rfl⟩ := Nat.exists_eq_succ_of_ne_zero (Nat.ne_of_gt (Nat.lt_of_lt_of_le (Nat.succ_pos _) enough))
      obtain ⟨second, rfl⟩ := Nat.exists_eq_succ_of_ne_zero (Nat.ne_of_gt (Nat.lt_of_lt_of_le (Nat.succ_pos _) other))
      rw [parseValue, parseValue]
      split
      · rfl
      · rfl
      · rfl
      · rfl
      · next rest same =>
          simp only [same, List.length_cons] at spaces
          rw [(shorter rest (by omega)).elements first second (by omega) (by omega)]
      · next rest same =>
          simp only [same, List.length_cons] at spaces
          rw [(shorter rest (by omega)).members first second _ (by omega) (by omega)]
      · rfl
    refine ⟨values, ?_, ?_⟩
    · intro first second enough other
      obtain ⟨first, rfl⟩ := Nat.exists_eq_succ_of_ne_zero (Nat.ne_of_gt (Nat.lt_of_lt_of_le (Nat.succ_pos _) enough))
      obtain ⟨second, rfl⟩ := Nat.exists_eq_succ_of_ne_zero (Nat.ne_of_gt (Nat.lt_of_lt_of_le (Nat.succ_pos _) other))
      rw [parseElements, parseElements, values first second (by omega) (by omega)]
      cases read : parseValue format second text with
      | none => rfl
      | some result =>
          obtain ⟨element, behind⟩ := result
          have less := (parse_lengths second).1 _ _ _ read
          have ends := skipSpace_length behind
          dsimp only [Option.bind_eq_bind, Option.bind_some]
          split
          · next rest same =>
              simp only [same, List.length_cons] at ends
              rw [(shorter rest (by omega)).elements first second (by omega) (by omega)]
          · rfl
          · rfl
    · intro first second before enough other
      obtain ⟨first, rfl⟩ := Nat.exists_eq_succ_of_ne_zero (Nat.ne_of_gt (Nat.lt_of_lt_of_le (Nat.succ_pos _) enough))
      obtain ⟨second, rfl⟩ := Nat.exists_eq_succ_of_ne_zero (Nat.ne_of_gt (Nat.lt_of_lt_of_le (Nat.succ_pos _) other))
      rw [parseMembers, parseMembers]
      split
      · next quoted same =>
          simp only [same, List.length_cons] at spaces
          cases named : parseUnits quoted with
          | none => rfl
          | some result =>
              obtain ⟨name, afterName⟩ := result
              have less := parseUnits_length named
              have inside := skipSpace_length afterName
              dsimp only [Option.bind_eq_bind, Option.bind_some]
              split
              · next afterColon colon =>
                  simp only [colon, List.length_cons] at inside
                  rw [(shorter afterColon (by omega)).values first second (by omega) (by omega)]
                  cases read : parseValue format second afterColon with
                  | none => rfl
                  | some result =>
                      obtain ⟨value, behind⟩ := result
                      have valued := (parse_lengths second).1 _ _ _ read
                      have ends := skipSpace_length behind
                      dsimp only [Option.bind_some]
                      split
                      · next rest comma =>
                          simp only [comma, List.length_cons] at ends
                          rw [(shorter rest (by omega)).members first second _ (by omega) (by omega)]
                      · rfl
                      · rfl
              · rfl
      · rfl

end Fuel

section Space

variable {unit : UInt16}

/-- A result with one more unit left. -/
def leave {Value : Type} (unit : UInt16) (result : Value × List UInt16) : Value × List UInt16 :=
  (result.1, result.2 ++ [unit])

/-- A unit behind a text is behind what follows the space at its head, unless nothing does. -/
theorem skipSpace_append (space : isSpace unit = true) (text : List UInt16) :
    (skipSpace text = [] ∧ skipSpace (text ++ [unit]) = []) ∨
      (skipSpace text ≠ [] ∧ skipSpace (text ++ [unit]) = skipSpace text ++ [unit]) := by
  rw [skipSpace, skipSpace, List.dropWhile_append]
  cases skipped : text.dropWhile isSpace with
  | nil => exact .inl ⟨rfl, by simp [space]⟩
  | cons head rest => exact .inr ⟨List.cons_ne_nil head rest, rfl⟩

theorem space_cases (space : isSpace unit = true) : unit = 32 ∨ unit = 9 ∨ unit = 10 ∨ unit = 13 := by
  simpa [isSpace, or_assoc] using space

theorem hexValue_space (space : isSpace unit = true) : hexValue unit = none := by
  rcases space_cases space with rfl | rfl | rfl | rfl <;> decide

theorem readShort_space (space : isSpace unit = true) : readShort unit = none := by
  rcases space_cases space with rfl | rfl | rfl | rfl <;> decide

/-- A space behind a text closes no string. -/
theorem parseUnits_append (space : isSpace unit = true) (text : List UInt16) :
    parseUnits (text ++ [unit]) = (parseUnits text).map (leave unit) := by
  fun_induction parseUnits text with
  | case1 =>
      rcases space_cases space with rfl | rfl | rfl | rfl <;> rfl
  | case2 => rfl
  | case3 first second third fourth text ih =>
      simp only [List.cons_append, parseUnits, ih]
      cases readEscape first second third fourth <;> cases parseUnits text <;> rfl
  | case4 letter text other ih =>
      by_cases escape : letter = 117
      · subst escape
        rcases text with _ | ⟨first, _ | ⟨second, _ | ⟨third, _ | ⟨fourth, text⟩⟩⟩⟩
        · rfl
        · rfl
        · rfl
        · simp [parseUnits, readEscape, hexValue_space space, show readShort 117 = none from rfl]
        · exact absurd rfl (other _ _ _ _ _ rfl)
      · have reads := parseUnits.eq_4 letter (text ++ [unit]) fun _ _ _ _ _ same => absurd same escape
        rw [List.cons_append, List.cons_append, reads, ih]
        cases readShort letter <;> cases parseUnits text <;> rfl
  | case5 first text quote escape short ih =>
      by_cases backslash : first = 92
      · subst backslash
        cases text with
        | nil =>
            have reads := parseUnits.eq_4 unit [] fun _ _ _ _ _ _ same => by cases same
            rw [List.cons_append, List.nil_append, reads, readShort_space space]
            rfl
        | cons letter text => exact absurd rfl (short _ _ rfl)
      · have reads := parseUnits.eq_5 first (text ++ [unit]) quote (fun _ _ _ _ _ same => absurd same backslash)
          fun _ _ same => absurd same backslash
        rw [List.cons_append, reads, ih]
        simp only [backslash, ne_eq, not_false_eq_true, and_true]
        by_cases visible : 32 ≤ first
        · simp only [visible, guard_true]
          cases parseUnits text <;> rfl
        · simp only [visible, guard, if_false]
          rfl

theorem parseNumber_append (space : isSpace unit = true) (text : List UInt16) :
    parseNumber format (text ++ [unit]) = (parseNumber format text).map (leave unit) := by
  have other : isNumberUnit unit = false := by
    rcases space_cases space with rfl | rfl | rfl | rfl <;> decide
  have taken : (text ++ [unit]).takeWhile isNumberUnit = text.takeWhile isNumberUnit := by
    rw [List.takeWhile_append]
    split
    · next whole =>
        rw [List.takeWhile_cons_of_neg (by simp [other]), List.append_nil]
        exact ((List.takeWhile_prefix _).eq_of_length whole).symm
    · rfl
  have dropped : (text ++ [unit]).dropWhile isNumberUnit = text.dropWhile isNumberUnit ++ [unit] := by
    rw [List.dropWhile_append]
    split
    · next ends => simp [other, List.isEmpty_iff.mp ends]
    · rfl
  simp only [parseNumber, taken, dropped]
  cases isNumberToken (text.takeWhile isNumberUnit) <;> rfl

/-- A text that goes on with a space has the beginnings of the text. -/
theorem append_space_prefix (first : List UInt16) {text rest : List UInt16} (visible : unit ∉ first)
    (same : text ++ [unit] = first ++ rest) : ∃ tail, text = first ++ tail ∧ rest = tail ++ [unit] := by
  rcases List.append_eq_append_iff.mp same with ⟨middle, parts, ends⟩ | ⟨middle, parts, ends⟩
  · cases middle with
    | nil => exact ⟨[], by simpa using parts.symm, by simpa using ends.symm⟩
    | cons head middle =>
        have listed : unit ∈ first := by
          have own : head = unit := (List.cons.inj ends).1.symm
          rw [parts, own]
          simp
        exact absurd listed visible
  · exact ⟨middle, parts, ends⟩

/-- A space behind a text is left behind what is read. -/
theorem parse_append (space : isSpace unit = true) (fuel : Nat) :
    (∀ text, parseValue format fuel (text ++ [unit]) = (parseValue format fuel text).map (leave unit)) ∧
    (∀ text, parseElements format fuel (text ++ [unit]) = (parseElements format fuel text).map (leave unit)) ∧
    (∀ before text, parseMembers format fuel before (text ++ [unit]) =
      (parseMembers format fuel before text).map (leave unit)) := by
  induction fuel with
  | zero => exact ⟨fun _ => rfl, fun _ => rfl, fun _ _ => rfl⟩
  | succ fuel ih =>
      obtain ⟨values, elements, members⟩ := ih
      have literal : ∀ first : List UInt16, (∀ unit ∈ first, isSpace unit = false) → unit ∉ first :=
        fun first visible inside => by simp [visible unit inside] at space
      refine ⟨?_, ?_, ?_⟩
      · intro text
        rw [parseValue, parseValue]
        rcases skipSpace_append space text with ⟨none, also⟩ | ⟨some', also⟩
        · rw [none, also]
          rfl
        · rw [also]
          generalize skipSpace text = body at *
          split
          · next tail same =>
              obtain ⟨before, rfl, rfl⟩ := append_space_prefix [110, 117, 108, 108] (literal _ (each_of_all (by decide))) same
              rfl
          · next tail same =>
              obtain ⟨before, rfl, rfl⟩ := append_space_prefix [116, 114, 117, 101] (literal _ (each_of_all (by decide))) same
              rfl
          · next tail same =>
              obtain ⟨before, rfl, rfl⟩ := append_space_prefix [102, 97, 108, 115, 101] (literal _ (each_of_all (by decide))) same
              rfl
          · next tail same =>
              obtain ⟨before, rfl, rfl⟩ := append_space_prefix [34] (literal _ (each_of_all (by decide))) same
              simp only [List.cons_append, List.nil_append, parseUnits_append space]
              cases parseUnits before <;> rfl
          · next tail same =>
              obtain ⟨before, rfl, rfl⟩ := append_space_prefix [91] (literal _ (each_of_all (by decide))) same
              simp only [List.cons_append, List.nil_append, elements]
              rcases skipSpace_append space before with ⟨none, also⟩ | ⟨some', also⟩
              · rw [none, also]
                dsimp only
                cases parseElements format fuel before <;> rfl
              · rw [also]
                generalize skipSpace before = inner at *
                split
                · next closed =>
                    obtain ⟨after, rfl, rfl⟩ := append_space_prefix [93] (literal _ (each_of_all (by decide))) closed
                    rfl
                · next opened =>
                    split
                    · next tail => exact absurd rfl (opened (tail ++ [unit]))
                    · cases parseElements format fuel before <;> rfl
          · next tail same =>
              obtain ⟨before, rfl, rfl⟩ := append_space_prefix [123] (literal _ (each_of_all (by decide))) same
              simp only [List.cons_append, List.nil_append, members]
              rcases skipSpace_append space before with ⟨none, also⟩ | ⟨some', also⟩
              · rw [none, also]
                dsimp only
                cases parseMembers format fuel [] before <;> rfl
              · rw [also]
                generalize skipSpace before = inner at *
                split
                · next closed =>
                    obtain ⟨after, rfl, rfl⟩ := append_space_prefix [125] (literal _ (each_of_all (by decide))) closed
                    rfl
                · next opened =>
                    split
                    · next tail => exact absurd rfl (opened (tail ++ [unit]))
                    · cases parseMembers format fuel [] before <;> rfl
          · next notNull notTrue notFalse notString notArray notObject =>
              rw [parseNumber_append space]
              split
              · next tail => exact absurd rfl (notNull (tail ++ [unit]))
              · next tail => exact absurd rfl (notTrue (tail ++ [unit]))
              · next tail => exact absurd rfl (notFalse (tail ++ [unit]))
              · next tail => exact absurd rfl (notString (tail ++ [unit]))
              · next tail => exact absurd rfl (notArray (tail ++ [unit]))
              · next tail => exact absurd rfl (notObject (tail ++ [unit]))
              · rfl
      · intro text
        rw [parseElements, parseElements, values]
        cases parseValue format fuel text with
        | none => rfl
        | some result =>
            obtain ⟨element, behind⟩ := result
            simp only [Option.map_some, Option.bind_eq_bind, Option.bind_some, leave]
            rcases skipSpace_append space behind with ⟨none, also⟩ | ⟨some', also⟩
            · rw [none, also]
              rfl
            · rw [also]
              generalize skipSpace behind = ends at *
              split
              · next tail same =>
                  obtain ⟨after, rfl, rfl⟩ := append_space_prefix [44] (literal _ (each_of_all (by decide))) same
                  simp only [List.cons_append, List.nil_append, elements]
                  cases parseElements format fuel after <;> rfl
              · next tail same =>
                  obtain ⟨after, rfl, rfl⟩ := append_space_prefix [93] (literal _ (each_of_all (by decide))) same
                  rfl
              · next notComma notClosed =>
                  split
                  · next tail => exact absurd rfl (notComma (tail ++ [unit]))
                  · next tail => exact absurd rfl (notClosed (tail ++ [unit]))
                  · rfl
      · intro before text
        rw [parseMembers, parseMembers]
        rcases skipSpace_append space text with ⟨none, also⟩ | ⟨some', also⟩
        · rw [none, also]
          rfl
        · rw [also]
          generalize skipSpace text = body at *
          split
          · next quoted same =>
              obtain ⟨after, rfl, rfl⟩ := append_space_prefix [34] (literal _ (each_of_all (by decide))) same
              simp only [List.cons_append, List.nil_append, parseUnits_append space]
              cases parseUnits after with
              | none => rfl
              | some result =>
                  obtain ⟨name, afterName⟩ := result
                  simp only [Option.map_some, Option.bind_eq_bind, Option.bind_some, leave]
                  rcases skipSpace_append space afterName with ⟨none, also⟩ | ⟨some', also⟩
                  · rw [none, also]
                    rfl
                  · rw [also]
                    generalize skipSpace afterName = behindName at *
                    split
                    · next colon same =>
                        obtain ⟨afterColon, rfl, rfl⟩ := append_space_prefix [58] (literal _ (each_of_all (by decide))) same
                        simp only [List.cons_append, List.nil_append, values]
                        cases parseValue format fuel afterColon with
                        | none => rfl
                        | some result =>
                            obtain ⟨value, behind⟩ := result
                            simp only [Option.map_some, Option.bind_some, leave]
                            rcases skipSpace_append space behind with ⟨none, also⟩ | ⟨some', also⟩
                            · rw [none, also]
                              rfl
                            · rw [also]
                              generalize skipSpace behind = ends at *
                              split
                              · next comma same =>
                                  obtain ⟨afterComma, rfl, rfl⟩ :=
                                    append_space_prefix [44] (literal _ (each_of_all (by decide))) same
                                  simp only [List.cons_append, List.nil_append, members]
                              · next brace same =>
                                  obtain ⟨afterBrace, rfl, rfl⟩ :=
                                    append_space_prefix [125] (literal _ (each_of_all (by decide))) same
                                  rfl
                              · next notComma notClosed =>
                                  split
                                  · next tail => exact absurd rfl (notComma (tail ++ [unit]))
                                  · next tail => exact absurd rfl (notClosed (tail ++ [unit]))
                                  · rfl
                    · next notColon =>
                        split
                        · next tail => exact absurd rfl (notColon (tail ++ [unit]))
                        · rfl
          · next notQuoted =>
              split
              · next tail => exact absurd rfl (notQuoted (tail ++ [unit]))
              · rfl

theorem parse_space (space : isSpace unit = true) (text : List UInt16) :
    parse format (text ++ [unit]) = parse format text := by
  have enough := (@sameReading _ format text).values
    (2 * (text ++ [unit]).length + 2) (2 * text.length + 2) (by simp; omega) (by omega)
  rw [parse, parse, (parse_append space _).1, enough]
  cases parseValue format (2 * text.length + 2) text with
  | none => rfl
  | some result =>
      obtain ⟨value, rest⟩ := result
      simp only [Option.map_some, Option.bind_eq_bind, Option.bind_some, leave]
      rcases skipSpace_append space rest with ⟨none, also⟩ | ⟨some', also⟩
      · rw [none, also]
      · have more : ¬ skipSpace (rest ++ [unit]) = [] := by
          rw [also]
          simp
        simp only [guard, some', more, if_false]

/-- White space behind a text does not matter. -/
theorem parse_spaces (text : List UInt16) {spaces : List UInt16} (blank : ∀ unit ∈ spaces, isSpace unit = true) :
    parse format (text ++ spaces) = parse format text := by
  induction spaces generalizing text with
  | nil => rw [List.append_nil]
  | cons unit spaces ih =>
      have split : text ++ unit :: spaces = text ++ [unit] ++ spaces := by simp
      rw [split, ih _ fun other inside => blank other (List.mem_cons_of_mem _ inside),
        parse_space (blank unit (List.mem_cons_self ..))]

end Space

end Json
