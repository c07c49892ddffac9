import Lcm.Text.Utf8

namespace Lcm.Text

/-- The state of a UTF-8 decoder between two bytes: the code point so far, how many bytes behind the first one
were seen and how many are needed, and the bounds of the next one. -/
structure DecoderState where
  codePoint : Nat
  seen : Nat
  needed : Nat
  lower : Nat
  upper : Nat
  ascii : 0x80 ≤ lower

namespace DecoderState

def initial : DecoderState := ⟨0, 0, 0, 0x80, 0xbf, Nat.le_refl _⟩

/-- The first byte of a sequence, with what it decodes to. An error decodes to no code point. -/
def start (byte : Nat) : DecoderState × List (Option Nat) :=
  if byte < 0x80 then (initial, [some byte])
  else if 0xc2 ≤ byte ∧ byte ≤ 0xdf then (⟨byte - 0xc0, 0, 1, 0x80, 0xbf, Nat.le_refl _⟩, [])
  else if 0xe0 ≤ byte ∧ byte ≤ 0xef then
    (⟨byte - 0xe0, 0, 2, if byte = 0xe0 then 0xa0 else 0x80, if byte = 0xed then 0x9f else 0xbf,
      by split <;> decide⟩, [])
  else if 0xf0 ≤ byte ∧ byte ≤ 0xf4 then
    (⟨byte - 0xf0, 0, 3, if byte = 0xf0 then 0x90 else 0x80, if byte = 0xf4 then 0x8f else 0xbf,
      by split <;> decide⟩, [])
  else (initial, [none])

/-- A byte that cannot go on with a sequence is an error, and starts the next sequence. -/
def step (state : DecoderState) (byte : Nat) : DecoderState × List (Option Nat) :=
  if state.needed = 0 then start byte
  else if state.lower ≤ byte ∧ byte ≤ state.upper then
    let codePoint := state.codePoint * 0x40 + (byte - 0x80)
    if state.seen + 1 = state.needed then (initial, [some codePoint])
    else (⟨codePoint, state.seen + 1, state.needed, 0x80, 0xbf, Nat.le_refl _⟩, [])
  else ((start byte).1, none :: (start byte).2)

/-- A sequence that the end of the bytes cuts short is an error. -/
def flush (state : DecoderState) : List (Option Nat) := if state.needed = 0 then [] else [none]

def run (state : DecoderState) : List UInt8 → List (Option Nat)
  | [] => state.flush
  | byte :: rest => (state.step byte.toNat).2 ++ (state.step byte.toNat).1.run rest

theorem step_ascii (state : DecoderState) {byte : Nat} (ascii : byte < 0x80) :
    state.step byte = (initial, state.flush ++ [some byte]) := by
  have bound := state.ascii
  simp only [step, flush, start, ascii, ↓reduceIte]
  split
  · rfl
  · rw [if_neg (by omega)]
    rfl

/-- A byte of ASCII ends the sequence before it. -/
theorem run_append_ascii (state : DecoderState) (before rest : List UInt8) {byte : UInt8}
    (ascii : byte.toNat < 0x80) :
    state.run (before ++ byte :: rest) = state.run before ++ some byte.toNat :: initial.run rest := by
  induction before generalizing state with
  | nil => simp [run, state.step_ascii ascii]
  | cons first before ih => simp [run, ih]

end DecoderState

/-- The units of a decoded code point. -/
def decodedUnits (codePoint : Option Nat) : JsString :=
  match codePoint with
  | some codePoint => encodeUtf16 (Char.ofNat codePoint)
  | none => [0xfffd]

/-- Decoding with a replacement character in the place of each error. -/
def decodeUtf8 (bytes : List UInt8) : JsString := (DecoderState.initial.run bytes).flatMap decodedUnits

/-- The bytes hold no error. -/
def ValidUtf8 (bytes : List UInt8) : Prop := none ∉ DecoderState.initial.run bytes

instance (bytes : List UInt8) : Decidable (ValidUtf8 bytes) := inferInstanceAs (Decidable (¬ _))

theorem decodedUnits_ascii {byte : UInt8} (ascii : byte.toNat < 0x80) :
    decodedUnits (some byte.toNat) = [byte.toUInt16] := by
  have same : (Char.ofNat byte.toNat).toNat = byte.toNat := toNat_ofNat (by rw [Nat.isValidChar]; omega)
  rw [decodedUnits, encodeUtf16, same, if_pos (by omega)]
  simp

/-- Decoding goes on afresh behind a byte of ASCII. -/
theorem decodeUtf8_append_ascii (before rest : List UInt8) {byte : UInt8} (ascii : byte.toNat < 0x80) :
    decodeUtf8 (before ++ byte :: rest) = decodeUtf8 before ++ byte.toUInt16 :: decodeUtf8 rest := by
  simp only [decodeUtf8, DecoderState.run_append_ascii _ before rest ascii, List.flatMap_append,
    List.flatMap_cons, decodedUnits_ascii ascii, List.singleton_append]

theorem decodeUtf8_append_map (before : List UInt8) {rest : List UInt8} (ascii : ∀ byte ∈ rest, byte.toNat < 0x80) :
    decodeUtf8 (before ++ rest) = decodeUtf8 before ++ rest.map UInt8.toUInt16 := by
  induction rest generalizing before with
  | nil => simp
  | cons byte rest ih =>
      obtain ⟨first, later⟩ := List.forall_mem_cons.mp ascii
      have tail := ih [] later
      rw [List.nil_append] at tail
      rw [decodeUtf8_append_ascii before rest first, tail]
      rfl

section CodePoints

/-- What the bytes of an unfinished sequence stand for. -/
def DecoderState.Sound (state : DecoderState) : Prop :=
  match state.needed, state.seen with
  | 0, _ => True
  | 1, 0 => 2 ≤ state.codePoint ∧ state.codePoint ≤ 0x1f ∧ state.upper ≤ 0xbf
  | 2, 0 => state.codePoint ≤ 0xf ∧ (state.codePoint = 0 → 0xa0 ≤ state.lower) ∧ state.upper ≤ 0xbf ∧
      (state.codePoint = 0xd → state.upper ≤ 0x9f)
  | 2, 1 => 0x20 ≤ state.codePoint ∧ state.codePoint ≤ 0x3ff ∧ ¬ (0x360 ≤ state.codePoint ∧ state.codePoint ≤ 0x37f) ∧
      state.upper ≤ 0xbf
  | 3, 0 => state.codePoint ≤ 4 ∧ (state.codePoint = 0 → 0x90 ≤ state.lower) ∧ state.upper ≤ 0xbf ∧
      (state.codePoint = 4 → state.upper ≤ 0x8f)
  | 3, 1 => 0x10 ≤ state.codePoint ∧ state.codePoint ≤ 0x10f ∧ state.upper ≤ 0xbf
  | 3, 2 => 0x400 ≤ state.codePoint ∧ state.codePoint ≤ 0x43ff ∧ state.upper ≤ 0xbf
  | _, _ => False

/-- How many bytes the encoding of a code point has. -/
def utf8Length (codePoint : Nat) : Nat :=
  if codePoint < 0x80 then 1 else if codePoint < 0x800 then 2 else if codePoint < 0x10000 then 3 else 4

theorem utf8Length_cases (codePoint : Nat) :
    (codePoint < 0x80 ∧ utf8Length codePoint = 1) ∨
      (0x80 ≤ codePoint ∧ codePoint < 0x800 ∧ utf8Length codePoint = 2) ∨
      (0x800 ≤ codePoint ∧ codePoint < 0x10000 ∧ utf8Length codePoint = 3) ∨
      (0x10000 ≤ codePoint ∧ utf8Length codePoint = 4) := by
  unfold utf8Length
  split
  · omega
  · split
    · omega
    · split <;> omega

namespace DecoderState

/-- The bytes of an unfinished sequence. -/
def held (state : DecoderState) : Nat := if state.needed = 0 then 0 else state.seen + 1

/-- How many bytes decoded code points stand for. -/
def weight (decoded : List (Option Nat)) : Nat := (decoded.map fun codePoint => codePoint.elim 0 utf8Length).sum

/-- What a step decodes: a byte of ASCII or a longer sequence, whose length is that of its bytes. -/
def Decodes (state after : DecoderState) (byte : Nat) (decoded : List (Option Nat)) : Prop :=
  after.Sound ∧
    (∀ codePoint, some codePoint ∈ decoded → codePoint.isValidChar ∧ (codePoint < 0x80 → codePoint = byte)) ∧
    (none ∉ decoded → weight decoded + after.held = state.held + 1)

theorem start_decodes (state : DecoderState) {byte : Nat} (small : byte < 256) (fresh : state.needed = 0) :
    Decodes state (start byte).1 byte (start byte).2 := by
  unfold start Decodes
  split
  · next ascii =>
      refine ⟨trivial, ?_, ?_⟩
      · intro codePoint inside
        cases List.mem_singleton.mp inside
        exact ⟨by rw [Nat.isValidChar]; omega, fun _ => rfl⟩
      · simp [weight, held, fresh, initial, utf8Length, ascii]
  · split
    · next two =>
        refine ⟨?_, fun _ inside => (by cases inside), ?_⟩
        · simp only [Sound]
          omega
        · simp [weight, held, fresh]
    · split
      · next three =>
          refine ⟨?_, fun _ inside => (by cases inside), ?_⟩
          · simp only [Sound]
            split <;> split <;> omega
          · simp [weight, held, fresh]
      · split
        · next four =>
            refine ⟨?_, fun _ inside => (by cases inside), ?_⟩
            · simp only [Sound]
              split <;> split <;> omega
            · simp [weight, held, fresh]
        · exact ⟨trivial, by simp, by simp⟩

/-- A byte within the bounds goes on with the sequence or ends it. -/
theorem next_decodes {state : DecoderState} (sound : state.Sound) {byte : Nat} (unfinished : state.needed ≠ 0)
    (above : state.lower ≤ byte) (below : byte ≤ state.upper) :
    let codePoint := state.codePoint * 0x40 + (byte - 0x80)
    (state.seen + 1 = state.needed → 0x80 ≤ codePoint ∧ codePoint.isValidChar ∧
      utf8Length codePoint = state.needed + 1) ∧
    (state.seen + 1 ≠ state.needed →
      (⟨codePoint, state.seen + 1, state.needed, 0x80, 0xbf, Nat.le_refl _⟩ : DecoderState).Sound) := by
  obtain ⟨codePoint, seen, needed, lower, upper, ascii⟩ := state
  unfold Sound at sound
  dsimp only at *
  split at sound
  · exact absurd rfl unfinished
  case h_8 => exact sound.elim
  all_goals
    have size := utf8Length_cases (codePoint * 0x40 + (byte - 0x80))
    simp only [Sound, Nat.isValidChar]
    omega

theorem step_decodes {state : DecoderState} (sound : state.Sound) {byte : Nat} (small : byte < 256) :
    Decodes state (state.step byte).1 byte (state.step byte).2 := by
  unfold step
  split
  · next fresh => exact start_decodes state small fresh
  · next unfinished =>
      have held : state.held = state.seen + 1 := if_neg unfinished
      split
      · next bounds =>
          obtain ⟨last, more⟩ := next_decodes sound unfinished bounds.1 bounds.2
          dsimp only
          split
          · next ends =>
              obtain ⟨large, valid, length⟩ := last ends
              refine ⟨trivial, ?_, ?_⟩
              · intro codePoint inside
                rw [Option.some.inj (List.mem_singleton.mp inside)]
                exact ⟨valid, fun ascii => absurd ascii (Nat.not_lt.mpr large)⟩
              · intro _
                rw [held, ends]
                simp only [weight, List.map_cons, List.map_nil, Option.elim_some, length, List.sum_cons,
                  List.sum_nil]
                rfl
          · next goesOn =>
              refine ⟨more goesOn, nofun, ?_⟩
              intro _
              rw [held]
              simp [weight, DecoderState.held, unfinished]
      · obtain ⟨after, points, _⟩ := start_decodes initial small rfl
        exact ⟨after, by simpa using points, by simp⟩

theorem run_decodes {state : DecoderState} (sound : state.Sound) (bytes : List UInt8) :
    (∀ codePoint, some codePoint ∈ state.run bytes →
      codePoint.isValidChar ∧ (codePoint < 0x80 → ∃ byte ∈ bytes, codePoint = byte.toNat)) ∧
    (none ∉ state.run bytes → weight (state.run bytes) = state.held + bytes.length) := by
  induction bytes generalizing state with
  | nil =>
      simp only [run, flush]
      split
      · next fresh => simp [weight, held, fresh]
      · simp
  | cons byte rest ih =>
      obtain ⟨after, points, length⟩ := step_decodes sound byte.toNat_lt
      obtain ⟨later, laterLength⟩ := ih after
      rw [run]
      constructor
      · intro codePoint inside
        rcases List.mem_append.mp inside with now | later'
        · obtain ⟨valid, ascii⟩ := points codePoint now
          exact ⟨valid, fun small => ⟨byte, List.mem_cons_self .., ascii small⟩⟩
        · obtain ⟨valid, ascii⟩ := later codePoint later'
          refine ⟨valid, fun small => ?_⟩
          obtain ⟨other, inside, same⟩ := ascii small
          exact ⟨other, List.mem_cons_of_mem _ inside, same⟩
      · intro valid
        rw [List.mem_append, not_or] at valid
        have now := length valid.1
        have rest' := laterLength valid.2
        simp only [weight, List.map_append, List.sum_append, List.length_cons] at now rest' ⊢
        omega

end DecoderState

/-- Decoding finds a code point of ASCII in a byte of it only. -/
theorem decodeUtf8_ascii {bytes : List UInt8} {unit : UInt16} (small : unit.toNat < 0x80)
    (inside : unit ∈ decodeUtf8 bytes) : ∃ byte ∈ bytes, unit.toNat = byte.toNat := by
  obtain ⟨codePoint, decoded, encoded⟩ := List.mem_flatMap.mp inside
  cases codePoint with
  | none =>
      rw [decodedUnits, List.mem_singleton] at encoded
      rw [encoded] at small
      exact absurd small (by decide)
  | some codePoint =>
      obtain ⟨valid, ascii⟩ := (@DecoderState.run_decodes .initial trivial bytes).1 codePoint decoded
      rw [decodedUnits, encodeUtf16, toNat_ofNat valid] at encoded
      rw [Nat.isValidChar] at valid
      split at encoded
      · next short =>
          rw [List.mem_singleton.mp encoded] at small ⊢
          rw [UInt16.toNat_ofNat_of_lt' (by simp [UInt16.size]; omega)] at small ⊢
          exact ascii small
      · simp only [List.mem_cons, List.not_mem_nil, or_false] at encoded
        rcases encoded with rfl | rfl
        · rw [UInt16.toNat_ofNat_of_lt' (by simp [UInt16.size]; omega)] at small
          omega
        · rw [UInt16.toNat_ofNat_of_lt' (by simp [UInt16.size]; omega)] at small
          omega

end CodePoints

end Lcm.Text
