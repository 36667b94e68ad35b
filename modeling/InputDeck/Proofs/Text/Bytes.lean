import Mathlib.Tactic.IntervalCases
import InputDeck.Text.Utf8
import InputDeck.Proofs.Text.Letters

/-!
# Texts and their bytes

The bits of a character's code stand in one to four bytes, the first of which tells how many they
are. The reader goes through the bytes of a character and no others without a fault, as its bounds
for the second byte leave out what could be written with fewer bytes and the codes that no character
has. So bytes are read as a text exactly if they are the bytes of the text.
-/

namespace InputDeck.Text

/-- A byte is the one with its number. -/
theorem ofNat_eq (byte : UInt8) {n : Nat} (same : n = byte.toNat) : UInt8.ofNat n = byte := by
  rw [same, UInt8.ofNat_toNat]

/-- A number below 256 is that of a byte. -/
theorem toNat_byte {n : Nat} (small : n < 256) : (UInt8.ofNat n).toNat = n := by
  rw [UInt8.toNat_ofNat', Nat.mod_eq_of_lt small]

/-- The bytes of one character and its code. The bits of the code stand in the bytes, the six lowest
in the last, and the bytes are as few as can be. -/
inductive Spells : List UInt8 → Nat → Prop
  | one {code : Nat} : code < 0x80 → Spells [.ofNat code] code
  | two {top low : Nat} : 2 ≤ top → top < 32 → low < 64 →
      Spells [.ofNat (top + 0xC0), .ofNat (low + 0x80)] (top * 64 + low)
  | three {top middle low : Nat} : top < 16 → middle < 64 → low < 64 →
      (top = 0 → 32 ≤ middle) → (top = 13 → middle < 32) →
        Spells [.ofNat (top + 0xE0), .ofNat (middle + 0x80), .ofNat (low + 0x80)]
          ((top * 64 + middle) * 64 + low)
  | four {top upper middle low : Nat} : top < 5 → upper < 64 → middle < 64 → low < 64 →
      (top = 0 → 16 ≤ upper) → (top = 4 → upper < 16) →
        Spells [.ofNat (top + 0xF0), .ofNat (upper + 0x80), .ofNat (middle + 0x80),
          .ofNat (low + 0x80)] (((top * 64 + upper) * 64 + middle) * 64 + low)

/-! ## Writing a character -/

/-- The bytes of a character are those that it is written with. -/
theorem Spells.utf8EncodeChar {bytes : List UInt8} {code : Nat} (spells : Spells bytes code) :
    String.utf8EncodeChar (Char.ofNat code) = bytes := by
  have written (valid : code.isValidChar) : (Char.ofNat code).val.toNat = code := toNat_ofNat valid
  unfold Nat.isValidChar at written
  cases spells with
  | one ascii => rw [String.utf8EncodeChar, written (by omega), if_pos (by omega)]
  | @two top low =>
    rw [String.utf8EncodeChar, written (by omega), if_neg (by omega), if_pos (by omega)]
    have first : (top * 64 + low) / 64 % 32 = top := by omega
    have second : (top * 64 + low) % 64 = low := by omega
    rw [first, second]
  | @three top middle low =>
    rw [String.utf8EncodeChar, written (by omega), if_neg (by omega), if_neg (by omega),
      if_pos (by omega)]
    have first : ((top * 64 + middle) * 64 + low) / 4096 % 16 = top := by omega
    have second : ((top * 64 + middle) * 64 + low) / 64 % 64 = middle := by omega
    have third : ((top * 64 + middle) * 64 + low) % 64 = low := by omega
    rw [first, second, third]
  | @four top upper middle low =>
    rw [String.utf8EncodeChar, written (by omega), if_neg (by omega), if_neg (by omega),
      if_neg (by omega)]
    have first : (((top * 64 + upper) * 64 + middle) * 64 + low) / 262144 % 8 = top := by omega
    have second : (((top * 64 + upper) * 64 + middle) * 64 + low) / 4096 % 64 = upper := by omega
    have third : (((top * 64 + upper) * 64 + middle) * 64 + low) / 64 % 64 = middle := by omega
    have fourth : (((top * 64 + upper) * 64 + middle) * 64 + low) % 64 = low := by omega
    rw [first, second, third, fourth]

/-- The code of a character can be cut into bits. -/
theorem exists_spells {code : Nat} (valid : code.isValidChar) : ∃ bytes, Spells bytes code := by
  unfold Nat.isValidChar at valid
  by_cases oneByte : code < 0x80
  · exact ⟨_, .one oneByte⟩
  · by_cases twoBytes : code < 0x800
    · have bits : code = code / 64 * 64 + code % 64 := by omega
      rw [bits]
      exact ⟨_, .two (by omega) (by omega) (by omega)⟩
    · by_cases threeBytes : code < 0x10000
      · have bits : code = (code / 4096 * 64 + code / 64 % 64) * 64 + code % 64 := by omega
        rw [bits]
        exact ⟨_, .three (by omega) (by omega) (by omega) (by omega) (by omega)⟩
      · have bits : code =
            ((code / 262144 * 64 + code / 4096 % 64) * 64 + code / 64 % 64) * 64 + code % 64 := by
          omega
        rw [bits]
        exact ⟨_, .four (by omega) (by omega) (by omega) (by omega) (by omega) (by omega)⟩

/-- What a character is written with are the bytes of this character. -/
theorem spells_utf8EncodeChar (c : Char) : Spells (String.utf8EncodeChar c) c.toNat := by
  obtain ⟨bytes, spells⟩ := exists_spells c.valid
  have written := spells.utf8EncodeChar
  rw [Char.toNat_val, Char.ofNat_toNat] at written
  rwa [written]

/-! ## Reading a character -/

/-- What begins a character of two bytes. -/
theorem beginCharacter_two {top : Nat} (lower : 2 ≤ top) (upper : top < 32) :
    beginCharacter (.ofNat (top + 0xC0)) = ([], .inside 1 0x80 0xBF top) := by
  interval_cases top <;> rfl

/-- What begins a character of three bytes. -/
theorem beginCharacter_three {top : Nat} (upper : top < 16) :
    beginCharacter (.ofNat (top + 0xE0)) =
      ([], .inside 2 (if top = 0 then 0xA0 else 0x80) (if top = 13 then 0x9F else 0xBF) top) := by
  interval_cases top <;> rfl

/-- What begins a character of four bytes. -/
theorem beginCharacter_four {top : Nat} (upper : top < 5) :
    beginCharacter (.ofNat (top + 0xF0)) =
      ([], .inside 3 (if top = 0 then 0x90 else 0x80) (if top = 4 then 0x8F else 0xBF) top) := by
  interval_cases top <;> rfl

/-- A byte is a character on its own, begins one of two to four bytes, or begins none. -/
theorem beginCharacter_cases (byte : UInt8) :
    (∃ code, code < 0x80 ∧ byte = .ofNat code) ∨
      (∃ top, 2 ≤ top ∧ top < 32 ∧ byte = .ofNat (top + 0xC0)) ∨
      (∃ top, top < 16 ∧ byte = .ofNat (top + 0xE0)) ∨
      (∃ top, top < 5 ∧ byte = .ofNat (top + 0xF0)) ∨
      beginCharacter byte = ([none], .boundary) := by
  have named (n : Nat) (same : n = byte.toNat) : byte = .ofNat n := (ofNat_eq byte same).symm
  by_cases one : byte.toNat < 0x80
  · exact .inl ⟨byte.toNat, one, named _ rfl⟩
  · by_cases two : 0xC2 ≤ byte.toNat ∧ byte.toNat < 0xE0
    · exact .inr (.inl ⟨byte.toNat - 0xC0, by omega, by omega, named _ (by omega)⟩)
    · by_cases three : 0xE0 ≤ byte.toNat ∧ byte.toNat < 0xF0
      · exact .inr (.inr (.inl ⟨byte.toNat - 0xE0, by omega, named _ (by omega)⟩))
      · by_cases four : 0xF0 ≤ byte.toNat ∧ byte.toNat < 0xF5
        · exact .inr (.inr (.inr (.inl ⟨byte.toNat - 0xF0, by omega, named _ (by omega)⟩)))
        · refine .inr (.inr (.inr (.inr ?_)))
          simp only [beginCharacter, beq_iff_eq, Bool.and_eq_true, decide_eq_true_eq,
            UInt8.le_iff_toNat_le, ← UInt8.toNat_inj, UInt8.reduceToNat]
          split_ifs <;> first | rfl | omega

/-- A byte that goes on with a character stands above a bound that is there under a condition. -/
theorem ite_le_continuation (p : Prop) [Decidable p] (bound : UInt8) {bits : Nat}
    (small : bits < 64) :
    (if p then bound else 0x80) ≤ UInt8.ofNat (bits + 0x80) ↔ (p → bound.toNat ≤ bits + 0x80) := by
  rw [UInt8.le_iff_toNat_le, toNat_byte (by omega)]
  by_cases known : p <;> simp [known]

/-- A byte that goes on with a character stands below a bound that is there under a condition. -/
theorem continuation_le_ite (p : Prop) [Decidable p] (bound : UInt8) {bits : Nat}
    (small : bits < 64) :
    UInt8.ofNat (bits + 0x80) ≤ (if p then bound else 0xBF) ↔ (p → bits + 0x80 ≤ bound.toNat) := by
  rw [UInt8.le_iff_toNat_le, toNat_byte (by omega)]
  by_cases known : p
  · simp [known]
  · simp only [known, if_false, UInt8.reduceToNat, false_imp_iff, iff_true]
    omega

/-- A byte that goes on with a character stands between these two, if nothing else is known. -/
theorem continuation_bounds {bits : Nat} (small : bits < 64) :
    0x80 ≤ UInt8.ofNat (bits + 0x80) ∧ UInt8.ofNat (bits + 0x80) ≤ 0xBF := by
  rw [UInt8.le_iff_toNat_le, UInt8.le_iff_toNat_le, toNat_byte (by omega)]
  simp only [UInt8.reduceToNat]
  omega

/-- A byte that begins a longer character is no character yet. -/
theorem readBytes_first {first : UInt8} {state : ByteState} (rest : List UInt8)
    (begins : beginCharacter first = ([], state)) :
    readBytes .boundary (first :: rest) = readBytes state rest := by
  rw [readBytes, begins]
  rfl

section Inside

variable {owed value bits : Nat} {low high : UInt8} (rest : List UInt8) (small : bits < 64)
  (bounds : low ≤ .ofNat (bits + 0x80) ∧ .ofNat (bits + 0x80) ≤ high)
include small bounds

/-- A byte within the bounds adds its six bits. -/
theorem readBytes_next (more : 1 < owed) :
    readBytes (.inside owed low high value) (.ofNat (bits + 0x80) :: rest) =
      readBytes (.inside (owed - 1) 0x80 0xBF (value * 64 + bits)) rest := by
  have lowest : (bits + 0x80) % 64 = bits := by omega
  have number : (UInt8.ofNat (bits + 0x80)).toNat = bits + 0x80 := toNat_byte (by omega)
  simp only [readBytes, bounds, decide_true, Bool.and_self, if_true, number, lowest,
    if_neg (Nat.not_le.2 more)]

/-- The last byte of a character closes it. -/
theorem readBytes_last :
    readBytes (.inside 1 low high value) (.ofNat (bits + 0x80) :: rest) =
      some (Char.ofNat (value * 64 + bits)) :: readBytes .boundary rest := by
  have lowest : (bits + 0x80) % 64 = bits := by omega
  have number : (UInt8.ofNat (bits + 0x80)).toNat = bits + 0x80 := toNat_byte (by omega)
  simp only [readBytes, bounds, decide_true, Bool.and_self, if_true, number, lowest, Nat.le_refl]

end Inside

/-- Within a character a byte within the bounds is there, if there is no fault. -/
theorem exists_continuation {owed value : Nat} {low high : UInt8} {bytes : List UInt8}
    (faultless : none ∉ readBytes (.inside owed low high value) bytes) (lowest : 0x80 ≤ low)
    (highest : high ≤ 0xBF) :
    ∃ bits rest, bits < 64 ∧ bytes = .ofNat (bits + 0x80) :: rest ∧ low ≤ .ofNat (bits + 0x80) ∧
      .ofNat (bits + 0x80) ≤ high := by
  cases bytes with
  | nil => simp [readBytes] at faultless
  | cons byte rest =>
    by_cases within : low ≤ byte ∧ byte ≤ high
    · have lower := UInt8.le_iff_toNat_le.1 (UInt8.le_trans lowest within.1)
      have upper := UInt8.le_iff_toNat_le.1 (UInt8.le_trans within.2 highest)
      simp only [UInt8.reduceToNat] at lower upper
      have same := ofNat_eq byte (n := byte.toNat - 0x80 + 0x80) (by omega)
      refine ⟨byte.toNat - 0x80, rest, by omega, by rw [same], ?_⟩
      rwa [same]
    · simp [readBytes, within] at faultless

/-- The bytes of a character are read as this character, whatever follows. -/
theorem Spells.readBytes_append {bytes : List UInt8} {code : Nat} (spells : Spells bytes code)
    (rest : List UInt8) :
    readBytes .boundary (bytes ++ rest) = some (Char.ofNat code) :: readBytes .boundary rest := by
  cases spells with
  | one ascii =>
    have number := toNat_byte (n := code) (by omega)
    have single : UInt8.ofNat code ≤ 0x7F := by
      rw [UInt8.le_iff_toNat_le, number]
      exact Nat.le_of_lt_succ ascii
    simp [readBytes, beginCharacter, single, number]
  | two lower upper low =>
    exact (readBytes_first _ (beginCharacter_two lower upper)).trans
      (readBytes_last rest low (continuation_bounds low))
  | @three top _ _ first second third =>
    -- the first byte narrows the bounds of the second as far as the code allows
    have above := (ite_le_continuation (top = 0) 0xA0 second).2
      (by simp only [UInt8.reduceToNat]; omega)
    have below := (continuation_le_ite (top = 13) 0x9F second).2
      (by simp only [UInt8.reduceToNat]; omega)
    rw [List.cons_append, readBytes_first _ (beginCharacter_three first), List.cons_append,
      readBytes_next _ second ⟨above, below⟩ (by decide), List.cons_append,
      readBytes_last _ third (continuation_bounds third), List.nil_append]
  | @four top _ _ _ first second third fourth =>
    have above := (ite_le_continuation (top = 0) 0x90 second).2
      (by simp only [UInt8.reduceToNat]; omega)
    have below := (continuation_le_ite (top = 4) 0x8F second).2
      (by simp only [UInt8.reduceToNat]; omega)
    rw [List.cons_append, readBytes_first _ (beginCharacter_four first), List.cons_append,
      readBytes_next _ second ⟨above, below⟩ (by decide), List.cons_append,
      readBytes_next _ third (continuation_bounds third) (by decide), List.cons_append,
      readBytes_last _ fourth (continuation_bounds fourth), List.nil_append]

/-- Where the reading of bytes has no fault, the bytes of a character stand first. -/
theorem exists_spells_append {first : UInt8} {bytes : List UInt8}
    (faultless : none ∉ readBytes .boundary (first :: bytes)) :
    ∃ spelled rest code, first :: bytes = spelled ++ rest ∧ Spells spelled code := by
  obtain ⟨code, small, rfl⟩ | ⟨top, lower, upper, rfl⟩ | ⟨top, upper, rfl⟩ | ⟨top, upper, rfl⟩ |
    fault := beginCharacter_cases first
  · exact ⟨_, bytes, code, rfl, .one small⟩
  · rw [readBytes_first _ (beginCharacter_two lower upper)] at faultless
    obtain ⟨low, rest, small, rfl, -⟩ := exists_continuation faultless (by decide) (by decide)
    exact ⟨_, rest, _, rfl, .two lower upper small⟩
  · rw [readBytes_first _ (beginCharacter_three upper)] at faultless
    obtain ⟨middle, rest, small, rfl, bounds⟩ :=
      exists_continuation faultless (by split <;> decide) (by split <;> decide)
    rw [readBytes_next _ small bounds (by decide)] at faultless
    obtain ⟨low, rest, lowSmall, rfl, -⟩ := exists_continuation faultless (by decide) (by decide)
    -- and from the bounds the conditions on the code are had back
    rw [ite_le_continuation _ _ small, continuation_le_ite _ _ small] at bounds
    simp only [UInt8.reduceToNat] at bounds
    exact ⟨_, rest, _, rfl, .three upper small lowSmall (by omega) (by omega)⟩
  · rw [readBytes_first _ (beginCharacter_four upper)] at faultless
    obtain ⟨second, rest, small, rfl, bounds⟩ :=
      exists_continuation faultless (by split <;> decide) (by split <;> decide)
    rw [readBytes_next _ small bounds (by decide)] at faultless
    obtain ⟨middle, rest, middleSmall, rfl, inside⟩ :=
      exists_continuation faultless (by decide) (by decide)
    rw [readBytes_next _ middleSmall inside (by decide)] at faultless
    obtain ⟨low, rest, lowSmall, rfl, -⟩ := exists_continuation faultless (by decide) (by decide)
    rw [ite_le_continuation _ _ small, continuation_le_ite _ _ small] at bounds
    simp only [UInt8.reduceToNat] at bounds
    exact ⟨_, rest, _, rfl, .four upper small middleSmall lowSmall (by omega) (by omega)⟩
  · simp [readBytes, fault] at faultless

/-! ## Texts -/

/-- All items are there exactly if each is. -/
theorem mapM_id_eq_some_iff {α : Type} {items : List (Option α)} {values : List α} :
    items.mapM id = some values ↔ items = values.map some := by
  induction items generalizing values with
  | nil => cases values <;> simp
  | cons item rest inductionHypothesis =>
    cases values <;> cases item <;> simp [inductionHypothesis, Option.bind_eq_some_iff, and_comm]

/-- The bytes of a text are read as the text. -/
theorem readBytes_toBytes (t : Text) : readBytes .boundary (toBytes t) = t.map some := by
  induction t with
  | nil => rfl
  | cons c rest inductionHypothesis =>
    rw [toBytes, List.flatMap_cons, (spells_utf8EncodeChar c).readBytes_append, Char.ofNat_toNat]
    exact congrArg (some c :: ·) inductionHypothesis

/-- Only the bytes of a text are read as the text. -/
theorem eq_toBytes_of_readBytes {t : Text} {bytes : List UInt8}
    (read : readBytes .boundary bytes = t.map some) : bytes = toBytes t := by
  have faultless : none ∉ readBytes .boundary bytes := by simp [read]
  induction t generalizing bytes with
  | nil =>
    cases bytes with
    | nil => rfl
    | cons first rest =>
      obtain ⟨spelled, later, code, same, spells⟩ := exists_spells_append faultless
      rw [same, spells.readBytes_append] at read
      cases read
  | cons c others inductionHypothesis =>
    cases bytes with
    | nil => cases read
    | cons first rest =>
      obtain ⟨spelled, later, code, same, spells⟩ := exists_spells_append faultless
      rw [same, spells.readBytes_append, List.map_cons, List.cons.injEq, Option.some.injEq] at read
      obtain ⟨rfl, remaining⟩ := read
      rw [same, toBytes, List.flatMap_cons, spells.utf8EncodeChar]
      exact congrArg (spelled ++ ·) (inductionHypothesis remaining (by simp [remaining]))

/-- Bytes are a text exactly if they are those that the text is written with. -/
theorem ofBytes?_eq_some_iff {bytes : List UInt8} {t : Text} :
    ofBytes? bytes = some t ↔ bytes = toBytes t := by
  rw [ofBytes?, mapM_id_eq_some_iff]
  exact ⟨eq_toBytes_of_readBytes, fun same => same ▸ readBytes_toBytes t⟩

end InputDeck.Text
