import Mathlib.Data.List.Basic
import Mathlib.Data.List.Induction
import SessionHost.Text.Utf8

/-!
Writing text as bytes and reading it back.

`CharForm` lists the forms of a character in bytes: exactly these are read as one
(`CharForm.firstPiece`, `CharForm.of_firstPiece`) and written for one (`CharForm.of_char`). From
this, `decode?_eq_some_iff`: the bytes that spell a text are exactly its encoding.
-/

namespace SessionHost.Text

/-! ### Numbers in bytes -/

theorem isContinuation_iff {b : UInt8} :
    isContinuation b = true ↔ 0x80 ≤ b.toNat ∧ b.toNat ≤ 0xBF := by
  simp [isContinuation, UInt8.le_iff_toNat_le]

theorem followsThree_iff {lead b : UInt8} :
    followsThree lead b = true ↔
      (0x80 ≤ b.toNat ∧ b.toNat ≤ 0xBF) ∧ (lead.toNat = 0xE0 → 0xA0 ≤ b.toNat) ∧
        (lead.toNat = 0xED → b.toNat ≤ 0x9F) := by
  simp only [followsThree, Bool.and_eq_true, isContinuation_iff, Bool.or_eq_true, bne_iff_ne,
    decide_eq_true_eq, UInt8.le_iff_toNat_le, ne_eq, ← UInt8.toNat_inj, and_assoc]
  constructor
  · rintro ⟨low, high, e0, ed⟩
    exact ⟨low, high, fun is => e0.resolve_left (not_not_intro is),
      fun is => ed.resolve_left (not_not_intro is)⟩
  · rintro ⟨low, high, e0, ed⟩
    exact ⟨low, high, Decidable.or_iff_not_imp_left.mpr fun is => e0 (Decidable.not_not.mp is),
      Decidable.or_iff_not_imp_left.mpr fun is => ed (Decidable.not_not.mp is)⟩

theorem followsFour_iff {lead b : UInt8} :
    followsFour lead b = true ↔
      (0x80 ≤ b.toNat ∧ b.toNat ≤ 0xBF) ∧ (lead.toNat = 0xF0 → 0x90 ≤ b.toNat) ∧
        (lead.toNat = 0xF4 → b.toNat ≤ 0x8F) := by
  simp only [followsFour, Bool.and_eq_true, isContinuation_iff, Bool.or_eq_true, bne_iff_ne,
    decide_eq_true_eq, UInt8.le_iff_toNat_le, ne_eq, ← UInt8.toNat_inj, and_assoc]
  constructor
  · rintro ⟨low, high, f0, f4⟩
    exact ⟨low, high, fun is => f0.resolve_left (not_not_intro is),
      fun is => f4.resolve_left (not_not_intro is)⟩
  · rintro ⟨low, high, f0, f4⟩
    exact ⟨low, high, Decidable.or_iff_not_imp_left.mpr fun is => f0 (Decidable.not_not.mp is),
      Decidable.or_iff_not_imp_left.mpr fun is => f4 (Decidable.not_not.mp is)⟩

/-! ### Characters -/

/-- The bytes that stand for one character, with its number: one byte, or a lead byte and the
continuation bytes that may follow it. -/
inductive CharForm : Bytes → Nat → Prop where
  | one {a : UInt8} : a.toNat < 0x80 → CharForm [a] a.toNat
  | two {a b : UInt8} : 0xC2 ≤ a.toNat → a.toNat ≤ 0xDF → isContinuation b = true →
      CharForm [a, b] (a.toNat % 32 * 64 + payload b)
  | three {a b c : UInt8} : 0xE0 ≤ a.toNat → a.toNat ≤ 0xEF → followsThree a b = true →
      isContinuation c = true →
      CharForm [a, b, c] (a.toNat % 16 * 4096 + payload b * 64 + payload c)
  | four {a b c d : UInt8} : 0xF0 ≤ a.toNat → a.toNat ≤ 0xF4 → followsFour a b = true →
      isContinuation c = true → isContinuation d = true →
      CharForm [a, b, c, d]
        (a.toNat % 8 * 262144 + payload b * 4096 + payload c * 64 + payload d)

/-- The bytes of a form are read as its character, whatever follows them. -/
theorem CharForm.firstPiece {bytes : Bytes} {n : Nat} (form : CharForm bytes n) (rest : Bytes) :
    ∃ a tail, bytes = a :: tail ∧
      Text.firstPiece a (tail ++ rest) = (some (Char.ofNat n), rest) := by
  cases form with
  | @one a small =>
      refine ⟨a, [], rfl, ?_⟩
      simp [Text.firstPiece, UInt8.lt_iff_toNat_lt, small]
  | @two a b low high follows =>
      refine ⟨a, [b], rfl, ?_⟩
      have large : ¬ a.toNat < 0x80 := by omega
      simp [Text.firstPiece, UInt8.lt_iff_toNat_lt, UInt8.le_iff_toNat_le, large, low, high,
        follows]
  | @three a b c low high follows more =>
      refine ⟨a, [b, c], rfl, ?_⟩
      have large : ¬ a.toNat < 0x80 := by omega
      have above : ¬ a.toNat ≤ 0xDF := by omega
      simp [Text.firstPiece, UInt8.lt_iff_toNat_lt, UInt8.le_iff_toNat_le, large, above, low, high,
        follows, more]
  | @four a b c d low high follows more last =>
      refine ⟨a, [b, c, d], rfl, ?_⟩
      have large : ¬ a.toNat < 0x80 := by omega
      have above : ¬ a.toNat ≤ 0xDF := by omega
      have beyond : ¬ a.toNat ≤ 0xEF := by omega
      simp [Text.firstPiece, UInt8.lt_iff_toNat_lt, UInt8.le_iff_toNat_le, large, above, beyond,
        low, high, follows, more, last]

/-- Whatever is read as a character has the form of one. -/
theorem CharForm.of_firstPiece {a : UInt8} {rest after : Bytes} {c : Char}
    (read : Text.firstPiece a rest = (some c, after)) :
    ∃ bytes n, CharForm bytes n ∧ c = Char.ofNat n ∧ a :: rest = bytes ++ after := by
  unfold Text.firstPiece at read
  split at read
  · rename_i small
    simp only [Prod.mk.injEq, Option.some.injEq] at read
    obtain ⟨rfl, rfl⟩ := read
    exact ⟨[a], a.toNat, .one (UInt8.lt_iff_toNat_lt.mp small), rfl, rfl⟩
  split at read
  · rename_i range
    simp only [Bool.and_eq_true, decide_eq_true_eq, UInt8.le_iff_toNat_le] at range
    cases rest with
    | nil => cases read
    | cons b rest =>
        simp only at read
        split at read
        · rename_i follows
          cases read
          exact ⟨[a, b], _, .two range.1 range.2 follows, rfl, rfl⟩
        · cases read
  split at read
  · rename_i range
    simp only [Bool.and_eq_true, decide_eq_true_eq, UInt8.le_iff_toNat_le] at range
    rcases rest with _ | ⟨b, _ | ⟨c, rest⟩⟩
    · cases read
    · simp only at read
      split at read <;> cases read
    · simp only at read
      split at read
      · rename_i follows
        split at read
        · rename_i more
          cases read
          exact ⟨[a, b, c], _, .three range.1 range.2 follows more, rfl, rfl⟩
        · cases read
      · cases read
  split at read
  · rename_i range
    simp only [Bool.and_eq_true, decide_eq_true_eq, UInt8.le_iff_toNat_le] at range
    rcases rest with _ | ⟨b, _ | ⟨c, _ | ⟨d, rest⟩⟩⟩
    · cases read
    · simp only at read
      split at read <;> cases read
    · simp only at read
      split at read
      · split at read <;> cases read
      · cases read
    · simp only at read
      split at read
      · rename_i follows
        split at read
        · rename_i more
          split at read
          · rename_i last
            cases read
            exact ⟨[a, b, c, d], _, .four range.1 range.2 follows more last, rfl, rfl⟩
          · cases read
        · cases read
      · cases read
  · cases read

/-- The number of a form is that of a character. -/
theorem CharForm.isValidChar {bytes : Bytes} {n : Nat} (form : CharForm bytes n) :
    n.isValidChar := by
  unfold Nat.isValidChar
  cases form with
  | one small => omega
  | two low high follows =>
      rw [isContinuation_iff] at follows
      unfold payload
      omega
  | three low high follows more =>
      rw [followsThree_iff] at follows
      rw [isContinuation_iff] at more
      unfold payload
      omega
  | four low high follows more last =>
      rw [followsFour_iff] at follows
      rw [isContinuation_iff] at more last
      unfold payload
      omega

theorem val_ofNat_of_isValidChar {n : Nat} (valid : n.isValidChar) :
    (Char.ofNat n).val.toNat = n := by
  rw [Char.ofNat, dif_pos valid]
  rfl

theorem ofNat_eq_of_toNat_eq {n : Nat} {b : UInt8} (same : n = b.toNat) : UInt8.ofNat n = b := by
  rw [same, UInt8.ofNat_toNat]

/-- A form is the encoding of its character. -/
theorem CharForm.utf8EncodeChar {bytes : Bytes} {n : Nat} (form : CharForm bytes n) :
    String.utf8EncodeChar (Char.ofNat n) = bytes := by
  have number := val_ofNat_of_isValidChar form.isValidChar
  unfold String.utf8EncodeChar
  simp only [number]
  cases form with
  | one small => rw [if_pos (Nat.le_of_lt_succ small), UInt8.ofNat_toNat]
  | two low high follows =>
      rw [isContinuation_iff] at follows
      unfold payload
      rw [if_neg (by omega), if_pos (by omega), ofNat_eq_of_toNat_eq, ofNat_eq_of_toNat_eq]
      all_goals omega
  | three low high follows more =>
      rw [followsThree_iff] at follows
      rw [isContinuation_iff] at more
      unfold payload
      rw [if_neg (by omega), if_neg (by omega), if_pos (by omega), ofNat_eq_of_toNat_eq,
        ofNat_eq_of_toNat_eq, ofNat_eq_of_toNat_eq]
      all_goals omega
  | four low high follows more last =>
      rw [followsFour_iff] at follows
      rw [isContinuation_iff] at more last
      unfold payload
      rw [if_neg (by omega), if_neg (by omega), if_neg (by omega), ofNat_eq_of_toNat_eq,
        ofNat_eq_of_toNat_eq, ofNat_eq_of_toNat_eq, ofNat_eq_of_toNat_eq]
      all_goals omega

/-- Every character is encoded in a form. -/
theorem CharForm.of_char (c : Char) : CharForm (String.utf8EncodeChar c) c.toNat := by
  have valid : c.val.toNat.isValidChar := c.valid
  unfold Nat.isValidChar at valid
  have toNat : c.toNat = c.val.toNat := rfl
  rw [toNat]
  unfold String.utf8EncodeChar
  generalize c.val.toNat = n at valid
  have byte {m : Nat} (small : m < 256) : (UInt8.ofNat m).toNat = m :=
    UInt8.toNat_ofNat_of_lt' small
  simp only
  split
  · have form := @CharForm.one (UInt8.ofNat n) (by rw [byte (by omega)]; omega)
    rwa [byte (by omega)] at form
  · split
    · have form := @CharForm.two (UInt8.ofNat (n / 64 % 32 + 192)) (UInt8.ofNat (n % 64 + 128))
        (by rw [byte (by omega)]; omega) (by rw [byte (by omega)]; omega)
        (by rw [isContinuation_iff, byte (by omega)]; omega)
      have same : (UInt8.ofNat (n / 64 % 32 + 192)).toNat % 32 * 64
          + payload (UInt8.ofNat (n % 64 + 128)) = n := by
        rw [payload, byte (by omega), byte (by omega)]
        omega
      rwa [same] at form
    · split
      · have form := @CharForm.three (UInt8.ofNat (n / 4096 % 16 + 224))
          (UInt8.ofNat (n / 64 % 64 + 128)) (UInt8.ofNat (n % 64 + 128))
          (by rw [byte (by omega)]; omega) (by rw [byte (by omega)]; omega)
          (by rw [followsThree_iff, byte (by omega), byte (by omega)]; omega)
          (by rw [isContinuation_iff, byte (by omega)]; omega)
        have same : (UInt8.ofNat (n / 4096 % 16 + 224)).toNat % 16 * 4096
            + payload (UInt8.ofNat (n / 64 % 64 + 128)) * 64
            + payload (UInt8.ofNat (n % 64 + 128)) = n := by
          rw [payload, payload, byte (by omega), byte (by omega), byte (by omega)]
          omega
        rwa [same] at form
      · have form := @CharForm.four (UInt8.ofNat (n / 262144 % 8 + 240))
          (UInt8.ofNat (n / 4096 % 64 + 128)) (UInt8.ofNat (n / 64 % 64 + 128))
          (UInt8.ofNat (n % 64 + 128))
          (by rw [byte (by omega)]; omega) (by rw [byte (by omega)]; omega)
          (by rw [followsFour_iff, byte (by omega), byte (by omega)]; omega)
          (by rw [isContinuation_iff, byte (by omega)]; omega)
          (by rw [isContinuation_iff, byte (by omega)]; omega)
        have same : (UInt8.ofNat (n / 262144 % 8 + 240)).toNat % 8 * 262144
            + payload (UInt8.ofNat (n / 4096 % 64 + 128)) * 4096
            + payload (UInt8.ofNat (n / 64 % 64 + 128)) * 64
            + payload (UInt8.ofNat (n % 64 + 128)) = n := by
          rw [payload, payload, payload, byte (by omega), byte (by omega), byte (by omega),
            byte (by omega)]
          omega
        rwa [same] at form

/-! ### Texts -/

/-- The pieces of a character's encoding and what follows are the character and the pieces of what
follows. -/
theorem pieces_utf8EncodeChar_append (c : Char) (rest : Bytes) :
    pieces (String.utf8EncodeChar c ++ rest) = some c :: pieces rest := by
  obtain ⟨a, tail, bytes, read⟩ := (CharForm.of_char c).firstPiece rest
  rw [bytes, List.cons_append, pieces, read, Char.ofNat_toNat]

/-- The encoding of characters is cut into them. -/
theorem pieces_flatMap_utf8EncodeChar (chars : List Char) :
    pieces (chars.flatMap String.utf8EncodeChar) = chars.map some := by
  induction chars with
  | nil => simp [pieces]
  | cons c chars ih =>
      rw [List.flatMap_cons, pieces_utf8EncodeChar_append, ih]
      rfl

/-- Bytes that are cut into characters only are their encoding. -/
theorem eq_flatMap_of_pieces {bytes : Bytes} {chars : List Char}
    (valid : pieces bytes = chars.map some) : bytes = chars.flatMap String.utf8EncodeChar := by
  induction chars generalizing bytes with
  | nil =>
      cases bytes with
      | nil => rfl
      | cons a rest =>
          rw [pieces] at valid
          cases valid
  | cons c chars ih =>
      cases bytes with
      | nil =>
          rw [pieces] at valid
          cases valid
      | cons a rest =>
          rw [pieces, List.map_cons, List.cons.injEq] at valid
          have read : firstPiece a rest = (some c, (firstPiece a rest).2) := by
            rw [← valid.1]
          obtain ⟨bytes, n, form, rfl, cut⟩ := CharForm.of_firstPiece read
          rw [cut, List.flatMap_cons, form.utf8EncodeChar, ← ih valid.2]

theorem mapM_id_eq_some_iff {pieces : List (Option Char)} {chars : List Char} :
    pieces.mapM id = some chars ↔ pieces = chars.map some := by
  induction pieces generalizing chars with
  | nil => cases chars <;> simp
  | cons piece pieces ih =>
      cases piece with
      | none => cases chars <;> simp
      | some c =>
          cases valid : pieces.mapM id with
          | none =>
              cases chars with
              | nil => simp [valid]
              | cons d chars => simp [valid, ← ih]
          | some found =>
              cases chars with
              | nil => simp [valid]
              | cons d chars => simp [valid, ← ih]

theorem encode_append (text more : String) :
    encode (text ++ more) = encode text ++ encode more := by
  rw [encode, String.toList_append, List.flatMap_append]
  rfl

/-- Bytes spell a text exactly when they are its encoding. -/
theorem decode?_eq_some_iff {bytes : Bytes} {text : String} :
    decode? bytes = some text ↔ bytes = encode text := by
  unfold decode? encode
  rw [Option.map_eq_some_iff]
  constructor
  · rintro ⟨chars, valid, rfl⟩
    rw [String.toList_ofList]
    exact eq_flatMap_of_pieces (mapM_id_eq_some_iff.mp valid)
  · rintro rfl
    refine ⟨text.toList, ?_, String.ofList_toList⟩
    rw [mapM_id_eq_some_iff, pieces_flatMap_utf8EncodeChar]

theorem decode?_encode (text : String) : decode? (encode text) = some text :=
  decode?_eq_some_iff.mpr rfl

/-- No two texts have the same encoding. -/
theorem encode_injective {text other : String} (same : encode text = encode other) :
    text = other := by
  have spelled := decode?_encode text
  rw [same, decode?_encode] at spelled
  exact (Option.some.inj spelled).symm

/-- A text read without regard to invalid parts comes back from its encoding. -/
theorem lossy_encode (text : String) : lossy (encode text) = text := by
  rw [lossy, encode, pieces_flatMap_utf8EncodeChar, List.map_map]
  simp [Function.comp_def]

/-! ### Ends of texts -/

/-- A form that ends in a byte below 0x80 is this byte alone. -/
theorem CharForm.eq_singleton {bytes : Bytes} {n : Nat} {last : UInt8} (form : CharForm bytes n)
    (ends : bytes.getLast? = some last) (small : last.toNat < 0x80) : bytes = [last] := by
  have none_of_continuation {b : UInt8} (follows : isContinuation b = true) (same : b = last) :
      False := by
    rw [isContinuation_iff, same] at follows
    omega
  cases form with
  | one => exact congrArg (fun byte => [byte]) (Option.some.inj ends)
  | two _ _ follows => exact (none_of_continuation follows (Option.some.inj ends)).elim
  | three _ _ _ follows => exact (none_of_continuation follows (Option.some.inj ends)).elim
  | four _ _ _ _ follows => exact (none_of_continuation follows (Option.some.inj ends)).elim

theorem CharForm.ne_nil {bytes : Bytes} {n : Nat} (form : CharForm bytes n) : bytes ≠ [] := by
  cases form <;> simp

/-- Bytes that spell a text spell one still without bytes below 0x80 at their end. -/
theorem exists_encode_of_append {before after : Bytes} {text : String}
    (small : ∀ byte ∈ after, byte.toNat < 0x80) (spelled : before ++ after = encode text) :
    ∃ start, before = encode start := by
  -- From the end: each of these bytes is the encoding of a character of its own.
  induction after using List.reverseRecOn generalizing text with
  | nil => exact ⟨text, by rwa [List.append_nil] at spelled⟩
  | append_singleton init last ih =>
      have bound : last.toNat < 0x80 := small last (by simp)
      rw [← List.append_assoc, encode] at spelled
      rcases List.eq_nil_or_concat text.toList with none | ⟨chars, c, chars_eq⟩
      · rw [none] at spelled
        simp at spelled
      · rw [chars_eq, List.concat_eq_append, List.flatMap_append, List.flatMap_singleton] at spelled
        have form := CharForm.of_char c
        have ends : (String.utf8EncodeChar c).getLast? = some last := by
          have same := congrArg List.getLast? spelled
          rwa [List.getLast?_concat, List.getLast?_append_of_ne_nil _ form.ne_nil, eq_comm] at same
        rw [form.eq_singleton ends bound] at spelled
        have shorter : before ++ init = encode (String.ofList chars) := by
          rw [encode, String.toList_ofList]
          exact (List.append_inj' spelled rfl).1
        exact ih (fun byte member => small byte (by simp [member])) shorter

end SessionHost.Text
