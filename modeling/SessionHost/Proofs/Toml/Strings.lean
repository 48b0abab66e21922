import SessionHost.Proofs.Toml.Quoting
import SessionHost.Toml.Expression

/-!
Every text is read back from the string that it is written as.
-/

namespace SessionHost.Toml

/-! ### Runs of a character -/

theorem le_longestRunFrom (c : Char) (current : Nat) (chars : List Char) :
    current ≤ longestRunFrom c current chars := by
  induction chars generalizing current with
  | nil => exact Nat.le_refl current
  | cons d rest ih =>
      unfold longestRunFrom
      split
      · exact Nat.le_trans (Nat.le_succ current) (ih (current + 1))
      · exact Nat.le_max_left _ _

/-- A character without a run does not occur. -/
theorem notMem_of_longestRun {c : Char} {chars : List Char} (none : longestRun c chars = 0) :
    c ∉ chars := by
  unfold longestRun at none
  induction chars with
  | nil => exact List.not_mem_nil
  | cons d rest ih =>
      unfold longestRunFrom at none
      split at none
      · have one := le_longestRunFrom c (0 + 1) rest
        omega
      · rename_i other
        rw [Nat.max_eq_zero_iff] at none
        rw [List.mem_cons, not_or]
        exact ⟨Ne.symm other, ih none.2⟩

/-! ### Literal strings -/

/-- A literal string on one line ends at the closing quote. -/
theorem splitLiteral_eq {chars : List Char}
    (raw : ∀ c ∈ chars, isControl c = false ∧ c ≠ '\'') (rest : List Char) :
    splitLiteral (chars ++ '\'' :: rest) = some (chars, rest) := by
  induction chars with
  | nil => rfl
  | cons c chars ih =>
      obtain ⟨⟨control, quote⟩, others⟩ := List.forall_mem_cons.mp raw
      rw [List.cons_append, splitLiteral]
      · simp [control, ih others]
      · exact quote

theorem splitLiteralLines_cons {c : Char} {rest : List Char} (line : isLineChar c rest = true)
    (quote : c ≠ '\'') :
    splitLiteralLines (c :: rest) = (splitLiteralLines rest).map (prepend [c]) := by
  rw [splitLiteralLines]
  · rw [if_pos line]
    rfl
  · rintro more rfl
    exact absurd rfl quote

/-- A literal string of several lines ends at the closing quotes, whatever quotes stand before it,
if it has no three quotes in a row. -/
theorem splitLiteralLines_eq {quotes : Nat} {chars : List Char}
    (raw : ∀ c ∈ chars, isControl c = false ∨ c = '\n')
    (runs : longestRunFrom '\'' quotes chars ≤ 2) {next : Char} (other : next ≠ '\'')
    (rest : List Char) :
    splitLiteralLines
        (List.replicate quotes '\'' ++ (chars ++ (['\'', '\'', '\''] ++ next :: rest)))
      = some (List.replicate quotes '\'' ++ chars, next :: rest) := by
  have few : quotes ≤ 2 := Nat.le_trans (le_longestRunFrom '\'' quotes chars) runs
  induction chars generalizing quotes with
  | nil =>
      have closing := closedBy_splitLiteralLines.split_closing few other rest
      rw [List.append_assoc] at closing
      rw [List.append_nil]
      exact closing
  | cons c chars ih =>
      obtain ⟨first, others⟩ := List.forall_mem_cons.mp raw
      unfold longestRunFrom at runs
      split at runs
      · subst c
        have more : List.replicate (quotes + 1) '\'' = List.replicate quotes '\'' ++ ['\''] :=
          List.replicate_succ'
        have found := ih others runs (Nat.le_trans (le_longestRunFrom _ _ chars) runs)
        rw [more, List.append_assoc, List.append_assoc] at found
        exact found
      · rename_i quote
        have line : isLineChar c (chars ++ (['\'', '\'', '\''] ++ next :: rest)) = true := by
          rcases first with control | rfl
          · simp [isLineChar, control]
          · rfl
        have found := ih others (Nat.le_trans (Nat.le_max_right quotes _) runs) (Nat.zero_le 2)
        rw [List.replicate_zero, List.nil_append, List.nil_append] at found
        rw [List.cons_append, closedBy_splitLiteralLines.split_quotes few quote,
          splitLiteralLines_cons line quote, found]
        rfl

/-! ### Strings of several lines -/

/-- A line end in front of a text that has line ends, and else nothing. -/
def lineStart (chars : List Char) : List Char := if chars.contains '\n' then ['\n'] else []

/-- A line end in front of a body belongs to it as far as its end is concerned. -/
theorem split_lineStart {split : List Char → Option (List Char × List Char)}
    (passes : ∀ rest, split ('\n' :: rest) = (split rest).map (prepend ['\n']))
    (chars rest : List Char) :
    split (lineStart chars ++ rest) = (split rest).map (prepend (lineStart chars)) := by
  unfold lineStart
  split
  · exact passes rest
  · exact (map_prepend_nil _).symm

/-- The first line end of a string belongs to it or not as it was written. -/
theorem dropFirstLineEnd_lineStart {chars body : List Char}
    (plain : '\n' ∉ chars → lineEnd? body = none) :
    dropFirstLineEnd (lineStart chars ++ body) = body := by
  unfold lineStart
  cases lines : chars.contains '\n' with
  | true => rfl
  | false =>
      have absent : '\n' ∉ chars := by simpa using lines
      simp [dropFirstLineEnd, plain absent]

/-- A line end is made of control characters. -/
theorem lineEnd?_eq_none {c : Char} (control : isControl c = false) (rest : List Char) :
    lineEnd? (c :: rest) = none := by
  unfold lineEnd?
  split
  · rename_i same
    obtain ⟨rfl, -⟩ := List.cons.inj same
    exact absurd control (by decide)
  · rename_i same
    obtain ⟨rfl, -⟩ := List.cons.inj same
    exact absurd control (by decide)
  · rfl

/-- The body of a text without line ends does not begin with one. -/
theorem Body.lineEnd?_eq_none {quotes : Nat} {text written : List Char}
    (body : Body true quotes text written) (plain : '\n' ∉ text) : lineEnd? written = none := by
  cases body with
  | nil => rfl
  | quote several few body => exact Toml.lineEnd?_eq_none (by decide) _
  | @plain _ c text written quote backslash raw body =>
      have line : c ≠ '\n' := by
        rintro rfl
        exact plain List.mem_cons_self
      exact Toml.lineEnd?_eq_none (raw.resolve_right fun end_ => line end_.2) _
  | escape escapes body =>
      obtain ⟨tail, rfl⟩ := escapes.exists_eq_cons
      exact Toml.lineEnd?_eq_none (by decide) _

/-- A body on one line does not begin with a quote. -/
theorem Body.ne_quote_cons {quotes : Nat} {text written : List Char}
    (body : Body false quotes text written) (rest : List Char) : written ≠ '"' :: rest := by
  cases body with
  | nil => simp
  | quote several few body => cases several
  | plain quote backslash raw body =>
      intro same
      exact quote (List.cons.inj same).1
  | escape escapes body =>
      obtain ⟨tail, rfl⟩ := escapes.exists_eq_cons
      simp

/-! ### Strings of each style -/

section

variable {next : Char} (double : next ≠ '"') (single : next ≠ '\'') (chars rest : List Char)

include double in
theorem readString_basic :
    readString (writeAs .basic chars ++ next :: rest) = some (chars, next :: rest) := by
  have body := body_basicBody false 0 chars
  have apart : writeAs .basic chars ++ next :: rest
      = '"' :: (basicBody false 0 chars ++ '"' :: next :: rest) := by simp [writeAs]
  rw [apart, readString]
  · simp only [readLineString, body.splitBasic_eq, Option.bind_eq_bind, Option.bind_some,
      body.decodeBasic_eq]
    rfl
  · intro more same
    cases same
  · -- The quotes at the beginning are not three.
    intro more same
    have inner := List.cons.inj same |>.2
    cases written : basicBody false 0 chars with
    | nil =>
        rw [written] at inner
        simp [double] at inner
    | cons c tail =>
        rw [written, List.cons_append] at inner
        obtain ⟨rfl, -⟩ := List.cons.inj inner
        exact body.ne_quote_cons tail written

include single in
theorem readString_literal (raw : ∀ c ∈ chars, isControl c = false ∧ c ≠ '\'') :
    readString (writeAs .literal chars ++ next :: rest) = some (chars, next :: rest) := by
  have apart : writeAs .literal chars ++ next :: rest
      = '\'' :: (chars ++ '\'' :: next :: rest) := by simp [writeAs]
  rw [apart, readString]
  · exact splitLiteral_eq raw (next :: rest)
  · intro more same
    have inner := List.cons.inj same |>.2
    cases chars with
    | nil => simp [single] at inner
    | cons c tail =>
        obtain ⟨rfl, -⟩ := List.cons.inj inner
        exact (raw _ List.mem_cons_self).2 rfl
  · intro more same
    cases same

include double in
theorem readString_basicLines :
    readString (writeAs .basicLines chars ++ next :: rest) = some (chars, next :: rest) := by
  have body := body_basicBody true 0 chars
  have apart : writeAs .basicLines chars ++ next :: rest = '"' :: '"' :: '"' ::
      (lineStart chars ++ (basicBody true 0 chars ++ (['"', '"', '"'] ++ next :: rest))) := by
    simp [writeAs, lineStart]
  have found := body.splitBasicLines_eq (Nat.zero_le 2) double rest
  rw [List.replicate_zero, List.nil_append, List.nil_append] at found
  have passes (rest : List Char) :
      splitBasicLines ('\n' :: rest) = (splitBasicLines rest).map (prepend ['\n']) :=
    splitBasicLines_cons rfl (by decide) (by decide)
  have inner := dropFirstLineEnd_lineStart (body.lineEnd?_eq_none ·)
  rw [apart, readString]
  simp only [split_lineStart passes, found, Option.bind_eq_bind, Option.map_some, Option.bind_some,
    prepend, inner, body.decodeBasic_eq]
  rfl

include single in
theorem readString_literalLines (raw : ∀ c ∈ chars, isControl c = false ∨ c = '\n')
    (runs : longestRun '\'' chars ≤ 2) :
    readString (writeAs .literalLines chars ++ next :: rest) = some (chars, next :: rest) := by
  have apart : writeAs .literalLines chars ++ next :: rest = '\'' :: '\'' :: '\'' ::
      (lineStart chars ++ (chars ++ (['\'', '\'', '\''] ++ next :: rest))) := by
    simp [writeAs, lineStart]
  have found : splitLiteralLines (chars ++ (['\'', '\'', '\''] ++ next :: rest))
      = some (chars, next :: rest) := @splitLiteralLines_eq 0 chars raw runs next single rest
  have passes (rest : List Char) :
      splitLiteralLines ('\n' :: rest) = (splitLiteralLines rest).map (prepend ['\n']) :=
    splitLiteralLines_cons rfl (by decide)
  have plain : '\n' ∉ chars → lineEnd? chars = none := by
    intro absent
    cases chars with
    | nil => rfl
    | cons c tail =>
        have line : c ≠ '\n' := by
          rintro rfl
          exact absent List.mem_cons_self
        exact lineEnd?_eq_none ((raw c List.mem_cons_self).resolve_right line) tail
  rw [apart, readString]
  simp only [split_lineStart passes, found, Option.bind_eq_bind, Option.map_some, Option.bind_some,
    prepend, dropFirstLineEnd_lineStart plain]
  rfl

end

/-! ### Texts -/

/-- What needs no escape is a line end or no control character. -/
theorem raw_of_needsEscape {chars : List Char} (codes : chars.any needsEscape = false) :
    ∀ c ∈ chars, isControl c = false ∨ c = '\n' := by
  intro c member
  have plain : needsEscape c = false := by simpa using List.any_eq_false.mp codes c member
  cases control : isControl c with
  | false => exact .inl rfl
  | true => exact .inr (by simpa [needsEscape, control] using plain)

/-- A text is put between single quotes only under conditions. -/
theorem styleOf_cases (chars : List Char) :
    (styleOf chars = .basic ∨ styleOf chars = .basicLines) ∨
      (styleOf chars = .literal ∧ chars.any needsEscape = false ∧ longestRun '\'' chars = 0 ∧
        '\n' ∉ chars) ∨
      (styleOf chars = .literalLines ∧ chars.any needsEscape = false ∧
        longestRun '\'' chars ≤ 2) := by
  unfold styleOf
  dsimp only
  split
  · exact .inl (.inl rfl)
  split
  · rename_i plain
    simp only [Bool.and_eq_true, Bool.not_eq_true', decide_eq_true_eq] at plain
    obtain ⟨⟨codes, single⟩, lines⟩ := plain
    exact .inr (.inl ⟨rfl, codes, single, by simpa using lines⟩)
  split
  · exact .inl (.inr rfl)
  split
  · rename_i plain
    simp only [Bool.and_eq_true, Bool.not_eq_true', decide_eq_true_eq] at plain
    exact .inr (.inr ⟨rfl, plain⟩)
  split
  · exact .inl (.inr rfl)
  · exact .inl (.inl rfl)

/-- What one line between single quotes cannot hold is not in a text without escapes, single quotes
and line ends. -/
theorem raw_of_literal {chars : List Char} (codes : chars.any needsEscape = false)
    (single : longestRun '\'' chars = 0) (lines : '\n' ∉ chars) :
    ∀ c ∈ chars, isControl c = false ∧ c ≠ '\'' := by
  intro c member
  constructor
  · have line : c ≠ '\n' := by
      rintro rfl
      exact lines member
    exact (raw_of_needsEscape codes c member).resolve_right line
  · rintro rfl
    exact notMem_of_longestRun single member

/-- **A text is read back from the string that it is written as**, whatever is in it, if no quote
comes after it. -/
theorem readString_writeText {next : Char} (double : next ≠ '"') (single : next ≠ '\'')
    (chars rest : List Char) :
    readString (writeText chars ++ next :: rest) = some (chars, next :: rest) := by
  unfold writeText
  rcases styleOf_cases chars with (style | style) | ⟨style, codes, none, lines⟩ | ⟨style, codes, few⟩
  · rw [style]
    exact readString_basic double chars rest
  · rw [style]
    exact readString_basicLines double chars rest
  · rw [style]
    exact readString_literal single chars rest (raw_of_literal codes none lines)
  · rw [style]
    exact readString_literalLines single chars rest (raw_of_needsEscape codes) few

/-- A string begins with a quote. -/
theorem exists_writeText_eq_cons (chars : List Char) :
    ∃ quote tail, (quote = '"' ∨ quote = '\'') ∧ writeText chars = quote :: tail := by
  unfold writeText
  cases styleOf chars with
  | basic => exact ⟨'"', _, .inl rfl, rfl⟩
  | literal => exact ⟨'\'', _, .inr rfl, rfl⟩
  | basicLines => exact ⟨'"', _, .inl rfl, rfl⟩
  | literalLines => exact ⟨'\'', _, .inr rfl, rfl⟩

/-- The string of a text is a value of a document. -/
theorem readValue_writeText {next : Char} (double : next ≠ '"') (single : next ≠ '\'')
    (depth : Nat) (chars rest : List Char) :
    readValue depth (writeText chars ++ next :: rest) = some (.text chars, next :: rest) := by
  have read := readString_writeText double single chars rest
  obtain ⟨quote, tail, mark, written⟩ := exists_writeText_eq_cons chars
  rw [written, List.cons_append] at read ⊢
  have simple : readSimple (quote :: (tail ++ next :: rest))
      = some (.text chars, next :: rest) := by
    rcases mark with rfl | rfl
    · simp only [readSimple, read, Option.map_some]
    · simp only [readSimple, read, Option.map_some]
  rcases mark with rfl | rfl
  · cases depth <;> exact simple
  · cases depth <;> exact simple

end SessionHost.Toml
