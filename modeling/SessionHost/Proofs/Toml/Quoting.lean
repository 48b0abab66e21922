import SessionHost.Toml.Quoted
import SessionHost.Toml.Writer

/-!
Texts that are written as strings are read back.
-/

namespace SessionHost.Toml

/-! ### Escapes -/

/-- The characters are an escape that stands for the character. -/
inductive Escapes (c : Char) : List Char → Prop where
  | short {letter : Char} (names : shortEscape? letter = some c) : Escapes c ['\\', letter]
  | digits {a b d e : Char} (names : hexChar? [a, b, d, e] = some c) :
      Escapes c ['\\', 'u', a, b, d, e]

/-- The digits of a number of seven bits name the character of this number. -/
theorem hexChar?_fourDigits :
    ∀ n < 128, (fourDigits n).length = 4 ∧ hexChar? (fourDigits n) = some (Char.ofNat n) := by
  decide

theorem toNat_lt_of_isControl {c : Char} (control : isControl c = true) : c.toNat < 128 := by
  simp only [isControl, Bool.or_eq_true, Bool.and_eq_true, decide_eq_true_eq] at control
  omega

/-- The escape of a control character stands for it. -/
theorem escapes_controlEscape {c : Char} (control : isControl c = true ∨ c = '\t') :
    Escapes c (controlEscape c) := by
  unfold controlEscape
  split
  · subst c; exact .short rfl
  split
  · subst c; exact .short rfl
  split
  · subst c; exact .short rfl
  split
  · subst c; exact .short rfl
  split
  · subst c; exact .short rfl
  have small : c.toNat < 128 := by
    rcases control with control | rfl
    · exact toNat_lt_of_isControl control
    · decide
  obtain ⟨four, names⟩ := hexChar?_fourDigits c.toNat small
  rw [Char.ofNat_toNat] at names
  obtain ⟨a, b, d, e, digits⟩ : ∃ a b d e, fourDigits c.toNat = [a, b, d, e] := by
    match fourDigits c.toNat, four with
    | [a, b, d, e], _ => exact ⟨a, b, d, e, rfl⟩
  rw [digits] at names ⊢
  exact .digits names

/-- A letter after a backslash is no control character. -/
theorem not_isControl_of_shortEscape? {letter c : Char} (names : shortEscape? letter = some c) :
    isControl letter = false := by
  unfold shortEscape? at names
  split at names <;> first | rfl | cases names

/-- Digits in base sixteen are neither control characters nor marks of a string. -/
theorem plain_of_isHex {c : Char} (hex : isHex c = true) :
    isControl c = false ∧ c ≠ '"' ∧ c ≠ '\\' := by
  refine ⟨?_, ?_, ?_⟩
  · cases control : isControl c with
    | false => rfl
    | true =>
        have small := toNat_lt_of_isControl control
        have never : ∀ n < 128, isHex (Char.ofNat n) = true → isControl (Char.ofNat n) = false := by
          decide
        rw [← never c.toNat small (by rwa [Char.ofNat_toNat]), Char.ofNat_toNat, control]
  · rintro rfl
    exact absurd hex (by decide)
  · rintro rfl
    exact absurd hex (by decide)

theorem isHex_of_hexChar? {digits : List Char} {c : Char} (names : hexChar? digits = some c) :
    ∀ digit ∈ digits, isHex digit = true := by
  unfold hexChar? at names
  split at names
  · rename_i all
    exact List.all_eq_true.mp all
  · cases names

/-! ### The end of a string -/

/-- Puts characters in front of a body whose end was found. -/
def prepend (front : List Char) (found : List Char × List Char) : List Char × List Char :=
  (front ++ found.1, found.2)

theorem map_prepend_nil (found : Option (List Char × List Char)) :
    found.map (prepend []) = found := by
  cases found <;> rfl

theorem map_prepend_map_prepend (front more : List Char) (found : Option (List Char × List Char)) :
    (found.map (prepend more)).map (prepend front) = found.map (prepend (front ++ more)) := by
  rw [Option.map_map]
  congr 1
  funext pair
  exact Prod.ext (List.append_assoc front more pair.1).symm rfl

/-- A search for the end of a basic string passes over what does not end it. -/
structure PassesOver (split : List Char → Option (List Char × List Char)) : Prop where
  plain : ∀ {c : Char}, isControl c = false → c ≠ '"' → c ≠ '\\' → ∀ rest,
    split (c :: rest) = (split rest).map (prepend [c])
  escaped : ∀ {c : Char}, isControl c = false → ∀ rest,
    split ('\\' :: c :: rest) = (split rest).map (prepend ['\\', c])

theorem passesOver_splitBasic : PassesOver splitBasic where
  plain {c} control quote backslash rest := by
    rw [splitBasic]
    · simp only [control, Bool.false_eq_true, if_false]
      rfl
    · exact quote
    · intro d more same
      exact absurd same backslash
  escaped {c} control rest := by
    rw [splitBasic]
    simp only [control, Bool.false_eq_true, if_false]
    rfl

theorem splitBasicLines_cons {c : Char} {rest : List Char} (line : isLineChar c rest = true)
    (quote : c ≠ '"') (backslash : c ≠ '\\') :
    splitBasicLines (c :: rest) = (splitBasicLines rest).map (prepend [c]) := by
  rw [splitBasicLines]
  · rw [if_pos line]
    rfl
  · rintro more rfl
    exact absurd rfl quote
  · intro d more same
    exact absurd same backslash

theorem passesOver_splitBasicLines : PassesOver splitBasicLines where
  plain {c} control quote backslash rest :=
    splitBasicLines_cons (by simp [isLineChar, control]) quote backslash
  escaped {c} control rest := by
    have line : isLineChar c rest = true := by simp [isLineChar, control]
    rw [splitBasicLines, if_pos line]
    rfl

/-- Three quotes end a string of several lines, and fewer do not. -/
structure ClosedBy (quote : Char) (split : List Char → Option (List Char × List Char)) : Prop where
  three : ∀ rest, split (quote :: quote :: quote :: rest) = some (closeQuotes quote rest)
  fewer : ∀ {rest : List Char}, ¬ [quote, quote] <+: rest →
    split (quote :: rest) = (split rest).map (prepend [quote])

theorem closedBy_splitBasicLines : ClosedBy '"' splitBasicLines where
  three rest := by rw [splitBasicLines]
  fewer {rest} short := by
    rw [splitBasicLines]
    · rw [if_pos (by simp [isLineChar, isControl])]
      rfl
    · rintro more -
      rintro rfl
      exact short ⟨more, rfl⟩
    · simp

theorem closedBy_splitLiteralLines : ClosedBy '\'' splitLiteralLines where
  three rest := by rw [splitLiteralLines]
  fewer {rest} short := by
    rw [splitLiteralLines]
    · rw [if_pos (by simp [isLineChar, isControl])]
      rfl
    · rintro more -
      rintro rfl
      exact short ⟨more, rfl⟩

namespace ClosedBy

variable {quote next : Char} {split : List Char → Option (List Char × List Char)}

/-- Up to two quotes before another character belong to the body. -/
theorem split_quotes (closed : ClosedBy quote split) {n : Nat} (few : n ≤ 2)
    (other : next ≠ quote) (rest : List Char) :
    split (List.replicate n quote ++ next :: rest)
      = (split (next :: rest)).map (prepend (List.replicate n quote)) := by
  have one : split (quote :: next :: rest) = (split (next :: rest)).map (prepend [quote]) :=
    closed.fewer (by simp [other.symm])
  match n, few with
  | 0, _ => exact (map_prepend_nil _).symm
  | 1, _ => exact one
  | 2, _ =>
      have two : split (quote :: quote :: next :: rest)
          = (split (quote :: next :: rest)).map (prepend [quote]) :=
        closed.fewer (by simp [other.symm])
      refine two.trans ?_
      rw [one, map_prepend_map_prepend]
      rfl

/-- Up to two quotes before the three that close a string belong to its body. -/
theorem split_closing (closed : ClosedBy quote split) {n : Nat} (few : n ≤ 2)
    (other : next ≠ quote) (rest : List Char) :
    split (List.replicate n quote ++ [quote, quote, quote] ++ next :: rest)
      = some (List.replicate n quote, next :: rest) := by
  match n, few with
  | 0, _ => exact (closed.three _).trans (by simp [closeQuotes, other])
  | 1, _ => exact (closed.three _).trans (by simp [closeQuotes, other])
  | 2, _ => exact (closed.three _).trans (by simp [closeQuotes, other])

end ClosedBy

/-! ### Escapes in strings -/

namespace Escapes

variable {c : Char} {written : List Char}

/-- An escape is decoded to its character. -/
theorem decodeBasic_append (escapes : Escapes c written) (several : Bool) (rest : List Char) :
    decodeBasic several .plain (written ++ rest)
      = (decodeBasic several .plain rest).map (c :: ·) := by
  cases escapes with
  | short names => simp [decodeBasic, names]
  | digits names => simp [decodeBasic, shortEscape?, escapeWidth?, names]

/-- An escape does not end a string. -/
theorem split_append (escapes : Escapes c written)
    {split : List Char → Option (List Char × List Char)} (passes : PassesOver split)
    (rest : List Char) :
    split (written ++ rest) = (split rest).map (prepend written) := by
  cases escapes with
  | short names => exact passes.escaped (not_isControl_of_shortEscape? names) rest
  | @digits a b d e names =>
      have digit (x : Char) (member : x ∈ [a, b, d, e]) (rest : List Char) :
          split (x :: rest) = (split rest).map (prepend [x]) := by
        obtain ⟨control, quote, backslash⟩ := plain_of_isHex (isHex_of_hexChar? names x member)
        exact passes.plain control quote backslash rest
      simp only [List.cons_append, List.nil_append]
      rw [passes.escaped (by decide), digit a (by simp), digit b (by simp), digit d (by simp),
        digit e (by simp)]
      simp only [map_prepend_map_prepend, List.cons_append, List.nil_append]

/-- An escape begins with a backslash. -/
theorem exists_eq_cons (escapes : Escapes c written) : ∃ rest, written = '\\' :: rest := by
  cases escapes with
  | short names => exact ⟨_, rfl⟩
  | digits names => exact ⟨_, rfl⟩

end Escapes

/-! ### Basic strings -/

/-- What may stand for a text in a basic string, on one line or in several `lines`, if `quotes` are
written just before it. A string of several lines may hold two quotes in a row as they are, and line
ends. -/
inductive Body (lines : Bool) : Nat → List Char → List Char → Prop where
  | nil (quotes : Nat) : Body lines quotes [] []
  | quote {quotes : Nat} {text written : List Char} (several : lines = true) (few : quotes < 2)
      (body : Body lines (quotes + 1) text written) :
      Body lines quotes ('"' :: text) ('"' :: written)
  | plain {quotes : Nat} {c : Char} {text written : List Char} (quote : c ≠ '"')
      (backslash : c ≠ '\\') (raw : isControl c = false ∨ lines = true ∧ c = '\n')
      (body : Body lines 0 text written) : Body lines quotes (c :: text) (c :: written)
  | escape {quotes : Nat} {c : Char} {text chunk written : List Char} (escapes : Escapes c chunk)
      (body : Body lines 0 text written) : Body lines quotes (c :: text) (chunk ++ written)

/-- The body that is written for a text stands for it. -/
theorem body_basicBody (lines : Bool) (quotes : Nat) (chars : List Char) :
    Body lines quotes chars (basicBody lines quotes chars) := by
  -- The cases are those in which a character is written.
  induction chars generalizing quotes with
  | nil => exact .nil quotes
  | cons c rest ih =>
      unfold basicBody
      split
      · subst c
        split
        · rename_i raw
          obtain ⟨several, few⟩ := Bool.and_eq_true_iff.mp raw
          exact .quote several (of_decide_eq_true few) (ih _)
        · exact .escape (.short rfl) (ih 0)
      · rename_i quote
        split
        · subst c
          exact .escape (.short rfl) (ih 0)
        · rename_i backslash
          split
          · rename_i control
            refine .escape (escapes_controlEscape ?_) (ih 0)
            simp only [Bool.or_eq_true, decide_eq_true_eq, Bool.and_eq_true] at control
            exact control.symm.imp_left And.left
          · rename_i raw
            refine .plain quote backslash ?_ (ih 0)
            cases control : isControl c with
            | false => exact .inl rfl
            | true =>
                have line : c ≠ '\t' ∧ lines = true ∧ c = '\n' := by simpa [control] using raw
                exact .inr line.2

namespace Body

variable {lines : Bool} {quotes : Nat} {text written : List Char}

/-- A body is decoded to the text that it stands for. -/
theorem decodeBasic_eq (body : Body lines quotes text written) :
    decodeBasic lines .plain written = some text := by
  induction body with
  | nil quotes => rfl
  | quote several few body ih => simp [decodeBasic, ih]
  | plain quote backslash raw body ih => simp [decodeBasic, backslash, ih]
  | escape escapes body ih => rw [escapes.decodeBasic_append, ih]; rfl

/-- A body on one line ends at the closing quote. -/
theorem splitBasic_eq (body : Body false quotes text written) (rest : List Char) :
    splitBasic (written ++ '"' :: rest) = some (written, rest) := by
  induction body with
  | nil quotes => rfl
  | quote several few body ih => cases several
  | plain quote backslash raw body ih =>
      have control := raw.resolve_right (by simp)
      rw [List.cons_append, passesOver_splitBasic.plain control quote backslash, ih]
      rfl
  | escape escapes body ih =>
      rw [List.append_assoc, escapes.split_append passesOver_splitBasic, ih]
      rfl

/-- A body of several lines ends at the closing quotes, whatever quotes stand before it. -/
theorem splitBasicLines_eq (body : Body true quotes text written) (few : quotes ≤ 2)
    {next : Char} (other : next ≠ '"') (rest : List Char) :
    splitBasicLines
        (List.replicate quotes '"' ++ (written ++ (['"', '"', '"'] ++ next :: rest)))
      = some (List.replicate quotes '"' ++ written, next :: rest) := by
  -- The quotes before the body are read only once it is clear that they do not close it.
  induction body with
  | nil quotes =>
      have closing := closedBy_splitBasicLines.split_closing few other rest
      rw [List.append_assoc] at closing
      rw [List.append_nil]
      exact closing
  | @quote quotes text written several few' body ih =>
      have more : List.replicate (quotes + 1) '"' = List.replicate quotes '"' ++ ['"'] :=
        List.replicate_succ'
      have found := ih few'
      rw [more, List.append_assoc, List.append_assoc] at found
      exact found
  | @plain quotes c text written quote backslash raw body ih =>
      have line : isLineChar c (written ++ (['"', '"', '"'] ++ next :: rest)) = true := by
        rcases raw with control | ⟨-, rfl⟩
        · simp [isLineChar, control]
        · rfl
      have found := ih (Nat.zero_le 2)
      rw [List.replicate_zero, List.nil_append, List.nil_append] at found
      rw [List.cons_append, closedBy_splitBasicLines.split_quotes few quote,
        splitBasicLines_cons line quote backslash, found]
      rfl
  | @escape quotes c text chunk written escapes body ih =>
      obtain ⟨tail, same⟩ := escapes.exists_eq_cons
      have found := ih (Nat.zero_le 2)
      rw [List.replicate_zero, List.nil_append, List.nil_append] at found
      have mark : '\\' ≠ '"' := by decide
      have quoted := closedBy_splitBasicLines.split_quotes few mark
        (tail ++ (written ++ (['"', '"', '"'] ++ next :: rest)))
      rw [← List.cons_append, ← same, escapes.split_append passesOver_splitBasicLines, found]
        at quoted
      rw [List.append_assoc]
      exact quoted

end Body

end SessionHost.Toml
