import Mathlib.Data.List.DropRight
import SessionHost.Text.Blank

/-!
Texts that trimming leaves as they are.
-/

namespace SessionHost.Text

/-- A text that neither begins nor ends with a blank. -/
def Unpadded (text : String) : Prop :=
  text.toList.head?.any isBlank = false ∧ text.toList.getLast?.any isBlank = false

instance (text : String) : Decidable (Unpadded text) := inferInstanceAs (Decidable (_ ∧ _))

theorem trimChars_eq_self_iff {chars : List Char} :
    trimChars chars = chars ↔
      chars.dropWhile isBlank = chars ∧ chars.rdropWhile isBlank = chars := by
  have parts : trimChars chars = (chars.dropWhile isBlank).rdropWhile isBlank := rfl
  rw [parts]
  constructor
  · intro same
    have long : chars.length ≤ (chars.dropWhile isBlank).length := by
      have shorter := (List.rdropWhile_prefix isBlank (chars.dropWhile isBlank)).length_le
      rwa [same] at shorter
    have start : chars.dropWhile isBlank = chars :=
      (List.dropWhile_suffix isBlank).eq_of_length_le long
    rw [start] at same
    exact ⟨start, same⟩
  · rintro ⟨start, last⟩
    rw [start, last]

/-- Trimming leaves exactly those texts as they are that have no blanks at their ends. -/
theorem trim_eq_self_iff {text : String} : trim text = text ↔ Unpadded text := by
  have chars : trim text = text ↔ trimChars text.toList = text.toList := by
    constructor
    · intro same
      have listed := congrArg String.toList same
      rwa [trim, String.toList_ofList] at listed
    · intro same
      rw [trim, same, String.ofList_toList]
  rw [chars, trimChars_eq_self_iff, List.rdropWhile_eq_self_iff]
  unfold Unpadded
  refine and_congr ?_ ?_
  · cases text.toList with
    | nil => simp
    | cons c rest => simp [List.dropWhile_eq_self_iff]
  · rcases List.eq_nil_or_concat text.toList with none | ⟨init, last, ends⟩
    · simp [none]
    · simp [ends]

end SessionHost.Text
