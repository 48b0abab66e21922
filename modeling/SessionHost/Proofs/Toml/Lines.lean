import SessionHost.Proofs.Toml.Strings
import SessionHost.Toml.Document

/-!
Lines that are read back, and lines that are none.

`readLines_textLine` is about a run of lines that give texts to keys that differ and need no quotes.
`parse?_eq_none_of_begins` is about texts that begin with a header that does not end after its keys.
-/

namespace SessionHost.Toml

/-! ### Keys -/

/-- A key that needs no quotes. -/
structure IsBareKey (key : List Char) : Prop where
  nonempty : key ≠ []
  bare : ∀ c ∈ key, isBare c = true

namespace IsBareKey

variable {key : List Char}

/-- The first character of a bare key is none that is not bare. -/
theorem exists_eq_cons (whole : IsBareKey key) :
    ∃ c tail, key = c :: tail ∧ ∀ mark, isBare mark = false → c ≠ mark := by
  obtain ⟨c, tail, rfl⟩ := List.exists_cons_of_ne_nil whole.nonempty
  refine ⟨c, tail, rfl, ?_⟩
  rintro mark other rfl
  rw [whole.bare c List.mem_cons_self] at other
  cases other

/-- A bare key is read up to its end. -/
theorem readKey_append (whole : IsBareKey key) {next : Char} (other : isBare next = false)
    (rest : List Char) : readKey (key ++ next :: rest) = some (key, next :: rest) := by
  have word : (key ++ next :: rest).takeWhile isBare = key := by
    rw [List.takeWhile_append_of_pos whole.bare, List.takeWhile_cons_of_neg (by simp [other]),
      List.append_nil]
  obtain ⟨c, tail, same, differs⟩ := whole.exists_eq_cons
  have unquoted : readKey (key ++ next :: rest)
      = let word := (key ++ next :: rest).takeWhile isBare
        if word.isEmpty then none
        else some (word, (key ++ next :: rest).drop word.length) := by
    rw [same, List.cons_append, readKey]
    · intro more first
      exact differs '"' (by decide) (List.cons.inj first).1
    · intro more first
      exact differs '\'' (by decide) (List.cons.inj first).1
  rw [unquoted, word]
  simp [whole.nonempty]

end IsBareKey

theorem skipSpaces_cons {c : Char} (word : isSpace c = false) (rest : List Char) :
    skipSpaces (c :: rest) = c :: rest := by
  rw [skipSpaces, List.dropWhile_cons_of_neg (by simp [word])]

theorem skipSpaces_space (rest : List Char) : skipSpaces (' ' :: rest) = skipSpaces rest :=
  List.dropWhile_cons_of_pos rfl

namespace IsBareKey

variable {key : List Char}

/-- No space stands in front of a bare key. -/
theorem skipSpaces_append (whole : IsBareKey key) (rest : List Char) :
    skipSpaces (key ++ rest) = key ++ rest := by
  obtain ⟨c, tail, same, differs⟩ := whole.exists_eq_cons
  have word : isSpace c = false := by
    simp [isSpace, differs ' ' (by decide), differs '\t' (by decide)]
  rw [same, List.cons_append, skipSpaces_cons word]

/-- A path of one bare key is read up to the next word. -/
theorem readPath_append (whole : IsBareKey key) {next : Char} (word : isSpace next = false)
    (single : next ≠ '.') (rest : List Char) :
    readPath (key ++ ' ' :: next :: rest) = some ([key], next :: rest) := by
  rw [readPath, longestPath, readKeys, whole.readKey_append (by decide)]
  simp only [Option.bind_eq_bind, Option.bind_some, skipSpaces_space, skipSpaces_cons word]
  split
  · rename_i dotted
    exact absurd (List.cons.inj dotted).1 single
  · rfl

end IsBareKey

/-! ### Lines -/

/-- The line that gives a key a text, both as characters. -/
def textLine (entry : List Char × List Char) : List Char :=
  entry.1 ++ [' ', '=', ' '] ++ writeText entry.2 ++ ['\n']

/-- Lines begin with a bare key, if there are any. -/
theorem flatMap_textLine_ne_cons {entries : List (List Char × List Char)}
    (bare : ∀ entry ∈ entries, IsBareKey entry.1) {mark : Char} (other : isBare mark = false)
    (rest : List Char) : entries.flatMap textLine ≠ mark :: rest := by
  cases entries with
  | nil => simp
  | cons entry entries =>
      obtain ⟨c, tail, same, differs⟩ := (bare entry List.mem_cons_self).exists_eq_cons
      simp [textLine, same, differs mark other]

/-- A key with its text is read up to the end of the line. -/
theorem readKeyValue_textLine {key : List Char} (whole : IsBareKey key) (chars rest : List Char) :
    readKeyValue (textLine (key, chars) ++ rest) = some ([key], .text chars, '\n' :: rest) := by
  have apart : textLine (key, chars) ++ rest
      = key ++ ' ' :: '=' :: ' ' :: (writeText chars ++ '\n' :: rest) := by simp [textLine]
  have path : readPath (key ++ ' ' :: '=' :: ' ' :: (writeText chars ++ '\n' :: rest))
      = some ([key], '=' :: ' ' :: (writeText chars ++ '\n' :: rest)) :=
    whole.readPath_append (by decide) (by decide) _
  obtain ⟨quote, tail, mark, written⟩ := exists_writeText_eq_cons chars
  have word : isSpace quote = false := by rcases mark with rfl | rfl <;> rfl
  have start : skipSpaces (writeText chars ++ '\n' :: rest) = writeText chars ++ '\n' :: rest := by
    rw [written, List.cons_append, skipSpaces_cons word]
  have value : readValue deepest (writeText chars ++ '\n' :: rest)
      = some (.text chars, '\n' :: rest) :=
    readValue_writeText (by decide) (by decide) deepest chars rest
  rw [apart, readKeyValue, path]
  simp only [Option.bind_eq_bind, Option.bind_some, skipSpaces_space,
    skipSpaces_cons (show isSpace '=' = false by decide), start, value]
  rfl

/-- Nothing is left of a line at its end. -/
theorem endLine_lineEnd (rest : List Char) : endLine ('\n' :: rest) = some rest := by
  have start : skipSpaces ('\n' :: rest) = '\n' :: rest := skipSpaces_cons (by decide) rest
  simp [endLine, start, lineEnd?]

/-- A line that gives a text to a key adds them where keys go. -/
theorem readLine_textLine {key : List Char} (whole : IsBareKey key) (chars rest : List Char)
    (draft : Draft) :
    readLine draft (textLine (key, chars) ++ rest)
      = (draft.addKey? [key] (.text chars)).map fun grown => (grown, rest) := by
  have read := readKeyValue_textLine whole chars rest
  obtain ⟨c, tail, same, differs⟩ := whole.exists_eq_cons
  obtain ⟨more, input⟩ : ∃ more, textLine (key, chars) ++ rest = c :: more := by
    simp [textLine, same]
  have start : skipSpaces (textLine (key, chars) ++ rest) = c :: more := by
    have apart : textLine (key, chars) ++ rest
        = key ++ (' ' :: '=' :: ' ' :: (writeText chars ++ '\n' :: rest)) := by simp [textLine]
    rw [apart, whole.skipSpaces_append, ← apart, input]
  have filled : ((c :: more).isEmpty
      || (c :: more).head?.any fun c => c = '#' || c = '\n' || c = '\r') = false := by
    simp [differs '#' (by decide), differs '\n' (by decide), differs '\r' (by decide)]
  rw [readLine, start]
  split
  · rename_i header
    exact absurd (List.cons.inj header).1 (differs '[' (by decide))
  · rename_i header
    exact absurd (List.cons.inj header).1 (differs '[' (by decide))
  · rw [filled, if_neg (by simp), ← input, read]
    simp only [Option.bind_eq_bind, Option.bind_some, endLine_lineEnd]
    exact (Option.map_eq_bind).symm

/-- A key that a document does not have is added at its end. -/
theorem addKey?_root {entries : List (List Char × Value)} {key : List Char}
    (missing : entries.lookup key = none) (value : Value) :
    (Draft.mk ⟨.header, entries⟩ []).addKey? [key] value
      = some ⟨⟨.header, entries ++ [(key, value)]⟩, []⟩ := by
  simp [Draft.addKey?, splitPath?, Draft.change?, Table.descend, Table.addKey?, Table.insert?,
    Table.get?, missing]

/-- **Lines that give texts to keys are read back**, if the keys need no quotes and no two are the
same. -/
theorem readLines_textLine {before : List (List Char × Value)}
    {entries : List (List Char × List Char)} (bare : ∀ entry ∈ entries, IsBareKey entry.1)
    (missing : ∀ entry ∈ entries, before.lookup entry.1 = none)
    (distinct : (entries.map Prod.fst).Nodup) :
    readLines ⟨⟨.header, before⟩, []⟩ (entries.flatMap textLine)
      = some ⟨⟨.header, before ++ entries.map fun entry => (entry.1, .text entry.2)⟩, []⟩ := by
  induction entries generalizing before with
  | nil => simp [readLines]
  | cons entry entries ih =>
      obtain ⟨key, chars⟩ := entry
      obtain ⟨whole, others⟩ := List.forall_mem_cons.mp bare
      obtain ⟨first, later⟩ := List.forall_mem_cons.mp missing
      rw [List.map_cons, List.nodup_cons] at distinct
      obtain ⟨unlike, distinct⟩ := distinct
      let after : List (List Char × Value) := before ++ [(key, .text chars)]
      have line : readLine ⟨⟨.header, before⟩, []⟩
          (textLine (key, chars) ++ entries.flatMap textLine)
          = some (⟨⟨.header, after⟩, []⟩, entries.flatMap textLine) := by
        rw [readLine_textLine whole, addKey?_root first]
        rfl
      have still : ∀ entry ∈ entries, after.lookup entry.1 = none := by
        intro entry member
        have other : (entry.1 == key) = false := by
          rw [beq_eq_false_iff_ne]
          rintro rfl
          exact unlike (List.mem_map.mpr ⟨entry, member, rfl⟩)
        rw [List.lookup_append, later entry member, List.lookup_cons, other]
        rfl
      have shorter : (entries.flatMap textLine).length
          < (textLine (key, chars) ++ entries.flatMap textLine).length := by
        simp [textLine]
        omega
      have some : (textLine (key, chars) ++ entries.flatMap textLine).isEmpty = false := by
        simp [textLine]
      rw [List.flatMap_cons, readLines, some, if_neg (by simp), line]
      simp only [if_pos shorter]
      rw [ih others still distinct]
      simp [after]

/-! ### Broken headers -/

section

variable {key : List Char} {next : Char} {rest : List Char}

/-- A header has nothing but a path in its brackets. -/
theorem readLine_eq_none (whole : IsBareKey key) (word : isSpace next = false)
    (apart : next ≠ '.' ∧ next ≠ ']') (draft : Draft) :
    readLine draft ('[' :: (key ++ ' ' :: next :: rest)) = none := by
  have header : readHeader false (key ++ ' ' :: next :: rest) = none := by
    rw [readHeader, whole.skipSpaces_append, whole.readPath_append word apart.1]
    simp only [Option.bind_eq_bind, Option.bind_some, skipSpaces_cons word]
    split
    · rename_i closed
      exact absurd (List.cons.inj closed).1 apart.2
    · rename_i element _
      cases element
    · rfl
  obtain ⟨c, tail, same, differs⟩ := whole.exists_eq_cons
  rw [readLine, skipSpaces_cons (show isSpace '[' = false by decide)]
  split
  · rename_i opened
    rw [same] at opened
    exact absurd (List.cons.inj (List.cons.inj opened).2).1 (differs '[' (by decide))
  · rename_i opened
    obtain rfl := (List.cons.inj opened).2
    rw [header]
    rfl
  · rename_i opened
    exact absurd rfl (opened _)

/-- A text that begins with a bracket, a bare key and a further word is no document. -/
theorem parse?_eq_none_of_begins (whole : IsBareKey key) (word : isSpace next = false)
    (apart : next ≠ '.' ∧ next ≠ ']') {text : String}
    (begins : text.toList = '[' :: (key ++ ' ' :: next :: rest)) : parse? text = none := by
  rw [parse?, begins]
  change (readLines .fresh ('[' :: (key ++ ' ' :: next :: rest))).map Draft.root = none
  rw [readLines, List.isEmpty_cons, if_neg Bool.false_ne_true, readLine_eq_none whole word apart]
  rfl

end

end SessionHost.Toml
