import SessionHost.Text.Utf8

/-!
Text handed across as bytes that end at the first NUL.
-/

namespace SessionHost.Text

/-- The byte that ends a terminated buffer. -/
def nul : UInt8 := 0

/-- Whether a NUL stands among the bytes, so that they cannot be handed across. -/
def hasNul (bytes : Bytes) : Bool := bytes.contains nul

/-- The buffer that carries `bytes` across. -/
def terminate (bytes : Bytes) : Bytes := bytes ++ [nul]

/-- What a reader of the buffer sees: the bytes before the first NUL. -/
def untilNul (buffer : Bytes) : Bytes := buffer.takeWhile (· != nul)

/-- The text in the buffer, if what a reader sees is valid UTF-8. -/
def readTerminated? (buffer : Bytes) : Option String := decode? (untilNul buffer)

/-- Bytes without a NUL arrive as they were sent. -/
theorem untilNul_terminate {bytes : Bytes} (h : hasNul bytes = false) :
    untilNul (terminate bytes) = bytes := by
  induction bytes with
  | nil => rfl
  | cons b rest ih =>
    simp only [hasNul, List.contains_cons, Bool.or_eq_false_iff] at h
    have hb : (b != nul) = true := by
      have := h.1
      simp only [beq_eq_false_iff_ne] at this
      simpa [bne_iff_ne] using Ne.symm this
    have := ih h.2
    simp only [untilNul, terminate] at this
    simp [untilNul, terminate, hb, this]

end SessionHost.Text
