import Mathlib.Algebra.Group.Nat.Defs
import SessionHost.Proofs.Text.Utf8

/-!
The order of texts and of their bytes.

Texts are in the order of their characters, and bytes in their own. In a character's form the lead
byte tells its length and the continuation bytes carry digits (`CharForm.parts`), so that the lower
character has the lower form. Main statement: `encode_lt_encode`, which says that texts are
written in the order that they have.
-/

namespace SessionHost.Text

/-! ### Bytes in order -/

theorem cons_lt_cons_of_lt {a b : UInt8} (less : a.toNat < b.toNat) (rest more : Bytes) :
    a :: rest < b :: more :=
  List.cons_lt_cons_iff.mpr (.inl (UInt8.lt_iff_toNat_lt.mpr less))

theorem cons_lt_cons_of_eq {a b : UInt8} {rest more : Bytes} (same : a.toNat = b.toNat)
    (less : rest < more) : a :: rest < b :: more :=
  List.cons_lt_cons_iff.mpr (.inr ⟨UInt8.toNat_inj.mp same, less⟩)

/-! ### Continuation bytes -/

/-- The number that continuation bytes carry together. -/
def carried : Bytes → Nat
  | [] => 0
  | b :: rest => payload b * 64 ^ rest.length + carried rest

theorem payload_lt (b : UInt8) : payload b < 64 := Nat.mod_lt _ (by decide)

theorem carried_lt (bytes : Bytes) : carried bytes < 64 ^ bytes.length := by
  induction bytes with
  | nil => decide
  | cons b rest ih =>
      have digit : (payload b + 1) * 64 ^ rest.length ≤ 64 * 64 ^ rest.length :=
        Nat.mul_le_mul_right _ (payload_lt b)
      rw [carried, List.length_cons, Nat.pow_succ']
      rw [Nat.succ_mul] at digit
      omega

theorem toNat_of_isContinuation {b : UInt8} (follows : isContinuation b = true) :
    b.toNat = payload b + 0x80 := by
  rw [isContinuation_iff] at follows
  unfold payload
  omega

/-- Of equally many continuation bytes those that carry less are lower. -/
theorem append_lt_of_carried_lt {bytes others : Bytes}
    (follow : ∀ b ∈ bytes, isContinuation b = true)
    (follow' : ∀ b ∈ others, isContinuation b = true) (length : bytes.length = others.length)
    (less : carried bytes < carried others) (rest more : Bytes) :
    bytes ++ rest < others ++ more := by
  induction bytes generalizing others with
  | nil =>
      obtain rfl := List.eq_nil_of_length_eq_zero length.symm
      exact absurd less (Nat.lt_irrefl _)
  | cons b bytes ih =>
      cases others with
      | nil => cases length
      | cons c others =>
          have length := Nat.succ.inj length
          have lead := toNat_of_isContinuation (follow b List.mem_cons_self)
          have lead' := toNat_of_isContinuation (follow' c List.mem_cons_self)
          rw [carried, carried, length] at less
          by_cases same : payload b = payload c
          · refine cons_lt_cons_of_eq (by omega) (ih ?_ ?_ length ?_)
            · exact fun byte member => follow byte (List.mem_cons_of_mem _ member)
            · exact fun byte member => follow' byte (List.mem_cons_of_mem _ member)
            · rw [same] at less
              omega
          · -- A higher first digit outweighs all that the others can carry.
            have first : payload b < payload c := by
              by_contra higher
              have digit : (payload c + 1) * 64 ^ others.length
                  ≤ payload b * 64 ^ others.length :=
                Nat.mul_le_mul_right _ (by omega)
              have := carried_lt others
              rw [Nat.succ_mul] at digit
              omega
            exact cons_lt_cons_of_lt (by omega) _ _

/-! ### Characters -/

/-- A form is a lead byte, which tells its length, and continuation bytes; its number is that of
the lead byte with what the others carry, and too high for a shorter form. -/
theorem CharForm.parts {bytes : Bytes} {n : Nat} (form : CharForm bytes n) :
    ∃ a tail, bytes = a :: tail ∧ (∀ b ∈ tail, isContinuation b = true) ∧
      (tail.length = 0 ∧ a.toNat < 0x80 ∧ n = a.toNat ∨
        tail.length = 1 ∧ carried tail < 64 ∧ 0xC2 ≤ a.toNat ∧ a.toNat ≤ 0xDF ∧
          n = (a.toNat - 0xC0) * 64 + carried tail ∨
        tail.length = 2 ∧ carried tail < 4096 ∧ 0xE0 ≤ a.toNat ∧ a.toNat ≤ 0xEF ∧ 0x800 ≤ n ∧
          n = (a.toNat - 0xE0) * 4096 + carried tail ∨
        tail.length = 3 ∧ carried tail < 262144 ∧ 0xF0 ≤ a.toNat ∧ 0x10000 ≤ n ∧
          n = (a.toNat - 0xF0) * 262144 + carried tail) := by
  cases form with
  | @one a small => exact ⟨a, [], rfl, by simp, .inl ⟨rfl, small, rfl⟩⟩
  | @two a b low high follows =>
      have digits : carried [b] = payload b := by simp [carried]
      have bound : carried [b] < 64 := by simpa using carried_lt [b]
      exact ⟨a, [b], rfl, by simp [follows],
        .inr (.inl ⟨rfl, bound, low, high, by omega⟩)⟩
  | @three a b c low high follows more =>
      have digits : carried [b, c] = payload b * 64 + payload c := by simp [carried]
      have bound : carried [b, c] < 4096 := by simpa using carried_lt [b, c]
      have next := followsThree_iff.mp follows
      have digit := toNat_of_isContinuation (isContinuation_iff.mpr next.1)
      refine ⟨a, [b, c], rfl, by simp [isContinuation_iff.mpr next.1, more],
        .inr (.inr (.inl ⟨rfl, bound, low, high, by omega, by omega⟩))⟩
  | @four a b c d low high follows more last =>
      have digits : carried [b, c, d] = payload b * 4096 + payload c * 64 + payload d := by
        simp [carried, Nat.add_assoc]
      have bound : carried [b, c, d] < 262144 := by simpa using carried_lt [b, c, d]
      have next := followsFour_iff.mp follows
      have digit := toNat_of_isContinuation (isContinuation_iff.mpr next.1)
      exact ⟨a, [b, c, d], rfl, by simp [isContinuation_iff.mpr next.1, more, last],
        .inr (.inr (.inr ⟨rfl, bound, low, by omega, by omega⟩))⟩

/-- The form of a lower character is lower, whatever follows. -/
theorem CharForm.append_lt {bytes others : Bytes} {n m : Nat} (form : CharForm bytes n)
    (other : CharForm others m) (less : n < m) (rest more : Bytes) :
    bytes ++ rest < others ++ more := by
  obtain ⟨a, tail, rfl, follow, leads⟩ := form.parts
  obtain ⟨b, tail', rfl, follow', leads'⟩ := other.parts
  obtain lower | ⟨same, length, less⟩ : a.toNat < b.toNat ∨
      a.toNat = b.toNat ∧ tail.length = tail'.length ∧ carried tail < carried tail' := by omega
  · exact cons_lt_cons_of_lt lower _ _
  · exact cons_lt_cons_of_eq same (append_lt_of_carried_lt follow follow' length less rest more)

/-! ### Texts -/

/-- A lower text is written lower. -/
theorem encode_lt_encode {text other : String} (less : text < other) :
    encode text < encode other := by
  rw [String.lt_iff] at less
  unfold encode
  generalize text.toList = chars at less
  generalize other.toList = others at less
  induction chars generalizing others with
  | nil =>
      cases others with
      | nil => exact absurd less (List.lt_irrefl _)
      | cons c others =>
          obtain ⟨a, tail, bytes, -⟩ := (CharForm.of_char c).parts
          rw [List.flatMap_cons, bytes]
          exact List.nil_lt_cons _ _
  | cons c chars ih =>
      cases others with
      | nil => exact absurd less (List.not_lt_nil _)
      | cons d others =>
          rw [List.flatMap_cons, List.flatMap_cons]
          obtain lower | ⟨rfl, later⟩ := List.cons_lt_cons_iff.mp less
          · exact (CharForm.of_char c).append_lt (.of_char d) (Char.lt_def.mp lower) _ _
          · exact List.append_left_lt (ih others later)

end SessionHost.Text
