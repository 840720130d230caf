import Mathlib.Tactic.SplitIfs
import Mathlib.Data.List.Basic

/-!
# The order of texts and the order of their bytes

Names are kept in the order of texts, which compares code points. The encoding keeps the order:
a character with a smaller code point begins with a smaller byte, or has the same first bytes and
then a smaller one (`utf8EncodeChar_append_lt`). So an ascending list of names is ascending in the
order of its bytes too.

Results:
* `bytes_eq_toUTF8`: the bytes of a text are those of its encoding.
* `bytes_lt`: what is less as a text is less in its bytes.
-/

namespace ResourceGen.Text

/-- The bytes of a text, character by character. -/
def bytes (s : String) : List UInt8 := s.toList.flatMap String.utf8EncodeChar

/-- The bytes of a text are those of its encoding. -/
theorem bytes_eq_toUTF8 (s : String) : bytes s = s.toUTF8.data.toList := by
  obtain ⟨l, rfl⟩ : ∃ l, s = String.ofList l := ⟨s.toList, String.ofList_toList.symm⟩
  simp [bytes, String.toUTF8_eq_toByteArray, List.utf8Encode]

/-- A character with a smaller code point has smaller bytes, whatever follows. -/
theorem utf8EncodeChar_append_lt {c d : Char} (h : c < d) (x y : List UInt8) :
    String.utf8EncodeChar c ++ x < String.utf8EncodeChar d ++ y := by
  have hlt : c.val.toNat < d.val.toNat := h
  have hd : d.val.toNat < 0x110000 := by
    rcases d.valid with hsmall | ⟨-, hlarge⟩
    · omega
    · exact hlarge
  -- the bytes of a character are digits of its code point to the base 64
  have h₂ (k : Nat) : k / 4096 = k / 64 / 64 := by omega
  have h₃ (k : Nat) : k / 262144 = k / 64 / 64 / 64 := by omega
  unfold String.utf8EncodeChar
  simp only
  generalize c.val.toNat = m at *
  generalize d.val.toNat = n at *
  split_ifs <;>
    simp [List.cons_lt_cons_iff, UInt8.lt_iff_toNat_lt, ← UInt8.toNat_inj, h₂, h₃] <;> omega

/-- **What is less as a text is less in its bytes.** -/
theorem bytes_lt {s t : String} (h : s < t) : bytes s < bytes t := by
  rw [String.lt_iff] at h
  unfold bytes
  generalize s.toList = l at h
  generalize t.toList = r at h
  induction l generalizing r with
  | nil =>
    cases r with
    | nil => exact absurd h (List.lt_irrefl [])
    | cons d r =>
      rw [List.flatMap_nil, List.flatMap_cons]
      cases hd : String.utf8EncodeChar d with
      | nil => exact absurd hd String.utf8EncodeChar_ne_nil
      | cons u us => exact List.nil_lt_cons _ _
  | cons c l ih =>
    cases r with
    | nil => exact absurd h (List.not_lt_nil _)
    | cons d r =>
      rw [List.flatMap_cons, List.flatMap_cons]
      rcases List.cons_lt_cons_iff.mp h with hlt | ⟨rfl, hlt⟩
      · exact utf8EncodeChar_append_lt hlt _ _
      · exact List.append_left_lt (ih _ hlt)

end ResourceGen.Text
