import ResourceGen.Synthesis

/-!
# Names of temporaries

A program that copies a value names its variables `f0`, `f1`, …, and those of the parts of a
list or map after the variable of the whole: `f0elem`, `f0elemiter`, and so on. `Temporary` is
such a name as a number and the endings behind it, `Temporary.text` its text.

`val` opens `valit`, so the text has to be read from both ends to see where one ending stops.

Results:
* `Temporary.text_injective`: no two temporaries share their text. Every statement about
  variables that do not clash comes from it.
* `not_reach_extend`, `not_reach_parent`: what binding one part may change is neither a variable
  of another part nor that of the whole.
-/

namespace ResourceGen

/-- What a variable of a list or map part is called after the variable of the whole. -/
inductive Ending where
  | iter
  | elem
  | key
  | valit
  | val
  deriving DecidableEq, Repr

/-- The text of an ending. -/
def Ending.text : Ending → String
  | iter => "iter"
  | elem => "elem"
  | key => "key"
  | valit => "valit"
  | val => "val"

/-- A temporary: the number it was given, and the endings of the part it stands for. -/
structure Temporary where
  number : Nat
  endings : List Ending
  deriving DecidableEq, Repr

namespace Temporary

/-- The name as a variable. -/
def text (t : Temporary) : String :=
  t.endings.foldl (fun s e => s ++ e.text) (Copier.temporary t.number)

/-- The temporary of a part. -/
def extend (t : Temporary) (e : Ending) : Temporary := ⟨t.number, t.endings ++ [e]⟩

theorem text_numbered (n : Nat) : text ⟨n, []⟩ = Copier.temporary n := rfl

theorem text_extend (t : Temporary) (e : Ending) : (t.extend e).text = t.text ++ e.text := by
  simp [text, extend, List.foldl_append]

/-! ## Reading a name back -/

theorem toList_foldl (l : List Ending) (s : String) :
    (l.foldl (fun s e => s ++ e.text) s).toList = s.toList ++ l.flatMap fun e => e.text.toList := by
  induction l generalizing s with
  | nil => simp
  | cons e rest ih => simp [ih]

theorem toList_text (t : Temporary) :
    t.text.toList =
      'f' :: (Nat.toDigits 10 t.number ++ t.endings.flatMap fun e => e.text.toList) := by
  have hd : (toString t.number).toList = Nat.toDigits 10 t.number := by
    rw [Nat.toString_eq_repr, Nat.toList_repr]
  rw [text, toList_foldl, Copier.temporary, String.toList_append, hd]
  rfl

/-- No ending opens with a digit. -/
theorem takeWhile_endings (l : List Ending) :
    (l.flatMap fun e => e.text.toList).takeWhile Char.isDigit = [] := by
  cases l with
  | nil => rfl
  | cons e rest => cases e <;> rfl

theorem takeWhile_digits (n : Nat) (l : List Ending) :
    (Nat.toDigits 10 n ++ l.flatMap fun e => e.text.toList).takeWhile Char.isDigit =
      Nat.toDigits 10 n := by
  rw [List.takeWhile_append_of_pos, takeWhile_endings, List.append_nil]
  intro c hc
  exact Nat.isDigit_of_mem_toDigits (by decide) (by decide) hc

/-- `valit` is not `val` with further endings. -/
theorem val_append_ne_valit (rest rest' : List Ending) :
    (Ending.val.text.toList ++ rest.flatMap fun e => e.text.toList) ≠
      Ending.valit.text.toList ++ rest'.flatMap fun e => e.text.toList := by
  intro h
  cases rest with
  | nil => simp [Ending.text] at h
  | cons e rest =>
    cases e <;> simp [Ending.text] at h
    -- only `iter` can follow, and then no ending opens with what is left of it
    cases rest' with
    | nil => simp at h
    | cons e' rest' => cases e' <;> simp at h

theorem endings_injective {l l' : List Ending}
    (h : (l.flatMap fun e => e.text.toList) = l'.flatMap fun e => e.text.toList) : l = l' := by
  induction l generalizing l' with
  | nil =>
    cases l' with
    | nil => rfl
    | cons e' rest' => cases e' <;> simp [Ending.text] at h
  | cons e rest ih =>
    cases l' with
    | nil => cases e <;> simp [Ending.text] at h
    | cons e' rest' =>
      rw [List.flatMap_cons, List.flatMap_cons] at h
      by_cases he : e = e'
      · subst he
        rw [ih (List.append_cancel_left h)]
      · -- of different endings only `val` and `valit` open with one letter
        cases e <;> cases e' <;> first
          | exact absurd rfl he
          | (simp [Ending.text] at h; done)
          | exact absurd h (val_append_ne_valit _ _)
          | exact absurd h.symm (val_append_ne_valit _ _)

/-- **No two temporaries share their text.** -/
theorem text_injective {t u : Temporary} (h : t.text = u.text) : t = u := by
  have hl : Nat.toDigits 10 t.number ++ (t.endings.flatMap fun e => e.text.toList) =
      Nat.toDigits 10 u.number ++ u.endings.flatMap fun e => e.text.toList := by
    have := congrArg String.toList h
    rw [toList_text, toList_text] at this
    exact (List.cons.inj this).2
  have hd : Nat.toDigits 10 t.number = Nat.toDigits 10 u.number := by
    have := congrArg (List.takeWhile Char.isDigit) hl
    rwa [takeWhile_digits, takeWhile_digits] at this
  have hn : t.number = u.number := by
    have := congrArg (fun ds => Nat.ofDigitChars 10 ds 0) hd
    simpa only [Nat.ofDigitChars_ten_toDigits] using this
  have he : t.endings = u.endings := by
    rw [hd] at hl
    exact endings_injective (List.append_cancel_left hl)
  cases t; cases u; simp_all

/-! ## Sets of temporaries -/

/-- Whether a variable is named like a temporary. -/
def IsTemporary (x : String) : Prop := ∃ t : Temporary, x = t.text

/-- The temporaries with a number from `n` on. -/
def NumberedFrom (n : Nat) (x : String) : Prop := ∃ t : Temporary, n ≤ t.number ∧ x = t.text

/-- The variables of the value that `t` stands for: `t` and those named after it. -/
def Owns (t : Temporary) (x : String) : Prop :=
  ∃ u : Temporary, u.number = t.number ∧ t.endings <+: u.endings ∧ x = u.text

/-- The temporaries with a number from `m` on and below `n`. -/
def NumberedIn (m n : Nat) (x : String) : Prop :=
  ∃ t : Temporary, m ≤ t.number ∧ t.number < n ∧ x = t.text

/-- What binding `t` may change when the next number is `n`. -/
def Reach (t : Temporary) (n : Nat) (x : String) : Prop := t.Owns x ∨ NumberedFrom n x

/-- The temporaries of a binding of `t` that takes the numbers from `m` on and below `n`. -/
def Span (t : Temporary) (m n : Nat) (x : String) : Prop := t.Owns x ∨ NumberedIn m n x

/-- A name that does not begin like a temporary is none. -/
theorem not_isTemporary_of_head {x : String} (h : x.toList.head? ≠ some 'f') : ¬ IsTemporary x := by
  rintro ⟨t, rfl⟩
  rw [toList_text] at h
  exact h rfl

theorem owns_self (t : Temporary) : t.Owns t.text := ⟨t, rfl, List.prefix_rfl, rfl⟩

theorem owns_extend {t : Temporary} {e : Ending} {x : String} (h : (t.extend e).Owns x) :
    t.Owns x := by
  obtain ⟨u, hn, hp, rfl⟩ := h
  exact ⟨u, hn, (List.prefix_append t.endings [e]).trans hp, rfl⟩

theorem owns_extend_self (t : Temporary) (e : Ending) : t.Owns (t.extend e).text :=
  owns_extend (owns_self _)

/-- The variables of one part are not those of another. -/
theorem not_owns_extend {t : Temporary} {e e' : Ending} (h : e ≠ e') :
    ¬ (t.extend e).Owns (t.extend e').text := by
  rintro ⟨u, -, hp, hu⟩
  rw [← text_injective hu] at hp
  have := hp.eq_of_length (by simp [extend])
  simp only [extend, List.append_cancel_left_eq, List.cons.injEq, and_true] at this
  exact h this

/-- The variables of a part are not that of the whole. -/
theorem not_owns_parent (t : Temporary) (e : Ending) : ¬ (t.extend e).Owns t.text := by
  rintro ⟨u, -, hp, hu⟩
  rw [← text_injective hu] at hp
  have := hp.length_le
  simp only [extend, List.length_append, List.length_singleton] at this
  omega

theorem text_extend_ne (t : Temporary) (e : Ending) : (t.extend e).text ≠ t.text :=
  fun h => not_owns_parent t e (h ▸ owns_self (t.extend e))

theorem not_numberedFrom {t : Temporary} {n : Nat} (h : t.number < n) : ¬ NumberedFrom n t.text := by
  rintro ⟨u, hn, hu⟩
  rw [← text_injective hu] at hn
  omega

theorem numberedFrom_of_owns {n : Nat} {x : String} (h : Owns ⟨n, []⟩ x) : NumberedFrom n x := by
  obtain ⟨u, hn, -, rfl⟩ := h
  exact ⟨u, Nat.le_of_eq hn.symm, rfl⟩

theorem numberedFrom_mono {m n : Nat} (h : m ≤ n) {x : String} (hx : NumberedFrom n x) :
    NumberedFrom m x := by
  obtain ⟨u, hn, rfl⟩ := hx
  exact ⟨u, by omega, rfl⟩

/-- What a part may change, the whole may change. -/
theorem reach_extend {t : Temporary} {e : Ending} {n : Nat} {x : String}
    (h : (t.extend e).Reach n x) : t.Reach n x :=
  h.imp_left owns_extend

theorem not_reach_extend {t : Temporary} {n : Nat} (ht : t.number < n) {e e' : Ending}
    (h : e ≠ e') : ¬ (t.extend e).Reach n (t.extend e').text := by
  rintro (ho | hn)
  · exact not_owns_extend h ho
  · exact not_numberedFrom (t := t.extend e') ht hn

theorem not_reach_parent {t : Temporary} {n : Nat} (ht : t.number < n) (e : Ending) :
    ¬ (t.extend e).Reach n t.text := by
  rintro (ho | hn)
  · exact not_owns_parent t e ho
  · exact not_numberedFrom ht hn

theorem not_numberedIn {t : Temporary} {m n : Nat} (h : t.number < m) : ¬ NumberedIn m n t.text := by
  rintro ⟨u, hm, -, hu⟩
  rw [← text_injective hu] at hm
  omega

theorem numberedIn_mono {m m' n n' : Nat} (hm : m' ≤ m) (hn : n ≤ n') {x : String}
    (h : NumberedIn m n x) : NumberedIn m' n' x := by
  obtain ⟨u, hu, hu', rfl⟩ := h
  exact ⟨u, by omega, by omega, rfl⟩

/-- Numbers that are taken one after the other are different. -/
theorem not_numberedIn_of_numberedIn {m n k : Nat} {x : String} (h : NumberedIn m n x) :
    ¬ NumberedIn n k x := by
  obtain ⟨u, -, hu, rfl⟩ := h
  exact not_numberedIn hu

theorem not_numberedFrom_of_numberedIn {m n : Nat} {x : String} (h : NumberedIn m n x) :
    ¬ NumberedFrom n x := by
  obtain ⟨u, -, hu, rfl⟩ := h
  exact not_numberedFrom hu

theorem numberedFrom_of_numberedIn {m n : Nat} {x : String} (h : NumberedIn m n x) :
    NumberedFrom m x := by
  obtain ⟨u, hu, -, rfl⟩ := h
  exact ⟨u, hu, rfl⟩

/-- A binding of a part takes temporaries of the binding of the whole. -/
theorem span_extend {t : Temporary} {e : Ending} {m n : Nat} {x : String}
    (h : (t.extend e).Span m n x) : t.Span m n x :=
  h.imp_left owns_extend

theorem span_self (t : Temporary) (m n : Nat) : t.Span m n t.text := Or.inl t.owns_self

theorem not_span_extend {t : Temporary} {m n : Nat} (ht : t.number < m) {e e' : Ending}
    (h : e ≠ e') : ¬ (t.extend e).Span m n (t.extend e').text := by
  rintro (ho | hn)
  · exact not_owns_extend h ho
  · exact not_numberedIn (t := t.extend e') ht hn

theorem not_span_parent {t : Temporary} {m n : Nat} (ht : t.number < m) (e : Ending) :
    ¬ (t.extend e).Span m n t.text := by
  rintro (ho | hn)
  · exact not_owns_parent t e ho
  · exact not_numberedIn ht hn

/-- The binding of the next temporary takes numbers only. -/
theorem numberedIn_of_span {m n : Nat} (h : m + 1 ≤ n) {x : String} (hx : Span ⟨m, []⟩ (m + 1) n x) :
    NumberedIn m n x := by
  rcases hx with ⟨u, hu, -, rfl⟩ | hx
  · exact ⟨u, by simp [hu], by simp only at hu; omega, rfl⟩
  · exact numberedIn_mono (Nat.le_succ m) (Nat.le_refl n) hx

theorem isTemporary_of_numberedFrom {n : Nat} {x : String} (h : NumberedFrom n x) :
    IsTemporary x := by
  obtain ⟨u, -, rfl⟩ := h
  exact ⟨u, rfl⟩

theorem isTemporary_of_numberedIn {m n : Nat} {x : String} (h : NumberedIn m n x) :
    IsTemporary x :=
  isTemporary_of_numberedFrom (numberedFrom_of_numberedIn h)

end Temporary

end ResourceGen
