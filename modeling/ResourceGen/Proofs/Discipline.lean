import ResourceGen.Proofs.Assembly
import ResourceGen.Proofs.Builds
import ResourceGen.Proofs.Scopes

/-!
# Temporaries of a program

All programs are disciplined: their temporaries do not meet, and every value is handed over once,
when it is complete.

Inside a copy this rests on what the copy may mention: besides its two ends only temporaries of its
own (`vars_bind`). No other part of the program has these, since numbers are taken one after the
other and the parts of one value have different endings. A list or map hands on its parts inside
its loop and is itself handed on behind it, so the induction carries the statement that follows
(`BindConfined`).

Results:
* `vars_bind`: what the statements of a copy mention.
* `bindConfined`, `confined_transfers`: copies are confined among variables that are none of their
  temporaries.
* `disciplined_programs`: all four kinds of programs are disciplined.
-/

namespace ResourceGen

/-! ## Copies -/

namespace Copier

open Statement (varsOf vars publishedOf published ConfinedAll Confined HandedOver introducedOf)

variable {c : Copier}

theorem vars_copy_of_bind {l : Layout}
    (hl : ∀ (t : Temporary) (source : Accessor) (n : Nat),
      ∀ x ∈ varsOf (c.bind t.text source l n).1,
        x = source.root ∨ t.Span n (c.bind t.text source l n).2 x)
    (dest source : Accessor) (n : Nat) :
    ∀ x ∈ varsOf (c.copy dest source l n).1,
      x = dest.root ∨ x = source.root ∨ Temporary.NumberedIn n (c.copy dest source l n).2 x := by
  intro x hx
  have hle := c.le_bind l (temporary n) source (n + 1)
  cases l with
  | scalar t =>
    rw [copy_scalar, Statement.varsOf_singleton, vars, Statement.varsOf_singleton, vars] at hx
    simp only [List.mem_cons, List.not_mem_nil, or_false] at hx
    tauto
  | _ =>
    rw [copy_of_ne_scalar _ _ _ (by simp)] at hx ⊢
    rw [Statement.varsOf_singleton, vars, Statement.varsOf_append, Statement.varsOf_singleton,
      publish, vars] at hx
    simp only [List.mem_cons, List.mem_append, List.not_mem_nil, or_false] at hx
    rcases hx with rfl | hx | rfl | rfl
    · exact Or.inr (Or.inl rfl)
    · rcases hl ⟨n, []⟩ source (n + 1) x hx with rfl | hx
      · exact Or.inr (Or.inl rfl)
      · exact Or.inr (Or.inr (Temporary.numberedIn_of_span hle hx))
    · exact Or.inl rfl
    · exact Or.inr (Or.inr ⟨⟨n, []⟩, Nat.le_refl n, hle, rfl⟩)

variable (c)

mutual

/-- **Binding a temporary mentions the source and temporaries of its own.** -/
theorem vars_bind : ∀ (l : Layout) (t : Temporary) (source : Accessor) (n : Nat),
    ∀ x ∈ varsOf (c.bind t.text source l n).1,
      x = source.root ∨ t.Span n (c.bind t.text source l n).2 x
  | .scalar type, t, source, n, x, hx => by
    rw [bind, Statement.varsOf_singleton, vars] at hx
    rcases List.mem_pair.mp hx with rfl | rfl
    · exact Or.inr (t.span_self _ _)
    · exact Or.inl rfl
  | .structure shape parts, t, source, n, x, hx => by
    rw [bind] at hx ⊢
    rw [varsOf, vars, List.singleton_append, List.mem_cons] at hx
    rcases hx with rfl | hx
    · exact Or.inr (t.span_self _ _)
    · rcases vars_bindMembers parts t.text source n x hx with rfl | rfl | hx
      · exact Or.inr (t.span_self _ _)
      · exact Or.inl rfl
      · exact Or.inr (Or.inr hx)
  | .list type l, t, source, n, x, hx => by
    have ih := vars_bind l (t.extend .elem) (.var (t.extend .iter).text) n x
    rw [bind_list, elementBody] at hx
    rw [bind_list_snd]
    simp only [varsOf, vars, Statement.varsOf_append, List.mem_append, List.mem_cons,
      List.not_mem_nil, or_false] at hx
    rcases hx with rfl | rfl | rfl | hx | rfl | rfl
    · exact Or.inr (t.span_self _ _)
    · exact Or.inl rfl
    · exact Or.inr (Or.inl (t.owns_extend_self _))
    · rcases ih hx with rfl | hx
      · exact Or.inr (Or.inl (t.owns_extend_self _))
      · exact Or.inr (Temporary.span_extend hx)
    · exact Or.inr (t.span_self _ _)
    · exact Or.inr (Or.inl (t.owns_extend_self _))
  | .map type l, t, source, n, x, hx => by
    have ih := vars_bind l (t.extend .val) (.var (t.extend .valit).text) n x
    rw [bind_map, entryBody] at hx
    rw [bind_map_snd]
    simp only [varsOf, vars, Statement.varsOf_append, List.mem_append, List.mem_cons,
      List.not_mem_nil, or_false] at hx
    rcases hx with rfl | rfl | rfl | rfl | hx | rfl | rfl | rfl
    · exact Or.inr (t.span_self _ _)
    · exact Or.inl rfl
    · exact Or.inr (Or.inl (t.owns_extend_self _))
    · exact Or.inr (Or.inl (t.owns_extend_self _))
    · rcases ih hx with rfl | hx
      · exact Or.inr (Or.inl (t.owns_extend_self _))
      · exact Or.inr (Temporary.span_extend hx)
    · exact Or.inr (t.span_self _ _)
    · exact Or.inr (Or.inl (t.owns_extend_self _))
    · exact Or.inr (Or.inl (t.owns_extend_self _))

theorem vars_bindMembers : ∀ (parts : List (String × Layout)) (var : String) (source : Accessor)
    (n : Nat), ∀ x ∈ varsOf (c.bindMembers var source parts n).1,
      x = var ∨ x = source.root ∨ Temporary.NumberedIn n (c.bindMembers var source parts n).2 x
  | [], var, source, n, x, hx => by
    rw [bindMembers, varsOf] at hx
    cases hx
  | (wire, l) :: parts, var, source, n, x, hx => by
    have hle := c.le_copy l ((Accessor.var var).field (c.destName wire))
      (source.field (c.sourceName wire)) n
    rw [bindMembers] at hx ⊢
    rw [Statement.varsOf_append, List.mem_append] at hx
    rcases hx with hx | hx
    · rcases vars_copy_of_bind (vars_bind l) _ _ n x hx with rfl | rfl | hx
      · exact Or.inl rfl
      · exact Or.inr (Or.inl rfl)
      · exact Or.inr (Or.inr (Temporary.numberedIn_mono (Nat.le_refl n)
          (c.le_bindMembers parts var source _) hx))
    · rcases vars_bindMembers parts var source _ x hx with rfl | rfl | hx
      · exact Or.inl rfl
      · exact Or.inr (Or.inl rfl)
      · exact Or.inr (Or.inr (Temporary.numberedIn_mono hle (Nat.le_refl _) hx))

end

/-! ## Values that are handed over -/

variable {c}

/-- A copy hands on temporaries of its own, and the value that it copies. -/
theorem mem_publishedOf_copy {dest source : Accessor} {l : Layout} {n : Nat} {x : String}
    (h : x ∈ publishedOf (c.copy dest source l n).1) :
    x = source.root ∨ Temporary.NumberedIn n (c.copy dest source l n).2 x := by
  have hle := c.le_bind l (temporary n) source (n + 1)
  have hvars := c.vars_bind l ⟨n, []⟩ source (n + 1) x
  rw [Temporary.text_numbered] at hvars
  cases l with
  | scalar t =>
    rw [copy_scalar] at h
    simp only [publishedOf, published, List.append_nil] at h
    split at h
    · exact Or.inl (List.mem_singleton.mp h)
    · cases h
  | _ =>
    rw [copy_of_ne_scalar _ _ _ (by simp)] at h ⊢
    simp only [publishedOf, published, Statement.publishedOf_append, publish, Accessor.var,
      List.isEmpty_nil, if_true, List.append_nil, List.mem_append, List.mem_singleton] at h
    rcases h with h | rfl
    · rcases hvars (Statement.publishedOf_subset _ h) with rfl | hx
      · exact Or.inl rfl
      · exact Or.inr (Temporary.numberedIn_of_span hle hx)
    · exact Or.inr ⟨⟨n, []⟩, Nat.le_refl n, hle, rfl⟩

theorem mem_publishedOf_bindMembers {parts : List (String × Layout)} {var : String}
    {source : Accessor} {n : Nat} {x : String}
    (h : x ∈ publishedOf (c.bindMembers var source parts n).1) :
    x = source.root ∨ Temporary.NumberedIn n (c.bindMembers var source parts n).2 x := by
  induction parts generalizing n with
  | nil =>
    rw [bindMembers, publishedOf] at h
    cases h
  | cons part parts ih =>
    obtain ⟨wire, l⟩ := part
    have hle := c.le_copy l ((Accessor.var var).field (c.destName wire))
      (source.field (c.sourceName wire)) n
    rw [bindMembers] at h ⊢
    rw [Statement.publishedOf_append, List.mem_append] at h
    rcases h with h | h
    · exact (mem_publishedOf_copy h).imp_right
        (Temporary.numberedIn_mono (Nat.le_refl n) (c.le_bindMembers parts var source _))
    · exact (ih h).imp_right (Temporary.numberedIn_mono hle (Nat.le_refl _))

/-! ## Confinement of copies -/

variable (c)

/-- Binding a temporary and handing it over is confined among variables that are none of those of
the binding. -/
def BindConfined (l : Layout) : Prop :=
  ∀ (t : Temporary) (source : Accessor) (n : Nat) (around : List String) (p : Statement),
    t.number < n → p.Publishes t.text →
    (∀ x ∈ source.root :: around, ¬ t.Span n (c.bind t.text source l n).2 x) →
    (∀ x ∈ p.vars, x = t.text ∨ ¬ t.Span n (c.bind t.text source l n).2 x) →
    ConfinedAll around ((c.bind t.text source l n).1 ++ [p])

/-- A copy is confined among variables that have none of its numbers. -/
def CopyConfined (l : Layout) : Prop :=
  ∀ (dest source : Accessor) (n : Nat) (around : List String),
    (∀ x ∈ dest.root :: source.root :: around,
      ¬ Temporary.NumberedIn n (c.copy dest source l n).2 x) →
    ConfinedAll around (c.copy dest source l n).1

/-- Filling a structure before it is handed over is confined among variables that have none of the
numbers taken. -/
def MembersConfined (parts : List (String × Layout)) : Prop :=
  ∀ (var : String) (source : Accessor) (n : Nat) (around : List String) (p : Statement),
    p.introduced = [] →
    (∀ x ∈ var :: source.root :: p.vars ++ around,
      ¬ Temporary.NumberedIn n (c.bindMembers var source parts n).2 x) →
    ConfinedAll around ((c.bindMembers var source parts n).1 ++ [p])

variable {c}

theorem confinedAll_singleton {around : List String} {p : Statement} (h : p.introduced = []) :
    ConfinedAll around [p] :=
  Statement.confinedAll_of_introducedOf_eq_nil (by simp [introducedOf, h])

/-- A copy is confined when binding is. -/
theorem copyConfined_of_bindConfined {l : Layout} (h : BindConfined c l) : CopyConfined c l := by
  intro dest source n around hout
  have hle := c.le_bind l (temporary n) source (n + 1)
  have hbind := h ⟨n, []⟩ source (n + 1) (source.root :: around) (publish dest (temporary n))
    (Nat.lt_succ_self n) rfl
  rw [Temporary.text_numbered] at hbind
  cases l with
  | scalar t =>
    rw [copy_scalar]
    exact confinedAll_singleton (by simp [Statement.introduced, introducedOf])
  | _ =>
    rw [copy_of_ne_scalar _ _ _ (by simp)] at hout ⊢
    rw [ConfinedAll, Confined, varsOf, ConfinedAll]
    refine ⟨hbind ?_ ?_, trivial⟩
    · intro x hx hspan
      refine hout x ?_ (Temporary.numberedIn_of_span hle hspan)
      simp only [List.mem_cons] at hx ⊢
      tauto
    · intro x hx
      rw [publish, vars] at hx
      rcases List.mem_pair.mp hx with rfl | rfl
      · exact Or.inr fun hspan =>
          hout _ List.mem_cons_self (Temporary.numberedIn_of_span hle hspan)
      · exact Or.inl rfl

theorem bindConfined_scalar (type : ScalarType) : BindConfined c (.scalar type) := by
  intro t source n around p _ hp hout _
  rw [bind, List.singleton_append, ConfinedAll, Confined]
  refine ⟨⟨fun hx => hout _ hx (t.span_self _ _), [], p, [], rfl, hp, ?_, ?_⟩,
    confinedAll_singleton (Statement.introduced_eq_nil_of_publishes hp)⟩
  · simp [publishedOf]
  · simp [varsOf]

theorem bindConfined_structure {shape : String} {parts : List (String × Layout)}
    (hparts : MembersConfined c parts) : BindConfined c (.structure shape parts) := by
  intro t source n around p ht hp hout hvars
  rw [bind] at hout hvars ⊢
  have hself : ¬ Temporary.NumberedIn n (c.bindMembers t.text source parts n).2 t.text :=
    Temporary.not_numberedIn ht
  rw [List.cons_append, ConfinedAll, Confined]
  refine ⟨⟨fun hx => hout _ (List.mem_cons_of_mem _ hx) (t.span_self _ _), _, p, [], rfl, hp, ?_,
    ?_⟩, hparts _ _ _ _ p (Statement.introduced_eq_nil_of_publishes hp) ?_⟩
  · intro hx
    rcases mem_publishedOf_bindMembers hx with h | h
    · exact hout _ (h ▸ List.mem_cons_self) (t.span_self _ _)
    · exact hself h
  · simp [varsOf]
  · intro x hx hnumbered
    simp only [vars, List.mem_cons, List.mem_append, List.not_mem_nil, or_false] at hx
    rcases hx with (rfl | rfl | hx) | rfl | hx
    · exact hself hnumbered
    · exact hout _ List.mem_cons_self (Or.inr hnumbered)
    · rcases hvars x hx with rfl | h
      · exact hself hnumbered
      · exact h (Or.inr hnumbered)
    · exact hself hnumbered
    · exact hout x (List.mem_cons_of_mem _ hx) (Or.inr hnumbered)

section

variable {t : Temporary} {n k : Nat} {source : Accessor} {around : List String} {p : Statement}

/-- What is mentioned around the loop over the parts of a value: the variable of the value, or none
of the binding's variables. -/
theorem outside_loop (hout : ∀ x ∈ source.root :: around, ¬ t.Span n k x)
    (hvars : ∀ x ∈ p.vars, x = t.text ∨ ¬ t.Span n k x) :
    ∀ x ∈ source.root :: varsOf [p] ++ ([t.text] ++ around), x = t.text ∨ ¬ t.Span n k x := by
  intro x hx
  rw [Statement.varsOf_singleton] at hx
  simp only [List.cons_append, List.nil_append, List.mem_cons, List.mem_append] at hx
  rcases hx with rfl | hx | rfl | hx
  · exact Or.inr (hout _ List.mem_cons_self)
  · exact hvars x hx
  · exact Or.inl rfl
  · exact Or.inr (hout x (List.mem_cons_of_mem _ hx))

variable {outside : List String} (h : ∀ x ∈ outside, x = t.text ∨ ¬ t.Span n k x)
include h

theorem extend_not_mem_outside (e : Ending) : (t.extend e).text ∉ outside := by
  intro hx
  rcases h _ hx with hself | hspan
  · exact Temporary.text_extend_ne t e hself
  · exact hspan (Or.inl (t.owns_extend_self e))

theorem not_span_extend_of_mem_outside (ht : t.number < n) (e : Ending) :
    ∀ x ∈ outside, ¬ (t.extend e).Span n k x := by
  intro x hx hspan
  rcases h x hx with rfl | hout
  · exact Temporary.not_span_parent ht e hspan
  · exact hout (Temporary.span_extend hspan)

end

section

variable {t : Temporary} {n : Nat} {l : Layout} {e e' : Ending}

/-- Binding a part of a value does not hand on the value. -/
theorem text_not_mem_publishedOf_part (ht : t.number < n) :
    t.text ∉ publishedOf (c.bind (t.extend e).text (.var (t.extend e').text) l n).1 := by
  intro hx
  rcases c.vars_bind l _ _ n _ (Statement.publishedOf_subset _ hx) with h | h
  · exact Temporary.text_extend_ne t e' h.symm
  · exact Temporary.not_span_parent ht e h

/-- Binding a part of a value and handing it over is confined inside the loop over the parts, which
gives further parts to its body. -/
theorem confinedAll_part (given : List String) (p : Statement) (hl : BindConfined c l)
    (he : e ≠ e') (ht : t.number < n) {outside : List String}
    (houtside : ∀ x ∈ outside, x = t.text ∨
      ¬ t.Span n (c.bind (t.extend e).text (.var (t.extend e').text) l n).2 x)
    (hgiven : ∀ x ∈ given, ∃ f, e ≠ f ∧ x = (t.extend f).text)
    (hp : p.Publishes (t.extend e).text)
    (hvars : ∀ x ∈ p.vars, x = t.text ∨ ∃ f, x = (t.extend f).text) :
    ConfinedAll (given ++ outside)
      ((c.bind (t.extend e).text (.var (t.extend e').text) l n).1 ++ [p]) := by
  refine hl (t.extend e) _ n _ p ht hp (fun x hx => ?_) (fun x hx => ?_)
  · rcases List.mem_cons.mp hx with rfl | hx
    · exact Temporary.not_span_extend ht he
    · rcases List.mem_append.mp hx with hx | hx
      · obtain ⟨f, hf, rfl⟩ := hgiven x hx
        exact Temporary.not_span_extend ht hf
      · exact not_span_extend_of_mem_outside houtside ht e x hx
  · rcases hvars x hx with rfl | ⟨f, rfl⟩
    · exact Or.inr (Temporary.not_span_parent ht e)
    · by_cases hf : e = f
      · exact Or.inl (hf ▸ rfl)
      · exact Or.inr (Temporary.not_span_extend ht hf)

end

theorem bindConfined_list {type : FieldType} {l : Layout} (hl : BindConfined c l) :
    BindConfined c (.list type l) := by
  intro t source n around p ht hp hout hvars
  rw [bind_list_snd] at hout hvars
  have houtside := outside_loop hout hvars
  have hbody := confinedAll_part [(t.extend .iter).text]
    (.append t.text (t.extend .elem).text) hl (by decide) ht houtside
    (fun x hx => ⟨.iter, by decide, List.mem_singleton.mp hx⟩) rfl (fun x hx => ?_)
  · rw [bind_list, elementBody, List.cons_append, List.singleton_append, ConfinedAll, Confined,
      ConfinedAll, Confined]
    refine ⟨⟨fun hx => hout _ (List.mem_cons_of_mem _ hx) (t.span_self _ _), [_], p, [], rfl, hp,
      ?_, ?_⟩, ⟨extend_not_mem_outside houtside .iter, hbody⟩,
      confinedAll_singleton (Statement.introduced_eq_nil_of_publishes hp)⟩
    · simp only [publishedOf, published, Statement.publishedOf_append, List.append_nil,
        List.mem_append, List.mem_singleton, not_or]
      exact ⟨text_not_mem_publishedOf_part ht, (Temporary.text_extend_ne t .elem).symm⟩
    · simp [varsOf]
  · rw [vars] at hx
    exact (List.mem_pair.mp hx).imp_right fun h => ⟨.elem, h⟩

theorem bindConfined_map {type : FieldType} {l : Layout} (hl : BindConfined c l) :
    BindConfined c (.map type l) := by
  intro t source n around p ht hp hout hvars
  rw [bind_map_snd] at hout hvars
  have houtside := outside_loop hout hvars
  have hne : (t.extend .valit).text ≠ (t.extend .key).text := fun h =>
    Temporary.not_owns_extend (t := t) (by decide : Ending.key ≠ .valit)
      (h ▸ Temporary.owns_self _)
  have hbody := confinedAll_part [(t.extend .valit).text, (t.extend .key).text]
    (.insert t.text (t.extend .key).text (t.extend .val).text) hl (by decide) ht houtside
    (fun x hx => ?_) rfl (fun x hx => ?_)
  · rw [bind_map, entryBody, List.cons_append, List.singleton_append, ConfinedAll, Confined,
      ConfinedAll, Confined]
    refine ⟨⟨fun hx => hout _ (List.mem_cons_of_mem _ hx) (t.span_self _ _), [_], p, [], rfl, hp,
      ?_, ?_⟩, ⟨extend_not_mem_outside houtside .key, fun hx => ?_, hbody⟩,
      confinedAll_singleton (Statement.introduced_eq_nil_of_publishes hp)⟩
    · simp only [publishedOf, published, Statement.publishedOf_append, List.append_nil,
        List.mem_append, List.mem_singleton, not_or]
      exact ⟨text_not_mem_publishedOf_part ht, (Temporary.text_extend_ne t .val).symm⟩
    · simp [varsOf]
    · rcases List.mem_cons.mp hx with h | hx
      · exact hne h
      · exact extend_not_mem_outside houtside .valit hx
  · rcases List.mem_pair.mp hx with rfl | rfl
    · exact ⟨.valit, by decide, rfl⟩
    · exact ⟨.key, by decide, rfl⟩
  · rw [vars] at hx
    simp only [List.mem_cons, List.not_mem_nil, or_false] at hx
    rcases hx with rfl | rfl | rfl
    · exact Or.inl rfl
    · exact Or.inr ⟨.key, rfl⟩
    · exact Or.inr ⟨.val, rfl⟩

theorem membersConfined_nil : MembersConfined c [] := by
  intro var source n around p hp _
  rw [bindMembers]
  exact confinedAll_singleton hp

/-- A copy and what follows it are confined each among the other. -/
theorem confinedAll_copy_append {l : Layout} (hl : CopyConfined c l) {dest source : Accessor}
    {n : Nat} {around : List String} {block : List Statement}
    (hout : ∀ x ∈ dest.root :: source.root :: varsOf block ++ around,
      ¬ Temporary.NumberedIn n (c.copy dest source l n).2 x)
    (hblock : ConfinedAll (varsOf (c.copy dest source l n).1 ++ around) block) :
    ConfinedAll around ((c.copy dest source l n).1 ++ block) := by
  have hcopy := hl dest source n (varsOf block ++ around) hout
  obtain ⟨body, hguard⟩ := c.copy_eq_guard dest source l n
  rw [hguard] at hcopy hblock ⊢
  exact Statement.confinedAll_guard_append hcopy hblock

theorem membersConfined_cons {wire : String} {l : Layout} {parts : List (String × Layout)}
    (hl : CopyConfined c l) (hparts : MembersConfined c parts) :
    MembersConfined c ((wire, l) :: parts) := by
  intro var source n around p hp hout
  have hle := c.le_copy l ((Accessor.var var).field (c.destName wire))
    (source.field (c.sourceName wire)) n
  have hone := vars_copy_of_bind (c.vars_bind l) ((Accessor.var var).field (c.destName wire))
    (source.field (c.sourceName wire)) n
  rw [bindMembers_cons] at hout ⊢
  generalize hnext : (c.copy ((Accessor.var var).field (c.destName wire))
    (source.field (c.sourceName wire)) l n).2 = k at hle hone hout ⊢
  have hmore := c.vars_bindMembers parts var source k
  have hle' := c.le_bindMembers parts var source k
  rw [List.append_assoc]
  refine confinedAll_copy_append hl ?_ (hparts var source k _ p hp ?_)
  · -- what follows has the numbers behind those of the copy
    rw [hnext]
    intro x hx hnumbered
    have hlater := Temporary.numberedIn_mono (Nat.le_refl n) hle' hnumbered
    rw [Statement.varsOf_append, Statement.varsOf_singleton] at hx
    simp only [Accessor.field_root, Accessor.var_root, List.mem_cons, List.mem_append] at hx hout
    rcases hx with (rfl | rfl | hx | hx) | hx
    · exact hout _ (by tauto) hlater
    · exact hout _ (by tauto) hlater
    · rcases hmore x hx with rfl | rfl | hx
      · exact hout _ (by tauto) hlater
      · exact hout _ (by tauto) hlater
      · exact Temporary.not_numberedIn_of_numberedIn hnumbered hx
    · exact hout x (by tauto) hlater
    · exact hout x (by tauto) hlater
  · intro x hx hnumbered
    have hearlier := Temporary.numberedIn_mono hle (Nat.le_refl _) hnumbered
    simp only [List.mem_cons, List.mem_append] at hx hout
    rcases hx with (rfl | rfl | hx) | hx | hx
    · exact hout _ (by tauto) hearlier
    · exact hout _ (by tauto) hearlier
    · exact hout x (by tauto) hearlier
    · rcases hone x hx with rfl | rfl | hx
      · exact hout _ (by simp) hearlier
      · exact hout _ (by simp) hearlier
      · exact Temporary.not_numberedIn_of_numberedIn hx hnumbered
    · exact hout x (by tauto) hearlier

mutual

/-- **Binding a temporary and handing it over is confined**, whatever the layout. -/
theorem bindConfined (c : Copier) : ∀ l : Layout, BindConfined c l
  | .scalar type => bindConfined_scalar type
  | .structure _ parts => bindConfined_structure (membersConfined c parts)
  | .list _ l => bindConfined_list (bindConfined c l)
  | .map _ l => bindConfined_map (bindConfined c l)

theorem membersConfined (c : Copier) : ∀ parts : List (String × Layout), MembersConfined c parts
  | [] => membersConfined_nil
  | (_, l) :: parts =>
    membersConfined_cons (copyConfined_of_bindConfined (bindConfined c l)) (membersConfined c parts)

end

/-! ## Transfers -/

/-- A transfer mentions its ends and numbers of its own. -/
theorem vars_transfer {t : Transfer} {n : Nat} {x : String} (hx : x ∈ varsOf (c.transfer t n).1) :
    x = t.dest.root ∨ x = t.source.root ∨ Temporary.NumberedIn n (c.transfer t n).2 x := by
  cases t with
  | copied dest source l => exact vars_copy_of_bind (c.vars_bind l) dest source n x hx
  | handed dest source kind =>
    simp only [transfer, guarded, varsOf, vars, List.mem_append, List.mem_cons,
      List.not_mem_nil, or_false] at hx
    show x = dest.root ∨ x = source.root ∨ _
    tauto

/-- Transfers mention their ends and numbers that are still free. -/
theorem vars_transfers {ts : List Transfer} {n : Nat} {x : String}
    (hx : x ∈ varsOf (c.transfers ts n)) :
    (∃ t ∈ ts, x = t.dest.root ∨ x = t.source.root) ∨ Temporary.NumberedFrom n x := by
  induction ts generalizing n with
  | nil =>
    rw [transfers, varsOf] at hx
    cases hx
  | cons t ts ih =>
    rw [transfers, Statement.varsOf_append, List.mem_append] at hx
    rcases hx with hx | hx
    · rcases vars_transfer hx with h | h | h
      · exact Or.inl ⟨t, List.mem_cons_self, Or.inl h⟩
      · exact Or.inl ⟨t, List.mem_cons_self, Or.inr h⟩
      · exact Or.inr (Temporary.numberedFrom_of_numberedIn h)
    · rcases ih hx with ⟨u, hu, h⟩ | h
      · exact Or.inl ⟨u, List.mem_cons_of_mem _ hu, h⟩
      · exact Or.inr (Temporary.numberedFrom_mono (c.le_transfer t n) h)

/-- **Transfers between variables that are no temporaries are confined.** -/
theorem confined_transfers {ts : List Transfer} {n : Nat} {around : List String}
    (hts : ∀ t ∈ ts, ¬ Temporary.IsTemporary t.dest.root ∧ ¬ Temporary.IsTemporary t.source.root)
    (haround : ∀ x ∈ around, ¬ Temporary.NumberedFrom n x) :
    ConfinedAll around (c.transfers ts n) := by
  induction ts generalizing n around with
  | nil =>
    rw [transfers, ConfinedAll]
    trivial
  | cons t ts ih =>
    obtain ⟨hdest, hsource⟩ := hts t List.mem_cons_self
    have hrest := fun u hu => hts u (List.mem_cons_of_mem t hu)
    have hblock : ConfinedAll (varsOf (c.transfer t n).1 ++ around)
        (c.transfers ts (c.transfer t n).2) := by
      refine ih hrest fun x hx hfree => ?_
      rcases List.mem_append.mp hx with hx | hx
      · rcases vars_transfer hx with rfl | rfl | h
        · exact hdest (Temporary.isTemporary_of_numberedFrom hfree)
        · exact hsource (Temporary.isTemporary_of_numberedFrom hfree)
        · exact Temporary.not_numberedFrom_of_numberedIn h hfree
      · exact haround x hx (Temporary.numberedFrom_mono (c.le_transfer t n) hfree)
    rw [transfers]
    cases t with
    | handed dest source kind =>
      exact Statement.confinedAll_append_of_introducedOf_eq_nil rfl hblock
    | copied dest source l =>
      refine confinedAll_copy_append (copyConfined_of_bindConfined (bindConfined c l)) ?_ hblock
      intro x hx hnumbered
      simp only [List.mem_cons, List.mem_append] at hx
      rcases hx with (rfl | rfl | hx) | hx
      · exact hdest (Temporary.isTemporary_of_numberedIn hnumbered)
      · exact hsource (Temporary.isTemporary_of_numberedIn hnumbered)
      · -- the later transfers have none of the numbers of this one
        rcases vars_transfers hx with ⟨u, hu, rfl | rfl⟩ | h
        · exact (hrest u hu).1 (Temporary.isTemporary_of_numberedIn hnumbered)
        · exact (hrest u hu).2 (Temporary.isTemporary_of_numberedIn hnumbered)
        · exact Temporary.not_numberedFrom_of_numberedIn hnumbered h
      · exact haround x hx (Temporary.numberedFrom_of_numberedIn hnumbered)

end Copier

/-! ## Programs -/

namespace Synthesizer

open Statement (varsOf vars publishedOf published ConfinedAll Confined introducedOf)

variable {s : Synthesizer} {r : Resource} {roots : List String} {p : Program}

/-- The variables that programs of a direction have for themselves. -/
def IsOwnVariable : Direction → String → Prop
  | .outbound => IsRequestVariable
  | .inbound => IsAdoptionVariable

theorem confined_of_moves {d : Direction} (h : s.Moves d roots p)
    (hroots : ∀ x ∈ roots, ¬ Temporary.IsTemporary x) {around : List String}
    (haround : ∀ x ∈ around, ¬ Temporary.IsTemporary x) : ConfinedAll around p.statements := by
  obtain ⟨ts, hts, rfl⟩ := h
  exact Copier.confined_transfers
    (fun t ht => ⟨hroots _ (hts t ht).roots.1, hroots _ (hts t ht).roots.2⟩)
    (fun x hx h => haround x hx (Temporary.isTemporary_of_numberedFrom h))

/-- Values that are handed over from a step behind a variable take no variable of their own. -/
theorem transfers_of_handed (c : Copier) {ts : List Transfer} (n : Nat)
    (h : ∀ t ∈ ts, ∃ dest source kind, t = .handed dest source kind ∧ source.segments ≠ []) :
    introducedOf (c.transfers ts n) = [] ∧ publishedOf (c.transfers ts n) = [] ∧
      ∀ x ∈ varsOf (c.transfers ts n), ∃ t ∈ ts, x = t.dest.root ∨ x = t.source.root := by
  induction ts with
  | nil => exact ⟨rfl, rfl, fun x hx => absurd hx List.not_mem_nil⟩
  | cons t ts ih =>
    obtain ⟨hintroduced, hpublished, hvars⟩ := ih fun u hu => h u (List.mem_cons_of_mem t hu)
    obtain ⟨dest, source, kind, rfl, hsegments⟩ := h t List.mem_cons_self
    rw [Copier.transfers, Copier.transfer]
    refine ⟨?_, ?_, fun x hx => ?_⟩
    · rw [Statement.introducedOf_append, hintroduced]
      rfl
    · have hquiet : published (guarded dest source kind) = [] := by
        simp [guarded, published, publishedOf, hsegments]
      rw [Statement.publishedOf_append, hpublished]
      simp [publishedOf, hquiet]
    · rw [Statement.varsOf_append, List.mem_append] at hx
      rcases hx with hx | hx
      · refine ⟨_, List.mem_cons_self, ?_⟩
        simp only [guarded, varsOf, vars, List.mem_append, List.mem_cons, List.not_mem_nil,
          or_false] at hx
        show x = dest.root ∨ x = source.root
        tauto
      · obtain ⟨u, hu, h⟩ := hvars x hx
        exact ⟨u, List.mem_cons_of_mem _ hu, h⟩

/-- The entries of the attribute map are handed over from the Spec. -/
theorem handed_of_attributeEntry {spec : Accessor} {fs : List Field} {t : Transfer}
    (ht : t ∈ fs.filterMap (attributeEntry spec)) :
    (∃ dest source kind, t = .handed dest source kind ∧ source.segments ≠ []) ∧
      t.dest.root = attributeMapVar ∧ t.source.root = spec.root := by
  obtain ⟨f, -, hf⟩ := List.mem_filterMap.mp ht
  obtain ⟨key, -, rfl⟩ := Option.map_eq_some_iff.mp hf
  exact ⟨⟨_, _, _, rfl, by simp [Accessor.field]⟩, rfl, rfl⟩

/-- The entries of the attribute map are transfers from the Spec into it. -/
theorem moves_attributeEntries (fs : List Field) (spec : Accessor) :
    s.Moves .outbound [attributeMapVar, spec.root]
      (s.program .outbound [] (fs.filterMap (attributeEntry spec))) := by
  refine ⟨_, fun t ht => ?_, rfl⟩
  obtain ⟨⟨dest, source, kind, rfl, hsegments⟩, hdest, hsource⟩ := handed_of_attributeEntry ht
  exact ⟨List.mem_pair.mpr (Or.inl hdest), List.mem_pair.mpr (Or.inr hsource), hsegments⟩

/-- The attribute map is handed over before the transfers that follow it, which do not mention
it. -/
theorem confined_behindAttributes {request spec : Accessor} {member : String} {ts : List Transfer}
    (hrequest : request.root ∈ roots) (hspec : spec.root ∈ roots)
    (hts : ∀ t ∈ ts, t.Within s.model roots) (hroots : ∀ x ∈ roots, ¬ IsRequestVariable x) :
    ConfinedAll [] (s.program .outbound
      (sendAttributes r request spec member ⟨.outbound, s.types⟩) ts).statements := by
  have hentries : ∀ t ∈ r.spec.values.filterMap (attributeEntry spec),
      ∃ dest source kind, t = .handed dest source kind ∧ source.segments ≠ [] :=
    fun t ht => (handed_of_attributeEntry ht).1
  obtain ⟨hintroduced, hpublished, hvars⟩ := transfers_of_handed ⟨.outbound, s.types⟩ 0 hentries
  have htemp : ∀ x ∈ roots, ¬ Temporary.IsTemporary x := fun x hx h => hroots x hx (Or.inl h)
  rw [program, sendAttributes, List.cons_append, List.cons_append, ConfinedAll, Confined]
  refine ⟨⟨List.not_mem_nil, _, _, _, List.append_assoc _ _ _, rfl, ?_, fun hx => ?_⟩, ?_⟩
  · rw [hpublished]
    exact List.not_mem_nil
  · rcases Copier.vars_transfers hx with ⟨t, ht, h | h⟩ | h
    · exact hroots _ (hts t ht).roots.1 (Or.inr h.symm)
    · exact hroots _ (hts t ht).roots.2 (Or.inr h.symm)
    · exact not_isTemporary_attributeMapVar (Temporary.isTemporary_of_numberedFrom h)
  · refine Statement.confinedAll_append_of_introducedOf_eq_nil ?_
      (confined_of_moves ⟨ts, hts, rfl⟩ htemp fun x hx => ?_)
    · rw [Statement.introducedOf_append, hintroduced]
      rfl
    · simp only [Statement.varsOf_append, Statement.varsOf_singleton, Copier.publish, vars,
        Accessor.field_root, Accessor.var_root, List.mem_append, List.mem_cons, List.not_mem_nil,
        or_false] at hx
      rcases hx with (hx | rfl | rfl) | rfl
      · obtain ⟨t, ht, h⟩ := hvars x hx
        obtain ⟨-, hdest, hsource⟩ := handed_of_attributeEntry ht
        rcases h with rfl | rfl
        · exact hdest ▸ not_isTemporary_attributeMapVar
        · exact hsource ▸ htemp _ hspec
      · exact htemp _ hrequest
      · exact not_isTemporary_attributeMapVar
      · exact not_isTemporary_attributeMapVar

/-- The only element of a list is not mentioned outside of its block. -/
theorem confined_onlyElement {list : Accessor} (hlist : list.root ∈ roots)
    (h : s.Moves .inbound (onlyElementVar :: roots) p)
    (hroots : ∀ x ∈ roots, ¬ IsAdoptionVariable x) :
    ConfinedAll [] [.ifSingleElement list onlyElementVar p.statements] := by
  have htemp : ∀ x ∈ onlyElementVar :: roots, ¬ Temporary.IsTemporary x := by
    intro x hx
    rcases List.mem_cons.mp hx with rfl | hx
    · exact not_isTemporary_onlyElementVar
    · exact fun h => hroots x hx (Or.inl h)
  rw [ConfinedAll, Confined, varsOf, List.append_nil]
  refine ⟨⟨fun hx => ?_, confined_of_moves h htemp fun x hx => ?_⟩, trivial⟩
  · exact hroots _ hlist (Or.inr (List.mem_singleton.mp hx).symm)
  · rcases List.mem_pair.mp hx with rfl | rfl
    · exact not_isTemporary_onlyElementVar
    · exact htemp _ (List.mem_cons_of_mem _ hlist)

theorem disciplined_of_moves {d : Direction} (h : s.Moves d roots p)
    (hroots : ∀ x ∈ roots, ¬ Temporary.IsTemporary x) : p.Disciplined := by
  have hconfined := confined_of_moves h hroots fun x hx => absurd hx List.not_mem_nil
  exact ⟨(Statement.nodup_introducedOf hconfined).1, hconfined⟩

theorem disciplined_of_assembled {d : Direction} (h : s.Assembled roots d p)
    (hroots : ∀ x ∈ roots, ¬ IsOwnVariable d x) : p.Disciplined := by
  have hof (hconfined : ConfinedAll [] p.statements) : p.Disciplined :=
    ⟨(Statement.nodup_introducedOf hconfined).1, hconfined⟩
  cases h with
  | transfers h =>
    refine disciplined_of_moves h fun x hx htemp => hroots x hx ?_
    cases d <;> exact Or.inl htemp
  | behindAttributes r member hrequest hspec hts =>
    exact hof (confined_behindAttributes hrequest hspec hts hroots)
  | onlyElement hlist h => exact hof (confined_onlyElement hlist h hroots)

/-- **Programs keep to the discipline of temporaries**, where the variables that are given to them
are none of their own. -/
theorem disciplined_programs (s : Synthesizer) (r : Resource) :
    (∀ role object request p, ¬ IsRequestVariable (Accessor.parse object).root →
      ¬ IsRequestVariable (Accessor.parse request).root →
      s.fillRequest r role object request = .ok p → p.Disciplined) ∧
    (∀ object request p, ¬ Temporary.IsTemporary (Accessor.parse object).root →
      ¬ Temporary.IsTemporary (Accessor.parse request).root →
      s.fillAttributesQuery r object request = .ok p → p.Disciplined) ∧
    (∀ role response target p, ¬ IsAdoptionVariable (Accessor.parse response).root →
      ¬ IsAdoptionVariable target.statusRoot.root →
      s.adoptResponse r role response target = .ok p → p.Disciplined) ∧
    (∀ response status p, ¬ Temporary.IsTemporary (Accessor.parse response).root →
      ¬ Temporary.IsTemporary (Accessor.parse status).root →
      s.adoptAttributes r response status = .ok p → p.Disciplined) := by
  have hpair {S : String → Prop} {a b : String} (ha : ¬ S a) (hb : ¬ S b) :
      ∀ x ∈ [a, b], ¬ S x := by
    intro x hx
    rcases List.mem_pair.mp hx with rfl | rfl <;> assumption
  refine ⟨fun role object request p hobject hrequest h => ?_,
    fun object request p hobject hrequest h => ?_,
    fun role response target p hresponse htarget h => ?_,
    fun response status p hresponse hstatus h => ?_⟩
  · exact disciplined_of_assembled (fillRequest_assembled h) (hpair hobject hrequest)
  · exact disciplined_of_moves (fillAttributesQuery_moves h) (hpair hobject hrequest)
  · exact disciplined_of_assembled (adoptResponse_assembled h).1 (hpair hresponse htarget)
  · exact disciplined_of_moves (adoptAttributes_moves h) (hpair hresponse hstatus)

end Synthesizer

/-- The program that creates a queue with its attribute map, name and tags. -/
def queueRequest : Program :=
  let res := Accessor.parse "res"
  let spec := (Accessor.parse "ko").field "Spec"
  queueSchema.synthesizer.program .outbound
    (Synthesizer.sendAttributes queue res spec "Attributes" ⟨.outbound, queueSchema.types⟩)
    [.copied (res.field "QueueName") (spec.field "Name") (.scalar .string),
      .copied (res.field "tags") (spec.field "Tags") (.map .string (.scalar .string))]

theorem introducedOf_queueRequest :
    Statement.introducedOf queueRequest.statements =
      ["attrMap", "f0", "f0key", "f0valit", "f0val"] := by
  have hvar : Copier.temporary 0 = "f0" := rfl
  have hattributes : queue.spec.values.filterMap
      (Synthesizer.attributeEntry ((Accessor.parse "ko").field "Spec")) =
        [.handed ((Accessor.var attributeMapVar).key "Delay")
          (((Accessor.parse "ko").field "Spec").field "Delay") .value] := rfl
  simp [queueRequest, Synthesizer.program, Synthesizer.sendAttributes, hattributes,
    Copier.transfers, Copier.transfer, Copier.copy, Copier.bind, Copier.publish, guarded,
    Statement.introducedOf, Statement.introduced, attributeMapVar, hvar]

/-- A queue is created with its attribute map and its tags, and taken over out of a listing. -/
theorem disciplined_programs_queue :
    queueSchema.synthesizer.fillRequest queue .create "ko" "res" = .ok queueRequest ∧
      queueRequest.Disciplined ∧
      Statement.introducedOf queueRequest.statements =
        ["attrMap", "f0", "f0key", "f0valit", "f0val"] ∧
      ∃ p,
        listingSchema.synthesizer.adoptResponse listedQueue .list "resp" (.resource "ko") = .ok p ∧
          p.Disciplined := by
  have hrequest : queueSchema.synthesizer.fillRequest queue .create "ko" "res" =
      .ok queueRequest := rfl
  obtain ⟨p, hp⟩ : ∃ p,
      listingSchema.synthesizer.adoptResponse listedQueue .list "resp" (.resource "ko") = .ok p :=
    ⟨_, rfl⟩
  have hko : ¬ IsRequestVariable (Accessor.parse "ko").root := by
    rintro (h | h)
    · exact not_isTemporary_ko h
    · exact absurd h (by decide)
  have hres : ¬ IsRequestVariable (Accessor.parse "res").root := by
    rintro (h | h)
    · exact Temporary.not_isTemporary_of_head (by decide) h
    · exact absurd h (by decide)
  have hresp : ¬ IsAdoptionVariable (Accessor.parse "resp").root := by
    rintro (h | h)
    · exact not_isTemporary_resp h
    · exact absurd h (by decide)
  have htarget : ¬ IsAdoptionVariable (InboundTarget.resource "ko").statusRoot.root := by
    rintro (h | h)
    · exact not_isTemporary_ko h
    · exact absurd h (by decide)
  obtain ⟨hfill, -⟩ := Synthesizer.disciplined_programs queueSchema.synthesizer queue
  obtain ⟨-, -, hadopt, -⟩ := Synthesizer.disciplined_programs listingSchema.synthesizer listedQueue
  exact ⟨hrequest, hfill _ _ _ _ hko hres hrequest, introducedOf_queueRequest, p, hp,
    hadopt _ _ _ p hresp htarget hp⟩

end ResourceGen
