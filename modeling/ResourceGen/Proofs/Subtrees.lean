import ResourceGen.Proofs.Files

/-!
# Steps in one directory

A step on disk looks at what stands below the directory that its place is in, and at the files that
are in the way to it. Where two trees agree about both (`FileTree.AgreesAt`), steps below the
directory do the same in both, whatever stands beside. Steps that are apart from a place change
nothing that matters to it.

Results:
* `AgreesAt.makeDirectory?`, `AgreesAt.write?`: a step below the place goes well in both trees.
* `AgreesAt.of_makeDirectory?`, `AgreesAt.of_write?`: a step apart from the place.
* `Performs.agreesAt_of_apart`, `Performs.of_agreesAt`: the same for several steps.
-/

namespace ResourceGen

namespace FileTree

variable {t t' u u' : FileTree} {p place rest : List String} {content : String}

/-- A file is written below one of the entries, if its place is not one of them. -/
theorem write?_cons (content name : String) (entries : List (String × FileTree))
    (h : rest ≠ []) : write? content (directory entries) (name :: rest) =
      (Entries.get? entries name).bind fun t =>
        (write? content t rest).map fun t => directory (Entries.insert entries name t) := by
  obtain ⟨x, rest, rfl⟩ := List.exists_cons_of_ne_nil h
  rfl

/-- A file is written below what is there. -/
theorem exists_get?_of_write? (hrest : rest ≠ []) (h : write? content t (p ++ rest) = some t') :
    ∃ d, t.get? p = some d := by
  induction p generalizing t t' with
  | nil => exact ⟨t, by cases t <;> rfl⟩
  | cons name p ih =>
    cases t with
    | file content => cases h
    | directory entries =>
      rw [List.cons_append, write?_cons _ _ _ (List.append_ne_nil_of_right_ne_nil p hrest)] at h
      obtain ⟨v, hv, h⟩ := Option.bind_eq_some_iff.mp h
      obtain ⟨v', hv', -⟩ := Option.map_eq_some_iff.mp h
      obtain ⟨d, hd⟩ := ih hv'
      exact ⟨d, by rw [get?, hv, Option.bind_some, hd]⟩

/-! ## Trees that agree at a place -/

/-- Two trees agree at a place: the same stands there, and the same files stand in the way to it. -/
structure AgreesAt (p : List String) (t u : FileTree) : Prop where
  below : u.get? p = t.get? p
  way : ∀ q, q <+: p → u.fileAt? q = t.fileAt? q

namespace AgreesAt

theorem refl (p : List String) (t : FileTree) : AgreesAt p t t := ⟨rfl, fun _ _ => rfl⟩

theorem trans {v : FileTree} (h : AgreesAt p t u) (h' : AgreesAt p u v) : AgreesAt p t v :=
  ⟨h'.below.trans h.below, fun q hq => (h'.way q hq).trans (h.way q hq)⟩

/-- Making a directory that is apart from the place. -/
theorem of_makeDirectory? (h : t.makeDirectory? place = some t') (hp : Apart place p) :
    AgreesAt p t t' :=
  ⟨get?_of_makeDirectory?_apart h hp, fun q _ => fileAt?_of_makeDirectory? h q⟩

/-- Writing a file that is apart from the place. -/
theorem of_write? (h : write? content t place = some t') (hp : Apart place p) :
    AgreesAt p t t' := by
  refine ⟨get?_of_write?_apart h hp, fun q hq => ?_⟩
  have hne : q ≠ place := fun heq => hp.left (heq ▸ hq)
  rw [fileAt?_of_write? h, if_neg hne]

/-- Trees that agree below a name agree in the directories. -/
theorem insert (h : AgreesAt p t u) (entries entries' : List (String × FileTree)) (name : String) :
    AgreesAt (name :: p) (directory (Entries.insert entries name t))
      (directory (Entries.insert entries' name u)) := by
  constructor
  case below =>
    rw [get?, get?, Entries.get?_insert_self, Entries.get?_insert_self]
    exact h.below
  case way =>
    intro q hq
    cases q with
    | nil => rfl
    | cons name' q =>
      obtain ⟨rfl, hinitial⟩ := List.cons_prefix_cons.mp hq
      rw [fileAt?_directory_cons, fileAt?_directory_cons, Entries.get?_insert_self,
        Entries.get?_insert_self]
      exact h.way q hinitial

/-- Directories that agree below a name have trees that agree under it. -/
theorem child {entries entries' : List (String × FileTree)} {name : String}
    (h : AgreesAt (name :: p) (directory entries) (directory entries')) :
    AgreesAt p ((Entries.get? entries name).getD empty)
      ((Entries.get? entries' name).getD empty) := by
  constructor
  case below =>
    have hbelow := h.below
    rw [get?, get?] at hbelow
    cases p with
    | nil =>
      have hsome (o : Option FileTree) : (o.bind fun t => t.get? []) = o := by cases o <;> rfl
      rw [hsome, hsome] at hbelow
      rw [hbelow]
    | cons name' p =>
      have hsome (o : Option FileTree) :
          (o.getD empty).get? (name' :: p) = o.bind fun t => t.get? (name' :: p) := by
        cases o <;> rfl
      rw [hsome, hsome, hbelow]
  case way =>
    intro q hq
    have hway := h.way (name :: q) (List.cons_prefix_cons.mpr ⟨rfl, hq⟩)
    rw [fileAt?_directory_cons, fileAt?_directory_cons] at hway
    rw [fileAt?_getD_empty, fileAt?_getD_empty, hway]

/-- What agrees with a directory is one. -/
theorem exists_directory {entries : List (String × FileTree)}
    (h : AgreesAt p (directory entries) u) : ∃ entries', u = directory entries' := by
  cases u with
  | directory entries' => exact ⟨entries', rfl⟩
  | file content => cases h.way [] List.nil_prefix

/-- **A directory below the place** can be made in both trees, and they agree afterwards. -/
theorem makeDirectory? (h : AgreesAt p t u) (ht : t.makeDirectory? (p ++ rest) = some t') :
    ∃ u', u.makeDirectory? (p ++ rest) = some u' ∧ AgreesAt p t' u' := by
  induction p generalizing t u t' with
  | nil =>
    obtain rfl : u = t := Option.some.inj h.below
    exact ⟨t', ht, refl _ _⟩
  | cons name p ih =>
    cases t with
    | file content => cases ht
    | directory entries =>
      obtain ⟨entries', rfl⟩ := h.exists_directory
      obtain ⟨child, hchild, rfl⟩ := makeDirectory?_cons_eq_some ht
      obtain ⟨child', hchild', hagree⟩ := ih h.child hchild
      have hname : Path.isName name = true := by
        by_contra hname
        rw [List.cons_append, FileTree.makeDirectory?, if_neg hname] at ht
        cases ht
      refine ⟨_, ?_, hagree.insert entries entries' name⟩
      rw [List.cons_append, FileTree.makeDirectory?, if_pos hname, hchild', Option.map_some]

/-- **A file below the place** can be written in both trees, and they agree afterwards. -/
theorem write? (h : AgreesAt p t u) (hrest : rest ≠ [])
    (ht : FileTree.write? content t (p ++ rest) = some t') :
    ∃ u', FileTree.write? content u (p ++ rest) = some u' ∧ AgreesAt p t' u' := by
  induction p generalizing t u t' with
  | nil =>
    obtain rfl : u = t := Option.some.inj h.below
    exact ⟨t', ht, refl _ _⟩
  | cons name p ih =>
    cases t with
    | file content => cases ht
    | directory entries =>
      obtain ⟨entries', rfl⟩ := h.exists_directory
      have hne : p ++ rest ≠ [] := List.append_ne_nil_of_right_ne_nil p hrest
      rw [List.cons_append, write?_cons _ _ _ hne] at ht
      obtain ⟨v, hv, ht⟩ := Option.bind_eq_some_iff.mp ht
      obtain ⟨v', hv', rfl⟩ := Option.map_eq_some_iff.mp ht
      -- the directory of the file is there in one tree, so it is in the other
      obtain ⟨w, hw⟩ : ∃ w, Entries.get? entries' name = some w := by
        obtain ⟨d, hd⟩ := exists_get?_of_write? hrest hv'
        have hbelow := h.below
        rw [get?, get?, hv, Option.bind_some, hd] at hbelow
        obtain ⟨w, hw, -⟩ := Option.bind_eq_some_iff.mp hbelow
        exact ⟨w, hw⟩
      have hchild := h.child
      rw [hv, hw, Option.getD_some, Option.getD_some] at hchild
      obtain ⟨w', hw', hagree⟩ := ih hchild hv'
      refine ⟨_, ?_, hagree.insert entries entries' name⟩
      rw [List.cons_append, write?_cons _ _ _ hne, hw, Option.bind_some, hw', Option.map_some]

end AgreesAt

end FileTree

/-! ## Steps in memory -/

/-- The place that a step is about. -/
def FileStep.place (here : List String) : FileStep → List String
  | .makeDirectory path => Path.names here path
  | .write path _ => Path.names here path

namespace Memory

open FileTree (Apart)

variable {s s' u : Memory} {step : FileStep} {files : FileTree} {steps : List FileStep}
  {p rest : List String}

/-- Two memories agree at a place. -/
structure AgreesAt (p : List String) (s u : Memory) : Prop where
  here : u.here = s.here
  files : s.files.AgreesAt p u.files

theorem AgreesAt.refl (p : List String) (s : Memory) : AgreesAt p s s := ⟨rfl, .refl p s.files⟩

theorem AgreesAt.trans {v : Memory} (h : AgreesAt p s u) (h' : AgreesAt p u v) :
    AgreesAt p s v :=
  ⟨h'.here.trans h.here, h.files.trans h'.files⟩

/-- A step apart from a place. -/
theorem agreesAt_of_perform? (h : s.perform? step = some files)
    (hp : Apart (step.place s.here) p) : s.files.AgreesAt p files := by
  cases step with
  | makeDirectory path => exact .of_makeDirectory? h hp
  | write path content =>
    rw [perform?] at h
    split at h
    · cases h
    · exact .of_write? h hp

/-- **Steps apart from a place** change nothing there. -/
theorem Performs.agreesAt_of_apart (h : s.Performs steps s')
    (hp : ∀ step ∈ steps, Apart (step.place s.here) p) : AgreesAt p s s' := by
  induction h with
  | nil => exact .refl p _
  | cons hstep _ ih =>
    have hfirst := agreesAt_of_perform? hstep (hp _ List.mem_cons_self)
    have hrest := ih fun step hstep => hp step (List.mem_cons_of_mem _ hstep)
    exact ⟨hrest.here, hfirst.trans hrest.files⟩

/-- A step below a place. -/
theorem exists_perform?_of_agreesAt (hagree : AgreesAt p s u) (hrest : rest ≠ [])
    (hplace : step.place s.here = p ++ rest) (h : s.perform? step = some files) :
    ∃ files', u.perform? step = some files' ∧ files.AgreesAt p files' := by
  cases step with
  | makeDirectory path =>
    have hplace : Path.names s.here path = p ++ rest := hplace
    rw [perform?, hplace] at h
    rw [perform?, hagree.here, hplace]
    exact hagree.files.makeDirectory? h
  | write path content =>
    have hplace : Path.names s.here path = p ++ rest := hplace
    rw [perform?] at h ⊢
    by_cases hend : Path.endsInDirectory path = true
    · rw [if_pos hend] at h
      cases h
    · rw [if_neg hend, hplace] at h
      rw [if_neg hend, hagree.here, hplace]
      exact hagree.files.write? hrest h

/-- **Steps below a place** go well in both memories, and leave both agreeing. -/
theorem Performs.of_agreesAt (h : s.Performs steps s') (hagree : AgreesAt p s u)
    (hp : ∀ step ∈ steps, ∃ rest, rest ≠ [] ∧ step.place s.here = p ++ rest) :
    ∃ u', u.Performs steps u' ∧ AgreesAt p s' u' := by
  induction h generalizing u with
  | nil => exact ⟨u, .nil u, hagree⟩
  | cons hstep _ ih =>
    obtain ⟨rest, hrest, hplace⟩ := hp _ List.mem_cons_self
    obtain ⟨files', hstep', hfiles⟩ := exists_perform?_of_agreesAt hagree hrest hplace hstep
    obtain ⟨u', hu', hagree'⟩ := ih (u := { u with files := files' }) ⟨hagree.here, hfiles⟩
      fun step hstep => hp step (List.mem_cons_of_mem _ hstep)
    exact ⟨u', .cons hstep' hu', hagree'⟩

/-- What stands at a path, where memories agree at its place. -/
theorem AgreesAt.get? {path : String} (h : AgreesAt (Path.names s.here path) s u) :
    u.get? path = s.get? path := by
  unfold Memory.get?
  rw [h.here, h.files.below]

end Memory

end ResourceGen
