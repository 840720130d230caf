import Mathlib.Data.List.Basic
import ResourceGen.Host
import ResourceGen.Proofs.Dictionary

/-!
# Files and steps on disk

A path leads to the place that its names give one by one, so a path that goes on from another by a
plain name (`Path.IsPlain`) leads one name further. In a tree of files, making directories changes
no file and adds none, and writing puts one file at its place and leaves every other one a file.

Results:
* `names_join`, `names_join_plain`: where a path leads that goes on from another one.
* `bare_get?_of_makeDirectory?`: where no file stands, making directories puts none.
* `get?_of_makeDirectory?_apart`, `get?_of_write?_apart`: what stands apart from the place of a step
  stays as it is.
* `fileAt?_of_makeDirectory?`, `fileAt?_of_write?`: the files of a tree after a step.
* `get?_of_write?`, `IsFile.of_write?`: what writing puts at its place, and that files stay files.
* `exists_performs_of_performAll`, `performAll_iff_performs`: steps are done up to the first that
  goes wrong, and all of them if none does.
* `Performs.isFile`: no step takes a file away.
* `Performs.read?_of_nodup`: steps that write to different places leave all that they write.
-/

namespace ResourceGen

/-! ## Paths -/

namespace Path

/-- A name that a path can go on by: no slash in it, and not one that stays or goes back. -/
structure IsPlain (name : String) : Prop where
  no_slash : '/' ∉ name.toList
  ne_empty : name ≠ ""
  ne_dot : name ≠ "."
  ne_dots : name ≠ ".."

theorem piecesFrom_append_slash (current a b : List Char) :
    piecesFrom current (a ++ '/' :: b) = piecesFrom current a ++ piecesFrom [] b := by
  induction a generalizing current with
  | nil => rfl
  | cons c a ih =>
    rw [List.cons_append, piecesFrom, piecesFrom]
    split
    · rw [ih, List.cons_append]
    · rw [ih]

theorem piecesFrom_of_no_slash (current : List Char) {a : List Char} (h : '/' ∉ a) :
    piecesFrom current a = [String.ofList (current.reverse ++ a)] := by
  induction a generalizing current with
  | nil => rw [piecesFrom, List.append_nil]
  | cons c a ih =>
    rw [List.mem_cons, not_or] at h
    rw [piecesFrom, if_neg (Ne.symm h.1), ih _ h.2, List.reverse_cons, List.append_assoc,
      List.singleton_append]

theorem pieces_append_slash (a b : String) : pieces (a ++ "/" ++ b) = pieces a ++ pieces b := by
  unfold pieces
  rw [String.toList_append, String.toList_append, List.append_assoc]
  exact piecesFrom_append_slash [] a.toList b.toList

theorem pieces_of_no_slash {name : String} (h : '/' ∉ name.toList) : pieces name = [name] := by
  unfold pieces
  rw [piecesFrom_of_no_slash [] h, List.reverse_nil, List.nil_append, String.ofList_toList]

theorem startsWith_slash_of_no_slash {name : String} (h : '/' ∉ name.toList) :
    name.startsWith '/' = false := by
  rw [String.startsWith_char_eq_head?]
  cases hname : name.toList with
  | nil => rfl
  | cons c cs =>
    rw [hname, List.mem_cons, not_or] at h
    simpa using Ne.symm h.1

/-- Whether a path starts from the root does not depend on how it goes on. -/
theorem startsWith_append {base : String} (h : base ≠ "") (part : String) :
    (base ++ part).startsWith '/' = base.startsWith '/' := by
  obtain ⟨c, cs, hbase⟩ : ∃ c cs, base.toList = c :: cs :=
    List.exists_cons_of_ne_nil fun hnil => h (String.toList_eq_nil_iff.mp hnil)
  rw [String.startsWith_char_eq_head?, String.startsWith_char_eq_head?, String.toList_append, hbase]
  rfl

/-- Where a path leads that goes on from another one. -/
theorem names_join (here : List String) (base : String) {part : String}
    (hpart : part.startsWith '/' = false) :
    names here (join base part) = (pieces part).foldl step (names here base) := by
  unfold join
  rw [hpart, Bool.false_or]
  split
  · rename_i hempty
    obtain rfl : base = "" := String.isEmpty_iff.mp hempty
    have hnone : ("" : String).startsWith '/' = false := by
      rw [String.startsWith_char_eq_head?]
      rfl
    unfold names
    rw [hpart, hnone]
    rfl
  · rename_i hempty
    have hne : base ≠ "" := fun h => hempty (String.isEmpty_iff.mpr h)
    split
    · rename_i hslash
      obtain ⟨front, hfront⟩ := String.endsWith_char_iff_exists_append.mp hslash
      -- the empty piece behind the slash leads nowhere
      have hbase : base = front ++ "/" ++ "" := by rw [String.append_empty, hfront]; rfl
      have hjoin : base ++ part = front ++ "/" ++ part := by rw [hfront]; rfl
      have hnames (done : List String) :
          (pieces base).foldl step done = (pieces front).foldl step done := by
        rw [hbase, pieces_append_slash, List.foldl_append]
        rfl
      unfold names
      rw [startsWith_append hne, hjoin, pieces_append_slash, List.foldl_append, hnames]
    · unfold names
      rw [pieces_append_slash, List.foldl_append, String.append_assoc, startsWith_append hne]

/-- Where a path leads that goes on by a name without a slash. -/
theorem names_join_of_no_slash (here : List String) (base : String) {name : String}
    (h : '/' ∉ name.toList) : names here (join base name) = step (names here base) name := by
  rw [names_join here base (startsWith_slash_of_no_slash h), pieces_of_no_slash h, List.foldl_cons,
    List.foldl_nil]

/-- A plain name leads one name further. -/
theorem names_join_plain (here : List String) (base : String) {name : String} (h : IsPlain name) :
    names here (join base name) = names here base ++ [name] := by
  rw [names_join_of_no_slash here base h.no_slash]
  unfold step
  rw [if_neg (by simp [h.ne_empty, h.ne_dot]), if_neg h.ne_dots]

/-- A name that a path can go on by without leaving: no slash in it, and not one of the dots. An
empty name stays. -/
structure IsWithin (name : String) : Prop where
  no_slash : '/' ∉ name.toList
  ne_dot : name ≠ "."
  ne_dots : name ≠ ".."

/-- A name that does not leave goes one name further, if it is not empty. -/
theorem names_join_within (here : List String) (base : String) {name : String} (h : IsWithin name) :
    names here (join base name) = names here base ++ if name = "" then [] else [name] := by
  by_cases hempty : name = ""
  · rw [names_join_of_no_slash here base h.no_slash, if_pos hempty, List.append_nil]
    unfold step
    rw [if_pos (by simp [hempty])]
  · rw [names_join_plain here base ⟨h.no_slash, hempty, h.ne_dot, h.ne_dots⟩, if_neg hempty]

end Path

/-! ## Trees of files -/

namespace FileTree

variable {t t' : FileTree} {place p : List String}

/-- No file stands in a tree. -/
def Bare (t : FileTree) : Prop := ∀ path, t.files path = []

/-- Of two places neither is at or below the other. -/
structure Apart (p q : List String) : Prop where
  left : ¬ p <+: q
  right : ¬ q <+: p

/-- A file stands at a place of a tree. -/
def IsFile (t : FileTree) (p : List String) : Prop := ∃ content, t.get? p = some (file content)

theorem filesOf_eq_nil_iff {path : String} {entries : List (String × FileTree)} :
    filesOf path entries = [] ↔ ∀ e ∈ entries, e.2.files (Path.join path e.1) = [] := by
  induction entries with
  | nil => simp [filesOf]
  | cons e rest ih =>
    obtain ⟨name, u⟩ := e
    rw [filesOf, List.append_eq_nil_iff, ih, List.forall_mem_cons]

mutual

/-- Whether files stand in a tree does not depend on what the path to it is called. -/
theorem bare_of_files_eq_nil {path : String} : {t : FileTree} → t.files path = [] → t.Bare
  | file _, h => by
    rw [files] at h
    cases h
  | directory entries, h => fun path' => by
    rw [files] at h ⊢
    exact filesOf_eq_nil_of_eq_nil h path'

theorem filesOf_eq_nil_of_eq_nil {path : String} :
    {entries : List (String × FileTree)} → filesOf path entries = [] →
      ∀ path', filesOf path' entries = []
  | [], _, _ => by rw [filesOf]
  | (name, u) :: rest, h, path' => by
    rw [filesOf, List.append_eq_nil_iff] at h ⊢
    exact ⟨bare_of_files_eq_nil h.1 _, filesOf_eq_nil_of_eq_nil h.2 path'⟩

end

theorem bare_directory_iff {entries : List (String × FileTree)} :
    (directory entries).Bare ↔ ∀ e ∈ entries, e.2.Bare := by
  constructor
  · intro h e he
    have hfiles := h ""
    rw [files] at hfiles
    exact bare_of_files_eq_nil (filesOf_eq_nil_iff.mp hfiles e he)
  · intro h path
    rw [files]
    exact filesOf_eq_nil_iff.mpr fun e he => h e he _

theorem bare_empty : empty.Bare := bare_directory_iff.mpr (by simp)

theorem get?_append (t : FileTree) (p q : List String) :
    t.get? (p ++ q) = (t.get? p).bind (·.get? q) := by
  induction p generalizing t with
  | nil => rfl
  | cons name p ih =>
    cases t with
    | file content => rfl
    | directory entries =>
      rw [List.cons_append, get?, get?, Option.bind_assoc]
      exact Option.bind_congr fun u _ => ih u

theorem Apart.of_cons {name : String} {p q : List String} (h : Apart (name :: p) (name :: q)) :
    Apart p q :=
  ⟨fun hp => h.left (List.prefix_cons_inj name |>.mpr hp),
    fun hq => h.right (List.prefix_cons_inj name |>.mpr hq)⟩

/-- A file in a tree is listed. -/
theorem IsFile.not_bare (h : t.IsFile p) : ¬ t.Bare := by
  obtain ⟨content, hget⟩ := h
  induction p generalizing t with
  | nil =>
    obtain rfl : t = file content := Option.some.inj hget
    intro hbare
    have hfiles := hbare ""
    rw [files] at hfiles
    cases hfiles
  | cons name p ih =>
    cases t with
    | file content => cases hget
    | directory entries =>
      obtain ⟨u, hu, hget⟩ := Option.bind_eq_some_iff.mp hget
      exact fun hbare => ih hget (bare_directory_iff.mp hbare (name, u) (Entries.mem_of_get? hu))

/-! ### Files at places -/

/-- The content of the file at a place. -/
def fileAt? (t : FileTree) (p : List String) : Option String := (t.get? p).bind content?

theorem fileAt?_directory_cons (entries : List (String × FileTree)) (name : String)
    (p : List String) : (directory entries).fileAt? (name :: p) =
      (Entries.get? entries name).bind fun t => t.fileAt? p := by
  unfold fileAt?
  rw [get?, Option.bind_assoc]

theorem fileAt?_getD_empty (o : Option FileTree) (p : List String) :
    (o.getD empty).fileAt? p = o.bind fun t => t.fileAt? p := by
  cases o with
  | some t => rfl
  | none => cases p <;> rfl

theorem get?_file_iff {content : String} :
    t.get? p = some (file content) ↔ t.fileAt? p = some content := by
  unfold fileAt?
  cases t.get? p with
  | none => simp
  | some u => cases u <;> simp [content?]

/-! ### Making directories -/

/-- A directory is made below a name of another one. -/
theorem makeDirectory?_cons_eq_some {entries : List (String × FileTree)} {name : String}
    {rest : List String} (h : (directory entries).makeDirectory? (name :: rest) = some t') :
    ∃ u, ((Entries.get? entries name).getD empty).makeDirectory? rest = some u ∧
      t' = directory (Entries.insert entries name u) := by
  rw [makeDirectory?] at h
  split at h
  · obtain ⟨u, hu, rfl⟩ := Option.map_eq_some_iff.mp h
    exact ⟨u, hu, rfl⟩
  · cases h

/-- **Where no file stands, making directories puts none.** -/
theorem bare_get?_of_makeDirectory? (h : t.makeDirectory? place = some t')
    (hbare : ∀ u, t.get? p = some u → u.Bare) : ∀ u, t'.get? p = some u → u.Bare := by
  induction place generalizing t t' p with
  | nil =>
    cases t with
    | file content => cases h
    | directory entries =>
      cases h
      exact hbare
  | cons name rest ih =>
    cases t with
    | file content => cases h
    | directory entries =>
      obtain ⟨child, hchild, rfl⟩ := makeDirectory?_cons_eq_some h
      cases p with
      | nil =>
        have hentries := bare_directory_iff.mp (hbare _ rfl)
        have hold : ((Entries.get? entries name).getD empty).Bare := by
          cases hget : Entries.get? entries name with
          | none => exact bare_empty
          | some u => exact hentries _ (Entries.mem_of_get? hget)
        have hnew : child.Bare := ih (p := []) hchild (fun u hu => Option.some.inj hu ▸ hold) _ rfl
        rintro u hu
        obtain rfl := Option.some.inj hu
        refine bare_directory_iff.mpr fun e he => ?_
        rcases Entries.mem_insert he with rfl | he
        · exact hnew
        · exact hentries e he
      | cons name' p =>
        rintro u hu
        rw [get?] at hu
        by_cases hname : name' = name
        · subst hname
          rw [Entries.get?_insert_self, Option.bind_some] at hu
          refine ih hchild (fun w hw => ?_) u hu
          cases hget : Entries.get? entries name' with
          | none =>
            rw [hget, Option.getD_none] at hw
            cases p with
            | nil => exact Option.some.inj hw ▸ bare_empty
            | cons _ _ => cases hw
          | some v =>
            rw [hget, Option.getD_some] at hw
            refine hbare w ?_
            rw [get?, hget]
            exact hw
        · rw [Entries.get?_insert_of_ne hname] at hu
          exact hbare u hu

/-- What stands apart from the place of a directory stays as it is when the directory is made. -/
theorem get?_of_makeDirectory?_apart (h : t.makeDirectory? place = some t') (hp : Apart place p) :
    t'.get? p = t.get? p := by
  induction place generalizing t t' p with
  | nil => exact absurd List.nil_prefix hp.left
  | cons name rest ih =>
    cases t with
    | file content => cases h
    | directory entries =>
      obtain ⟨child, hchild, rfl⟩ := makeDirectory?_cons_eq_some h
      cases p with
      | nil => exact absurd List.nil_prefix hp.right
      | cons name' p =>
        rw [get?, get?]
        by_cases hname : name' = name
        · subst hname
          rw [Entries.get?_insert_self, Option.bind_some, ih hchild hp.of_cons]
          cases Entries.get? entries name' with
          | some u => rfl
          | none =>
            cases p with
            | nil => exact absurd List.nil_prefix hp.of_cons.right
            | cons _ _ => rfl
        · rw [Entries.get?_insert_of_ne hname]

/-- **Making a directory changes no file.** -/
theorem fileAt?_of_makeDirectory? (h : t.makeDirectory? place = some t') (p : List String) :
    t'.fileAt? p = t.fileAt? p := by
  induction place generalizing t t' p with
  | nil =>
    cases t with
    | file content => cases h
    | directory entries =>
      cases h
      rfl
  | cons name rest ih =>
    cases t with
    | file content => cases h
    | directory entries =>
      obtain ⟨child, hchild, rfl⟩ := makeDirectory?_cons_eq_some h
      cases p with
      | nil => rfl
      | cons name' p =>
        rw [fileAt?_directory_cons, fileAt?_directory_cons]
        by_cases hname : name' = name
        · subst hname
          rw [Entries.get?_insert_self, Option.bind_some, ih hchild, fileAt?_getD_empty]
        · rw [Entries.get?_insert_of_ne hname]

/-- Making directories leaves every file where it is. -/
theorem IsFile.of_makeDirectory? (h : t.makeDirectory? place = some t') (hp : t.IsFile p) :
    t'.IsFile p := by
  obtain ⟨content, hget⟩ := hp
  refine ⟨content, ?_⟩
  rw [get?_file_iff, fileAt?_of_makeDirectory? h, ← get?_file_iff]
  exact hget

/-! ### Writing files -/

/-- What writing does to a directory: the file is put in it, or below one of its directories. -/
theorem write?_cons_eq_some {content name : String} {entries : List (String × FileTree)}
    {rest : List String} (h : write? content (directory entries) (name :: rest) = some t') :
    (rest = [] ∧ (∀ u, Entries.get? entries name = some u → u.isDirectory = false) ∧
        t' = directory (Entries.insert entries name (file content))) ∨
      ∃ u u', Entries.get? entries name = some u ∧ write? content u rest = some u' ∧
        t' = directory (Entries.insert entries name u') := by
  cases rest with
  | nil =>
    rw [write?] at h
    split at h
    · rename_i hcond
      rw [Bool.and_eq_true, Bool.not_eq_true', Option.any_eq_false] at hcond
      exact Or.inl ⟨rfl, fun u hu => hcond.2 u hu, (Option.some.inj h).symm⟩
    · cases h
  | cons name' rest =>
    obtain ⟨u, hu, h⟩ := Option.bind_eq_some_iff.mp h
    obtain ⟨u', hu', rfl⟩ := Option.map_eq_some_iff.mp h
    exact Or.inr ⟨u, u', hu, hu', rfl⟩

/-- A file is put at its place. -/
theorem get?_of_write? {content : String} (h : write? content t place = some t') :
    t'.get? place = some (file content) := by
  induction place generalizing t t' with
  | nil => cases t <;> cases h
  | cons name rest ih =>
    cases t with
    | file content' => cases h
    | directory entries =>
      rcases write?_cons_eq_some h with ⟨rfl, -, rfl⟩ | ⟨u, u', -, hu', rfl⟩
      · rw [get?, Entries.get?_insert_self]
        rfl
      · rw [get?, Entries.get?_insert_self, Option.bind_some]
        exact ih hu'

/-- What stands apart from the place of a file stays as it is when the file is written. -/
theorem get?_of_write?_apart {content : String} (h : write? content t place = some t')
    (hp : Apart place p) : t'.get? p = t.get? p := by
  induction place generalizing t t' p with
  | nil => exact absurd List.nil_prefix hp.left
  | cons name rest ih =>
    cases t with
    | file content => cases h
    | directory entries =>
      cases p with
      | nil => exact absurd List.nil_prefix hp.right
      | cons name' p =>
        rw [get?]
        by_cases hname : name' = name
        · subst hname
          rcases write?_cons_eq_some h with ⟨rfl, -, -⟩ | ⟨u, u', hu, hu', rfl⟩
          · exact absurd List.nil_prefix hp.of_cons.left
          · rw [get?, Entries.get?_insert_self, hu]
            exact ih hu' hp.of_cons
        · rcases write?_cons_eq_some h with ⟨-, -, rfl⟩ | ⟨u, u', -, -, rfl⟩ <;>
            rw [get?, Entries.get?_insert_of_ne hname]

/-- **Writing changes the file at its place only.** -/
theorem fileAt?_of_write? {content : String} (h : write? content t place = some t')
    (p : List String) : t'.fileAt? p = if p = place then some content else t.fileAt? p := by
  by_cases hp : p = place
  · subst hp
    rw [if_pos rfl, fileAt?, get?_of_write? h]
    rfl
  · rw [if_neg hp]
    induction place generalizing t t' p with
    | nil => cases t <;> cases h
    | cons name rest ih =>
      cases t with
      | file content => cases h
      | directory entries =>
        cases p with
        | nil => rcases write?_cons_eq_some h with ⟨-, -, rfl⟩ | ⟨u, u', -, -, rfl⟩ <;> rfl
        | cons name' p =>
          rw [fileAt?_directory_cons]
          by_cases hname : name' = name
          · subst hname
            have hne : p ≠ rest := fun heq => hp (heq ▸ rfl)
            rcases write?_cons_eq_some h with ⟨rfl, hfile, rfl⟩ | ⟨v, v', hv, hv', rfl⟩
            · -- below a file there is nothing, neither the old one nor the new one
              obtain ⟨x, p, rfl⟩ := List.exists_cons_of_ne_nil hne
              rw [fileAt?_directory_cons, Entries.get?_insert_self]
              cases hget : Entries.get? entries name' with
              | none => rfl
              | some v =>
                cases v with
                | file content => rfl
                | directory entries => cases hfile _ hget
            · rw [fileAt?_directory_cons, Entries.get?_insert_self, hv]
              exact ih hv' p hne
          · rcases write?_cons_eq_some h with ⟨-, -, rfl⟩ | ⟨v, v', -, -, rfl⟩ <;>
              rw [fileAt?_directory_cons, Entries.get?_insert_of_ne hname]

/-- **Where a file stands, writing leaves a file.** -/
theorem IsFile.of_write? {content : String} (h : write? content t place = some t')
    (hp : t.IsFile p) : t'.IsFile p := by
  obtain ⟨content', hget⟩ := hp
  by_cases hplace : p = place
  · subst hplace
    exact ⟨content, get?_of_write? h⟩
  · refine ⟨content', ?_⟩
    rw [get?_file_iff, fileAt?_of_write? h, if_neg hplace, ← get?_file_iff]
    exact hget

end FileTree

/-! ## Steps in memory -/

namespace Memory

variable {s s' : Memory} {step : FileStep} {files : FileTree} {steps : List FileStep}

/-- The steps go well, one after the other, and lead from one memory to another. -/
inductive Performs : Memory → List FileStep → Memory → Prop
  | nil (s : Memory) : Performs s [] s
  | cons {s s' : Memory} {step : FileStep} {files : FileTree} {rest : List FileStep}
      (hstep : s.perform? step = some files) (hrest : Performs { s with files := files } rest s') :
      Performs s (step :: rest) s'

/-- No step takes a file away. -/
theorem isFile_of_perform? (h : s.perform? step = some files)
    {p : List String} (hp : s.files.IsFile p) : files.IsFile p := by
  cases step with
  | makeDirectory path => exact hp.of_makeDirectory? h
  | write path content =>
    rw [perform?] at h
    split at h
    · cases h
    · exact hp.of_write? h

theorem Performs.isFile (h : s.Performs steps s') {p : List String} (hp : s.files.IsFile p) :
    s'.files.IsFile p := by
  induction h with
  | nil => exact hp
  | cons hstep _ ih => exact ih (isFile_of_perform? hstep hp)

/-- What a write that goes well leaves at its path. -/
theorem get?_of_perform? {path content : String}
    (h : s.perform? (.write path content) = some files) :
    files.get? (Path.names s.here path) = some (.file content) ∧
      Path.endsInDirectory path = false := by
  rw [perform?] at h
  split at h
  · cases h
  · rename_i hend
    exact ⟨FileTree.get?_of_write? h, Bool.eq_false_iff.mpr hend⟩

/-- A step changes no file but the one that it writes. -/
theorem fileAt?_of_perform? (h : s.perform? step = some files) {p : List String}
    (hother : ∀ path ∈ step.written?, Path.names s.here path ≠ p) :
    files.fileAt? p = s.files.fileAt? p := by
  cases step with
  | makeDirectory path => exact FileTree.fileAt?_of_makeDirectory? h p
  | write path content =>
    rw [perform?] at h
    split at h
    · cases h
    · rw [FileTree.fileAt?_of_write? h, if_neg (Ne.symm (hother path rfl))]

/-- Steps change no file but those that they write. -/
theorem Performs.fileAt? (h : s.Performs steps s') {p : List String}
    (hother : ∀ path ∈ steps.filterMap FileStep.written?, Path.names s.here path ≠ p) :
    s'.files.fileAt? p = s.files.fileAt? p := by
  induction h with
  | nil => rfl
  | cons hstep _ ih =>
    refine (ih fun path hpath => ?_).trans (fileAt?_of_perform? hstep fun path hpath => ?_)
    · obtain ⟨step, hstep, hpath⟩ := List.mem_filterMap.mp hpath
      exact hother path (List.mem_filterMap.mpr ⟨step, List.mem_cons_of_mem _ hstep, hpath⟩)
    · exact hother path (List.mem_filterMap.mpr ⟨_, List.mem_cons_self, hpath⟩)

theorem here_of_performs (h : s.Performs steps s') : s'.here = s.here := by
  induction h with
  | nil => rfl
  | cons _ _ ih => exact ih

/-- **Steps that write to different places leave all that they write.** -/
theorem Performs.read?_of_nodup (h : s.Performs steps s')
    (hnodup : ((steps.filterMap FileStep.written?).map (Path.names s.here)).Nodup)
    {path content : String} (hmem : .write path content ∈ steps) :
    s'.read? path = some content := by
  induction h with
  | nil => cases hmem
  | @cons s s' step files rest hstep hrest ih =>
    rcases List.mem_cons.mp hmem with rfl | hmem
    · obtain ⟨hget, hend⟩ := get?_of_perform? hstep
      have hother : ∀ later ∈ rest.filterMap FileStep.written?,
          Path.names s.here later ≠ Path.names s.here path := by
        intro later hlater heq
        have hwritten : (FileStep.write path content).written? = some path := rfl
        rw [List.filterMap_cons_some hwritten, List.map_cons, List.nodup_cons] at hnodup
        exact hnodup.1 (heq ▸ List.mem_map_of_mem hlater)
      have hkept := (hrest.fileAt? hother).trans (FileTree.get?_file_iff.mp hget)
      unfold read? get?
      rw [here_of_performs hrest, FileTree.get?_file_iff.mpr hkept, hend]
      rfl
    · refine ih ?_ hmem
      cases hwritten : step.written? with
      | none => rwa [List.filterMap_cons_none hwritten] at hnodup
      | some other =>
        rw [List.filterMap_cons_some hwritten, List.map_cons, List.nodup_cons] at hnodup
        exact hnodup.2

theorem run_performAll_cons (s : Memory) (step : FileStep) (rest : List FileStep) :
    (Host.memory.performAll (step :: rest)).run s =
      match s.perform? step with
      | some files => (Host.memory.performAll rest).run { s with files := files }
      | none => (false, s) := by
  have hperform : (Host.memory.perform step).run s =
      match s.perform? step with
      | some files => (true, { s with files := files })
      | none => (false, s) := by
    simp only [Host.memory, StateT.run_bind, StateT.run_get, pure_bind]
    cases s.perform? step <;> rfl
  rw [Host.performAll, StateT.run_bind, hperform]
  cases s.perform? step <;> rfl

/-- Steps are done up to the first one that goes wrong. -/
theorem exists_performs_of_performAll {b : Bool}
    (h : (Host.memory.performAll steps).run s = (b, s')) :
    ∃ performed, performed <+: steps ∧ s.Performs performed s' ∧ (b = true → performed = steps) := by
  induction steps generalizing s with
  | nil =>
    cases h
    exact ⟨[], List.nil_prefix, .nil _, fun _ => rfl⟩
  | cons step rest ih =>
    rw [run_performAll_cons] at h
    cases hstep : s.perform? step with
    | none =>
      rw [hstep] at h
      cases h
      exact ⟨[], List.nil_prefix, .nil _, fun hb => by cases hb⟩
    | some files =>
      rw [hstep] at h
      obtain ⟨performed, hinitial, hperforms, hall⟩ := ih h
      exact ⟨step :: performed, List.cons_prefix_cons.mpr ⟨rfl, hinitial⟩, .cons hstep hperforms,
        fun hb => by rw [hall hb]⟩

/-- Steps that all go well lead from one memory to the next. -/
theorem performAll_iff_performs :
    (Host.memory.performAll steps).run s = (true, s') ↔ s.Performs steps s' := by
  constructor
  · intro h
    obtain ⟨performed, -, hperforms, hall⟩ := exists_performs_of_performAll h
    exact hall rfl ▸ hperforms
  · intro h
    induction h with
    | nil => rfl
    | cons hstep _ ih =>
      rw [run_performAll_cons, hstep]
      exact ih

end Memory

end ResourceGen
