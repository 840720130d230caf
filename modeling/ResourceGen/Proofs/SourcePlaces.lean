import ResourceGen.Proofs.Subtrees
import ResourceGen.Proofs.WrittenFiles

/-!
# Places of generated files

Everything that is done on disk to generate a service is done below its output directory, in one of
the directories `apis` and `pkg`, unless the snake form of a resource begins with a slash and so
stands for a path of its own (`Schema.StaysBelow`). Whatever is written has a name that ends in
`.go`. So generating a service changes no file that a command reads.

Results:
* `Path.names_prefix_join`: a path that goes on without two dots stays below.
* `mem_steps_plan`: what the steps of a plan are.
* `exists_source_name`: the names of what is written.
* `placeBelow_of_mem_steps`: where the steps of a plan are.
-/

namespace ResourceGen

/-! ## Paths -/

namespace Path

theorem prefix_foldl_step {pieces : List String} (h : ".." ∉ pieces) (done : List String) :
    done <+: pieces.foldl step done := by
  induction pieces generalizing done with
  | nil => exact List.prefix_refl done
  | cons piece pieces ih =>
    rw [List.mem_cons, not_or] at h
    refine List.IsPrefix.trans ?_ (ih h.2 (step done piece))
    unfold step
    rw [if_neg (Ne.symm h.1)]
    by_cases hstays : (piece = "" || piece = ".") = true
    · simp [hstays]
    · rw [if_neg hstays]
      exact List.prefix_append done [piece]

/-- A path that goes on without two dots stays below. -/
theorem names_prefix_join (here : List String) (base : String) {part : String}
    (hpart : part.startsWith '/' = false) (hdots : ".." ∉ pieces part) :
    names here base <+: names here (join base part) := by
  rw [names_join here base hpart]
  exact prefix_foldl_step hdots _

theorem count_piecesFrom (c : Char) {current l : List Char} :
    ∀ piece ∈ piecesFrom current l, piece.toList.count c ≤ current.count c + l.count c := by
  induction l generalizing current with
  | nil => simp [piecesFrom]
  | cons x l ih =>
    intro piece hpiece
    rw [piecesFrom] at hpiece
    rw [List.count_cons]
    by_cases hx : x = '/'
    · rw [if_pos hx, List.mem_cons] at hpiece
      rcases hpiece with rfl | hpiece
      · simp
      · have hle := ih piece hpiece
        simp only [List.count_nil] at hle
        omega
    · rw [if_neg hx] at hpiece
      have hle := ih piece hpiece
      rw [List.count_cons] at hle
      omega

/-- Two dots take a text with two dots. -/
theorem dots_not_mem_pieces {text : String} (h : text.toList.count '.' ≤ 1) :
    ".." ∉ pieces text := by
  intro hmem
  have hle := count_piecesFrom '.' _ hmem
  have htwo : "..".toList.count '.' = 2 := by decide
  simp only [List.count_nil, htwo] at hle
  omega

/-- The last piece of a text has the ending of the text. -/
theorem exists_piecesFrom_append (current a : List Char) {b : List Char} (hb : '/' ∉ b) :
    ∃ front last, piecesFrom current (a ++ b) = front ++ [last ++ String.ofList b] := by
  induction a generalizing current with
  | nil =>
    refine ⟨[], String.ofList current.reverse, ?_⟩
    rw [List.nil_append, piecesFrom_of_no_slash current hb, List.nil_append, String.ofList_append]
  | cons c a ih =>
    rw [List.cons_append, piecesFrom]
    by_cases hc : c = '/'
    · obtain ⟨front, last, h⟩ := ih []
      exact ⟨String.ofList current.reverse :: front, last, by rw [if_pos hc, h, List.cons_append]⟩
    · obtain ⟨front, last, h⟩ := ih (c :: current)
      exact ⟨front, last, by rw [if_neg hc, h]⟩

/-- A path that ends in `.go` leads to such a name. -/
theorem exists_names_append (here : List String) (text : String) :
    ∃ front last, names here (text ++ ".go") = front ++ [last ++ ".go"] := by
  obtain ⟨front, last, h⟩ := exists_piecesFrom_append [] text.toList (b := ".go".toList) (by decide)
  have hpieces : pieces (text ++ ".go") = front ++ [last ++ ".go"] := by
    unfold pieces
    rw [String.toList_append, h, String.ofList_toList]
  refine ⟨front.foldl step (if (text ++ ".go").startsWith '/' then [] else here), last, ?_⟩
  unfold names
  rw [hpieces, List.foldl_append, List.foldl_cons, List.foldl_nil]
  generalize front.foldl step _ = done
  have hstays : ¬ (last ++ ".go" = "" || last ++ ".go" = ".") = true := by
    simp only [Bool.or_eq_true, decide_eq_true_eq, not_or]
    exact ⟨sourceName_ne (by decide) last, sourceName_ne (by decide) last⟩
  unfold step
  rw [if_neg hstays, if_neg (sourceName_ne (by decide) last)]

/-- A path that goes on ends like its last part. -/
theorem exists_join_append (base part ending : String) :
    ∃ text, join base (part ++ ending) = text ++ ending := by
  unfold join
  split
  · exact ⟨part, rfl⟩
  · split
    · exact ⟨base ++ part, (String.append_assoc ..).symm⟩
    · exact ⟨base ++ "/" ++ part, (String.append_assoc ..).symm⟩

end Path

/-! ## Steps of a plan -/

namespace Plan

variable {α : Type} {p q : Plan} {step : FileStep}

theorem mem_steps_andThen (h : step ∈ (p.andThen q).steps) : step ∈ p.steps ∨ step ∈ q.steps := by
  unfold andThen at h
  split at h
  · exact List.mem_append.mp h
  · exact Or.inl h

theorem mem_steps_forEach {f : α → Plan} {l : List α} (h : step ∈ (forEach f l).steps) :
    ∃ a ∈ l, step ∈ (f a).steps := by
  induction l with
  | nil => cases h
  | cons a l ih =>
    rcases mem_steps_andThen (p := f a) h with h | h
    · exact ⟨a, List.mem_cons_self, h⟩
    · obtain ⟨b, hb, hstep⟩ := ih h
      exact ⟨b, List.mem_cons_of_mem a hb, hstep⟩

theorem mem_steps_write {path : String} {content : Result String}
    (h : step ∈ (Plan.write path content).steps) : ∃ text, step = .write path text := by
  cases content with
  | error e => cases h
  | ok text => exact ⟨text, List.mem_singleton.mp h⟩

end Plan

namespace Schema

variable {schema : Schema} {output : String} {step : FileStep}

/-- What is done on disk for a resource. -/
inductive StepFor (output : String) (r : Resource) : FileStep → Prop
  | declarations (text : String) : StepFor output r (.write (declarationsPath output r) text)
  | directory : StepFor output r (.makeDirectory (resourceDirectory output r))
  | calls (text : String) : StepFor output r (.write (callsPath output r) text)

theorem stepFor_of_mem_steps {r : Resource} (h : step ∈ (schema.resourcePlan output r).steps) :
    StepFor output r step := by
  rcases Plan.mem_steps_andThen h with h | h
  · obtain ⟨text, rfl⟩ := Plan.mem_steps_write h
    exact .declarations text
  · rcases Plan.mem_steps_andThen h with h | h
    · rw [List.mem_singleton.mp h]
      exact .directory
    · obtain ⟨text, rfl⟩ := Plan.mem_steps_write h
      exact .calls text

/-- **What is done on disk for a service.** -/
theorem mem_steps_plan (h : step ∈ (schema.plan output).steps) :
    step = .makeDirectory (apisDirectory output) ∨
      (∃ text, step = .write (typesPath output) text) ∨
      ∃ rs, schema.resources = .ok rs ∧ ∃ r ∈ rs, StepFor output r step := by
  rcases Plan.mem_steps_andThen h with h | h
  · exact Or.inl (List.mem_singleton.mp h)
  · rcases Plan.mem_steps_andThen h with h | h
    · unfold resourcesPlan at h
      cases hrs : schema.resources with
      | error e =>
        rw [hrs] at h
        cases h
      | ok rs =>
        rw [hrs] at h
        obtain ⟨r, hr, hstep⟩ := Plan.mem_steps_forEach h
        exact Or.inr (Or.inr ⟨rs, rfl, r, hr, stepFor_of_mem_steps hstep⟩)
    · exact Or.inr (Or.inl (Plan.mem_steps_write h))

/-- **Whatever is written has the name of a source file.** -/
theorem exists_source_name (h : step ∈ (schema.plan output).steps) {path : String}
    (hwritten : path ∈ step.written?) (here : List String) :
    ∃ front last, Path.names here path = front ++ [last ++ ".go"] := by
  have hnames (base part : String) : ∃ front last,
      Path.names here (Path.join base (part ++ ".go")) = front ++ [last ++ ".go"] := by
    obtain ⟨text, htext⟩ := Path.exists_join_append base part ".go"
    rw [htext]
    exact Path.exists_names_append here text
  rcases mem_steps_plan h with rfl | ⟨text, rfl⟩ | ⟨rs, -, r, -, hstep⟩
  · cases hwritten
  · cases hwritten
    exact hnames (apisDirectory output) "types"
  · cases hstep with
    | declarations text =>
      cases hwritten
      exact hnames (apisDirectory output) r.names.snake
    | directory => cases hwritten
    | calls text =>
      cases hwritten
      exact hnames (resourceDirectory output r) "sdk"

/-- No snake form of a resource is a path of its own. -/
def StaysBelow (schema : Schema) : Prop :=
  ∀ rs, schema.resources = .ok rs → ∀ r ∈ rs, r.names.snake.startsWith '/' = false

instance decidableStaysBelow (schema : Schema) : Decidable schema.StaysBelow :=
  match h : schema.resources with
  | .error _ => isTrue fun rs hrs => by
    rw [h] at hrs
    cases hrs
  | .ok rs =>
    decidable_of_iff (∀ r ∈ rs, r.names.snake.startsWith '/' = false)
      ⟨fun hall rs' hrs => by
        rw [h] at hrs
        cases hrs
        exact hall, fun hbelow => hbelow rs h⟩

/-- A place is below one of the two directories of a service. -/
def PlaceBelow (base place : List String) : Prop :=
  ∃ name rest, (name = "apis" ∨ name = "pkg") ∧ place = base ++ name :: rest

theorem PlaceBelow.of_prefix {base p q : List String} (h : PlaceBelow base p) (hq : p <+: q) :
    PlaceBelow base q := by
  obtain ⟨name, rest, hname, rfl⟩ := h
  obtain ⟨more, rfl⟩ := hq
  exact ⟨name, rest ++ more, hname, by rw [List.append_assoc, List.cons_append]⟩

/-- The directory of a resource is below the one of the service. -/
theorem placeBelow_resourceDirectory {r : Resource} (here : List String) (output : String)
    (hslash : r.names.snake.startsWith '/' = false) (hdot : '.' ∉ r.names.snake.toList) :
    PlaceBelow (Path.names here output) (Path.names here (resourceDirectory output r)) := by
  have hpkg : Path.IsPlain "pkg" := by constructor <;> decide
  have hresource : Path.IsPlain "resource" := by constructor <;> decide
  have hbase : PlaceBelow (Path.names here output)
      (Path.names here (Path.join (Path.join output "pkg") "resource")) := by
    rw [Path.names_join_plain _ _ hresource, Path.names_join_plain _ _ hpkg, List.append_assoc]
    exact ⟨"pkg", ["resource"], Or.inr rfl, rfl⟩
  refine hbase.of_prefix (Path.names_prefix_join here _ hslash (Path.dots_not_mem_pieces ?_))
  rw [List.count_eq_zero_of_not_mem hdot]
  omega

theorem StepFor.placeBelow {r : Resource} (h : StepFor output r step) (here : List String)
    (hslash : r.names.snake.startsWith '/' = false) (hdot : '.' ∉ r.names.snake.toList) :
    PlaceBelow (Path.names here output) (step.place here) := by
  have hdirectory := placeBelow_resourceDirectory here output hslash hdot
  cases h with
  | directory => exact hdirectory
  | calls text =>
    have hplain : Path.IsPlain "sdk.go" := by constructor <;> decide
    refine hdirectory.of_prefix ?_
    show _ <+: Path.names here (Path.join (resourceDirectory output r) "sdk.go")
    rw [Path.names_join_plain _ _ hplain]
    exact List.prefix_append _ _
  | declarations text =>
    have hbase : PlaceBelow (Path.names here output) (Path.names here (apisDirectory output)) :=
      ⟨"apis", ["v1alpha1"], Or.inl rfl, names_apisDirectory here output⟩
    refine hbase.of_prefix (Path.names_prefix_join here _ ?_ (Path.dots_not_mem_pieces ?_))
    · by_cases hempty : r.names.snake = ""
      · rw [hempty]
        exact Path.startsWith_slash_of_no_slash (by decide)
      · rw [Path.startsWith_append hempty, hslash]
    · rw [String.toList_append, List.count_append, List.count_eq_zero_of_not_mem hdot]
      decide

/-- **Where the steps of a service are.** -/
theorem placeBelow_of_mem_steps (hnamer : schema.namer = .standard) (hbelow : schema.StaysBelow)
    (h : step ∈ (schema.plan output).steps) (here : List String) :
    PlaceBelow (Path.names here output) (step.place here) := by
  rcases mem_steps_plan h with rfl | ⟨text, rfl⟩ | ⟨rs, hrs, r, hr, hstep⟩
  · exact ⟨"apis", ["v1alpha1"], Or.inl rfl, names_apisDirectory here output⟩
  · exact ⟨"apis", ["v1alpha1", "types.go"], Or.inl rfl, names_typesPath here output⟩
  · refine hstep.placeBelow here (hbelow rs hrs r hr) ?_
    obtain ⟨name, -, hnames⟩ := exists_names_of_mem_resources hrs hr
    rw [hnames, hnamer]
    exact Naming.dot_not_mem_snake name

end Schema

end ResourceGen
