import ResourceGen.Proofs.Failures
import ResourceGen.Proofs.Faults
import ResourceGen.Proofs.Files

/-!
# Output of runs that stop at a fault

A service is generated resource by resource: the file of a resource's declarations is written
before its functions are synthesized, and the type definitions are collected last. Only a fault of
the resources themselves comes up before the first file. So a run that stops at a fault in the model
leaves no file if there is no resource to begin with, and always the declarations of the first one
if there is.

Results:
* `performs_of_generate`: a run that stops at a fault has done all steps of its plan.
* `filesBelow_of_makeDirectory`: making directories adds no file.
* `generate_leaves_files`: which runs that stop at a fault leave files.
* `generate_leaves_tree`: a cycle that is met when a file is written already.
-/

namespace ResourceGen

/-- The path of the file with the declarations of a resource. -/
def declarationsPath (output : String) (r : Resource) : String :=
  Path.join (apisDirectory output) (r.names.snake ++ ".go")

theorem names_apisDirectory (here : List String) (output : String) :
    Path.names here (apisDirectory output) = Path.names here output ++ ["apis", "v1alpha1"] := by
  have hapis : Path.IsPlain "apis" := by constructor <;> decide
  have hversion : Path.IsPlain "v1alpha1" := by constructor <;> decide
  show Path.names here (Path.join (Path.join output "apis") "v1alpha1") = _
  rw [Path.names_join_plain _ _ hversion, Path.names_join_plain _ _ hapis, List.append_assoc]
  rfl

/-- A name with the ending of a source file has its last letter. -/
theorem sourceName_ne {text : String} (h : text.toList.getLast? ≠ some 'o') (name : String) :
    name ++ ".go" ≠ text := by
  intro heq
  refine h ?_
  rw [← heq, String.toList_append, List.getLast?_append_of_ne_nil _ (by decide)]
  rfl

/-- A name without a slash, with the ending of a source file, is plain. -/
theorem isPlain_sourceName {name : String} (h : '/' ∉ name.toList) : Path.IsPlain (name ++ ".go") := by
  constructor
  case no_slash =>
    rw [String.toList_append, List.mem_append, not_or]
    exact ⟨h, by decide⟩
  case ne_empty => exact sourceName_ne (by decide) name
  case ne_dot => exact sourceName_ne (by decide) name
  case ne_dots => exact sourceName_ne (by decide) name

/-- Where the file with the declarations of a resource stands. -/
theorem names_declarationsPath (here : List String) (output : String) {r : Resource}
    (h : '/' ∉ r.names.snake.toList) : Path.names here (declarationsPath output r) =
      Path.names here output ++ ["apis", "v1alpha1", r.names.snake ++ ".go"] := by
  rw [declarationsPath, Path.names_join_plain _ _ (isPlain_sourceName h), names_apisDirectory,
    List.append_assoc]
  rfl

/-! ## Plans -/

namespace Schema

variable {schema : Schema} {output : String} {err : GeneratorError}

/-- Without a resource nothing is written before the type definitions. -/
theorem steps_plan_of_no_resource (hfailed : (schema.plan output).failed = some err)
    (hnone : ∀ r rs, schema.resources ≠ .ok (r :: rs)) :
    (schema.plan output).steps = [.makeDirectory (apisDirectory output)] := by
  unfold plan resourcesPlan at hfailed ⊢
  cases hrs : schema.resources with
  | error err' => rfl
  | ok rs =>
    cases rs with
    | cons r rs => exact absurd hrs (hnone r rs)
    | nil =>
      rw [hrs] at hfailed
      cases hdefs : schema.typeDefs with
      | error err' => rfl
      | ok defs =>
        rw [hdefs] at hfailed
        cases hfailed

/-- The declarations of the first resource are the first file to be written. -/
theorem steps_plan_of_resource {r : Resource} {rs : List Resource}
    (hrs : schema.resources = .ok (r :: rs)) :
    ∃ rest, (schema.plan output).steps = .makeDirectory (apisDirectory output) ::
      .write (declarationsPath output r) r.apiFile :: rest := by
  have hfirst (p q : Plan) (h : ∃ rest, p.steps =
      .write (declarationsPath output r) r.apiFile :: rest) :
      ∃ rest, (p.andThen q).steps = .write (declarationsPath output r) r.apiFile :: rest := by
    obtain ⟨rest, hsteps⟩ := h
    unfold Plan.andThen
    split
    · exact ⟨rest ++ q.steps, by rw [hsteps]; rfl⟩
    · exact ⟨rest, hsteps⟩
  have hresources : ∃ rest, (schema.resourcesPlan output).steps =
      .write (declarationsPath output r) r.apiFile :: rest := by
    unfold resourcesPlan
    rw [hrs]
    exact hfirst _ _ ⟨_, rfl⟩
  obtain ⟨rest, hrest⟩ := hfirst _
    (Plan.write (Path.join (apisDirectory output) "types.go") (schema.typeDefs.map TypeDef.file))
    hresources
  refine ⟨rest, ?_⟩
  unfold plan
  exact congrArg (FileStep.makeDirectory (apisDirectory output) :: ·) hrest

/-- Where a plan stops: at the resources, at the functions of one of them or at the type
definitions. -/
theorem failed_plan_cases (hfailed : (schema.plan output).failed = some err) :
    schema.resources = .error err ∨
      ∃ rs, schema.resources = .ok rs ∧
        ((∃ r ∈ rs, schema.callFile r = .error err) ∨ schema.typeDefs = .error err) := by
  have hcalls {rs : List Resource}
      (h : (Plan.forEach (schema.resourcePlan output) rs).failed = some err) :
      ∃ r ∈ rs, schema.callFile r = .error err := by
    induction rs with
    | nil => cases h
    | cons r rs ih =>
      change ((schema.resourcePlan output r).andThen
        (Plan.forEach (schema.resourcePlan output) rs)).failed = some err at h
      cases hfile : schema.callFile r with
      | error err' =>
        unfold resourcePlan at h
        rw [hfile] at h
        cases h
        exact ⟨r, List.mem_cons_self, hfile⟩
      | ok content =>
        unfold resourcePlan at h
        rw [hfile] at h
        obtain ⟨r', hr', herr⟩ := ih h
        exact ⟨r', List.mem_cons_of_mem r hr', herr⟩
  unfold plan resourcesPlan at hfailed
  cases hrs : schema.resources with
  | error err' =>
    rw [hrs] at hfailed
    cases hfailed
    exact Or.inl rfl
  | ok rs =>
    rw [hrs] at hfailed
    refine Or.inr ⟨rs, rfl, ?_⟩
    change ((Plan.forEach (schema.resourcePlan output) rs).andThen _).failed = some err at hfailed
    unfold Plan.andThen at hfailed
    split at hfailed
    · refine Or.inr ?_
      cases hdefs : schema.typeDefs with
      | error err' =>
        rw [hdefs] at hfailed
        cases hfailed
        rfl
      | ok defs =>
        rw [hdefs] at hfailed
        cases hfailed
    · exact Or.inl (hcalls hfailed)

end Schema

/-! ## Runs -/

namespace Memory

variable {s s' : Memory} {schema : Schema} {output : String} {err : GeneratorError}

/-- The files below a directory are none exactly if no file stands in it, or there is none. -/
theorem filesBelow_eq_nil_iff :
    s.filesBelow output = [] ↔ ∀ t, s.get? output = some t → t.Bare := by
  unfold filesBelow
  cases s.get? output with
  | none => simp
  | some t =>
    rw [Option.map_some, Option.getD_some, List.map_eq_nil_iff]
    constructor
    · intro h u hu
      obtain rfl := Option.some.inj hu
      exact FileTree.bare_of_files_eq_nil h
    · exact fun h => h t rfl output

/-- **Making directories adds no file.** -/
theorem filesBelow_of_makeDirectory {path : String} {files : FileTree}
    (h : s.perform? (.makeDirectory path) = some files) (hempty : s.filesBelow output = []) :
    { s with files := files : Memory }.filesBelow output = [] := by
  rw [filesBelow_eq_nil_iff] at hempty ⊢
  rintro t ht
  obtain ⟨hget, hcond⟩ := Option.filter_eq_some_iff.mp ht
  refine FileTree.bare_get?_of_makeDirectory? h (fun u hu => ?_) t hget
  -- what stood there before is seen through the same path
  refine hempty u (Option.filter_eq_some_iff.mpr ⟨hu, ?_⟩)
  cases u with
  | directory entries => rfl
  | file content =>
    obtain ⟨content', hfile⟩ := FileTree.IsFile.of_makeDirectory? h ⟨content, hu⟩
    rw [hget] at hfile
    cases hfile
    exact hcond

/-- A run that stops at a fault in the model has done all steps of its plan. -/
theorem performs_of_generate (hrun : (Host.memory.generate schema output).run s = (.error err, s'))
    (hfault : err.isModelIntegrity = true) :
    (schema.plan output).failed = some err ∧ s.Performs (schema.plan output).steps s' := by
  obtain ⟨b, s'', hperform⟩ :
      ∃ b s'', (Host.memory.performAll (schema.plan output).steps).run s = (b, s'') := ⟨_, _, rfl⟩
  rw [Host.generate, Host.carryOut, StateT.run_bind, hperform] at hrun
  cases b with
  | false =>
    cases hrun
    cases hfault
  | true =>
    cases hfailed : (schema.plan output).failed with
    | none =>
      rw [hfailed] at hrun
      cases hrun
    | some e =>
      rw [hfailed] at hrun
      cases hrun
      exact ⟨rfl, performAll_iff_performs.mp hperform⟩

/-- A file at the path of the declarations of a resource is one below the output directory. -/
theorem filesBelow_ne_nil_of_declarations {r : Resource} (hplain : '/' ∉ r.names.snake.toList)
    (h : s.files.IsFile (Path.names s.here (declarationsPath output r))) :
    s.filesBelow output ≠ [] := by
  obtain ⟨content, hget⟩ := h
  rw [names_declarationsPath s.here output hplain, FileTree.get?_append] at hget
  obtain ⟨t, ht, hfile⟩ := Option.bind_eq_some_iff.mp hget
  have hdirectory : t.isDirectory = true := by
    cases t with
    | file content => cases hfile
    | directory entries => rfl
  intro hnil
  refine FileTree.IsFile.not_bare ⟨content, hfile⟩ (filesBelow_eq_nil_iff.mp hnil t ?_)
  exact Option.filter_eq_some_iff.mpr ⟨ht, by rw [hdirectory]; rfl⟩

/-- **Which runs that stop at a fault in the model leave files.** Below a directory without files:
* without a resource to begin with there is no file;
* otherwise the declarations of the first resource are there;
* where a Create operation has no input there is no file;
* where containment comes back to itself there is always one. -/
theorem generate_leaves_files [PatternEngine]
    (hrun : (Host.memory.generate schema output).run s = (.error err, s'))
    (hfault : err.isModelIntegrity = true) (hempty : s.filesBelow output = []) :
    ((∀ r rs, schema.resources ≠ .ok (r :: rs)) → s'.filesBelow output = []) ∧
      (∀ r rs, schema.resources = .ok (r :: rs) →
        (s'.read? (declarationsPath output r)).isSome = true ∧
          ('/' ∉ r.names.snake.toList → s'.filesBelow output ≠ [])) ∧
      (∀ operation, err = .missingInputShape operation → s'.filesBelow output = []) ∧
      (∀ path, err = .shapeCycle path → ∃ r rs, schema.resources = .ok (r :: rs)) := by
  obtain ⟨hfailed, hperforms⟩ := performs_of_generate hrun hfault
  have hnone (hnone : ∀ r rs, schema.resources ≠ .ok (r :: rs)) : s'.filesBelow output = [] := by
    rw [Schema.steps_plan_of_no_resource hfailed hnone] at hperforms
    obtain _ | ⟨hstep, hrest⟩ := hperforms
    cases hrest
    exact filesBelow_of_makeDirectory hstep hempty
  refine ⟨hnone, fun r rs hrs => ?_, ?_, ?_⟩
  · obtain ⟨rest, hsteps⟩ : ∃ rest, (schema.plan output).steps =
        .makeDirectory (apisDirectory output) ::
          .write (declarationsPath output r) r.apiFile :: rest :=
      Schema.steps_plan_of_resource hrs
    rw [hsteps] at hperforms
    obtain _ | ⟨hmake, hperforms⟩ := hperforms
    obtain _ | ⟨hwrite, hperforms⟩ := hperforms
    obtain ⟨hget, hend⟩ := get?_of_perform? hwrite
    have hhere : s'.here = s.here := (here_of_performs hperforms).trans rfl
    have hfile : s'.files.IsFile (Path.names s'.here (declarationsPath output r)) := by
      rw [hhere]
      exact hperforms.isFile ⟨_, hget⟩
    refine ⟨?_, fun hplain => filesBelow_ne_nil_of_declarations hplain hfile⟩
    obtain ⟨content, hcontent⟩ := hfile
    unfold read? get?
    rw [hcontent, hend]
    rfl
  · rintro operation rfl
    refine hnone fun r rs hrs => ?_
    rcases Schema.failed_plan_cases hfailed with herr | ⟨_, -, ⟨r', -, herr⟩ | herr⟩
    · rw [hrs] at herr
      cases herr
    · have hkind := schema.callFile_raises r' _ herr
      simp [GeneratorError.kind] at hkind
    · have hkind := schema.typeDefs_raises _ herr
      simp [GeneratorError.kind] at hkind
  · rintro path rfl
    rcases Schema.failed_plan_cases hfailed with herr | ⟨rs, hrs, ⟨r, hr, -⟩ | herr⟩
    · have hkind := schema.resources_raises _ herr
      simp [GeneratorError.kind] at hkind
    · cases rs with
      | nil => cases hr
      | cons r rs => exact ⟨r, rs, hrs⟩
    · have hkind := schema.typeDefs_raises _ herr
      simp [GeneratorError.kind] at hkind

end Memory

/-- A run over a service whose Create takes nothing leaves no file. -/
theorem generate_leaves_files_queue : ∃ schema s',
    Schema.standard (ServiceModel.addOperation (.new "Queues") { name := "CreateQueue" }).finish {} =
        .ok schema ∧
      (Host.memory.generate schema "out").run {} =
        (.error (.missingInputShape "CreateQueue"), s') ∧
      s'.filesBelow "out" = [] := by
  obtain ⟨schema, hschema⟩ : ∃ schema, Schema.standard
      (ServiceModel.addOperation (.new "Queues") { name := "CreateQueue" }).finish {} = .ok schema :=
    ⟨_, rfl⟩
  have hplan : schema.plan "out" =
      ⟨[.makeDirectory (apisDirectory "out")], some (.missingInputShape "CreateQueue")⟩ := by
    cases hschema
    rfl
  have hrun : ((Host.memory.generate schema "out").run {}).1 =
      .error (.missingInputShape "CreateQueue") := by
    rw [Host.generate, hplan]
    decide +kernel
  obtain ⟨-, -, hmissing, -⟩ := Memory.generate_leaves_files (Prod.ext hrun rfl) rfl
    (show ({} : Memory).filesBelow "out" = [] by decide +kernel)
  exact ⟨schema, _, hschema, Prod.ext hrun rfl, hmissing "CreateQueue" rfl⟩

/-- What generating the service of trees does before it comes to the cycle. -/
theorem plan_treeSchema (output : String) : treeSchema.plan output =
    ⟨[.makeDirectory (apisDirectory output),
        .write (declarationsPath output treeResource) treeResource.apiFile,
        .makeDirectory (resourceDirectory output treeResource)],
      some (.shapeCycle ["CreateTreeRequest", "Node", "Node"])⟩ := by
  unfold Schema.plan Schema.resourcesPlan
  rw [resources_treeSchema]
  rfl

/-- A run stops at a cycle in the model, and a file is there. -/
theorem generate_leaves_tree : ∃ err s',
    (Host.memory.generate treeSchema "out").run {} = (.error err, s') ∧
      err.isModelIntegrity = true ∧ ({} : Memory).filesBelow "out" = [] ∧
      s'.filesBelow "out" = ["out/apis/v1alpha1/tree.go"] := by
  have hrun : ((Host.memory.generate treeSchema "out").run {}).1 =
      .error (.shapeCycle ["CreateTreeRequest", "Node", "Node"]) := by
    rw [Host.generate, plan_treeSchema]
    decide +kernel
  have hfiles : ((Host.memory.generate treeSchema "out").run {}).2.filesBelow "out" =
      ["out/apis/v1alpha1/tree.go"] := by
    rw [Host.generate, plan_treeSchema]
    decide +kernel
  exact ⟨_, _, Prod.ext hrun rfl, rfl, by decide +kernel, hfiles⟩

end ResourceGen
