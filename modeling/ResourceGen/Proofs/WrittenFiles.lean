import Mathlib.Data.List.Nodup
import ResourceGen.Proofs.FieldNames
import ResourceGen.Proofs.PartialOutput

/-!
# Files of a generated service

For every resource a service has a file of declarations and a file of functions, and one file of
type definitions for all. The files of a resource are named by its snake form. Two resources may
have one snake form, though their kinds are different, and the snake form of a resource may be
`types`; then one file takes the place of another, and nothing tells.

Results:
* `written_plan`: the paths of a service are those of the snake forms of its resources.
* `nodup_servicePaths_iff`: which names give different paths.
* `generate_keeps_files`: when the paths that are written are different; all files are there then.
* `generate_overwrites_clusters`: two resources whose files are the same.
-/

namespace ResourceGen

/-! ## Paths -/

/-- The path of the file with the functions of a resource. -/
def callsPath (output : String) (r : Resource) : String :=
  Path.join (resourceDirectory output r) "sdk.go"

/-- The path of the file with the type definitions. -/
def typesPath (output : String) : String := Path.join (apisDirectory output) "types.go"

/-- The paths of the files for resources with these snake forms, and for the type definitions. -/
def servicePaths (output : String) (snakes : List String) : List String :=
  (snakes.flatMap fun snake =>
    [Path.join (apisDirectory output) (snake ++ ".go"),
      Path.join (Path.joinAll output ["pkg", "resource", snake]) "sdk.go"]) ++ [typesPath output]

/-- The places of the files for a resource below the output directory. -/
def resourcePlaces (snake : String) : List (List String) :=
  [["apis", "v1alpha1", snake ++ ".go"],
    ["pkg", "resource"] ++ (if snake = "" then [] else [snake]) ++ ["sdk.go"]]

variable {here : List String} {output : String} {snakes : List String}

theorem names_typesPath (here : List String) (output : String) :
    Path.names here (typesPath output) =
      Path.names here output ++ ["apis", "v1alpha1", "types.go"] := by
  have hplain : Path.IsPlain "types.go" := by constructor <;> decide
  rw [typesPath, Path.names_join_plain _ _ hplain, names_apisDirectory, List.append_assoc]
  rfl

/-- Where the paths of a service lead. -/
theorem names_servicePaths (hwithin : ∀ snake ∈ snakes, Path.IsWithin snake) :
    (servicePaths output snakes).map (Path.names here) =
      (snakes.flatMap resourcePlaces ++ [["apis", "v1alpha1", "types.go"]]).map
        (Path.names here output ++ ·) := by
  have hpkg : Path.IsPlain "pkg" := by constructor <;> decide
  have hresource : Path.IsPlain "resource" := by constructor <;> decide
  have hcalls : Path.IsPlain "sdk.go" := by constructor <;> decide
  unfold servicePaths
  rw [List.map_append, List.map_append, List.map_flatMap, List.map_flatMap]
  refine congrArg₂ (· ++ ·) (List.flatMap_congr fun snake hsnake => ?_) ?_
  · have hdirectory : Path.names here (Path.joinAll output ["pkg", "resource", snake]) =
        Path.names here output ++ ["pkg", "resource"] ++ if snake = "" then [] else [snake] := by
      show Path.names here (Path.join (Path.join (Path.join output "pkg") "resource") snake) = _
      rw [Path.names_join_within _ _ (hwithin snake hsnake), Path.names_join_plain _ _ hresource,
        Path.names_join_plain _ _ hpkg, List.append_assoc (Path.names here output)]
      rfl
    have hdeclarations : Path.names here (Path.join (apisDirectory output) (snake ++ ".go")) =
        Path.names here output ++ ["apis", "v1alpha1", snake ++ ".go"] := by
      rw [Path.names_join_plain _ _ (isPlain_sourceName (hwithin snake hsnake).no_slash),
        names_apisDirectory, List.append_assoc]
      rfl
    simp only [resourcePlaces, List.map_cons, List.map_nil, hdeclarations,
      Path.names_join_plain _ _ hcalls, hdirectory, List.append_assoc]
  · rw [List.map_singleton, List.map_singleton, names_typesPath]

theorem append_go_inj {a b : String} : a ++ ".go" = b ++ ".go" ↔ a = b := by
  rw [← String.toList_inj, String.toList_append, String.toList_append, List.append_left_inj,
    String.toList_inj]

theorem mem_resourcePlaces {snake : String} {place : List String}
    (h : place ∈ resourcePlaces snake) :
    place = ["apis", "v1alpha1", snake ++ ".go"] ∨
      place = ["pkg", "resource"] ++ (if snake = "" then [] else [snake]) ++ ["sdk.go"] := by
  simpa [resourcePlaces] using h

/-- Resources with different snake forms have files at different places. -/
theorem disjoint_resourcePlaces {a b : String} (hne : a ≠ b) :
    List.Disjoint (resourcePlaces a) (resourcePlaces b) := by
  intro place ha hb
  have hwithin {x y : String} (h : (if x = "" then [] else [x]) = if y = "" then [] else [y]) :
      x = y := by
    split_ifs at h <;> simp_all
  rcases mem_resourcePlaces ha with rfl | rfl <;> rcases mem_resourcePlaces hb with hb | hb
  · simp [hne] at hb
  · simp at hb
  · simp at hb
  · rw [List.append_left_inj, List.append_right_inj] at hb
    exact hne (hwithin hb)

theorem nodup_places (hsnakes : snakes.Nodup) (htypes : "types" ∉ snakes) :
    (snakes.flatMap resourcePlaces ++ [["apis", "v1alpha1", "types.go"]]).Nodup := by
  refine List.nodup_append.mpr ⟨?_, List.nodup_singleton _, ?_⟩
  · refine List.nodup_flatMap.mpr ⟨fun snake _ => by simp [resourcePlaces], ?_⟩
    exact hsnakes.imp fun hne => disjoint_resourcePlaces hne
  · intro place hplace other hother heq
    obtain ⟨snake, hsnake, hplace⟩ := List.mem_flatMap.mp hplace
    rw [List.mem_singleton] at hother
    subst hother heq
    rcases mem_resourcePlaces hplace with h | h
    · have hname : "types" ++ ".go" = snake ++ ".go" := by simpa using h
      exact htypes (append_go_inj.mp hname ▸ hsnake)
    · simp at h

/-- **Which names give different paths**: those that are different themselves and not `types`. -/
theorem nodup_servicePaths_iff (hwithin : ∀ snake ∈ snakes, Path.IsWithin snake) :
    (servicePaths output snakes).Nodup ↔ snakes.Nodup ∧ "types" ∉ snakes := by
  constructor
  · intro h
    obtain ⟨hresources, -, hother⟩ := List.nodup_append.mp h
    refine ⟨(List.nodup_flatMap.mp hresources).2.imp fun {a b} hdisjoint heq => ?_,
      fun htypes => ?_⟩
    · subst heq
      exact hdisjoint List.mem_cons_self List.mem_cons_self
    · exact hother _ (List.mem_flatMap.mpr ⟨"types", htypes, List.mem_cons_self⟩) _
        (List.mem_singleton_self _) rfl
  · rintro ⟨hsnakes, htypes⟩
    refine List.Nodup.of_map (Path.names []) ?_
    rw [names_servicePaths hwithin]
    exact (nodup_places hsnakes htypes).map fun _ _ h => List.append_cancel_left h

/-! ## Plans -/

namespace Plan

variable {α : Type} {p q : Plan}

/-- A plan that goes on to its end does the steps of both parts. -/
theorem andThen_of_ok (h : (p.andThen q).failed = none) :
    p.failed = none ∧ q.failed = none ∧ (p.andThen q).steps = p.steps ++ q.steps := by
  unfold andThen at h ⊢
  split at h
  · rename_i hp
    exact ⟨hp, h, rfl⟩
  · rename_i e hp
    rw [hp] at h
    cases h

/-- So does a plan for each item of a list. -/
theorem forEach_of_ok {f : α → Plan} {l : List α} (h : (forEach f l).failed = none) :
    (∀ a ∈ l, (f a).failed = none) ∧ (forEach f l).steps = l.flatMap fun a => (f a).steps := by
  induction l with
  | nil => exact ⟨by simp, rfl⟩
  | cons a l ih =>
    obtain ⟨hfirst, hrest, hsteps⟩ := andThen_of_ok (p := f a) h
    obtain ⟨hall, hl⟩ := ih hrest
    refine ⟨fun b hb => ?_, ?_⟩
    · rcases List.mem_cons.mp hb with rfl | hb
      · exact hfirst
      · exact hall b hb
    · rw [List.flatMap_cons, ← hl]
      exact hsteps

end Plan

namespace Schema

variable {schema : Schema} {rs : List Resource}

/-- The plan for a resource that goes on to its end. -/
theorem resourcePlan_of_ok {r : Resource} (h : (schema.resourcePlan output r).failed = none) :
    ∃ content, schema.callFile r = .ok content ∧ (schema.resourcePlan output r).steps =
      [.write (declarationsPath output r) r.apiFile, .makeDirectory (resourceDirectory output r),
        .write (callsPath output r) content] := by
  cases hfile : schema.callFile r with
  | error e =>
    unfold resourcePlan at h
    rw [hfile] at h
    cases h
  | ok content =>
    refine ⟨content, rfl, ?_⟩
    unfold resourcePlan
    rw [hfile]
    rfl

/-- A plan that goes on to its end does the steps for all resources and writes the type
definitions. -/
theorem plan_of_ok (h : (schema.plan output).failed = none) : ∃ rs defs,
    schema.resources = .ok rs ∧ schema.typeDefs = .ok defs ∧
      (∀ r ∈ rs, (schema.resourcePlan output r).failed = none) ∧
      (schema.plan output).steps = [.makeDirectory (apisDirectory output)] ++
        (rs.flatMap (fun r => (schema.resourcePlan output r).steps) ++
          [.write (typesPath output) (TypeDef.file defs)]) := by
  obtain ⟨-, hrest, hsteps⟩ := Plan.andThen_of_ok h
  obtain ⟨hresources, htypes, hsteps'⟩ := Plan.andThen_of_ok hrest
  cases hdefs : schema.typeDefs with
  | error e =>
    rw [hdefs] at htypes
    cases htypes
  | ok defs =>
    cases hrs : schema.resources with
    | error e =>
      unfold resourcesPlan at hresources
      rw [hrs] at hresources
      cases hresources
    | ok rs =>
      have hplan : schema.resourcesPlan output = .forEach (schema.resourcePlan output) rs := by
        unfold resourcesPlan
        rw [hrs]
      rw [hplan] at hresources
      obtain ⟨hall, hrows⟩ := Plan.forEach_of_ok hresources
      refine ⟨rs, defs, rfl, rfl, hall, ?_⟩
      rw [← hrows, ← hplan]
      refine hsteps.trans (congrArg _ (hsteps'.trans ?_))
      rw [hdefs]
      rfl

/-- **The paths of a service** are those of the snake forms of its resources. -/
theorem written_plan (h : (schema.plan output).failed = none) (hrs : schema.resources = .ok rs) :
    (schema.plan output).written = servicePaths output (rs.map (·.names.snake)) := by
  obtain ⟨rs', defs, hrs', -, hall, hsteps⟩ := plan_of_ok h
  cases hrs.symm.trans hrs'
  unfold Plan.written servicePaths
  rw [hsteps, List.filterMap_append, List.filterMap_append, List.filterMap_flatMap,
    List.flatMap_map]
  refine congrArg (· ++ [typesPath output]) (List.flatMap_congr fun r hr => ?_)
  obtain ⟨content, -, hone⟩ := resourcePlan_of_ok (hall r hr)
  rw [hone]
  rfl

end Schema

/-! ## Runs -/

namespace Memory

variable {s s' : Memory} {schema : Schema} {paths : List String} {rs : List Resource}

/-- All files of a service are there with what was generated for them. -/
structure HoldsService (s : Memory) (schema : Schema) (output : String) (rs : List Resource) :
    Prop where
  declarations : ∀ r ∈ rs, s.read? (declarationsPath output r) = some r.apiFile
  calls : ∀ r ∈ rs, ∃ content, schema.callFile r = .ok content ∧
    s.read? (callsPath output r) = some content
  types : ∃ defs, schema.typeDefs = .ok defs ∧
    s.read? (typesPath output) = some (TypeDef.file defs)

/-- A run that succeeds has done all steps of its plan, and gives the paths of its files. -/
theorem performs_of_generate_ok
    (hrun : (Host.memory.generate schema output).run s = (.ok paths, s')) :
    (schema.plan output).failed = none ∧ s.Performs (schema.plan output).steps s' ∧
      paths = (schema.plan output).written := by
  obtain ⟨b, s'', hperform⟩ :
      ∃ b s'', (Host.memory.performAll (schema.plan output).steps).run s = (b, s'') := ⟨_, _, rfl⟩
  rw [Host.generate, Host.carryOut, StateT.run_bind, hperform] at hrun
  cases b with
  | false => cases hrun
  | true =>
    cases hfailed : (schema.plan output).failed with
    | none =>
      rw [hfailed] at hrun
      cases hrun
      exact ⟨rfl, performAll_iff_performs.mp hperform, rfl⟩
    | some e =>
      rw [hfailed] at hrun
      cases hrun

/-- Where the snake forms are different and none is `types`, all files are there. -/
theorem holdsService_of_nodup
    (hrun : (Host.memory.generate schema output).run s = (.ok paths, s'))
    (hrs : schema.resources = .ok rs) (hwithin : ∀ r ∈ rs, Path.IsWithin r.names.snake)
    (hsnakes : (rs.map (·.names.snake)).Nodup) (htypes : "types" ∉ rs.map (·.names.snake)) :
    s'.HoldsService schema output rs := by
  obtain ⟨hfailed, hperforms, -⟩ := performs_of_generate_ok hrun
  have hwritten := Schema.written_plan hfailed hrs
  obtain ⟨rs', defs, hrs', hdefs, hall, hsteps⟩ := Schema.plan_of_ok hfailed
  cases hrs.symm.trans hrs'
  have hplaces : (((schema.plan output).steps.filterMap FileStep.written?).map
      (Path.names s.here)).Nodup := by
    have hwithin' : ∀ snake ∈ rs.map (·.names.snake), Path.IsWithin snake := by
      intro snake hsnake
      obtain ⟨r, hr, rfl⟩ := List.mem_map.mp hsnake
      exact hwithin r hr
    show ((schema.plan output).written.map (Path.names s.here)).Nodup
    rw [hwritten, names_servicePaths hwithin']
    exact (nodup_places hsnakes htypes).map fun _ _ h => List.append_cancel_left h
  have hread {path content : String}
      (hmem : .write path content ∈ (schema.plan output).steps) : s'.read? path = some content :=
    hperforms.read?_of_nodup hplaces hmem
  have hresource {r : Resource} {step : FileStep} (hr : r ∈ rs)
      (hstep : step ∈ (schema.resourcePlan output r).steps) :
      step ∈ (schema.plan output).steps := by
    rw [hsteps]
    exact List.mem_append_right _ (List.mem_append_left _ (List.mem_flatMap.mpr ⟨r, hr, hstep⟩))
  constructor
  case declarations =>
    intro r hr
    obtain ⟨content, -, hone⟩ := Schema.resourcePlan_of_ok (hall r hr)
    exact hread (hresource hr (by rw [hone]; simp))
  case calls =>
    intro r hr
    obtain ⟨content, hfile, hone⟩ := Schema.resourcePlan_of_ok (hall r hr)
    exact ⟨content, hfile, hread (hresource hr (by rw [hone]; simp))⟩
  case types =>
    refine ⟨defs, hdefs, hread ?_⟩
    rw [hsteps]
    simp

end Memory

/-! ## Snake forms -/

namespace Naming

/-- Snake forms hold no dot. -/
theorem dot_not_mem_snake (raw : String) : '.' ∉ (Namer.standard.names raw).snake.toList := by
  show '.' ∉ (String.ofList (snakeForm (normalWords raw.toList))).toList
  rw [String.toList_ofList]
  intro hdot
  rcases mem_intercalate hdot with heq | ⟨w, hw, hmem⟩
  · exact absurd heq (by decide)
  · obtain ⟨normal, hnormal, rfl⟩ := List.mem_map.mp hw
    obtain ⟨word, hword, rfl⟩ := List.mem_map.mp hnormal
    obtain ⟨c, hc, heq⟩ := List.mem_map.mp hmem
    rw [eq_of_toLower rfl heq] at hc
    exact not_mem_normalize rfl (not_mem_words rfl (by simp) word hword) hc

/-- A snake form leaves no directory, if it holds no slash. -/
theorem isWithin_snake {raw : String} (h : '/' ∉ (Namer.standard.names raw).snake.toList) :
    Path.IsWithin (Namer.standard.names raw).snake := by
  have hdot := dot_not_mem_snake raw
  refine ⟨h, fun heq => ?_, fun heq => ?_⟩ <;>
    · rw [heq] at hdot
      exact hdot (by decide)

end Naming

/-! ## Services under the usual conventions -/

/-- **When no file takes the place of another.** Where generating a service succeeds, and no snake
form of a resource holds a slash, the paths of the files are different exactly if the snake forms of
the resources are different and none of them is `types`. All files are there then, with what was
generated for them. -/
theorem generate_keeps_files [PatternEngine] {model : ServiceModel} {config : Config}
    {schema : Schema} {output : String} {s s' : Memory} {paths : List String}
    (hschema : Schema.standard model config = .ok schema)
    (hrun : (Host.memory.generate schema output).run s = (.ok paths, s')) :
    ∃ rs, schema.resources = .ok rs ∧ ((∀ r ∈ rs, '/' ∉ r.names.snake.toList) →
      (paths.Nodup ↔
        (rs.map (·.names.snake)).Nodup ∧ "types" ∉ rs.map (·.names.snake)) ∧
      (paths.Nodup → s'.HoldsService schema output rs)) := by
  obtain ⟨hfailed, -, hpaths⟩ := Memory.performs_of_generate_ok hrun
  obtain ⟨rs, -, hrs, -⟩ := Schema.plan_of_ok hfailed
  refine ⟨rs, hrs, fun hslash => ?_⟩
  have hwithin : ∀ r ∈ rs, Path.IsWithin r.names.snake := by
    intro r hr
    obtain ⟨index, -, hindex⟩ := Result.bind_eq_ok_iff.mp hschema
    obtain rfl := Result.pure_eq_ok_iff.mp hindex
    obtain ⟨name, -, hnames⟩ := Schema.exists_names_of_mem_resources hrs hr
    have hnoslash := hslash r hr
    rw [hnames] at hnoslash ⊢
    exact Naming.isWithin_snake hnoslash
  have hiff : paths.Nodup ↔
      (rs.map (·.names.snake)).Nodup ∧ "types" ∉ rs.map (·.names.snake) := by
    rw [hpaths, Schema.written_plan hfailed hrs]
    refine nodup_servicePaths_iff fun snake hsnake => ?_
    obtain ⟨r, hr, rfl⟩ := List.mem_map.mp hsnake
    exact hwithin r hr
  refine ⟨hiff, fun hnodup => ?_⟩
  obtain ⟨hsnakes, htypes⟩ := hiff.mp hnodup
  exact Memory.holdsService_of_nodup hrun hrs hwithin hsnakes htypes

/-- The operation that creates a resource of a service of clusters. -/
def createCluster (name : String) : Operation where
  name := "Create" ++ name
  input := some "ClusterRequest"

/-- A service of clusters, and of one more resource. -/
def clusterModel (other : String) : ServiceModel :=
  ([createCluster "DBCluster", createCluster other].foldl ServiceModel.addOperation
    ([{ name := "Text", kind := .scalar .string },
      { name := "ClusterRequest", kind := .structure [{ name := "Engine", target := "Text" }] }].foldl
      ServiceModel.addShape (.new "Clusters"))).finish

/-- The schema of the service. -/
def clusterSchema (other : String) : Schema where
  model := clusterModel other
  config := {}
  namer := .standard
  index :=
    ⟨[⟨.create, "DBCluster", createCluster "DBCluster"⟩, ⟨.create, other, createCluster other⟩]⟩

/-- A resource of the service. -/
def cluster (name : String) : Resource where
  names := Naming.standardNames name
  plural := name ++ "s"
  operations := { create := some (createCluster name) }
  spec := .ofList
    [("Engine", ⟨Naming.standardNames "Engine", .string, some "Text", .member "Engine"⟩)]
  status := .empty

/-- The resources of a schema that come in order of their kinds. -/
theorem Schema.resources_of_pair {schema : Schema} {a b : Resource}
    (h : schema.resourceNames.mapM (schema.derivation.derive schema.index) = .ok [a, b])
    (hkind : a.kind ≤ b.kind) : schema.resources = .ok [a, b] := by
  unfold resources
  rw [Result.bind_eq_ok_iff]
  refine ⟨[a, b], h, ?_⟩
  rw [Result.pure_eq_ok_iff, sortByKind, List.mergeSort_of_pairwise]
  simpa using hkind

/-- The clusters and the instances of a service have files of their own. -/
theorem generate_keeps_instances : ∃ paths s',
    (Host.memory.generate (clusterSchema "DBInstance") "out").run {} = (.ok paths, s') ∧
      paths.Nodup ∧ s'.HoldsService (clusterSchema "DBInstance") "out"
        [cluster "DBCluster", cluster "DBInstance"] := by
  have hrs : (clusterSchema "DBInstance").resources =
      .ok [cluster "DBCluster", cluster "DBInstance"] :=
    Schema.resources_of_pair rfl (by decide)
  have hdefs : (clusterSchema "DBInstance").typeDefs = .ok [] := by
    show Except.ok (List.mergeSort [] _) = Except.ok []
    rw [List.mergeSort_nil]
  have hrun : ((Host.memory.generate (clusterSchema "DBInstance") "out").run {}).1 =
      .ok (servicePaths "out" ["db_cluster", "db_instance"]) := by
    rw [Host.generate, Schema.plan, Schema.resourcesPlan, hrs, hdefs]
    decide +kernel
  obtain ⟨rs, hrs', hkeeps⟩ := generate_keeps_files
    (show Schema.standard (clusterModel "DBInstance") {} = .ok (clusterSchema "DBInstance") from rfl)
    (Prod.ext hrun rfl)
  cases hrs.symm.trans hrs'
  obtain ⟨hiff, hholds⟩ := hkeeps (by decide)
  have hnodup := hiff.mpr (by decide)
  exact ⟨_, _, Prod.ext hrun rfl, hnodup, hholds hnodup⟩

/-- The kinds of two resources are spelled `DBCluster` and `DbCluster`, and their files are the
same. -/
theorem generate_overwrites_clusters : ∃ paths s',
    Schema.standard (clusterModel "DbCluster") {} = .ok (clusterSchema "DbCluster") ∧
      (clusterSchema "DbCluster").resources = .ok [cluster "DBCluster", cluster "DbCluster"] ∧
      (Host.memory.generate (clusterSchema "DbCluster") "out").run {} = (.ok paths, s') ∧
      ¬ paths.Nodup ∧
      s'.read? (declarationsPath "out" (cluster "DBCluster")) ≠
        some (cluster "DBCluster").apiFile := by
  have hrs : (clusterSchema "DbCluster").resources =
      .ok [cluster "DBCluster", cluster "DbCluster"] :=
    Schema.resources_of_pair rfl (by decide)
  have hdefs : (clusterSchema "DbCluster").typeDefs = .ok [] := by
    show Except.ok (List.mergeSort [] _) = Except.ok []
    rw [List.mergeSort_nil]
  have hrun : ((Host.memory.generate (clusterSchema "DbCluster") "out").run {}).1 =
      .ok (servicePaths "out" ["db_cluster", "db_cluster"]) := by
    rw [Host.generate, Schema.plan, Schema.resourcesPlan, hrs, hdefs]
    decide +kernel
  have hlost : ((Host.memory.generate (clusterSchema "DbCluster") "out").run {}).2.read?
      (declarationsPath "out" (cluster "DBCluster")) ≠ some (cluster "DBCluster").apiFile := by
    rw [Host.generate, Schema.plan, Schema.resourcesPlan, hrs, hdefs]
    decide +kernel
  exact ⟨_, _, rfl, hrs, Prod.ext hrun rfl, by decide +kernel, hlost⟩

end ResourceGen
