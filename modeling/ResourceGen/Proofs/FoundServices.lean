import ResourceGen.Command
import ResourceGen.Proofs.Bindings
import ResourceGen.Proofs.ParsedModels
import ResourceGen.Proofs.SourcePlaces

/-!
# Services that are found

To generate every service below a directory, a command reads the files of models and the
configurations with their package names (`Memory.service?`). Whatever is written for a service has
the name of a source file, so it is no input (`SameInput`). That is why the services that are found
do not depend on the ones that are generated before.

Reading a model goes down its resources, and generating a service goes down its lists and maps. If
one of them contained itself, this would never end. Where nothing does (`Memory.NestsFinitely`), the
bounds that count the recursions down are never met (`Memory.RecursesFreely`).

All this holds for any pattern engine and any document readers.

Results:
* `packaged_of_modelOf`: the package names of models that are read.
* `Performs.sameInput`: generating a service leaves the input as it is.
* `SameInput.service?`: the input decides about the services that are found.
* `run_generateOne`: what becomes of a model below a directory.
* `NestsFinitely.recursesFreely`: the recursions over a model that nests finitely.
-/

namespace ResourceGen

/-! ## Package names -/

namespace ServiceModel

/-- Lower case makes neither a slash nor a dot. -/
theorem toLower_ne_of_isAlphanum {c d : Char} (hc : c.isAlphanum = true)
    (hd : d = '/' ∨ d = '.') : c.toLower ≠ d := by
  have hascii : c.toNat < 128 := by
    have hc : ((decide (c.val ≥ 'A'.val ∧ c.val ≤ 'Z'.val) ||
        (decide (c.val ≥ 'a'.val) && decide (c.val ≤ 'z'.val))) ||
          (decide (c.val ≥ '0'.val) && decide (c.val ≤ '9'.val))) = true := hc
    simp [UInt32.le_iff_toNat_le] at hc
    omega
  have hne := Text.forall_ascii
    (P := fun c => c.isAlphanum = true → c.toLower ≠ '/' ∧ c.toLower ≠ '.') (by decide) hascii
  rcases hd with rfl | rfl
  · exact (hne hc).1
  · exact (hne hc).2

/-- A package name can stand in a path. -/
theorem isWithin_packageNameOf (serviceId : String) : Path.IsWithin (packageNameOf serviceId) := by
  have hmem {d : Char} (hd : d = '/' ∨ d = '.') : d ∉ (packageNameOf serviceId).toList := by
    unfold packageNameOf
    rw [String.toList_ofList, List.mem_map]
    rintro ⟨c, hc, heq⟩
    exact toLower_ne_of_isAlphanum (List.mem_filter.mp hc).2 hd heq
  constructor
  case no_slash => exact hmem (Or.inl rfl)
  case ne_dot =>
    intro heq
    refine hmem (Or.inr rfl) ?_
    rw [heq]
    decide
  case ne_dots =>
    intro heq
    refine hmem (Or.inr rfl) ?_
    rw [heq]
    decide

/-- The package name comes from the service. -/
def Packaged (m : ServiceModel) : Prop := m.packageName = packageNameOf m.serviceId

theorem Packaged.foldl_addOperation {m : ServiceModel} (h : m.Packaged) (os : List Operation) :
    (os.foldl addOperation m).Packaged := by
  induction os generalizing m with
  | nil => exact h
  | cons o os ih => exact ih (m := m.addOperation o) h

theorem Packaged.foldl_addShape {m : ServiceModel} (h : m.Packaged) (ss : List Shape) :
    (ss.foldl addShape m).Packaged := by
  induction ss generalizing m with
  | nil => exact h
  | cons s ss ih => exact ih (m := m.addShape s) h

end ServiceModel

theorem ApiDocument.packaged_of_toService {d : ApiDocument} {m : ServiceModel}
    (h : d.toService = .ok m) : m.Packaged := by
  unfold toService at h
  split at h
  · cases h
  · obtain ⟨shapes, -, h⟩ := Result.bind_eq_ok_iff.mp h
    obtain rfl := Result.pure_eq_ok_iff.mp h
    refine ServiceModel.Packaged.foldl_addShape ?_ shapes
    refine ServiceModel.Packaged.foldl_addOperation ?_ _
    rfl

theorem SmithyDocument.packaged_of_toService {d : SmithyDocument} {m : ServiceModel}
    (h : d.toService = .ok m) : m.Packaged := by
  unfold toService at h
  split at h
  · obtain ⟨bound, -, h⟩ := Result.bind_eq_ok_iff.mp h
    obtain rfl := Result.pure_eq_ok_iff.mp h
    have hprelude (names : List String) {m : ServiceModel} (h : m.Packaged) :
        (names.foldl addPrelude m).Packaged := by
      induction names generalizing m with
      | nil => exact h
      | cons name names ih =>
        refine ih ?_
        unfold addPrelude
        split
        · exact h
        · split
          · exact h
          · exact h
    refine hprelude _ (ServiceModel.Packaged.foldl_addShape ?_ _)
    refine ServiceModel.Packaged.foldl_addOperation ?_ _
    rfl
  · cases h

/-- **Every model that is read has the package name of its service.** -/
theorem Command.packaged_of_modelOf [DocumentReader] {format : Option ModelFormat}
    {content : Option String} {m : ServiceModel} (h : Command.modelOf format content = .ok m) :
    m.Packaged := by
  have htext (format : ModelFormat) (text : String)
      (h : ServiceModel.ofFormat format text = .ok m) : m.Packaged := by
    cases format with
    | api =>
      have h : ServiceModel.ofApiText text = .ok m := h
      unfold ServiceModel.ofApiText at h
      split at h
      · exact ApiDocument.packaged_of_toService h
      · cases h
    | smithy =>
      have h : ServiceModel.ofSmithyText text = .ok m := h
      unfold ServiceModel.ofSmithyText at h
      split at h
      · exact SmithyDocument.packaged_of_toService h
      · cases h
  unfold modelOf at h
  cases content with
  | none => cases h
  | some text =>
    cases format with
    | some format => exact htext format text h
    | none =>
      obtain ⟨format, -, h⟩ := Result.bind_eq_ok_iff.mp h
      exact htext format text h

/-! ## Files that are read -/

namespace Memory

variable {s s' u : Memory} {path : String}

/-- A memory has the input of another one: the same files, but for source files. -/
structure SameInput (s u : Memory) : Prop where
  here : u.here = s.here
  files : ∀ front name, (∀ base, name ≠ base ++ ".go") →
    u.files.fileAt? (front ++ [name]) = s.files.fileAt? (front ++ [name])

theorem SameInput.refl (s : Memory) : SameInput s s := ⟨rfl, fun _ _ _ => rfl⟩

theorem SameInput.trans {v : Memory} (h : SameInput s u) (h' : SameInput u v) : SameInput s v :=
  ⟨h'.here.trans h.here, fun front name hname =>
    (h'.files front name hname).trans (h.files front name hname)⟩

/-- Steps for a service leave the input as it is. -/
theorem Performs.sameInput {schema : Schema} {output : String} {steps : List FileStep}
    (h : s.Performs steps s') (hsteps : ∀ step ∈ steps, step ∈ (schema.plan output).steps) :
    SameInput s s' := by
  refine ⟨here_of_performs h, fun front name hname => h.fileAt? fun path hpath heq => ?_⟩
  obtain ⟨step, hstep, hpath⟩ := List.mem_filterMap.mp hpath
  obtain ⟨front', last, hnames⟩ := Schema.exists_source_name (hsteps step hstep) hpath s.here
  rw [hnames] at heq
  exact hname last (List.append_inj_right' heq rfl |> List.singleton_inj.mp).symm

theorem read?_eq (s : Memory) (path : String) : s.read? path =
    if Path.endsInDirectory path then none else s.files.fileAt? (Path.names s.here path) := by
  unfold read? get? FileTree.fileAt?
  cases s.files.get? (Path.names s.here path) with
  | none => cases Path.endsInDirectory path <;> rfl
  | some t => cases t <;> cases Path.endsInDirectory path <;> rfl

theorem any_get?_eq (s : Memory) (path : String) :
    ((s.get? path).any fun t => !t.isDirectory) = (s.read? path).isSome := by
  unfold read?
  cases s.get? path with
  | none => rfl
  | some t => cases t <;> rfl

/-- A path that leads to a name other than of a source file. -/
def IsInput (here : List String) (path : String) : Prop :=
  ∃ front name, Path.names here path = front ++ [name] ∧ ∀ base, name ≠ base ++ ".go"

theorem SameInput.read? (h : SameInput s u) (hpath : IsInput s.here path) :
    u.read? path = s.read? path := by
  obtain ⟨front, name, hnames, hname⟩ := hpath
  rw [read?_eq, read?_eq, h.here, hnames, h.files front name hname]

theorem isInput_of_last {here front : List String} {name : String}
    (hpieces : Path.pieces path = front ++ [name])
    (hplain : name ≠ "" ∧ name ≠ "." ∧ name ≠ "..") (hname : ∀ base, name ≠ base ++ ".go") :
    IsInput here path := by
  refine ⟨front.foldl Path.step (if path.startsWith '/' then [] else here), name, ?_, hname⟩
  unfold Path.names
  rw [hpieces, List.foldl_append, List.foldl_cons, List.foldl_nil]
  generalize front.foldl Path.step _ = done
  unfold Path.step
  rw [if_neg (by simp [hplain.1, hplain.2.1]), if_neg hplain.2.2]

/-- Models are input. -/
theorem isInput_of_hasExtension {here : List String}
    (h : Path.hasExtension (Command.fileName path) "json" = true) : IsInput here path := by
  unfold Command.fileName at h
  obtain ⟨front, name, hpieces⟩ : ∃ front name, Path.pieces path = front ++ [name] := by
    cases hlast : (Path.pieces path).getLast? with
    | none =>
      rw [List.getLast?_eq_none_iff.mp hlast] at h
      exact absurd h (by decide)
    | some name => exact ⟨_, name, (List.dropLast_append_getLast? name hlast).symm⟩
  rw [hpieces, List.getLastD_concat] at h
  obtain ⟨stem, hstem⟩ := List.isSuffixOf_iff_suffix.mp (Bool.and_eq_true_iff.mp h).1
  have hletter : name.toList.getLast? = some 'n' := by
    rw [← hstem, List.getLast?_append_of_ne_nil _ (by decide)]
    rfl
  have hne {text : String} (htext : text.toList.getLast? ≠ some 'n') : name ≠ text := by
    rintro rfl
    exact htext hletter
  refine isInput_of_last hpieces ⟨hne (by decide), hne (by decide), hne (by decide)⟩ fun base => ?_
  refine (sourceName_ne ?_ base).symm
  rw [hletter]
  decide

/-- The configuration of a service is input. -/
theorem isInput_config (here : List String) (directory package : String) :
    IsInput here (Path.joinAll directory [package, "generator.yaml"]) := by
  have hplain : Path.IsPlain "generator.yaml" := by constructor <;> decide
  exact ⟨_, "generator.yaml", Path.names_join_plain here (Path.join directory package) hplain,
    fun base => (sourceName_ne (by decide) base).symm⟩

end Memory

/-! ## Attempts in memory -/

namespace Command

variable {α β : Type}

theorem run_bind (x : Attempt (StateM Memory) α) (f : α → Attempt (StateM Memory) β)
    (s : Memory) : (x >>= f).run.run s =
      match x.run.run s with
      | (.ok a, s') => (f a).run.run s'
      | (.error e, s') => (.error e, s') := by
  rw [ExceptT.run_bind, StateT.run_bind]
  rcases x.run.run s with ⟨_ | _, _⟩ <;> rfl

theorem run_bind_eq_ok {x : Attempt (StateM Memory) α} {f : α → Attempt (StateM Memory) β}
    {s s' : Memory} {b : β} (h : (x >>= f).run.run s = (.ok b, s')) :
    ∃ a s₁, x.run.run s = (.ok a, s₁) ∧ (f a).run.run s₁ = (.ok b, s') := by
  rw [run_bind] at h
  rcases hx : x.run.run s with ⟨e | a, s₁⟩
  · rw [hx] at h
    cases h
  · rw [hx] at h
    exact ⟨a, s₁, rfl, h⟩

/-- A step of the host always goes on. -/
theorem run_lift_bind (x : StateM Memory α) (f : α → Attempt (StateM Memory) β) (s : Memory) :
    ((liftM x : Attempt (StateM Memory) α) >>= f).run.run s =
      (f (x.run s).1).run.run (x.run s).2 := by
  rw [run_bind]
  rfl

theorem run_orFail (task : String) (r : Result α) (s : Memory) :
    (orFail task r : Attempt (StateM Memory) α).run.run s =
      (r.mapError fun e => ⟨task, some e⟩, s) := by
  cases r <;> rfl

theorem mapError_eq_ok {ε ε' α : Type} {r : Except ε α} {f : ε → ε'} {a : α}
    (h : r.mapError f = .ok a) : r = .ok a := by
  cases r with
  | error e => cases h
  | ok b =>
    cases h
    rfl

theorem run_loadModel [DocumentReader] (path : String) (format : Option ModelFormat)
    (s : Memory) :
    (loadModel Host.memory path format).run.run s =
      ((modelOf format (s.read? path)).mapError fun e =>
        ⟨"Failed to load model: " ++ path, some e⟩, s) :=
  run_orFail _ _ s

end Command

/-! ## Services that are found -/

namespace Memory

variable {s u : Memory}

/-- The path of the configuration that is found for a model. -/
def configPath? (s : Memory) (configs : Option String) (model : ServiceModel) : Option String :=
  (configs.map fun directory =>
    Path.joinAll directory [model.packageName, "generator.yaml"]).filter fun path =>
      (s.read? path).isSome

/-- The configuration in a file that is there. -/
def configAt [DocumentReader] (s : Memory) : Option String → Except Failure Config
  | none => .ok {}
  | some path => (Config.ofFile (s.read? path)).mapError fun e =>
      ⟨"Failed to load config: " ++ path, some e⟩

/-- The service that is generated for a model below a directory, if it is wanted. -/
def service? [PatternEngine] [DocumentReader] (s : Memory) (configs : Option String)
    (filter : Option (List String)) (path : String) : Except Failure (Option Schema) :=
  match Command.modelOf none (s.read? path) with
  | .error e => .error ⟨"Failed to load model: " ++ path, some e⟩
  | .ok model =>
    if Command.isWanted model filter then
      match s.configAt (s.configPath? configs model) with
      | .error f => .error f
      | .ok config =>
        match Schema.standard model config with
        | .error e => .error ⟨"Failed to generate " ++ model.serviceId, some e⟩
        | .ok schema => .ok (some schema)
    else .ok none

variable {configs : Option String} {filter : Option (List String)} {path : String}
  {schema : Schema}

/-- **The input decides about services.** -/
theorem SameInput.service? [PatternEngine] [DocumentReader] (h : SameInput s u)
    (hpath : IsInput s.here path) :
    u.service? configs filter path = s.service? configs filter path := by
  have hconfig (directory package : String) :
      u.read? (Path.joinAll directory [package, "generator.yaml"]) =
        s.read? (Path.joinAll directory [package, "generator.yaml"]) :=
    h.read? (isInput_config s.here directory package)
  have hconfigPath (model : ServiceModel) :
      u.configPath? configs model = s.configPath? configs model := by
    unfold configPath?
    cases configs with
    | none => rfl
    | some directory => rw [Option.map_some, Option.filter_some, Option.filter_some, hconfig]
  have hconfigAt (model : ServiceModel) : u.configAt (s.configPath? configs model) =
      s.configAt (s.configPath? configs model) := by
    cases configs with
    | none => rfl
    | some directory =>
      unfold configPath?
      rw [Option.map_some, Option.filter_some]
      by_cases hthere : (s.read? (Path.joinAll directory
          [model.packageName, "generator.yaml"])).isSome = true
      · rw [if_pos hthere]
        unfold configAt
        simp only [hconfig]
      · rw [if_neg hthere]
        rfl
  unfold Memory.service?
  simp only [h.read? hpath, hconfigPath, hconfigAt]

theorem service?_eq_some [PatternEngine] [DocumentReader]
    (h : s.service? configs filter path = .ok (some schema)) :
    Command.modelOf none (s.read? path) = .ok schema.model ∧
      s.configAt (s.configPath? configs schema.model) = .ok schema.config ∧
      Schema.standard schema.model schema.config = .ok schema := by
  unfold service? at h
  cases hmodel : Command.modelOf none (s.read? path) with
  | error e => rw [hmodel] at h; cases h
  | ok model =>
    rw [hmodel] at h
    by_cases hwanted : Command.isWanted model filter = true
    · simp only [if_pos hwanted] at h
      cases hconfig : s.configAt (s.configPath? configs model) with
      | error f => rw [hconfig] at h; cases h
      | ok config =>
        rw [hconfig] at h
        simp only at h
        cases hschema : Schema.standard model config with
        | error e => rw [hschema] at h; cases h
        | ok schema' =>
          rw [hschema] at h
          cases h
          obtain ⟨index, rfl⟩ := Schema.build_eq_ok hschema
          exact ⟨rfl, hconfig, hschema⟩
    · simp only [if_neg hwanted] at h
      cases h

end Memory

namespace Command

variable (s : Memory) (configs : Option String) (filter : Option (List String))

theorem run_serviceConfig (model : ServiceModel) :
    (serviceConfig Host.memory configs model).run s = (s.configPath? configs model, s) := by
  cases configs with
  | none => rfl
  | some directory =>
    have hfile := s.any_get?_eq (Path.joinAll directory [model.packageName, "generator.yaml"])
    unfold serviceConfig Memory.configPath?
    rw [Option.map_some, Option.filter_some, ← hfile]
    rfl

theorem run_loadConfig [DocumentReader] {config? : Option String}
    (h : ∀ path, config? = some path → (s.read? path).isSome = true) :
    (loadConfig Host.memory config?).run.run s = (s.configAt config?, s) := by
  cases config? with
  | none => rfl
  | some path =>
    have hthere : (s.get? path).isSome = true := by
      have hread := h path rfl
      unfold Memory.read? at hread
      cases hget : s.get? path with
      | none => rw [hget] at hread; cases hread
      | some t => rfl
    have hrun : (Host.memory.isThere path).run s = (true, s) := congrArg (·, s) hthere
    unfold loadConfig
    rw [run_lift_bind, hrun]
    refine (run_lift_bind (Host.memory.read path) _ s).trans ?_
    exact run_orFail _ _ s

theorem run_generateService [PatternEngine] (model : ServiceModel) (config : Config)
    (output : String) :
    (generateService Host.memory model config output).run.run s =
      match Schema.standard model config with
      | .error e => (.error ⟨"Failed to generate " ++ model.serviceId, some e⟩, s)
      | .ok schema =>
        (((Host.memory.generate schema output).run s).1.mapError fun e =>
          ⟨"Failed to generate " ++ model.serviceId, some e⟩,
          ((Host.memory.generate schema output).run s).2) := by
  unfold generateService
  rw [run_bind, run_orFail]
  cases Schema.standard model config with
  | error e => rfl
  | ok schema =>
    refine (run_lift_bind _ _ s).trans ?_
    exact run_orFail _ _ _

/-- **What becomes of a model below a directory.** -/
theorem run_generateOne [PatternEngine] [DocumentReader] (path output : String) :
    (generateOne Host.memory path configs filter output).run.run s =
      match s.service? configs filter path with
      | .error f => (.error f, s)
      | .ok none => (.ok none, s)
      | .ok (some schema) =>
        let x := (Host.memory.generate schema (Path.join output schema.model.packageName)).run s
        ((x.1.mapError fun e => ⟨"Failed to generate " ++ schema.model.serviceId, some e⟩).map
          fun paths => some paths.length, x.2) := by
  unfold generateOne Memory.service?
  rw [run_bind, run_loadModel]
  cases modelOf none (s.read? path) with
  | error e => rfl
  | ok model =>
    by_cases hwanted : isWanted model filter = true
    · have hthere (path : String) (h : s.configPath? configs model = some path) :
          (s.read? path).isSome = true :=
        (Option.filter_eq_some_iff.mp h).2
      show (if isWanted model filter = true then _ else _ :
        Attempt (StateM Memory) (Option Nat)).run.run s = _
      simp only
      rw [if_pos hwanted, if_pos hwanted, run_lift_bind, run_serviceConfig, run_bind,
        run_loadConfig s hthere]
      cases s.configAt (s.configPath? configs model) with
      | error f => rfl
      | ok config =>
        simp only
        rw [run_bind, run_generateService]
        cases hschema : Schema.standard model config with
        | error e => rfl
        | ok schema =>
          obtain ⟨index, rfl⟩ := Schema.build_eq_ok hschema
          simp only
          cases ((Host.memory.generate ⟨model, config, .standard, index⟩
            (Path.join output model.packageName)).run s).1 <;> rfl
    · show (if isWanted model filter = true then _ else _ :
        Attempt (StateM Memory) (Option Nat)).run.run s = _
      simp only
      rw [if_neg hwanted, if_neg hwanted]
      rfl

end Command

/-! ## Models that nest finitely -/

namespace Memory

open Relation (TransGen)

variable [PatternEngine] [DocumentReader] {s : Memory} {configs : Option String}
  {filter : Option (List String)} {path : String}

/-- The Smithy model in a file that is read as one. -/
def smithyAt? (s : Memory) (path : String) : Option SmithyDocument := do
  let text ← s.read? path
  match ModelFormat.detect text with
  | .ok .smithy => SmithyDocument.ofText? text
  | _ => none

/-- What is read and generated for a model nests finitely: no resource contains itself, and in a
service that is generated no list or map does. -/
structure NestsFinitely (s : Memory) (configs : Option String) (filter : Option (List String))
    (path : String) : Prop where
  resources : ∀ d, s.smithyAt? path = some d → ∀ id, ¬ TransGen d.HasChild id id
  parts : ∀ schema, s.service? configs filter path = .ok (some schema) → schema.model.PartsAcyclic

/-- The recursions over a model satisfy their equations without a bound, and go down to smaller
calls only. -/
structure RecursesFreely (s : Memory) (configs : Option String) (filter : Option (List String))
    (path : String) : Prop where
  resources : ∀ d, s.smithyAt? path = some d →
    WellFounded (fun child parent => d.HasChild parent child) ∧
      ∀ roots, d.resourceOperations (d.shapes.size + 1) roots =
        d.operationsStep (d.resourceOperations (d.shapes.size + 1)) roots
  types : ∀ schema, s.service? configs filter path = .ok (some schema) →
    WellFounded (fun part shape => schema.model.TypePart shape part) ∧
      ∀ shape, schema.model.shapeType shape = schema.model.typeStep schema.model.shapeType shape
  layouts : ∀ schema, s.service? configs filter path = .ok (some schema) →
    WellFounded (fun b a => schema.model.Calls a b) ∧
      ∀ entered, ∀ shape ∈ schema.model.shapes.values,
        schema.model.layout entered shape =
          schema.model.layoutStep schema.model.layout entered shape

/-- **Where a model nests finitely, the bounds of the recursions over it are never met.** -/
theorem NestsFinitely.recursesFreely (h : s.NestsFinitely configs filter path) :
    s.RecursesFreely configs filter path := by
  constructor
  case resources =>
    intro d hd
    exact ⟨SmithyDocument.wellFounded_hasChild (h.resources d hd),
      SmithyDocument.resourceOperations_eq (h.resources d hd)⟩
  case types =>
    intro schema hservice
    have hparts := h.parts schema hservice
    exact ⟨ServiceModel.wellFounded_typePart hparts, ServiceModel.shapeType_eq hparts⟩
  case layouts =>
    intro schema hservice
    have hparts := h.parts schema hservice
    exact ⟨ServiceModel.wellFounded_calls hparts, fun entered shape hshape =>
      ServiceModel.layout_eq hparts entered hshape⟩

end Memory

end ResourceGen
