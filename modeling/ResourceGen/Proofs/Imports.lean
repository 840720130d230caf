import ResourceGen.Proofs.NestedTypes
import ResourceGen.Proofs.Qualifiers
import ResourceGen.Proofs.TypeNames

/-!
# Imports of the generated files

A file must import the packages that it refers to, and no others. The file with the functions of a
resource and the file of the type definitions never miss an import, but they have some that nothing
refers to. The imports are collected apart from the code: that of the resource types is always
there, and that of timestamps also for lists and maps whose types hide their timestamps in the keys
of maps.

What ties the two together is `Program.mem_packages_iff` for each function. Names before a dot are
packages only if no variable has them; the variables of programs are few, and none of them is named
like a package (`not_mem_vars_of_mem`).

Results:
* `exists_response_iff`: there are functions for responses when an operation has a response that
  says something of the resource.
* `mem_imported_iff_of_needed`, `metav1_mem_imported_iff`: what is imported for programs and for
  type definitions is what they refer to, and the package of hidden timestamps.
* `Schema.imports_exact`: both files.
* `imports_unused`: a service with unused imports in both files.
-/

namespace ResourceGen

open Code

/-- The direction of the programs for a part of an operation. -/
def CallPart.direction : CallPart → Direction
  | .request => .outbound
  | .response => .inbound

/-- Some operation of the resource has a response that says something of it. -/
def Resource.HasResponse (r : Resource) : Prop :=
  ∃ role o, role ∉ [Role.delete, Role.setAttributes] ∧ r.operations.get? role = some o ∧
    o.output.isSome = true

namespace Schema

variable {s : Schema} {r : Resource} {role : Role} {o : Operation} {f : CallFunction}
  {fs : List CallFunction} {x : String}

/-! ## Functions for operations -/

theorem requestFunction_cases (h : s.requestFunction r role o = .ok (some f)) :
    o.input.isSome = true ∧ s.requestProgram r role = .ok f.program ∧ f.part = .request := by
  unfold requestFunction at h
  cases hinput : o.input with
  | none => simp [hinput] at h
  | some shape =>
    simp only [hinput] at h
    cases hp : s.requestProgram r role with
    | error e =>
      rw [hp] at h
      cases h
    | ok p =>
      rw [hp] at h
      cases h
      exact ⟨rfl, rfl, rfl⟩

theorem responseFunction_cases (h : s.responseFunction r role o = .ok (some f)) :
    o.output.isSome = true ∧ s.responseProgram r role = some (.ok f.program) ∧
      f.part = .response := by
  unfold responseFunction at h
  cases houtput : o.output with
  | none => simp [houtput] at h
  | some shape =>
    cases hp : s.responseProgram r role with
    | none => simp [houtput, hp] at h
    | some program =>
      simp only [houtput, hp] at h
      cases program with
      | error e => cases h
      | ok p =>
        cases h
        exact ⟨rfl, rfl, rfl⟩

/-- The functions for a role are those of its operation. -/
theorem roleFunctions_cases (h : s.roleFunctions r role = .ok fs)
    (ho : r.operations.get? role = some o) :
    ∃ request response, s.requestFunction r role o = .ok request ∧
      s.responseFunction r role o = .ok response ∧ fs = request.toList ++ response.toList := by
  unfold roleFunctions at h
  simp only [ho] at h
  obtain ⟨request, hrequest, h⟩ := Result.bind_eq_ok_iff.mp h
  obtain ⟨response, hresponse, h⟩ := Result.bind_eq_ok_iff.mp h
  exact ⟨request, response, hrequest, hresponse, (Result.pure_eq_ok_iff.mp h).symm⟩

/-- Every function is that of an operation. -/
theorem exists_operation_of_mem (hfs : s.callFunctions r = .ok fs) (hf : f ∈ fs) :
    ∃ role o, r.operations.get? role = some o ∧
      (s.requestFunction r role o = .ok (some f) ∨ s.responseFunction r role o = .ok (some f)) := by
  unfold callFunctions at hfs
  obtain ⟨ls, hls, h⟩ := Result.bind_eq_ok_iff.mp hfs
  obtain rfl := Result.pure_eq_ok_iff.mp h
  obtain ⟨l, hl, hf⟩ := List.mem_flatten.mp hf
  obtain ⟨role, -, hrole⟩ := Result.exists_of_mem_mapM hls hl
  cases ho : r.operations.get? role with
  | none =>
    unfold roleFunctions at hrole
    simp only [ho] at hrole
    obtain rfl := Result.pure_eq_ok_iff.mp hrole
    cases hf
  | some o =>
    obtain ⟨request, response, hrequest, hresponse, rfl⟩ := roleFunctions_cases hrole ho
    refine ⟨role, o, ho, ?_⟩
    rcases List.mem_append.mp hf with hf | hf
    · rw [Option.mem_toList.mp hf] at hrequest
      exact Or.inl hrequest
    · rw [Option.mem_toList.mp hf] at hresponse
      exact Or.inr hresponse

/-- Every operation of the resource has its functions. -/
theorem exists_functions_of_operation (hfs : s.callFunctions r = .ok fs)
    (ho : r.operations.get? role = some o) :
    ∃ request response, s.requestFunction r role o = .ok request ∧
      s.responseFunction r role o = .ok response ∧
      ∀ f ∈ request.toList ++ response.toList, f ∈ fs := by
  have hbound : role ∈ Role.bound := by
    cases role with
    | createBatch => cases ho
    | _ => decide
  unfold callFunctions at hfs
  obtain ⟨ls, hls, h⟩ := Result.bind_eq_ok_iff.mp hfs
  obtain rfl := Result.pure_eq_ok_iff.mp h
  obtain ⟨l, hl, hrole⟩ := Result.exists_of_mem_of_mapM hls hbound
  obtain ⟨request, response, hrequest, hresponse, rfl⟩ := roleFunctions_cases hrole ho
  exact ⟨request, response, hrequest, hresponse, fun f hf => List.mem_flatten.mpr ⟨_, hl, hf⟩⟩

/-- There is a function for a request exactly when an operation has an input. -/
theorem exists_request (hfs : s.callFunctions r = .ok fs) (ho : r.operations.get? role = some o)
    (hinput : o.input.isSome = true) : ∃ f ∈ fs, f.part = .request := by
  obtain ⟨request, response, hrequest, -, hmem⟩ := exists_functions_of_operation hfs ho
  obtain ⟨shape, hshape⟩ := Option.isSome_iff_exists.mp hinput
  unfold requestFunction at hrequest
  simp only [hshape] at hrequest
  cases hp : s.requestProgram r role with
  | error e => rw [hp] at hrequest; cases hrequest
  | ok p =>
    rw [hp] at hrequest
    cases hrequest
    exact ⟨⟨role, o.name, .request, shape, p⟩, hmem _ (by simp), rfl⟩

/-- There is a function for a response exactly when some operation has one that says something of
the resource. -/
theorem exists_response_iff (hfs : s.callFunctions r = .ok fs) :
    (∃ f ∈ fs, f.part = .response) ↔ r.HasResponse := by
  constructor
  · rintro ⟨f, hf, hpart⟩
    obtain ⟨role, o, ho, h | h⟩ := exists_operation_of_mem hfs hf
    · rw [(requestFunction_cases h).2.2] at hpart
      cases hpart
    · obtain ⟨houtput, hprogram, -⟩ := responseFunction_cases h
      refine ⟨role, o, fun hrole => ?_, ho, houtput⟩
      rcases List.mem_pair.mp hrole with rfl | rfl <;> cases hprogram
  · rintro ⟨role, o, hrole, ho, houtput⟩
    obtain ⟨request, response, -, hresponse, hmem⟩ := exists_functions_of_operation hfs ho
    obtain ⟨shape, hshape⟩ := Option.isSome_iff_exists.mp houtput
    obtain ⟨program, hprogram⟩ : ∃ program, s.responseProgram r role = some program := by
      cases role with
      | delete | setAttributes => exact absurd (by simp) hrole
      | _ => exact ⟨_, rfl⟩
    unfold responseFunction at hresponse
    simp only [hshape, hprogram] at hresponse
    cases program with
    | error e => cases hresponse
    | ok p =>
      cases hresponse
      exact ⟨⟨role, o.name, .response, shape, p⟩, hmem _ (by simp), rfl⟩

/-! ## Programs of functions -/

/-- The variables that are given to the programs of functions. -/
def givenVars : List String := ["r", "res", "resp", "ko"]

theorem requestProgram_assembled {p : Program} (h : s.requestProgram r role = .ok p) :
    s.synthesizer.Assembled ["r", "res"] .outbound p := by
  cases role with
  | getAttributes => exact .transfers (Synthesizer.fillAttributesQuery_moves h)
  | _ =>
    rw [requestProgram] at h
    · exact Synthesizer.fillRequest_assembled h
    · simp

theorem responseProgram_assembled {p : Program} (h : s.responseProgram r role = some (.ok p)) :
    s.synthesizer.Assembled ["resp", "ko"] .inbound p := by
  cases role with
  | delete | setAttributes => cases h
  | getAttributes => exact .transfers (Synthesizer.adoptAttributes_moves (Option.some.inj h))
  | _ => exact (Synthesizer.adoptResponse_assembled (Option.some.inj h)).1

theorem assembled_of_mem (hfs : s.callFunctions r = .ok fs) (hf : f ∈ fs) :
    ∃ roots, roots ⊆ givenVars ∧ s.synthesizer.Assembled roots f.part.direction f.program := by
  obtain ⟨role, o, -, h | h⟩ := exists_operation_of_mem hfs hf
  · obtain ⟨-, hp, hpart⟩ := requestFunction_cases h
    rw [hpart]
    exact ⟨_, by simp [givenVars], requestProgram_assembled hp⟩
  · obtain ⟨-, hp, hpart⟩ := responseFunction_cases h
    rw [hpart]
    exact ⟨_, by simp [givenVars], responseProgram_assembled hp⟩

theorem direction_of_mem (hfs : s.callFunctions r = .ok fs) (hf : f ∈ fs) :
    f.program.direction = f.part.direction := by
  obtain ⟨roots, -, h⟩ := assembled_of_mem hfs hf
  exact Synthesizer.direction_of_assembled h

end Schema

/-! ## Packages of functions -/

/-- The packages that the functions of a resource may refer to. -/
def knownPackages : List String :=
  ["context", timePackage, apiTypesAlias, sdkAlias, coreAlias, metav1Alias]

/-- No variable of a program is named like a package. -/
theorem ne_of_isOwnVariable {d : Direction} {x : String} (hx : Synthesizer.IsOwnVariable d x) :
    x ∉ knownPackages := by
  have hother : ∀ y ∈ knownPackages, y.toList.head? ≠ some 'f' ∧ y ≠ attributeMapVar ∧
      y ≠ onlyElementVar := by decide
  intro hmem
  obtain ⟨hhead, hattributes, helement⟩ := hother x hmem
  have htemp := Temporary.not_isTemporary_of_head hhead
  cases d with
  | outbound => exact hx.elim htemp hattributes
  | inbound => exact hx.elim htemp helement

namespace Schema

variable {s : Schema} {r : Resource} {f : CallFunction} {fs : List CallFunction} {x : String}

theorem not_mem_vars_of_mem (hfs : s.callFunctions r = .ok fs) (hf : f ∈ fs)
    (hx : x ∈ knownPackages) : x ∉ f.program.vars := by
  have hgiven : ∀ y ∈ givenVars, y ∉ knownPackages := by decide
  obtain ⟨roots, hroots, h⟩ := assembled_of_mem hfs hf
  intro hvar
  rcases Synthesizer.vars_of_assembled h hvar with hroot | hown
  · exact hgiven x (hroots hroot) hx
  · exact ne_of_isOwnVariable hown hx

end Schema

/-! ## The file of the functions -/

/-- A method refers to the packages of its signature and to those of its code. -/
theorem CallFunction.qualifiers_toDecl (kind : String) (f : CallFunction) :
    (f.toDecl kind).qualifiers =
      (match f.part with
        | .request => ["context", sdkAlias, sdkAlias]
        | .response => [apiTypesAlias, sdkAlias]) ++ qualifiersOf f.program.toCode := by
  have hsdk (name : String) : qualifier (sdkAlias ++ "." ++ name) = [sdkAlias] :=
    qualifier_structs .outbound name
  have hapi (name : String) : qualifier (apiTypesAlias ++ "." ++ name) = [apiTypesAlias] :=
    qualifier_structs .inbound name
  have hplain : qualifier "resourceManager" = [] ∧ qualifier "resource" = [] ∧
      qualifier "error" = [] ∧ qualifier "context.Context" = ["context"] := by decide
  have hres : (Accessor.var requestVar).qualifiers = [] := rfl
  cases hpart : f.part <;>
    simp [toDecl, hpart, FuncDecl.qualifiers, manager,
      TypeExpr.qualifiers, sdkType, hsdk, hapi, hplain, qualifiersOf, Stmt.qualifiers,
      Expr.qualifiers, Expr.var, hres]

namespace Schema

variable {s : Schema} {r : Resource} {f : CallFunction} {fs : List CallFunction} {x : String}

theorem mem_imported_iff : x ∈ (s.callSource r fs).imported ↔
    x = apiTypesAlias ∨ x = sdkAlias ∨ x = "context" ∧ (∃ f ∈ fs, f.part = .request) ∨
      x ∈ [timePackage, coreAlias, metav1Alias] ∧ ∃ f ∈ fs, x ∈ f.program.packages := by
  have hown (name : String) (wanted : Bool) :
      x ∈ (if wanted then [(⟨none, name⟩ : Import)] else []).map Import.name ↔
        x = name ∧ wanted = true := by
    cases wanted <;> simp [Import.name]
  have hshared (name path : String) (wanted : Bool) :
      x ∈ (if wanted then [Import.named name path] else []).map Import.name ↔
        x = name ∧ wanted = true := by
    cases wanted <;> simp [Import.name, Import.named]
  have hneeded (name : String) : (fs.flatMap (·.program.packages)).contains name = true ↔
      ∃ f ∈ fs, name ∈ f.program.packages := by simp
  have hrequest : fs.any (·.part = .request) = true ↔ ∃ f ∈ fs, f.part = .request := by simp
  have htypes : x ∈ [Import.named apiTypesAlias s.apiTypesPath,
      Import.named sdkAlias s.sdkPath].map Import.name ↔ x = apiTypesAlias ∨ x = sdkAlias := by
    simp [Import.name, Import.named]
  simp only [SourceFile.imported, callSource, callImports, List.map_append, List.mem_append, hown,
    hshared]
  rw [hneeded, hneeded, hneeded, hrequest, htypes]
  simp only [List.mem_cons, List.not_mem_nil, or_false]
  constructor
  · rintro ((((h | ⟨rfl, h⟩) | ⟨rfl, h⟩) | ⟨rfl, h⟩) | h | h)
    · exact Or.inr (Or.inr (Or.inl h))
    · exact Or.inr (Or.inr (Or.inr ⟨Or.inl rfl, h⟩))
    · exact Or.inr (Or.inr (Or.inr ⟨Or.inr (Or.inl rfl), h⟩))
    · exact Or.inr (Or.inr (Or.inr ⟨Or.inr (Or.inr rfl), h⟩))
    · exact Or.inl h
    · exact Or.inr (Or.inl h)
  · rintro (h | h | h | ⟨rfl | rfl | rfl, h⟩)
    · exact Or.inr (Or.inl h)
    · exact Or.inr (Or.inr h)
    · exact Or.inl (Or.inl (Or.inl (Or.inl h)))
    · exact Or.inl (Or.inl (Or.inl (Or.inr ⟨rfl, h⟩)))
    · exact Or.inl (Or.inl (Or.inr ⟨rfl, h⟩))
    · exact Or.inl (Or.inr ⟨rfl, h⟩)

theorem mem_qualifiers_iff : x ∈ (s.callSource r fs).qualifiers ↔
    ∃ f ∈ fs, x = sdkAlias ∨ x = "context" ∧ f.part = .request ∨
      x = apiTypesAlias ∧ f.part = .response ∨ x ∈ qualifiersOf f.program.toCode := by
  have hmethod (f : CallFunction) : x ∈ (f.toDecl r.kind).qualifiers ↔
      x = sdkAlias ∨ x = "context" ∧ f.part = .request ∨
        x = apiTypesAlias ∧ f.part = .response ∨ x ∈ qualifiersOf f.program.toCode := by
    rw [CallFunction.qualifiers_toDecl]
    cases f.part with
    | request =>
      simp only [List.mem_append, List.mem_cons, List.not_mem_nil, reduceCtorEq]
      tauto
    | response =>
      simp only [List.mem_append, List.mem_cons, List.not_mem_nil, reduceCtorEq]
      tauto
  simp only [callSource, SourceFile.qualifiers, List.mem_flatMap, List.mem_map]
  constructor
  · rintro ⟨_, ⟨f, hf, rfl⟩, h⟩
    exact ⟨f, hf, (hmethod f).mp h⟩
  · rintro ⟨f, hf, h⟩
    exact ⟨_, ⟨f, hf, rfl⟩, (hmethod f).mpr h⟩

/-- **A package is imported for programs when the code refers to it**, and the one of timestamps
also for those that programs hide. -/
theorem mem_imported_iff_of_needed (hfs : s.callFunctions r = .ok fs)
    (hx : x ∈ [timePackage, coreAlias, metav1Alias]) :
    x ∈ (s.callSource r fs).imported ↔ x ∈ (s.callSource r fs).qualifiers ∨
      ∃ f ∈ fs, x = timeAlias f.program.direction ∧ f.program.HidesTime := by
  have hother : ∀ y ∈ [timePackage, coreAlias, metav1Alias], y ∈ knownPackages ∧
      y ≠ sdkAlias ∧ y ≠ "context" ∧ y ≠ apiTypesAlias := by decide
  obtain ⟨hknown, hsdk, hcontext, hapi⟩ := hother x hx
  rw [mem_imported_iff, mem_qualifiers_iff]
  simp only [hapi, hsdk, hcontext, hx, false_and, true_and, false_or, ← exists_or, ← and_or_left]
  refine exists_congr fun f => and_congr_right fun hf => ?_
  refine Program.mem_packages_iff ?_ (not_mem_vars_of_mem hfs hf hknown)
  cases f.program.direction <;> assumption

theorem not_mem_qualifiersOf (hfs : s.callFunctions r = .ok fs) (hf : f ∈ fs)
    (hx : x ∈ ["context", apiTypesAlias]) (hne : x ≠ structsAlias f.part.direction) :
    x ∉ qualifiersOf f.program.toCode := by
  have hother : ∀ y ∈ ["context", apiTypesAlias], y ∈ knownPackages ∧ y ≠ coreAlias ∧
      ∀ d, y ≠ timeAlias d := by
    intro y hy
    rcases List.mem_pair.mp hy with rfl | rfl <;>
      exact ⟨by decide, by decide, fun d => by cases d <;> decide⟩
  obtain ⟨hknown, hcore, htime⟩ := hother x hx
  rw [← direction_of_mem hfs hf] at hne
  intro hmem
  have hneeded := (Program.mem_packages_iff hne (not_mem_vars_of_mem hfs hf hknown)).mpr
    (Or.inl hmem)
  exact (Program.eq_of_mem_packages hneeded).elim (htime _) hcore

/-- The package of contexts is imported exactly for the functions that fill requests. -/
theorem exact_context (hfs : s.callFunctions r = .ok fs) :
    (s.callSource r fs).Exact "context" := by
  have hother : "context" ≠ sdkAlias ∧ "context" ≠ apiTypesAlias ∧
      "context" ∉ [timePackage, coreAlias, metav1Alias] := by decide
  obtain ⟨hsdk, hapi, hneeded⟩ := hother
  rw [SourceFile.Exact, mem_imported_iff, mem_qualifiers_iff]
  simp only [hsdk, hapi, hneeded, false_and, true_and, false_or, or_false]
  refine exists_congr fun f => and_congr_right fun hf => ?_
  refine (or_iff_left (not_mem_qualifiersOf hfs hf (by simp) ?_)).symm
  cases f.part <;> decide

/-- The package of shared types is imported exactly where it is referred to. -/
theorem exact_core (hfs : s.callFunctions r = .ok fs) : (s.callSource r fs).Exact coreAlias := by
  rw [SourceFile.Exact, mem_imported_iff_of_needed hfs (by simp), or_iff_left]
  rintro ⟨f, -, h, -⟩
  cases hd : f.program.direction <;> rw [hd] at h <;> exact absurd h (by decide)

/-- A file with functions refers to the package of the service's own types. -/
theorem exact_sdk (hf : f ∈ fs) : (s.callSource r fs).Exact sdkAlias := by
  rw [SourceFile.Exact, mem_imported_iff, mem_qualifiers_iff]
  exact iff_of_true (Or.inr (Or.inl rfl)) ⟨f, hf, Or.inl rfl⟩

/-- The package of the resource types is always imported, and it is referred to in the functions
that take over a response. -/
theorem exact_api_iff (hfs : s.callFunctions r = .ok fs) :
    (s.callSource r fs).Exact apiTypesAlias ↔ r.HasResponse := by
  have hother : apiTypesAlias ≠ sdkAlias ∧ apiTypesAlias ≠ "context" := by decide
  rw [SourceFile.Exact, iff_true_left (mem_imported_iff.mpr (Or.inl rfl)),
    ← exists_response_iff hfs, mem_qualifiers_iff]
  simp only [hother, false_and, true_and, false_or]
  refine exists_congr fun f => and_congr_right fun hf => ?_
  refine ⟨fun h => h.elim id fun hmem => ?_, Or.inl⟩
  cases hpart : f.part with
  | response => rfl
  | request =>
    refine absurd hmem (not_mem_qualifiersOf hfs hf (by simp) ?_)
    rw [hpart]
    decide

/-- The package of timestamps on the side that is written is imported also for those that programs
hide. -/
theorem timeAlias_mem_imported_iff (hfs : s.callFunctions r = .ok fs) (d : Direction) :
    timeAlias d ∈ (s.callSource r fs).imported ↔ timeAlias d ∈ (s.callSource r fs).qualifiers ∨
      ∃ f ∈ fs, f.program.direction = d ∧ f.program.HidesTime := by
  have hinj : ∀ d', timeAlias d = timeAlias d' ↔ d' = d := by
    intro d'
    cases d <;> cases d' <;> decide
  rw [mem_imported_iff_of_needed hfs (by cases d <;> decide)]
  simp only [hinj]

theorem exact_time (hfs : s.callFunctions r = .ok fs) (hm : s.model.PlainKeys) (d : Direction) :
    (s.callSource r fs).Exact (timeAlias d) := by
  rw [SourceFile.Exact, timeAlias_mem_imported_iff hfs, or_iff_left]
  rintro ⟨f, hf, -, hides⟩
  obtain ⟨roots, -, h⟩ := assembled_of_mem hfs hf
  exact Synthesizer.not_hidesTime_of_assembled (s := s.synthesizer) hm h hides

end Schema

/-! ## The file of the type definitions -/

namespace Schema

variable {s : Schema} {defs : List TypeDef} {x : String}

theorem dot_not_mem_resourceTypeName {types : TypeResolver} (hnamer : types.namer = .standard)
    (shape : String) : '.' ∉ (types.resourceTypeName shape).toList := by
  have hcamel : '.' ∉ (types.namer.names shape).camel.toList := by
    rw [hnamer]
    exact Naming.not_mem_camel (by decide) shape
  unfold TypeResolver.resourceTypeName
  dsimp only
  split
  · simpa using hcamel
  · exact hcamel

/-- The attributes of a type definition have the types of shapes of the model, with structures named
for the resources. -/
theorem type_of_mem_attributes (hdefs : s.typeDefs = .ok defs) {d : TypeDef} (hd : d ∈ defs)
    {a : TypeAttribute} (ha : a ∈ d.attributes.values) :
    ∃ shape ∈ s.model.shapes.values, ∃ t, s.model.shapeType shape = .ok (some t) ∧
      a.type = t.renamed s.types.resourceTypeName := by
  obtain ⟨shape, -, -, hshape⟩ := (mem_typeDefs_iff hdefs).mp hd
  obtain ⟨-, -, hattributes, -⟩ := TypeDef.ofShape_eq_some hshape
  obtain ⟨m, -, t, type, ht, htype, rfl⟩ := TypeDef.exists_member_of_mem_attributes hattributes ha
  obtain ⟨type?, hshapeType, h⟩ := Result.bind_eq_ok_iff.mp htype
  obtain ⟨u, rfl, rfl⟩ := Option.map_eq_some_iff.mp (Result.pure_eq_ok_iff.mp h)
  exact ⟨t, Dict.mem_values_of_get? ht, u, hshapeType, rfl⟩

/-- The type definitions refer to the package of timestamps where a timestamp is shown, and to no
other package. -/
theorem mem_qualifiers_typeDefs_iff (hnamer : s.namer = .standard) (hdefs : s.typeDefs = .ok defs) :
    x ∈ (TypeDef.source defs).qualifiers ↔
      x = metav1Alias ∧ ∃ d ∈ defs, ∃ a ∈ d.attributes.values, a.type.showsDateTime = true := by
  have hfield {d : TypeDef} (hd : d ∈ defs) {a : TypeAttribute} (ha : a ∈ d.attributes.values) :
      x ∈ (TypeExpr.ofField "" (timeType .inbound) a.type).qualifiers ↔
        x = metav1Alias ∧ a.type.showsDateTime = true := by
    have htime : qualifier (timeType .inbound) = [metav1Alias] := qualifier_timeType .inbound
    rw [mem_qualifiers_ofField, htime, List.mem_singleton]
    obtain ⟨shape, -, t, -, htype⟩ := type_of_mem_attributes hdefs hd ha
    intro name hname
    rw [htype, FieldType.structures_renamed] at hname
    obtain ⟨structure', -, rfl⟩ := List.mem_map.mp hname
    rw [String.empty_append, qualifier_eq_nil (dot_not_mem_resourceTypeName hnamer _)]
    exact List.not_mem_nil
  simp only [TypeDef.source, SourceFile.qualifiers, List.mem_flatMap, List.mem_map]
  constructor
  · rintro ⟨_, ⟨d, hd, rfl⟩, h⟩
    obtain ⟨_, hfields, h⟩ := List.mem_flatMap.mp h
    obtain ⟨a, ha, rfl⟩ := List.mem_map.mp hfields
    obtain ⟨rfl, hshows⟩ := (hfield hd ha).mp h
    exact ⟨rfl, d, hd, a, ha, hshows⟩
  · rintro ⟨rfl, d, hd, a, ha, hshows⟩
    refine ⟨_, ⟨d, hd, rfl⟩, List.mem_flatMap.mpr ⟨_, List.mem_map_of_mem ha, ?_⟩⟩
    exact (hfield hd ha).mpr ⟨rfl, hshows⟩

/-- **The package of timestamps is imported for the type definitions** when they refer to it, and
also where timestamps are hidden. -/
theorem metav1_mem_imported_iff (hnamer : s.namer = .standard) (hdefs : s.typeDefs = .ok defs) :
    metav1Alias ∈ (TypeDef.source defs).imported ↔
      metav1Alias ∈ (TypeDef.source defs).qualifiers ∨
        ∃ d ∈ defs, ∃ a ∈ d.attributes.values, a.type.hidesDateTime = true := by
  have hany : metav1Alias ∈ (TypeDef.source defs).imported ↔
      defs.any TypeDef.hasDateTime = true := by
    cases h : defs.any TypeDef.hasDateTime <;>
      simp [TypeDef.source, SourceFile.imported, h, Import.name, Import.named]
  rw [hany, mem_qualifiers_typeDefs_iff hnamer hdefs]
  simp only [List.any_eq_true, TypeDef.hasDateTime, FieldType.containsDateTime_iff, true_and,
    and_or_left, exists_or]

theorem exact_metav1 (hnamer : s.namer = .standard) (hdefs : s.typeDefs = .ok defs)
    (hm : s.model.PlainKeys) : (TypeDef.source defs).Exact metav1Alias := by
  rw [SourceFile.Exact, metav1_mem_imported_iff hnamer hdefs, or_iff_left]
  rintro ⟨d, hd, a, ha, hides⟩
  obtain ⟨shape, hshape, t, ht, htype⟩ := type_of_mem_attributes hdefs hd ha
  have hplain := ServiceModel.hidesDateTime_of_shapeType hm hshape ht
  rw [htype, FieldType.hidesDateTime, FieldType.containsDateTime_renamed,
    FieldType.showsDateTime_renamed, ← FieldType.hidesDateTime, hplain] at hides
  cases hides

/-! ## Both files -/

/-- Every resource has a function that fills a request, since its Create operation has an input. -/
theorem exists_request_of_resource (hnamer : s.namer = .standard) {rs : List Resource}
    (hrs : s.resources = .ok rs) {r : Resource} (hr : r ∈ rs) {fs : List CallFunction}
    (hfs : s.callFunctions r = .ok fs) : ∃ f ∈ fs, f.part = .request := by
  have hraw : s.derivation.KeepsRaw := by
    intro text
    show (s.namer.names text).raw = text
    rw [hnamer]
    rfl
  obtain ⟨name, -, hderive⟩ := derive_of_mem_resources hrs hr
  obtain ⟨-, -, create, reference, -, -, hcreate, hinput, -⟩ :=
    DerivationScope.derive_cases hraw hderive
  have ho : r.operations.get? .create = some create := hcreate
  exact exists_request hfs ho (by simp [hinput])

/-- **The generated files import all that they refer to, and more than that in three cases.** In the
file with the functions of a resource the package of the resource types is imported even if no
response is taken over, and those of timestamps also for lists and maps that hide timestamps in the
keys of maps. The latter goes for the file of the type definitions too. So the package of timestamps
is imported exactly in services without timestamps for keys. -/
theorem imports_exact [PatternEngine] {model : ServiceModel} {config : Config}
    {classifier : Classifier} {schema : Schema}
    (hschema : build model config .standard classifier = .ok schema) :
    (∀ rs, schema.resources = .ok rs → ∀ r ∈ rs, ∀ text, schema.callFile r = .ok text →
      ∃ functions source, schema.callFunctions r = .ok functions ∧
        source = schema.callSource r functions ∧ text = source.toText ++ "\n" ∧
        (∀ p ∈ knownPackages, p ∈ source.qualifiers → p ∈ source.imported) ∧
        (∀ p ∈ ["context", sdkAlias, coreAlias], source.Exact p) ∧
        (source.Exact apiTypesAlias ↔ r.HasResponse) ∧
        (∀ d, timeAlias d ∈ source.imported ↔ timeAlias d ∈ source.qualifiers ∨
          ∃ f ∈ functions, f.program.direction = d ∧ f.program.HidesTime) ∧
        (model.PlainKeys → ∀ d, source.Exact (timeAlias d))) ∧
    (∀ defs, schema.typeDefs = .ok defs →
      TypeDef.file defs = (TypeDef.source defs).toText ∧
        (metav1Alias ∈ (TypeDef.source defs).imported ↔
          metav1Alias ∈ (TypeDef.source defs).qualifiers ∨
            ∃ d ∈ defs, ∃ a ∈ d.attributes.values, a.type.hidesDateTime = true) ∧
        (model.PlainKeys → (TypeDef.source defs).Exact metav1Alias)) := by
  obtain ⟨index, rfl⟩ := build_eq_ok hschema
  refine ⟨fun rs hrs r hr text htext => ?_, fun defs hdefs => ⟨TypeDef.file_eq defs,
    metav1_mem_imported_iff rfl hdefs, exact_metav1 rfl hdefs⟩⟩
  obtain ⟨fs, hfs, rfl⟩ := callFile_eq_ok_iff.mp htext
  obtain ⟨f, hf, -⟩ := exists_request_of_resource rfl hrs hr hfs
  have htime := timeAlias_mem_imported_iff hfs
  have hcontext := exact_context hfs
  have hsdk := exact_sdk (s := ⟨model, config, .standard, index⟩) (r := r) hf
  have hcore := exact_core hfs
  refine ⟨fs, _, hfs, rfl, rfl, fun p hp hreferred => ?_, fun p hp => ?_, exact_api_iff hfs, htime,
    exact_time hfs⟩
  · simp only [knownPackages, List.mem_cons, List.not_mem_nil, or_false] at hp
    rcases hp with rfl | rfl | rfl | rfl | rfl | rfl
    · exact hcontext.mpr hreferred
    · exact (htime .outbound).mpr (Or.inl hreferred)
    · exact mem_imported_iff.mpr (Or.inl rfl)
    · exact hsdk.mpr hreferred
    · exact hcore.mpr hreferred
    · exact (htime .inbound).mpr (Or.inl hreferred)
  · simp only [List.mem_cons, List.not_mem_nil, or_false] at hp
    rcases hp with rfl | rfl | rfl
    · exact hcontext
    · exact hsdk
    · exact hcore

end Schema

/-- In a service without timestamps for keys, where creating a queue is answered, all imports are
exact. -/
theorem imports_exact_queue :
    ∃ functions defs, queueSchema.callFunctions queue = .ok functions ∧
      queueSchema.typeDefs = .ok defs ∧
      (∀ p ∈ knownPackages, (queueSchema.callSource queue functions).Exact p) ∧
      (TypeDef.source defs).Exact metav1Alias := by
  have hplain : queueModel.PlainKeys := by
    have hkinds : ∀ s ∈ queueModel.shapes.values, (s.target? .key).all (· == "Text") = true := by
      decide
    intro s hs key value k type hkind hk htype
    have hkey := hkinds s hs
    obtain rfl : key = "Text" := by simpa [Shape.target?, hkind] using hkey
    cases hk
    cases htype
    rfl
  obtain ⟨hcalls, htypes⟩ := Schema.imports_exact build_queueSchema
  obtain ⟨text, htext⟩ : ∃ text, queueSchema.callFile queue = .ok text := ⟨_, rfl⟩
  obtain ⟨defs, hdefs⟩ : ∃ defs, queueSchema.typeDefs = .ok defs := ⟨_, rfl⟩
  obtain ⟨functions, source, hfs, rfl, -, -, hexact, hapi, -, htime⟩ :=
    hcalls _ resources_queueSchema queue List.mem_cons_self text htext
  refine ⟨functions, defs, hfs, hdefs, fun p hp => ?_, (htypes defs hdefs).2.2 hplain⟩
  have hresponse : queue.HasResponse := ⟨.create, createQueue, by decide, rfl, rfl⟩
  simp only [knownPackages, List.mem_cons, List.not_mem_nil, or_false] at hp
  rcases hp with rfl | rfl | rfl | rfl | rfl | rfl
  · exact hexact _ (by simp)
  · exact htime hplain .outbound
  · exact hapi.mpr hresponse
  · exact hexact _ (by simp)
  · exact hexact _ (by simp)
  · exact htime hplain .inbound

/-- The operation that creates a queue without an answer. -/
def orderQueue : Operation where
  name := "CreateQueue"
  input := some "CreateQueueRequest"

/-- A service of queues with logs by the time, where creating a queue is not answered. -/
def loggedModel : ServiceModel :=
  (([{ name := "Text", kind := .scalar .string },
    { name := "Time", kind := .scalar .timestamp },
    { name := "Log", kind := .map "Time" "Text" },
    { name := "Logs", kind := .list "Log" },
    { name := "Settings", kind := .structure [{ name := "Log", target := "Log" }] },
    { name := "CreateQueueRequest", kind := .structure
        [{ name := "Name", target := "Text" }, { name := "Logs", target := "Logs" }] }].foldl
      ServiceModel.addShape (.new "Queues")).addOperation orderQueue).finish

/-- The schema of the service. -/
def loggedSchema : Schema where
  model := loggedModel
  config := {}
  namer := .standard
  index := ⟨[⟨.create, "Queue", orderQueue⟩]⟩

/-- The resource of the service. -/
def loggedQueue : Resource where
  names := Naming.standardNames "Queue"
  plural := "Queues"
  operations := { create := some orderQueue }
  spec := .ofList
    [("Logs", ⟨Naming.standardNames "Logs", .list (.map .dateTime .string), some "Logs",
        .member "Logs"⟩),
      ("Name", ⟨Naming.standardNames "Name", .string, some "Text", .member "Name"⟩)]

/-- The program that creates a queue with its logs. -/
def loggedRequest : Program :=
  let res := Accessor.parse "res"
  let spec := (Accessor.parse "r.ko").field "Spec"
  loggedSchema.synthesizer.program .outbound []
    [.copied (res.field "Logs") (spec.field "Logs")
        (.list (.map .dateTime .string) (.map .string (.scalar .string))),
      .copied (res.field "Name") (spec.field "Name") (.scalar .string)]

/-- The function that creates a queue with its logs. -/
def loggedFunction : CallFunction :=
  ⟨.create, "CreateQueue", .request, "CreateQueueRequest", loggedRequest⟩

/-- The type definition of the service. -/
def loggedSettings : TypeDef where
  names := Naming.standardNames "Settings"
  typeName := "Settings"
  attributes := .ofList [("Log", ⟨Naming.standardNames "Log", .map .dateTime .string, "Log"⟩)]

theorem hidesTime_loggedRequest : loggedRequest.HidesTime := by
  refine ⟨.map .dateTime .string, ?_, rfl⟩
  simp [loggedRequest, Synthesizer.program, Copier.transfers, Copier.transfer, Copier.copy,
    Copier.bind, Copier.publish, Statement.containersOf, Statement.containers, Copier.typeOf,
    FieldType.renamed]

theorem time_not_mem_loggedRequest : timePackage ∉ qualifiersOf loggedRequest.toCode := by
  have hvar : Copier.temporary 0 = "f0" := rfl
  simp only [loggedRequest, Synthesizer.program, Copier.transfers, Copier.transfer, Copier.copy,
    Copier.bind, Copier.publish, Program.toCode, hvar]
  decide

/-- **Imports that nothing refers to do occur.** The types of the service's API are imported where
no response is taken over, and the packages of timestamps for lists of logs, which are written as
maps from texts to texts. -/
theorem imports_unused :
    Schema.build loggedModel {} .standard (.byConvention .standard) = .ok loggedSchema ∧
      loggedSchema.resources = .ok [loggedQueue] ∧
      loggedSchema.callFile loggedQueue =
        .ok ((loggedSchema.callSource loggedQueue [loggedFunction]).toText ++ "\n") ∧
      ¬ (loggedSchema.callSource loggedQueue [loggedFunction]).Exact apiTypesAlias ∧
      ¬ (loggedSchema.callSource loggedQueue [loggedFunction]).Exact timePackage ∧
      loggedSchema.typeDefs = .ok [loggedSettings] ∧
      ¬ (TypeDef.source [loggedSettings]).Exact metav1Alias := by
  have hfs : loggedSchema.callFunctions loggedQueue = .ok [loggedFunction] := rfl
  have hdefs : loggedSchema.typeDefs = .ok [loggedSettings] := Schema.typeDefs_of_single rfl rfl
  refine ⟨rfl, Schema.resources_of_single (show loggedSchema.resourceNames = ["Queue"] from rfl)
    rfl, Schema.callFile_eq_ok_iff.mpr ⟨_, hfs, rfl⟩, ?_, ?_, hdefs, ?_⟩
  · rw [Schema.exact_api_iff hfs]
    rintro ⟨role, o, -, ho, houtput⟩
    cases role <;> cases ho
    cases houtput
  · intro hexact
    have himported := (Schema.timeAlias_mem_imported_iff hfs .outbound).mpr
      (Or.inr ⟨loggedFunction, List.mem_cons_self, rfl, hidesTime_loggedRequest⟩)
    obtain ⟨f, hf, h⟩ := Schema.mem_qualifiers_iff.mp (hexact.mp himported)
    obtain rfl := List.mem_singleton.mp hf
    rcases h with h | ⟨h, -⟩ | ⟨h, -⟩ | h
    · exact absurd h (by decide)
    · exact absurd h (by decide)
    · exact absurd h (by decide)
    · exact time_not_mem_loggedRequest h
  · intro hexact
    have himported := (Schema.metav1_mem_imported_iff rfl hdefs).mpr
      (Or.inr ⟨loggedSettings, List.mem_cons_self, _, List.mem_cons_self, rfl⟩)
    obtain ⟨-, d, hd, a, ha, hshows⟩ :=
      (Schema.mem_qualifiers_typeDefs_iff rfl hdefs).mp (hexact.mp himported)
    obtain rfl := List.mem_singleton.mp hd
    obtain rfl := List.mem_singleton.mp ha
    cases hshows

end ResourceGen
