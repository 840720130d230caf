import ResourceGen.Proofs.FoundServices

/-!
# Services beside each other

To generate every service below a directory, the services are generated one after the other, each
below a directory with its package name. A service that is generated elsewhere changes nothing at
the place of a package (`Harmless`), and the models and configurations are never written. So a
service finds at its place what it would find there alone, and leaves there what it would leave.
Nothing keeps two services from having one package name, and then they share a directory.

Results:
* `PackagesApart.apart`: packages that are apart have places that are apart.
* `agreesAt_of_generate`, `exists_generate_of_agreesAt`: a service is generated apart from a place,
  or below it.
* `beside_of_generateEach_cons`, `agreesAt_of_generateEach`: harmless models, one and all.
* `generateAll_keeps_service`: the run over a directory leaves the same for a service as the run for
  the service alone, where the other models nest finitely.
* `generateAll_mixes_packages`: two services with one package name.
-/

namespace ResourceGen

open FileTree (Apart)

/-! ## Packages -/

/-- What is generated for a package is apart from what is generated for another one: they have
different directories. The package without a name has the common one. -/
structure PackagesApart (package other : String) : Prop where
  ne : package ≠ other
  ne_empty : package ≠ ""
  ne_own : other = "" → package ≠ "apis" ∧ package ≠ "pkg"

instance decidablePackagesApart (package other : String) :
    Decidable (PackagesApart package other) :=
  decidable_of_iff
    (package ≠ other ∧ package ≠ "" ∧ (other = "" → package ≠ "apis" ∧ package ≠ "pkg"))
    ⟨fun ⟨hne, hempty, hown⟩ => ⟨hne, hempty, hown⟩,
      fun ⟨hne, hempty, hown⟩ => ⟨hne, hempty, hown⟩⟩

theorem apart_of_ne {base rest : List String} {x y : String} (h : x ≠ y) :
    Apart (base ++ x :: rest) (base ++ [y]) := by
  constructor
  · intro hinitial
    rw [List.prefix_append_right_inj, List.cons_prefix_cons] at hinitial
    exact h hinitial.1
  · intro hinitial
    rw [List.prefix_append_right_inj, List.cons_prefix_cons] at hinitial
    exact h hinitial.1.symm

/-- **Packages that are apart have places that are apart.** -/
theorem PackagesApart.apart {package other : String} (h : PackagesApart package other)
    (hpackage : Path.IsWithin package) (hother : Path.IsWithin other) {here : List String}
    {output : String} {place : List String}
    (hplace : Schema.PlaceBelow (Path.names here (Path.join output other)) place) :
    Apart place (Path.names here (Path.join output package)) := by
  obtain ⟨name, rest, hname, rfl⟩ := hplace
  rw [Path.names_join_within here output hpackage, if_neg h.ne_empty,
    Path.names_join_within here output hother]
  by_cases hempty : other = ""
  · rw [if_pos hempty, List.append_nil]
    obtain ⟨hapis, hpkg⟩ := h.ne_own hempty
    rcases hname with rfl | rfl
    · exact apart_of_ne hapis.symm
    · exact apart_of_ne hpkg.symm
  · rw [if_neg hempty, List.append_assoc]
    exact apart_of_ne h.ne.symm

/-! ## Generating a service -/

namespace Memory

variable {s s' u : Memory} {schema : Schema} {output : String} {p : List String}

/-- Whatever becomes of a service, some first steps of its plan are done. -/
theorem exists_performs_of_generate {result : Result (List String)}
    (h : (Host.memory.generate schema output).run s = (result, s')) :
    ∃ performed, performed <+: (schema.plan output).steps ∧ s.Performs performed s' := by
  obtain ⟨b, u, hperform⟩ :
      ∃ b u, (Host.memory.performAll (schema.plan output).steps).run s = (b, u) := ⟨_, _, rfl⟩
  obtain ⟨performed, hinitial, hperforms, -⟩ := exists_performs_of_performAll hperform
  refine ⟨performed, hinitial, ?_⟩
  rw [Host.generate, Host.carryOut, StateT.run_bind, hperform] at h
  cases b with
  | false =>
    cases h
    exact hperforms
  | true =>
    cases hfailed : (schema.plan output).failed with
    | none =>
      rw [hfailed] at h
      cases h
      exact hperforms
    | some e =>
      rw [hfailed] at h
      cases h
      exact hperforms

/-- A plan that goes on to its end is carried out where all its steps go well. -/
theorem generate_of_performs (hfailed : (schema.plan output).failed = none)
    (h : s.Performs (schema.plan output).steps s') :
    (Host.memory.generate schema output).run s = (.ok (schema.plan output).written, s') := by
  rw [Host.generate, Host.carryOut, StateT.run_bind, performAll_iff_performs.mpr h, hfailed]
  rfl

/-- **A service that is generated apart from a place** changes nothing there. -/
theorem agreesAt_of_generate {result : Result (List String)}
    (h : (Host.memory.generate schema output).run s = (result, s'))
    (hnamer : schema.namer = .standard) (hbelow : schema.StaysBelow)
    (hapart : ∀ place, Schema.PlaceBelow (Path.names s.here output) place → Apart place p) :
    AgreesAt p s s' := by
  obtain ⟨performed, hinitial, hperforms⟩ := exists_performs_of_generate h
  refine hperforms.agreesAt_of_apart fun step hstep => hapart _ ?_
  exact Schema.placeBelow_of_mem_steps hnamer hbelow (hinitial.subset hstep) s.here

/-- **A service that is generated below a place** is generated alike where the same stands there. -/
theorem exists_generate_of_agreesAt {paths : List String}
    (h : (Host.memory.generate schema output).run s = (.ok paths, s'))
    (hnamer : schema.namer = .standard) (hbelow : schema.StaysBelow)
    (hagree : AgreesAt (Path.names s.here output) s u) :
    ∃ u', (Host.memory.generate schema output).run u = (.ok paths, u') ∧
      AgreesAt (Path.names s.here output) s' u' := by
  obtain ⟨hfailed, hperforms, rfl⟩ := performs_of_generate_ok h
  obtain ⟨u', hu', hagree'⟩ := hperforms.of_agreesAt hagree fun step hstep => by
    obtain ⟨name, rest, -, hplace⟩ :=
      Schema.placeBelow_of_mem_steps hnamer hbelow hstep s.here
    exact ⟨name :: rest, List.cons_ne_nil name rest, hplace⟩
  exact ⟨u', generate_of_performs hfailed hu', hagree'⟩

theorem sameInput_of_generate {result : Result (List String)}
    (h : (Host.memory.generate schema output).run s = (result, s')) : SameInput s s' := by
  obtain ⟨performed, hinitial, hperforms⟩ := exists_performs_of_generate h
  exact hperforms.sameInput fun step hstep => hinitial.subset hstep

/-- The same is on disk; other lines may have been said. -/
structure SameDisk (s u : Memory) : Prop where
  files : u.files = s.files
  here : u.here = s.here

theorem SameDisk.refl (s : Memory) : SameDisk s s := ⟨rfl, rfl⟩

theorem SameDisk.trans {v : Memory} (h : SameDisk s u) (h' : SameDisk u v) : SameDisk s v :=
  ⟨h'.files.trans h.files, h'.here.trans h.here⟩

theorem SameDisk.read? (h : SameDisk s u) (path : String) : u.read? path = s.read? path := by
  unfold Memory.read? Memory.get?
  rw [h.files, h.here]

theorem SameDisk.symm (h : SameDisk s u) : SameDisk u s := ⟨h.files.symm, h.here.symm⟩

theorem SameDisk.configAt [DocumentReader] (h : SameDisk s u) (config? : Option String) :
    u.configAt config? = s.configAt config? := by
  cases config? with
  | none => rfl
  | some path =>
    simp only [Memory.configAt, h.read?]

/-- What happens beside a place: nothing changes there, and the input stays as it is. -/
structure Beside (p : List String) (s u : Memory) : Prop where
  agrees : AgreesAt p s u
  input : SameInput s u

theorem Beside.trans {v : Memory} (h : Beside p s u) (h' : Beside p u v) : Beside p s v :=
  ⟨h.agrees.trans h'.agrees, h.input.trans h'.input⟩

theorem SameDisk.beside (h : SameDisk s u) (p : List String) : Beside p s u :=
  ⟨⟨h.here, h.files ▸ .refl p s.files⟩, h.here, fun _ _ _ => by rw [h.files]⟩

theorem sameDisk_sayAll (lines : List String) (s : Memory) :
    SameDisk s ((Host.memory.sayAll lines).run s).2 := by
  induction lines generalizing s with
  | nil => exact .refl s
  | cons line rest ih =>
    have hsaid : SameDisk s { s with said := s.said ++ [line] } := ⟨rfl, rfl⟩
    exact hsaid.trans (ih _)

end Memory

/-! ## What the commands do to the disk -/

namespace Command

open Memory (AgreesAt SameInput SameDisk Beside IsInput)

variable {s s₀ s' u : Memory} {configs : Option String} {filter : Option (List String)}
  {output path package : String}

theorem sameDisk_enter {t t' : Tally} {r : Except Failure (Option Nat)}
    (h : (enter Host.memory path t r).run s = (t', s')) : SameDisk s s' := by
  rcases r with f | _ | files <;> cases h <;> exact ⟨rfl, rfl⟩

theorem sameDisk_of_say {line : String} {r : Except Failure Unit}
    (h : (liftM (Host.memory.say line) : Attempt (StateM Memory) Unit).run.run s = (r, s')) :
    SameDisk s s' := by
  cases h
  exact ⟨rfl, rfl⟩

/-- The models that are found below a directory. -/
theorem run_discover (s : Memory) (directory : String) :
    (discover Host.memory directory).run.run s =
      (if (s.get? directory).any (·.isDirectory) = true then
        .ok ((s.filesBelow directory).filter fun p => Path.hasExtension (fileName p) "json")
      else .error ⟨"Not a directory: " ++ directory, none⟩, s) := by
  have hrun : (Host.memory.isDirectory directory).run s =
      ((s.get? directory).any (·.isDirectory), s) := rfl
  unfold discover
  rw [run_lift_bind, hrun]
  by_cases hdirectory : (s.get? directory).any (·.isDirectory) = true
  · rw [if_pos hdirectory]
    simp only
    rw [if_pos hdirectory]
    rfl
  · rw [if_neg hdirectory]
    simp only
    rw [if_neg hdirectory]
    rfl

/-- Models that are found are input. -/
theorem isInput_of_discover {models : String} {paths : List String}
    (hfound : ((discover Host.memory models).run.run s).1 = .ok paths) :
    ∀ path ∈ paths, IsInput s.here path := by
  rw [run_discover] at hfound
  by_cases hdirectory : (s.get? models).any (·.isDirectory) = true
  · rw [if_pos hdirectory] at hfound
    cases hfound
    intro path hpath
    exact Memory.isInput_of_hasExtension (List.mem_filter.mp hpath).2
  · rw [if_neg hdirectory] at hfound
    cases hfound

/-! ## Models one after the other -/

section

variable [PatternEngine] [DocumentReader]

/-- The service of a model is generated apart from a package, if it is generated at all. -/
def Harmless (s : Memory) (configs : Option String) (filter : Option (List String))
    (package path : String) : Prop :=
  ∀ schema, s.service? configs filter path = .ok (some schema) →
    schema.StaysBelow ∧ PackagesApart package schema.model.packageName

theorem isWithin_packageName {schema : Schema}
    (h : s.service? configs filter path = .ok (some schema)) :
    Path.IsWithin schema.model.packageName := by
  obtain ⟨hmodel, -, -⟩ := Memory.service?_eq_some h
  rw [packaged_of_modelOf hmodel]
  exact ServiceModel.isWithin_packageNameOf _

theorem namer_of_service? {schema : Schema}
    (h : s.service? configs filter path = .ok (some schema)) : schema.namer = .standard := by
  obtain ⟨-, -, hschema⟩ := Memory.service?_eq_some h
  obtain ⟨index, heq⟩ := Schema.build_eq_ok hschema
  rw [heq]

theorem Harmless.of_sameInput (h : Harmless s configs filter package path)
    (hinput : SameInput s u) (hpath : IsInput s.here path) :
    Harmless u configs filter package path :=
  fun schema hservice => h schema ((hinput.service? hpath).symm.trans hservice)

/-- A model changes nothing, or its service is generated. -/
theorem generateOne_cases {r : Except Failure (Option Nat)}
    (h : (generateOne Host.memory path configs filter output).run.run s = (r, s')) :
    s' = s ∨ ∃ schema result, s.service? configs filter path = .ok (some schema) ∧
      (Host.memory.generate schema (Path.join output schema.model.packageName)).run s =
        (result, s') := by
  rw [run_generateOne] at h
  rcases hservice : s.service? configs filter path with f | _ | schema
  · rw [hservice] at h
    exact Or.inl (Prod.mk.inj h).2.symm
  · rw [hservice] at h
    exact Or.inl (Prod.mk.inj h).2.symm
  · rw [hservice] at h
    exact Or.inr ⟨schema, _, rfl, Prod.ext rfl (Prod.mk.inj h).2⟩

/-- Whatever becomes of a model, the input stays as it is. -/
theorem sameInput_of_generateOne {r : Except Failure (Option Nat)}
    (h : (generateOne Host.memory path configs filter output).run.run s = (r, s')) :
    SameInput s s' := by
  obtain rfl | ⟨schema, result, -, hrun⟩ := generateOne_cases h
  · exact .refl _
  · exact Memory.sameInput_of_generate hrun

/-- **One harmless model** changes nothing at the place of the package. -/
theorem agreesAt_of_generateOne (hpackage : Path.IsWithin package)
    (hharmless : Harmless s configs filter package path) {r : Except Failure (Option Nat)}
    (h : (generateOne Host.memory path configs filter output).run.run s = (r, s')) :
    AgreesAt (Path.names s.here (Path.join output package)) s s' := by
  obtain rfl | ⟨schema, result, hservice, hrun⟩ := generateOne_cases h
  · exact .refl _ _
  · obtain ⟨hbelow, hapart⟩ := hharmless schema hservice
    refine Memory.agreesAt_of_generate hrun (namer_of_service? hservice) hbelow
      fun place hplace => ?_
    exact hapart.apart hpackage (isWithin_packageName hservice) hplace

/-- The first model is dealt with, then the others. -/
theorem generateEach_cons {total done : Nat} {rest : List String} {t t' : Tally}
    (h : (generateEach Host.memory configs filter output total done (path :: rest) t).run s =
      (t', s')) : ∃ s₁ r s₂ t₂ s₃, SameDisk s s₁ ∧
        (generateOne Host.memory path configs filter output).run.run s₁ = (r, s₂) ∧
        SameDisk s₂ s₃ ∧
        (generateEach Host.memory configs filter output total (done + 1) rest t₂).run s₃ =
          (t', s') := by
  obtain ⟨s₁, hsay⟩ : ∃ s₁, (Host.memory.say ("→ Parsing model " ++ toString (done + 1) ++ "/" ++
    toString total ++ ": " ++ path)).run s = ((), s₁) := ⟨_, rfl⟩
  obtain ⟨r, s₂, hone⟩ :
    ∃ r s₂, (generateOne Host.memory path configs filter output).run.run s₁ = (r, s₂) := ⟨_, _, rfl⟩
  obtain ⟨t₂, s₃, henter⟩ : ∃ t₂ s₃, (enter Host.memory path t r).run s₂ = (t₂, s₃) := ⟨_, _, rfl⟩
  refine ⟨s₁, r, s₂, t₂, s₃, ?_, hone, sameDisk_enter henter, ?_⟩
  · cases hsay
    exact ⟨rfl, rfl⟩
  · -- each round is three steps of the host
    rw [generateEach, StateT.run_bind, hsay] at h
    change ((generateOne Host.memory path configs filter output).run >>= _).run s₁ = _ at h
    rw [StateT.run_bind, hone] at h
    change (enter Host.memory path t r >>= _).run s₂ = _ at h
    rw [StateT.run_bind, henter] at h
    exact h

/-- A harmless model is dealt with beside the place of the package. -/
theorem beside_of_generateEach_cons (hpackage : Path.IsWithin package) {total done : Nat}
    {rest : List String} (hpath : IsInput s.here path)
    (hharmless : Harmless s configs filter package path) {t t' : Tally}
    (h : (generateEach Host.memory configs filter output total done (path :: rest) t).run s =
      (t', s')) : ∃ t₂ s₃, Beside (Path.names s.here (Path.join output package)) s s₃ ∧
        (generateEach Host.memory configs filter output total (done + 1) rest t₂).run s₃ =
          (t', s') := by
  obtain ⟨s₁, r, s₂, t₂, s₃, hsay, hone, henter, hrest⟩ := generateEach_cons h
  have hsay := hsay.beside (Path.names s.here (Path.join output package))
  have hagree := agreesAt_of_generateOne hpackage (hharmless.of_sameInput hsay.input hpath) hone
  rw [hsay.agrees.here] at hagree
  have hone : Beside _ s₁ s₂ := ⟨hagree, sameInput_of_generateOne hone⟩
  exact ⟨t₂, s₃, (hsay.trans hone).trans (henter.beside _), hrest⟩

/-- **Harmless models** change nothing at the place of the package. -/
theorem agreesAt_of_generateEach (hpackage : Path.IsWithin package) {total done : Nat}
    {paths : List String} (hpaths : ∀ path ∈ paths, IsInput s.here path)
    (hharmless : ∀ path ∈ paths, Harmless s configs filter package path) {t t' : Tally}
    (h : (generateEach Host.memory configs filter output total done paths t).run s = (t', s')) :
    AgreesAt (Path.names s.here (Path.join output package)) s s' := by
  induction paths generalizing s t done with
  | nil =>
    cases h
    exact .refl _ _
  | cons path rest ih =>
    have hpaths' : ∀ path ∈ rest, IsInput s.here path := fun path hpath =>
      hpaths path (List.mem_cons_of_mem _ hpath)
    obtain ⟨t₂, s₃, hfirst, hrest⟩ := beside_of_generateEach_cons hpackage
      (hpaths path List.mem_cons_self) (hharmless path List.mem_cons_self) h
    have hlater := ih (hfirst.agrees.here ▸ hpaths')
      (fun path hpath => (hharmless path (List.mem_cons_of_mem _ hpath)).of_sameInput hfirst.input
        (hpaths' path hpath)) hrest
    rw [hfirst.agrees.here] at hlater
    exact hfirst.agrees.trans hlater

/-- **The service of the package** is generated alike where the same stands at its place. -/
theorem exists_generateOne_of_agreesAt {schema : Schema} (hinput : SameInput s₀ s)
    (hpath : IsInput s₀.here path)
    (hservice : s₀.service? configs filter path = .ok (some schema)) (hbelow : schema.StaysBelow)
    {paths : List String}
    (halone : (Host.memory.generate schema (Path.join output schema.model.packageName)).run s₀ =
      (.ok paths, u))
    (hagree : AgreesAt (Path.names s₀.here (Path.join output schema.model.packageName)) s₀ s) :
    ∃ s', (generateOne Host.memory path configs filter output).run.run s =
        (.ok (some paths.length), s') ∧
      AgreesAt (Path.names s₀.here (Path.join output schema.model.packageName)) u s' := by
  obtain ⟨s', hrun, hagree'⟩ := Memory.exists_generate_of_agreesAt halone
    (namer_of_service? hservice) hbelow hagree
  refine ⟨s', ?_, hagree'⟩
  rw [run_generateOne, hinput.service? hpath, hservice]
  simp only [hrun]
  rfl

/-- **The service of a package among harmless models**: what stands at its place in the end is
what generating it alone leaves there. -/
theorem agreesAt_of_generateEach_append {schema : Schema} {paths : List String}
    (halone : (Host.memory.generate schema (Path.join output schema.model.packageName)).run s₀ =
      (.ok paths, u))
    (hservice : s₀.service? configs filter path = .ok (some schema)) (hbelow : schema.StaysBelow)
    {before after : List String} (hpaths : ∀ found ∈ before ++ path :: after, IsInput s₀.here found)
    (hharmless : ∀ other ∈ before ++ after,
      Harmless s₀ configs filter schema.model.packageName other)
    (hbeside : Beside (Path.names s₀.here (Path.join output schema.model.packageName)) s₀ s)
    {total done : Nat} {t t' : Tally}
    (h : (generateEach Host.memory configs filter output total done (before ++ path :: after) t).run
      s = (t', s')) :
    AgreesAt (Path.names s₀.here (Path.join output schema.model.packageName)) u s' := by
  have hpackage := isWithin_packageName hservice
  -- up to the model of the service, the run stays beside the place of its package
  induction before generalizing s t done with
  | nil =>
    obtain ⟨s₁, r, s₂, t₂, s₃, hsay, hone, henter, hrest⟩ := generateEach_cons h
    have hfirst := hbeside.trans (hsay.beside _)
    obtain ⟨s₂', hone', hagree⟩ := exists_generateOne_of_agreesAt hfirst.input
      (hpaths path List.mem_cons_self) hservice hbelow halone hfirst.agrees
    rw [hone'] at hone
    obtain ⟨rfl, rfl⟩ := Prod.mk.inj hone
    have hinput := hfirst.input.trans
      ((sameInput_of_generateOne hone').trans (henter.beside []).input)
    have hafter : ∀ other ∈ after, IsInput s₀.here other := fun other hother =>
      hpaths other (List.mem_cons_of_mem _ hother)
    have hlater := agreesAt_of_generateEach hpackage (hinput.here ▸ hafter)
      (fun other hother => (hharmless other hother).of_sameInput hinput (hafter other hother)) hrest
    rw [hinput.here] at hlater
    exact (hagree.trans (henter.beside _).agrees).trans hlater
  | cons other before ih =>
    have hother : IsInput s₀.here other := hpaths other List.mem_cons_self
    obtain ⟨t₂, s₃, hfirst, hrest⟩ := beside_of_generateEach_cons hpackage
      (hbeside.agrees.here.symm ▸ hother)
      ((hharmless other List.mem_cons_self).of_sameInput hbeside.input hother) h
    rw [hbeside.agrees.here] at hfirst
    exact ih (fun found hfound => hpaths found (List.mem_cons_of_mem _ hfound))
      (fun found hfound => hharmless found (List.mem_cons_of_mem _ hfound))
      (hbeside.trans hfirst) hrest

/-! ## Commands -/

/-- A service that is generated by itself. -/
theorem exists_generate_of_runGenerate {config? : Option String}
    (hthere : ∀ path, config? = some path → (s.read? path).isSome = true)
    (h : (runGenerate Host.memory path config? none output).run.run s = (.ok (), s')) :
    ∃ model config schema paths s₁ s₂, modelOf none (s.read? path) = .ok model ∧
      s.configAt config? = .ok config ∧ Schema.standard model config = .ok schema ∧
      SameDisk s s₁ ∧ (Host.memory.generate schema output).run s₁ = (.ok paths, s₂) ∧
      SameDisk s₂ s' := by
  unfold runGenerate at h
  obtain ⟨_, s₁, hsay, h⟩ := run_bind_eq_ok h
  obtain ⟨model, s₂, hmodel, h⟩ := run_bind_eq_ok h
  obtain ⟨config, s₃, hconfig, h⟩ := run_bind_eq_ok h
  obtain ⟨_, s₄, hsay', h⟩ := run_bind_eq_ok h
  obtain ⟨paths, s₅, hgenerate, h⟩ := run_bind_eq_ok h
  have hdisk := sameDisk_of_say hsay
  rw [run_loadModel, hdisk.read?] at hmodel
  obtain ⟨hmodel', rfl⟩ := Prod.mk.inj hmodel
  rw [run_loadConfig _ (by simpa only [hdisk.read?] using hthere), hdisk.configAt] at hconfig
  obtain ⟨hconfig', rfl⟩ := Prod.mk.inj hconfig
  have hdisk' := sameDisk_of_say hsay'
  rw [run_generateService] at hgenerate
  cases hschema : Schema.standard model config with
  | error e =>
    rw [hschema] at hgenerate
    cases hgenerate
  | ok schema =>
    rw [hschema] at hgenerate
    obtain ⟨hpaths, rfl⟩ := Prod.mk.inj hgenerate
    refine ⟨model, config, schema, paths, s₄, _, mapError_eq_ok hmodel', hconfig', hschema,
      hdisk.trans hdisk', Prod.ext (mapError_eq_ok hpaths) rfl, ?_⟩
    have hsaid := Memory.sameDisk_sayAll (["", "✓ Generation complete!", "", "Generated files:"] ++
      paths.map ("  📄 " ++ ·)) ((Host.memory.generate schema output).run s₄).2
    obtain rfl := (Prod.mk.inj h).2
    exact hsaid

/-- What becomes of a directory with models. -/
theorem exists_generateEach_of_runGenerateAll (configs : Option String)
    (filter : Option (List String)) (output : String) {models : String} {paths : List String}
    (hfound : ((discover Host.memory models).run.run s).1 = .ok paths) (hpaths : paths ≠ []) :
    ∃ s₁ t s₂ s', SameDisk s s₁ ∧
      (generateEach Host.memory configs filter output paths.length 0 paths {}).run s₁ = (t, s₂) ∧
      SameDisk s₂ s' ∧
      (runGenerateAll Host.memory models configs filter output).run.run s = (.ok (), s') := by
  obtain ⟨s₁, hsay⟩ : ∃ s₁, (Host.memory.say
    ("→ Scanning directory for models: " ++ models)).run s = ((), s₁) := ⟨_, rfl⟩
  have hdisk : SameDisk s s₁ := by
    cases hsay
    exact ⟨rfl, rfl⟩
  have hfound' : (discover Host.memory models).run.run s₁ = (.ok paths, s₁) := by
    rw [run_discover] at hfound ⊢
    rw [← hfound]
    cases hsay
    rfl
  obtain ⟨t, s₂, heach⟩ : ∃ t s₂, (generateEach Host.memory configs filter output paths.length 0
    paths {}).run s₁ = (t, s₂) := ⟨_, _, rfl⟩
  refine ⟨s₁, t, s₂, ((Host.memory.sayAll (tallySummary t output)).run s₂).2, hdisk, heach,
    Memory.sameDisk_sayAll _ s₂, ?_⟩
  unfold runGenerateAll
  rw [run_lift_bind, hsay, run_bind, hfound']
  simp only
  rw [if_neg (by simpa using hpaths), run_lift_bind, heach]
  rfl

/-- The service of a model that is read and wanted. -/
theorem service?_of_parts {model : ServiceModel} {config : Config} {schema : Schema}
    (hmodel : modelOf none (s.read? path) = .ok model) (hwanted : isWanted model filter = true)
    (hconfig : s.configAt (s.configPath? configs model) = .ok config)
    (hschema : Schema.standard model config = .ok schema) :
    s.service? configs filter path = .ok (some schema) := by
  unfold Memory.service?
  rw [hmodel]
  simp only [hwanted, if_true, hconfig, hschema]

/-- **Services are generated independently.** When every service below a directory is generated,
what stands at the place of a service in the end is what generating it alone leaves there, whatever
the other models are and whether they fail. The directory of its package must be its own, and no
resource may be named by a path. The other models must nest finitely; the recursions over them are
not cut short then. -/
theorem generateAll_keeps_service {models : String} {before after : List String}
    (hfound : ((discover Host.memory models).run.run s).1 = .ok (before ++ path :: after))
    {model : ServiceModel} (hmodel : modelOf none (s.read? path) = .ok model)
    (hwanted : isWanted model filter = true)
    (halone : (runGenerate Host.memory path ((serviceConfig Host.memory configs model).run s).1 none
      (Path.join output model.packageName)).run.run s = (.ok (), u))
    (hbelow : ∀ found ∈ before ++ path :: after, ∀ schema,
      s.service? configs filter found = .ok (some schema) → schema.StaysBelow)
    (hapart : ∀ other ∈ before ++ after, ∀ schema,
      s.service? configs filter other = .ok (some schema) →
        PackagesApart model.packageName schema.model.packageName)
    (hnests : ∀ other ∈ before ++ after, s.NestsFinitely configs filter other) :
    (∀ other ∈ before ++ after, s.RecursesFreely configs filter other) ∧
      ∃ s', (runGenerateAll Host.memory models configs filter output).run.run s = (.ok (), s') ∧
        s'.get? (Path.join output model.packageName) =
          u.get? (Path.join output model.packageName) := by
  refine ⟨fun other hother => (hnests other hother).recursesFreely, ?_⟩
  rw [run_serviceConfig] at halone
  obtain ⟨model', config, schema, paths, a, a', hmodel', hconfig, hschema, hdisk, hrun, hdisk'⟩ :=
    exists_generate_of_runGenerate (fun path hpath => (Option.filter_eq_some_iff.mp hpath).2) halone
  obtain rfl : model = model' := Except.ok.inj (hmodel.symm.trans hmodel')
  obtain ⟨index, rfl⟩ := Schema.build_eq_ok hschema
  have hservice := service?_of_parts hmodel hwanted hconfig hschema
  have hpaths := isInput_of_discover hfound
  have hmem : path ∈ before ++ path :: after := List.mem_append_right before List.mem_cons_self
  obtain ⟨b, t, b', s', hb, heach, hb', hall⟩ := exists_generateEach_of_runGenerateAll configs
    filter output hfound (List.ne_nil_of_mem hmem)
  refine ⟨s', hall, ?_⟩
  have hinput := (hdisk.beside []).input
  have hharmless : ∀ other ∈ before ++ after,
      Harmless a configs filter model.packageName other := by
    intro other hother
    have hfound : other ∈ before ++ path :: after := by
      rcases List.mem_append.mp hother with hother | hother
      · exact List.mem_append_left _ hother
      · exact List.mem_append_right _ (List.mem_cons_of_mem path hother)
    exact Harmless.of_sameInput (fun schema hservice => ⟨hbelow other hfound schema hservice,
      hapart other hother schema hservice⟩) hinput (hpaths other hfound)
  have hagree := agreesAt_of_generateEach_append hrun
    ((hinput.service? (hpaths path hmem)).trans hservice) (hbelow path hmem _ hservice)
    (hdisk.here.symm ▸ hpaths) hharmless ((hdisk.symm.trans hb).beside _) heach
  have hend := ((((hdisk'.symm).beside _).agrees).trans hagree).trans (hb'.beside _).agrees
  have hhere : a.here = u.here := by
    rw [hdisk'.here, (Memory.sameInput_of_generate hrun).here]
  rw [hhere] at hend
  exact hend.get?

end

/-- What holds of a service that is found can be decided. -/
instance decidableForallFound {ε α : Type} {p : α → Prop} [DecidablePred p]
    (found : Except ε (Option α)) : Decidable (∀ a, found = .ok (some a) → p a) :=
  match found with
  | .ok (some a) => decidable_of_iff (p a)
    ⟨fun h b heq => by
      cases heq
      exact h, fun h => h a rfl⟩
  | .ok none => isTrue fun a h => by cases h
  | .error _ => isTrue fun a h => by cases h

/-- What is left when the first part is known. -/
theorem eq_of_fst {α β : Type} {p : α × β} {a : α} (h : p.1 = a) : p = (a, p.2) := by
  rw [← h]

/-- Two models: a service without operations, and one that fails at a tree in a tree. -/
def besideTrees (serviceId : String) : Memory where
  files := .directory [
    ("models", .directory [
      ("first.json", .file ("\x7b\"metadata\":\x7b\"serviceId\":\"" ++ serviceId ++ "\"\x7d\x7d")),
      ("trees.json", .file ("\x7b\"metadata\":\x7b\"serviceId\":\"Trees\"\x7d," ++
        "\"operations\":\x7b\"CreateTree\":\x7b\"input\":\x7b\"shape\":\"Tree\"\x7d\x7d\x7d," ++
        "\"shapes\":\x7b\"Tree\":\x7b\"type\":\"structure\"," ++
        "\"members\":\x7b\"next\":\x7b\"shape\":\"Tree\"\x7d\x7d\x7d\x7d\x7d"))]),
    ("out", .empty)]

/-- Queues are generated beside trees as they are alone. -/
theorem generateAll_keeps_queues : ∃ s₁ s',
    (runGenerate Host.memory "models/first.json" none none "out/queues").run.run
        (besideTrees "Queues") = (.ok (), s₁) ∧
      (runGenerateAll Host.memory "models" none none "out").run.run (besideTrees "Queues") =
        (.ok (), s') ∧
      s'.get? "out/queues" = s₁.get? "out/queues" := by
  have hout : Path.join "out" (ServiceModel.finish (.new "Queues")).packageName = "out/queues" := by
    decide +kernel
  have halone := eq_of_fst (show ((runGenerate Host.memory "models/first.json" none none
    "out/queues").run.run (besideTrees "Queues")).1 = .ok () by decide +kernel)
  have hfound : ((discover Host.memory "models").run.run (besideTrees "Queues")).1 =
      .ok ([] ++ "models/first.json" :: ["models/trees.json"]) := by decide +kernel
  have hmodel : modelOf none ((besideTrees "Queues").read? "models/first.json") =
      .ok (.finish (.new "Queues")) := by decide +kernel
  have hqueues : ∀ schema, (besideTrees "Queues").service? none none "models/first.json" =
      .ok (some schema) → schema.StaysBelow := by decide +kernel
  -- trees have no lists and no maps, so any size decreases along their references
  have htrees : ∀ schema, (besideTrees "Queues").service? none none "models/trees.json" =
      .ok (some schema) → schema.StaysBelow ∧
        PackagesApart (ServiceModel.finish (.new "Queues")).packageName schema.model.packageName ∧
        ∀ shape ∈ schema.model.shapes.values, shape.isStructure = false →
          ∀ reference ∈ shape.references, (schema.model.shape? reference).all fun t =>
            (if t.isStructure then 0 else 1) < if shape.isStructure then 0 else 1 := by
    decide +kernel
  have hnests : (besideTrees "Queues").NestsFinitely none none "models/trees.json" := by
    have hsmithy : (besideTrees "Queues").smithyAt? "models/trees.json" = none := by decide +kernel
    constructor
    case resources =>
      intro d hd
      rw [hsmithy] at hd
      cases hd
    case parts =>
      intro schema hservice
      exact ServiceModel.partsAcyclic_of_size _ (htrees schema hservice).2.2
  have hkeeps := @generateAll_keeps_service (besideTrees "Queues") _ none none "out" _ _ _ _ _ _
    hfound _ hmodel rfl (by rw [hout]; exact halone)
    (by simpa using ⟨hqueues, fun schema h => (htrees schema h).1⟩)
    (by simpa using fun schema h => (htrees schema h).2.1) (by simpa using hnests)
  rw [hout] at hkeeps
  obtain ⟨-, s', hall, hkept⟩ := hkeeps
  exact ⟨_, s', halone, hall, hkept⟩

/-- Services whose identifiers differ in blanks and case share a directory: what a failing one
leaves is found among the files of the other one. -/
theorem generateAll_mixes_packages : ∃ s₁ s',
    ((discover Host.memory "models").run.run (besideTrees "Tree s")).1 =
        .ok ["models/first.json", "models/trees.json"] ∧
      modelOf none ((besideTrees "Tree s").read? "models/first.json") =
        .ok (.finish (.new "Tree s")) ∧
      (ServiceModel.finish (.new "Tree s")).packageName = "trees" ∧
      (besideTrees "Tree s").filesBelow "out" = [] ∧
      (runGenerate Host.memory "models/first.json" none none "out/trees").run.run
        (besideTrees "Tree s") = (.ok (), s₁) ∧
      (runGenerateAll Host.memory "models" none none "out").run.run (besideTrees "Tree s") =
        (.ok (), s') ∧
      s₁.filesBelow "out/trees" = ["out/trees/apis/v1alpha1/types.go"] ∧
      s'.filesBelow "out/trees" =
        ["out/trees/apis/v1alpha1/tree.go", "out/trees/apis/v1alpha1/types.go"] := by
  have halone := eq_of_fst (show ((runGenerate Host.memory "models/first.json" none none
    "out/trees").run.run (besideTrees "Tree s")).1 = .ok () by decide +kernel)
  have hall := eq_of_fst (show ((runGenerateAll Host.memory "models" none none "out").run.run
    (besideTrees "Tree s")).1 = .ok () by decide +kernel)
  exact ⟨_, _, by decide +kernel, by decide +kernel, by decide +kernel, by decide +kernel,
    halone, hall, by decide +kernel, by decide +kernel⟩

end Command

end ResourceGen
