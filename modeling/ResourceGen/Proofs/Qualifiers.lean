import ResourceGen.Proofs.ContainerTypes
import ResourceGen.Proofs.SourceFiles

/-!
# Packages in the code of programs

The code of a program refers to packages by the names that stand before a dot, and the packages that
it is said to need are told from its statements. The two are not the same. A list or map needs the
package of timestamps as soon as there is a timestamp anywhere in its type
(`FieldType.containsDateTime`), but the type as it is written does not show the types of keys
(`FieldType.showsDateTime`). The types that hide their timestamps in this way are all that parts
what is needed from what is referred to.

Results:
* `Program.mem_packages_iff`: a package is needed when the code refers to it, or for a hidden
  timestamp.
* `vars_of_assembled`: the variables of a program are those given to it and its own.
* `not_hidesTime_of_assembled`: where no timestamps are keys of maps, programs hide none.
-/

namespace ResourceGen

/-! ## Timestamps in types -/

namespace FieldType

/-- Whether there is a timestamp in the type as it is written, with texts for the keys of maps. -/
def showsDateTime : FieldType → Bool
  | dateTime => true
  | list element => element.showsDateTime
  | map _ value => value.showsDateTime
  | _ => false

/-- Whether all timestamps in the type are in keys of maps, and there are some. -/
def hidesDateTime (t : FieldType) : Bool := t.containsDateTime && !t.showsDateTime

/-- The names of the structures in the type as it is written. -/
def structures : FieldType → List String
  | .structure name => [name]
  | .list element => element.structures
  | .map _ value => value.structures
  | _ => []

theorem containsDateTime_of_showsDateTime : ∀ {t : FieldType}, t.showsDateTime = true →
    t.containsDateTime = true
  | dateTime, _ => rfl
  | list _, h => by
    rw [showsDateTime] at h
    rw [containsDateTime]
    exact containsDateTime_of_showsDateTime h
  | map _ _, h => by
    rw [showsDateTime] at h
    rw [containsDateTime, containsDateTime_of_showsDateTime h, Bool.or_true]

theorem containsDateTime_iff {t : FieldType} :
    t.containsDateTime = true ↔ t.showsDateTime = true ∨ t.hidesDateTime = true := by
  have hshows := containsDateTime_of_showsDateTime (t := t)
  rw [hidesDateTime]
  cases hs : t.showsDateTime <;> simp_all

@[simp]
theorem containsDateTime_renamed (f : String → String) (t : FieldType) :
    (t.renamed f).containsDateTime = t.containsDateTime := by
  induction t with
  | list _ ih => simp [renamed, containsDateTime, ih]
  | map _ _ ihk ihv => simp [renamed, containsDateTime, ihk, ihv]
  | _ => rfl

@[simp]
theorem showsDateTime_renamed (f : String → String) (t : FieldType) :
    (t.renamed f).showsDateTime = t.showsDateTime := by
  induction t with
  | list _ ih => simp [renamed, showsDateTime, ih]
  | map _ _ _ ih => simp [renamed, showsDateTime, ih]
  | _ => rfl

theorem structures_renamed (f : String → String) (t : FieldType) :
    (t.renamed f).structures = t.structures.map f := by
  induction t with
  | list _ ih => simp [renamed, structures, ih]
  | map _ _ _ ih => simp [renamed, structures, ih]
  | _ => rfl

end FieldType

namespace Code

/-! ## Qualifiers of types -/

theorem qualifier_eq_nil {name : String} (h : '.' ∉ name.toList) : qualifier name = [] := by
  simp [qualifier, h]

theorem qualifier_dot {package : String} (h : '.' ∉ package.toList) (name : String) :
    qualifier (package ++ "." ++ name) = [package] := by
  have htake : (package.toList ++ ('.' :: name.toList)).takeWhile (· ≠ '.') = package.toList := by
    rw [List.takeWhile_append_of_pos, List.takeWhile_cons_of_neg (by simp), List.append_nil]
    intro c hc
    have hne : c ≠ '.' := fun he => h (he ▸ hc)
    simpa using hne
  have hlist : (package ++ "." ++ name).toList = package.toList ++ ('.' :: name.toList) := by simp
  rw [qualifier, hlist, htake]
  simp

/-- A field type refers to the package of timestamps where it shows one, and else to what its
structures refer to. -/
theorem mem_qualifiers_ofField {structs time x : String} {t : FieldType}
    (h : ∀ name ∈ t.structures, x ∉ qualifier (structs ++ name)) :
    x ∈ (TypeExpr.ofField structs time t).qualifiers ↔
      x ∈ qualifier time ∧ t.showsDateTime = true := by
  have hplain (name : String) (hname : '.' ∉ name.toList) : x ∉ qualifier name := by
    simp [qualifier_eq_nil hname]
  induction t with
  | list _ ih => exact ih h
  | map _ _ _ ih => exact ih h
  | «structure» name =>
    simpa [TypeExpr.ofField, TypeExpr.qualifiers, FieldType.showsDateTime] using
      h name (by simp [FieldType.structures])
  | dateTime => simp [TypeExpr.ofField, TypeExpr.qualifiers, FieldType.showsDateTime]
  | _ =>
    simpa [TypeExpr.ofField, TypeExpr.qualifiers, FieldType.showsDateTime] using
      hplain _ (by decide)

variable {d : Direction} {scalars : List String} {x : String}

theorem qualifier_timeType (d : Direction) : qualifier (timeType d) = [timeAlias d] := by
  cases d <;> decide

theorem qualifier_structs (d : Direction) (name : String) :
    qualifier (structsAlias d ++ "." ++ name) = [structsAlias d] :=
  qualifier_dot (by cases d <;> decide) name

theorem qualifiers_coreType (name : String) : (coreType name).qualifiers = [coreAlias] :=
  qualifier_dot (by decide) name

theorem mem_qualifiers_fieldType (hx : x ≠ structsAlias d) (t : FieldType) :
    x ∈ (fieldType d t).qualifiers ↔ x = timeAlias d ∧ t.showsDateTime = true := by
  rw [fieldType, mem_qualifiers_ofField, qualifier_timeType, List.mem_singleton]
  intro name _
  rw [qualifier_structs]
  simpa using hx

theorem qualifiers_scalarType (d : Direction) (t : ScalarType) :
    (scalarType d t).qualifiers = timePackages d (t = .timestamp) := by
  cases t <;> cases d <;> decide

/-! ## Qualifiers of expressions -/

theorem eq_root_of_mem_qualifiers {a : Accessor} (h : x ∈ a.qualifiers) : x = a.root := by
  unfold Accessor.qualifiers at h
  split at h
  · exact List.mem_singleton.mp h
  · cases h

theorem not_mem_qualifiers {a : Accessor} (hx : x ≠ a.root) : x ∉ a.qualifiers :=
  fun h => hx (eq_root_of_mem_qualifiers h)

/-- A guard refers to no package but through its source. -/
theorem eq_root_of_mem_qualifiers_presence {a : Accessor} (h : x ∈ (presence a).qualifiers) :
    x = a.root := by
  unfold presence Expr.isSet at h
  split at h
  · simp only [Expr.qualifiers, List.append_nil, List.mem_append] at h
    rcases h with h | h
    · exact eq_root_of_mem_qualifiers (a := metadataPart a) h
    · exact eq_root_of_mem_qualifiers h
  · simp only [Expr.qualifiers, List.append_nil] at h
    exact eq_root_of_mem_qualifiers h

theorem mem_qualifiers_wrappedTime {a : Accessor} (hx : x ≠ a.root) :
    x ∈ (wrappedTime a).qualifiers ↔ x = metav1Alias := by
  have hroot := not_mem_qualifiers hx
  have htime : qualifier (timeType .inbound) = [metav1Alias] := qualifier_timeType .inbound
  simp [wrappedTime, Expr.qualifiers, TypeExpr.qualifiers, htime, hroot]

/-- A scalar that is read refers to a package only where a timestamp is wrapped. -/
theorem mem_qualifiers_scalarValue {a : Accessor} (hx : x ≠ a.root) (t : ScalarType) :
    x ∈ (scalarValue d a t).qualifiers ↔ x = metav1Alias ∧ d = .inbound ∧ t = .timestamp := by
  cases t with
  | timestamp =>
    cases d with
    | outbound =>
      have htime : x ∉ (a.field "Time").qualifiers := not_mem_qualifiers hx
      simpa [scalarValue, Expr.qualifiers] using htime
    | inbound => simpa [scalarValue] using mem_qualifiers_wrappedTime hx
  | _ => simpa [scalarValue, Expr.qualifiers] using not_mem_qualifiers hx

theorem qualifiers_element (x : String) : (element scalars x).qualifiers = [] := by
  unfold element
  split <;> rfl

/-! ## Qualifiers of statements -/

theorem qualifiersOf_append (xs ys : List Stmt) :
    qualifiersOf (xs ++ ys) = qualifiersOf xs ++ qualifiersOf ys := by
  induction xs with
  | nil => rfl
  | cons s rest ih => simp [qualifiersOf, ih]

theorem mem_qualifiers_setMetadata {dest source : Accessor} {var type : String}
    (hdest : x ≠ dest.root) (hsource : x ≠ source.root) :
    x ∈ qualifiersOf (setMetadata dest source var type) ↔ x = coreAlias := by
  have hroot := not_mem_qualifiers hsource
  have hplace := not_mem_qualifiers hdest
  have hmade : x ∈ qualifiersOf (makeMetadata dest) → x = coreAlias := by
    unfold makeMetadata Accessor.parent?
    split
    · simp [qualifiersOf]
    · rename_i metadata hparent
      have hmetadata : x ∉ metadata.qualifiers := by
        split at hparent
        · cases hparent
        · cases hparent
          exact not_mem_qualifiers hdest
      simp [qualifiersOf, Stmt.qualifiers, Expr.qualifiers, hmetadata, qualifiers_coreType]
  have hvar : (Accessor.var var).qualifiers = [] := rfl
  rw [setMetadata, qualifiersOf_append, List.mem_append]
  simp only [qualifiersOf, Stmt.qualifiers, Expr.qualifiers, Expr.var, qualifiers_coreType, hvar,
    List.append_nil, List.mem_append, List.mem_singleton, hplace, hroot, or_false]
  exact ⟨fun h => h.elim hmade id, Or.inr⟩

/-- **An assignment refers to the packages that it needs**, besides its variables. -/
theorem mem_qualifiers_assignment {dest source : Accessor} (hdest : x ≠ dest.root)
    (hsource : x ≠ source.root) (kind : AssignKind) :
    x ∈ qualifiersOf (assignment d dest source kind) ↔ x ∈ assignmentPackages d kind := by
  have hroot := not_mem_qualifiers hsource
  have hplace := not_mem_qualifiers hdest
  cases d with
  | outbound =>
    have hvalue : x ∉ (requestValue source kind).qualifiers := by
      cases kind with
      | scalar t => simp [requestValue, mem_qualifiers_scalarValue hsource]
      | value => exact hroot
      | resourceArn | ownerAccountId =>
        have hstring : qualifier "string" = [] := qualifier_eq_nil (by decide)
        simpa [requestValue, Expr.qualifiers, TypeExpr.qualifiers, hstring] using hroot
    have hset : x ∉ (setRequest dest (requestValue source kind)).qualifiers := by
      unfold setRequest Accessor.parent?
      split
      · rename_i object name hparent _
        have hobject : object.root = dest.root := by
          split at hparent
          · cases hparent
          · cases hparent
            rfl
        simp [Stmt.qualifiers, Expr.beforeDot, hobject, hdest, hvalue]
      · simp [Stmt.qualifiers, Expr.qualifiers, hplace, hvalue]
    simp [assignment, qualifiersOf, hset, assignmentPackages]
  | inbound =>
    cases kind with
    | scalar t =>
      cases t with
      | timestamp =>
        simp [assignment, qualifiersOf, Stmt.qualifiers, Expr.qualifiers, hplace,
          mem_qualifiers_wrappedTime hsource, assignmentPackages]
      | _ =>
        simp [assignment, qualifiersOf, Stmt.qualifiers, Expr.qualifiers, hplace,
          hroot, assignmentPackages]
    | value =>
      simp [assignment, qualifiersOf, Stmt.qualifiers, Expr.qualifiers, hplace,
        hroot, assignmentPackages]
    | resourceArn | ownerAccountId =>
      simp [assignment, mem_qualifiers_setMetadata hdest hsource, assignmentPackages]

end Code

namespace Statement

mutual

/-- The types of the elements of the lists and maps that a statement makes. -/
def containers : Statement → List FieldType
  | newList _ t | newMap _ t => [t]
  | ifPresent _ body | forEachElement _ _ body | forEachEntry _ _ _ body
  | ifSingleElement _ _ body => containersOf body
  | newStruct _ _ | letScalar _ _ _ | append _ _ | insert _ _ _ | assign _ _ _ => []

/-- The types of the elements of the lists and maps that statements make. -/
def containersOf : List Statement → List FieldType
  | [] => []
  | s :: rest => containers s ++ containersOf rest

end

theorem containersOf_append (xs ys : List Statement) :
    containersOf (xs ++ ys) = containersOf xs ++ containersOf ys := by
  induction xs with
  | nil => rfl
  | cons s rest ih => simp [containersOf, ih]

end Statement

namespace Code

open Statement (containers containersOf vars varsOf)

variable {d : Direction} {scalars : List String} {x : String}

theorem mem_timePackages {needed : Bool} :
    x ∈ timePackages d needed ↔ x = timeAlias d ∧ needed = true := by
  cases needed <;> simp [timePackages]

mutual

theorem mem_statementPackages_iff (hx : x ≠ structsAlias d) (scalars : List String) :
    ∀ {s : Statement}, x ∉ vars s →
      (x ∈ statementPackages d s ↔ x ∈ qualifiersOf (statement d scalars s).1 ∨
        x = timeAlias d ∧ ∃ t ∈ containers s, t.hidesDateTime = true)
  | .newStruct _ typeName, _ => by
    simp [statementPackages, statement, qualifiersOf, Stmt.qualifiers, Expr.qualifiers,
      TypeExpr.qualifiers, qualifier_structs, hx, containers]
  | .newList _ t, _ => by
    have hlist : x ∈ (fieldType d (.list t)).qualifiers ↔
        x = timeAlias d ∧ t.showsDateTime = true := mem_qualifiers_fieldType hx (.list t)
    simp [statementPackages, statement, qualifiersOf, Stmt.qualifiers, Expr.qualifiers, hlist,
      containers, mem_timePackages, FieldType.containsDateTime_iff, and_or_left]
  | .newMap _ t, _ => by
    have hmap : x ∈ (fieldType d (.map .string t)).qualifiers ↔
        x = timeAlias d ∧ t.showsDateTime = true := mem_qualifiers_fieldType hx (.map .string t)
    simp [statementPackages, statement, qualifiersOf, Stmt.qualifiers, Expr.qualifiers, hmap,
      containers, mem_timePackages, FieldType.containsDateTime_iff, and_or_left]
  | .letScalar y source t, h => by
    rw [vars, List.mem_pair, not_or] at h
    have hvar : (Accessor.var y).qualifiers = [] := rfl
    have hvalue : x ∈ (scalarValue d source t).qualifiers →
        x ∈ timePackages d (t = .timestamp) := by
      rw [mem_qualifiers_scalarValue h.2, mem_timePackages]
      rintro ⟨rfl, rfl, rfl⟩
      exact ⟨rfl, rfl⟩
    simpa [statementPackages, statement, qualifiersOf, Stmt.qualifiers, Expr.qualifiers, Expr.var,
      hvar, qualifiers_scalarType, containers] using hvalue
  | .ifPresent source body, h => by
    rw [vars, List.mem_cons, not_or] at h
    have hguard : x ∉ (presence source).qualifiers :=
      fun hmem => h.1 (eq_root_of_mem_qualifiers_presence hmem)
    rw [statementPackages, containers, mem_statementsPackages_iff hx scalars h.2]
    simp [statement, qualifiersOf, Stmt.qualifiers, hguard]
  | .forEachElement source item body, h => by
    rw [vars, List.mem_cons, List.mem_cons, not_or, not_or] at h
    have hsource := not_mem_qualifiers h.1
    rw [statementPackages, containers, mem_statementsPackages_iff hx scalars h.2.2]
    simp [statement, qualifiersOf, Stmt.qualifiers, Expr.qualifiers, hsource]
  | .forEachEntry source key value body, h => by
    rw [vars, List.mem_cons, List.mem_cons, List.mem_cons, not_or, not_or, not_or] at h
    have hsource := not_mem_qualifiers h.1
    rw [statementPackages, containers, mem_statementsPackages_iff hx scalars h.2.2.2]
    simp [statement, qualifiersOf, Stmt.qualifiers, Expr.qualifiers, hsource]
  | .ifSingleElement source item body, h => by
    rw [vars, List.mem_cons, List.mem_cons, not_or, not_or] at h
    have hsource := not_mem_qualifiers h.1
    rw [statementPackages, containers, mem_statementsPackages_iff hx scalars h.2.2]
    simp [statement, qualifiersOf, Stmt.qualifiers, Expr.qualifiers, hsource]
  | .append list y, _ => by
    have hvar : (Accessor.var list).qualifiers = [] := rfl
    simp [statementPackages, statement, qualifiersOf, Stmt.qualifiers, Expr.qualifiers, Expr.var,
      hvar, qualifiers_element, containers]
  | .insert map key y, _ => by
    have hvar (z : String) : (Accessor.var z).qualifiers = [] := rfl
    simp [statementPackages, statement, qualifiersOf, Stmt.qualifiers, Expr.qualifiers, Expr.var,
      hvar, qualifiers_element, containers]
  | .assign dest source kind, h => by
    rw [vars, List.mem_pair, not_or] at h
    simp [statementPackages, statement, containers, mem_qualifiers_assignment h.1 h.2]

/-- **A block of code refers to the packages that it needs**, but for the package of timestamps
when only hidden ones need it. -/
theorem mem_statementsPackages_iff (hx : x ≠ structsAlias d) (scalars : List String) :
    ∀ {block : List Statement}, x ∉ varsOf block →
      (x ∈ statementsPackages d block ↔ x ∈ qualifiersOf (statements d scalars block).1 ∨
        x = timeAlias d ∧ ∃ t ∈ containersOf block, t.hidesDateTime = true)
  | [], _ => by simp [statementsPackages, statements, qualifiersOf, containersOf]
  | s :: rest, h => by
    rw [varsOf, List.mem_append, not_or] at h
    rw [statementsPackages, statements_cons, qualifiersOf_append, containersOf, List.mem_append,
      mem_statementPackages_iff hx scalars h.1, mem_statementsPackages_iff hx _ h.2]
    simp only [List.mem_append, or_and_right, exists_or, and_or_left]
    exact or_or_or_comm

end

theorem eq_of_mem_assignmentPackages {kind : AssignKind} (h : x ∈ assignmentPackages d kind) :
    x = timeAlias d ∨ x = coreAlias := by
  unfold assignmentPackages at h
  split at h
  · exact Or.inl (List.mem_singleton.mp h)
  · exact Or.inr (List.mem_singleton.mp h)
  · exact Or.inr (List.mem_singleton.mp h)
  · cases h

mutual

theorem eq_of_mem_statementPackages : ∀ {s : Statement}, x ∈ statementPackages d s →
    x = timeAlias d ∨ x = coreAlias
  | .newList _ _, h | .newMap _ _, h | .letScalar _ _ _, h => by
    rw [statementPackages, mem_timePackages] at h
    exact Or.inl h.1
  | .assign _ _ kind, h => by
    rw [statementPackages] at h
    exact eq_of_mem_assignmentPackages h
  | .ifPresent _ body, h | .forEachElement _ _ body, h | .forEachEntry _ _ _ body, h
  | .ifSingleElement _ _ body, h => by
    rw [statementPackages] at h
    exact eq_of_mem_statementsPackages h
  | .newStruct _ _, h | .append _ _, h | .insert _ _ _, h => by
    rw [statementPackages] at h
    cases h

/-- Statements need the package of timestamps and that of shared types at most. -/
theorem eq_of_mem_statementsPackages : ∀ {block : List Statement}, x ∈ statementsPackages d block →
    x = timeAlias d ∨ x = coreAlias
  | [], h => by
    rw [statementsPackages] at h
    cases h
  | s :: rest, h => by
    rw [statementsPackages, List.mem_append] at h
    exact h.elim eq_of_mem_statementPackages eq_of_mem_statementsPackages

end

end Code

namespace Program

open Code (structsAlias timeAlias coreAlias qualifiersOf)

variable {p : Program} {x : String}

/-- The program makes a list or map whose type hides its timestamps. -/
def HidesTime (p : Program) : Prop :=
  ∃ t ∈ Statement.containersOf p.statements, t.hidesDateTime = true

/-- **A program needs the packages that its code refers to**, and the one of timestamps also for
those that it hides. -/
theorem mem_packages_iff (hx : x ≠ structsAlias p.direction) (hvars : x ∉ p.vars) :
    x ∈ p.packages ↔ x ∈ qualifiersOf p.toCode ∨ x = timeAlias p.direction ∧ p.HidesTime := by
  rw [packages, Dict.mem_sortedKeys, Code.mem_statementsPackages_iff hx [] hvars]
  rfl

theorem eq_of_mem_packages (h : x ∈ p.packages) : x = timeAlias p.direction ∨ x = coreAlias := by
  rw [packages, Dict.mem_sortedKeys] at h
  exact Code.eq_of_mem_statementsPackages h

end Program

/-! ## Variables -/

namespace Synthesizer

open Statement (vars varsOf)

variable {s : Synthesizer} {roots : List String} {p : Program} {x : String}

theorem vars_of_moves {d : Direction} (h : s.Moves d roots p) (hx : x ∈ p.vars) :
    x ∈ roots ∨ Temporary.IsTemporary x := by
  obtain ⟨ts, hts, rfl⟩ := h
  rcases Copier.vars_transfers hx with ⟨t, ht, rfl | rfl⟩ | h
  · exact Or.inl (hts t ht).roots.1
  · exact Or.inl (hts t ht).roots.2
  · exact Or.inr (Temporary.isTemporary_of_numberedFrom h)

/-- **The variables of a program** are those that are given to it and its own. -/
theorem vars_of_assembled {d : Direction} (h : s.Assembled roots d p) (hx : x ∈ p.vars) :
    x ∈ roots ∨ IsOwnVariable d x := by
  cases h with
  | transfers h =>
    refine (vars_of_moves h hx).imp_right fun htemp => ?_
    cases d <;> exact Or.inl htemp
  | @behindAttributes r member request spec ts hrequest hspec hts =>
    have hentries := vars_of_moves (x := x) (s.moves_attributeEntries r.spec.values spec)
    have hmore := vars_of_moves (s := s) (x := x) (d := .outbound) ⟨ts, hts, rfl⟩
    simp only [Program.vars, program, List.nil_append] at hentries hmore
    simp only [Program.vars, program, sendAttributes, Statement.varsOf_append, varsOf, vars,
      Copier.publish, List.append_nil, List.mem_append, List.mem_cons, List.not_mem_nil,
      or_false] at hx
    rcases hx with ((rfl | hx) | rfl | rfl) | hx
    · exact Or.inr (Or.inr rfl)
    · rcases hentries hx with hx | hx
      · rcases List.mem_pair.mp hx with rfl | rfl
        · exact Or.inr (Or.inr rfl)
        · exact Or.inl hspec
      · exact Or.inr (Or.inl hx)
    · exact Or.inl hrequest
    · exact Or.inr (Or.inr rfl)
    · exact (hmore hx).imp_right Or.inl
  | onlyElement hlist h =>
    simp only [Program.vars, varsOf, vars, List.append_nil, List.mem_cons] at hx
    rcases hx with rfl | rfl | hx
    · exact Or.inl hlist
    · exact Or.inr (Or.inr rfl)
    · rcases vars_of_moves h hx with hx | hx
      · exact (List.mem_cons.mp hx).elim (fun h => Or.inr (Or.inr h)) Or.inl
      · exact Or.inr (Or.inl hx)

end Synthesizer

/-! ## Keys of maps -/

namespace ServiceModel

variable {m : ServiceModel}

/-- No timestamps are keys of maps. -/
def PlainKeys (m : ServiceModel) : Prop :=
  ∀ s ∈ m.shapes.values, ∀ key value k type, s.kind = .map key value → m.shape? key = some k →
    m.shapeType k = .ok (some type) → type.containsDateTime = false

theorem hidesDateTime_of_typeWithin (hm : m.PlainKeys) {d : Nat} (hd : d ≤ m.shapes.size + 2)
    {s : Shape} (hs : s ∈ m.shapes.values) {type : FieldType}
    (h : m.typeWithin d s = .ok (some type)) : type.hidesDateTime = false := by
  induction d generalizing s type with
  | zero => cases h
  | succ d ih =>
    cases hk : s.kind with
    | list element =>
      obtain ⟨e, t, he, ht, rfl⟩ := (typeWithin_list_iff hk).mp h
      have helement := ih (by omega) (Dict.mem_values_of_get? he) ht
      exact helement
    | map key value =>
      obtain ⟨ks, vs, k, v, hks, hvs, hkt, hvt, rfl⟩ := (typeWithin_map_iff hk).mp h
      have hkey := hm s hs key value ks k hk hks (shapeType_of_typeWithin (by omega) hkt)
      have hvalue := ih (by omega) (Dict.mem_values_of_get? hvs) hvt
      simpa [FieldType.hidesDateTime, FieldType.containsDateTime, FieldType.showsDateTime, hkey]
        using hvalue
    | scalar t =>
      rw [typeWithin, hk] at h
      cases h
      cases t <;> rfl
    | «structure» members =>
      rw [typeWithin, hk] at h
      cases h
      rfl
    | unsupported =>
      rw [typeWithin, hk] at h
      cases h

/-- **Where no timestamps are keys of maps, types hide none.** -/
theorem hidesDateTime_of_shapeType (hm : m.PlainKeys) {s : Shape} (hs : s ∈ m.shapes.values)
    {type : FieldType} (h : m.shapeType s = .ok (some type)) : type.hidesDateTime = false :=
  hidesDateTime_of_typeWithin hm (Nat.le_refl _) hs h

end ServiceModel

namespace Copier

open Statement (containers containersOf)

variable {c : Copier}

theorem hidesDateTime_typeOf (t : FieldType) : (c.typeOf t).hidesDateTime = t.hidesDateTime := by
  simp [typeOf, FieldType.hidesDateTime]

theorem containersOf_copy_of_bind {l : Layout} {P : FieldType → Prop}
    (hl : ∀ (var : String) (source : Accessor) (n : Nat),
      ∀ u ∈ containersOf (c.bind var source l n).1, P u)
    (dest source : Accessor) (n : Nat) : ∀ u ∈ containersOf (c.copy dest source l n).1, P u := by
  intro u hu
  cases l with
  | scalar t =>
    rw [copy_scalar] at hu
    cases hu
  | _ =>
    rw [copy_of_ne_scalar _ _ _ (by simp)] at hu
    simp only [containersOf, containers, Statement.containersOf_append, publish,
      List.append_nil] at hu
    exact hl _ _ _ u hu

mutual

/-- Where no timestamps are keys of maps, copies hide none in the types of their lists and maps. -/
theorem containersOf_bind (hm : c.types.model.PlainKeys) : ∀ (l : Layout) {s : Shape},
    l.Unfolds c.types.model s → ∀ (var : String) (source : Accessor) (n : Nat),
      ∀ u ∈ containersOf (c.bind var source l n).1, u.hidesDateTime = false
  | .scalar type, s, _, var, source, n, u, hu => by
    rw [bind] at hu
    cases hu
  | .structure name parts, s, hl, var, source, n, u, hu => by
    rw [Layout.Unfolds] at hl
    obtain ⟨-, members, -, hparts⟩ := hl
    rw [bind, containersOf, containers, List.nil_append] at hu
    exact containersOf_bindMembers hm parts hparts var source n u hu
  | .list type l, s, hl, var, source, n, u, hu => by
    rw [Layout.Unfolds] at hl
    obtain ⟨element, e, -, he, htype, hl⟩ := hl
    simp only [bind, containersOf, containers, Statement.containersOf_append, List.append_nil,
      List.mem_append, List.mem_singleton] at hu
    rcases hu with rfl | hu
    · rw [hidesDateTime_typeOf]
      exact ServiceModel.hidesDateTime_of_shapeType hm (Dict.mem_values_of_get? he) htype
    · exact containersOf_bind hm l hl _ _ n u hu
  | .map type l, s, hl, var, source, n, u, hu => by
    rw [Layout.Unfolds] at hl
    obtain ⟨key, value, v, -, hv, htype, hl⟩ := hl
    simp only [bind, containersOf, containers, Statement.containersOf_append, List.append_nil,
      List.mem_append, List.mem_singleton] at hu
    rcases hu with rfl | hu
    · rw [hidesDateTime_typeOf]
      exact ServiceModel.hidesDateTime_of_shapeType hm (Dict.mem_values_of_get? hv) htype
    · exact containersOf_bind hm l hl _ _ n u hu

theorem containersOf_bindMembers (hm : c.types.model.PlainKeys) :
    ∀ (parts : List (String × Layout)) {fs : List (String × Shape)},
      Layout.UnfoldsMembers c.types.model parts fs → ∀ (var : String) (source : Accessor) (n : Nat),
        ∀ u ∈ containersOf (c.bindMembers var source parts n).1, u.hidesDateTime = false
  | [], _, _, var, source, n, u, hu => by
    rw [bindMembers] at hu
    cases hu
  | (wire, l) :: parts, f :: _, h, var, source, n, u, hu => by
    obtain ⟨-, hl, hparts⟩ := h
    rw [bindMembers_cons, Statement.containersOf_append, List.mem_append] at hu
    rcases hu with hu | hu
    · exact containersOf_copy_of_bind (containersOf_bind hm l hl) _ _ n u hu
    · exact containersOf_bindMembers hm parts hparts var source _ u hu

end

theorem containersOf_transfers (hm : c.types.model.PlainKeys) {roots : List String}
    {ts : List Transfer} (hts : ∀ t ∈ ts, t.Within c.types.model roots) (n : Nat) :
    ∀ u ∈ containersOf (c.transfers ts n), u.hidesDateTime = false := by
  induction ts generalizing n with
  | nil =>
    intro u hu
    cases hu
  | cons t ts ih =>
    intro u hu
    rw [transfers, Statement.containersOf_append, List.mem_append] at hu
    rcases hu with hu | hu
    · cases t with
      | copied dest source l =>
        obtain ⟨-, -, shape, -, hl⟩ := hts _ List.mem_cons_self
        exact containersOf_copy_of_bind (containersOf_bind hm l hl) dest source n u hu
      | handed dest source kind => cases hu
    · exact ih (fun t ht => hts t (List.mem_cons_of_mem _ ht)) _ u hu

end Copier

namespace Synthesizer

open Statement (containers containersOf)

variable {s : Synthesizer} {roots : List String} {p : Program}

theorem not_hidesTime_of_moves (hm : s.model.PlainKeys) {d : Direction} (h : s.Moves d roots p) :
    ¬ p.HidesTime := by
  obtain ⟨ts, hts, rfl⟩ := h
  rintro ⟨t, ht, hides⟩
  rw [Copier.containersOf_transfers (c := ⟨d, s.types⟩) hm hts 0 t ht] at hides
  cases hides

/-- **Where no timestamps are keys of maps, programs hide none.** -/
theorem not_hidesTime_of_assembled (hm : s.model.PlainKeys) {d : Direction}
    (h : s.Assembled roots d p) : ¬ p.HidesTime := by
  cases h with
  | transfers h => exact not_hidesTime_of_moves hm h
  | @behindAttributes r member request spec ts hrequest hspec hts =>
    have hentries := not_hidesTime_of_moves hm (s.moves_attributeEntries r.spec.values spec)
    have hmore := not_hidesTime_of_moves hm (d := .outbound) ⟨ts, hts, rfl⟩
    rintro ⟨t, ht, hides⟩
    simp only [program, sendAttributes, Statement.containersOf_append, containersOf, containers,
      Copier.publish, List.append_nil, List.mem_append, List.mem_singleton] at ht
    rcases ht with (rfl | ht) | ht
    · cases hides
    · exact hentries ⟨t, ht, hides⟩
    · exact hmore ⟨t, ht, hides⟩
  | onlyElement hlist h =>
    rintro ⟨t, ht, hides⟩
    rw [containersOf, containers, containersOf, List.append_nil] at ht
    exact not_hidesTime_of_moves hm h ⟨t, ht, hides⟩

end Synthesizer

end ResourceGen
