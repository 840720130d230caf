import Mathlib.Data.List.Nodup
import Mathlib.Tactic.Tauto
import ResourceGen.Program

/-!
# Variables of a program

A program introduces variables for its own use: those that hold a structure, list, map or scalar
until it is handed over, and those that loops and blocks give to their bodies. In a disciplined
program (`Program.Disciplined`) no two of them meet. A variable is mentioned only behind the
statement that introduces it and inside the same block (`Statement.Confined`), and one that holds a
value is handed over by one statement of its block, behind which nothing mentions it any more
(`Statement.HandedOver`). So no value is handed over before it is complete.

Results:
* `nodup_introducedOf`: what is introduced in a confined block are different variables.
* `confinedAll_append_of_introducedOf_eq_nil`, `confinedAll_guard_append`: blocks of which the one
  part does not see the variables of the other.
-/

namespace ResourceGen

namespace Statement

/-! ## Discipline -/

mutual

/-- The variables that a statement introduces, in order. -/
def introduced : Statement → List String
  | newStruct x _ | newList x _ | newMap x _ | letScalar x _ _ => [x]
  | ifPresent _ body => introducedOf body
  | forEachElement _ x body | ifSingleElement _ x body => x :: introducedOf body
  | forEachEntry _ key x body => key :: x :: introducedOf body
  | append _ _ | insert _ _ _ | assign _ _ _ => []

/-- The variables that statements introduce, in order. -/
def introducedOf : List Statement → List String
  | [] => []
  | s :: rest => introduced s ++ introducedOf rest

end

mutual

/-- The variables whose values a statement hands on, in order. -/
def published : Statement → List String
  | append _ x | insert _ _ x => [x]
  | assign _ source _ => if source.segments.isEmpty then [source.root] else []
  | ifPresent _ body | forEachElement _ _ body | forEachEntry _ _ _ body
  | ifSingleElement _ _ body => publishedOf body
  | newStruct _ _ | newList _ _ | newMap _ _ | letScalar _ _ _ => []

/-- The variables whose values statements hand on, in order. -/
def publishedOf : List Statement → List String
  | [] => []
  | s :: rest => published s ++ publishedOf rest

end

/-- The statement itself hands on the value of a variable. -/
def Publishes (x : String) : Statement → Prop
  | append _ y | insert _ _ y => y = x
  | assign _ source _ => source = .var x
  | _ => False

/-- One of the statements of a block hands on the value of a variable. No statement before it does,
at any depth, and those behind it do not mention the variable. -/
def HandedOver (x : String) (block : List Statement) : Prop :=
  ∃ before p behind, block = before ++ p :: behind ∧ p.Publishes x ∧ x ∉ publishedOf before ∧
    x ∉ varsOf behind

mutual

/-- What a statement introduces is mentioned nowhere else than it should be: `around` are the
variables that are mentioned before the statement or outside of its block, `behind` the statements
that follow in the block. A variable that holds a value can be mentioned in these, and is handed
over there. A variable of a loop or block can be mentioned in its body only. -/
def Confined (around : List String) (behind : List Statement) : Statement → Prop
  | newStruct x _ | newList x _ | newMap x _ => x ∉ around ∧ HandedOver x behind
  | letScalar x source _ => x ∉ source.root :: around ∧ HandedOver x behind
  | ifPresent source body => ConfinedAll (source.root :: varsOf behind ++ around) body
  | forEachElement source x body | ifSingleElement source x body =>
    x ∉ source.root :: varsOf behind ++ around ∧
      ConfinedAll (x :: source.root :: varsOf behind ++ around) body
  | forEachEntry source key x body =>
    key ∉ source.root :: varsOf behind ++ around ∧
      x ∉ key :: source.root :: varsOf behind ++ around ∧
      ConfinedAll (x :: key :: source.root :: varsOf behind ++ around) body
  | append _ _ | insert _ _ _ | assign _ _ _ => True

/-- So it is for all statements of a block, where `around` is mentioned outside of it. -/
def ConfinedAll (around : List String) : List Statement → Prop
  | [] => True
  | s :: rest => Confined around rest s ∧ ConfinedAll (s.vars ++ around) rest

end

end Statement

/-- All variables that the program introduces are different, each is mentioned only where it should
be, and all values are handed over. -/
structure Program.Disciplined (p : Program) : Prop where
  distinct : (Statement.introducedOf p.statements).Nodup
  confined : Statement.ConfinedAll [] p.statements

/-! ## Blocks -/

namespace Statement

variable {around around' : List String} {x : String}

theorem varsOf_append (xs ys : List Statement) : varsOf (xs ++ ys) = varsOf xs ++ varsOf ys := by
  induction xs with
  | nil => simp [varsOf]
  | cons s rest ih => simp [varsOf, ih]

theorem varsOf_singleton (s : Statement) : varsOf [s] = vars s := by simp [varsOf]

theorem publishedOf_append (xs ys : List Statement) :
    publishedOf (xs ++ ys) = publishedOf xs ++ publishedOf ys := by
  induction xs with
  | nil => simp [publishedOf]
  | cons s rest ih => simp [publishedOf, ih]

theorem introducedOf_append (xs ys : List Statement) :
    introducedOf (xs ++ ys) = introducedOf xs ++ introducedOf ys := by
  induction xs with
  | nil => simp [introducedOf]
  | cons s rest ih => simp [introducedOf, ih]

theorem introduced_eq_nil_of_publishes {p : Statement} (h : p.Publishes x) : p.introduced = [] := by
  cases p <;> first | exact absurd h id | simp [introduced]

mutual

/-- What is introduced is mentioned. -/
theorem introduced_subset : ∀ s : Statement, introduced s ⊆ vars s
  | newStruct _ _ | newList _ _ | newMap _ _ => by simp [introduced, vars]
  | letScalar _ _ _ => by simp [introduced, vars]
  | ifPresent _ body => by
    have := introducedOf_subset body
    simp only [introduced, vars]
    exact List.subset_cons_of_subset _ this
  | forEachElement _ _ body | ifSingleElement _ _ body => by
    have := introducedOf_subset body
    simp only [introduced, vars]
    exact List.subset_cons_of_subset _ (List.cons_subset_cons _ this)
  | forEachEntry _ _ _ body => by
    have := introducedOf_subset body
    simp only [introduced, vars]
    exact List.subset_cons_of_subset _ (List.cons_subset_cons _ (List.cons_subset_cons _ this))
  | append _ _ | insert _ _ _ | assign _ _ _ => by simp [introduced]

theorem introducedOf_subset : ∀ block : List Statement, introducedOf block ⊆ varsOf block
  | [] => by simp [introducedOf]
  | s :: rest => by
    rw [introducedOf, varsOf]
    exact List.append_subset.mpr
      ⟨List.subset_append_of_subset_left _ (introduced_subset s),
        List.subset_append_of_subset_right _ (introducedOf_subset rest)⟩

end

mutual

/-- What is handed on is mentioned. -/
theorem published_subset : ∀ s : Statement, published s ⊆ vars s
  | append _ _ | insert _ _ _ => by simp [published, vars]
  | assign _ source _ => by
    rw [published, vars]
    split <;> simp
  | ifPresent _ body => by
    have := publishedOf_subset body
    simp only [published, vars]
    exact List.subset_cons_of_subset _ this
  | forEachElement _ _ body | ifSingleElement _ _ body => by
    have := publishedOf_subset body
    simp only [published, vars]
    exact List.subset_cons_of_subset _ (List.subset_cons_of_subset _ this)
  | forEachEntry _ _ _ body => by
    have := publishedOf_subset body
    simp only [published, vars]
    exact List.subset_cons_of_subset _
      (List.subset_cons_of_subset _ (List.subset_cons_of_subset _ this))
  | newStruct _ _ | newList _ _ | newMap _ _ | letScalar _ _ _ => by simp [published]

theorem publishedOf_subset : ∀ block : List Statement, publishedOf block ⊆ varsOf block
  | [] => by simp [publishedOf]
  | s :: rest => by
    rw [publishedOf, varsOf]
    exact List.append_subset.mpr
      ⟨List.subset_append_of_subset_left _ (published_subset s),
        List.subset_append_of_subset_right _ (publishedOf_subset rest)⟩

end

theorem append_subset_append_left {xs ys : List String} (h : ys ⊆ around) :
    xs ++ ys ⊆ xs ++ around :=
  List.append_subset.mpr
    ⟨List.subset_append_left _ _, List.subset_append_of_subset_right _ h⟩

mutual

/-- With fewer variables around it a statement is still confined. -/
theorem Confined.mono {around around' : List String} (h : around' ⊆ around)
    {behind : List Statement} : ∀ {s : Statement}, Confined around behind s →
      Confined around' behind s
  | newStruct _ _, hs | newList _ _, hs | newMap _ _, hs => by
    rw [Confined] at hs ⊢
    exact ⟨fun hx => hs.1 (h hx), hs.2⟩
  | letScalar _ _ _, hs => by
    rw [Confined] at hs ⊢
    exact ⟨fun hx => hs.1 (List.cons_subset_cons _ h hx), hs.2⟩
  | ifPresent _ _, hs => by
    rw [Confined] at hs ⊢
    exact hs.mono (append_subset_append_left h)
  | forEachElement _ _ _, hs | ifSingleElement _ _ _, hs => by
    rw [Confined] at hs ⊢
    exact ⟨fun hx => hs.1 (append_subset_append_left h hx),
      hs.2.mono (append_subset_append_left h)⟩
  | forEachEntry _ _ _ _, hs => by
    rw [Confined] at hs ⊢
    exact ⟨fun hx => hs.1 (append_subset_append_left h hx),
      fun hx => hs.2.1 (append_subset_append_left h hx),
      hs.2.2.mono (append_subset_append_left h)⟩
  | append _ _, _ | insert _ _ _, _ | assign _ _ _, _ => by
    rw [Confined]
    trivial

theorem ConfinedAll.mono {around around' : List String} (h : around' ⊆ around) :
    ∀ {block : List Statement}, ConfinedAll around block → ConfinedAll around' block
  | [], _ => by
    rw [ConfinedAll]
    trivial
  | _ :: _, hs => by
    rw [ConfinedAll] at hs ⊢
    exact ⟨hs.1.mono h, hs.2.mono (append_subset_append_left h)⟩

end

mutual

/-- What a confined statement introduces are different variables, none of those around it. -/
theorem nodup_introduced {around : List String} {behind : List Statement} :
    ∀ {s : Statement}, Confined around behind s →
      (introduced s).Nodup ∧ ∀ x ∈ introduced s, x ∉ around
  | newStruct x _, hs | newList x _, hs | newMap x _, hs => by
    rw [Confined] at hs
    rw [introduced]
    exact ⟨List.nodup_singleton x, fun y hy => List.mem_singleton.mp hy ▸ hs.1⟩
  | letScalar x _ _, hs => by
    rw [Confined] at hs
    rw [introduced]
    exact ⟨List.nodup_singleton x, fun y hy hmem =>
      hs.1 (List.mem_cons_of_mem _ (List.mem_singleton.mp hy ▸ hmem))⟩
  | ifPresent _ body, hs => by
    rw [Confined] at hs
    rw [introduced]
    obtain ⟨hnodup, hout⟩ := nodup_introducedOf hs
    exact ⟨hnodup, fun y hy hmem => hout y hy (List.mem_append_right _ hmem)⟩
  | forEachElement _ x body, hs | ifSingleElement _ x body, hs => by
    rw [Confined] at hs
    rw [introduced]
    obtain ⟨hnodup, hout⟩ := nodup_introducedOf hs.2
    refine ⟨List.nodup_cons.mpr ⟨fun hx => hout x hx List.mem_cons_self, hnodup⟩, ?_⟩
    rintro y hy hmem
    rcases List.mem_cons.mp hy with rfl | hy
    · exact hs.1 (List.mem_append_right _ hmem)
    · exact hout y hy (List.mem_append_right _ hmem)
  | forEachEntry source key x body, hs => by
    rw [Confined] at hs
    rw [introduced]
    obtain ⟨hkey, hx, hbody⟩ := hs
    obtain ⟨hnodup, hout⟩ := nodup_introducedOf hbody
    have hx_body : x ∉ introducedOf body := fun h => hout x h List.mem_cons_self
    have hkey_body : key ∉ introducedOf body := fun h =>
      hout key h (List.mem_cons_of_mem _ List.mem_cons_self)
    have hne : key ≠ x := fun h => hx (h ▸ List.mem_cons_self)
    refine ⟨List.nodup_cons.mpr ⟨?_, List.nodup_cons.mpr ⟨hx_body, hnodup⟩⟩, ?_⟩
    · rw [List.mem_cons, not_or]
      exact ⟨hne, hkey_body⟩
    · rintro y hy hmem
      rcases List.mem_cons.mp hy with rfl | hy
      · exact hkey (List.mem_append_right _ hmem)
      · rcases List.mem_cons.mp hy with rfl | hy
        · exact hx (List.mem_append_right _ hmem)
        · exact hout y hy (List.mem_append_right _ hmem)
  | append _ _, _ | insert _ _ _, _ | assign _ _ _, _ => by simp [introduced]

/-- **What is introduced in a confined block are different variables.** -/
theorem nodup_introducedOf {around : List String} :
    ∀ {block : List Statement}, ConfinedAll around block →
      (introducedOf block).Nodup ∧ ∀ x ∈ introducedOf block, x ∉ around
  | [], _ => by simp [introducedOf]
  | s :: rest, hs => by
    rw [ConfinedAll] at hs
    rw [introducedOf]
    obtain ⟨hone, hone_out⟩ := nodup_introduced hs.1
    obtain ⟨hmore, hmore_out⟩ := nodup_introducedOf hs.2
    refine ⟨List.nodup_append'.mpr ⟨hone, hmore, fun x hx hx' => ?_⟩, fun x hx hmem => ?_⟩
    · -- what the statement introduces is mentioned before what follows
      exact hmore_out x hx' (List.mem_append_left _ (introduced_subset s hx))
    · rcases List.mem_append.mp hx with hx | hx
      · exact hone_out x hx hmem
      · exact hmore_out x hx (List.mem_append_right _ hmem)

end

mutual

theorem confined_of_introduced_eq_nil {around : List String} {behind : List Statement} :
    ∀ {s : Statement}, introduced s = [] → Confined around behind s
  | newStruct _ _, h | newList _ _, h | newMap _ _, h | letScalar _ _ _, h => by
    rw [introduced] at h
    cases h
  | ifPresent _ body, h => by
    rw [introduced] at h
    rw [Confined]
    exact confinedAll_of_introducedOf_eq_nil h
  | forEachElement _ _ _, h | ifSingleElement _ _ _, h | forEachEntry _ _ _ _, h => by
    rw [introduced] at h
    cases h
  | append _ _, _ | insert _ _ _, _ | assign _ _ _, _ => by
    rw [Confined]
    trivial

/-- Where nothing is introduced, nothing can be misplaced. -/
theorem confinedAll_of_introducedOf_eq_nil {around : List String} :
    ∀ {block : List Statement}, introducedOf block = [] → ConfinedAll around block
  | [], _ => by
    rw [ConfinedAll]
    trivial
  | s :: rest, h => by
    rw [introducedOf, List.append_eq_nil_iff] at h
    rw [ConfinedAll]
    exact ⟨confined_of_introduced_eq_nil h.1, confinedAll_of_introducedOf_eq_nil h.2⟩

end

/-- Statements that introduce nothing may stand before a block that is confined among them. -/
theorem confinedAll_append_of_introducedOf_eq_nil {around : List String}
    {xs ys : List Statement} (hxs : introducedOf xs = [])
    (hys : ConfinedAll (varsOf xs ++ around) ys) : ConfinedAll around (xs ++ ys) := by
  induction xs generalizing around with
  | nil => exact hys
  | cons s rest ih =>
    rw [introducedOf, List.append_eq_nil_iff] at hxs
    rw [List.cons_append, ConfinedAll]
    refine ⟨confined_of_introduced_eq_nil hxs.1, ih hxs.2 (hys.mono fun x hx => ?_)⟩
    simp only [varsOf, List.mem_append] at hx ⊢
    tauto

/-- A guard and what follows it are confined each among the other. -/
theorem confinedAll_guard_append {around : List String} {source : Accessor}
    {body block : List Statement}
    (hguard : ConfinedAll (varsOf block ++ around) [.ifPresent source body])
    (hblock : ConfinedAll (varsOf [.ifPresent source body] ++ around) block) :
    ConfinedAll around ([.ifPresent source body] ++ block) := by
  rw [ConfinedAll, Confined] at hguard
  rw [varsOf_singleton] at hblock
  rw [List.singleton_append, ConfinedAll, Confined]
  exact ⟨hguard.1, hblock⟩

end Statement

end ResourceGen
