import Typings.Proofs.Naming
import Typings.Proofs.Run.Finished

/-!
# The Names That a Class Imports

An import list keeps itself in order: it takes no name twice, and none that its owner
declares itself. So what a class has imported is in order, from the day it is built and
through everything that is carried into it.

But the list that a declaration shows has one import more. The settings of a class
extend those of its base, so their interface is imported with it, and this import is
put behind the others without being offered to the import list. It is refused if it is
among them already, and not if the class has imported another type of that name, or
declares the name itself. A class that has the short name of its base does: both have
settings of the same name.

## Main definitions

* `ClassDeclaration.ImportsInOrder`: No name is imported twice, or declared as well.
* `ClassModel.AdmitsSettingsOf`: The settings of a base can be imported beside all else.
* `ImportsAreInOrder`: The imports of all classes are in order after a run.

## Theorems

* `ClassModel.importsInOrder_declaration_iff`: When the imports of a declaration are in
  order.
* `keepsOwnNames_finished`: What a class imports by itself is in order.
* `importsInOrder_output_iff`: When the imports of a class are in order after a run.
* `not_forall_importsInOrder`: A declaration can be out of order in each of three ways.
-/

namespace Typings

open Api (Source)

/-- The imports of a declaration are in order: no name is imported twice, and neither
    the name of the declaration is imported nor that of its settings. -/
structure ClassDeclaration.ImportsInOrder (d : ClassDeclaration) : Prop where
  nodup : (d.imports.map (·.name)).Nodup
  not_self : d.name ∉ d.imports.map (·.name)
  not_settings : ∀ s, d.settings = some s → s.name ∉ d.imports.map (·.name)

instance (d : ClassDeclaration) : Decidable d.ImportsInOrder :=
  decidable_of_iff
    ((d.imports.map (·.name)).Nodup ∧ d.name ∉ d.imports.map (·.name) ∧
      ∀ s ∈ d.settings, s.name ∉ d.imports.map (·.name))
    ⟨fun h => ⟨h.1, h.2.1, h.2.2⟩, fun h => ⟨h.nodup, h.not_self, h.not_settings⟩⟩

namespace ClassModel

/-- The import by which the settings of a class are reached from another module. -/
def settingsImport (base : ClassModel) : TypeImport :=
  ⟨base.settingsName, base.moduleName⟩

/-- The settings of a base can be imported beside all that a class imports by itself:
    they need no import, or neither the class nor its settings have their name, and
    what is imported under that name already is of the same module. -/
def AdmitsSettingsOf (c base : ClassModel) : Prop :=
  base.moduleName = "" ∨
    (base.settingsName ≠ c.name ∧ base.name ≠ c.name ∧
      ∀ i ∈ c.dependencies.imports.toList, i.name = base.settingsName → i.module = base.moduleName)

instance (c base : ClassModel) : Decidable (c.AdmitsSettingsOf base) :=
  inferInstanceAs (Decidable (_ ∨ _))

/-- What a class imports by itself is in order, and its own names are not in it. -/
def KeepsOwnNames (c : ClassModel) : Prop :=
  c.dependencies.TidyWithout [c.settingsName, c.name]

variable {c : ClassModel}

theorem KeepsOwnNames.not_mem (h : c.KeepsOwnNames) :
    c.name ∉ c.dependencies.imports.toList.map (·.name) ∧
      c.settingsName ∉ c.dependencies.imports.toList.map (·.name) := by
  -- The own names are suppressed, so no import has them.
  have hallowed : ∀ i ∈ c.dependencies.imports.toList,
      i.name ≠ c.settingsName ∧ i.name ≠ c.name := by
    intro i hi
    have hsuppressed := h.1.allowed i hi
    rw [h.2, List.mem_cons, List.mem_singleton, not_or] at hsuppressed
    exact hsuppressed
  constructor
  · intro hmem
    rcases List.mem_map.mp hmem with ⟨i, hi, hname⟩
    exact (hallowed i hi).2 hname
  · intro hmem
    rcases List.mem_map.mp hmem with ⟨i, hi, hname⟩
    exact (hallowed i hi).1 hname

/-- An import of its own list is in order beside all others. -/
theorem KeepsOwnNames.admits_of_mem (h : c.KeepsOwnNames) (base : ClassModel)
    (hmem : base.settingsImport ∈ c.dependencies.imports.toList) :
    c.AdmitsSettingsOf base := by
  have hname : base.settingsName ∈ c.dependencies.imports.toList.map (·.name) :=
    List.mem_map.mpr ⟨_, hmem, rfl⟩
  refine Or.inr ⟨fun heq => h.not_mem.1 (heq ▸ hname), fun heq => h.not_mem.2 ?_, ?_⟩
  · rwa [settingsName, ← heq]
  · intro i hi hi'
    exact congrArg TypeImport.module (List.inj_on_of_nodup_map h.1.nodup hi hmem hi')

/-- Behind imports that are in order there can be one more if no other has its name, and
    the class does not declare it. -/
theorem KeepsOwnNames.inOrder_append_iff (h : c.KeepsOwnNames) (base : ClassModel) :
    (((c.dependencies.imports.toList ++ [base.settingsImport]).map (·.name)).Nodup ∧
        c.name ∉ (c.dependencies.imports.toList ++ [base.settingsImport]).map (·.name) ∧
        c.settingsName ∉ (c.dependencies.imports.toList ++ [base.settingsImport]).map (·.name)) ↔
      base.settingsName ∉ c.dependencies.imports.toList.map (·.name) ∧
        base.settingsName ≠ c.name ∧ base.name ≠ c.name := by
  -- Settings have the same name exactly if their classes do.
  have hsettings : c.settingsName = base.settingsName ↔ base.name = c.name := by
    rw [eq_comm, settingsName, settingsName, settingsInterfaceName_inj]
  have hname : base.settingsImport.name = base.settingsName := rfl
  simp only [List.map_append, List.map_cons, List.map_nil, List.nodup_append, List.mem_append,
    List.mem_singleton, not_or, h.1.nodup, h.not_mem.1, h.not_mem.2, not_false_eq_true, true_and,
    List.nodup_cons, List.not_mem_nil, List.nodup_nil, hname, hsettings]
  constructor
  · rintro ⟨hnodup, hself, hbase⟩
    exact ⟨fun hmem => hnodup _ hmem _ rfl rfl, Ne.symm hself, hbase⟩
  · rintro ⟨hnew, hself, hbase⟩
    refine ⟨?_, Ne.symm hself, hbase⟩
    rintro a ha b rfl rfl
    exact hnew ha

/-- Below a base the import of its settings is put behind the others. -/
theorem importsWith_some (base : ClassModel) :
    c.importsWith (some base) =
      if base.moduleName = "" then c.dependencies.imports.toList
      else addNew c.dependencies.imports.toList base.settingsImport := by
  simp only [importsWith, settingsImport, String.isEmpty_iff]

/-- The imports of a declaration are in order if those it is given are. -/
theorem importsInOrder_declaration_iff_importsWith (hkind : c.kind = .class)
    (base : Option ClassModel) :
    (c.declaration base).ImportsInOrder ↔
      ((c.importsWith base).map (·.name)).Nodup ∧ c.name ∉ (c.importsWith base).map (·.name) ∧
        c.settingsName ∉ (c.importsWith base).map (·.name) := by
  have himports : (c.declaration base).imports = c.importsWith base := if_pos hkind
  have hsettings : (c.declaration base).settings =
      some ⟨c.settingsName, base.map settingsName, c.settings⟩ := if_pos hkind
  constructor
  · rintro ⟨hnodup, hself, hsetting⟩
    rw [himports] at hnodup hself hsetting
    exact ⟨hnodup, hself, hsetting _ hsettings⟩
  · rintro ⟨hnodup, hself, hsetting⟩
    refine ⟨by rwa [himports], by rwa [himports], ?_⟩
    intro s hs
    rw [hsettings, Option.some_inj] at hs
    rwa [himports, ← hs]

/-- Where the settings of a base are not imported yet, whatever has their name is of another
    module. -/
theorem settingsName_not_mem_iff (base : ClassModel)
    (hmem : base.settingsImport ∉ c.dependencies.imports.toList) :
    base.settingsName ∉ c.dependencies.imports.toList.map (·.name) ↔
      ∀ i ∈ c.dependencies.imports.toList, i.name = base.settingsName →
        i.module = base.moduleName := by
  constructor
  · exact fun hnew i hi hname => absurd (List.mem_map.mpr ⟨i, hi, hname⟩) hnew
  · intro hsame hname
    rcases List.mem_map.mp hname with ⟨i, hi, hname⟩
    -- With the same name and module it would be the import of the settings.
    have himport : i = base.settingsImport :=
      (TypeImport.mk.injEq ..).mpr ⟨hname, hsame i hi hname⟩
    exact hmem (himport ▸ hi)

/-- The imports of a declaration are in order exactly if the settings of its base can be
    imported beside those of the class itself. -/
theorem importsInOrder_declaration_iff (hkind : c.kind = .class) (h : c.KeepsOwnNames)
    (base : Option ClassModel) :
    (c.declaration base).ImportsInOrder ↔ ∀ b, base = some b → c.AdmitsSettingsOf b := by
  have hown : ((c.dependencies.imports.toList).map (·.name)).Nodup ∧
      c.name ∉ (c.dependencies.imports.toList).map (·.name) ∧
      c.settingsName ∉ (c.dependencies.imports.toList).map (·.name) :=
    ⟨h.1.nodup, h.not_mem⟩
  rw [importsInOrder_declaration_iff_importsWith hkind]
  cases base with
  | none => exact iff_of_true hown nofun
  | some b =>
      simp only [Option.some_inj, forall_eq', importsWith_some]
      by_cases hmodule : b.moduleName = ""
      · rw [if_pos hmodule]
        exact iff_of_true hown (Or.inl hmodule)
      · rw [if_neg hmodule]
        by_cases hmem : b.settingsImport ∈ c.dependencies.imports.toList
        · -- The settings are imported already, and nothing is added.
          rw [addNew, if_pos hmem]
          exact iff_of_true hown (h.admits_of_mem b hmem)
        · rw [addNew, if_neg hmem]
          refine (KeepsOwnNames.inOrder_append_iff h b).trans ?_
          rw [AdmitsSettingsOf, or_iff_right hmodule, settingsName_not_mem_iff b hmem]
          constructor
          · rintro ⟨hsame, hself, hbase⟩
            exact ⟨hself, hbase, hsame⟩
          · rintro ⟨hself, hbase, hsame⟩
            exact ⟨hsame, hself, hbase⟩

end ClassModel

section Run

variable (config : Config) (sources : List Source)

/-- What a finished class imports by itself is in order, whatever was carried into it. -/
theorem keepsOwnNames_finished (hacyclic : (synthesize config sources).classes.cycle? = none)
    (i : Nat) (f : ClassModel) (hget : (synthesize config sources).finished.1.get? i = some f) :
    f.KeepsOwnNames := by
  -- Linking gives a class its place among the others, and leaves its imports as they were
  -- built.
  have hlinked : ∀ c, (synthesize config sources).classes.get? i = some c → c.KeepsOwnNames := by
    intro c hc
    rcases Hierarchy.get?_link_ofSources _ .class .class sources i c hc with ⟨p, _, hbuilt⟩
    have hdependencies := congrArg ClassModel.dependencies hbuilt
    have hname := congrArg ClassModel.name hbuilt
    have hname' : c.name = p.2.shortName := hname
    have hdependencies' : c.dependencies =
        (ClassModel.build (synthesize config sources).resolver i .class p.1 p.2).dependencies :=
      hdependencies
    rw [ClassModel.KeepsOwnNames, ClassModel.settingsName, hname', hdependencies']
    exact ClassModel.tidyWithout_build _ i .class p.1 p.2
  cases finished_of_get? config sources hacyclic i f hget with
  | root _ _ hc _ => exact hlinked f hc
  | derived _ b c base hc _ _ =>
      -- Finishing takes in needs, and leaves the names of the class alone.
      exact Carrying.dependencies_foldl_meet_induction _ b
        (motive := fun d => d.TidyWithout [c.settingsName, c.name]) (fun _ q hd => hd.absorb q) _ _
        (hlinked c hc)

variable {σ : Type} (renderer : Renderer σ) (state : σ)

/-- The imports of all classes are in order after a run that succeeds. -/
def ImportsAreInOrder : Prop :=
  ∀ {σ : Type} (renderer : Renderer σ) (state : σ) (output : Output),
    (generate config sources renderer state).result = .ok output →
      ∀ d ∈ output.classes, d.ImportsInOrder

/-- After a run that succeeds, the imports of a class are in order exactly if the class
    has no base, or the settings of its base can be imported beside all that the class
    imports by itself. -/
theorem importsInOrder_output_iff (output : Output)
    (hresult : (generate config sources renderer state).result = .ok output) (i : Nat)
    (d : ClassDeclaration) (hd : output.classes[i]? = some d) :
    ∃ c, (synthesize config sources).finished.1.get? i = some c ∧
      d = c.declaration ((synthesize config sources).finished.1.baseOf i) ∧
      (d.ImportsInOrder ↔ ∀ base, (synthesize config sources).finished.1.baseOf i = some base →
        c.AdmitsSettingsOf base) := by
  rcases exists_class_of_output config sources renderer state output hresult i d hd with
    ⟨c, hget, rfl⟩
  have hacyclic := (output_of_generate renderer config sources state output hresult).1
  exact ⟨c, hget, rfl, ClassModel.importsInOrder_declaration_iff
    (kind_of_finished config sources i c hget)
    (keepsOwnNames_finished config sources hacyclic i c hget) _⟩

end Run

section Example

/-- A class that has the short name of its base, which is of another module, and one
    that has not. -/
def homonyms : List Source :=
  [{ library := "x", symbols := [{ kind := .class, name := "x.Foo" }] },
   { library := "lib"
     symbols :=
       [{ kind := .class, name := "lib.Foo", base := some "x.Foo" },
        { kind := .class, name := "lib.Bar", base := some "x.Foo" }] }]

/-- The class with another short name has its imports in order. -/
theorem importsInOrder_homonyms :
    ∃ output d, (generate {} homonyms noteKind []).result = .ok output ∧
      output.classes[2]? = some d ∧ d.imports = [⟨"Foo", "x"⟩, ⟨"IFooSettings", "x"⟩] ∧
        d.ImportsInOrder := by
  rcases exists_output_of_acyclic {} homonyms noteKind [] (by decide +kernel) with
    ⟨output, hresult, hclasses⟩
  have hdeclared : ((synthesize {} homonyms).finished.1.declarations[2]?).map (·.imports) =
      some [⟨"Foo", "x"⟩, ⟨"IFooSettings", "x"⟩] := by
    decide +kernel
  rcases Option.map_eq_some_iff.mp hdeclared with ⟨d, hd, himports⟩
  rw [← hclasses] at hd
  have hadmits : ∀ c ∈ (synthesize {} homonyms).finished.1.get? 2,
      ∀ base ∈ (synthesize {} homonyms).finished.1.baseOf 2, c.AdmitsSettingsOf base := by
    decide +kernel
  rcases importsInOrder_output_iff {} homonyms noteKind [] output hresult 2 d hd with
    ⟨c, hget, _, hiff⟩
  exact ⟨output, d, hresult, hd, himports, hiff.mpr (hadmits c hget)⟩

/-- A class that needs another type with the name of its base's settings. -/
def rivalSettings : List Source :=
  [{ library := "x"
     symbols :=
       [{ kind := .class, name := "x.Foo" },
        { kind := .interface, name := "x.util.IFooSettings" }] },
   { library := "lib"
     symbols :=
       [{ kind := .class, name := "lib.Bar", base := some "x.Foo"
          methods :=
            [{ name := "get", returnValue := some { type := "x.util.IFooSettings" } }] }] }]

/-- A class that is named like the settings of its base. -/
def settingsNamesake : List Source :=
  [{ library := "x", symbols := [{ kind := .class, name := "x.Foo" }] },
   { library := "lib"
     symbols := [{ kind := .class, name := "lib.IFooSettings", base := some "x.Foo" }] }]

/-- There is a class whose imports are not in order, in a run that succeeds. -/
theorem not_importsAreInOrder {config : Config} {sources : List Source}
    (hacyclic : (synthesize config sources).classes.cycle? = none)
    (hexists : ∃ d ∈ (synthesize config sources).finished.1.declarations, ¬ d.ImportsInOrder) :
    ¬ ImportsAreInOrder config sources := by
  intro hall
  rcases exists_output_of_acyclic config sources noteKind [] hacyclic with
    ⟨output, hresult, hclasses⟩
  rcases hexists with ⟨d, hd, hdisorder⟩
  exact hdisorder (hall noteKind [] output hresult d (hclasses ▸ hd))

/-- A declaration can be out of order in each of three ways: it imports what it declares,
    it imports a name twice, or it imports its own name. -/
theorem not_forall_importsInOrder :
    ¬ ImportsAreInOrder {} homonyms ∧ ¬ ImportsAreInOrder {} rivalSettings ∧
      ¬ ImportsAreInOrder {} settingsNamesake := by
  refine ⟨?_, ?_, ?_⟩ <;>
    exact not_importsAreInOrder (by decide +kernel) (by decide +kernel)

end Example

end Typings
