import Mathlib.Data.List.Nodup
import Typings.Proofs.Emit.Levels
import Typings.Proofs.Requirements
import Typings.Proofs.Text.Order

/-!
# Imports of a Block

A block imports what its declarations mention. The mentions come in any order and as
often as they are made, some of them have no module, and some have the module that the
block is for; the same name can come from two modules.

What has to be written is told by the mentions alone: the modules in order, and for each
of them its names in order. Texts that ascend are told by what is among them, so there is
one such table, and neither the order nor the repetitions of the mentions have a part
in it.

## Main definitions

* `IsImportTable`: The modules and names that a block has to import.
* `importChars`: The characters of the imports of a block.
* `importPairs`: The imports of a table, each a name and a module.

## Theorems

* `Text.eq_of_pairwise_lt`: Texts that ascend are told by what is among them.
* `isImportTable_importTable`, `IsImportTable.eq`: What a block has to import is one table.
* `IsImportTable.mem_importPairs`, `IsImportTable.nodup_importPairs`: A table has the
  needed imports, each once.
* `output_importLines`: Imports leave their own characters wherever they are written.
* `importLines_exact`: The imports of a block are exact.
-/

namespace Typings

namespace Text

/-- Texts in order without repetition ascend. -/
theorem pairwise_lt_sort (texts : List String) (hnodup : texts.Nodup) :
    (sort texts).Pairwise (· < ·) := by
  have hordered := (isStableSort_sortBy id texts).ordered
  have hdistinct : (sort texts).Nodup := (sortBy_perm id texts).nodup_iff.mpr hnodup
  refine List.Pairwise.imp ?_ (hordered.and hdistinct)
  rintro a b ⟨hle, hne⟩
  rw [le_eq_true_iff] at hle
  exact String.not_le.mp fun h => hne (String.le_antisymm hle h)

theorem mem_sort (texts : List String) (text : String) : text ∈ sort texts ↔ text ∈ texts :=
  mem_sortBy id texts text

theorem nodup_of_pairwise_lt {texts : List String} (h : texts.Pairwise (· < ·)) :
    texts.Nodup := by
  refine List.Pairwise.imp ?_ h
  rintro a b hlt rfl
  exact String.lt_irrefl a hlt

/-- Texts that ascend are told by what is among them. -/
theorem eq_of_pairwise_lt {first second : List String} (hfirst : first.Pairwise (· < ·))
    (hsecond : second.Pairwise (· < ·)) (hmem : ∀ text, text ∈ first ↔ text ∈ second) :
    first = second := by
  -- They have the same texts in some order, and there is one order that ascends.
  have hperm : first.Perm second := (List.perm_ext_iff_of_nodup (nodup_of_pairwise_lt hfirst)
    (nodup_of_pairwise_lt hsecond)).mpr hmem
  exact hperm.eq_of_pairwise (fun _ _ _ _ hab hba => absurd hab (String.lt_asymm hba))
    hfirst hsecond

end Text

namespace Emit

/-- The imports that a block of a module has to write. -/
structure IsImportTable (module : String) (imports : List TypeImport)
    (rows : List (String × List String)) : Prop where
  ascending : (rows.map Prod.fst).Pairwise (· < ·)
  sources : ∀ source, source ∈ rows.map Prod.fst ↔
    source ≠ "" ∧ source ≠ module ∧ ∃ i ∈ imports, i.module = source
  names : ∀ row ∈ rows, row.2.Pairwise (· < ·) ∧ ∀ name, name ∈ row.2 ↔ ⟨name, row.1⟩ ∈ imports

/-- The line that imports names from a module. -/
def importLine (row : String × List String) : Line :=
  Line.flat ("import \x7b " ++ Text.join ", " row.2 ++ " \x7d from \"" ++ row.1 ++ "\";")

/-- The characters of the imports of a block: a line for each module and a blank line, or
    nothing. -/
def importChars (level : Nat) (rows : List (String × List String)) : List Char :=
  if rows.isEmpty then []
  else (rows.flatMap fun row => indentation level ++ (importLine row).text.toList ++ ['\n']) ++
    ['\n']

/-- All names that are imported, each with its module. -/
def importPairs (rows : List (String × List String)) : List TypeImport :=
  rows.flatMap fun row => row.2.map fun name => ⟨name, row.1⟩

variable (module : String) (imports : List TypeImport)

/-- The imports of a block, by their modules. -/
def importTable : List (String × List String) :=
  (importedModules (outsideImports module imports)).map fun source =>
    (source, importedNames (outsideImports module imports) source)

theorem pairwise_lt_importedModules (outside : List TypeImport) :
    (importedModules outside).Pairwise (· < ·) := by
  rw [importedModules, addAllNew_nil]
  exact Text.pairwise_lt_sort _ (nodup_eraseDups _)

theorem pairwise_lt_importedNames (outside : List TypeImport) (source : String) :
    (importedNames outside source).Pairwise (· < ·) := by
  rw [importedNames, addAllNew_nil]
  exact Text.pairwise_lt_sort _ (nodup_eraseDups _)

theorem mem_outsideImports (i : TypeImport) :
    i ∈ outsideImports module imports ↔ i ∈ imports ∧ i.module ≠ "" ∧ i.module ≠ module := by
  rw [outsideImports, List.mem_filter, Bool.and_eq_true, Bool.not_eq_true', decide_eq_true_eq,
    ← Bool.not_eq_true, String.isEmpty_iff]

theorem mem_importedModules (source : String) :
    source ∈ importedModules (outsideImports module imports) ↔
      source ≠ "" ∧ source ≠ module ∧ ∃ i ∈ imports, i.module = source := by
  rw [importedModules, Text.mem_sort, addAllNew_nil, List.mem_eraseDups, List.mem_map]
  constructor
  · rintro ⟨i, hi, rfl⟩
    rcases (mem_outsideImports module imports i).mp hi with ⟨hmem, hne, hother⟩
    exact ⟨hne, hother, i, hmem, rfl⟩
  · rintro ⟨hne, hother, i, hmem, rfl⟩
    exact ⟨i, (mem_outsideImports module imports i).mpr ⟨hmem, hne, hother⟩, rfl⟩

theorem mem_importedNames (source name : String) (hne : source ≠ "") (hother : source ≠ module) :
    name ∈ importedNames (outsideImports module imports) source ↔ ⟨name, source⟩ ∈ imports := by
  rw [importedNames, Text.mem_sort, addAllNew_nil, List.mem_eraseDups, List.mem_map]
  constructor
  · rintro ⟨i, hi, rfl⟩
    rcases List.mem_filter.mp hi with ⟨hmem, hsource⟩
    rw [← of_decide_eq_true hsource]
    exact ((mem_outsideImports module imports i).mp hmem).1
  · intro hmem
    refine ⟨⟨name, source⟩, List.mem_filter.mpr ⟨?_, decide_eq_true rfl⟩, rfl⟩
    exact (mem_outsideImports module imports _).mpr ⟨hmem, hne, hother⟩

theorem isImportTable_importTable : IsImportTable module imports (importTable module imports) := by
  have hsources : (importTable module imports).map Prod.fst =
      importedModules (outsideImports module imports) := by
    rw [importTable, List.map_map]
    exact List.map_id _
  refine ⟨?_, fun source => ?_, fun row hrow => ?_⟩
  · rw [hsources]
    exact pairwise_lt_importedModules _
  · rw [hsources, mem_importedModules]
  · rcases List.mem_map.mp hrow with ⟨source, hsource, rfl⟩
    rcases (mem_importedModules module imports source).mp hsource with ⟨hne, hother, _⟩
    exact ⟨pairwise_lt_importedNames _ source,
      fun name => mem_importedNames module imports source name hne hother⟩

variable {module imports}

namespace IsImportTable

variable {rows : List (String × List String)}

/-- What a block has to import is one table. -/
theorem eq (h : IsImportTable module imports rows) : rows = importTable module imports := by
  -- The modules of the rows are told by the imports.
  have hsources : rows.map Prod.fst = importedModules (outsideImports module imports) := by
    refine Text.eq_of_pairwise_lt h.ascending (pairwise_lt_importedModules _) fun source => ?_
    rw [h.sources, mem_importedModules]
  rw [importTable, ← hsources, List.map_map]
  refine (List.map_id rows).symm.trans (List.map_congr_left fun row hrow => Prod.ext rfl ?_)
  -- The names of a row are told by the imports as well.
  rcases (h.sources row.1).mp (List.mem_map_of_mem hrow) with ⟨hne, hother, _⟩
  rcases h.names row hrow with ⟨hascending, hnames⟩
  show row.2 = importedNames (outsideImports module imports) row.1
  refine Text.eq_of_pairwise_lt hascending (pairwise_lt_importedNames _ row.1) fun name => ?_
  rw [hnames, mem_importedNames module imports row.1 name hne hother]

/-- A table depends on what is imported, not on the order or the repetitions of a list. -/
theorem of_mem_iff {others : List TypeImport} (h : IsImportTable module imports rows)
    (hmem : ∀ i, i ∈ others ↔ i ∈ imports) : IsImportTable module others rows := by
  refine ⟨h.ascending, fun source => ?_, fun row hrow => ?_⟩
  · simp only [h.sources, hmem]
  · simp only [hmem]
    exact h.names row hrow

/-- A table has the needed imports and no others. -/
theorem mem_importPairs (h : IsImportTable module imports rows) (i : TypeImport) :
    i ∈ importPairs rows ↔ i ∈ imports ∧ i.module ≠ "" ∧ i.module ≠ module := by
  rw [importPairs, List.mem_flatMap]
  constructor
  · rintro ⟨row, hrow, hi⟩
    rcases List.mem_map.mp hi with ⟨name, hname, rfl⟩
    rcases (h.sources row.1).mp (List.mem_map_of_mem hrow) with ⟨hne, hother, _⟩
    exact ⟨((h.names row hrow).2 name).mp hname, hne, hother⟩
  · rintro ⟨hmem, hne, hother⟩
    have hsource := (h.sources i.module).mpr ⟨hne, hother, i, hmem, rfl⟩
    rcases List.mem_map.mp hsource with ⟨row, hrow, hmodule⟩
    refine ⟨row, hrow, List.mem_map.mpr ⟨i.name, ((h.names row hrow).2 i.name).mpr ?_, ?_⟩⟩
    · rwa [hmodule]
    · rw [hmodule]

/-- A table has every import once. -/
theorem nodup_importPairs (h : IsImportTable module imports rows) : (importPairs rows).Nodup := by
  rw [importPairs, List.nodup_flatMap]
  refine ⟨fun row hrow => ?_, ?_⟩
  · exact (Text.nodup_of_pairwise_lt (h.names row hrow).1).map fun a b heq =>
      congrArg TypeImport.name heq
  · refine List.Pairwise.imp ?_ (List.pairwise_map.mp h.ascending)
    intro row other hlt i hi hi'
    rcases List.mem_map.mp hi with ⟨name, _, rfl⟩
    rcases List.mem_map.mp hi' with ⟨name', _, heq⟩
    -- Rows of two modules have no import in common.
    have hmodule : other.1 = row.1 := congrArg TypeImport.module heq
    rw [hmodule] at hlt
    exact String.lt_irrefl _ hlt

end IsImportTable

variable (module imports)

theorem importLines_eq :
    importLines module imports =
      if (importTable module imports).isEmpty then []
      else (importTable module imports).map importLine ++ [Line.blank] := by
  -- Every import from outside has a row, and every row has an import.
  have hempty : (importTable module imports).isEmpty = (outsideImports module imports).isEmpty := by
    rw [importTable, List.isEmpty_map, Bool.eq_iff_iff, List.isEmpty_iff, List.isEmpty_iff,
      List.eq_nil_iff_forall_not_mem, List.eq_nil_iff_forall_not_mem]
    constructor
    · intro hnone i hi
      rcases (mem_outsideImports module imports i).mp hi with ⟨hmem, hne, hother⟩
      exact hnone i.module ((mem_importedModules module imports _).mpr ⟨hne, hother, i, hmem, rfl⟩)
    · intro hnone source hsource
      rcases (mem_importedModules module imports source).mp hsource with
        ⟨hne, hother, i, hmem, rfl⟩
      exact hnone i ((mem_outsideImports module imports i).mpr ⟨hmem, hne, hother⟩)
  rw [hempty, importLines, importTable, List.map_map]
  rfl

theorem isSolid_importLine (row : String × List String) : (importLine row).IsSolid :=
  isSolid_append _ "\";" ⟨['"'], ';', rfl, by decide⟩

/-- The imports of a block leave their own characters wherever they are written. -/
theorem output_importLines (w : Writer) (level : Nat) :
    (((importLines module imports).map Line.deeper^[level]).foldl Writer.writeLine w).output =
      w.output ++ String.ofList (importChars level (importTable module imports)) := by
  have hchars : charsAt level (importLines module imports) =
      importChars level (importTable module imports) := by
    rw [importLines_eq, importChars]
    split
    · rfl
    · have hlines : charsAt level ((importTable module imports).map importLine) =
          (importTable module imports).flatMap fun row =>
            indentation level ++ (importLine row).text.toList ++ ['\n'] := by
        rw [charsAt, List.map_map, List.flatMap_map]
        exact List.flatMap_congr fun row _ => rendered_flat level _ (isSolid_importLine row)
      rw [charsAt_append, charsAt_blank, hlines]
  rw [← hchars, charsAt, output_foldl_writeLine]
  intro l hl
  rw [importLines_eq] at hl
  -- The first line is no blank one, so nothing of what was written before can be lost.
  rcases htable : importTable module imports with _ | ⟨row, rest⟩
  · rw [htable] at hl
    exact absurd hl (Option.not_mem_none l)
  · rw [htable, List.isEmpty_cons, if_neg Bool.false_ne_true, List.map_cons, List.cons_append,
      List.map_cons, List.head?_cons, Option.mem_some_iff] at hl
    exact hl ▸ (isSolid_importLine row).deeper_iterate level

/-- The imports of a block are exact. There is one table of what the block has to import, by
    modules and names that ascend, and it is written line by line with a blank line behind
    it, or not at all if it is empty. It has every import of the list that is needed once,
    and no other, and the order and the repetitions of the list do not matter. -/
theorem importLines_exact :
    ∃ rows, (∀ others, IsImportTable module imports others ↔ others = rows) ∧
      (∀ (w : Writer) (level : Nat),
        (((importLines module imports).map Line.deeper^[level]).foldl Writer.writeLine w).output =
          w.output ++ String.ofList (importChars level rows)) ∧
      (importPairs rows).Nodup ∧
      (∀ i, i ∈ importPairs rows ↔ i ∈ imports ∧ i.module ≠ "" ∧ i.module ≠ module) ∧
      ∀ others, (∀ i, i ∈ others ↔ i ∈ imports) →
        importLines module others = importLines module imports := by
  have htable := isImportTable_importTable module imports
  refine ⟨importTable module imports, fun others => ⟨fun h => h.eq, fun h => h ▸ htable⟩,
    output_importLines module imports, htable.nodup_importPairs, htable.mem_importPairs, ?_⟩
  intro others hmem
  have hsame : importTable module imports = importTable module others := (htable.of_mem_iff hmem).eq
  rw [importLines_eq module others, ← hsame, ← importLines_eq module imports]

end Emit

end Typings
