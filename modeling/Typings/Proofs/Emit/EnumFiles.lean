import Typings.Proofs.Emit.Comments
import Typings.Proofs.Requirements

/-!
# Files of Enums

The enums of a library are written to one file, whatever their modules, and the file has
one block for each module. They are gathered in a table, which gives a new module its
place at the end and leaves the places of the others alone, so blocks come in the order
in which their modules first occur. Putting an enum behind the others of its module
leaves them in the order of the list.

Every enum has one module, so the blocks share out the enums of the list: put together
they have as many of each as the list.

## Main definitions

* `EnumDeclaration.emittedModule`: The module that an enum is declared in.
* `IsGrouping`: Enums by module, modules in the order in which they first occur.
* `enumModuleChars`: The characters of the block of a module.

## Theorems

* `entries_foldl_group`: What items gathered by their keys come to.
* `pairwise_idxOf_eraseDups`: Without its repetitions a list has the order in which its
  members first occur.
* `perm_flatMap_filter`: Groups share out what they are made from.
* `isGrouping_enumsByModule`, `IsGrouping.unique`: The groups of a list of enums.
* `charsAt_enumBlock`, `charsAt_moduleBlock`: The characters of an enum and of a module.
* `enumsText_of_grouping`: The text of the file is that of its groups.
-/

namespace Typings

section Grouping

variable {α κ : Type}

theorem lookup_map_pair [DecidableEq κ] (keys : List κ) (f : κ → α) (key : κ) :
    (keys.map fun k => (k, f k)).lookup key = if key ∈ keys then some (f key) else none := by
  induction keys with
  | nil => rfl
  | cons k rest ih =>
      rw [List.map_cons, List.lookup_cons, ih]
      by_cases hkey : key = k
      · rw [hkey, BEq.rfl, if_pos List.mem_cons_self]
      · rw [beq_eq_false_iff_ne.mpr hkey]
        simp only [List.mem_cons, hkey, false_or]

theorem filter_key_concat [DecidableEq κ] (key : α → κ) (items : List α) (a : α) (k : κ) :
    (items ++ [a]).filter (key · = k) =
      if k = key a then items.filter (key · = k) ++ [a] else items.filter (key · = k) := by
  rw [List.filter_append, List.filter_singleton]
  by_cases hkey : k = key a
  · rw [if_pos hkey, decide_eq_true hkey.symm, cond_true]
  · rw [if_neg hkey, decide_eq_false (Ne.symm hkey), cond_false, List.append_nil]

/-- Items gathered by their keys: every key has its items in order, and keys come in the
    order in which they first occur. -/
theorem entries_foldl_group (key : α → String) (items : List α) :
    (items.foldl (fun groups a => groups.put (key a) ((groups.get? (key a)).getD [] ++ [a]))
        Table.empty).entries =
      (items.map key).eraseDups.map fun k => (k, items.filter (key · = k)) := by
  induction items using List.reverseRecOn with
  | nil => rfl
  | append_singleton items a ih =>
      rw [List.foldl_concat]
      generalize items.foldl (fun groups a => groups.put (key a)
        ((groups.get? (key a)).getD [] ++ [a])) Table.empty = groups at ih ⊢
      have hkeys : groups.keys = (items.map key).eraseDups := by
        rw [Table.keys, ih, List.map_map]
        exact List.map_id _
      have hcontains : groups.contains (key a) = true ↔ key a ∈ items.map key := by
        rw [Table.contains_iff_mem_keys, hkeys, List.mem_eraseDups]
      rw [List.map_append, List.map_singleton, eraseDups_concat, Table.put]
      by_cases hmem : key a ∈ items.map key
      · -- The group of the key grows in its place.
        have hget : groups.get? (key a) = some (items.filter (key · = key a)) := by
          rw [Table.get?, ih, lookup_map_pair, if_pos (List.mem_eraseDups.mpr hmem)]
        rw [if_pos (hcontains.mpr hmem), if_pos hmem, hget, Option.getD_some]
        dsimp only
        rw [ih, List.map_map]
        refine List.map_congr_left fun k _ => ?_
        rw [Function.comp_apply, filter_key_concat]
        by_cases hk : k = key a
        · rw [if_pos hk, if_pos hk, hk]
        · rw [if_neg hk, if_neg hk]
      · -- A new group goes to the end, and the others have nothing to do with it.
        have hget : groups.get? (key a) = none := by
          rw [Table.get?, ih, lookup_map_pair, if_neg fun h => hmem (List.mem_eraseDups.mp h)]
        have hnone : items.filter (key · = key a) = [] := by
          rw [List.filter_eq_nil_iff]
          exact fun b hb hkey => hmem (of_decide_eq_true hkey ▸ List.mem_map_of_mem hb)
        rw [if_neg (hcontains.not.mpr hmem), if_neg hmem, hget, Option.getD_none, List.map_append,
          List.map_singleton, filter_key_concat, if_pos rfl, hnone]
        dsimp only
        rw [ih]
        refine congrArg (· ++ _) (List.map_congr_left fun k hk => ?_)
        have hne : k ≠ key a := fun heq => hmem (heq ▸ List.mem_eraseDups.mp hk)
        rw [filter_key_concat, if_neg hne]

/-- Without its repetitions a list has the order in which its members first occur. -/
theorem pairwise_idxOf_eraseDups [DecidableEq κ] (l : List κ) :
    l.eraseDups.Pairwise fun a b => l.idxOf a < l.idxOf b := by
  induction l using List.reverseRecOn with
  | nil => exact List.Pairwise.nil
  | append_singleton l a ih =>
      have hplace : ∀ b ∈ l.eraseDups, (l ++ [a]).idxOf b = l.idxOf b := fun b hb =>
        List.idxOf_append_of_mem (List.mem_eraseDups.mp hb)
      have hold : l.eraseDups.Pairwise fun b c => (l ++ [a]).idxOf b < (l ++ [a]).idxOf c :=
        ih.imp_of_mem fun hb hc hlt => by rwa [hplace _ hb, hplace _ hc]
      rw [eraseDups_concat]
      split
      · exact hold
      · rename_i ha
        refine List.pairwise_append.mpr ⟨hold, List.pairwise_singleton _ a, fun b hb c hc => ?_⟩
        rw [List.mem_singleton.mp hc, hplace b hb, List.idxOf_append, if_neg ha]
        have hlt := List.idxOf_lt_length_of_mem (List.mem_eraseDups.mp hb)
        omega

/-- Groups share out what they are made from, if there is one for every key. -/
theorem perm_flatMap_filter [DecidableEq κ] (key : α → κ) (items : List α) (keys : List κ)
    (hnodup : keys.Nodup) (hkeys : ∀ a ∈ items, key a ∈ keys) :
    (keys.flatMap fun k => items.filter (key · = k)).Perm items := by
  have hshare : ∀ keys : List κ, keys.Nodup →
      (keys.flatMap fun k => items.filter (key · = k)).Perm (items.filter (key · ∈ keys)) := by
    intro keys hnodup
    induction keys with
    | nil =>
        rw [List.flatMap_nil, List.filter_eq_nil_iff.mpr]
        exact fun a _ hmem => List.not_mem_nil (of_decide_eq_true hmem)
    | cons k rest ih =>
        rcases List.nodup_cons.mp hnodup with ⟨hk, hrest⟩
        rw [List.flatMap_cons]
        -- The items of the first key are split off those of all keys.
        refine ((ih hrest).append_left _).trans ?_
        have hsplit := List.filter_append_perm (key · = k) (items.filter (key · ∈ k :: rest))
        rw [List.filter_filter, List.filter_filter] at hsplit
        refine List.Perm.trans (List.Perm.of_eq ?_) hsplit
        congr 1
        · refine List.filter_congr fun a _ => ?_
          rw [Bool.eq_iff_iff]
          simp only [List.mem_cons, decide_eq_true_eq, Bool.and_eq_true]
          exact ⟨fun h => ⟨h, Or.inl h⟩, And.left⟩
        · refine List.filter_congr fun a _ => ?_
          rw [Bool.eq_iff_iff]
          simp only [List.mem_cons, decide_eq_true_eq, Bool.and_eq_true, Bool.not_eq_true',
            decide_eq_false_iff_not]
          refine ⟨fun h => ⟨fun heq => hk (heq ▸ h), Or.inr h⟩, fun h => h.2.resolve_left h.1⟩
  refine (hshare keys hnodup).trans (List.Perm.of_eq ?_)
  exact List.filter_eq_self.mpr fun a ha => decide_eq_true (hkeys a ha)

end Grouping

/-- The module that an enum is declared in: its own, or without one a module named after
    it. -/
def EnumDeclaration.emittedModule (d : EnumDeclaration) : String :=
  if d.module.isEmpty then d.qualifiedName else d.module

namespace Emit

theorem emittedModule_eq_moduleOrName (d : EnumDeclaration) :
    d.emittedModule = moduleOrName d.module d.qualifiedName :=
  rfl

/-- The enums of a list by the module that they are declared in: each module has its enums
    in the order of the list, and modules come in the order in which they first occur. -/
structure IsGrouping (enums : List EnumDeclaration)
    (groups : List (String × List EnumDeclaration)) : Prop where
  ordered : (groups.map Prod.fst).Pairwise fun a b =>
    (enums.map (·.emittedModule)).idxOf a < (enums.map (·.emittedModule)).idxOf b
  modules : ∀ module, module ∈ groups.map Prod.fst ↔ ∃ d ∈ enums, d.emittedModule = module
  members : ∀ group ∈ groups, group.2 = enums.filter (·.emittedModule = group.1)

theorem entries_enumsByModule (enums : List EnumDeclaration) :
    (enumsByModule enums).entries = (enums.map (·.emittedModule)).eraseDups.map fun module =>
      (module, enums.filter (·.emittedModule = module)) := by
  rw [enumsByModule]
  simp only [← emittedModule_eq_moduleOrName]
  exact entries_foldl_group _ enums

theorem isGrouping_enumsByModule (enums : List EnumDeclaration) :
    IsGrouping enums (enumsByModule enums).entries := by
  have hmodules : (enumsByModule enums).entries.map Prod.fst =
      (enums.map (·.emittedModule)).eraseDups := by
    rw [entries_enumsByModule, List.map_map]
    exact List.map_id _
  refine ⟨?_, fun module => ?_, ?_⟩
  · rw [hmodules]
    exact pairwise_idxOf_eraseDups _
  · rw [hmodules, List.mem_eraseDups, List.mem_map]
  · rw [entries_enumsByModule]
    intro group hgroup
    rcases List.mem_map.mp hgroup with ⟨module, _, rfl⟩
    rfl

namespace IsGrouping

variable {enums : List EnumDeclaration} {groups : List (String × List EnumDeclaration)}

theorem nodup (h : IsGrouping enums groups) : (groups.map Prod.fst).Nodup := by
  refine List.Pairwise.imp ?_ h.ordered
  rintro a b hlt rfl
  exact Nat.lt_irrefl _ hlt

theorem eq_map (h : IsGrouping enums groups) :
    groups = (groups.map Prod.fst).map fun module =>
      (module, enums.filter (·.emittedModule = module)) := by
  rw [List.map_map]
  refine (List.map_id groups).symm.trans (List.map_congr_left fun group hgroup => ?_)
  exact Prod.ext rfl (h.members group hgroup)

/-- Enums are grouped in one way. -/
theorem unique {others : List (String × List EnumDeclaration)} (h : IsGrouping enums groups)
    (h' : IsGrouping enums others) : groups = others := by
  have hperm : (groups.map Prod.fst).Perm (others.map Prod.fst) :=
    (List.perm_ext_iff_of_nodup h.nodup h'.nodup).mpr fun module =>
      (h.modules module).trans (h'.modules module).symm
  have hmodules : groups.map Prod.fst = others.map Prod.fst :=
    hperm.eq_of_pairwise (fun _ _ _ _ hab hba => absurd hab (Nat.lt_asymm hba)) h.ordered h'.ordered
  rw [h.eq_map, h'.eq_map, hmodules]

/-- The groups share out the enums. -/
theorem perm (h : IsGrouping enums groups) : (groups.flatMap Prod.snd).Perm enums := by
  have hshare := perm_flatMap_filter (·.emittedModule) enums (groups.map Prod.fst) h.nodup
    fun d hd => (h.modules _).mpr ⟨d, hd, rfl⟩
  rw [h.eq_map, List.flatMap_map]
  exact hshare

end IsGrouping

/-- The characters of a value: a text is quoted, and a number stands as it is. -/
def enumValueChars : EnumValue → List Char
  | .string text => (Text.quoted text).toList
  | .number text => text.toList

/-- The characters of a member of an enum: its comment, and a line with its name and its
    value. -/
def enumMemberChars (m : EnumMember) : List Char :=
  commentChars 2 (Text.lines m.description) ++ indentation 2 ++
    (m.name ++ " = ").toList ++ enumValueChars m.value ++ [',', '\n']

/-- The characters of an enum. -/
def enumChars (d : EnumDeclaration) : List Char :=
  commentChars 1 (Text.lines d.description) ++
    indentation 1 ++ ("export enum " ++ d.name ++ " \x7b").toList ++ ['\n'] ++
    d.members.flatMap enumMemberChars ++ indentation 1 ++ ['\x7d', '\n']

/-- The characters of the block of a module: its enums, with a blank line between
    neighbours. -/
def enumModuleChars (module : String) (enums : List EnumDeclaration) : List Char :=
  ("declare module \"" ++ module ++ "\" \x7b").toList ++ ['\n'] ++
    ['\n'].intercalate (enums.map enumChars) ++ ['\x7d', '\n']

theorem toList_render (m : EnumMember) :
    m.render.toList = (m.name ++ " = ").toList ++ enumValueChars m.value := by
  rw [EnumMember.render, String.toList_append]
  cases m.value <;> rfl

theorem charsAt_enumMember (m : EnumMember) : charsAt 2 (enumMember m) = enumMemberChars m := by
  have hline : (Line.flat (m.render ++ ",")).IsSolid :=
    isSolid_append m.render "," ⟨[], ',', rfl, by decide⟩
  rw [enumMember, charsAt_append, charsAt_describe, charsAt_flat 2 _ hline, String.toList_append,
    toList_render, enumMemberChars]
  simp only [List.append_assoc]
  rfl

theorem charsAt_enumBlock (d : EnumDeclaration) : charsAt 1 (enumBlock d) = enumChars d := by
  have hmembers : charsAt 2 (d.members.flatMap enumMember) = d.members.flatMap enumMemberChars := by
    rw [charsAt_flatMap]
    exact List.flatMap_congr fun m _ => charsAt_enumMember m
  rw [enumBlock, charsAt_append, charsAt_describe, charsAt_block 1 _ _ _ (isSolid_open _)
    isSolid_close, hmembers, enumChars]
  simp only [List.append_assoc]
  rfl

/-- The lines of the file, by the modules of its enums. -/
theorem enumsText_eq_renderLines (enums : List EnumDeclaration) :
    enumsText enums = renderLines (separated
      ((enums.map (·.emittedModule)).eraseDups.map fun module => moduleBlock module
        (separated ((enums.filter (·.emittedModule = module)).map enumBlock)))) := by
  rw [enumsText, entries_enumsByModule, List.map_map]
  rfl

theorem charsAt_moduleBlock (module : String) (enums : List EnumDeclaration) :
    charsAt 0 (moduleBlock module (separated (enums.map enumBlock))) =
      enumModuleChars module enums := by
  have henums : (enums.map enumBlock).map (charsAt 1) = enums.map enumChars := by
    rw [List.map_map]
    refine List.map_congr_left fun d _ => ?_
    rw [Function.comp_apply, charsAt_enumBlock]
  rw [moduleBlock, charsAt_block 0 _ _ _ (isSolid_append _ _ ⟨['"', ' '], '\x7b', rfl, by decide⟩)
    isSolid_close, charsAt_separated, henums, enumModuleChars]
  simp only [List.append_assoc]
  rfl

/-- The text of the file is that of its groups. -/
theorem enumsText_of_grouping (enums : List EnumDeclaration) :
    enumsText enums = String.ofList
      (['\n'].intercalate ((enumsByModule enums).entries.map fun group =>
        enumModuleChars group.1 group.2)) := by
  rw [enumsText_eq_renderLines, renderLines_eq, charsAt_separated, entries_enumsByModule,
    List.map_map, List.map_map]
  refine congrArg (fun blocks => String.ofList (['\n'].intercalate blocks))
    (List.map_congr_left fun module _ => ?_)
  rw [Function.comp_apply, Function.comp_apply, charsAt_moduleBlock]

/-- The file for the enums of a library has one block for each of their modules, in the
    order in which these first occur, with a blank line between neighbours. The module of an
    enum is its own, or its qualified name if that is empty. A block has the enums of its
    module in the order of the list, and together the blocks have the enums of the list, none
    lost and none twice. -/
theorem enumsText_eq (enums : List EnumDeclaration) :
    (∀ d ∈ enums, (d.module ≠ "" → d.emittedModule = d.module) ∧
        (d.module = "" → d.emittedModule = d.qualifiedName)) ∧
      ∃ groups, (∀ others, IsGrouping enums others ↔ others = groups) ∧
        (groups.flatMap Prod.snd).Perm enums ∧
        enumsText enums = String.ofList
          (['\n'].intercalate (groups.map fun group => enumModuleChars group.1 group.2)) := by
  refine ⟨fun d _ => ⟨fun hmodule => ?_, fun hmodule => ?_⟩, ?_⟩
  · rw [EnumDeclaration.emittedModule, if_neg]
    rwa [String.isEmpty_iff]
  · rw [EnumDeclaration.emittedModule, if_pos (String.isEmpty_iff.mpr hmodule)]
  · have hgrouping := isGrouping_enumsByModule enums
    refine ⟨(enumsByModule enums).entries, fun others => ⟨fun h => h.unique hgrouping, ?_⟩,
      hgrouping.perm, enumsText_of_grouping enums⟩
    rintro rfl
    exact hgrouping

section Example

/-- Two enums of a module with one between them that has no module. -/
def interleavedEnums : List EnumDeclaration :=
  [{ name := "Size", qualifiedName := "lib.Size", module := "lib/library"
     members := [⟨"Small", .number "1", ""⟩, ⟨"Large", .number "2", ""⟩] },
    { name := "Mode", qualifiedName := "app.Mode", module := "" },
    { name := "Color", qualifiedName := "lib.Color", module := "lib/library" }]

theorem isGrouping_interleavedEnums :
    IsGrouping interleavedEnums
      [("lib/library", interleavedEnums.eraseIdx 1), ("app.Mode", [interleavedEnums[1]])] where
  ordered := by decide +kernel
  modules := by
    intro module
    have hmodules : interleavedEnums.map (·.emittedModule) =
        ["lib/library", "app.Mode", "lib/library"] := by decide +kernel
    rw [← List.mem_map, hmodules]
    simp only [List.map_cons, List.map_nil, List.mem_cons, List.not_mem_nil]
    grind
  members := by decide +kernel

/-- The enums of the module come together, in their order, and the other one is declared in a
    module named after it. -/
theorem enumsText_interleavedEnums :
    enumsText interleavedEnums = String.ofList
      ("declare module \"lib/library\" \x7b\n".toList ++
        "    export enum Size \x7b\n".toList ++
        "        Small = 1,\n".toList ++ "        Large = 2,\n".toList ++
        "    \x7d\n".toList ++ "\n".toList ++
        "    export enum Color \x7b\n".toList ++ "    \x7d\n".toList ++ "\x7d\n".toList ++
        "\n".toList ++
        "declare module \"app.Mode\" \x7b\n".toList ++
        "    export enum Mode \x7b\n".toList ++ "    \x7d\n".toList ++ "\x7d\n".toList) := by
  rcases enumsText_eq interleavedEnums with ⟨_, groups, hgroups, _, htext⟩
  rw [htext, ← (hgroups _).mp isGrouping_interleavedEnums]
  refine congrArg String.ofList ?_
  decide +kernel

end Example

end Emit

end Typings
