import Typings.Project.Run
import Typings.Proofs.Project.Output
import Typings.Proofs.Sources.Acquire

/-!
# What a Failed Run Leaves Behind

A run checks its configuration before it asks for sources, and has all sources before it
writes a declaration. If it fails that early, the files of the project are as they were,
but for what was fetched until then and is in the cache.

A cycle is found later, when enums and interfaces are on the disk already, with the file of
the tokens that others stand for. Nothing else is. What would have come after that is not
begun: what the run leaves behind is the same whatever the replacement files are and
wherever the model was to go.

That a file is not written can be said of places only, and two files may be at one place. So
what is said first is what is written, with its content. That no file of a class or of a
namespace is among it follows where the files of enums and interfaces are where their names
say.

## Main definitions

* `RunError.IsEarly`, `RunError.IsLate`: A run failed before it had its sources, or after its
  declarations were written.
* `OutputDirectory.IsFileFor`, `OutputDirectory.IsFileOf`: The place and the content of the file
  for a target, and of the files of items.
* `Project.acquired`: What acquiring its sources leaves a run with.
* `Project.StoppedByCycle`: What a run leaves behind that has found a cycle.

## Theorems

* `OutputDirectory.writesOnly_foldl`: What rendering items writes.
* `Project.run_cases`: How far a run comes.
* `Project.produce_of_cycle`: What a run has done when it finds a cycle.
* `Project.stoppedByCycle_foldl`: What that leaves behind.
* `Project.failed_run`: What a failed run leaves behind.
-/

namespace Typings

open Emit (Item RenderError)

/-- A run failed before it had its sources. -/
def RunError.IsEarly : RunError → Prop
  | .noEndpoints _ | .postProcessing _ | .acquisition _ => True
  | _ => False

/-- A run failed after its declarations were written. -/
def RunError.IsLate : RunError → Prop
  | .replacements _ | .modelDirectory _ _ | .modelFile _ _ => True
  | _ => False

namespace OutputDirectory

variable (o : OutputDirectory)

/-- A place is that of the file for a target, and a content is what is written for it. -/
def IsFileFor (target text : String) (place : Place) (content : ByteArray) : Prop :=
  FileTree.placeOf? (o.pathOf target) = some place ∧
    content = (o.processor.apply target text).toUTF8

/-- A place is that of the file of an item, and a content is what is written for it. -/
def IsFileOf (items : List Item) (place : Place) (content : ByteArray) : Prop :=
  ∃ item ∈ items, o.IsFileFor item.target item.text place content

/-- A place is that of a directory in which there is a file for a target, or of one above it. -/
def IsDirectoryFor (target : String) (place : Place) : Prop :=
  FileTree.LeadsThrough ((Path.parent? (o.pathOf target)).getD "") place

/-- Writing the text for a target writes its file, and the directories above. -/
theorem writesOnly_writeTarget (t : FileTree) (target text : String) :
    t.WritesOnly (o.IsFileFor target text) (o.IsDirectoryFor target)
      (o.writeTarget t target text).1 :=
  t.writesOnly_writeText (o.pathOf target) (o.processor.apply target text)

/-- Rendering items writes their files. -/
theorem writesOnly_foldl (t : FileTree) (items : List Item) :
    t.WritesOnly (o.IsFileOf items) (fun place => ∃ x ∈ items, o.IsDirectoryFor x.target place)
      (items.foldl (fun t item => (o.renderer t item).1) t) := by
  induction items generalizing t with
  | nil => exact .refl
  | cons item rest ih =>
      -- The first item writes one of the files, and what is left writes some of them.
      have hone : t.WritesOnly (o.IsFileOf (item :: rest))
          (fun place => ∃ x ∈ item :: rest, o.IsDirectoryFor x.target place)
          (o.renderer t item).1 :=
        (o.writesOnly_writeTarget t item.target item.text).mono
          (fun _ _ h => ⟨item, List.mem_cons_self, h⟩) fun _ h => ⟨item, List.mem_cons_self, h⟩
      rw [List.foldl_cons]
      refine hone.trans ((ih (o.renderer t item).1).mono (fun place content h => ?_)
        fun place h => ?_)
      · rcases h with ⟨x, hx, hfile⟩
        exact ⟨x, List.mem_cons_of_mem _ hx, hfile⟩
      · rcases h with ⟨x, hx, hdirectory⟩
        exact ⟨x, List.mem_cons_of_mem _ hx, hdirectory⟩

/-- The file of an item is not at the place of the file for another target, if both files are
    where their names say. -/
theorem ne_placeOf?_of_plain (x : Item) (target text : String) (place : Place)
    (content : ByteArray) (hplain : Path.IsPlain (Emit.targetFile x.target))
    (hplain' : Path.IsPlain (Emit.targetFile target)) (htarget : target ≠ x.target)
    (hplace : FileTree.placeOf? (o.fileOf x) = some place) :
    ¬ o.IsFileFor target text place content := by
  rintro ⟨hplace', _⟩
  have hfile := FileTree.eq_of_placeOf?_join o.path _ _ place hplain' hplain hplace' hplace
  exact htarget ((String.append_left_inj _).mp hfile)

end OutputDirectory

namespace Project

variable (a : Arguments) (cwd : String) (config : Config) (t : FileTree)

/-- What acquiring its sources leaves a run with. -/
def acquired : Acquisition :=
  acquire config.connection.endpoints
    (Fetcher.below (Path.join (baseDir a cwd) config.connection.root)) (cache? a cwd config) t

/-- A run with endpoints, rules and sources comes to what is done with its sources. -/
theorem run_eq_produce (processor : PostProcessor) (sources : List Api.Source)
    (hendpoints : ¬ config.connection.endpoints.isEmpty = true)
    (hprocessor : PostProcessor.ofConfig config.postProcessing = .ok processor)
    (hacquired : (acquired a cwd config t).result = .ok sources) :
    run a cwd config t = produce a cwd config ⟨outputDir a cwd config, processor⟩
      (acquired a cwd config t).tree sources := by
  rw [acquired] at hacquired
  rw [run, if_neg hendpoints, hprocessor]
  simp only [hacquired]
  rfl

/-- How far a run comes: it has no endpoints, or a rule is not valid, or it has no sources,
    or it comes to what is done with its sources. -/
theorem run_cases :
    run a cwd config t = (t, .error (.noEndpoints (configPath a cwd))) ∨
      (∃ e, run a cwd config t = (t, .error (.postProcessing e))) ∨
      (∃ e, run a cwd config t =
        ((acquired a cwd config t).tree, .error (.acquisition e))) ∨
      ∃ processor sources, ¬ config.connection.endpoints.isEmpty = true ∧
        PostProcessor.ofConfig config.postProcessing = .ok processor ∧
        (acquired a cwd config t).result = .ok sources := by
  by_cases hnone : config.connection.endpoints.isEmpty = true
  · rw [run, if_pos hnone]
    exact Or.inl rfl
  · cases hprocessor : PostProcessor.ofConfig config.postProcessing with
    | error e =>
        rw [run, if_neg hnone, hprocessor]
        exact Or.inr (Or.inl ⟨e, rfl⟩)
    | ok processor =>
        cases hacquired : (acquired a cwd config t).result with
        | error e =>
            rw [acquired] at hacquired
            rw [run, if_neg hnone, hprocessor]
            simp only [hacquired]
            exact Or.inr (Or.inr (Or.inl ⟨e, rfl⟩))
        | ok sources => exact Or.inr (Or.inr (Or.inr ⟨processor, sources, hnone, rfl, rfl⟩))

/-- Writing the model fails late. -/
theorem isLate_of_writeModel (path : String) (output : Output) (e : RunError)
    (herror : (writeModel t path output).2 = some e) : e.IsLate := by
  unfold writeModel at herror
  rcases hmade : t.createDirs ((Path.parent? path).getD "") with ⟨made, _ | fault⟩
  · simp only [hmade] at herror
    cases hwritten : made.write path output.toValue.spread.toUTF8 with
    | ok written =>
        rw [hwritten] at herror
        exact absurd herror nofun
    | error fault =>
        rw [hwritten] at herror
        rw [← Option.some.inj herror]
        trivial
  · simp only [hmade] at herror
    rw [← Option.some.inj herror]
    trivial

/-- What comes after the declarations fails late. -/
theorem isLate_of_finish (o : OutputDirectory) (output : Output) (e : RunError)
    (herror : (finish a cwd config o t output).2 = .error e) : e.IsLate := by
  unfold finish at herror
  cases hcopied : (o.copyReplacements t
      (Path.join (baseDir a cwd) config.replacementsDir)).error with
  | some fault =>
      simp only [hcopied] at herror
      rw [← Except.error.inj herror]
      trivial
  | none =>
      simp only [hcopied] at herror
      cases hfile : a.modelFile with
      | none =>
          simp only [hfile] at herror
          exact absurd herror nofun
      | some file =>
          simp only [hfile] at herror
          rcases hwritten : writeModel (o.copyReplacements t
            (Path.join (baseDir a cwd) config.replacementsDir)).tree (Path.join cwd file)
            output with ⟨written, _ | fault⟩
          · simp only [hwritten] at herror
            exact absurd herror nofun
          · simp only [hwritten] at herror
            rw [← Except.error.inj herror]
            exact isLate_of_writeModel _ _ output fault (congrArg Prod.snd hwritten)

/-- If the tokens can be written and there is a cycle, enums and interfaces are written before
    it ends the run. -/
theorem produce_of_cycle (o : OutputDirectory) (sources : List Api.Source)
    (cycle : InheritanceCycle) (htokens : (o.writeSubstitutions t config.substitutions).2 = none)
    (hcycle : (synthesize config sources).classes.cycle? = some cycle) :
    produce a cwd config o t sources =
      ((synthesize config sources).earlyItems.foldl (fun t item => (o.renderer t item).1)
        (o.writeSubstitutions t config.substitutions).1, .error (.cycle cycle)) := by
  unfold produce
  cases hwritten : o.writeSubstitutions t config.substitutions with
  | mk written fault =>
      rw [hwritten] at htokens
      have hresult :=
        (result_generate_eq_error_iff o.renderer config sources written cycle).mpr hcycle
      rw [show fault = none from htokens]
      simp only [hresult, state_generate_of_cycle o.renderer config sources written cycle hcycle]

/-- What is done with the sources of a run fails because of the tokens, because of a cycle, or
    late. -/
theorem produce_eq_error (o : OutputDirectory) (sources : List Api.Source) (e : RunError)
    (herror : (produce a cwd config o t sources).2 = .error e) :
    (∃ fault, e = .substitutions fault) ∨ e.IsLate ∨
      ∃ cycle, e = .cycle cycle ∧ (o.writeSubstitutions t config.substitutions).2 = none ∧
        (synthesize config sources).classes.cycle? = some cycle := by
  unfold produce at herror
  cases hwritten : o.writeSubstitutions t config.substitutions with
  | mk written fault =>
      rw [hwritten] at herror
      cases fault with
      | some fault => exact Or.inl ⟨fault, (Except.error.inj herror).symm⟩
      | none =>
          simp only at herror
          cases hresult : (generate config sources o.renderer written).result with
          | error cycle =>
              simp only [hresult] at herror
              exact Or.inr (Or.inr ⟨cycle, (Except.error.inj herror).symm, rfl,
                (result_generate_eq_error_iff o.renderer config sources written cycle).mp hresult⟩)
          | ok output =>
              simp only [hresult] at herror
              exact Or.inr (Or.inl (isLate_of_finish a cwd config _ o output e herror))

/-- What a run leaves behind that has found a cycle among its sources: what was fetched, the
    tokens, and enums and interfaces. -/
structure StoppedByCycle (o : OutputDirectory) (sources : List Api.Source) (t' : FileTree) :
    Prop where
  /-- After its sources were acquired, the tokens were written, and then nothing was rendered
      but these items. -/
  rendered : t' = (synthesize config sources).earlyItems.foldl (fun t item => (o.renderer t item).1)
    (o.writeSubstitutions (acquired a cwd config t).tree config.substitutions).1
  kinds : ∀ item ∈ (synthesize config sources).earlyItems,
    item.kind = .enums ∨ item.kind = .interface
  /-- Every file is as before, or is in the cache, or has the text of the tokens or of one of
      the items. -/
  written : t.WritesOnly
    (fun place content =>
      Acquisition.IsEntry (cache? a cwd config) config.connection.endpoints place ∨
        o.IsFileFor Emit.substitutedTarget
          (OutputDirectory.substitutionText config.substitutions) place content ∨
        o.IsFileOf (synthesize config sources).earlyItems place content)
    (fun place =>
      Acquisition.IsCacheDirectory (cache? a cwd config) place ∨
        o.IsDirectoryFor Emit.substitutedTarget place ∨
        ∃ x ∈ (synthesize config sources).earlyItems, o.IsDirectoryFor x.target place)
    t'
  /-- The file of a class or of a namespace is as before, as long as names lead where they
      say and the cache is elsewhere. -/
  untouched : ∀ x : Item, x.kind = .class ∨ x.kind = .namespace →
    Path.IsPlain (Emit.targetFile x.target) →
    (∀ item ∈ (synthesize config sources).earlyItems, Path.IsPlain (Emit.targetFile item.target)) →
    ∀ place, FileTree.placeOf? (o.fileOf x) = some place →
      ¬ Acquisition.IsEntry (cache? a cwd config) config.connection.endpoints place →
      t'.fileAt? place = t.fileAt? place

/-- A run that has found a cycle has written nothing after it. -/
theorem stoppedByCycle_foldl (o : OutputDirectory) (sources : List Api.Source) :
    StoppedByCycle a cwd config t o sources
      ((synthesize config sources).earlyItems.foldl (fun t item => (o.renderer t item).1)
        (o.writeSubstitutions (acquired a cwd config t).tree config.substitutions).1) := by
  have hkinds := kind_of_mem_earlyItems (synthesize config sources)
  have hacquired := Acquisition.writesOnly_acquire config.connection.endpoints
    (Fetcher.below (Path.join (baseDir a cwd) config.connection.root)) (cache? a cwd config) t
  have htokens := o.writesOnly_writeTarget (acquired a cwd config t).tree Emit.substitutedTarget
    (OutputDirectory.substitutionText config.substitutions)
  have hitems := o.writesOnly_foldl
    (o.writeSubstitutions (acquired a cwd config t).tree config.substitutions).1
    (synthesize config sources).earlyItems
  -- Three steps write, one after the other, and each of them only its own.
  have hwritten := (hacquired.mono (fun _ _ h => Or.inl h) fun _ h => Or.inl h).trans
    ((htokens.mono (fun _ _ h => Or.inr (Or.inl h)) fun _ h => Or.inr (Or.inl h)).trans
      (hitems.mono (fun _ _ h => Or.inr (Or.inr h)) fun _ h => Or.inr (Or.inr h)))
  refine ⟨rfl, hkinds, hwritten, fun x hx hplain hearly place hplace hcache => ?_⟩
  refine hwritten.fileAt?_eq place fun content hfile => ?_
  rcases hfile with hentry | hfile | ⟨item, hitem, hfile⟩
  · exact hcache hentry
  · refine o.ne_placeOf?_of_plain x _ _ place content hplain (by decide) ?_ hplace hfile
    -- The target of the tokens does not begin like the directory of any kind.
    intro htarget
    have hhead := x.head?_target
    rw [← htarget] at hhead
    rcases hx with hkind | hkind <;> rw [hkind] at hhead <;> exact absurd hhead (by decide)
  · refine o.ne_placeOf?_of_plain x _ _ place content hplain (hearly item hitem) ?_ hplace hfile
    -- Items with one target are of one kind, but what was rendered is of another.
    intro htarget
    have hkind := ((Emit.Item.target_eq_iff item x).mp htarget).1
    rcases hx with hx | hx <;> rcases hkinds item hitem with hitem | hitem <;>
      rw [hx, hitem] at hkind <;> exact absurd hkind nofun

/-- A run that fails early leaves what acquiring its sources leaves, if it came to that. -/
theorem tree_of_isEarly (e : RunError) (herror : (run a cwd config t).2 = .error e)
    (hearly : e.IsEarly) :
    (run a cwd config t).1 = t ∨
      (run a cwd config t).1 = (acquired a cwd config t).tree ∧
        ∃ fault, e = .acquisition fault := by
  rcases run_cases a cwd config t with hrun | ⟨e', hrun⟩ | ⟨e', hrun⟩ |
    ⟨processor, sources, hendpoints, hprocessor, hacquired⟩
  · exact Or.inl (congrArg Prod.fst hrun)
  · exact Or.inl (congrArg Prod.fst hrun)
  · rw [hrun] at herror ⊢
    exact Or.inr ⟨rfl, e', (Except.error.inj herror).symm⟩
  · -- With its sources a run does not fail early any more.
    rw [run_eq_produce a cwd config t processor sources hendpoints hprocessor hacquired] at herror
    rcases produce_eq_error a cwd config _ _ sources e herror with ⟨fault, rfl⟩ | hlate |
      ⟨cycle, rfl, _⟩
    · exact hearly.elim
    · cases e <;> first | exact hearly.elim | exact hlate.elim
    · exact hearly.elim

/-- A run ends with a cycle if it had its sources, could write the tokens, and found it. -/
theorem exists_sources_of_cycle (cycle : InheritanceCycle)
    (herror : (run a cwd config t).2 = .error (.cycle cycle)) :
    ∃ processor sources, ¬ config.connection.endpoints.isEmpty = true ∧
      PostProcessor.ofConfig config.postProcessing = .ok processor ∧
      (acquired a cwd config t).result = .ok sources ∧
      (OutputDirectory.writeSubstitutions ⟨outputDir a cwd config, processor⟩
        (acquired a cwd config t).tree config.substitutions).2 = none ∧
      (synthesize config sources).classes.cycle? = some cycle := by
  rcases run_cases a cwd config t with hrun | ⟨e', hrun⟩ | ⟨e', hrun⟩ |
    ⟨processor, sources, hendpoints, hprocessor, hacquired⟩
  · exact absurd ((congrArg Prod.snd hrun).symm.trans herror) nofun
  · exact absurd ((congrArg Prod.snd hrun).symm.trans herror) nofun
  · exact absurd ((congrArg Prod.snd hrun).symm.trans herror) nofun
  · rw [run_eq_produce a cwd config t processor sources hendpoints hprocessor hacquired] at herror
    rcases produce_eq_error a cwd config _ _ sources _ herror with ⟨fault, hfault⟩ | hlate |
      ⟨cycle', hcycle, htokens, hfound⟩
    · exact absurd hfault nofun
    · exact hlate.elim
    · rw [← RunError.cycle.inj hcycle] at hfound
      exact ⟨processor, sources, hendpoints, hprocessor, hacquired, htokens, hfound⟩

/-- What a failed run leaves behind. Without endpoints or with rules that are not valid it has
    done nothing. If sources could not be acquired, at most entries of the cache are different.
    If there is a cycle, only enums and interfaces were rendered. What the replacement files are
    and where the model was to go made no difference to it. -/
theorem failed_run :
    (∀ path, (run a cwd config t).2 = .error (.noEndpoints path) → (run a cwd config t).1 = t) ∧
      (∀ e, (run a cwd config t).2 = .error (.postProcessing e) → (run a cwd config t).1 = t) ∧
      (∀ e, (run a cwd config t).2 = .error e → e.IsEarly →
        t.WritesOnly
          (fun place _ =>
            Acquisition.IsEntry (cache? a cwd config) config.connection.endpoints place)
          (Acquisition.IsCacheDirectory (cache? a cwd config)) (run a cwd config t).1) ∧
      ∀ cycle, (run a cwd config t).2 = .error (.cycle cycle) →
        (∃ processor sources, PostProcessor.ofConfig config.postProcessing = .ok processor ∧
          (acquired a cwd config t).result = .ok sources ∧
          StoppedByCycle a cwd config t ⟨outputDir a cwd config, processor⟩ sources
            (run a cwd config t).1) ∧
        ∀ (modelFile : Option String) (replacementsDir : String),
          run { a with modelFile } cwd { config with replacementsDir } t = run a cwd config t := by
  have htree := tree_of_isEarly a cwd config t
  refine ⟨fun path herror => ?_, fun e herror => ?_, fun e herror hearly => ?_,
    fun cycle herror => ?_⟩
  · rcases htree _ herror trivial with hsame | ⟨_, _, hfault⟩
    · exact hsame
    · exact absurd hfault nofun
  · rcases htree _ herror trivial with hsame | ⟨_, _, hfault⟩
    · exact hsame
    · exact absurd hfault nofun
  · rcases htree e herror hearly with hsame | ⟨hsame, _⟩ <;> rw [hsame]
    · exact .refl
    · exact Acquisition.writesOnly_acquire config.connection.endpoints _ _ t
  · rcases exists_sources_of_cycle a cwd config t cycle herror with
      ⟨processor, sources, hendpoints, hprocessor, hacquired, htokens, hcycle⟩
    have hrun := (run_eq_produce a cwd config t processor sources hendpoints hprocessor
      hacquired).trans (produce_of_cycle a cwd config _ _ sources cycle htokens hcycle)
    refine ⟨⟨processor, sources, hprocessor, hacquired, ?_⟩, fun modelFile replacementsDir => ?_⟩
    · rw [hrun]
      exact stoppedByCycle_foldl a cwd config t _ sources
    · -- Neither of them is looked at before a cycle is found.
      rw [hrun]
      exact (run_eq_produce { a with modelFile } cwd { config with replacementsDir } t processor
        sources hendpoints hprocessor hacquired).trans
        (produce_of_cycle { a with modelFile } cwd { config with replacementsDir } _ _ sources
          cycle htokens hcycle)

section Example

/-- A library with an enum, and with a class that extends itself. -/
def tangledText : String :=
  "\x7b\"symbols\": [\x7b\"kind\": \"enum\", \"name\": \"lib.E\"\x7d, " ++
    "\x7b\"kind\": \"class\", \"name\": \"A\", \"extends\": \"A\"\x7d]\x7d"

/-- A project of that library. -/
def tangledProject : FileTree where
  entries := [(["lib.json"], .file tangledText.toUTF8)]

/-- A configuration that keeps sources. -/
def keepingConfig (endpoints : List String) : Config where
  connection := { endpoints := endpoints }
  usesCache := true

/-- If one of two sources is missing, the other one is in the cache, and nothing else is
    different. If both are there, the cycle is found after the enum was rendered. -/
theorem failed_run_tangledProject :
    (∃ fault, (run {} "/" (keepingConfig ["lib.json", "gone.json"]) tangledProject).2 =
        .error (.acquisition fault)) ∧
      tangledProject.WritesOnly
        (fun place _ => Acquisition.IsEntry (some ⟨"/apis"⟩) ["lib.json", "gone.json"] place)
        (Acquisition.IsCacheDirectory (some ⟨"/apis"⟩))
        (run {} "/" (keepingConfig ["lib.json", "gone.json"]) tangledProject).1 ∧
      (run {} "/" (keepingConfig ["lib.json"]) tangledProject).2 =
        .error (.cycle ⟨["A", "A"]⟩) ∧
      (run {} "/" (keepingConfig ["lib.json"]) tangledProject).1.names ["declarations"] =
        ["enums", "substituted.d.ts"] ∧
      ∀ modelFile, run { modelFile } "/" (keepingConfig ["lib.json"]) tangledProject =
        run {} "/" (keepingConfig ["lib.json"]) tangledProject := by
  have hacquisition : ∀ r : Except RunError RunSummary,
      (match r with | .error (.acquisition _) => true | _ => false) = true →
        ∃ fault, r = .error (.acquisition fault) := by
    intro r hr
    split at hr
    · exact ⟨_, rfl⟩
    · contradiction
  have hcycle : ∀ (r : Except RunError RunSummary) (names : List String),
      (match r with | .error (.cycle c) => some c.classes | _ => none) = some names →
        r = .error (.cycle ⟨names⟩) := by
    intro r names hr
    split at hr
    · rw [← Option.some.inj hr]
    · contradiction
  rcases hacquisition (run {} "/" (keepingConfig ["lib.json", "gone.json"]) tangledProject).2
    (by decide +kernel) with ⟨fault, hmissing⟩
  have htangled := hcycle (run {} "/" (keepingConfig ["lib.json"]) tangledProject).2 ["A", "A"]
    (by decide +kernel)
  have hcache : cache? {} "/" (keepingConfig ["lib.json", "gone.json"]) = some ⟨"/apis"⟩ := by
    decide +kernel
  have hwritten := (failed_run {} "/" (keepingConfig ["lib.json", "gone.json"])
    tangledProject).2.2.1 _ hmissing trivial
  rw [hcache] at hwritten
  exact ⟨⟨fault, hmissing⟩, hwritten, htangled, by decide +kernel, fun modelFile =>
    ((failed_run {} "/" (keepingConfig ["lib.json"]) tangledProject).2.2.2 _ htangled).2
      modelFile "replacements"⟩

end Example

end Project

end Typings
