import Typings.Proofs.Emit.Braces

/-!
# Writing Step by Step

A file can be written from the first character to the last, by an emitter that keeps a
buffer and the level at which the next line stands. It writes the indentation of a line,
then what is on it, and ends it. Whenever it opens a block it goes one level deeper, and
before it closes one it goes back. None of these steps knows about the others, and the
steps that belong to a block are taken in different places.

What keeps them together is that the steps for a part of a file are put together from
those for its lines and its blocks, in the way in which its lines are. Such steps leave
the level as it was, and the braces they write of their own accord are those of blocks
opened and closed again. So the level is the number of blocks that are open, everywhere:
those that were open before, and those opened since.

## Main definitions

* `Piece`, `Step`: What is written at a time, and what an emitter does at a time.
* `Emitter`, `Emitter.run`: An emitter, and what it comes to by some steps.
* `Item.steps`: The steps in which the file for an item is written.
* `openBlocks`, `closesBlock`: The blocks that steps leave open, and the lines that close
  one.
* `Step.Fits`, `Follows`: Steps that are taken at the level of the open blocks.
* `OpensBlocks`: A line that opens a number of blocks.
* `Emits`: Steps that write lines, wherever they are taken.

## Theorems

* `Emits.run_eq`: Lines are written at the level of the emitter, which stays the same.
* `Follows.fits`: What a step asks for, behind the steps that come before it.
* `Emits.follows`: The level is the number of open blocks, if it is to begin with.
* `emits_enumsSteps`, `emits_classSteps`, `emits_namespaceSteps`: The kinds of files.
* `steps_wellBracketed`: Files are written at the right level and are well bracketed.
-/

namespace Typings

open Text (IsBalanced)

namespace Emit

/-- What is written at a time: a text of the emitter's own, or one that it was given. -/
inductive Piece where
  | own (text : String)
  | embedded (text : String)
  deriving DecidableEq, Repr

def Piece.text : Piece → String
  | .own text => text
  | .embedded text => text

/-- What an emitter does at a time. -/
inductive Step where
  | reset
  | indent
  | write (piece : Piece)
  | endLine
  | increase
  | decrease
  deriving DecidableEq, Repr

/-- A buffer, and the level at which the next line stands. -/
structure Emitter where
  writer : Writer := {}
  level : Nat := 0
  deriving DecidableEq, Repr

/-- The spaces that are written for each level. -/
def indentUnit : String := "    "

namespace Emitter

/-- Take a step. There is no level in front of the first, so a decrease stops there. -/
def step (e : Emitter) : Step → Emitter
  | .reset => {}
  | .indent => { e with writer := (Writer.write · indentUnit)^[e.level] e.writer }
  | .write piece => { e with writer := e.writer.write piece.text }
  | .endLine => { e with writer := e.writer.endLine }
  | .increase => { e with level := e.level + 1 }
  | .decrease => if 0 < e.level then { e with level := e.level - 1 } else e

/-- Take one step after the other. -/
def run (e : Emitter) (steps : List Step) : Emitter :=
  steps.foldl step e

theorem run_append (e : Emitter) (first second : List Step) :
    e.run (first ++ second) = (e.run first).run second :=
  List.foldl_append

end Emitter

section Scripts

/-- The steps for a line. -/
def onLine (pieces : List Piece) : List Step :=
  .indent :: pieces.map Step.write ++ [.endLine]

/-- The steps for several parts, with a blank line between neighbours. -/
def separatedSteps : List (List Step) → List Step
  | [] => []
  | [steps] => steps
  | steps :: rest => steps ++ .endLine :: separatedSteps rest

/-- The steps for documentation; none at all if it would have no lines. -/
def docSteps (lines : List String) : List Step :=
  if lines.isEmpty then []
  else
    onLine [.own "/**"] ++
    lines.flatMap (fun line =>
      onLine [.own " * ", .embedded (String.ofList (guardComment line.toList))]) ++
    onLine [.own " */"]

/-- The steps that open the block of a module. -/
def beginModule (module : String) : List Step :=
  onLine [.own "declare module \"", .embedded module, .own "\" \x7b"] ++ [.increase]

/-- The steps that close the block of a module. -/
def endModule : List Step :=
  [.decrease] ++ onLine [.own "\x7d"]

/-- The steps for the imports of a module. -/
def importSteps (module : String) (imports : List TypeImport) : List Step :=
  let needed := outsideImports module imports
  if needed.isEmpty then []
  else
    (importedModules needed).flatMap (fun source =>
      onLine [.own "import \x7b ", .embedded (Text.join ", " (importedNames needed source)),
        .own " \x7d from \"", .embedded source, .own "\";"]) ++
    [.endLine]

/-- The steps for an enum. -/
def enumSteps (d : EnumDeclaration) : List Step :=
  docSteps (Text.lines d.description) ++
  (onLine [.own "export enum ", .embedded d.name, .own " \x7b"] ++ [.increase] ++
    d.members.flatMap (fun m =>
      docSteps (Text.lines m.description) ++ onLine [.embedded m.render, .own ","]) ++
  [.decrease] ++ onLine [.own "\x7d"])

/-- The steps for the enums of a library. -/
def enumsSteps (enums : List EnumDeclaration) : List Step :=
  separatedSteps ((enumsByModule enums).entries.map fun (module, group) =>
    beginModule module ++ separatedSteps (group.map enumSteps) ++ endModule)

/-- The steps for a member. -/
def memberSteps (m : MethodDeclaration) : List Step :=
  docSteps m.doc ++ onLine [.embedded m.signature, .own ";"]

/-- The steps for the parameters of an event, as one object. -/
def payloadParametersSteps (e : EventDeclaration) : List Step :=
  if e.parameters.isEmpty then onLine [.own "getParameters(): \x7b\x7d;"]
  else
    onLine [.own "getParameters(): \x7b"] ++ [.increase] ++
      e.parameters.flatMap (fun p =>
        onLine [.embedded p.name, .own ": ", .embedded p.type, .own ";"]) ++
    [.decrease] ++ onLine [.own "\x7d;"]

/-- The steps for the payload interface of an event. -/
def payloadSteps (sourceType : String) (e : EventDeclaration) : List Step :=
  docSteps (Text.lines e.description) ++
  (onLine [.own "export interface ", .embedded e.payloadType, .own " \x7b"] ++ [.increase] ++
    (onLine [.own "getSource(): ", .embedded sourceType, .own ";"] ++
      payloadParametersSteps e ++
      e.parameters.flatMap (fun p =>
        docSteps (Text.lines p.description) ++
        onLine [.own "getParameter(sName: \"", .embedded p.name, .own "\"): ", .embedded p.type,
          .own ";"])) ++
  [.decrease] ++ onLine [.own "\x7d"])

/-- What an extending declaration says behind its name. -/
def extendsPieces : Option String → List Piece
  | some base => [.own " extends ", .embedded base]
  | none => []

/-- The steps for the interface for the settings of a class. -/
def settingsSteps (s : SettingsInterface) : List Step :=
  onLine ([.own "export interface ", .embedded s.name] ++ extendsPieces s.base ++
    [.own " \x7b"]) ++ [.increase] ++
    s.properties.flatMap (fun p =>
      docSteps (Text.lines p.description ++
        p.defaultValue.toList.map fun value => "@default " ++ value) ++
      onLine [.embedded p.name, .own "?: ", .embedded p.type, .own ";"]) ++
  [.decrease] ++ onLine [.own "\x7d"]

/-- The steps for a class or an interface. -/
def classSteps (kind : ClassKind) (d : ClassDeclaration) : List Step :=
  let module := moduleOrName d.module d.qualifiedName
  beginModule module ++
    (importSteps module d.imports ++
      d.events.flatMap (fun e => payloadSteps d.name e ++ [.endLine]) ++
      d.settings.toList.flatMap (fun s => settingsSteps s ++ [.endLine]) ++
      (docSteps (Text.lines d.description) ++
      (onLine ([.own "export ", .own kind.name, .own " ", .embedded d.name] ++
        extendsPieces d.baseClass ++ [.own " \x7b"]) ++ [.increase] ++
        (d.constructors ++ d.methods).flatMap memberSteps ++
      [.decrease] ++ onLine [.own "\x7d"]))) ++
  endModule

/-- The steps for a namespace. -/
def namespaceSteps (d : NamespaceDeclaration) : List Step :=
  let module := moduleOrName d.module d.qualifiedName
  beginModule module ++
    (importSteps module d.imports ++
      docSteps (Text.lines d.description) ++
      (onLine [.own "export namespace ", .embedded d.name, .own " \x7b"] ++ [.increase] ++
        (d.properties.flatMap (fun p =>
          docSteps (Text.lines p.description) ++
          onLine [.own "export const ", .embedded p.name, .own ": ", .embedded p.type,
            .own ";"]) ++
        d.functions.flatMap (fun f =>
          docSteps f.doc ++
          onLine [.own "export function ", .embedded f.signature, .own ";"])) ++
      [.decrease] ++ onLine [.own "\x7d"])) ++
  endModule

/-- The steps in which the file for an item is written. Whatever the emitter did before, it
    begins anew. -/
def Item.steps (item : Item) : List Step :=
  .reset :: match item with
    | .enums _ declarations => enumsSteps declarations
    | .interface d => classSteps .interface d
    | .class d => classSteps .class d
    | .namespace d => namespaceSteps d

end Scripts

section Blocks

/-- How many blocks a piece opens, less those that it closes: an emitter opens and closes
    its blocks by the braces that it writes of its own accord. -/
def Piece.opened : Piece → Int
  | .own text => text.toList.count '\x7b' - text.toList.count '\x7d'
  | .embedded _ => 0

def Step.opened : Step → Int
  | .write piece => piece.opened
  | _ => 0

/-- The blocks that are open behind some steps. -/
def openBlocks : List Step → Int
  | [] => 0
  | s :: rest => s.opened + openBlocks rest

theorem openBlocks_append (first second : List Step) :
    openBlocks (first ++ second) = openBlocks first + openBlocks second := by
  induction first with
  | nil => exact (Int.zero_add _).symm
  | cons s rest ih => rw [List.cons_append, openBlocks, openBlocks, ih, Int.add_assoc]

/-- A piece that closes a block at once. -/
def Piece.closes : Piece → Bool
  | .own text => text.toList.head? = some '\x7d'
  | .embedded _ => false

/-- Whether the line that is written by the next steps closes a block at its beginning. -/
def closesBlock : List Step → Bool
  | .write piece :: _ => piece.closes
  | _ => false

/-- The level behind a step. -/
def Step.shift (level : Nat) : Step → Nat
  | .reset => 0
  | .increase => level + 1
  | .decrease => level - 1
  | _ => level

/-- What a step asks of the level and of the number of open blocks: a line stands in the
    blocks that are open, without the one that it closes, and no level is given up that was
    not entered. -/
def Step.Fits (level : Nat) (opened : Int) (rest : List Step) : Step → Prop
  | .indent => (level : Int) = opened - if closesBlock rest then 1 else 0
  | .decrease => 0 < level
  | _ => True

/-- Steps that fit, each at the level and with the open blocks that those before it have
    come to. -/
def Follows : Nat → Int → List Step → Prop
  | _, _, [] => True
  | level, opened, s :: rest =>
    s.Fits level opened rest ∧ Follows (s.shift level) (opened + s.opened) rest

end Blocks

section Running

namespace Writer

theorem write_empty (w : Writer) : w.write "" = w := rfl

theorem write_append (w : Writer) (a b : String) : w.write (a ++ b) = (w.write a).write b := by
  rw [write, String.toList_append, List.reverse_append, List.append_assoc]
  rfl

/-- The spaces of some levels, written one after the other. -/
theorem iterate_write (w : Writer) (level : Nat) :
    (write · indentUnit)^[level] w = w.write (String.ofList (indentation level)) := by
  induction level with
  | zero => rfl
  | succ n ih =>
      have hspaces : String.ofList (indentation n) ++ indentUnit =
          String.ofList (indentation (n + 1)) := by
        apply String.toList_injective
        rw [String.toList_append, String.toList_ofList, String.toList_ofList, indentation,
          indentation, Nat.succ_mul, List.replicate_add]
        rfl
      rw [Function.iterate_succ_apply', ih, ← hspaces, write_append]

/-- Nothing is left of an indentation with nothing behind it. -/
theorem endLine_write_indentation (w : Writer) (level : Nat) :
    (w.write (String.ofList (indentation level))).endLine = w.endLine := by
  have hspaces : ∀ c ∈ (indentation level).reverse, decide (c = ' ') = true := fun c hc =>
    decide_eq_true (List.eq_of_mem_replicate (List.mem_reverse.mp hc))
  rw [endLine, write, String.toList_ofList, List.dropWhile_append_of_pos hspaces, endLine]

end Writer

/-- The text of a line, put together from its pieces. -/
def lineText : List Piece → String
  | [] => ""
  | piece :: rest => rest.foldl (fun text p => text ++ p.text) piece.text

theorem writeLine_deeper (w : Writer) (level : Nat) (text : String) :
    w.writeLine (Line.deeper^[level] (Line.flat text)) =
      ((w.write (String.ofList (indentation level))).write text).endLine := by
  rw [deeper_iterate, Writer.writeLine, Line.indent, Line.flat, Nat.zero_add, indentation]

namespace Emitter

variable (e : Emitter)

theorem run_write (pieces : List Piece) :
    e.run (pieces.map Step.write) = { e with writer := e.writer.write (lineText pieces) } := by
  -- The text so far has to be free, since it grows with every piece that is written.
  have hrest : ∀ (rest : List Piece) (text : String),
      Emitter.run { e with writer := e.writer.write text } (rest.map Step.write) =
        { e with
          writer := e.writer.write (rest.foldl (fun text p => text ++ p.text) text) } := by
    intro rest
    induction rest with
    | nil => exact fun text => rfl
    | cons p rest ih =>
        intro text
        rw [List.foldl_cons, ← ih, Writer.write_append]
        rfl
  cases pieces with
  | nil => rfl
  | cons piece rest => exact hrest rest piece.text

/-- A line is written at the level of the emitter. -/
theorem run_onLine (pieces : List Piece) :
    e.run (onLine pieces) = { e with
      writer := e.writer.writeLine (Line.deeper^[e.level] (Line.flat (lineText pieces))) } := by
  -- The spaces of all levels are one text.
  have hindent : e.step .indent =
      { e with writer := e.writer.write (String.ofList (indentation e.level)) } := by
    rw [step, Writer.iterate_write]
  have hline : e.run (onLine pieces) =
      ((e.step .indent).run (pieces.map Step.write)).run [.endLine] :=
    run_append (e.step .indent) (pieces.map Step.write) [.endLine]
  rw [hline, hindent, run_write, writeLine_deeper]
  rfl

theorem level_step (s : Step) : (e.step s).level = s.shift e.level := by
  cases s with
  | decrease =>
      rw [step]
      split
      · rfl
      · exact Nat.eq_zero_of_not_pos ‹_› ▸ rfl
  | _ => rfl

theorem level_run (steps : List Step) :
    (e.run steps).level = steps.foldl Step.shift e.level := by
  induction steps generalizing e with
  | nil => rfl
  | cons s rest ih =>
      rw [List.foldl_cons, ← level_step]
      exact ih (e.step s)

end Emitter

end Running

/-- A line that opens so many blocks. It begins with closing one if these are less than none,
    and only then. -/
def OpensBlocks (count : Int) (pieces : List Piece) : Prop :=
  openBlocks (pieces.map Step.write) = count ∧
    pieces.head?.any Piece.closes = decide (count < 0)

/-- Steps that write lines, wherever they are taken. -/
inductive Emits : List Step → List Line → Prop
  | nil : Emits [] []
  | line {pieces : List Piece} (h : OpensBlocks 0 pieces) :
      Emits (onLine pieces) [Line.flat (lineText pieces)]
  | blank : Emits [.endLine] [Line.blank]
  | append {first second : List Step} {lines more : List Line} (h : Emits first lines)
      (h' : Emits second more) : Emits (first ++ second) (lines ++ more)
  | block {head tail : List Piece} {steps : List Step} {lines : List Line}
      (hhead : OpensBlocks 1 head) (htail : OpensBlocks (-1) tail) (h : Emits steps lines) :
      Emits (onLine head ++ [.increase] ++ steps ++ [.decrease] ++ onLine tail)
        (block (lineText head) lines (lineText tail))

/-- Lines are written at the level of the emitter, which stays the same. -/
theorem Emits.run_eq {steps : List Step} {lines : List Line} (h : Emits steps lines) (e : Emitter) :
    e.run steps =
      { e with writer := (lines.map Line.deeper^[e.level]).foldl Writer.writeLine e.writer } := by
  induction h generalizing e with
  | nil => rfl
  | line _ => exact e.run_onLine _
  | blank =>
      rw [Line.blank, List.map_singleton, List.foldl_cons, List.foldl_nil, writeLine_deeper,
        Writer.write_empty, Writer.endLine_write_indentation]
      rfl
  | append _ _ ih ih' => rw [Emitter.run_append, ih, ih', List.map_append, List.foldl_append]
  | @block head tail steps lines _ _ _ ih =>
      rcases e with ⟨w, level⟩
      have hincrease : ∀ w, Emitter.run ⟨w, level⟩ [.increase] = ⟨w, level + 1⟩ := fun w => rfl
      have hdecrease : ∀ w, Emitter.run ⟨w, level + 1⟩ [.decrease] = ⟨w, level⟩ := fun w => rfl
      have hbody : (lines.map Line.deeper).map Line.deeper^[level] =
          lines.map Line.deeper^[level + 1] := by
        rw [List.map_map, ← Function.iterate_succ]
      rw [Emitter.run_append, Emitter.run_append, Emitter.run_append, Emitter.run_append,
        Emitter.run_onLine ⟨w, level⟩, hincrease, ih, hdecrease, Emitter.run_onLine, Emit.block,
        List.map_append, List.map_cons, hbody, List.foldl_append, List.foldl_cons]
      rfl

namespace Follows

variable {level : Nat} {opened : Int}

/-- A step that opens and closes nothing. -/
theorem step {s : Step} {rest : List Step} (hopened : s.opened = 0)
    (hfits : s.Fits level opened rest) (h : Follows (s.shift level) opened rest) :
    Follows level opened (s :: rest) := by
  refine ⟨hfits, ?_⟩
  rwa [hopened, Int.add_zero]

theorem writes {pieces : List Piece} {after : List Step}
    (h : Follows level (opened + openBlocks (pieces.map Step.write)) after) :
    Follows level opened (pieces.map Step.write ++ after) := by
  induction pieces generalizing opened with
  | nil =>
      rw [List.map_nil, openBlocks, Int.add_zero] at h
      exact h
  | cons p rest ih =>
      rw [List.map_cons, openBlocks, ← Int.add_assoc] at h
      exact ⟨trivial, ih h⟩

/-- A line stands in the open blocks, without one that it closes. -/
theorem onLine {pieces : List Piece} {count : Int} {after : List Step}
    (hpieces : OpensBlocks count pieces)
    (hlevel : (level : Int) = opened - if count < 0 then 1 else 0)
    (h : Follows level (opened + count) after) :
    Follows level opened (Emit.onLine pieces ++ after) := by
  -- Whether a block is closed shows in the first piece, whatever comes behind the line.
  have hcloses : closesBlock (pieces.map Step.write ++ .endLine :: after) =
      pieces.head?.any Piece.closes := by
    cases pieces <;> rfl
  have hsplit : Emit.onLine pieces ++ after =
      .indent :: (pieces.map Step.write ++ .endLine :: after) := by
    rw [Emit.onLine, List.append_assoc]
    rfl
  have hend : Follows level (opened + count) (.endLine :: after) := step rfl trivial h
  rw [← hpieces.1] at hend
  rw [hsplit]
  refine step rfl ?_ (writes hend)
  rw [Step.Fits, hcloses, hpieces.2, hlevel]
  simp only [decide_eq_true_eq]

/-- What a step asks for, behind the steps that come before it. -/
theorem fits {before rest : List Step} {s : Step} (h : Follows level opened (before ++ s :: rest)) :
    s.Fits (before.foldl Step.shift level) (opened + openBlocks before) rest := by
  induction before generalizing level opened with
  | nil =>
      rw [openBlocks, Int.add_zero]
      exact h.1
  | cons t before ih =>
      have hopen : opened + openBlocks (t :: before) = opened + t.opened + openBlocks before := by
        rw [openBlocks, Int.add_assoc]
      rw [hopen]
      exact ih h.2

end Follows

/-- The level is the number of open blocks all along, if it is to begin with. -/
theorem Emits.follows {steps : List Step} {lines : List Line} (h : Emits steps lines)
    {level : Nat} {opened : Int} {after : List Step} (hlevel : (level : Int) = opened)
    (hafter : Follows level opened after) : Follows level opened (steps ++ after) := by
  induction h generalizing level opened after with
  | nil => exact hafter
  | line h =>
      refine Follows.onLine h (hlevel.trans (Int.sub_zero _).symm) ?_
      rwa [Int.add_zero]
  | blank => exact Follows.step rfl trivial hafter
  | append _ _ ih ih' =>
      rw [List.append_assoc]
      exact ih hlevel (ih' hlevel hafter)
  | @block head tail steps lines hhead htail _ ih =>
      -- One more block is open until the last line closes it.
      have htail' : Follows level (opened + 1) (onLine tail ++ after) := by
        refine Follows.onLine htail ?_ ?_
        · rw [if_pos (by decide), Int.add_sub_cancel, hlevel]
        · rwa [Int.add_neg_cancel_right]
      have hbody : Follows (level + 1) (opened + 1)
          (steps ++ .decrease :: (onLine tail ++ after)) := by
        refine ih ?_ (Follows.step rfl (Nat.succ_pos level) htail')
        rw [← hlevel]
        rfl
      have hsplit : onLine head ++ [.increase] ++ steps ++ [.decrease] ++ onLine tail ++ after =
          onLine head ++ .increase :: (steps ++ .decrease :: (onLine tail ++ after)) := by
        simp only [List.append_assoc, List.cons_append, List.nil_append]
      rw [hsplit]
      exact Follows.onLine hhead (hlevel.trans (Int.sub_zero _).symm)
        (Follows.step rfl trivial hbody)

section Parts

namespace Emits

theorem flatMap {α : Type} {f : α → List Step} {g : α → List Line} (h : ∀ a, Emits (f a) (g a))
    (items : List α) : Emits (items.flatMap f) (items.flatMap g) := by
  induction items with
  | nil => exact .nil
  | cons a rest ih => exact (h a).append ih

theorem map {α : Type} {f : α → List Step} {g : α → Line} (h : ∀ a, Emits (f a) [g a])
    (items : List α) : Emits (items.flatMap f) (items.map g) := by
  induction items with
  | nil => exact .nil
  | cons a rest ih => exact (h a).append ih

theorem separated {α : Type} {f : α → List Step} {g : α → List Line}
    (h : ∀ a, Emits (f a) (g a)) (items : List α) :
    Emits (separatedSteps (items.map f)) (separated (items.map g)) := by
  induction items with
  | nil => exact .nil
  | cons a rest ih =>
      rcases rest with _ | ⟨b, rest⟩
      · exact h a
      · exact (h a).append (Emits.blank.append ih)

theorem moduleBlock (module : String) {steps : List Step} {lines : List Line}
    (h : Emits steps lines) :
    Emits (beginModule module ++ steps ++ endModule) (moduleBlock module lines) := by
  rw [beginModule, endModule, ← List.append_assoc]
  exact .block ⟨rfl, rfl⟩ ⟨rfl, rfl⟩ h

end Emits

theorem emits_docSteps (lines : List String) : Emits (docSteps lines) (docComment lines) := by
  rw [docSteps, docComment]
  split
  · exact .nil
  · exact (Emits.append (.line ⟨rfl, rfl⟩) (.map (fun line => .line ⟨rfl, rfl⟩) lines)).append
      (.line ⟨rfl, rfl⟩)

theorem emits_importSteps (module : String) (imports : List TypeImport) :
    Emits (importSteps module imports) (importLines module imports) := by
  rw [importSteps, importLines]
  split
  · exact .nil
  · exact (Emits.map (fun source => .line ⟨rfl, rfl⟩) _).append .blank

theorem emits_enumSteps (d : EnumDeclaration) : Emits (enumSteps d) (enumBlock d) :=
  (emits_docSteps _).append (.block ⟨rfl, rfl⟩ ⟨rfl, rfl⟩
    (.flatMap (fun _ => (emits_docSteps _).append (.line ⟨rfl, rfl⟩)) d.members))

theorem emits_enumsSteps (enums : List EnumDeclaration) :
    Emits (enumsSteps enums) (separated ((enumsByModule enums).entries.map fun (module, group) =>
      moduleBlock module (separated (group.map enumBlock)))) := by
  refine .separated (fun entry => ?_) _
  exact .moduleBlock entry.1 (.separated emits_enumSteps entry.2)

theorem emits_memberSteps (m : MethodDeclaration) : Emits (memberSteps m) (member m) :=
  (emits_docSteps m.doc).append (.line ⟨rfl, rfl⟩)

theorem emits_payloadParametersSteps (e : EventDeclaration) :
    Emits (payloadParametersSteps e) (payloadParameters e) := by
  rw [payloadParametersSteps, payloadParameters]
  split
  · exact .line ⟨rfl, rfl⟩
  · exact .block ⟨rfl, rfl⟩ ⟨rfl, rfl⟩ (.map (fun _ => .line ⟨rfl, rfl⟩) e.parameters)

theorem emits_payloadSteps (sourceType : String) (e : EventDeclaration) :
    Emits (payloadSteps sourceType e) (payloadBlock sourceType e) := by
  have hgetter : Emits (onLine [.own "getSource(): ", .embedded sourceType, .own ";"])
      [Line.flat ("getSource(): " ++ sourceType ++ ";")] := .line ⟨rfl, rfl⟩
  have hfields := Emits.flatMap (f := fun p : Parameter =>
    docSteps (Text.lines p.description) ++
      onLine [.own "getParameter(sName: \"", .embedded p.name, .own "\"): ", .embedded p.type,
        .own ";"]) (g := payloadParameter)
    (fun p => (emits_docSteps _).append (.line ⟨rfl, rfl⟩)) e.parameters
  exact (emits_docSteps _).append (.block ⟨rfl, rfl⟩ ⟨rfl, rfl⟩
    ((hgetter.append (emits_payloadParametersSteps e)).append hfields))

/-- A block whose first line may say that it extends something. -/
theorem Emits.extendingBlock (base : Option String) {first : Piece} {rest : List Piece}
    {steps : List Step} {lines : List Line} (hfront : OpensBlocks 0 (first :: rest))
    (h : Emits steps lines) :
    Emits (onLine (first :: rest ++ extendsPieces base ++ [.own " \x7b"]) ++ [.increase] ++ steps ++
        [.decrease] ++ onLine [.own "\x7d"])
      (Emit.block (lineText (first :: rest) ++ extendsClause base ++ " \x7b") lines "\x7d") := by
  have htext : lineText (first :: rest ++ extendsPieces base ++ [.own " \x7b"]) =
      lineText (first :: rest) ++ extendsClause base ++ " \x7b" := by
    rw [List.cons_append, List.cons_append, lineText, List.foldl_append, List.foldl_append,
      lineText]
    cases base with
    | none =>
        rw [extendsClause, String.append_empty]
        rfl
    | some base =>
        rw [extendsClause, ← String.append_assoc]
        rfl
  have hbase : openBlocks ((extendsPieces base).map Step.write) = 0 := by
    cases base <;> rfl
  -- The brace at the end is all that the line opens: what it says of a base has none.
  have hhead : OpensBlocks 1 (first :: rest ++ extendsPieces base ++ [.own " \x7b"]) := by
    refine ⟨?_, hfront.2⟩
    rw [List.map_append, List.map_append, openBlocks_append, openBlocks_append, hfront.1, hbase]
    rfl
  rw [← htext]
  exact .block hhead ⟨rfl, rfl⟩ h

theorem emits_settingsSteps (s : SettingsInterface) :
    Emits (settingsSteps s) (settingsBlock s) :=
  .extendingBlock s.base ⟨rfl, rfl⟩
    (.flatMap (fun _ => (emits_docSteps _).append (.line ⟨rfl, rfl⟩)) s.properties)

theorem emits_classSteps (kind : ClassKind) (d : ClassDeclaration) :
    Emits (classSteps kind d)
      (moduleBlock (moduleOrName d.module d.qualifiedName)
        (importLines (moduleOrName d.module d.qualifiedName) d.imports ++
          d.events.flatMap (fun e => payloadBlock d.name e ++ [Line.blank]) ++
          d.settings.toList.flatMap (fun s => settingsBlock s ++ [Line.blank]) ++
          classBlock kind d)) := by
  have hevents := Emits.flatMap (fun e => (emits_payloadSteps d.name e).append .blank) d.events
  have hsettings := Emits.flatMap (fun s => (emits_settingsSteps s).append .blank)
    d.settings.toList
  have hkeyword : OpensBlocks 0 [.own "export ", .own kind.name, .own " ", .embedded d.name] := by
    cases kind <;> exact ⟨rfl, rfl⟩
  have hclass := (emits_docSteps (Text.lines d.description)).append (.extendingBlock d.baseClass
    hkeyword (.flatMap emits_memberSteps (d.constructors ++ d.methods)))
  exact .moduleBlock _ ((((emits_importSteps _ _).append hevents).append hsettings).append hclass)

theorem emits_namespaceSteps (d : NamespaceDeclaration) :
    Emits (namespaceSteps d)
      (moduleBlock (moduleOrName d.module d.qualifiedName)
        (importLines (moduleOrName d.module d.qualifiedName) d.imports ++ describe d.description ++
          block ("export namespace " ++ d.name ++ " \x7b")
            (d.properties.flatMap namespaceProperty ++ d.functions.flatMap namespaceFunction)
            "\x7d")) :=
  .moduleBlock _ (((emits_importSteps _ _).append (emits_docSteps _)).append
    (.block ⟨rfl, rfl⟩ ⟨rfl, rfl⟩
      ((Emits.flatMap (fun _ => (emits_docSteps _).append (.line ⟨rfl, rfl⟩)) d.properties).append
        (.flatMap (fun _ => (emits_docSteps _).append (.line ⟨rfl, rfl⟩)) d.functions))))

/-- The steps for an item write the lines of its file. -/
theorem exists_emits (item : Item) :
    ∃ steps lines, item.steps = .reset :: steps ∧ Emits steps lines ∧
      item.text = renderLines lines := by
  cases item with
  | enums library ds => exact ⟨_, _, rfl, emits_enumsSteps ds, rfl⟩
  | interface d => exact ⟨_, _, rfl, emits_classSteps .interface d, rfl⟩
  | «class» d => exact ⟨_, _, rfl, emits_classSteps .class d, rfl⟩
  | «namespace» d => exact ⟨_, _, rfl, emits_namespaceSteps d, rfl⟩

end Parts

/-- Files are well bracketed. If the texts embedded in an item are balanced, so is its file.
    Whatever an emitter did before, the steps for an item make it write that file, and it
    ends outside of all blocks. On the way every line is written at the level that is the
    number of blocks around it, where a line that closes a block is outside of it, and the
    level is never decreased where there is none. -/
theorem steps_wellBracketed (item : Item) :
    (AllBalanced item.embedded → IsBalanced item.text.toList) ∧
      ∀ e : Emitter, (e.run item.steps).writer.output = item.text ∧
        (e.run item.steps).level = 0 ∧
        (∀ before rest, item.steps = before ++ .indent :: rest →
          ((e.run before).level : Int) = openBlocks before - if closesBlock rest then 1 else 0) ∧
        ∀ before rest, item.steps = before ++ .decrease :: rest → 0 < (e.run before).level := by
  rcases exists_emits item with ⟨steps, lines, hsteps, hemits, htext⟩
  refine ⟨isBalanced_text item, fun e => ?_⟩
  have hrun : e.run item.steps = ⟨lines.foldl Writer.writeLine {}, 0⟩ := by
    -- With the first step the emitter is as good as new.
    have hreset : e.run item.steps = Emitter.run {} steps := by
      rw [hsteps]
      rfl
    rw [hreset, hemits.run_eq, Function.iterate_zero, List.map_id]
  -- And its level is none, as is the number of open blocks.
  have hfollows : Follows e.level 0 item.steps := by
    rw [hsteps, ← List.append_nil steps]
    exact Follows.step rfl trivial (hemits.follows rfl trivial)
  refine ⟨?_, ?_, fun before rest hsplit => ?_, fun before rest hsplit => ?_⟩
  · rw [hrun, htext, renderLines]
  · rw [hrun]
  · rw [hsplit] at hfollows
    rw [e.level_run, ← Int.zero_add (openBlocks before)]
    exact hfollows.fits
  · rw [hsplit] at hfollows
    rw [e.level_run]
    exact hfollows.fits

section Example

/-- A class of which everything is written, with braces in its documentation, its types and
    its defaults. The braces of its description are on different lines. -/
def panelItem : Item := .class
  { kind := .class
    name := "Panel"
    qualifiedName := "sample.Panel"
    fullName := "sample/Panel"
    module := "sample"
    imports := [⟨"Control", "sap/ui/core"⟩, ⟨"IPanelSettings", "sample"⟩]
    baseClass := some "Control"
    description := "A panel:\n\x7b\n  \"title\": \"\x7b0\x7d\"\n\x7d"
    constructors := [{ signature := "constructor(mSettings?: \x7b sTitle?: string \x7d)" }]
    methods := [{ signature := "resize(): this", doc := ["@returns \x7bthis\x7d"] }]
    events :=
      [{ name := "resize"
         payloadType := "ResizeEventArgs"
         parameters := [{ name := "size", type := "\x7b width: number \x7d" }] }]
    settings := some
      { name := "IPanelSettings"
        base := some "IControlSettings"
        properties := [{ name := "data", type := "object", defaultValue := some "\x7b\x7d" }] } }

theorem panelItem_wellBracketed :
    AllBalanced panelItem.embedded ∧ IsBalanced panelItem.text.toList ∧
      (Emitter.run {} panelItem.steps).writer.output = panelItem.text := by
  have hembedded : AllBalanced panelItem.embedded := by decide
  exact ⟨hembedded, (steps_wellBracketed panelItem).1 hembedded,
    ((steps_wellBracketed panelItem).2 {}).1⟩

end Example

end Emit

end Typings
