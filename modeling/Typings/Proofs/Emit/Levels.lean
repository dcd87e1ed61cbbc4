import Typings.Proofs.Emit.Exports

/-!
# Lines Inside of Blocks

What lines leave when they stand in several blocks. Only the spaces at the end of a line
can be lost, and a line that does not end in a space loses nothing. Where the first of
some lines is of that kind, they leave the same characters wherever they are written,
even if there are spaces in front of them already.

So the characters of a block are put together from those of its parts, and a blank line
is a line feed at every level.

## Main definitions

* `indentation`: The spaces in front of a line.
* `Line.IsSolid`: A line that does not end in a space.
* `charsAt`: The characters of lines that stand in several blocks.

## Theorems

* `deeper_iterate`: A line moved into several blocks.
* `output_foldl_writeLine`: Lines leave their characters wherever they are written.
* `charsAt_flat`, `charsAt_blank`, `charsAt_block`, `charsAt_separated`: The characters
  of the parts of a file.
* `renderLines_eq`: The text of lines outside of all blocks.
-/

namespace Typings

namespace Emit

/-- A line moved into several blocks. -/
theorem deeper_iterate (level : Nat) (l : Line) :
    Line.deeper^[level] l = { l with level := l.level + level } := by
  induction level with
  | zero => rfl
  | succ n ih => rw [Function.iterate_succ_apply', ih, Line.deeper, Nat.add_assoc]

/-- The indentation of a level. -/
def indentation (level : Nat) : List Char :=
  List.replicate (level * indentWidth) ' '

/-- A line that ends in something else than a space. -/
def Line.IsSolid (l : Line) : Prop :=
  ∃ front x, l.text.toList = front ++ [x] ∧ x ≠ ' '

variable {l : Line}

/-- A line that does not end in a space loses nothing. -/
theorem Line.IsSolid.rdropWhile_eq (hl : l.IsSolid) :
    (l.indent.toList ++ l.text.toList).rdropWhile (· = ' ') =
      l.indent.toList ++ l.text.toList := by
  rcases hl with ⟨front, x, htext, hx⟩
  rw [htext, ← List.append_assoc, List.rdropWhile_concat_neg]
  simpa only [decide_eq_true_eq] using hx

theorem Line.IsSolid.rendered_eq (hl : l.IsSolid) :
    l.rendered = l.indent.toList ++ l.text.toList ++ ['\n'] := by
  rw [Line.rendered, hl.rdropWhile_eq]

theorem Line.IsSolid.deeper_iterate (hl : l.IsSolid) (level : Nat) :
    (Line.deeper^[level] l).IsSolid := by
  rw [Emit.deeper_iterate]
  exact hl

/-- The characters of a line that was not in any block before. -/
theorem rendered_flat (level : Nat) (text : String) (htext : (Line.flat text).IsSolid) :
    (Line.deeper^[level] (Line.flat text)).rendered =
      indentation level ++ text.toList ++ ['\n'] := by
  rw [(htext.deeper_iterate level).rendered_eq, deeper_iterate, Line.indent,
    String.toList_ofList, Line.flat, Nat.zero_add, indentation]

theorem isSolid_append (text last : String) (hlast : (Line.flat last).IsSolid) :
    (Line.flat (text ++ last)).IsSolid := by
  rcases hlast with ⟨front, x, hfront, hx⟩
  refine ⟨text.toList ++ front, x, ?_, hx⟩
  rw [Line.flat, String.toList_append, List.append_assoc]
  exact congrArg _ hfront

theorem isSolid_open (text : String) : (Line.flat (text ++ " \x7b")).IsSolid :=
  isSolid_append text " \x7b" ⟨[' '], '\x7b', rfl, by decide⟩

theorem isSolid_close : (Line.flat "\x7d").IsSolid :=
  ⟨[], '\x7d', rfl, by decide⟩

/-- A line that does not end in a space takes no space away from what was there before. -/
theorem Line.IsSolid.reversed_writeLine (hl : l.IsSolid) (w : Writer) :
    (w.writeLine l).reversed = l.rendered.reverse ++ w.reversed := by
  rcases hl with ⟨front, x, htext, hx⟩
  have hdrop : (l.text.toList.reverse ++ (l.indent.toList.reverse ++ w.reversed)).dropWhile
      (· = ' ') = l.text.toList.reverse ++ (l.indent.toList.reverse ++ w.reversed) := by
    rw [htext, List.reverse_append, List.reverse_singleton, List.singleton_append,
      List.cons_append, List.dropWhile_cons_of_neg]
    simpa only [decide_eq_true_eq] using hx
  rw [Line.IsSolid.rendered_eq ⟨front, x, htext, hx⟩, Writer.writeLine, Writer.endLine,
    Writer.write, Writer.write, hdrop]
  simp only [List.reverse_append, List.reverse_singleton, List.cons_append, List.nil_append,
    List.append_assoc]

/-- Lines leave their own characters wherever they are written, if the first of them does
    not end in a space. -/
theorem output_foldl_writeLine (w : Writer) (lines : List Line)
    (hfirst : ∀ l ∈ lines.head?, l.IsSolid) :
    (lines.foldl Writer.writeLine w).output =
      w.output ++ String.ofList (lines.flatMap Line.rendered) := by
  have hreversed : (lines.foldl Writer.writeLine w).reversed =
      (lines.flatMap Line.rendered).reverse ++ w.reversed := by
    rcases lines with _ | ⟨l, rest⟩
    · rfl
    · have hwrite := (hfirst l rfl).reversed_writeLine w
      -- Behind the first line there is its line feed.
      have hend : (w.writeLine l).reversed.dropWhile (· = ' ') = (w.writeLine l).reversed := by
        rw [Writer.writeLine, Writer.endLine, List.dropWhile_cons_of_neg]
        decide
      rw [List.foldl_cons, reversed_foldl_writeLine rest _ hend, hwrite, List.flatMap_cons,
        List.reverse_append, List.append_assoc]
  rw [Writer.output, hreversed, List.reverse_append, List.reverse_reverse, String.ofList_append,
    Writer.output]

/-- The characters of lines that stand in several blocks. -/
def charsAt (level : Nat) (lines : List Line) : List Char :=
  (lines.map Line.deeper^[level]).flatMap Line.rendered

section Characters

variable (level : Nat)

theorem charsAt_append (first second : List Line) :
    charsAt level (first ++ second) = charsAt level first ++ charsAt level second := by
  rw [charsAt, List.map_append, List.flatMap_append, charsAt, charsAt]

theorem charsAt_flatMap {α : Type} (f : α → List Line) (items : List α) :
    charsAt level (items.flatMap f) = items.flatMap fun a => charsAt level (f a) := by
  rw [charsAt, List.map_flatMap, List.flatMap_assoc]
  rfl

/-- A line that does not end in a space leaves its indentation and its text. -/
theorem charsAt_flat (text : String) (htext : (Line.flat text).IsSolid) :
    charsAt level [Line.flat text] = indentation level ++ text.toList ++ ['\n'] := by
  rw [charsAt, List.map_singleton, List.flatMap_singleton, rendered_flat level text htext]

/-- A blank line is not indented. -/
theorem charsAt_blank : charsAt level [Line.blank] = ['\n'] := by
  have hblank : (indentation level).rdropWhile (· = ' ') = [] := by
    rw [List.rdropWhile_eq_nil_iff]
    exact fun x hx => decide_eq_true (List.eq_of_mem_replicate hx)
  rw [charsAt, List.map_singleton, List.flatMap_singleton, deeper_iterate, Line.blank, Line.flat,
    Line.rendered, Line.indent, String.toList_ofList, Nat.zero_add]
  exact congrArg (· ++ ['\n']) ((congrArg _ (List.append_nil _)).trans hblank)

/-- What stands in a block is one level deeper than the block. -/
theorem charsAt_deeper (lines : List Line) :
    charsAt level (lines.map Line.deeper) = charsAt (level + 1) lines := by
  rw [charsAt, List.map_map, ← Function.iterate_succ, charsAt]

theorem charsAt_block (head : String) (body : List Line) (tail : String)
    (hhead : (Line.flat head).IsSolid) (htail : (Line.flat tail).IsSolid) :
    charsAt level (block head body tail) =
      indentation level ++ head.toList ++ ['\n'] ++ charsAt (level + 1) body ++
        indentation level ++ tail.toList ++ ['\n'] := by
  rw [block, ← List.singleton_append, charsAt_append, charsAt_append, charsAt_flat level head hhead,
    charsAt_flat level tail htail, charsAt_deeper]
  simp only [List.append_assoc]

/-- Lists of lines are kept apart by a line feed. -/
theorem charsAt_separated (groups : List (List Line)) :
    charsAt level (separated groups) = ['\n'].intercalate (groups.map (charsAt level)) := by
  induction groups with
  | nil => rfl
  | cons first rest ih =>
      rcases rest with _ | ⟨second, rest⟩
      · rw [separated, List.map_singleton, List.intercalate_singleton]
      · have hseparated : separated (first :: second :: rest) =
            first ++ [Line.blank] ++ separated (second :: rest) :=
          (List.append_cons first Line.blank _)
        rw [hseparated, charsAt_append, charsAt_append, charsAt_blank, ih]
        simp only [List.map_cons, List.intercalate_cons_cons]

end Characters

/-- The text of lines outside of all blocks. -/
theorem renderLines_eq (lines : List Line) :
    renderLines lines = String.ofList (charsAt 0 lines) := by
  rw [← String.ofList_toList (s := renderLines lines), toList_renderLines, charsAt,
    Function.iterate_zero, List.map_id]

end Emit

end Typings
