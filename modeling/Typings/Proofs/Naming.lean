import Typings.Class
import Typings.Proofs.Text.Pieces

/-!
# What Names Are Made Of

The names of a declaration are made from other names. The module and the short name are
the two parts of a qualified name, and nothing of it is lost if it is spelled with dots
alone: the two parts of a name that has a module tell the name.

The names of what is declared beside a class are made by putting something around the
short name of the class, or around the name of an event. What was put around can be
taken away again, and it is not the same for settings and for payloads, so these never
have one name.

## Theorems

* `TypePath.toModulePath_toDotted`, `TypePath.toDotted_toModulePath`: One spelling undoes
  the other.
* `TypePath.segments_toModulePath`: Both spellings have the same segments.
* `TypePath.eq_of_moduleOf_eq`: A name is told by its module and its last segment.
* `settingsInterfaceName_inj`: Settings have the same name if their classes do.
* `Event.payloadTypeName_inj`: Payloads have the same name if their events do, apart
  from the case of the first letter.
* `settingsInterfaceName_ne_payloadTypeName`: Settings are not named like payloads.
-/

namespace Typings

/-- Exchanging a character undoes that it was put in place of the other one. -/
theorem Text.replaceChar_replaceChar (old new : Char) (text : String) :
    Text.replaceChar old new (Text.replaceChar new old text) = Text.replaceChar old new text := by
  rw [Text.replaceChar, Text.replaceChar, Text.replaceChar, String.toList_ofList, List.map_map]
  congr 1
  refine List.map_congr_left fun c _ => ?_
  rw [Function.comp_apply]
  by_cases hnew : c = new
  · rw [if_pos hnew, if_pos rfl, hnew, ite_self]
  · rw [if_neg hnew]

namespace TypePath

/-- Both spellings of a path lead to one module path. -/
theorem toModulePath_toDotted (path : String) : toModulePath (toDotted path) = toModulePath path :=
  Text.replaceChar_replaceChar '.' '/' path

/-- Both spellings of a path lead to one dotted name. -/
theorem toDotted_toModulePath (path : String) : toDotted (toModulePath path) = toDotted path :=
  Text.replaceChar_replaceChar '/' '.' path

/-- Nothing is left of the slashes in the dotted spelling of a path. -/
theorem not_mem_toDotted (path : String) : '/' ∉ (toDotted path).toList := by
  rw [toDotted, Text.replaceChar, String.toList_ofList, List.mem_map]
  rintro ⟨c, _, hc⟩
  by_cases hslash : c = '/'
  · rw [if_pos hslash] at hc
    exact absurd hc (by decide)
  · rw [if_neg hslash] at hc
    exact hslash hc

/-- A name without slashes is its own dotted spelling. -/
theorem toDotted_of_not_mem (name : String) (hslash : '/' ∉ name.toList) :
    toDotted name = name := by
  rw [toDotted, Text.replaceChar, List.map_congr_left (g := id), List.map_id, String.ofList_toList]
  intro c hc
  have hne : c ≠ '/' := fun heq => hslash (heq ▸ hc)
  rw [if_neg hne, id]

/-- A name that is not qualified has no separators. -/
theorem not_isSeparator_of_not_isQualified (name : String) (hname : isQualified name = false) :
    ∀ c ∈ name.toList, isSeparator c = false :=
  fun c hc => Bool.eq_false_iff.mpr (List.any_eq_false.mp hname c hc)

/-- A text without separators is no path. -/
theorem not_isQualified_of_not_isSeparator (text : String)
    (htext : ∀ c ∈ text.toList, isSeparator c = false) : isQualified text = false :=
  List.any_eq_false.mpr fun c hc => Bool.eq_false_iff.mp (htext c hc)

theorem not_isSeparator_of_mem_segments (path piece : String) (hpiece : piece ∈ segments path) :
    ∀ c ∈ piece.toList, isSeparator c = false :=
  Text.not_isSeparator_of_mem_splitChars _ _ _ ((Text.mem_split _ _ _).mp hpiece)

/-- Both spellings of a path have the same segments. -/
theorem segments_toModulePath (path : String) : segments (toModulePath path) = segments path := by
  have hseparator : ∀ c, isSeparator (if c = '.' then '/' else c) = isSeparator c := by
    intro c
    by_cases hdot : c = '.'
    · rw [if_pos hdot, hdot]
      rfl
    · rw [if_neg hdot]
  rw [segments, segments, Text.split, Text.split, toModulePath, Text.replaceChar,
    String.toList_ofList, Text.splitChars_map isSeparator _ hseparator, List.map_map]
  refine List.map_congr_left fun piece hpiece => congrArg String.ofList ?_
  -- A piece has no dots to be exchanged.
  refine (List.map_congr_left (g := id) fun c hc => if_neg ?_).trans (List.map_id piece)
  rintro rfl
  have hdot := Text.not_isSeparator_of_mem_splitChars isSeparator _ piece hpiece '.' hc
  exact absurd hdot (by decide)

theorem segments_ne_nil (path : String) : segments path ≠ [] := by
  rw [segments, Text.split, Ne, List.map_eq_nil_iff]
  exact Text.splitChars_ne_nil isSeparator path.toList

theorem lastSegment_eq (path : String) :
    lastSegment path = (segments path).getLast (segments_ne_nil path) := by
  rw [lastSegment, List.getLast?_eq_some_getLast (segments_ne_nil path), Option.getD_some]

/-- A name without slashes is its segments with dots between them. -/
theorem join_segments (name : String) (hslash : '/' ∉ name.toList) :
    Text.join "." (segments name) = name := by
  refine Text.join_split isSeparator '.' name fun c hc hseparator => ?_
  rw [isSeparator, Bool.or_eq_true, decide_eq_true_eq, decide_eq_true_eq] at hseparator
  exact hseparator.resolve_right fun heq => hslash (heq ▸ hc)

/-- The segments in front of the last one are told by the module that they make up. -/
theorem split_moduleOf (path : String) (hmodule : moduleOf path ≠ "") :
    Text.split isSeparator (moduleOf path) = (segments path).dropLast := by
  refine Text.split_join isSeparator '/' _ ?_ rfl ?_
  · intro piece hpiece
    exact not_isSeparator_of_mem_segments path piece (List.dropLast_subset _ hpiece)
  · intro hnil
    rw [moduleOf, hnil] at hmodule
    exact hmodule rfl

/-- A name that has a module and no slashes is told by the module and the last segment. -/
theorem eq_of_moduleOf_eq (a b : String) (ha : '/' ∉ a.toList) (hb : '/' ∉ b.toList)
    (hmodule : moduleOf (toModulePath a) ≠ "")
    (hsame : moduleOf (toModulePath a) = moduleOf (toModulePath b))
    (hlast : lastSegment a = lastSegment b) : a = b := by
  have hinit : (segments a).dropLast = (segments b).dropLast := by
    have hsplit := congrArg (Text.split isSeparator) hsame
    rw [split_moduleOf _ hmodule, split_moduleOf _ (hsame ▸ hmodule), segments_toModulePath,
      segments_toModulePath] at hsplit
    exact hsplit
  rw [lastSegment_eq, lastSegment_eq] at hlast
  have hsegments : segments a = segments b := by
    rw [← List.dropLast_append_getLast (segments_ne_nil a),
      ← List.dropLast_append_getLast (segments_ne_nil b), hinit, hlast]
  rw [← join_segments a ha, ← join_segments b hb, hsegments]

end TypePath

/-- The short name is the last segment of the name, unless another is given. -/
theorem Api.Symbol.lastSegment_eq_shortName_iff (s : Api.Symbol) :
    TypePath.lastSegment s.name = s.shortName ↔
      s.basename = "" ∨ s.basename = TypePath.lastSegment s.name := by
  rw [shortName]
  by_cases hbasename : s.basename = ""
  · rw [hbasename]
    exact iff_of_true rfl (Or.inl rfl)
  · have hgiven : s.basename.isEmpty = false := by
      rw [Bool.eq_false_iff, ne_eq, String.isEmpty_iff]
      exact hbasename
    rw [hgiven, if_neg Bool.false_ne_true, or_iff_right hbasename, eq_comm]

/-- A module path that is left out is the name spelled with slashes. -/
theorem Api.Symbol.modulePath_of_module_empty (s : Api.Symbol) (hmodule : s.module = "") :
    s.modulePath = TypePath.toModulePath s.name := by
  rw [modulePath, hmodule]
  rfl

/-- A symbol gives neither a short name nor a module path, and its name has a module in
    front, spelled with dots. -/
def Api.Symbol.IsPlain (s : Api.Symbol) : Prop :=
  s.basename = "" ∧ s.module = "" ∧ '/' ∉ s.name.toList ∧
    TypePath.moduleOf (TypePath.toModulePath s.name) ≠ ""

theorem Api.Symbol.IsPlain.moduleOf_ne {s : Api.Symbol} (hs : s.IsPlain) :
    TypePath.moduleOf s.modulePath ≠ "" := by
  rw [modulePath_of_module_empty s hs.2.1]
  exact hs.2.2.2

/-- Two plain symbols of one module do not have the same short name. -/
theorem Api.Symbol.IsPlain.name_eq {s t : Api.Symbol} (hs : s.IsPlain) (ht : t.IsPlain)
    (hmodule : TypePath.moduleOf s.modulePath = TypePath.moduleOf t.modulePath)
    (hname : s.shortName = t.shortName) : s.name = t.name := by
  rcases hs with ⟨hbase, hpath, hslash, hinside⟩
  rcases ht with ⟨hbase', hpath', hslash', _⟩
  rw [modulePath_of_module_empty s hpath, modulePath_of_module_empty t hpath'] at hmodule
  rw [← (s.lastSegment_eq_shortName_iff).mpr (Or.inl hbase),
    ← (t.lastSegment_eq_shortName_iff).mpr (Or.inl hbase')] at hname
  exact TypePath.eq_of_moduleOf_eq s.name t.name hslash hslash' hinside hmodule hname

/-- Settings have the same name if their classes do, and only then. -/
theorem settingsInterfaceName_inj (a b : String) :
    settingsInterfaceName a = settingsInterfaceName b ↔ a = b := by
  refine ⟨fun h => ?_, congrArg settingsInterfaceName⟩
  have hlist := congrArg String.toList h
  rw [settingsInterfaceName, settingsInterfaceName, String.toList_append, String.toList_append,
    String.toList_append, String.toList_append, List.append_assoc, List.append_assoc] at hlist
  exact String.toList_injective (List.append_cancel_right (List.append_cancel_left hlist))

/-- Payloads have the same name if the names of their events are the same once their
    first letters are capital, and only then. -/
theorem Event.payloadTypeName_inj (a b : String) :
    payloadTypeName a = payloadTypeName b ↔ Text.capitalize a = Text.capitalize b := by
  rw [payloadTypeName, payloadTypeName]
  exact String.append_left_inj "EventArgs"

/-- Settings are not named like payloads: the two endings differ. -/
theorem settingsInterfaceName_ne_payloadTypeName (className event : String) :
    settingsInterfaceName className ≠ Event.payloadTypeName event := by
  intro h
  have hlist := congrArg (fun text => text.toList.reverse.take 3) h
  rw [settingsInterfaceName, Event.payloadTypeName] at hlist
  simp only [String.toList_append, List.reverse_append] at hlist
  rw [List.take_append_of_le_length (by decide), List.take_append_of_le_length (by decide)] at hlist
  exact absurd hlist (by decide)

end Typings
