import Typings.Json.Reader
import Typings.Proofs.Json.Values

/-!
# What a Text Leads To

Every document that comes from a text is sound (`Node.isSound_ofText`): its words are the
three that there are, and its integers fit their bits. Only the second needs an argument. Digits
are gathered for as long as they stay below `2^64`; digits that are left over, a fraction and an
exponent all make a floating point number, and so does a negative number below `-2^63`.

## Theorems

* `NumberParts.inRange_value`: A number that was read can be spelled.
* `Node.isSound_scanNode`: A value that was scanned is sound.
* `Node.isSound_ofText`: So is the value of a whole text.
-/

namespace Typings

namespace Json

/-- No more is gathered than fits the bits. -/
theorem gather_lt (sum : Nat) (digits : List Char) (h : sum < Nat.pow 2 64) :
    (gather sum digits).1 < Nat.pow 2 64 := by
  induction digits generalizing sum with
  | nil => exact h
  | cons c rest ih =>
      unfold gather
      split
      · next hfits => exact ih _ hfits
      · exact h

theorem inRange_wholeNumber (isNegative : Bool) (n : Nat) (h : n < Nat.pow 2 64) :
    (wholeNumber isNegative n).InRange := by
  unfold wholeNumber
  cases isNegative with
  | false => exact ⟨by omega, by exact_mod_cast h⟩
  | true =>
      rw [if_neg (by decide)]
      split
      · trivial
      · next hsmall =>
        have hbound : ¬Nat.pow 2 63 < n := fun hlt => hsmall (by simp [hlt])
        exact ⟨by omega, by omega⟩

/-- A number from floating point arithmetic is a floating point number. -/
theorem inRange_floatNumber (isNegative : Bool) (gathered : Nat) (exponent : Int) (n : Number)
    (h : floatNumber isNegative gathered exponent = .ok n) : n.InRange := by
  unfold floatNumber at h
  split at h
  · exact absurd h nofun
  · rw [← Except.ok.inj h]
    trivial

/-- A number that was read can be spelled. -/
theorem NumberParts.inRange_value (parts : NumberParts) (n : Number) (h : parts.value = .ok n) :
    n.InRange := by
  have hwhole := gather_lt 0 parts.whole (by decide)
  unfold NumberParts.value at h
  dsimp only at h
  split at h
  · -- Neither fraction nor exponent.
    split at h
    · rw [← Except.ok.inj h]
      exact inRange_wholeNumber _ _ hwhole
    · exact inRange_floatNumber _ _ _ n h
  · split at h
    · exact inRange_floatNumber _ _ _ n h
    · split_ifs at h
      · rw [← Except.ok.inj h]
        trivial
      · rw [← Except.ok.inj h]
        trivial
      · exact inRange_floatNumber _ _ _ n h
      · exact inRange_floatNumber _ _ _ n h

theorem inRange_scanNumber (isNegative : Bool) (cs : List Char) (n : Number)
    (h : (scanNumber isNegative cs).read = .ok n) : n.InRange := by
  unfold scanNumber at h
  split at h
  · exact absurd h nofun
  · exact NumberParts.inRange_value _ n h

namespace Node

theorem isSound_wordNode (found : Found) (word cs : List Char)
    (hfound : found = .null ∨ ∃ b, found = .bool b) :
    (wordNode (scanWord found word cs)).1.IsSound := by
  refine IsSound.word _ fun other h => ?_
  unfold scanWord at h
  split at h
  · rw [← Except.ok.inj h]
    exact hfound
  · exact absurd h nofun

theorem isSound_numberNode (isNegative : Bool) (cs : List Char) :
    (numberNode (scanNumber isNegative cs)).1.IsSound :=
  IsSound.number _ _ (inRange_scanNumber isNegative cs)

/-- A value that was scanned is sound, and so are items and members. The induction is on the
    steps, of which the parts of a container have one less. -/
theorem isSound_scanNode (fuel : Nat) :
    (∀ cs, (scanNode fuel cs).1.IsSound) ∧ (∀ cs, ∀ n ∈ (scanItems fuel cs).1, n.IsSound) ∧
      ∀ cs, ∀ m ∈ (scanMembers fuel cs).1, m.2.IsSound := by
  induction fuel with
  | zero =>
      refine ⟨fun cs => ?_, fun cs n hn => ?_, fun cs m hm => ?_⟩
      · rw [scanNode]
        exact IsSound.absent _
      · rw [scanItems] at hn
        exact absurd hn List.not_mem_nil
      · rw [scanMembers] at hm
        exact absurd hm List.not_mem_nil
  | succ fuel ih =>
      rcases ih with ⟨hnode, hitems, hmembers⟩
      refine ⟨fun cs => ?_, fun cs => ?_, fun cs => ?_⟩
      · -- The first character decides, and only containers go on with a step less.
        unfold scanNode
        split
        · exact IsSound.absent _
        · next c rest _ =>
          split_ifs
          · exact isSound_wordNode _ _ _ (Or.inl rfl)
          · exact isSound_wordNode _ _ _ (Or.inr ⟨true, rfl⟩)
          · exact isSound_wordNode _ _ _ (Or.inr ⟨false, rfl⟩)
          · exact IsSound.string _ _
          · exact isSound_numberNode true rest
          · exact isSound_numberNode false (c :: rest)
          · split
            · exact IsSound.array _ _ fun n hn => absurd hn List.not_mem_nil
            · exact IsSound.array _ _ fun n hn => absurd hn List.not_mem_nil
            · exact IsSound.array _ _ (hitems _)
          · split
            · exact IsSound.object _ _ fun m hm => absurd hm List.not_mem_nil
            · exact IsSound.object _ _ fun m hm => absurd hm List.not_mem_nil
            · exact IsSound.object _ _ (hmembers _)
          · exact IsSound.absent _
      · unfold scanItems
        dsimp only
        split
        · exact fun n hn => List.mem_singleton.mp hn ▸ hnode cs
        · split
          · rintro n (_ | ⟨_, hn⟩)
            · exact hnode cs
            · exact hitems _ n hn
          · exact fun n hn => List.mem_singleton.mp hn ▸ hnode cs
          · exact fun n hn => List.mem_singleton.mp hn ▸ hnode cs
      · unfold scanMembers
        dsimp only
        split
        · exact fun m hm => List.mem_singleton.mp hm ▸ IsSound.absent _
        · split
          · exact fun m hm => List.mem_singleton.mp hm ▸ IsSound.absent _
          · split
            · split
              · exact fun m hm => List.mem_singleton.mp hm ▸ hnode _
              · split
                · rintro m (_ | ⟨_, hm⟩)
                  · exact hnode _
                  · exact hmembers _ m hm
                · exact fun m hm => List.mem_singleton.mp hm ▸ hnode _
                · exact fun m hm => List.mem_singleton.mp hm ▸ hnode _
            · exact fun m hm => List.mem_singleton.mp hm ▸ IsSound.absent _
        · exact fun m hm => List.mem_singleton.mp hm ▸ IsSound.absent _

/-- The value of a text is sound, however the text ends. -/
theorem isSound_ofText (text : String) : (Document.ofText text).root.IsSound := by
  have hroot := (isSound_scanNode (2 * text.toList.length + 2)).1 text.toList
  unfold Document.ofText
  dsimp only
  split
  · exact hroot
  · exact hroot

end Node

end Json

end Typings
