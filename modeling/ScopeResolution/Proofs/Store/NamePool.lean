import ScopeResolution.Store.NamePool

/-! # What a pool knows

A pool knows a text by the first place where it stands (`find?_eq_some_iff`). It keeps that name when
more texts join (`Extends`), so a name can be read back after all texts were met (`text_of_find?`). -/

namespace ScopeResolution.NamePool

variable {before after later pool : NamePool} {text : String} {name : Name}

/-- A name is that of a text when it is the first place of the text in the pool. -/
theorem find?_eq_some_iff : pool.find? text = some name ↔
    pool.texts[name.index]? = some text ∧
      ∀ earlier < name.index, pool.texts[earlier]? ≠ some text := by
  obtain ⟨index⟩ := name
  have position : pool.find? text = some ⟨index⟩ ↔
      ∃ place : Fin pool.texts.size, pool.texts.finIdxOf? text = some place ∧ place.1 = index := by
    rw [find?, Array.idxOf?_eq_map_finIdxOf?_val]
    simp
  rw [position]
  simp only [Array.finIdxOf?_eq_some_iff]
  constructor
  · rintro ⟨place, ⟨here, first⟩, rfl⟩
    refine ⟨Array.getElem?_eq_some_iff.2 ⟨place.2, here⟩, fun earlier isEarlier same => ?_⟩
    obtain ⟨inBounds, there⟩ := Array.getElem?_eq_some_iff.1 same
    exact first ⟨earlier, inBounds⟩ isEarlier there
  · rintro ⟨here, first⟩
    obtain ⟨inBounds, same⟩ := Array.getElem?_eq_some_iff.1 here
    refine ⟨⟨index, inBounds⟩, ⟨same, fun earlier isEarlier there => ?_⟩, rfl⟩
    exact first earlier isEarlier (Array.getElem?_eq_some_iff.2 ⟨earlier.2, there⟩)

/-- The name of a text reads back as the text. -/
theorem text_of_find? (found : pool.find? text = some name) : pool.text name = text := by
  rw [NamePool.text, text?, (find?_eq_some_iff.1 found).1, Option.getD_some]

/-- A pool extends another one when it knows all that this one knows by the same names. -/
def Extends (before after : NamePool) : Prop :=
  ∀ text name, before.find? text = some name → after.find? text = some name

namespace Extends

/-- A pool extends itself. -/
theorem refl (pool : NamePool) : pool.Extends pool := fun _ _ found => found

/-- Pools extend one another in turn. -/
theorem trans (first : before.Extends after) (second : after.Extends later) :
    before.Extends later :=
  fun text name found => second text name (first text name found)

end Extends

/-- A text that joins a pool stands behind all others. -/
theorem intern_extends (pool : NamePool) (text : String) : pool.Extends (pool.intern text).2 := by
  intro other name found
  unfold intern
  split
  · exact found
  · obtain ⟨here, first⟩ := find?_eq_some_iff.1 found
    have inBounds : name.index < pool.texts.size := (Array.getElem?_eq_some_iff.1 here).1
    have kept (index : Nat) (among : index ≤ name.index) :
        (pool.texts.push text)[index]? = pool.texts[index]? := by
      rw [Array.getElem?_push, if_neg (by omega)]
    refine find?_eq_some_iff.2 ⟨by rw [kept _ (Nat.le_refl _), here], fun earlier isEarlier => ?_⟩
    rw [kept earlier (Nat.le_of_lt isEarlier)]
    exact first earlier isEarlier

/-- A text is known by the name that it was given. -/
theorem find?_intern (pool : NamePool) (text : String) :
    (pool.intern text).2.find? text = some (pool.intern text).1 := by
  unfold intern
  split
  · assumption
  · rename_i unknown
    have absent : text ∉ pool.texts := by simpa [find?, Option.map_eq_none_iff] using unknown
    refine find?_eq_some_iff.2 ⟨by simp, fun earlier isEarlier same => absent ?_⟩
    rw [Array.getElem?_push, if_neg (Nat.ne_of_lt isEarlier)] at same
    exact Array.mem_of_getElem? same

end ScopeResolution.NamePool
