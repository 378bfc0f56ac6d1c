import SyntaxForge.Grammar.Catalog
import Mathlib.Data.List.Nodup

/-!
# Looking kinds up by name

Once no two kinds share a name, looking a name up finds the kind that has it.
-/

namespace SyntaxForge

namespace NodeKind

/-- Only a concrete kind has slots. -/
lemma slots_eq_nil_of_isConcrete_eq_false {kind : NodeKind} (h : kind.isConcrete = false) :
    kind.slots = [] := by
  obtain ⟨name, base, doc, shape⟩ := kind
  cases shape <;> simp [isConcrete, slots] at h ⊢

lemma isConcrete_of_mem_slots {kind : NodeKind} {slot : Slot} (h : slot ∈ kind.slots) :
    kind.isConcrete = true := by
  by_contra hconcrete
  rw [slots_eq_nil_of_isConcrete_eq_false (by simpa using hconcrete)] at h
  simp at h

/-- A kind refers to the types of its slots. -/
lemma type_mem_references {kind : NodeKind} {slot : Slot} (h : slot ∈ kind.slots) :
    slot.type ∈ kind.references := by
  obtain ⟨name, base, doc, shape⟩ := kind
  cases shape with
  | concrete slots => exact List.mem_map_of_mem h
  | base => simp [slots] at h
  | collection element onNewLines => simp [slots] at h

/-- A collection refers to the type of its elements. -/
lemma element_mem_references {kind : NodeKind} {type : TypeRef} (h : kind.element? = some type) :
    type ∈ kind.references := by
  obtain ⟨name, base, doc, shape⟩ := kind
  cases shape with
  | base => simp [element?] at h
  | concrete slots => simp [element?] at h
  | collection element onNewLines => simpa [element?, references, eq_comm] using h

lemma isConcrete_eq_false_of_isBase {kind : NodeKind} (h : kind.isBase = true) :
    kind.isConcrete = false := by
  obtain ⟨name, base, doc, shape⟩ := kind
  cases shape <;> simp [isBase, isConcrete] at h ⊢

lemma isBase_eq_false_of_isConcrete {kind : NodeKind} (h : kind.isConcrete = true) :
    kind.isBase = false := by
  obtain ⟨name, base, doc, shape⟩ := kind
  cases shape <;> simp [isBase, isConcrete] at h ⊢

lemma isBase_eq_false_of_isCollection {kind : NodeKind} (h : kind.isCollection = true) :
    kind.isBase = false := by
  obtain ⟨name, base, doc, shape⟩ := kind
  cases shape <;> simp [isBase, isCollection] at h ⊢

lemma isConcrete_eq_false_of_isCollection {kind : NodeKind} (h : kind.isCollection = true) :
    kind.isConcrete = false := by
  obtain ⟨name, base, doc, shape⟩ := kind
  cases shape <;> simp [isCollection, isConcrete] at h ⊢

end NodeKind

namespace Catalog

/-- No two kinds share a name. -/
def DistinctNames (catalog : Catalog) : Prop :=
  (catalog.kinds.map NodeKind.name).Nodup

variable {catalog : Catalog} {kind : NodeKind} {name : String}

/-- What is found is a declared kind of that name. -/
lemma mem_and_name_of_kind? (h : catalog.kind? name = some kind) :
    kind ∈ catalog.kinds ∧ kind.name = name := by
  have hname := List.find?_some h
  exact ⟨List.mem_of_find?_eq_some h, by simpa using hname⟩

/-- Declared kinds of the same name are the same kind. -/
lemma DistinctNames.eq_of_name_eq (hdistinct : catalog.DistinctNames) {other : NodeKind}
    (hkind : kind ∈ catalog.kinds) (hother : other ∈ catalog.kinds) (h : kind.name = other.name) :
    kind = other :=
  List.inj_on_of_nodup_map hdistinct hkind hother h

/-- A name that some kind has is found. -/
lemma exists_kind?_of_mem (hkind : kind ∈ catalog.kinds) :
    ∃ found, catalog.kind? kind.name = some found := by
  cases h : catalog.kind? kind.name with
  | none =>
      rw [kind?, List.find?_eq_none] at h
      exact absurd (h kind hkind) (by simp)
  | some found => exact ⟨found, rfl⟩

/-- **Looking a declared kind up finds it.** -/
theorem DistinctNames.kind?_eq_some (hdistinct : catalog.DistinctNames)
    (hkind : kind ∈ catalog.kinds) : catalog.kind? kind.name = some kind := by
  obtain ⟨found, h⟩ := exists_kind?_of_mem hkind
  obtain ⟨hfound, hname⟩ := mem_and_name_of_kind? h
  rw [h, hdistinct.eq_of_name_eq hfound hkind hname]

end Catalog

end SyntaxForge
