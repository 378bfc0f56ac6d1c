import SyntaxForge.Builder.Layout
import SyntaxForge.Proofs.ConformanceGraph

/-!
# Deriving and wrapping

A kind derives from the kinds along its chain of bases, and is wrapped by a kind that has one open
slot for something it derives from.

* `Accepts.subkind_cases`: **what a kind derives from, apart from itself, the root and the base of
  collections, is reached through its base**.
* `Catalog.conversionSlot?_cases` and `Catalog.filter_required_eq`: a value converted by a wrap
  fills **the only slot that has to be given**.
-/

namespace SyntaxForge

open Relation

/-! ## Wraps -/

namespace Catalog

variable {catalog : Catalog} {kind : NodeKind} {source : String} {slot : Slot}

/-- The slot that a value fills on its own is for a node that the source derives from, and all
others have their content already. -/
lemma conversionSlot?_cases (h : catalog.conversionSlot? kind source = some slot) :
    slot ∈ kind.slots ∧ slot.isOptional = false
      ∧ (∃ type, slot.type = .node type ∧ catalog.isSubkind source type = true)
      ∧ ∀ other ∈ kind.slots, other.name ≠ slot.name →
        other.isOptional = true ∨ catalog.isFixedToken other.type = true := by
  rw [conversionSlot?] at h
  split at h
  · next only honly =>
      rw [Option.ite_none_right_eq_some, Bool.and_eq_true, List.all_eq_true] at h
      obtain ⟨⟨hothers, haccepts⟩, heq⟩ := h
      obtain rfl : only = slot := by simpa using heq
      have honlyMem : only ∈ kind.slots.filter fun slot =>
          !slot.isOptional && !slot.type.isToken := by
        rw [honly]
        exact List.mem_singleton_self _
      obtain ⟨hmem, hopen⟩ := List.mem_filter.mp honlyMem
      rw [Bool.and_eq_true, Bool.not_eq_true', Bool.not_eq_true'] at hopen
      refine ⟨hmem, hopen.1, ?_, ?_⟩
      · rw [Option.any_eq_true] at haccepts
        obtain ⟨type, htype, hsubkind⟩ := haccepts
        refine ⟨type, ?_, hsubkind⟩
        cases hslot : only.type with
        | node name => simpa [hslot, TypeRef.node?] using htype
        | token name => simp [hslot, TypeRef.node?] at htype
        | anyToken => simp [hslot, TypeRef.node?] at htype
      · intro other hother hne
        have hdefault := hothers other (List.mem_filter.mpr ⟨hother, by simpa using hne⟩)
        rwa [Bool.or_eq_true] at hdefault
  · simp at h

lemma filling_eq_required_iff : catalog.filling slot = .required
    ↔ slot.isOptional = false ∧ catalog.isFixedToken slot.type = false := by
  rw [filling, isFixedToken]
  cases slot.isOptional <;> cases catalog.fixedToken? slot.type <;> simp

/-- **A value converted by a wrap fills the only slot that has to be given.** -/
theorem filter_required_eq (h : catalog.conversionSlot? kind source = some slot)
    (hnames : (kind.slots.map Slot.name).Nodup) :
    (kind.slots.filter fun slot => catalog.filling slot = .required) = [slot] := by
  obtain ⟨hmem, hopen, ⟨type, htype, _⟩, hothers⟩ := conversionSlot?_cases h
  have hrequired : ∀ other ∈ kind.slots,
      decide (catalog.filling other = .required) = (other == slot) := by
    intro other hother
    rw [Bool.eq_iff_iff, decide_eq_true_iff, beq_iff_eq, filling_eq_required_iff]
    constructor
    · rintro ⟨hnotOptional, hnotFixed⟩
      refine List.inj_on_of_nodup_map hnames hother hmem ?_
      by_contra hne
      rcases hothers other hother hne with hoptional | hfixed
      · rw [hnotOptional] at hoptional
        exact Bool.noConfusion hoptional
      · rw [hnotFixed] at hfixed
        exact Bool.noConfusion hfixed
    · rintro rfl
      refine ⟨hopen, ?_⟩
      rw [htype]
      rfl
  rw [List.filter_congr hrequired, List.filter_beq, List.count_eq_one_of_mem hnames.of_map hmem]
  rfl

end Catalog

namespace Grammar.Accepts

variable {declarations : Declarations} {grammar : Grammar} {kind : NodeKind}

/-! ## Chains of bases -/

/-- Everything above a kind is a base. -/
lemma isBase_of_mem_chainWithin (h : Accepts declarations grammar) {ancestor : NodeKind} :
    ∀ {bound : Nat} {kind : NodeKind}, kind ∈ grammar.kinds →
      ancestor ∈ grammar.chainWithin bound kind →
      ancestor = kind ∨ ancestor ∈ grammar.kinds ∧ ancestor.isBase = true
  | 0, _, _, hmem => by simp [Catalog.chainWithin] at hmem
  | bound + 1, kind, hkind, hmem => by
      rw [Catalog.chainWithin, List.mem_cons] at hmem
      rcases hmem with rfl | hmem
      · exact Or.inl rfl
      · split at hmem
        · next base hfound =>
            obtain ⟨name, hname, hfound⟩ := Option.bind_eq_some_iff.mp hfound
            obtain ⟨hbase, rfl⟩ := Catalog.mem_and_name_of_kind? hfound
            obtain ⟨_, hmem', hname', hisBase⟩ := h.exists_base hkind hname
            obtain rfl := h.distinctNames.eq_of_name_eq hbase hmem' hname'.symm
            rcases h.isBase_of_mem_chainWithin hbase hmem with rfl | habove
            · exact Or.inr ⟨hbase, hisBase⟩
            · exact Or.inr habove
        · simp at hmem

/-- Along a chain, everything above the kind is the root, the base of collections, or a base that
the kind reaches through its own. -/
lemma chainWithin_cases (h : Accepts declarations grammar)
    (hcollection : ∀ kind ∈ grammar.kinds, kind.name = collectionBaseName →
      kind.base = some rootName) {ancestor : NodeKind} :
    ∀ {bound : Nat} {kind : NodeKind}, kind ∈ grammar.kinds →
      ancestor ∈ grammar.chainWithin bound kind →
      ancestor = kind ∨ ancestor.name = rootName ∨ ancestor.name = collectionBaseName
        ∨ ancestor ∈ grammar.kinds ∧ ancestor.isBase = true ∧ ∃ base, kind.base = some base
          ∧ grammar.Conforms kind.name base ∧ ReflTransGen grammar.Conforms base ancestor.name
  | 0, _, _, hmem => by simp [Catalog.chainWithin] at hmem
  | bound + 1, kind, hkind, hmem => by
      rw [Catalog.chainWithin, List.mem_cons] at hmem
      rcases hmem with rfl | hmem
      · exact Or.inl rfl
      · right
        split at hmem
        · next base hfound =>
            obtain ⟨name, hname, hfound⟩ := Option.bind_eq_some_iff.mp hfound
            obtain ⟨hbase, rfl⟩ := Catalog.mem_and_name_of_kind? hfound
            obtain ⟨_, hmem', hname', hisBase⟩ := h.exists_base hkind hname
            obtain rfl := h.distinctNames.eq_of_name_eq hbase hmem' hname'.symm
            -- the base of collections derives from the root, so that the edge is there for others
            have hedge : base.name ≠ rootName → base.name ≠ collectionBaseName →
                grammar.Conforms kind.name base.name := by
              intro hroot hnotCollection
              refine h.conforms_base hkind ?_ hname hroot hnotCollection
              intro hkindName
              rw [hcollection kind hkind hkindName, Option.some.injEq] at hname
              exact hroot hname.symm
            rcases h.chainWithin_cases hcollection hbase hmem with
              rfl | hroot | hname' | ⟨hancestor, hisBase', _, _, hedge', hreach⟩
            · by_cases hroot : ancestor.name = rootName
              · exact Or.inl hroot
              · by_cases hnotCollection : ancestor.name = collectionBaseName
                · exact Or.inr (Or.inl hnotCollection)
                · exact Or.inr (Or.inr
                    ⟨hbase, hisBase, _, hname, hedge hroot hnotCollection, .refl⟩)
            · exact Or.inl hroot
            · exact Or.inr (Or.inl hname')
            · obtain ⟨hroot, hnotCollection⟩ := h.not_root_of_conforms hedge'
              exact Or.inr (Or.inr ⟨hancestor, hisBase', _, hname, hedge hroot hnotCollection,
                .head hedge' hreach⟩)
        · simp at hmem

/-- **What a kind derives from is reached through its base**, apart from the kind itself, the root
and the base of collections. -/
theorem subkind_cases (h : Accepts declarations grammar)
    (hcollection : ∀ kind ∈ grammar.kinds, kind.name = collectionBaseName →
      kind.base = some rootName) (hkind : kind ∈ grammar.kinds) {ancestor : String}
    (hsubkind : grammar.isSubkind kind.name ancestor = true) :
    ancestor = kind.name ∨ ancestor = rootName ∨ ancestor = collectionBaseName
      ∨ (∃ found ∈ grammar.kinds, found.name = ancestor ∧ found.isBase = true)
        ∧ ∃ base, kind.base = some base ∧ grammar.Conforms kind.name base
          ∧ ReflTransGen grammar.Conforms base ancestor := by
  rw [Catalog.isSubkind, h.distinctNames.kind?_eq_some hkind] at hsubkind
  obtain ⟨found, hfound, hname⟩ := List.any_eq_true.mp hsubkind
  obtain rfl : found.name = ancestor := by simpa using hname
  rcases h.chainWithin_cases hcollection hkind hfound with
    rfl | hroot | hname | ⟨hmem, hisBase, base, hbase⟩
  · exact Or.inl rfl
  · exact Or.inr (Or.inl hroot)
  · exact Or.inr (Or.inr (Or.inl hname))
  · exact Or.inr (Or.inr (Or.inr ⟨⟨found, hmem, rfl, hisBase⟩, base, hbase⟩))

/-- What a kind derives from is the kind itself or a base. -/
lemma exists_of_isSubkind (h : Accepts declarations grammar) (hkind : kind ∈ grammar.kinds)
    {ancestor : String} (hsubkind : grammar.isSubkind kind.name ancestor = true) :
    ∃ found ∈ grammar.kinds, found.name = ancestor ∧ (found = kind ∨ found.isBase = true) := by
  rw [Catalog.isSubkind, h.distinctNames.kind?_eq_some hkind] at hsubkind
  obtain ⟨found, hfound, hname⟩ := List.any_eq_true.mp hsubkind
  rcases h.isBase_of_mem_chainWithin hkind hfound with rfl | ⟨hmem, hbase⟩
  · exact ⟨found, hkind, by simpa using hname, Or.inl rfl⟩
  · exact ⟨found, hmem, by simpa using hname, Or.inr hbase⟩

/-! ## Conformances by their conversions -/

/-- A wrap has a slot of the target for the kind, and for just this kind unless it is listed. -/
lemma exists_conversionSlot_of_wrap (h : Accepts declarations grammar)
    (hkind : kind ∈ grammar.kinds) {conformance : Conformance}
    (hmem : conformance ∈ grammar.conformances kind.name) {name : String}
    (hwrap : conformance.conversion = .wrap name) :
    ∃ target ∈ grammar.concreteKinds, target.name = conformance.target
      ∧ ∃ slot, slot.name = name ∧ grammar.conversionSlot? target kind.name = some slot
        ∧ (conformance.target ∈ Catalog.listedTargets declarations.expressibleAs kind.name
          ∨ slot.type = .node kind.name) := by
  obtain ⟨_, _, hcase⟩ := h.conformance_cases hkind hmem
  rcases hcase with hbase | ⟨htable, hlisted⟩ | ⟨target, htarget, hwrapper⟩
  · have hupcast := (Catalog.baseConformance?_eq_some_iff.mp hbase).2.2.2
    rw [hwrap] at hupcast
    exact Conversion.noConfusion hupcast
  · obtain ⟨_, target, hfound, ⟨hupcast, _⟩ | ⟨slot, hslotName, hslot⟩⟩ :=
      Catalog.listedConformance_cases hlisted
    · rw [hwrap] at hupcast
      exact Conversion.noConfusion hupcast
    · obtain ⟨htarget, hname⟩ := Catalog.mem_and_name_of_kind? hfound
      have hconcrete := NodeKind.isConcrete_of_mem_slots (Catalog.conversionSlot?_cases hslot).1
      rw [hwrap, Conversion.wrap.injEq] at hslotName
      exact ⟨target, List.mem_filter.mpr ⟨htarget, hconcrete⟩, hname, slot, hslotName.symm, hslot,
        Or.inl htable⟩
  · obtain ⟨hname, _, slot, hslotName, hslot, htype⟩ :=
      Catalog.wrapperConformance?_cases hwrapper
    rw [hwrap, Conversion.wrap.injEq] at hslotName
    exact ⟨target, htarget, hname.symm, slot, hslotName.symm, hslot, Or.inr htype⟩

/-- An upcast is to the base of the kind, or to something listed that it derives from. -/
lemma upcast_cases (h : Accepts declarations grammar) (hkind : kind ∈ grammar.kinds)
    {conformance : Conformance} (hmem : conformance ∈ grammar.conformances kind.name)
    (hupcast : conformance.conversion = .upcast) :
    kind.base = some conformance.target
      ∨ grammar.isSubkind kind.name conformance.target = true
        ∧ conformance.target ∈ Catalog.listedTargets declarations.expressibleAs kind.name := by
  obtain ⟨_, _, hcase⟩ := h.conformance_cases hkind hmem
  rcases hcase with hbase | ⟨htarget, hlisted⟩ | ⟨target, htarget, hwrapper⟩
  · exact Or.inl (Catalog.baseConformance?_eq_some_iff.mp hbase).1
  · obtain ⟨_, _, _, ⟨_, hsubkind⟩ | ⟨slot, hwrap, _⟩⟩ := Catalog.listedConformance_cases hlisted
    · exact Or.inr ⟨hsubkind, htarget⟩
    · rw [hupcast] at hwrap
      exact Conversion.noConfusion hwrap
  · obtain ⟨_, _, slot, hwrap, _⟩ := Catalog.wrapperConformance?_cases hwrapper
    rw [hupcast] at hwrap
    exact Conversion.noConfusion hwrap

end Grammar.Accepts

end SyntaxForge
