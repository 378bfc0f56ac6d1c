import SyntaxForge.Generate.Phrase
import SyntaxForge.Proofs.Acceptance

/-!
# The names of generated types

Once `Grammar.checkNames` succeeds, a generated name tells the kind that it belongs to, and the
names that one kind has for itself differ where declarations go by them.

* `Grammar.eq_of_mem_claimedNames`: **no two kinds claim the same name**.
* `Grammar.eq_of_buildableBaseName_eq`: what builds a kind tells the kind, also where the base of
  collections is a kind with values of its own.
-/

namespace SyntaxForge

/-! ## Names of a kind -/

namespace SwiftType

variable {kind : NodeKind}

@[simp] lemma mark_ofKind (kind : NodeKind) : (ofKind kind).mark = "" := rfl

@[simp] lemma isToken_ofKind (kind : NodeKind) : (ofKind kind).isToken = false := by
  rw [isToken, ofKind]
  cases kind.isRoot <;> cases kind.isBase <;> rfl

@[simp] lemma baseName_ofKind (kind : NodeKind) : (ofKind kind).baseName = kind.name := by
  rw [baseName, ofKind]
  cases kind.isRoot <;> cases kind.isBase <;> rfl

@[simp] lemma buildable_ofKind (kind : NodeKind) :
    (ofKind kind).buildable = (ofKind kind).buildableBaseName := by
  rw [buildable, mark_ofKind, String.append_empty]

lemma expressibleAs_ofKind (kind : NodeKind) :
    (ofKind kind).expressibleAs = "ExpressibleAs" ++ (ofKind kind).buildableBaseName := by
  rw [expressibleAs, isToken_ofKind, mark_ofKind, String.append_empty]
  rfl

lemma expressibleAs_optional (kind : NodeKind) (isOptional : Bool) :
    ((ofKind kind).optional isOptional).expressibleAs
      = (ofKind kind).expressibleAs ++ if isOptional then "?" else "" := by
  have htoken : ((ofKind kind).optional isOptional).isToken = false := isToken_ofKind kind
  rw [expressibleAs_ofKind, expressibleAs, htoken]
  rfl

/-- A parameter for a node takes everything that can be turned into it. -/
lemma parameterName_optional (kind : NodeKind) (isOptional : Bool) :
    ((ofKind kind).optional isOptional).parameterName
      = ((ofKind kind).optional isOptional).expressibleAs := by
  rw [parameterName, optional, ofKind]
  cases kind.isRoot <;> cases kind.isBase <;> rfl

lemma listBuildable_ofKind (kind : NodeKind) :
    (ofKind kind).listBuildable = kind.name ++ "ListBuildable" := by
  rw [listBuildable, baseName_ofKind]

lemma buildableBaseName_of_isBase (h : kind.isBase = true) :
    (ofKind kind).buildableBaseName = kind.name ++ "Buildable" := by
  rw [buildableBaseName, ofKind, h]
  cases kind.isRoot <;> rfl

lemma buildableBaseName_of_not_isBase (hroot : kind.isRoot = false) (h : kind.isBase = false) :
    (ofKind kind).buildableBaseName = kind.name := by
  rw [buildableBaseName, ofKind, h, hroot]
  rfl

lemma isRoot_ofKind (kind : NodeKind) : (ofKind kind).isRoot = kind.isRoot := by
  rw [isRoot, ofKind]
  cases kind.isRoot <;> cases kind.isBase <;> rfl

/-! What a kind is expressible as and what builds lists of it are longer names than what builds it;
for a base they differ from each other, too. -/

lemma expressibleAs_ne_buildableBaseName (kind : NodeKind) :
    (ofKind kind).expressibleAs ≠ (ofKind kind).buildableBaseName := by
  intro h
  have hlength := congrArg String.length h
  rw [expressibleAs_ofKind, String.length_append] at hlength
  have : "ExpressibleAs".length = 13 := rfl
  omega

lemma buildableBaseName_ne_listBuildable (h : kind.isBase = true) :
    (ofKind kind).buildableBaseName ≠ (ofKind kind).listBuildable := by
  rw [buildableBaseName_of_isBase h, listBuildable_ofKind, ne_eq, String.append_right_inj]
  decide

lemma expressibleAs_ne_listBuildable (h : kind.isBase = true) :
    (ofKind kind).expressibleAs ≠ (ofKind kind).listBuildable := by
  intro heq
  have hlength := congrArg String.length heq
  rw [expressibleAs_ofKind, buildableBaseName_of_isBase h, listBuildable_ofKind] at hlength
  simp only [String.length_append] at hlength
  have h₁ : "ExpressibleAs".length = 13 := rfl
  have h₂ : "Buildable".length = 9 := rfl
  have h₃ : "ListBuildable".length = 13 := rfl
  omega

lemma expressibleAs_ne {name : String} (h : ¬ "ExpressibleAs".toList <+: name.toList)
    (kind : NodeKind) : (ofKind kind).expressibleAs ≠ name := by
  rintro rfl
  rw [expressibleAs_ofKind, String.toList_append] at h
  exact h (List.prefix_append _ _)

lemma createMethod_inj {a b : SwiftType} :
    a.createMethod = b.createMethod ↔ a.buildableBaseName = b.buildableBaseName := by
  rw [createMethod, createMethod, String.append_right_inj]

end SwiftType

/-! ## Claims -/

namespace Grammar

/-- If no claim collides, every name has an owner. -/
lemma exists_owner_of_firstCollision_eq_none : ∀ {claims claimed : List (String × String)},
    firstCollision claimed claims = none →
      ∃ owner : String → String, (∀ name kind, claimed.lookup name = some kind → owner name = kind)
        ∧ ∀ claim ∈ claims, owner claim.1 = claim.2
  | [], claimed, _ => by
      refine ⟨fun name => (claimed.lookup name).getD name, ?_, by simp⟩
      intro name kind h
      dsimp only
      rw [h, Option.getD_some]
  | (name, kind) :: rest, claimed, h => by
      rw [firstCollision] at h
      split at h
      · next other hlookup =>
          split at h
          · next heq =>
              obtain ⟨owner, hclaimed, hrest⟩ := exists_owner_of_firstCollision_eq_none h
              refine ⟨owner, hclaimed, ?_⟩
              intro claim hclaim
              rcases List.mem_cons.mp hclaim with rfl | hclaim
              · exact hclaimed name kind (heq ▸ hlookup)
              · exact hrest claim hclaim
          · simp at h
      · next hlookup =>
          obtain ⟨owner, hclaimed, hrest⟩ := exists_owner_of_firstCollision_eq_none h
          refine ⟨owner, ?_, ?_⟩
          · intro other otherKind hother
            have hne : other ≠ name := by
              rintro rfl
              simp [hlookup] at hother
            exact hclaimed other otherKind (by rw [List.lookup_cons, beq_false_of_ne hne, hother])
          · intro claim hclaim
            rcases List.mem_cons.mp hclaim with rfl | hclaim
            · exact hclaimed name kind List.lookup_cons_self
            · exact hrest claim hclaim

variable {declarations : Declarations} {grammar : Grammar} {kind other : NodeKind}

lemma mem_generatingKinds :
    kind ∈ grammar.generatingKinds ↔ kind ∈ grammar.kinds ∧ kind.name ≠ collectionBaseName := by
  rw [generatingKinds, List.mem_filter, decide_eq_true_iff]

/-- **No two kinds claim the same name.** -/
theorem eq_of_mem_claimedNames (h : Accepts declarations grammar)
    (hnames : grammar.checkNames = .ok ()) (hkind : kind ∈ grammar.generatingKinds)
    (hother : other ∈ grammar.generatingKinds) {name : String}
    (hmem : name ∈ (SwiftType.ofKind kind).claimedNames)
    (hmem' : name ∈ (SwiftType.ofKind other).claimedNames) : kind = other := by
  rw [checkNames] at hnames
  split at hnames
  · simp at hnames
  · next hnone =>
      obtain ⟨owner, _, howner⟩ := exists_owner_of_firstCollision_eq_none hnone
      have hclaim : ∀ {k : NodeKind}, k ∈ grammar.generatingKinds →
          name ∈ (SwiftType.ofKind k).claimedNames → owner name = k.name := by
        intro k hk hmem
        exact howner (name, k.name)
          (List.mem_flatMap.mpr ⟨k, hk, List.mem_map.mpr ⟨name, hmem, rfl⟩⟩)
      refine h.distinctNames.eq_of_name_eq (mem_generatingKinds.mp hkind).1
        (mem_generatingKinds.mp hother).1 ?_
      rw [← hclaim hkind hmem, hclaim hother hmem']

/-! ## What builds a kind -/

namespace Accepts

lemma isBase_of_isRoot (h : Accepts declarations grammar) (hkind : kind ∈ grammar.kinds)
    (hroot : kind.isRoot = true) : kind.isBase = true := by
  obtain ⟨root, hmem, hname, _, hbase⟩ := h.exists_root
  have hrootName := (h.isRoot_iff hkind).mp hroot
  rw [h.distinctNames.eq_of_name_eq hkind hmem (hrootName.trans hname.symm), hbase]

/-- The type of the root goes by its name. -/
lemma ofKind_root (h : Accepts declarations grammar) (hkind : kind ∈ grammar.kinds)
    (hname : kind.name = rootName) : SwiftType.ofKind kind = Generate.rootType := by
  rw [SwiftType.ofKind, (h.isRoot_iff hkind).mpr hname, hname]
  rfl

/-- A declared name stands for the type of its kind. -/
lemma ofName_eq_ofKind (h : Accepts declarations grammar) (hkind : kind ∈ grammar.kinds) :
    SwiftType.ofName grammar kind.name = SwiftType.ofKind kind := by
  rw [SwiftType.ofName, h.distinctNames.kind?_eq_some hkind]

/-- A kind that is no base is built by its own name. -/
lemma buildableBaseName_eq_name (h : Accepts declarations grammar) (hkind : kind ∈ grammar.kinds)
    (hbase : kind.isBase = false) : (SwiftType.ofKind kind).buildableBaseName = kind.name := by
  refine SwiftType.buildableBaseName_of_not_isBase ?_ hbase
  by_contra hroot
  rw [h.isBase_of_isRoot hkind (by simpa using hroot)] at hbase
  exact Bool.noConfusion hbase

lemma buildable_eq_name (h : Accepts declarations grammar) (hkind : kind ∈ grammar.kinds)
    (hbase : kind.isBase = false) : (SwiftType.ofKind kind).buildable = kind.name := by
  rw [SwiftType.buildable_ofKind, h.buildableBaseName_eq_name hkind hbase]

end Accepts

/-- The kind generates types, or is a base of collections with values of its own. -/
def IsExpressible (grammar : Grammar) (kind : NodeKind) : Prop :=
  kind ∈ grammar.kinds ∧ (kind.name = collectionBaseName → kind.isBase = false)

lemma isExpressible_of_mem_generatingKinds (hkind : kind ∈ grammar.generatingKinds) :
    grammar.IsExpressible kind := by
  rw [mem_generatingKinds] at hkind
  exact ⟨hkind.1, fun hname => absurd hname hkind.2⟩

lemma append_ne_of_not_suffix {a b c : String} (h : ¬ b.toList <:+ c.toList) : a ++ b ≠ c := by
  rintro rfl
  exact h (String.toList_append ▸ List.suffix_append _ _)

/-- No kind that generates types is built by the name of the base of collections. -/
lemma buildableBaseName_ne_collectionBaseName (h : Accepts declarations grammar)
    (hkind : kind ∈ grammar.generatingKinds) :
    (SwiftType.ofKind kind).buildableBaseName ≠ collectionBaseName := by
  rw [mem_generatingKinds] at hkind
  cases hbase : kind.isBase with
  | true =>
      rw [SwiftType.buildableBaseName_of_isBase hbase]
      exact append_ne_of_not_suffix (by decide)
  | false =>
      rw [h.buildableBaseName_eq_name hkind.1 hbase]
      exact hkind.2

/-- **What builds a kind tells the kind.** -/
theorem eq_of_buildableBaseName_eq (h : Accepts declarations grammar)
    (hnames : grammar.checkNames = .ok ()) (hkind : grammar.IsExpressible kind)
    (hother : grammar.IsExpressible other)
    (heq : (SwiftType.ofKind kind).buildableBaseName = (SwiftType.ofKind other).buildableBaseName) :
    kind = other := by
  by_cases hname : kind.name = collectionBaseName <;>
    by_cases hname' : other.name = collectionBaseName
  · exact h.distinctNames.eq_of_name_eq hkind.1 hother.1 (hname.trans hname'.symm)
  · rw [h.buildableBaseName_eq_name hkind.1 (hkind.2 hname), hname] at heq
    exact absurd heq.symm
      (buildableBaseName_ne_collectionBaseName h (mem_generatingKinds.mpr ⟨hother.1, hname'⟩))
  · rw [h.buildableBaseName_eq_name hother.1 (hother.2 hname'), hname'] at heq
    exact absurd heq
      (buildableBaseName_ne_collectionBaseName h (mem_generatingKinds.mpr ⟨hkind.1, hname⟩))
  · refine eq_of_mem_claimedNames h hnames (mem_generatingKinds.mpr ⟨hkind.1, hname⟩)
      (mem_generatingKinds.mpr ⟨hother.1, hname'⟩)
      List.mem_cons_self ?_
    simp [SwiftType.claimedNames, heq]

/-- What a kind is expressible as tells the kind. -/
lemma eq_of_expressibleAs_eq (h : Accepts declarations grammar)
    (hnames : grammar.checkNames = .ok ()) (hkind : grammar.IsExpressible kind)
    (hother : grammar.IsExpressible other)
    (heq : (SwiftType.ofKind kind).expressibleAs = (SwiftType.ofKind other).expressibleAs) :
    kind = other := by
  rw [SwiftType.expressibleAs_ofKind, SwiftType.expressibleAs_ofKind,
    String.append_right_inj] at heq
  exact eq_of_buildableBaseName_eq h hnames hkind hother heq

/-- What a kind is expressible as is not what builds some base or a list of it. -/
lemma expressibleAs_ne_of_isBase (h : Accepts declarations grammar)
    (hnames : grammar.checkNames = .ok ()) (hkind : grammar.IsExpressible kind)
    (hother : other ∈ grammar.generatingKinds) (hbase : other.isBase = true) :
    (SwiftType.ofKind kind).expressibleAs ≠ (SwiftType.ofKind other).buildableBaseName
      ∧ (SwiftType.ofKind kind).expressibleAs ≠ (SwiftType.ofKind other).listBuildable := by
  by_cases hname : kind.name = collectionBaseName
  · -- the names of a base end in a word that the name of the base of collections does not end in
    rw [SwiftType.expressibleAs_ofKind, h.buildableBaseName_eq_name hkind.1 (hkind.2 hname), hname,
      SwiftType.buildableBaseName_of_isBase hbase, SwiftType.listBuildable_ofKind]
    exact ⟨(append_ne_of_not_suffix (by decide)).symm, (append_ne_of_not_suffix (by decide)).symm⟩
  · have hkind := mem_generatingKinds.mpr ⟨hkind.1, hname⟩
    have hmem : (SwiftType.ofKind kind).expressibleAs ∈ (SwiftType.ofKind kind).claimedNames := by
      simp [SwiftType.claimedNames]
    refine ⟨fun heq => ?_, fun heq => ?_⟩
    · obtain rfl := eq_of_mem_claimedNames h hnames hkind hother hmem
        (by simp [SwiftType.claimedNames, heq])
      exact SwiftType.expressibleAs_ne_buildableBaseName kind heq
    · obtain rfl := eq_of_mem_claimedNames h hnames hkind hother hmem
        (by simp [SwiftType.claimedNames, heq])
      exact SwiftType.expressibleAs_ne_listBuildable hbase heq

/-- What builds a base is not what builds a list of some base. -/
lemma buildableBaseName_ne_listBuildable (h : Accepts declarations grammar)
    (hnames : grammar.checkNames = .ok ()) (hkind : kind ∈ grammar.generatingKinds)
    (hbase : kind.isBase = true) (hother : other ∈ grammar.generatingKinds) :
    (SwiftType.ofKind kind).buildableBaseName ≠ (SwiftType.ofKind other).listBuildable := by
  intro heq
  obtain rfl := eq_of_mem_claimedNames h hnames hkind hother (List.mem_cons_self ..)
    (by simp [SwiftType.claimedNames, heq])
  exact SwiftType.buildableBaseName_ne_listBuildable hbase heq

end Grammar

end SyntaxForge
