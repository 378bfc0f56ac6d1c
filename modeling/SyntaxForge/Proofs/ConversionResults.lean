import SyntaxForge.Proofs.ConversionCalls

/-!
# What conversions make

A conversion nests a node in values of bases and in wrappers, as its rules have it.  Values of bases
build what they hold (`Node.BuildsLike`), so that only the wrappers matter, and those follow from
the kind of the node and the target: `Grammar.Made` leaves the values of bases out.

* `Grammar.Made.unique`: **there is one thing that a node is made into as a value of a target**.
  Nothing converts to itself by way of another kind, and a target has one slot that has to be given.
* `Grammar.Makes.trans`: what is made of a result is made of the node, unless it is a value of the
  root.  The root takes the result as it is, with the wrappers around the node.
* `Grammar.makes_of_convertWithin`: **a conversion makes of a node what there is to be made of it**.

A wrapper around a wrapper is determined if it has a slot for just the inner one, and a wrapper is a
value of nothing but its own kind and the root; both are asked of a grammar by `Grammar.IsLayered`.
-/

namespace SyntaxForge

open Relation

/-! ## Nodes that build alike -/

namespace Node

/-- The two nodes make the same tree under every format, and with any trivia supplied. -/
def BuildsLike (node other : Node) : Prop :=
  ∀ format supplied, node.build format supplied = other.build format supplied

namespace BuildsLike

variable {node other third : Node}

lemma refl (node : Node) : node.BuildsLike node := fun _ _ => rfl

lemma symm (h : node.BuildsLike other) : other.BuildsLike node :=
  fun format supplied => (h format supplied).symm

lemma trans (h : node.BuildsLike other) (h' : other.BuildsLike third) : node.BuildsLike third :=
  fun format supplied => (h format supplied).trans (h' format supplied)

/-- A value of a base builds what it holds. -/
lemma upcast (base : String) (node : Node) : (Node.upcast base node).BuildsLike node := by
  intro format supplied
  rw [build]

end BuildsLike

end Node

/-- Content that builds alike may be exchanged in a slot. -/
lemma Fields.elements_ofContents_congr {node other : Node} (h : node.BuildsLike other)
    (name : String) (rest : Slot → Content) (format : Format) (slots : List Slot) :
    (ofContents slots (slots.map fun slot =>
        (List.lookup slot.name [(name, Content.node node)]).getD (rest slot))).elements format
      = (ofContents slots (slots.map fun slot =>
        (List.lookup slot.name [(name, Content.node other)]).getD (rest slot))).elements
          format := by
  induction slots with
  | nil => rfl
  | cons slot slots ih =>
      rw [List.map_cons, List.map_cons]
      by_cases hname : slot.name = name
      · simp only [hname, List.lookup_cons_self, Option.getD_some, ofContents, elements, ih, h _ _]
      · have hlookup (content : Content) : List.lookup slot.name [(name, content)] = none := by
          rw [List.lookup_cons, beq_false_of_ne hname, List.lookup_nil]
        simp only [hlookup, Option.getD_none]
        cases rest slot with
        | none => simp only [ofContents, elements, ih]
        | token token => simp only [ofContents, elements, ih]
        | node child => simp only [ofContents, elements, ih]

lemma Builder.make_buildsLike (builder : Builder) (kind : NodeKind) (name : String)
    {node other : Node} (h : node.BuildsLike other) :
    (builder.make kind [(name, .node node)]).BuildsLike
      (builder.make kind [(name, .node other)]) := by
  intro format supplied
  rw [make, make, Node.make, Node.make, Node.build, Node.build,
    Fields.elements_ofContents_congr h]

namespace Grammar

variable {declarations : Declarations} {grammar : Grammar} {kind target : NodeKind}

/-! ## Deriving -/

/-- A kind is declared with this base. -/
def HasBase (grammar : Grammar) (source base : String) : Prop :=
  ∃ kind ∈ grammar.kinds, kind.name = source ∧ kind.base = some base

/-- Values of the kind are values of the target without further ado: the target is the root, or it
is met on the way from the kind up through its bases. -/
def Derives (grammar : Grammar) (source target : String) : Prop :=
  target = rootName ∨ ReflTransGen grammar.HasBase source target

lemma Derives.refl (grammar : Grammar) (name : String) : grammar.Derives name name :=
  Or.inr .refl

lemma derives_of_isSubkind {source ancestor : String}
    (h : grammar.isSubkind source ancestor = true) : grammar.Derives source ancestor := by
  have hchain : ∀ (bound : Nat) (kind : NodeKind), kind ∈ grammar.kinds →
      ∀ found ∈ grammar.chainWithin bound kind,
        ReflTransGen grammar.HasBase kind.name found.name := by
    intro bound
    induction bound with
    | zero =>
        intro kind _ found hfound
        exact absurd hfound List.not_mem_nil
    | succ bound ih =>
        intro kind hkind found hfound
        rw [Catalog.chainWithin, List.mem_cons] at hfound
        rcases hfound with rfl | hfound
        · exact .refl
        · split at hfound
          · next base hbase =>
              obtain ⟨name, hname, hbase⟩ := Option.bind_eq_some_iff.mp hbase
              obtain ⟨hmem, rfl⟩ := Catalog.mem_and_name_of_kind? hbase
              exact .head ⟨kind, hkind, rfl, hname⟩ (ih base hmem found hfound)
          · exact absurd hfound List.not_mem_nil
  rw [Catalog.isSubkind] at h
  split at h
  · next kind hkind =>
      obtain ⟨hmem, rfl⟩ := Catalog.mem_and_name_of_kind? hkind
      obtain ⟨found, hfound, hname⟩ := List.any_eq_true.mp h
      obtain rfl : found.name = ancestor := by simpa using hname
      exact Or.inr (hchain _ kind hmem found hfound)
  · exact absurd h Bool.false_ne_true

section Derives

variable (h : Accepts declarations grammar)

include h in
/-- The root has no base. -/
lemma eq_of_reflTransGen_hasBase_root {name : String}
    (hderives : ReflTransGen grammar.HasBase rootName name) : name = rootName := by
  rcases hderives.cases_head with heq | ⟨base, ⟨kind, hkind, hname, hbase⟩, -⟩
  · exact heq.symm
  · have hroot := (h.isRoot_iff hkind).mpr hname
    rw [NodeKind.isRoot, hbase] at hroot
    exact absurd hroot Bool.false_ne_true

include h in
lemma Derives.trans {source middle target : String} (hfirst : grammar.Derives source middle)
    (hsecond : grammar.Derives middle target) : grammar.Derives source target := by
  rcases hsecond with hroot | hsecond
  · exact Or.inl hroot
  · rcases hfirst with rfl | hfirst
    · exact Or.inl (eq_of_reflTransGen_hasBase_root h hsecond)
    · exact Or.inr (hfirst.trans hsecond)

include h in
/-- Only bases are derived from. -/
lemma Derives.eq_of_mem_concreteKinds {source : String}
    (hderives : grammar.Derives source target.name) (htarget : target ∈ grammar.concreteKinds) :
    source = target.name := by
  obtain ⟨hmem, hconcrete⟩ := List.mem_filter.mp htarget
  have hnotBase := NodeKind.isBase_eq_false_of_isConcrete hconcrete
  rcases hderives with hroot | hderives
  · obtain ⟨root, hrootMem, hname, -, hisBase⟩ := h.exists_root
    rw [h.distinctNames.eq_of_name_eq hrootMem hmem (hname.trans hroot.symm), hnotBase] at hisBase
    exact absurd hisBase Bool.false_ne_true
  · rcases hderives.cases_tail with heq | ⟨_, -, kind, hkind, -, hbase⟩
    · exact heq.symm
    · obtain ⟨base, hbaseMem, hname, hisBase⟩ := h.exists_base hkind hbase
      rw [h.distinctNames.eq_of_name_eq hbaseMem hmem hname, hnotBase] at hisBase
      exact absurd hisBase Bool.false_ne_true

include h in
/-- Above a kind that derives from the root there is nothing else. -/
lemma Derives.eq_or_of_base_root {name : String} (hderives : grammar.Derives kind.name name)
    (hkind : kind ∈ grammar.kinds) (hbase : kind.base = some rootName) :
    name = kind.name ∨ name = rootName := by
  rcases hderives with hroot | hderives
  · exact Or.inr hroot
  · rcases hderives.cases_head with heq | ⟨base, ⟨found, hfound, hname, hfoundBase⟩, hrest⟩
    · exact Or.inl heq.symm
    · obtain rfl := h.distinctNames.eq_of_name_eq hfound hkind hname
      obtain rfl : base = rootName := by simpa [hbase] using hfoundBase.symm
      exact Or.inr (eq_of_reflTransGen_hasBase_root h hrest)

include h in
/-- What is derived from is conformed to, the root and the base of collections aside. -/
lemma Derives.reflTransGen_conforms
    (hcollection : ∀ kind ∈ grammar.kinds, kind.name = collectionBaseName →
      kind.base = some rootName)
    {source target : String} (hderives : grammar.Derives source target)
    (hroot : target ≠ rootName) (hnotCollection : target ≠ collectionBaseName) :
    ReflTransGen grammar.Conforms source target := by
  have hsteps := hderives.resolve_left hroot
  induction hsteps using ReflTransGen.head_induction_on with
  | refl => exact .refl
  | @head name base hedge hrest ih =>
      obtain ⟨kind, hkind, rfl, hbase⟩ := hedge
      have hbaseRoot : base ≠ rootName := by
        rintro rfl
        exact hroot (eq_of_reflTransGen_hasBase_root h hrest)
      have hkindName : kind.name ≠ collectionBaseName := by
        intro hname
        rw [hcollection kind hkind hname, Option.some.injEq] at hbase
        exact hbaseRoot hbase.symm
      have hbaseCollection : base ≠ collectionBaseName := by
        rintro rfl
        -- nothing but the root is above the base of collections
        obtain ⟨found, hfound, hname, -⟩ := h.exists_base hkind hbase
        rcases Derives.eq_or_of_base_root h (Or.inr (hname ▸ hrest)) hfound
          (hcollection found hfound hname) with heq | heq
        · exact hnotCollection (heq.trans hname)
        · exact hroot heq
      exact .head (h.conforms_base hkind hkindName hbase hbaseRoot hbaseCollection)
        (ih (Or.inr hrest))

end Derives

/-! ## Wraps -/

/-- The kind wraps values of the source: the source conforms to it by a wrap, and a value goes into
the only slot that has to be given, which is for something that the source derives from. -/
structure Wraps (grammar : Grammar) (source : String) (kind : NodeKind) (slot : Slot) : Prop where
  conforms : ∃ via ∈ grammar.conformances source, via.target = kind.name
    ∧ ∃ name, via.conversion = .wrap name
  mem : kind ∈ grammar.concreteKinds
  required : (Builder.ofGrammar grammar).requiredSlots kind = [slot]
  type : ∃ type, slot.type = .node type ∧ grammar.isSubkind source type = true

/-- Kinds that wrap others derive from the root, and are themselves wrapped only by kinds that have
a slot for just them. -/
structure IsLayered (grammar : Grammar) : Prop where
  base : ∀ {source : String} {kind : NodeKind} {slot : Slot}, grammar.Wraps source kind slot →
    kind.base = some rootName
  slot : ∀ {source : String} {kind outer : NodeKind} {slot outerSlot : Slot},
    grammar.Wraps source kind slot → grammar.Wraps kind.name outer outerSlot →
    outerSlot.type = .node kind.name

/-- What a node is made into as a value of a kind, up to how it is built: the node itself if its
kind derives from the target, or a new node of the target with such a value in it. -/
inductive Made (grammar : Grammar) (node : Node) : String → Node → Prop where
  | self {target : String} : grammar.Derives node.typeName target → Made grammar node target node
  | wrap {source : String} {kind : NodeKind} {slot : Slot} {content : Node} :
      grammar.Wraps source kind slot → Made grammar node source content →
      Made grammar node kind.name
        ((Builder.ofGrammar grammar).make kind [(slot.name, .node content)])

lemma Wraps.edge {source : String} {slot : Slot} (hwraps : grammar.Wraps source kind slot) :
    grammar.Conforms source kind.name := by
  obtain ⟨via, hmem, htarget, -⟩ := hwraps.conforms
  exact htarget ▸ conforms_of_mem hmem

section Made

variable (h : Accepts declarations grammar)
  (hslots : ∀ kind ∈ grammar.kinds, (kind.slots.map Slot.name).Nodup)
  (hcollection : ∀ kind ∈ grammar.kinds, kind.name = collectionBaseName →
    kind.base = some rootName)
  (hlayered : grammar.IsLayered) {node : Node}

include h hslots in
/-- A conformance by a wrap has a kind that wraps. -/
lemma exists_wraps (hkind : kind ∈ grammar.kinds) {via : Conformance}
    (hmem : via ∈ grammar.conformances kind.name) {name : String}
    (hwrap : via.conversion = .wrap name) :
    ∃ target slot, target.name = via.target ∧ grammar.Wraps kind.name target slot := by
  obtain ⟨target, hconcrete, hname, slot, -, hrequired, htype⟩ :=
    exists_parameter_of_wrap h hslots hkind hmem hwrap
  exact ⟨target, slot, hname, ⟨via, hmem, hname.symm, name, hwrap⟩, hconcrete, hrequired, htype⟩

include h in
/-- Distinct names give kinds that wrap, and their slots, away. -/
lemma Wraps.eq_of_name_eq {source source' : String} {kind kind' : NodeKind} {slot slot' : Slot}
    (hwraps : grammar.Wraps source kind slot) (hwraps' : grammar.Wraps source' kind' slot')
    (hname : kind.name = kind'.name) : kind = kind' ∧ slot = slot' := by
  obtain rfl := h.distinctNames.eq_of_name_eq (List.mem_of_mem_filter hwraps.mem)
    (List.mem_of_mem_filter hwraps'.mem) hname
  have hslot := hwraps.required.symm.trans hwraps'.required
  exact ⟨rfl, (List.cons.inj hslot).1⟩

include h hcollection in
/-- What a node is made into is reached from its kind. -/
lemma Made.reflTransGen_conforms {target : String} {result : Node}
    (hmade : grammar.Made node target result) (hroot : target ≠ rootName)
    (hnotCollection : target ≠ collectionBaseName) :
    ReflTransGen grammar.Conforms node.typeName target := by
  induction hmade with
  | self hderives => exact hderives.reflTransGen_conforms h hcollection hroot hnotCollection
  | wrap hwraps _ ih =>
      obtain ⟨hsource, hsourceCollection⟩ := h.not_root_of_conforms hwraps.edge
      exact (ih hsource hsourceCollection).tail hwraps.edge

include h hcollection in
/-- A node is not made into a value of its own kind in a roundabout way. -/
lemma Made.typeName_ne_of_wraps {source : String} {content : Node} {slot : Slot}
    (hmade : grammar.Made node source content) (hwraps : grammar.Wraps source kind slot) :
    node.typeName ≠ kind.name := by
  intro hname
  obtain ⟨hroot, hnotCollection⟩ := h.not_root_of_conforms hwraps.edge
  have hreach := hmade.reflTransGen_conforms h hcollection hroot hnotCollection
  exact h.acyclic_conforms _ (.tail' hreach (hname ▸ hwraps.edge))

include h hlayered in
/-- What goes into a slot is what the node is made into as a value of the type of the slot. -/
lemma Made.of_wraps {source type : String} {content : Node} {slot : Slot}
    (hmade : grammar.Made node source content) (hwraps : grammar.Wraps source kind slot)
    (htype : slot.type = .node type) : grammar.Made node type content := by
  obtain ⟨found, hfound, hsubkind⟩ := hwraps.type
  obtain rfl : found = type := by simpa [hfound] using htype
  cases hmade with
  | self hderives => exact .self (hderives.trans h (derives_of_isSubkind hsubkind))
  | wrap hinner hcontent =>
      have hexact := hlayered.slot hinner hwraps
      rw [htype, TypeRef.node.injEq] at hexact
      rw [hexact]
      exact .wrap hinner hcontent

/-- The two ways of making a value. -/
lemma Made.cases {target : String} {result : Node} (hmade : grammar.Made node target result) :
    grammar.Derives node.typeName target ∧ result = node
      ∨ ∃ source kind slot content, kind.name = target ∧ grammar.Wraps source kind slot
        ∧ grammar.Made node source content
        ∧ result = (Builder.ofGrammar grammar).make kind [(slot.name, .node content)] := by
  cases hmade with
  | self hderives => exact Or.inl ⟨hderives, rfl⟩
  | wrap hwraps hcontent => exact Or.inr ⟨_, _, _, _, rfl, hwraps, hcontent, rfl⟩

include h hcollection in
/-- A node is a value of everything that its kind derives from as it is. -/
lemma Made.eq_of_derives {target : String} {result : Node}
    (hmade : grammar.Made node target result) (hderives : grammar.Derives node.typeName target) :
    result = node := by
  rcases hmade.cases with ⟨-, rfl⟩ | ⟨source, kind, slot, content, rfl, hwraps, hcontent, -⟩
  · rfl
  · exact absurd (hderives.eq_of_mem_concreteKinds h hwraps.mem)
      (hcontent.typeName_ne_of_wraps h hcollection hwraps)

include h hcollection hlayered in
/-- **There is one thing that a node is made into.** -/
theorem Made.unique {target : String} {result result' : Node}
    (hmade : grammar.Made node target result) (hmade' : grammar.Made node target result') :
    result = result' := by
  induction hmade generalizing result' with
  | self hderives => exact (hmade'.eq_of_derives h hcollection hderives).symm
  | @wrap source kind slot content hwraps hcontent ih =>
      rcases hmade'.cases with
        ⟨hderives, -⟩ | ⟨source', kind', slot', content', hname, hwraps', hcontent', rfl⟩
      · exact absurd (hderives.eq_of_mem_concreteKinds h hwraps.mem)
          (hcontent.typeName_ne_of_wraps h hcollection hwraps)
      · obtain ⟨rfl, rfl⟩ := hwraps'.eq_of_name_eq h hwraps hname
        obtain ⟨type, htype, hsubkind⟩ := hwraps.type
        have htyped := hcontent'.of_wraps h hlayered hwraps' htype
        suffices hcontents : content = content' by rw [hcontents]
        -- what goes into the slot is the node itself, or the slot is for just its kind
        rcases hcontent.cases with
          ⟨hderives, rfl⟩ | ⟨inner, wrapper, innerSlot, _, hinnerName, hinner, -, -⟩
        · have hslot := hderives.trans h (derives_of_isSubkind hsubkind)
          exact (htyped.eq_of_derives h hcollection hslot).symm
        · have hexact := hlayered.slot hinner (hinnerName ▸ hwraps)
          rw [htype, hinnerName, TypeRef.node.injEq] at hexact
          exact ih (hexact ▸ htyped)

/-! ## One step after another -/

/-- The result is built like what the node is made into. -/
def Makes (grammar : Grammar) (node : Node) (target : String) (result : Node) : Prop :=
  ∃ made, grammar.Made node target made ∧ result.BuildsLike made

include h hcollection hlayered in
/-- All results are built alike. -/
lemma Makes.buildsLike {target : String} {result result' : Node}
    (hmakes : grammar.Makes node target result) (hmakes' : grammar.Makes node target result') :
    result.BuildsLike result' := by
  obtain ⟨made, hmade, halike⟩ := hmakes
  obtain ⟨made', hmade', halike'⟩ := hmakes'
  rw [hmade'.unique h hcollection hlayered hmade] at halike'
  exact halike.trans halike'.symm

include h hcollection hlayered in
/-- A wrapper is made by filling its slot with what there is to be made for the slot. -/
lemma Makes.wrap {source type : String} {slot : Slot} {inner content : Node}
    (hwraps : grammar.Wraps source kind slot) (hinner : grammar.Made node source inner)
    (htype : slot.type = .node type) (hmakes : grammar.Makes node type content) :
    grammar.Makes node kind.name
      ((Builder.ofGrammar grammar).make kind [(slot.name, .node content)]) := by
  have hcontents := hmakes.buildsLike h hcollection hlayered
    ⟨inner, hinner.of_wraps h hlayered hwraps htype, .refl inner⟩
  exact ⟨_, .wrap hwraps hinner, Builder.make_buildsLike _ _ _ hcontents⟩

include h in
/-- What is made of a value of a base is made of the node in it. -/
lemma Makes.of_derives {other : Node} (hderives : grammar.Derives node.typeName other.typeName)
    (halike : other.BuildsLike node) {target : String} {result : Node}
    (hmakes : grammar.Makes other target result) : grammar.Makes node target result := by
  obtain ⟨made, hmade, hresult⟩ := hmakes
  induction hmade generalizing result with
  | self htarget => exact ⟨node, .self (hderives.trans h htarget), hresult.trans halike⟩
  | wrap hwraps _ ih =>
      obtain ⟨content, hcontent, hinner⟩ := ih (.refl _)
      exact ⟨_, .wrap hwraps hcontent, hresult.trans (Builder.make_buildsLike _ _ _ hinner)⟩

include h hlayered in
/-- **What is made of a result is made of the node**, unless it is a value of the root: the root
holds every value as it is. -/
lemma Makes.trans {middle target : String} {other result : Node}
    (hfirst : grammar.Makes node middle other) (htype : other.typeName = middle)
    (hsecond : grammar.Makes other target result) (hroot : target ≠ rootName) :
    grammar.Makes node target result := by
  obtain ⟨first, hmadeFirst, halike⟩ := hfirst
  rcases hmadeFirst.cases with
    ⟨hderives, rfl⟩ | ⟨source, kind, slot, content, rfl, hwraps, hcontent, rfl⟩
  · exact hsecond.of_derives h (htype ▸ hderives) halike
  · obtain ⟨second, hmade, hresult⟩ := hsecond
    induction hmade generalizing result with
    | self htarget =>
        rw [htype] at htarget
        rcases htarget.eq_or_of_base_root h (List.mem_of_mem_filter hwraps.mem)
          (hlayered.base hwraps) with rfl | heq
        · exact ⟨_, hmadeFirst, hresult.trans halike⟩
        · exact absurd heq hroot
    | wrap houter _ ih =>
        obtain ⟨made, hmade, hinner⟩ := ih (h.not_root_of_conforms houter.edge).1 (.refl _)
        exact ⟨_, .wrap houter hmade, hresult.trans (Builder.make_buildsLike _ _ _ hinner)⟩

end Made

end Grammar

/-! ## Conversions -/

lemma TypeRef.node?_eq_some_iff {reference : TypeRef} {name : String} :
    reference.node? = some name ↔ reference = .node name := by
  cases reference <;> simp [node?]

namespace Builder

variable {grammar : Grammar} {node result : Node} {target : String}

lemma mem_of_rule? {source : String} {rule : ConversionRule}
    (hrule : (ofGrammar grammar).rule? source target = some rule) :
    rule ∈ grammar.conversionRules ∧ rule.source = source ∧ rule.target = target := by
  have hfound := List.find?_some hrule
  simp only [decide_eq_true_eq] at hfound
  exact ⟨List.mem_of_find?_eq_some hrule, hfound.1, hfound.2⟩

/-- A new node of the target around the node that a conversion gives for the type of the only slot
that has to be given. -/
def fill? (builder : Builder) (convert : String → Option Node) (target : String) : Option Node := do
  let kind ← builder.grammar.kind? target
  match builder.requiredSlots kind with
  | [slot] =>
    let content ← convert (← slot.type.node?)
    return builder.make kind [(slot.name, .node content)]
  | _ => none

lemma fill?_eq_some_iff {builder : Builder} {convert : String → Option Node} :
    builder.fill? convert target = some result
      ↔ ∃ kind slot type content, builder.grammar.kind? target = some kind
        ∧ builder.requiredSlots kind = [slot] ∧ slot.type = .node type
        ∧ convert type = some content
        ∧ result = builder.make kind [(slot.name, .node content)] := by
  simp only [fill?, Option.bind_eq_bind, Option.bind_eq_some_iff]
  constructor
  · rintro ⟨kind, hkind, hresult⟩
    split at hresult
    · next slot hslots =>
        simp only [Option.bind_eq_some_iff, TypeRef.node?_eq_some_iff] at hresult
        obtain ⟨type, htype, content, hcontent, ⟨⟩⟩ := hresult
        exact ⟨kind, slot, type, content, hkind, hslots, htype, hcontent, rfl⟩
    · exact nomatch hresult
  · rintro ⟨kind, slot, type, content, hkind, hslots, htype, hcontent, rfl⟩
    refine ⟨kind, hkind, ?_⟩
    rw [hslots]
    simp only [Option.bind_eq_some_iff, TypeRef.node?_eq_some_iff]
    exact ⟨type, htype, content, hcontent, rfl⟩

/-- What a conversion does by a rule, with conversions of a smaller bound. -/
inductive Applies (grammar : Grammar) (bound : Nat) (node : Node) (target : String) :
    ConversionBody → Node → Prop where
  | erase : Applies grammar bound node target .erase (.upcast target node)
  | upcast : Applies grammar bound node target .upcast (.upcast target node)
  | through {via : String} {middle result : Node} :
      (ofGrammar grammar).convertWithin bound node via = some middle →
      (ofGrammar grammar).convertWithin bound middle target = some result →
      Applies grammar bound node target (.through via) result
  | wrap {kind : NodeKind} {slot : Slot} {type : String} {content : Node} :
      grammar.kind? target = some kind → (ofGrammar grammar).requiredSlots kind = [slot] →
      slot.type = .node type →
      (ofGrammar grammar).convertWithin bound node type = some content →
      Applies grammar bound node target .wrap
        ((ofGrammar grammar).make kind [(slot.name, .node content)])

/-- A conversion leaves a node of the right type alone, and applies a rule otherwise. -/
lemma convertWithin_succ_iff {bound : Nat} :
    (ofGrammar grammar).convertWithin (bound + 1) node target = some result
      ↔ node.typeName = target ∧ result = node
        ∨ node.typeName ≠ target ∧ ∃ rule,
          (ofGrammar grammar).rule? node.typeName target = some rule
          ∧ Applies grammar bound node target rule.body result := by
  rw [convertWithin]
  by_cases htype : node.typeName = target
  · simp [htype, eq_comm]
  · rw [if_neg htype, Option.bind_eq_bind, Option.bind_eq_some_iff]
    simp only [htype, false_and, false_or, ne_eq, not_false_eq_true, true_and]
    refine exists_congr fun rule => and_congr_right fun _ => ?_
    cases rule.body with
    | erase =>
        constructor
        · rintro ⟨⟩
          exact .erase
        · rintro ⟨⟩
          rfl
    | upcast =>
        constructor
        · rintro ⟨⟩
          exact .upcast
        · rintro ⟨⟩
          rfl
    | through via =>
        simp only [Option.bind_eq_bind, Option.bind_eq_some_iff]
        constructor
        · rintro ⟨middle, hmiddle, hresult⟩
          exact .through hmiddle hresult
        · intro happlies
          cases happlies with
          | through hmiddle hresult => exact ⟨_, hmiddle, hresult⟩
    | wrap =>
        refine fill?_eq_some_iff.trans ?_
        constructor
        · rintro ⟨kind, slot, type, content, hkind, hslots, htype, hcontent, rfl⟩
          exact .wrap hkind hslots htype hcontent
        · intro happlies
          cases happlies with
          | wrap hkind hslots htype hcontent =>
              exact ⟨_, _, _, _, hkind, hslots, htype, hcontent, rfl⟩

/-- A conversion gives a value of the right type. -/
lemma typeName_of_convertWithin : ∀ {bound : Nat} {node : Node},
    (ofGrammar grammar).convertWithin bound node target = some result → result.typeName = target
  | 0, _, hresult => nomatch hresult
  | bound + 1, node, hresult => by
      rcases convertWithin_succ_iff.mp hresult with ⟨htype, rfl⟩ | ⟨-, rule, -, happlies⟩
      · exact htype
      · generalize rule.body = body at happlies
        cases happlies with
        | erase => rfl
        | upcast => rfl
        | through _ hlast => exact typeName_of_convertWithin hlast
        | wrap hkind => exact (Catalog.mem_and_name_of_kind? hkind).2

end Builder

namespace Grammar

variable {declarations : Declarations} {grammar : Grammar}

section Conversions

variable (h : Accepts declarations grammar)
  (hslots : ∀ kind ∈ grammar.kinds, (kind.slots.map Slot.name).Nodup)
  (hcollection : ∀ kind ∈ grammar.kinds, kind.name = collectionBaseName →
    kind.base = some rootName)
  (hlayered : grammar.IsLayered)

include h hslots hcollection hlayered in
/-- **A conversion makes of a node what there is to be made of it.** -/
theorem makes_of_convertWithin : ∀ {bound : Nat} {node : Node} {target : String} {result : Node},
    (Builder.ofGrammar grammar).convertWithin bound node target = some result →
      grammar.Makes node target result
  | 0, _, _, _, hresult => nomatch hresult
  | bound + 1, node, target, result, hresult => by
      rcases Builder.convertWithin_succ_iff.mp hresult with
        ⟨rfl, rfl⟩ | ⟨-, ⟨source, goal, body⟩, hrule, happlies⟩
      · exact ⟨result, .self (.refl grammar _), .refl result⟩
      · obtain ⟨hmem, hsource, rfl⟩ := Builder.mem_of_rule? hrule
        obtain ⟨kind, hkind, hruleOf⟩ := exists_ruleOf hmem
        have hthrough {via : String} {middle : Node} (hroot : goal ≠ rootName)
            (hmiddle : (Builder.ofGrammar grammar).convertWithin bound node via = some middle)
            (hlast : (Builder.ofGrammar grammar).convertWithin bound middle goal = some result) :
            grammar.Makes node goal result :=
          (makes_of_convertWithin hmiddle).trans h hlayered
            (Builder.typeName_of_convertWithin hmiddle) (makes_of_convertWithin hlast) hroot
        cases hruleOf with
        | upcast hbase =>
            cases happlies with
            | upcast =>
                refine ⟨node, .self (Or.inr (.single ⟨kind, hkind, hsource, hbase⟩)), ?_⟩
                exact .upcast _ node
        | erase =>
            cases happlies with
            | erase => exact ⟨node, .self (Or.inl rfl), .upcast _ node⟩
        | along _ _ _ _ hroot =>
            cases happlies with
            | through hmiddle hlast => exact hthrough hroot hmiddle hlast
        | ancestor _ _ _ _ hroot =>
            cases happlies with
            | through hmiddle hlast => exact hthrough hroot hmiddle hlast
        | wrap hvia hwrap =>
            cases happlies with
            | @wrap found foundSlot type content hfound hrequired htype hcontent =>
                obtain ⟨target, slot, hname, hwraps⟩ := exists_wraps h hslots hkind hvia hwrap
                obtain ⟨hmemFound, hfoundName⟩ := Catalog.mem_and_name_of_kind? hfound
                obtain rfl := h.distinctNames.eq_of_name_eq hmemFound
                  (List.mem_of_mem_filter hwraps.mem) (hfoundName.trans hname.symm)
                obtain rfl : foundSlot = slot :=
                  (List.cons.inj (hrequired.symm.trans hwraps.required)).1
                have hself : grammar.Made node kind.name node :=
                  .self (hsource ▸ .refl grammar kind.name)
                rw [← hname]
                exact .wrap h hcollection hlayered hwraps hself htype
                  (makes_of_convertWithin hcontent)

end Conversions

end Grammar

end SyntaxForge
