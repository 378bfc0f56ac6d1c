import SyntaxForge.Grammar.Builtin
import SyntaxForge.Proofs.ConformanceVerdict
import SyntaxForge.Proofs.ConversionResults

/-!
# Ways from one kind to another

A value of a target is made of a node by its conversion, by the constructor of the target, or by one
conversion after another.

* `Grammar.exists_convert?`: **every rule is carried out**.  Conversions are cut off at a nesting
  that depends on the number of kinds; a call is nested less deep than the rule that makes it, by
  the order in which calls come to an end.
* `Grammar.Route.buildsLike`: **whichever way a value is made, it is built the same**.
* `Builtin.routes_build_alike`: both hold of the Swift grammar.
-/

namespace SyntaxForge

open Relation

namespace Grammar

variable {declarations : Declarations} {grammar : Grammar} {rule callee : ConversionRule}
  {node result : Node} {target : String}

/-! ## Orderly grammars -/

/-- The kinds that wrap the values of a kind. -/
def wrappers (grammar : Grammar) (source : String) : List String :=
  ((grammar.conformances source).filter fun via => via.conversion ≠ .upcast).map Conformance.target

/-- What conversions rely on beside the checks of the grammar. -/
structure IsOrderly (grammar : Grammar) : Prop where
  /-- The slots of a kind have different names. -/
  slots : ∀ kind ∈ grammar.kinds, (kind.slots.map Slot.name).Nodup
  /-- The base of collections derives from the root. -/
  collection : ∀ kind ∈ grammar.kinds, kind.name = collectionBaseName → kind.base = some rootName
  /-- The base of collections is the type of no slot and no element. -/
  references : ∀ kind ∈ grammar.kinds, TypeRef.node collectionBaseName ∉ kind.references
  /-- A wrapper derives from the root. -/
  wrapperBase : ∀ kind ∈ grammar.kinds, ∀ name ∈ grammar.wrappers kind.name,
    ∀ wrapper ∈ grammar.kind? name, wrapper.base = some rootName
  /-- A wrapper is wrapped in turn by what has a slot for just it. -/
  wrapperSlot : ∀ kind ∈ grammar.kinds, ∀ name ∈ grammar.wrappers kind.name,
    ∀ outer ∈ grammar.wrappers name, ∀ wrapper ∈ grammar.kind? outer,
    ∀ slot ∈ (Builder.ofGrammar grammar).requiredSlots wrapper, slot.type = .node name
  /-- A kind reaches less than half of all kinds. -/
  few : ∀ kind ∈ grammar.kinds, 2 * (grammar.below kind.name).length < grammar.kinds.length

instance (grammar : Grammar) : Decidable grammar.IsOrderly :=
  decidable_of_iff
    ((∀ kind ∈ grammar.kinds, (kind.slots.map Slot.name).Nodup)
      ∧ (∀ kind ∈ grammar.kinds, kind.name = collectionBaseName → kind.base = some rootName)
      ∧ (∀ kind ∈ grammar.kinds, TypeRef.node collectionBaseName ∉ kind.references)
      ∧ (∀ kind ∈ grammar.kinds, ∀ name ∈ grammar.wrappers kind.name,
        ∀ wrapper ∈ grammar.kind? name, wrapper.base = some rootName)
      ∧ (∀ kind ∈ grammar.kinds, ∀ name ∈ grammar.wrappers kind.name,
        ∀ outer ∈ grammar.wrappers name, ∀ wrapper ∈ grammar.kind? outer,
        ∀ slot ∈ (Builder.ofGrammar grammar).requiredSlots wrapper, slot.type = .node name)
      ∧ ∀ kind ∈ grammar.kinds, 2 * (grammar.below kind.name).length < grammar.kinds.length)
    ⟨fun ⟨slots, collection, references, wrapperBase, wrapperSlot, few⟩ =>
      ⟨slots, collection, references, wrapperBase, wrapperSlot, few⟩,
    fun ⟨slots, collection, references, wrapperBase, wrapperSlot, few⟩ =>
      ⟨slots, collection, references, wrapperBase, wrapperSlot, few⟩⟩

lemma Wraps.mem_wrappers {source : String} {kind : NodeKind} {slot : Slot}
    (hwraps : grammar.Wraps source kind slot) : kind.name ∈ grammar.wrappers source := by
  obtain ⟨via, hmem, htarget, name, hwrap⟩ := hwraps.conforms
  exact htarget ▸ List.mem_map_of_mem (List.mem_filter.mpr ⟨hmem, by simp [hwrap]⟩)

/-- Wrappers in an orderly grammar are layered. -/
lemma IsOrderly.isLayered (horderly : grammar.IsOrderly) (h : Accepts declarations grammar) :
    grammar.IsLayered where
  base hwraps := by
    obtain ⟨source, hsource, rfl⟩ := h.exists_kind_of_conforms hwraps.edge
    exact horderly.wrapperBase source hsource _ hwraps.mem_wrappers _
      (h.distinctNames.kind?_eq_some (List.mem_of_mem_filter hwraps.mem))
  slot hwraps houter := by
    obtain ⟨source, hsource, rfl⟩ := h.exists_kind_of_conforms hwraps.edge
    refine horderly.wrapperSlot source hsource _ hwraps.mem_wrappers _ houter.mem_wrappers _
      (h.distinctNames.kind?_eq_some (List.mem_of_mem_filter houter.mem)) _ ?_
    exact houter.required ▸ List.mem_singleton_self _

/-! ## Every rule is carried out -/

/-- How deep conversions are nested when a rule is carried out, at most.  Along a conformance fewer
kinds are left to reach, and there are four ranks of rules from one source. -/
def depth (grammar : Grammar) (rule : ConversionRule) : Nat :=
  4 * (grammar.below rule.source).toFinset.card + grammar.rank rule + 1

lemma rank_le_three (grammar : Grammar) (rule : ConversionRule) : grammar.rank rule ≤ 3 := by
  cases hbody : rule.body with
  | erase => simp [rank, hbody]
  | upcast => simp [rank, hbody]
  | wrap => simp [rank, hbody]
  | through via =>
      simp only [rank, hbody]
      split <;> omega

/-- A rule that calls others is not of the least rank. -/
lemma rank_pos_of_mem_calls {call : String × String} (hcall : call ∈ grammar.calls rule) :
    0 < grammar.rank rule := by
  cases hbody : rule.body with
  | erase => simp [calls, hbody] at hcall
  | upcast => simp [calls, hbody] at hcall
  | wrap => simp [rank, hbody]
  | through via =>
      simp only [rank, hbody]
      split <;> omega

section Conversions

variable (h : Accepts declarations grammar) (horderly : grammar.IsOrderly)
  (hlisted : ∀ entry ∈ declarations.expressibleAs, collectionBaseName ∉ entry.2)

include h horderly in
/-- What is called is nested less deep. -/
lemma depth_lt_of_calls (hcalls : grammar.Calls rule callee) :
    grammar.depth callee < grammar.depth rule := by
  have hcases := calls_decrease h horderly.slots horderly.collection horderly.references hcalls
  rcases hcases with hedge | ⟨hsource, hrank⟩
  · have hcard := h.card_below_lt hedge
    have hle := grammar.rank_le_three callee
    simp only [depth]
    omega
  · simp only [depth, hsource]
    omega

include h in
/-- The rule that a conversion goes by is found. -/
lemma rule?_eq_some (hrule : rule ∈ grammar.conversionRules) :
    (Builder.ofGrammar grammar).rule? rule.source rule.target = some rule := by
  cases hfound : (Builder.ofGrammar grammar).rule? rule.source rule.target with
  | none =>
      have hnone := List.find?_eq_none.mp hfound rule hrule
      simp at hnone
  | some found =>
      obtain ⟨hmem, hsource, htarget⟩ := Builder.mem_of_rule? hfound
      rw [List.inj_on_of_nodup_map (nodup_conversionRules h) hmem hrule
        (Prod.ext hsource htarget)]

include h horderly hlisted in
/-- **A conversion that a rule allows is carried out**, if it may be nested deep enough. -/
theorem exists_convertWithin : ∀ {bound : Nat} {rule : ConversionRule} {node : Node},
    rule ∈ grammar.conversionRules → grammar.depth rule ≤ bound → node.typeName = rule.source →
      ∃ result, (Builder.ofGrammar grammar).convertWithin bound node rule.target = some result
  | 0, rule, _, _, hdepth, _ => absurd hdepth (by simp [depth])
  | bound + 1, rule, node, hrule, hdepth, htype => by
      have hcalled {source target : String} (hcall : (source, target) ∈ grammar.calls rule)
          {given : Node} (hgiven : given.typeName = source) :
          ∃ result, (Builder.ofGrammar grammar).convertWithin bound given target
            = some result := by
        have hconverts := converts_of_mem_calls h horderly.slots horderly.collection
          horderly.references hlisted hrule hcall
        rcases hconverts with heq | ⟨callee, hcallee, rfl, rfl⟩
        · -- nothing has to be done, but the bound has to allow for that
          have hrank := rank_pos_of_mem_calls hcall
          obtain ⟨bound, rfl⟩ : ∃ smaller, bound = smaller + 1 :=
            Nat.exists_eq_add_one.mpr (by rw [depth] at hdepth; omega)
          exact ⟨given, Builder.convertWithin_succ_iff.mpr (Or.inl ⟨hgiven.trans heq, rfl⟩)⟩
        · have hlt := depth_lt_of_calls h horderly ⟨hrule, hcallee, hcall⟩
          exact exists_convertWithin hcallee (by omega) hgiven
      suffices happlies :
          ∃ result, Builder.Applies grammar bound node rule.target rule.body result by
        obtain ⟨result, happlies⟩ := happlies
        refine ⟨result, Builder.convertWithin_succ_iff.mpr (Or.inr ⟨?_, rule, ?_, happlies⟩)⟩
        · exact htype ▸ source_ne_target h hrule
        · exact htype ▸ rule?_eq_some h hrule
      cases hbody : rule.body with
      | erase => exact ⟨_, .erase⟩
      | upcast => exact ⟨_, .upcast⟩
      | through via =>
          have hcalls : grammar.calls rule = [(rule.source, via), (via, rule.target)] := by
            rw [calls, hbody]
          have hfirst : (rule.source, via) ∈ grammar.calls rule := by simp [hcalls]
          have hlast : (via, rule.target) ∈ grammar.calls rule := by simp [hcalls]
          obtain ⟨middle, hmiddle⟩ := hcalled hfirst htype
          obtain ⟨result, hresult⟩ := hcalled hlast (Builder.typeName_of_convertWithin hmiddle)
          exact ⟨result, .through hmiddle hresult⟩
      | wrap =>
          obtain ⟨kind, hconcrete, hname, slot, -, hrequired, type, hslot, hcalls⟩ :=
            exists_parameter_of_mem_conversionRules h horderly.slots hrule hbody
          obtain ⟨content, hcontent⟩ := hcalled (hcalls ▸ List.mem_singleton_self _) htype
          have hkind := h.distinctNames.kind?_eq_some (List.mem_of_mem_filter hconcrete)
          exact ⟨_, .wrap (hname ▸ hkind) hrequired hslot hcontent⟩

include h horderly hlisted in
/-- **Every rule is carried out.** -/
theorem exists_convert? (hrule : rule ∈ grammar.conversionRules)
    (htype : node.typeName = rule.source) :
    ∃ result, (Builder.ofGrammar grammar).convert? node rule.target = some result := by
  refine exists_convertWithin h horderly hlisted hrule ?_ htype
  obtain ⟨kind, hkind, hruleOf⟩ := exists_ruleOf hrule
  have hbound := horderly.few kind hkind
  rw [← hruleOf.source_eq] at hbound
  have hcard := List.toFinset_card_le (grammar.below rule.source)
  have hrank := grammar.rank_le_three rule
  simp only [depth, Builder.ofGrammar]
  omega

include h horderly hlisted in
/-- A node is converted exactly to what its kind converts to. -/
lemma exists_convert?_iff :
    (∃ result, (Builder.ofGrammar grammar).convert? node target = some result)
      ↔ grammar.Converts node.typeName target := by
  constructor
  · rintro ⟨result, hresult⟩
    rcases Builder.convertWithin_succ_iff.mp hresult with ⟨htype, -⟩ | ⟨-, rule, hrule, -⟩
    · exact Or.inl htype
    · exact Or.inr ⟨rule, Builder.mem_of_rule? hrule⟩
  · rintro (htype | ⟨rule, hrule, hsource, rfl⟩)
    · exact ⟨node, Builder.convertWithin_succ_iff.mpr (Or.inl ⟨htype, rfl⟩)⟩
    · exact exists_convert? h horderly hlisted hrule hsource.symm

end Conversions

end Grammar

/-! ## Constructors -/

/-- What the constructor of a kind makes of a node, if that is all that has to be given: a new node
with it, converted to the type of the slot. -/
def Builder.construct? (builder : Builder) (node : Node) (target : String) : Option Node :=
  builder.fill? (builder.convert? node) target

namespace Grammar

variable {declarations : Declarations} {grammar : Grammar} {node result : Node} {target : String}

/-- The constructor of the target takes the source: all that has to be given is a node of a type
that the source converts to. -/
def Constructs (grammar : Grammar) (source target : String) : Prop :=
  ∃ kind slot type, grammar.kind? target = some kind
    ∧ (Builder.ofGrammar grammar).requiredSlots kind = [slot] ∧ slot.type = .node type
    ∧ grammar.Converts source type

/-- The ways of making a value of the target of a node: by the conversion, by the constructor of the
target, or by way of another kind.  The constructor makes what the kind converts to, and is given
the node as a value of anything that its kind derives from: of the kind itself, a base or the root.
The root takes every value as it is, a wrapper around the node included, so that a node goes through
nothing but its bases on the way there. -/
inductive Route (grammar : Grammar) : Node → String → Node → Prop where
  | convert {node result : Node} {target : String} :
      (Builder.ofGrammar grammar).convert? node target = some result →
      Route grammar node target result
  | construct {node given result : Node} {base target : String} :
      grammar.Derives node.typeName base → Route grammar node base given →
      (∃ rule ∈ grammar.conversionRules, rule.source = node.typeName ∧ rule.target = target) →
      (Builder.ofGrammar grammar).construct? given target = some result →
      Route grammar node target result
  | through {node middle result : Node} {via target : String} :
      (target = rootName → grammar.Derives node.typeName via) →
      Route grammar node via middle → Route grammar middle target result →
      Route grammar node target result

namespace Route

/-- A node is a value of its own kind already. -/
lemma self (grammar : Grammar) (node : Node) : grammar.Route node node.typeName node :=
  .convert (Builder.convertWithin_succ_iff.mpr (Or.inl ⟨rfl, rfl⟩))

lemma typeName_eq (hroute : grammar.Route node target result) : result.typeName = target := by
  induction hroute with
  | convert hresult => exact Builder.typeName_of_convertWithin hresult
  | construct _ _ _ hresult =>
      obtain ⟨kind, _, _, _, hkind, _, _, _, rfl⟩ := Builder.fill?_eq_some_iff.mp hresult
      exact (Catalog.mem_and_name_of_kind? hkind).2
  | through _ _ _ _ hlast => exact hlast

end Route

section Routes

variable (h : Accepts declarations grammar) (horderly : grammar.IsOrderly)
  (hlisted : ∀ entry ∈ declarations.expressibleAs, collectionBaseName ∉ entry.2)

include h horderly hlisted in
/-- **A constructor makes something of exactly the nodes that it takes.** -/
theorem exists_construct?_iff :
    (∃ result, (Builder.ofGrammar grammar).construct? node target = some result)
      ↔ grammar.Constructs node.typeName target := by
  constructor
  · rintro ⟨result, hresult⟩
    obtain ⟨kind, slot, type, content, hkind, hrequired, htype, hcontent, -⟩ :=
      Builder.fill?_eq_some_iff.mp hresult
    have hconverts := (exists_convert?_iff h horderly hlisted).mp ⟨content, hcontent⟩
    exact ⟨kind, slot, type, hkind, hrequired, htype, hconverts⟩
  · rintro ⟨kind, slot, type, hkind, hrequired, htype, hconverts⟩
    obtain ⟨content, hcontent⟩ := (exists_convert?_iff h horderly hlisted).mpr hconverts
    exact ⟨_, Builder.fill?_eq_some_iff.mpr
      ⟨kind, slot, type, content, hkind, hrequired, htype, hcontent, rfl⟩⟩

include h horderly in
/-- A node as a value of what its kind derives from is built like the node. -/
lemma Makes.buildsLike_of_derives (hmakes : grammar.Makes node target result)
    (hderives : grammar.Derives node.typeName target) : result.BuildsLike node := by
  obtain ⟨made, hmade, hresult⟩ := hmakes
  rwa [hmade.eq_of_derives h horderly.collection hderives] at hresult

include h horderly in
/-- A constructor makes what a kind is made into, given the node as a value of what its kind derives
from. -/
lemma Makes.construct {given made : Node}
    (hderives : grammar.Derives node.typeName given.typeName) (halike : given.BuildsLike node)
    (hne : node.typeName ≠ target) (hmade : grammar.Made node target made)
    (hresult : (Builder.ofGrammar grammar).construct? given target = some result) :
    grammar.Makes node target result := by
  have hlayered := horderly.isLayered h
  obtain ⟨kind, slot, type, content, hkind, hrequired, htype, hcontent, rfl⟩ :=
    Builder.fill?_eq_some_iff.mp hresult
  obtain ⟨hmem, rfl⟩ := Catalog.mem_and_name_of_kind? hkind
  have hslot : slot ∈ kind.slots :=
    List.mem_of_mem_filter (hrequired ▸ List.mem_singleton_self slot)
  have hconcrete : kind ∈ grammar.concreteKinds :=
    List.mem_filter.mpr ⟨hmem, NodeKind.isConcrete_of_mem_slots hslot⟩
  rcases hmade.cases with
    ⟨htarget, -⟩ | ⟨source, wrapper, wrapperSlot, inner, hname, hwraps, hinner, rfl⟩
  · exact absurd (htarget.eq_of_mem_concreteKinds h hconcrete) hne
  · obtain rfl := h.distinctNames.eq_of_name_eq (List.mem_of_mem_filter hwraps.mem) hmem hname
    obtain rfl : wrapperSlot = slot := (List.cons.inj (hwraps.required.symm.trans hrequired)).1
    have hgiven := makes_of_convertWithin h horderly.slots horderly.collection hlayered hcontent
    exact .wrap h horderly.collection hlayered hwraps hinner htype
      (hgiven.of_derives h hderives halike)

include h horderly hlisted in
/-- **Every way makes of a node what there is to be made of it.** -/
theorem Route.makes (hroute : grammar.Route node target result) :
    grammar.Makes node target result := by
  have hlayered := horderly.isLayered h
  induction hroute with
  | convert hresult =>
      exact makes_of_convertWithin h horderly.slots horderly.collection hlayered hresult
  | construct hderives hgiven hrule hresult ih =>
      obtain ⟨rule, hrule, hsource, rfl⟩ := hrule
      obtain ⟨converted, hconverted⟩ := exists_convert? h horderly hlisted hrule hsource.symm
      obtain ⟨made, hmade, -⟩ :=
        makes_of_convertWithin h horderly.slots horderly.collection hlayered hconverted
      have hne := hsource ▸ source_ne_target h hrule
      have halike := ih.buildsLike_of_derives h horderly hderives
      exact .construct h horderly (hgiven.typeName_eq ▸ hderives) halike hne hmade hresult
  | @through node middle result via target hroot hfirst hlast ihFirst ihLast =>
      by_cases htarget : target = rootName
      · have hderives := hroot htarget
        exact ihLast.of_derives h (hfirst.typeName_eq ▸ hderives)
          (ihFirst.buildsLike_of_derives h horderly hderives)
      · exact ihFirst.trans h hlayered hfirst.typeName_eq ihLast htarget

include h horderly hlisted in
/-- Whichever way a value is made, it is built the same. -/
theorem Route.buildsLike {other : Node} (hroute : grammar.Route node target result)
    (hother : grammar.Route node target other) : result.BuildsLike other :=
  (hroute.makes h horderly hlisted).buildsLike h horderly.collection (horderly.isLayered h)
    (hother.makes h horderly hlisted)

end Routes

end Grammar

/-! ## The Swift grammar -/

namespace Builtin

variable {grammar : Grammar} {rule : ConversionRule} {node : Node}

/-- The grammar is accepted and orderly. -/
lemma exists_isOrderly : ∃ grammar, grammar? = .ok grammar ∧ grammar.IsOrderly := by
  have hcheck : (match grammar? with
      | .ok grammar => decide grammar.IsOrderly
      | .error _ => false) = true := by
    decide +kernel
  split at hcheck
  · next grammar hgrammar => exact ⟨grammar, hgrammar, of_decide_eq_true hcheck⟩
  · exact absurd hcheck Bool.false_ne_true

lemma isOrderly (h : grammar? = .ok grammar) : grammar.IsOrderly := by
  obtain ⟨found, hfound, horderly⟩ := exists_isOrderly
  rw [h, Except.ok.injEq] at hfound
  exact hfound ▸ horderly

lemma collectionBaseName_not_listed :
    ∀ entry ∈ declarations.expressibleAs, collectionBaseName ∉ entry.2 := by
  decide

/-- **However a node is converted, it is built the same.**  A rule is carried out, and so is the
constructor of its target for every node that it takes; and all ways of making a value of the
target build alike, under every format and with any trivia supplied. -/
theorem routes_build_alike (h : grammar? = .ok grammar) (hrule : rule ∈ grammar.conversionRules)
    (htype : node.typeName = rule.source) :
    (∃ result, (Builder.ofGrammar grammar).convert? node rule.target = some result)
      ∧ (∀ given : Node, grammar.Constructs given.typeName rule.target →
        ∃ result, (Builder.ofGrammar grammar).construct? given rule.target = some result)
      ∧ ∀ first second : Node, grammar.Route node rule.target first →
        grammar.Route node rule.target second → first.BuildsLike second := by
  have haccepts := Grammar.accepts_of_ofDeclarations h
  have horderly := isOrderly h
  have hlisted := collectionBaseName_not_listed
  refine ⟨Grammar.exists_convert? haccepts horderly hlisted hrule htype, ?_, ?_⟩
  · intro given
    exact (Grammar.exists_construct?_iff haccepts horderly hlisted).mpr
  · intro first second hfirst hsecond
    exact hfirst.buildsLike haccepts horderly hlisted hsecond

/-- A name that is an expression. -/
def nameX : Node := Node.make identifierExpr [.token (.name "x")]

/-- As an item of a block, a name is converted right away, put into the constructor as it is, or
made an expression before either. -/
theorem routes_build_alike_nameX :
    ∃ grammar direct expr upcast constructed wrapped, grammar? = .ok grammar
      ∧ (Builder.ofGrammar grammar).convert? nameX "CodeBlockItem" = some direct
      ∧ (Builder.ofGrammar grammar).convert? nameX "Expr" = some expr
      ∧ (Builder.ofGrammar grammar).convert? expr "CodeBlockItem" = some upcast
      ∧ (Builder.ofGrammar grammar).construct? nameX "CodeBlockItem" = some constructed
      ∧ (Builder.ofGrammar grammar).construct? expr "CodeBlockItem" = some wrapped
      ∧ upcast.BuildsLike direct ∧ constructed.BuildsLike direct ∧ wrapped.BuildsLike direct := by
  obtain ⟨grammar, hgrammar, horderly⟩ := exists_isOrderly
  have h := Grammar.accepts_of_ofDeclarations hgrammar
  have hlisted := collectionBaseName_not_listed
  have hname : identifierExpr ∈ grammar.kinds := by
    rw [h.kinds_eq]
    decide
  have hexprBase : exprBase ∈ grammar.kinds := by
    rw [h.kinds_eq]
    decide
  have hitem : codeBlockItem ∈ grammar.kinds := by
    rw [h.kinds_eq]
    decide
  have hbaseEdge : grammar.Conforms "IdentifierExpr" "Expr" :=
    h.conforms_base hname (by decide) rfl (by decide) (by decide)
  have hitemEdge : grammar.Conforms "Expr" "CodeBlockItem" := by
    rw [h.conforms_eq]
    exact ⟨exprBase, h.kinds_eq ▸ hexprBase, rfl, _, rfl, by decide⟩
  have hrequired : (Builder.ofGrammar grammar).requiredSlots codeBlockItem
      = [child "Item" "Syntax"] := by
    rw [Builder.requiredSlots, Builder.ofGrammar, h.catalog_eq]
    decide
  -- the constructor takes everything that becomes a value of the root
  have hconstructs {kind : NodeKind} (hkind : kind ∈ grammar.kinds)
      (hne : kind.name ≠ collectionBaseName) : grammar.Constructs kind.name "CodeBlockItem" :=
    ⟨codeBlockItem, _, rootName, h.distinctNames.kind?_eq_some hitem, hrequired, rfl,
      Grammar.converts_root h hkind hne⟩
  obtain ⟨expr, hexpr⟩ := (Grammar.exists_convert?_iff h horderly hlisted).mpr
    (Grammar.converts_of_transGen h hlisted (.single hbaseEdge) :
      grammar.Converts nameX.typeName "Expr")
  have hexprType : expr.typeName = "Expr" := (Grammar.Route.convert hexpr).typeName_eq
  obtain ⟨upcast, hupcast⟩ := (Grammar.exists_convert?_iff h horderly hlisted).mpr
    (hexprType ▸ Grammar.converts_of_transGen h hlisted (.single hitemEdge) :
      grammar.Converts expr.typeName "CodeBlockItem")
  obtain ⟨rule, hmem, hsource, htarget⟩ := (Grammar.converts_of_transGen h hlisted
    (.tail (.single hbaseEdge) hitemEdge)).resolve_left (by decide)
  have htype : nameX.typeName = rule.source := hsource.symm
  obtain ⟨⟨direct, hdirect⟩, hconstruct, halike⟩ := routes_build_alike hgrammar hmem htype
  rw [htarget] at hdirect hconstruct halike
  obtain ⟨constructed, hconstructed⟩ := hconstruct nameX (hconstructs hname (by decide))
  obtain ⟨wrapped, hwrapped⟩ := hconstruct expr (hexprType ▸ hconstructs hexprBase (by decide))
  have hderives : grammar.Derives nameX.typeName "Expr" :=
    Or.inr (.single ⟨identifierExpr, hname, rfl, rfl⟩)
  refine ⟨grammar, direct, expr, upcast, constructed, wrapped, hgrammar, hdirect, hexpr, hupcast,
    hconstructed, hwrapped, ?_, ?_, ?_⟩
  · refine halike _ _ (.through ?_ (.convert hexpr) (.convert hupcast)) (.convert hdirect)
    exact fun hroot => absurd hroot (by decide)
  · refine halike _ _ (.construct (.refl grammar _) (.self grammar nameX) ?_ hconstructed)
      (.convert hdirect)
    exact ⟨rule, hmem, hsource, htarget⟩
  · refine halike _ _ (.construct hderives (.convert hexpr) ?_ hwrapped) (.convert hdirect)
    exact ⟨rule, hmem, hsource, htarget⟩

end Builtin

end SyntaxForge
