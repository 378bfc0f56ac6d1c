import SyntaxForge.Api.Doc
import SyntaxForge.Builder.Conversion

/-!
# The builder of a grammar

The other generated file declares a struct for every concrete kind and every collection, an
enumeration for every base, and one conversion for every conversion rule of the grammar.
-/

namespace SyntaxForge.Api

/-- Words that a field cannot be called by; such a field has an underscore behind its name. -/
def fieldKeywords : List String :=
  ["as", "break", "const", "continue", "crate", "else", "enum", "extern", "false", "fn", "for",
   "if", "impl", "in", "let", "loop", "match", "mod", "move", "mut", "pub", "ref", "return", "self",
   "static", "struct", "super", "trait", "true", "type", "unsafe", "use", "where", "while", "async",
   "await", "dyn"]

/-- The name of the field for a slot. -/
def fieldName (slot : Slot) : String :=
  let name := Text.lowerSnake slot.name
  if name ∈ fieldKeywords then name ++ "_" else name

/-- The type of a field or element. -/
def fieldType : TypeRef → Part
  | .node name => .name name
  | .token _ | .anyToken => .text "Token"

/-- The documentation of a kind. -/
def kindDoc (kind : NodeKind) : Phrase :=
  if kind.doc.isEmpty then [] else docAttribute kind.doc

/-- The start of the function that builds a tree. -/
def buildHead : String :=
  "\x7bfn build(&self,format:&Format,leading_trivia:Option<&Trivia>)->GreenNode\x7b"

/-! ## Concrete kinds -/

/-- The declaration of the field for a slot. -/
def fieldDecl (slot : Slot) : Phrase :=
  if slot.isOptional then
    [.text "pub", .name (fieldName slot), .text ":Option<", fieldType slot.type, .text ">"]
  else [.text "pub", .name (fieldName slot), .text ":", fieldType slot.type]

/-- The struct of a concrete kind. -/
def nodeStruct (kind : NodeKind) : Item where
  name := kind.name
  phrase := kindDoc kind
    ++ [.text "#[derive(Debug,Clone)]pub struct", .name kind.name, .text "\x7b"]
    ++ Phrase.separated "," ([.text "pub leading_trivia:Trivia"] :: kind.slots.map fieldDecl)
    ++ [.text "\x7d"]

/-- The parameter for a slot that has to be given. -/
def slotParameter (slot : Slot) : Phrase :=
  [.name (fieldName slot), .text ":impl Into<", fieldType slot.type, .text ">"]

/-- The initial value of a field. -/
def fieldInit (catalog : Catalog) (slot : Slot) : Phrase :=
  let field := fieldName slot
  match catalog.filling slot with
  | .optional => [.name field, .text ":None"]
  | .fixed token =>
    [.name field, .text ":Token::new(SyntaxKind::", .name token.kindName, .text ")"]
  | .required => [.name field, .text ":", .name field, .text ".into()"]

/-- The function that fills a slot that need not be given. -/
def setter (catalog : Catalog) (slot : Slot) : Phrase :=
  let field := fieldName slot
  match catalog.filling slot with
  | .optional =>
    [.text "pub fn", .name field, .text "(mut self,", .name field, .text ":impl Into<",
     fieldType slot.type, .text ">)->Self\x7bself.", .name field, .text "=Some(", .name field,
     .text ".into());self\x7d"]
  | .fixed _ =>
    [.text "pub fn", .name field, .text "(mut self,", .name field, .text ":Token)->Self\x7bself.",
     .name field, .text "=", .name field, .text ";self\x7d"]
  | .required => []

/-- The slots that have to be given, in order. -/
def parameterSlots (catalog : Catalog) (kind : NodeKind) : List Slot :=
  kind.slots.filter fun slot => catalog.filling slot = .required

/-- The constructor and the setters of a concrete kind. -/
def nodeFunctions (catalog : Catalog) (kind : NodeKind) : Item where
  name := kind.name
  phrase :=
    [.text "impl", .name kind.name, .text "\x7bpub fn new("]
      ++ Phrase.separated "," ((parameterSlots catalog kind).map slotParameter)
      ++ [.text ")->Self\x7b", .name kind.name, .text "\x7b"]
      ++ Phrase.separated ","
        ([.text "leading_trivia:Trivia::default()"] :: kind.slots.map (fieldInit catalog))
      ++ [.text "\x7d\x7d"]
      ++ docAttribute "Trivia placed in front of the node, after any trivia the parent adds."
      ++ [.text "pub fn leading_trivia(mut self,leading_trivia:Trivia)->Self",
          .text "\x7bself.leading_trivia=leading_trivia;self\x7d"]
      ++ kind.slots.flatMap (setter catalog) ++ [.text "\x7d"]

/-- The trivia that the content of a slot is built with. -/
def slotLeading (slot : Slot) : String :=
  if slot.onNewLine then "Some(&(Trivia::newline()+format.make_indent()))"
  else if slot.isSpaced then "Some(&Trivia::spaces(1))"
  else "None"

/-- The statement that adds the content of a slot, given as an expression, to the children. -/
def pushChild (slot : Slot) (content : Phrase) : Phrase :=
  if slot.type.isToken then
    .text "children.extend(" :: content ++ [.text s!".build({slotLeading slot}));"]
  else
    let format := if slot.isIndented then "&format.indented()" else "format"
    .text "children.push(NodeOrToken::Node(" :: content
      ++ [.text s!".build({format},{slotLeading slot})));"]

/-- The statement that adds the content of a slot, if there is any, to the children. -/
def buildSlot (slot : Slot) : Phrase :=
  if slot.isOptional then
    [.text "if let Some(it)=&self.", .name (fieldName slot), .text "\x7b"]
      ++ pushChild slot [.text "it"] ++ [.text "\x7d"]
  else pushChild slot [.text "self.", .name (fieldName slot)]

/-- The function that builds the tree of a concrete kind. -/
def nodeBuild (kind : NodeKind) : Item where
  name := kind.name
  phrase :=
    [.text "impl Buildable for", .name kind.name, .text buildHead,
     .text "let mut children=Vec::new();"]
      ++ kind.slots.flatMap buildSlot
      ++ [.text "let result=make_node(SyntaxKind::", .name kind.kindName, .text ",children);",
          .text "apply_leading_trivia(result,&self.leading_trivia,leading_trivia)\x7d\x7d"]

/-- The items of a concrete kind. -/
def nodeItems (catalog : Catalog) (kind : NodeKind) : List Item :=
  [nodeStruct kind, nodeFunctions catalog kind, nodeBuild kind]

/-! ## Collections -/

/-- The struct of a collection. -/
def collectionStruct (kind : NodeKind) (element : TypeRef) : Item where
  name := kind.name
  phrase := kindDoc kind
    ++ [.text "#[derive(Debug,Clone,Default)]pub struct", .name kind.name,
        .text "\x7bpub elements:Vec<", fieldType element, .text ">\x7d"]

/-- The constructors of a collection. -/
def collectionFunctions (kind : NodeKind) (element : TypeRef) : Item where
  name := kind.name
  phrase :=
    [.text "impl", .name kind.name,
     .text "\x7bpub fn new(elements:impl IntoIterator<Item=impl Into<", fieldType element,
     .text ">>)->Self\x7b", .name kind.name,
     .text "\x7belements:elements.into_iter().map(Into::into).collect()\x7d\x7d"]
      ++ docAttribute "Flattens the elements of `lists`, in order."
      ++ [.text "pub fn combining(lists:impl IntoIterator<Item=impl Into<", .name kind.name,
          .text ">>)->Self\x7b", .name kind.name,
          .text "\x7belements:lists.into_iter().flat_map(|list|Into::<", .name kind.name,
          .text ">::into(list).elements).collect()\x7d\x7d\x7d"]

/-- The conversions from lists of elements to a collection. -/
def collectionSources (kind : NodeKind) (element : TypeRef) : List Item :=
  [{ name := kind.name
     phrase :=
      [.text "impl<E:Into<", fieldType element, .text ">>FromIterator<E>for", .name kind.name,
       .text "\x7bfn from_iter<I:IntoIterator<Item=E>>(iter:I)->Self\x7b", .name kind.name,
       .text "::new(iter)\x7d\x7d"] },
   { name := kind.name
     phrase :=
      [.text "impl<E:Into<", fieldType element, .text ">>From<Vec<E>>for", .name kind.name,
       .text "\x7bfn from(elements:Vec<E>)->Self\x7b", .name kind.name,
       .text "::new(elements)\x7d\x7d"] },
   { name := kind.name
     phrase :=
      [.text "impl<E:Into<", fieldType element, .text ">,const N:usize>From<[E;N]>for",
       .name kind.name, .text "\x7bfn from(elements:[E;N])->Self\x7b", .name kind.name,
       .text "::new(elements)\x7d\x7d"] }]

/-- The trivia that the elements of a collection are built with. -/
def elementLeading (kind : NodeKind) : String :=
  if kind.onNewLines then "Some(&separator)" else "None"

/-- The statement that makes the trivia between the elements of a collection. -/
def elementSeparator (kind : NodeKind) : String :=
  if kind.onNewLines then "let separator=Trivia::newline()+format.make_indent();" else ""

/-- The statements that add the elements of a collection to the children. -/
def buildElements (catalog : Catalog) (kind : NodeKind) (element : TypeRef) : Phrase :=
  let leading := elementLeading kind
  if element.isToken then
    [.text s!"for element in&self.elements\x7bchildren.extend(element.build({leading}));\x7d"]
  else
    match catalog.commaSlot? element with
    | some (slot, comma) =>
      [.text "let count=self.elements.len();",
       .text "for(index,element)in self.elements.iter().enumerate()",
       .text s!"\x7blet mut node=element.build(format,{leading});",
       .text "if index+1<count&&element.", .name (fieldName slot),
       .text ".is_none()\x7bnode=push_children(node,Token::new(SyntaxKind::", .name comma.kindName,
       .text ").build(None));\x7dchildren.push(NodeOrToken::Node(node));\x7d"]
    | none =>
      [.text "for element in&self.elements",
       .text s!"\x7bchildren.push(NodeOrToken::Node(element.build(format,{leading})));\x7d"]

/-- The function that builds the tree of a collection. -/
def collectionBuild (catalog : Catalog) (kind : NodeKind) (element : TypeRef) : Item where
  name := kind.name
  phrase :=
    [.text "impl Buildable for", .name kind.name, .text buildHead,
     .text "let mut children=Vec::new();",
     .text (elementSeparator kind)]
      ++ buildElements catalog kind element
      ++ [.text "let result=make_node(SyntaxKind::", .name kind.kindName, .text ",children);",
          .text "apply_leading_trivia(result,&Trivia::default(),leading_trivia)\x7d\x7d"]

/-- The items of a collection. -/
def collectionItems (catalog : Catalog) (kind : NodeKind) : List Item :=
  match kind.element? with
  | none => []
  | some element =>
    [collectionStruct kind element, collectionFunctions kind element]
      ++ collectionSources kind element ++ [collectionBuild catalog kind element]

/-! ## Bases -/

/-- The enumeration of the kinds that derive from a base. -/
def baseEnum (base : NodeKind) (derived : List NodeKind) : Item where
  name := base.name
  phrase := docAttribute s!"Any node derived from `{base.name}`."
    ++ [.text "#[derive(Debug,Clone)]pub enum", .name base.name, .text "\x7b"]
    ++ Phrase.separated "," (derived.map fun kind =>
      [.name kind.name, .text "(Box<", .name kind.name, .text ">)"])
    ++ [.text "\x7d"]

/-- The function that builds the tree of a value of a base. -/
def baseBuild (base : NodeKind) (derived : List NodeKind) : Item where
  name := base.name
  phrase :=
    [.text "impl Buildable for", .name base.name, .text buildHead, .text "match self\x7b"]
      ++ Phrase.separated "," (derived.map fun kind =>
        [.name base.name, .text "::", .name kind.name,
         .text "(it)=>it.build(format,leading_trivia)"])
      ++ [.text "\x7d\x7d\x7d"]

/-! ## Conversions -/

/-- The expression that converts a node by a rule. -/
def conversionBody (rule : ConversionRule) : Phrase :=
  match rule.body with
  | .erase | .wrap => [.name rule.target, .text "::new(node)"]
  | .upcast =>
    [.name rule.target, .text "::", .name rule.source, .text "(Box::new(node))"]
  | .through via =>
    [.name rule.target, .text "::from(", .name via, .text "::from(node))"]

/-- The conversion of a rule. -/
def conversionItem (rule : ConversionRule) : Item where
  name := rule.target
  phrase :=
    [.text "impl From<", .name rule.source, .text ">for", .name rule.target,
     .text "\x7bfn from(node:", .name rule.source, .text ")->", .name rule.target, .text "\x7b"]
      ++ conversionBody rule ++ [.text "\x7d\x7d"]

/-- The items of a base. -/
def baseItems (grammar : Grammar) (base : NodeKind) : List Item :=
  let derived := grammar.derivedFrom base
  [baseEnum base derived, baseBuild base derived]
    ++ (grammar.upcastRules base).map conversionItem

/-! ## The file -/

/-- What the file imports. -/
def imports : List Item :=
  [{ name := "use"
     phrase :=
      [.text "use swiftb_syntax::\x7bmake_node,push_children,",
       .text "GreenNode,NodeOrToken,SyntaxKind\x7d;"] },
   { name := "use"
     phrase :=
      [.text "use crate::\x7bapply_leading_trivia,Buildable,Format,Syntax,Token,Trivia\x7d;"] }]

/-- The items of the file, in order. -/
def buildableItems (grammar : Grammar) : List Item :=
  imports ++ grammar.concreteKinds.flatMap (nodeItems grammar.toCatalog)
    ++ grammar.collectionKinds.flatMap (collectionItems grammar.toCatalog)
    ++ grammar.valueBases.flatMap (baseItems grammar)
    ++ grammar.kinds.flatMap fun kind => (grammar.rulesFrom kind).map conversionItem

/-- The file that declares the builder of a grammar. -/
def buildableFile (grammar : Grammar) : Except ApiError ApiFile :=
  ApiFile.make "swiftb-build::sourcegen_buildables" (buildableItems grammar)

end SyntaxForge.Api
