import SyntaxForge.Grammar.Basic

/-!
# The Swift grammar

The tokens and node kinds of the part of Swift that the builder covers.  Every kind is a
definition of its own, so that code which assembles nodes can name it; `Builtin.declarations` lists
them in order.
-/

namespace SyntaxForge.Builtin

/-! ## Keywords -/

/-- The keyword `import`. -/
def importKeyword : TokenKind := .keyword "import" .trailing

/-- The keyword `protocol`. -/
def protocolKeyword : TokenKind := .keyword "protocol" .trailing

/-- The keyword `struct`. -/
def structKeyword : TokenKind := .keyword "struct" .trailing

/-- The keyword `enum`. -/
def enumKeyword : TokenKind := .keyword "enum" .trailing

/-- The keyword `extension`. -/
def extensionKeyword : TokenKind := .keyword "extension" .trailing

/-- The keyword `case`. -/
def caseKeyword : TokenKind := .keyword "case" .trailing

/-- The keyword `func`. -/
def funcKeyword : TokenKind := .keyword "func" .trailing

/-- The keyword `init`. -/
def initKeyword : TokenKind := .keyword "init" .none

/-- The keyword `let`. -/
def letKeyword : TokenKind := .keyword "let" .trailing

/-- The keyword `var`. -/
def varKeyword : TokenKind := .keyword "var" .trailing

/-- The keyword `public`. -/
def publicKeyword : TokenKind := .keyword "public" .trailing

/-- The keyword `private`. -/
def privateKeyword : TokenKind := .keyword "private" .trailing

/-- The keyword `static`. -/
def staticKeyword : TokenKind := .keyword "static" .trailing

/-- The keyword `return`. -/
def returnKeyword : TokenKind := .keyword "return" .trailing

/-- The keyword `if`. -/
def ifKeyword : TokenKind := .keyword "if" .trailing

/-- The keyword `else`. -/
def elseKeyword : TokenKind := .keyword "else" .leading

/-- The keyword `where`. -/
def whereKeyword : TokenKind := .keyword "where" .both

/-- The keyword `self`. -/
def selfKeyword : TokenKind := .keyword "self" .none

/-- The keyword `true`. -/
def trueKeyword : TokenKind := .keyword "true" .none

/-- The keyword `false`. -/
def falseKeyword : TokenKind := .keyword "false" .none

/-- The keyword `nil`. -/
def nilKeyword : TokenKind := .keyword "nil" .none

/-- The keywords, in declaration order. -/
def keywords : List TokenKind :=
  [importKeyword, protocolKeyword, structKeyword, enumKeyword, extensionKeyword, caseKeyword,
   funcKeyword, initKeyword, letKeyword, varKeyword, publicKeyword, privateKeyword, staticKeyword,
   returnKeyword, ifKeyword, elseKeyword, whereKeyword, selfKeyword, trueKeyword, falseKeyword,
   nilKeyword]

/-! ## Punctuation -/

/-- An opening brace. -/
def leftBrace : TokenKind := .punctuation "LeftBrace" "\x7b" .leading

/-- A closing brace. -/
def rightBrace : TokenKind := .punctuation "RightBrace" "\x7d" .none

/-- An opening parenthesis. -/
def leftParen : TokenKind := .punctuation "LeftParen" "(" .none

/-- A closing parenthesis. -/
def rightParen : TokenKind := .punctuation "RightParen" ")" .none

/-- An opening square bracket. -/
def leftSquareBracket : TokenKind := .punctuation "LeftSquareBracket" "[" .none

/-- A closing square bracket. -/
def rightSquareBracket : TokenKind := .punctuation "RightSquareBracket" "]" .none

/-- A comma. -/
def comma : TokenKind := .punctuation "Comma" "," .trailing

/-- A colon. -/
def colon : TokenKind := .punctuation "Colon" ":" .trailing

/-- A semicolon. -/
def semicolon : TokenKind := .punctuation "Semicolon" ";" .none

/-- A period. -/
def period : TokenKind := .punctuation "Period" "." .none

/-- Three periods. -/
def ellipsis : TokenKind := .punctuation "Ellipsis" "..." .none

/-- An equals sign. -/
def equal : TokenKind := .punctuation "Equal" "=" .both

/-- The arrow in front of a return type. -/
def arrow : TokenKind := .punctuation "Arrow" "->" .both

/-- A question mark behind a type or an expression. -/
def postfixQuestionMark : TokenKind := .punctuation "PostfixQuestionMark" "?" .none

/-- The question mark of a ternary expression. -/
def infixQuestionMark : TokenKind := .punctuation "InfixQuestionMark" "?" .both

/-- A string quote. -/
def stringQuote : TokenKind := .punctuation "StringQuote" "\"" .none

/-- An underscore in place of a name. -/
def wildcard : TokenKind := .punctuation "Wildcard" "_" .none

/-- The punctuation marks, in declaration order. -/
def punctuationMarks : List TokenKind :=
  [leftBrace, rightBrace, leftParen, rightParen, leftSquareBracket, rightSquareBracket, comma,
   colon, semicolon, period, ellipsis, equal, arrow, postfixQuestionMark, infixQuestionMark,
   stringQuote, wildcard]

/-! ## Literals and trivia -/

/-- An identifier. -/
def identifier : TokenKind := .literal "Identifier" .none

/-- An identifier such as `$0`. -/
def dollarIdentifier : TokenKind := .literal "DollarIdentifier" .none

/-- A whole number. -/
def integerLiteral : TokenKind := .literal "IntegerLiteral" .none

/-- The text between two string quotes. -/
def stringSegment : TokenKind := .literal "StringSegment" .none

/-- A binary operator with spaces around it. -/
def spacedBinaryOperator : TokenKind := .literal "SpacedBinaryOperator" .both

/-- The literals, in declaration order. -/
def literals : List TokenKind :=
  [identifier, dollarIdentifier, integerLiteral, stringSegment, spacedBinaryOperator]

/-- Whitespace and comments, in declaration order. -/
def triviaKinds : List TokenKind :=
  ["Spaces", "Tabs", "Newlines", "LineComment", "DocLineComment", "UnexpectedText"].map .trivia

/-- All tokens, in declaration order. -/
def tokens : List TokenKind :=
  keywords ++ punctuationMarks ++ literals ++ triviaKinds

/-! ## Writing node kinds down -/

/-- A slot for a node. -/
def child (name type : String) : Slot := { name, type := .node type }

/-- A slot for a token of one kind. -/
def tokenOf (name : String) (kind : TokenKind) : Slot := { name, type := .token kind.name }

/-- A slot for any token. -/
def anyToken (name : String) : Slot := { name, type := .anyToken }

/-- A base. -/
def base (name parent : String) : NodeKind :=
  { name, base := some parent, doc := "", shape := .base }

/-- A concrete kind. -/
def node (name parent : String) (slots : List Slot) (doc : String := "") : NodeKind :=
  { name, base := some parent, doc, shape := .concrete slots }

/-- A collection with its elements side by side. -/
def list (name : String) (element : TypeRef) (doc : String := "") : NodeKind :=
  { name, base := some collectionBaseName, doc, shape := .collection element false }

/-- A collection with each element on a line of its own. -/
def lines (name : String) (element : TypeRef) (doc : String := "") : NodeKind :=
  { name, base := some collectionBaseName, doc, shape := .collection element true }

/-! ## Bases -/

/-- The universal base. -/
def root : NodeKind := { name := rootName, base := none, doc := "", shape := .base }

/-- The base of collections. -/
def collectionBase : NodeKind := base collectionBaseName rootName

/-- The base of declarations. -/
def declBase : NodeKind := base "Decl" rootName

/-- The base of expressions. -/
def exprBase : NodeKind := base "Expr" rootName

/-- The base of statements. -/
def stmtBase : NodeKind := base "Stmt" rootName

/-- The base of types. -/
def typeBase : NodeKind := base "Type" rootName

/-- The base of patterns. -/
def patternBase : NodeKind := base "Pattern" rootName

/-! ## Parts of declarations, statements and expressions -/

/-- A whole source file. -/
def sourceFile : NodeKind :=
  node "SourceFile" rootName
    [child "Statements" "CodeBlockItemList"]
    "A whole source file."

/-- A declaration, statement or expression as an item of a block. -/
def codeBlockItem : NodeKind :=
  node "CodeBlockItem" rootName
    [child "Item" "Syntax",
     (tokenOf "Semicolon" semicolon).optional]
    "A single statement, declaration or expression in a code block."

/-- The items of a block, one to a line. -/
def codeBlockItemList : NodeKind := lines "CodeBlockItemList" (.node "CodeBlockItem")

/-- Items between braces. -/
def codeBlock : NodeKind :=
  node "CodeBlock" rootName
    [tokenOf "LeftBrace" leftBrace,
     (child "Statements" "CodeBlockItemList").indented,
     (tokenOf "RightBrace" rightBrace).newLine]

/-- A modifier such as `public`. -/
def declModifier : NodeKind := node "DeclModifier" rootName [anyToken "Name"]

/-- The modifiers of a declaration. -/
def modifierList : NodeKind := list "ModifierList" (.node "DeclModifier")

/-- One type of an inheritance clause. -/
def inheritedType : NodeKind :=
  node "InheritedType" rootName
    [child "TypeName" "Type",
     (tokenOf "TrailingComma" comma).optional]

/-- The types of an inheritance clause. -/
def inheritedTypeList : NodeKind := list "InheritedTypeList" (.node "InheritedType")

/-- A colon and the types that a declaration inherits from. -/
def typeInheritanceClause : NodeKind :=
  node "TypeInheritanceClause" rootName
    [tokenOf "Colon" colon,
     child "InheritedTypeCollection" "InheritedTypeList"]

/-- The requirement that two types are the same. -/
def sameTypeRequirement : NodeKind :=
  node "SameTypeRequirement" rootName
    [child "LeftTypeIdentifier" "Type",
     anyToken "EqualityToken",
     child "RightTypeIdentifier" "Type"]

/-- One requirement of a `where` clause. -/
def genericRequirement : NodeKind :=
  node "GenericRequirement" rootName
    [child "Body" "Syntax",
     (tokenOf "TrailingComma" comma).optional]

/-- The requirements of a `where` clause. -/
def genericRequirementList : NodeKind := list "GenericRequirementList" (.node "GenericRequirement")

/-- A `where` clause. -/
def genericWhereClause : NodeKind :=
  node "GenericWhereClause" rootName
    [tokenOf "WhereKeyword" whereKeyword,
     child "RequirementList" "GenericRequirementList"]

/-- A declaration as a member of a type. -/
def memberDeclListItem : NodeKind :=
  node "MemberDeclListItem" rootName
    [child "Decl" "Decl",
     (tokenOf "Semicolon" semicolon).optional]
    "A member declaration of a type or extension."

/-- The members of a type, one to a line. -/
def memberDeclList : NodeKind := lines "MemberDeclList" (.node "MemberDeclListItem")

/-- Members between braces. -/
def memberDeclBlock : NodeKind :=
  node "MemberDeclBlock" rootName
    [tokenOf "LeftBrace" leftBrace,
     (child "Members" "MemberDeclList").indented,
     (tokenOf "RightBrace" rightBrace).newLine]

/-- An equals sign and a value. -/
def initializerClause : NodeKind :=
  node "InitializerClause" rootName
    [tokenOf "Equal" equal,
     child "Value" "Expr"]

/-- A colon and a type. -/
def typeAscription : NodeKind :=
  node "TypeAnnotation" rootName
    [tokenOf "Colon" colon,
     child "Type" "Type"]

/-- One parameter of a function. -/
def functionParameter : NodeKind :=
  node "FunctionParameter" rootName
    [(anyToken "FirstName").optional,
     (anyToken "SecondName").optional.spaced,
     (tokenOf "Colon" colon).optional,
     (child "Type" "Type").optional,
     (tokenOf "Ellipsis" ellipsis).optional,
     (child "DefaultArgument" "InitializerClause").optional,
     (tokenOf "TrailingComma" comma).optional]

/-- The parameters of a function. -/
def functionParameterList : NodeKind := list "FunctionParameterList" (.node "FunctionParameter")

/-- Parameters between parentheses. -/
def parameterClause : NodeKind :=
  node "ParameterClause" rootName
    [tokenOf "LeftParen" leftParen,
     child "ParameterList" "FunctionParameterList",
     tokenOf "RightParen" rightParen]

/-- An arrow and a return type. -/
def returnClause : NodeKind :=
  node "ReturnClause" rootName
    [tokenOf "Arrow" arrow,
     child "ReturnType" "Type"]

/-- The parameters and the return type of a function. -/
def functionSignature : NodeKind :=
  node "FunctionSignature" rootName
    [child "Input" "ParameterClause",
     (child "Output" "ReturnClause").optional]

/-- One argument of a call or element of a tuple, with or without a label. -/
def tupleExprElement : NodeKind :=
  node "TupleExprElement" rootName
    [(tokenOf "Label" identifier).optional,
     (tokenOf "Colon" colon).optional,
     child "Expression" "Expr",
     (tokenOf "TrailingComma" comma).optional]

/-- The arguments of a call or elements of a tuple. -/
def tupleExprElementList : NodeKind := list "TupleExprElementList" (.node "TupleExprElement")

/-- One element of an array literal. -/
def arrayElement : NodeKind :=
  node "ArrayElement" rootName
    [child "Expression" "Expr",
     (tokenOf "TrailingComma" comma).optional]

/-- The elements of an array literal. -/
def arrayElementList : NodeKind := list "ArrayElementList" (.node "ArrayElement")

/-- Operands and operators side by side. -/
def exprList : NodeKind :=
  list "ExprList" (.node "Expr") "A list of expressions connected by operators."

/-- One name of a `case` declaration. -/
def enumCaseElement : NodeKind :=
  node "EnumCaseElement" rootName
    [tokenOf "Identifier" identifier,
     (child "RawValue" "InitializerClause").optional,
     (tokenOf "TrailingComma" comma).optional]
    "An element of an enum case declaration."

/-- The names of a `case` declaration. -/
def enumCaseElementList : NodeKind :=
  list "EnumCaseElementList" (.node "EnumCaseElement")
    "A collection of 0 or more `EnumCaseElement`s."

/-- One name of a dotted path. -/
def accessPathComponent : NodeKind :=
  node "AccessPathComponent" rootName
    [tokenOf "Name" identifier,
     (tokenOf "TrailingDot" period).optional]

/-- A dotted path. -/
def accessPath : NodeKind := list "AccessPath" (.node "AccessPathComponent")

/-- A pattern with its type and initial value. -/
def patternBinding : NodeKind :=
  node "PatternBinding" rootName
    [child "Pattern" "Pattern",
     (child "TypeAnnotation" "TypeAnnotation").optional,
     (child "Initializer" "InitializerClause").optional,
     (tokenOf "TrailingComma" comma).optional]

/-- The bindings of a variable declaration. -/
def patternBindingList : NodeKind := list "PatternBindingList" (.node "PatternBinding")

/-- A condition that binds the value of an optional. -/
def optionalBindingCondition : NodeKind :=
  node "OptionalBindingCondition" rootName
    [anyToken "LetOrVarKeyword",
     child "Pattern" "Pattern",
     (child "TypeAnnotation" "TypeAnnotation").optional,
     (child "Initializer" "InitializerClause").optional]

/-- One condition of an `if`. -/
def conditionElement : NodeKind :=
  node "ConditionElement" rootName
    [child "Condition" "Syntax",
     (tokenOf "TrailingComma" comma).optional]

/-- The conditions of an `if`. -/
def conditionElementList : NodeKind := list "ConditionElementList" (.node "ConditionElement")

/-- Tokens side by side. -/
def tokenList : NodeKind := list "TokenList" .anyToken

/-- Tokens side by side, meant to be at least one. -/
def nonEmptyTokenList : NodeKind := list "NonEmptyTokenList" .anyToken

/-! ## Declarations -/

/-- An import. -/
def importDecl : NodeKind :=
  node "ImportDecl" "Decl"
    [(child "Modifiers" "ModifierList").optional,
     tokenOf "ImportTok" importKeyword,
     child "Path" "AccessPath"]
    "An import declaration like `import Foo.Bar`."

/-- A protocol. -/
def protocolDecl : NodeKind :=
  node "ProtocolDecl" "Decl"
    [(child "Modifiers" "ModifierList").optional,
     tokenOf "ProtocolKeyword" protocolKeyword,
     tokenOf "Identifier" identifier,
     (child "InheritanceClause" "TypeInheritanceClause").optional,
     (child "GenericWhereClause" "GenericWhereClause").optional,
     child "Members" "MemberDeclBlock"]

/-- A struct. -/
def structDecl : NodeKind :=
  node "StructDecl" "Decl"
    [(child "Modifiers" "ModifierList").optional,
     tokenOf "StructKeyword" structKeyword,
     tokenOf "Identifier" identifier,
     (child "InheritanceClause" "TypeInheritanceClause").optional,
     (child "GenericWhereClause" "GenericWhereClause").optional,
     child "Members" "MemberDeclBlock"]

/-- An enum. -/
def enumDecl : NodeKind :=
  node "EnumDecl" "Decl"
    [(child "Modifiers" "ModifierList").optional,
     tokenOf "EnumKeyword" enumKeyword,
     tokenOf "Identifier" identifier,
     (child "InheritanceClause" "TypeInheritanceClause").optional,
     (child "GenericWhereClause" "GenericWhereClause").optional,
     child "Members" "MemberDeclBlock"]
    "A Swift `enum` declaration."

/-- An extension of a type. -/
def extensionDecl : NodeKind :=
  node "ExtensionDecl" "Decl"
    [(child "Modifiers" "ModifierList").optional,
     tokenOf "ExtensionKeyword" extensionKeyword,
     child "ExtendedType" "Type",
     (child "InheritanceClause" "TypeInheritanceClause").optional,
     (child "GenericWhereClause" "GenericWhereClause").optional,
     child "Members" "MemberDeclBlock"]

/-- A `case` of an enum. -/
def enumCaseDecl : NodeKind :=
  node "EnumCaseDecl" "Decl"
    [(child "Modifiers" "ModifierList").optional,
     tokenOf "CaseKeyword" caseKeyword,
     child "Elements" "EnumCaseElementList"]
    "A `case` declaration of a Swift `enum`."

/-- A function, or the requirement of one. -/
def functionDecl : NodeKind :=
  node "FunctionDecl" "Decl"
    [(child "Modifiers" "ModifierList").optional,
     tokenOf "FuncKeyword" funcKeyword,
     tokenOf "Identifier" identifier,
     child "Signature" "FunctionSignature",
     (child "Body" "CodeBlock").optional]

/-- An initializer. -/
def initializerDecl : NodeKind :=
  node "InitializerDecl" "Decl"
    [(child "Modifiers" "ModifierList").optional,
     tokenOf "InitKeyword" initKeyword,
     child "Signature" "FunctionSignature",
     (child "Body" "CodeBlock").optional]

/-- A constant or variable. -/
def variableDecl : NodeKind :=
  node "VariableDecl" "Decl"
    [(child "Modifiers" "ModifierList").optional,
     anyToken "LetOrVarKeyword",
     child "Bindings" "PatternBindingList"]

/-! ## Statements -/

/-- A `return`. -/
def returnStmt : NodeKind :=
  node "ReturnStmt" "Stmt"
    [tokenOf "ReturnKeyword" returnKeyword,
     (child "Expression" "Expr").optional]

/-- An `if`, with or without an `else`. -/
def ifStmt : NodeKind :=
  node "IfStmt" "Stmt"
    [tokenOf "IfKeyword" ifKeyword,
     child "Conditions" "ConditionElementList",
     child "Body" "CodeBlock",
     (tokenOf "ElseKeyword" elseKeyword).optional,
     (child "ElseBody" "CodeBlock").optional]

/-! ## Expressions -/

/-- A name as an expression. -/
def identifierExpr : NodeKind := node "IdentifierExpr" "Expr" [anyToken "Identifier"]

/-- A string literal. -/
def stringLiteralExpr : NodeKind :=
  node "StringLiteralExpr" "Expr"
    [tokenOf "OpenQuote" stringQuote,
     tokenOf "Segment" stringSegment,
     tokenOf "CloseQuote" stringQuote]

/-- An integer literal. -/
def integerLiteralExpr : NodeKind :=
  node "IntegerLiteralExpr" "Expr"
    [tokenOf "Digits" integerLiteral]

/-- The literal `true` or `false`. -/
def booleanLiteralExpr : NodeKind := node "BooleanLiteralExpr" "Expr" [anyToken "BooleanLiteral"]

/-- The literal `nil`. -/
def nilLiteralExpr : NodeKind := node "NilLiteralExpr" "Expr" [tokenOf "NilKeyword" nilKeyword]

/-- A member of a value, or of the type that the context gives. -/
def memberAccessExpr : NodeKind :=
  node "MemberAccessExpr" "Expr"
    [(child "Base" "Expr").optional,
     tokenOf "Dot" period,
     anyToken "Name"]

/-- A call. -/
def functionCallExpr : NodeKind :=
  node "FunctionCallExpr" "Expr"
    [child "CalledExpression" "Expr",
     (tokenOf "LeftParen" leftParen).optional,
     child "ArgumentList" "TupleExprElementList",
     (tokenOf "RightParen" rightParen).optional,
     (child "TrailingClosure" "ClosureExpr").optional]

/-- A closure. -/
def closureExpr : NodeKind :=
  node "ClosureExpr" "Expr"
    [tokenOf "LeftBrace" leftBrace,
     (child "Statements" "CodeBlockItemList").indented,
     (tokenOf "RightBrace" rightBrace).newLine]

/-- An array literal. -/
def arrayExpr : NodeKind :=
  node "ArrayExpr" "Expr"
    [tokenOf "LeftSquare" leftSquareBracket,
     child "Elements" "ArrayElementList",
     tokenOf "RightSquare" rightSquareBracket]

/-- Expressions between parentheses. -/
def tupleExpr : NodeKind :=
  node "TupleExpr" "Expr"
    [tokenOf "LeftParen" leftParen,
     child "ElementList" "TupleExprElementList",
     tokenOf "RightParen" rightParen]

/-- Operands joined by operators. -/
def sequenceExpr : NodeKind := node "SequenceExpr" "Expr" [child "Elements" "ExprList"]

/-- A binary operator on its own. -/
def binaryOperatorExpr : NodeKind := node "BinaryOperatorExpr" "Expr" [anyToken "OperatorToken"]

/-- The equals sign of an assignment. -/
def assignmentExpr : NodeKind := node "AssignmentExpr" "Expr" [tokenOf "AssignToken" equal]

/-- A choice between two expressions. -/
def ternaryExpr : NodeKind :=
  node "TernaryExpr" "Expr"
    [child "ConditionExpression" "Expr",
     tokenOf "QuestionMark" infixQuestionMark,
     child "FirstChoice" "Expr",
     (tokenOf "ColonMark" colon).spaced,
     child "SecondChoice" "Expr"]

/-- An expression with a question mark behind it. -/
def optionalChainingExpr : NodeKind :=
  node "OptionalChainingExpr" "Expr"
    [child "Expression" "Expr",
     tokenOf "QuestionMark" postfixQuestionMark]

/-! ## Types and patterns -/

/-- A type by its name. -/
def simpleTypeIdentifier : NodeKind := node "SimpleTypeIdentifier" "Type" [anyToken "Name"]

/-- The type of arrays. -/
def arrayType : NodeKind :=
  node "ArrayType" "Type"
    [tokenOf "LeftSquareBracket" leftSquareBracket,
     child "ElementType" "Type",
     tokenOf "RightSquareBracket" rightSquareBracket]

/-- An optional type. -/
def optionalType : NodeKind :=
  node "OptionalType" "Type"
    [child "WrappedType" "Type",
     tokenOf "QuestionMark" postfixQuestionMark]

/-- A name as a pattern. -/
def identifierPattern : NodeKind := node "IdentifierPattern" "Pattern" [anyToken "Identifier"]

/-! ## The grammar -/

/-- The node kinds, in declaration order. -/
def kinds : List NodeKind :=
  [root, collectionBase, declBase, exprBase, stmtBase, typeBase, patternBase, sourceFile,
   codeBlockItem, codeBlockItemList, codeBlock, declModifier, modifierList, inheritedType,
   inheritedTypeList, typeInheritanceClause, sameTypeRequirement, genericRequirement,
   genericRequirementList, genericWhereClause, memberDeclListItem, memberDeclList, memberDeclBlock,
   initializerClause, typeAscription, functionParameter, functionParameterList, parameterClause,
   returnClause, functionSignature, tupleExprElement, tupleExprElementList, arrayElement,
   arrayElementList, exprList, enumCaseElement, enumCaseElementList, accessPathComponent,
   accessPath, patternBinding, patternBindingList, optionalBindingCondition, conditionElement,
   conditionElementList, tokenList, nonEmptyTokenList, importDecl, protocolDecl, structDecl,
   enumDecl, extensionDecl, enumCaseDecl, functionDecl, initializerDecl, variableDecl, returnStmt,
   ifStmt, identifierExpr, stringLiteralExpr, integerLiteralExpr, booleanLiteralExpr,
   nilLiteralExpr, memberAccessExpr, functionCallExpr, closureExpr, arrayExpr, tupleExpr,
   sequenceExpr, binaryOperatorExpr, assignmentExpr, ternaryExpr, optionalChainingExpr,
   simpleTypeIdentifier, arrayType, optionalType, identifierPattern]

/-- Conformances that the slots do not show. -/
def expressibleAs : List (String × List String) :=
  [("Decl", ["CodeBlockItem"]),
   ("Stmt", ["CodeBlockItem"]),
   ("Expr", ["CodeBlockItem", "ConditionElement"]),
   ("SameTypeRequirement", ["GenericRequirement"]),
   ("OptionalBindingCondition", ["ConditionElement"])]

/-- The Swift grammar as it is written down. -/
def declarations : Declarations := { tokens, kinds, expressibleAs }

/-- The Swift grammar. -/
def grammar? : Except GrammarError Grammar := Grammar.ofDeclarations declarations

end SyntaxForge.Builtin
