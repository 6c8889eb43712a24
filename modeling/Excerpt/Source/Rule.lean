import Excerpt.Source.Node

/-! # Rules of C#

The names of the rules of the grammar, and what becomes of a piece of source that a rule describes
(`Rule.role`): a node of the syntax tree, nothing, or only what is inside of it. -/

namespace Excerpt

namespace Source

/-- The rules of the grammar. -/
inductive Rule where
  -- files and namespaces
  | file
  | topLevelItem
  | topLevelRegion
  | topLevelElse
  | topLevelElif
  | externAlias
  | usingDirective
  | fileAttribute
  | namespaceBlock
  | namespaceLine
  | namespaceName
  -- types
  | typeDeclaration
  | classDeclaration
  | structDeclaration
  | interfaceDeclaration
  | recordDeclaration
  | enumDeclaration
  | delegateDeclaration
  | declaredName
  | typeParameterList
  | typeParameter
  | baseList
  | constraintClause
  | constraint
  | enumMemberList
  | enumMember
  | enumRegion
  | enumElse
  | enumElif
  -- members
  | memberList
  | member
  | memberRegion
  | memberElse
  | memberElif
  | fieldDeclaration
  | eventFieldDeclaration
  | eventDeclaration
  | methodDeclaration
  | constructorDeclaration
  | constructorCall
  | destructorDeclaration
  | propertyDeclaration
  | indexerDeclaration
  | operatorDeclaration
  | conversionDeclaration
  | overloadableOperator
  | explicitInterface
  | accessorList
  | accessor
  | accessorName
  | variableDeclaration
  | variableDeclarator
  | tuplePattern
  | valueName
  | parameterList
  | indexParameterList
  | parameter
  | parameterArray
  | parameterModifier
  | parameterType
  | functionBody
  | modifier
  | attributes
  | attributeList
  | attributeRegion
  | attributeElse
  | attributeElif
  | attribute
  | attributeTarget
  | attributeArgumentList
  | attributeArgument
  -- lines that are passed over
  | skippedLine
  | condition
  -- names and types
  | identifier
  | simpleName
  | genericName
  | qualifiedName
  | typeArgumentList
  | type
  | arrayType
  | arrayBase
  | arrayRank
  | nullableType
  | pointerType
  | pointerBase
  | functionPointerType
  | callingConvention
  | refType
  | scopedType
  | tupleType
  | tupleElement
  -- statements
  | statement
  | block
  | localDeclaration
  | localFunction
  | expressionStatement
  | simpleStatement
  | compoundStatement
  | forHead
  | foreachHead
  | switchStatement
  | switchSection
  | switchLabel
  | tryStatement
  | catchClause
  | usingStatement
  -- expressions
  | expression
  | lvalue
  | statementExpression
  | assignmentOperator
  | binaryOperator
  | memberAccess
  | invocation
  | elementAccess
  | conditionalAccess
  | simpleExpression
  | creation
  | untypedCreation
  | initializer
  | anonymousMember
  | lambda
  | anonymousMethod
  | cast
  | tupleExpression
  | parenthesized
  | typeTest
  | switchExpression
  | switchArm
  | whenClause
  | withExpression
  | range
  | query
  | fromClause
  | queryBody
  | queryClause
  | ordering
  | expressionRegion
  | expressionElse
  | expressionElif
  | collection
  | bracketedArguments
  | argumentList
  | argument
  | declarationExpression
  | binaryExpression
  | prefixedExpression
  | suffixedExpression
  | defaultExpression
  | typeOperand
  -- literals
  | literal
  | stringLiteral
  | characterLiteral
  | interpolatedString
  | interpolatedText
  | hole
  -- patterns
  | pattern
  | constantPattern
  | designation
  | listPatternItem
  | positionalPart
  | propertyPart
  | subpattern
deriving DecidableEq, Repr, Inhabited

/-- What becomes of the piece of source that a rule describes. -/
inductive Role where
  /-- A node with nodes for what is inside. -/
  | branch (kind : NodeKind)
  /-- A node without children. -/
  | leaf (kind : NodeKind)
  /-- The nodes of what is inside. -/
  | through
  /-- No node. -/
  | passed
deriving DecidableEq, Repr, Inhabited

namespace Rule

/-- What becomes of the piece of source that the rule describes. -/
def role : Rule → Role
  | file => .branch .file
  | topLevelItem | typeDeclaration | member => .through
  | topLevelRegion | topLevelElse | topLevelElif | memberRegion | memberElse | memberElif | enumRegion
  | enumElse | enumElif => .branch .region
  | namespaceBlock => .branch .namespaceBlock
  | namespaceLine => .branch .namespaceLine
  | namespaceName | declaredName | accessorName => .leaf .name
  | classDeclaration => .branch .classDecl
  | structDeclaration => .branch .structDecl
  | interfaceDeclaration => .branch .interfaceDecl
  | recordDeclaration => .branch .recordDecl
  | enumDeclaration => .branch .enumDecl
  | typeParameterList => .branch .typeParameters
  | typeParameter => .branch .typeParameter
  | enumMemberList => .branch .enumMemberList
  | enumMember => .branch .enumMember
  | memberList => .branch .memberList
  | fieldDeclaration => .branch .field
  | eventFieldDeclaration => .branch .eventField
  | eventDeclaration => .branch .event
  | methodDeclaration => .branch .method
  | constructorDeclaration => .leaf .constructor
  | destructorDeclaration => .leaf .destructor
  | propertyDeclaration => .branch .property
  | indexerDeclaration => .branch .indexer
  | accessorList => .branch .accessorList
  | accessor => .branch .accessor
  | variableDeclaration => .branch .declarators
  | variableDeclarator => .branch .declarator
  | parameterList | indexParameterList => .branch .parameters
  | parameter => .branch .parameter
  | parameterType => .leaf .type
  | valueName => .leaf .identifier
  | _ => .passed

end Rule

end Source

end Excerpt
