import Excerpt.Source.Form

/-! # Files, types and members

The rules for what a file declares, and for the preprocessor lines between declarations. Where a piece of
source can be read by several forms of a choice, the form that is written first counts. -/

namespace Excerpt

namespace Source

namespace Grammar

open Form

/-- Attributes and modifiers before a form. -/
def modified (forms : List Form) : Form := .seq (.many (.rule .attributes) :: .many (.rule .modifier) :: forms)

/-- A block of members or a semicolon, each with a further semicolon directly after it. -/
def body (list : Rule) : Form := .seq [.choice [.rule list, sym ";"], .terminal .optionalSemicolon]

/-- Rules for files and namespaces. -/
def files : RuleTable :=
  [(.file, .seq [.opt (.terminal .shebang), .many (.rule .topLevelItem)]),
    (.topLevelItem, .choice [.rule .externAlias, .rule .usingDirective, .rule .fileAttribute,
      .rule .topLevelRegion, .rule .namespaceBlock, .rule .typeDeclaration, .rule .namespaceLine,
      .rule .statement]),
    (.externAlias, .seq [key "extern", key "alias", .rule .identifier, sym ";"]),
    (.usingDirective, .seq [.opt (key "global"), key "using", .choice [
      .seq [.opt (key "unsafe"), .rule .identifier, sym "=", .rule .type],
      .seq [.opt (key "static"), .opt (key "unsafe"), .rule .qualifiedName]], sym ";"]),
    (.fileAttribute, square (.seq [anyKey ["assembly", "module"], sym ":", commas (.rule .attribute),
      .opt (sym ",")])),
    (.namespaceBlock, .seq [key "namespace", .rule .namespaceName, .rule .memberList,
      .terminal .optionalSemicolon]),
    (.namespaceLine, .seq [key "namespace", .rule .namespaceName, sym ";"])]

/-- Rules for types. -/
def typeDeclarations : RuleTable :=
  [(.typeDeclaration, .choice [.rule .classDeclaration, .rule .structDeclaration, .rule .enumDeclaration,
      .rule .interfaceDeclaration, .rule .delegateDeclaration, .rule .recordDeclaration]),
    (.classDeclaration, modified [key "class", .rule .declaredName, head, .many (.rule .constraintClause),
      body .memberList]),
    (.structDeclaration, modified [.opt (key "ref"), key "struct", .rule .declaredName, head,
      .many (.rule .constraintClause), body .memberList]),
    (.recordDeclaration, modified [key "record", .opt (anyKey ["class", "struct"]), .rule .declaredName, head,
      .many (.rule .constraintClause), body .memberList]),
    (.interfaceDeclaration, modified [key "interface", .rule .declaredName, .many (.rule .typeParameterList),
      .opt (.rule .baseList), .many (.rule .constraintClause), body .memberList]),
    (.enumDeclaration, modified [key "enum", .rule .declaredName, .opt (.rule .baseList),
      body .enumMemberList]),
    (.delegateDeclaration, modified [key "delegate", .rule .type, .rule .identifier,
      .opt (.rule .typeParameterList), .rule .parameterList, .many (.rule .constraintClause), sym ";"]),
    (.typeParameterList, .seq [sym "<", commas (.rule .typeParameter), sym ">"]),
    (.typeParameter, .seq [.many (.rule .attributes), .opt (anyKey ["in", "out"]), .rule .declaredName]),
    (.baseList, .seq [sym ":", commas (.seq [.rule .type, .opt (.rule .argumentList)])]),
    (.constraintClause, .seq [key "where", .rule .identifier, sym ":", commas (.rule .constraint)]),
    (.constraint, .choice [.seq [key "class", .opt (sym "?")], key "struct", key "notnull", key "unmanaged",
      .seq [key "new", sym "(", sym ")"], .rule .type]),
    (.enumMemberList, braces (.seq [
      optCommas (.choice [.rule .enumMember, .rule .enumRegion]), .opt (sym ",")])),
    (.enumMember, .seq [.many (.rule .attributes), .rule .declaredName,
      .opt (.seq [sym "=", .rule .expression])])]
where
  /-- What can follow the name of a class, a structure or a record. -/
  head : Form := .many (.choice [.rule .typeParameterList, .rule .parameterList, .rule .baseList])

/-- Rules for members. -/
def members : RuleTable :=
  [(.memberList, braces (.many (.rule .member))),
    (.member, .choice [.rule .classDeclaration, .rule .structDeclaration, .rule .enumDeclaration,
      .rule .delegateDeclaration, .rule .fieldDeclaration, .rule .methodDeclaration,
      .rule .eventFieldDeclaration, .rule .eventDeclaration, .rule .recordDeclaration,
      .rule .constructorDeclaration, .rule .destructorDeclaration, .rule .indexerDeclaration,
      .rule .interfaceDeclaration, .rule .namespaceBlock, .rule .operatorDeclaration,
      .rule .conversionDeclaration, .rule .propertyDeclaration, .rule .usingDirective, .rule .memberRegion]),
    (.fieldDeclaration, modified [.rule .variableDeclaration, sym ";"]),
    (.eventFieldDeclaration, modified [key "event", .rule .variableDeclaration, sym ";"]),
    (.eventDeclaration, modified [key "event", .rule .type, .opt (.rule .explicitInterface),
      .rule .declaredName, .choice [.rule .accessorList, sym ";"]]),
    (.methodDeclaration, modified [.rule .type, .opt (.rule .explicitInterface), .rule .declaredName,
      .opt (.rule .typeParameterList), .rule .parameterList, .many (.rule .constraintClause),
      .rule .functionBody]),
    (.constructorDeclaration, modified [.rule .identifier, .rule .parameterList, .opt (.rule .constructorCall),
      .rule .functionBody]),
    (.constructorCall, .seq [sym ":", anyKey ["base", "this"], .rule .argumentList]),
    (.destructorDeclaration, .seq [.many (.rule .attributes), .opt (key "extern"), sym "~", .rule .identifier,
      .rule .parameterList, .rule .functionBody]),
    (.propertyDeclaration, modified [.rule .type, .opt (.rule .explicitInterface), .rule .declaredName,
      .choice [.seq [.rule .accessorList, .opt (.seq [sym "=", .rule .expression, sym ";"])],
        .seq [sym "=>", .rule .expression, sym ";"]]]),
    (.indexerDeclaration, modified [.rule .type, .opt (.rule .explicitInterface), key "this",
      .rule .indexParameterList,
      .choice [.rule .accessorList, .seq [sym "=>", .rule .expression, sym ";"]]]),
    (.operatorDeclaration, modified [.rule .type, .opt (.rule .explicitInterface), key "operator",
      .opt (key "checked"), .rule .overloadableOperator, .rule .parameterList, .rule .functionBody]),
    (.conversionDeclaration, modified [anyKey ["implicit", "explicit"], .many (.rule .explicitInterface),
      key "operator", .opt (key "checked"), .rule .type, .rule .parameterList, .rule .functionBody]),
    (.overloadableOperator, .choice [anySym ["!", "~", "++", "--", "+", "-", "*", "/", "%", "^", "|", "&", "<<",
      ">>", ">>>", "==", "!=", ">", "<", ">=", "<="], anyKey ["true", "false"]]),
    (.explicitInterface, .seq [.rule .qualifiedName, sym "."]),
    (.accessorList, braces (.many (.rule .accessor))),
    (.accessor, modified [.rule .accessorName, .rule .functionBody]),
    (.accessorName, .choice [anyKey ["get", "set", "add", "remove", "init"], .rule .identifier]),
    (.variableDeclaration, .seq [.rule .type, commas (.rule .variableDeclarator)]),
    (.variableDeclarator, .seq [.choice [.rule .declaredName, .rule .tuplePattern],
      .opt (.rule .bracketedArguments),
      .opt (.seq [sym "=", .choice [.rule .valueName, .rule .expression]])]),
    (.valueName, .rule .identifier),
    (.tuplePattern, round (commas (.choice [.rule .identifier, .rule .tuplePattern]))),
    (.functionBody, .choice [.rule .block, .seq [sym "=>", .rule .expression, sym ";"], sym ";"]),
    (.modifier, anyKey ["abstract", "async", "const", "extern", "file", "fixed", "internal", "new", "override",
      "partial", "private", "protected", "public", "readonly", "required", "sealed", "static", "unsafe",
      "virtual", "volatile"])]

/-- Rules for parameters. The keyword `scoped` before a name belongs to the type and is a modifier before
anything else. -/
def parameters : RuleTable :=
  [(.parameterList, round (optCommas (.choice [.rule .parameter, .rule .parameterArray]))),
    (.indexParameterList, square (optCommas (.choice [.rule .parameter, .rule .parameterArray]))),
    (.parameter, .seq [.many (.rule .attributes), .choice [
      .seq [.many (.rule .parameterModifier), .rule .parameterType, .rule .declaredName],
      .seq [.many (.rule .parameterModifier), key "scoped", .many (.rule .parameterModifier),
        .rule .parameterType, .rule .declaredName],
      .rule .declaredName], .opt (.seq [sym "=", .rule .expression])]),
    (.parameterModifier, anyKey ["this", "ref", "out", "in", "readonly"]),
    (.parameterType, .choice [.rule .arrayType, .rule .qualifiedName, .rule .nullableType, .rule .pointerType,
      .rule .functionPointerType, .terminal .builtInType, .rule .tupleType,
      .seq [key "scoped", .rule .qualifiedName]]),
    (.parameterArray, .seq [.many (.rule .attributes), .many (key "scoped"), key "params", .rule .type,
      .rule .identifier])]

/-- Rules for attributes. -/
def attributes : RuleTable :=
  [(.attributes, .choice [.rule .attributeList, .rule .attributeRegion]),
    (.attributeList, square (.seq [.opt (.rule .attributeTarget), commas (.rule .attribute),
      .opt (sym ",")])),
    (.attributeTarget, .seq [anyKey ["field", "event", "method", "param", "property", "return", "type"],
      sym ":"]),
    (.attribute, .seq [.rule .qualifiedName, .opt (.rule .attributeArgumentList)]),
    (.attributeArgumentList, round (optCommas (.rule .attributeArgument))),
    (.attributeArgument, .seq [.opt (.seq [.rule .identifier, anySym [":", "="]]), .rule .expression])]

/-- Rules for conditional regions. A region among the members of an enumeration holds at most one of them, and
so does one among attributes or in place of an expression. -/
def regions : RuleTable :=
  region (.many (.rule .topLevelItem)) .topLevelRegion .topLevelElse .topLevelElif ++
    region (.many (.rule .member)) .memberRegion .memberElse .memberElif ++
    region (.opt (.rule .enumMember)) .enumRegion .enumElse .enumElif ++
    region (.opt (.rule .attributeList)) .attributeRegion .attributeElse .attributeElif ++
    region (.opt (.rule .expression)) .expressionRegion .expressionElse .expressionElif

/-- Rules for the conditions of regions and for the preprocessor lines that are passed over. -/
def preprocessor : RuleTable :=
  [(.condition, .choice [.rule .identifier, anyKey ["true", "false"], .terminal .integer,
      .rule .characterLiteral, .seq [anySym ["!", "~", "-", "+"], .rule .condition],
      .seq [.rule .condition, anySym ["||", "&&", "==", "!="], .rule .condition],
      round (.rule .condition)]),
    (.skippedLine, .seq [.choice [
      .seq [.choice [line "region", line "endregion"], .opt (.terminal .lineText)],
      .seq [.choice [line "error", line "warning", line "define", line "undef"], .terminal .lineText],
      .seq [line "nullable", anyKey ["enable", "disable", "restore"], .opt (anyKey ["annotations", "warnings"])],
      .seq [line "pragma", .choice [
        .seq [key "warning", anyKey ["disable", "restore"],
          optCommas (.choice [.rule .identifier, .terminal .integer])],
        .seq [key "checksum", .rule .stringLiteral, .rule .stringLiteral, .rule .stringLiteral]]],
      .seq [line "line", .choice [anyKey ["default", "hidden"],
        .seq [.terminal .integer, .opt (.rule .stringLiteral)],
        .seq [place, sym "-", place, .opt (.terminal .integer), .rule .stringLiteral]]]], lineEnd])]
where
  /-- A line and a column. -/
  place : Form := round (.seq [.terminal .integer, sym ",", .terminal .integer])

end Grammar

end Source

end Excerpt
