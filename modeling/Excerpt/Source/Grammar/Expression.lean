import Excerpt.Source.Form

/-! # Expressions, patterns and literals

The rules for expressions. Precedence of operators does not decide whether a source is well-formed, so the
rules leave it out. -/

namespace Excerpt

namespace Source

namespace Grammar

open Form

/-- Rules for literals. -/
def literals : RuleTable :=
  [(.literal, .choice [anyKey ["null", "true", "false"], .terminal .integer, .terminal .real,
      .rule .characterLiteral, .rule .stringLiteral, .terminal .verbatimString,
      .seq [.terminal .rawString, .opt (.terminal .encoding)]]),
    (.stringLiteral, .seq [.terminal .openMark, .many (.choice [.terminal .stringText, .terminal .escape]),
      .terminal .closeMark, .opt (.terminal .encoding)]),
    (.characterLiteral, .seq [.terminal .apostrophe, .choice [.terminal .characterText, .terminal .escape],
      .terminal .apostrophe]),
    (.interpolatedString, .choice [
      .seq [.terminal (.openHoled .regular), .many (.choice [.rule .interpolatedText, .terminal .escape]),
        .terminal .closeHoled],
      .seq [.terminal (.openHoled .verbatim), .many (.rule .interpolatedText), .terminal .closeHoled],
      .seq [.terminal (.openHoled .raw), .many (.rule .interpolatedText), .terminal .closeHoled]]),
    (.interpolatedText, .choice [.terminal .holedText, .rule .hole]),
    (.hole, .seq [.terminal .openHole, .rule .expression, .opt (.seq [sym ",", .rule .expression]),
      .opt (.seq [sym ":", .terminal .format]), .terminal .closeHole])]

/-- Rules for expressions. -/
def expressions : RuleTable :=
  [(.expression, .choice [.rule .lvalue, .rule .statementExpression, .rule .simpleExpression,
      .rule .binaryExpression, .rule .conditionalAccess, .rule .typeTest, .rule .cast, .rule .lambda,
      .rule .anonymousMethod, .rule .switchExpression, .rule .withExpression, .rule .range, .rule .query,
      .rule .expressionRegion,
      .seq [.rule .expression, sym "?", .rule .expression, sym ":", .rule .expression]]),
    (.lvalue, .choice [key "this", .rule .memberAccess, .rule .tupleExpression, .rule .simpleName,
      .rule .elementAccess, .rule .collection, .seq [sym "*", .rule .lvalue], round (.rule .lvalue)]),
    (.statementExpression, .choice [
      .seq [.rule .lvalue, .rule .assignmentOperator, .rule .expression], .rule .invocation,
      .rule .suffixedExpression, .rule .prefixedExpression, .seq [key "await", .rule .expression],
      .rule .creation, .rule .parenthesized]),
    (.assignmentOperator, anySym ["=", "+=", "-=", "*=", "/=", "%=", "&=", "^=", "|=", "<<=", ">>=", ">>>=",
      "??="]),
    (.binaryExpression, .seq [.rule .expression, .rule .binaryOperator, .rule .expression]),
    (.binaryOperator, anySym ["&&", "||", ">>", ">>>", "<<", "&", "^", "|", "+", "-", "*", "/", "%", "<", "<=",
      "==", "!=", ">=", ">", "??"]),
    (.suffixedExpression, .seq [.rule .expression, anySym ["++", "--", "!"]]),
    (.prefixedExpression, .seq [anySym ["++", "--", "+", "-", "!", "~", "&", "^"], .rule .expression]),
    (.memberAccess, .seq [.choice [.rule .expression, .terminal .builtInType, .rule .qualifiedName],
      anySym [".", "->"], .rule .simpleName]),
    (.invocation, .seq [.rule .expression, .rule .argumentList]),
    (.elementAccess, .seq [.rule .expression, .rule .bracketedArguments]),
    (.conditionalAccess, .seq [.rule .expression, sym "?",
      .choice [.seq [sym ".", .rule .simpleName], .rule .bracketedArguments]]),
    (.parenthesized, round (.rule .expression)),
    (.tupleExpression, round (.seq [.rule .argument, some (.seq [sym ",", .rule .argument])])),
    (.simpleExpression, .choice [.rule .literal, .rule .interpolatedString, key "base",
      .rule .defaultExpression, .rule .typeOperand, .rule .initializer, .rule .untypedCreation,
      .seq [anyKey ["checked", "unchecked"], round (.rule .expression)],
      .seq [anyKey ["throw", "ref"], .rule .expression],
      .seq [anyKey ["__makeref", "__reftype"], round (.rule .expression)],
      .seq [key "__refvalue", round (.seq [.rule .expression, sym ",", .rule .type])],
      .seq [key "stackalloc", .choice [.seq [.rule .arrayType, .opt (.rule .initializer)],
        .seq [sym "[", sym "]", .rule .initializer]]]]),
    (.defaultExpression, .seq [key "default", .opt (round (.rule .type))]),
    (.typeOperand, .seq [anyKey ["sizeof", "typeof"], round (.rule .type)]),
    (.typeTest, .seq [.rule .expression, .choice [.seq [key "as", .rule .type],
      .seq [key "is", .choice [.rule .type, .rule .pattern]]]]),
    (.cast, .seq [sym "(", .rule .type, sym ")", .rule .expression]),
    (.switchExpression, .seq [.rule .expression, key "switch",
      braces (.seq [optCommas (.rule .switchArm), .opt (sym ",")])]),
    (.switchArm, .seq [.rule .pattern, .opt (.rule .whenClause), sym "=>", .rule .expression]),
    (.whenClause, .seq [key "when", .rule .expression]),
    (.withExpression, .seq [.rule .expression, key "with",
      braces (.seq [optCommas (.seq [.rule .identifier, sym "=", .rule .expression]), .opt (sym ",")])]),
    (.range, .seq [.opt (.rule .expression), sym "..", .opt (.rule .expression)]),
    (.collection, square (.seq [optCommas (.rule .argument), .opt (sym ",")])),
    (.lambda, .seq [.many (.rule .attributes), .many (anyKey ["static", "async"]), .opt (.rule .type),
      .choice [.rule .parameterList, .rule .identifier], sym "=>",
      .choice [.rule .block, .rule .expression]]),
    (.anonymousMethod, .seq [.many (anyKey ["static", "async"]), key "delegate", .opt (.rule .parameterList),
      .rule .block])]

/-- Rules for creation of objects and for arguments. Only what names a type is a statement as well. -/
def creations : RuleTable :=
  [(.creation, .seq [key "new", .rule .type, .opt (.rule .argumentList), .opt (.rule .initializer)]),
    (.untypedCreation, .seq [key "new", .choice [
      .seq [.rule .argumentList, .opt (.rule .initializer)],
      .seq [sym "[", .many (sym ","), sym "]", .rule .initializer],
      braces (.seq [optCommas (.rule .anonymousMember), .opt (sym ",")])]]),
    (.anonymousMember, .choice [.seq [.rule .identifier, sym "=", .rule .expression], .rule .expression]),
    (.initializer, braces (.seq [optCommas (.rule .expression), .opt (sym ",")])),
    (.argumentList, round (optCommas (.rule .argument))),
    (.bracketedArguments, square (.seq [commas (.rule .argument), .opt (sym ",")])),
    (.argument, .seq [.opt (.seq [.rule .identifier, sym ":"]), .opt (anyKey ["ref", "out", "in"]),
      .choice [.rule .expression, .rule .declarationExpression]]),
    (.declarationExpression, .seq [.rule .type, .choice [.rule .identifier, .rule .tuplePattern]])]

/-- Rules for queries. -/
def queries : RuleTable :=
  [(.query, .seq [.rule .fromClause, .rule .queryBody]),
    (.fromClause, .seq [key "from", .opt (.rule .type), .rule .identifier, key "in", .rule .expression]),
    (.queryBody, .seq [.many (.rule .queryClause),
      .choice [.seq [key "select", .rule .expression],
        .seq [key "group", .rule .expression, key "by", .rule .expression]],
      .opt (.seq [key "into", .rule .identifier, .rule .queryBody])]),
    (.queryClause, .choice [.rule .fromClause,
      .seq [key "let", .rule .identifier, sym "=", .rule .expression],
      .seq [key "where", .rule .expression],
      .seq [key "orderby", commas (.rule .ordering)],
      .seq [key "join", .opt (.rule .type), .rule .identifier, key "in", .rule .expression, key "on",
        .rule .expression, key "equals", .rule .expression, .opt (.seq [key "into", .rule .identifier])]]),
    (.ordering, .seq [.rule .expression, .opt (anyKey ["ascending", "descending"])])]

/-- Rules for patterns. -/
def patterns : RuleTable :=
  [(.pattern, .choice [.rule .constantPattern, key "_", .rule .type,
      .seq [.rule .type, .rule .designation], .seq [key "var", .rule .designation],
      .seq [.opt (.rule .type), .choice [.seq [.rule .positionalPart, .opt (.rule .propertyPart)],
        .rule .propertyPart], .opt (.rule .designation)],
      .seq [key "not", .rule .pattern], round (.rule .pattern),
      .seq [anySym ["<", "<=", ">", ">="], .rule .expression],
      .seq [.rule .pattern, anyKey ["and", "or"], .rule .pattern],
      .seq [square (.opt (.seq [commas (.rule .listPatternItem), .opt (sym ",")])),
        .opt (.rule .designation)]]),
    (.constantPattern, .choice [.rule .binaryExpression, .rule .defaultExpression, .rule .interpolatedString,
      .rule .parenthesized, .rule .suffixedExpression, .rule .prefixedExpression, .rule .tupleExpression,
      .rule .typeOperand, .rule .memberAccess, .rule .invocation, .rule .cast, .rule .simpleName,
      .rule .literal]),
    (.designation, .choice [key "_", .rule .identifier, round (optCommas (.rule .designation))]),
    (.listPatternItem, .choice [.rule .pattern, .seq [sym "..", .opt (.rule .pattern)]]),
    (.positionalPart, round (optCommas (.rule .subpattern))),
    (.propertyPart, braces (.seq [optCommas (.rule .subpattern), .opt (sym ",")])),
    (.subpattern, .seq [.opt (.seq [.rule .expression, sym ":"]), .rule .pattern])]

end Grammar

end Source

end Excerpt
