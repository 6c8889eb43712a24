import Excerpt.Source.Form

/-! # Statements

The rules for statements. -/

namespace Excerpt

namespace Source

namespace Grammar

open Form

/-- Rules for statements. -/
def statements : RuleTable :=
  [(.statement, .choice [.rule .block, .rule .localDeclaration, .rule .localFunction, .rule .expressionStatement,
      .rule .simpleStatement, .rule .compoundStatement, .rule .switchStatement, .rule .tryStatement,
      .rule .usingStatement, .rule .topLevelRegion]),
    (.block, braces (.many (.rule .statement))),
    (.localDeclaration, .seq [.opt (key "await"), .opt (key "using"), .many (.rule .modifier),
      .rule .variableDeclaration, sym ";"]),
    (.localFunction, .seq [.many (.rule .attributes), .many (.rule .modifier), .rule .type, .rule .identifier,
      .opt (.rule .typeParameterList), .rule .parameterList, .many (.rule .constraintClause),
      .rule .functionBody]),
    (.expressionStatement, .seq [.rule .statementExpression, sym ";"]),
    (.simpleStatement, .choice [sym ";", .seq [anyKey ["break", "continue"], sym ";"],
      .seq [anyKey ["return", "throw"], .opt (.rule .expression), sym ";"],
      .seq [key "yield", .choice [.seq [key "return", .rule .expression], key "break"], sym ";"],
      .seq [key "goto", .choice [.rule .identifier, .seq [key "case", .rule .expression], key "default"],
        sym ";"]]),
    (.compoundStatement, .choice [
      .seq [anyKey ["checked", "unchecked", "unsafe"], .rule .block],
      .seq [key "do", .rule .statement, key "while", round (.rule .expression), sym ";"],
      .seq [anyKey ["while", "lock"], round (.rule .expression), .rule .statement],
      .seq [key "fixed", round (.rule .variableDeclaration), .rule .statement],
      .seq [key "for", .rule .forHead, .rule .statement],
      .seq [.rule .foreachHead, .rule .statement],
      .seq [key "if", round (.rule .expression), .rule .statement, .opt (.seq [key "else", .rule .statement])],
      .seq [.rule .identifier, sym ":", .rule .statement]]),
    (.forHead, round (.seq [.opt (.choice [.rule .variableDeclaration, commas (.rule .expression)]), sym ";",
      .opt (.rule .expression), sym ";", optCommas (.rule .expression)])),
    (.foreachHead, .seq [.opt (key "await"), key "foreach", round (.seq [
      .choice [.seq [.rule .type, .choice [.rule .identifier, .rule .tuplePattern]], .rule .expression],
      key "in", .rule .expression])]),
    (.switchStatement, .seq [key "switch", .choice [round (.rule .expression), .rule .tupleExpression],
      braces (.many (.rule .switchSection))]),
    (.switchSection, .seq [some (.rule .switchLabel), .many (.rule .statement)]),
    (.switchLabel, .choice [
      .seq [key "case", .choice [.rule .expression, .seq [.rule .pattern, .opt (.rule .whenClause)]], sym ":"],
      .seq [key "default", sym ":"]]),
    (.tryStatement, .seq [key "try", .rule .block, .many (.rule .catchClause),
      .opt (.seq [key "finally", .rule .block])]),
    (.catchClause, .seq [key "catch", .many (.choice [round (.seq [.rule .type, .opt (.rule .identifier)]),
      .seq [key "when", round (.rule .expression)]]), .rule .block]),
    (.usingStatement, .seq [.opt (key "await"), key "using",
      round (.choice [.rule .variableDeclaration, .rule .expression]), .rule .statement])]

end Grammar

end Source

end Excerpt
