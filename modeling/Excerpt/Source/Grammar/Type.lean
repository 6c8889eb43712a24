import Excerpt.Source.Form

/-! # Names and types

The rules for names, which can be dotted and have type arguments, and for types. -/

namespace Excerpt

namespace Source

namespace Grammar

open Form

/-- The keywords that are names as well. -/
def contextualNames : List String :=
  ["alias", "ascending", "by", "descending", "equals", "file", "from", "global", "group", "into", "join", "let",
    "notnull", "on", "orderby", "scoped", "select", "unmanaged", "var", "when", "where", "yield"]

/-- Rules for names. -/
def names : RuleTable :=
  [(.identifier, .choice [.terminal .name, anyKey contextualNames]),
    (.simpleName, .choice [.rule .identifier, .rule .genericName]),
    (.genericName, .seq [.rule .identifier, .rule .typeArgumentList]),
    (.qualifiedName, .choice [.rule .simpleName, .seq [.rule .identifier, sym "::", .rule .simpleName],
      .seq [.rule .qualifiedName, sym ".", .rule .simpleName]]),
    (.typeArgumentList, .seq [sym "<", .choice [.many (sym ","), commas (.rule .type)], sym ">"]),
    (.namespaceName, .rule .qualifiedName),
    (.declaredName, .rule .identifier)]

/-- Rules for types. -/
def types : RuleTable :=
  [(.type, .choice [.rule .arrayType, .rule .qualifiedName, .rule .nullableType, .rule .pointerType,
      .rule .functionPointerType, .terminal .builtInType, .rule .tupleType, .rule .refType, .rule .scopedType]),
    (.arrayType, .seq [.rule .arrayBase, .rule .arrayRank]),
    (.arrayBase, .choice [.rule .arrayType, .rule .qualifiedName, .rule .nullableType, .rule .pointerType,
      .rule .functionPointerType, .terminal .builtInType, .rule .tupleType]),
    (.arrayRank, square (.seq [.opt (.rule .expression), .many (.seq [sym ",", .opt (.rule .expression)])])),
    (.nullableType, .seq [.choice [.rule .arrayType, .rule .qualifiedName, .terminal .builtInType,
      .rule .tupleType], sym "?"]),
    (.pointerType, .seq [.rule .pointerBase, sym "*"]),
    (.pointerBase, .choice [.rule .qualifiedName, .rule .nullableType, .rule .pointerType,
      .rule .functionPointerType, .terminal .builtInType, .rule .tupleType]),
    (.functionPointerType, .seq [key "delegate", sym "*", .opt (.rule .callingConvention), sym "<",
      commas (.seq [.opt (anyKey ["ref", "out", "in"]), .opt (key "readonly"), .rule .type]), sym ">"]),
    (.callingConvention, .choice [key "managed",
      .seq [key "unmanaged", .opt (square (commas (.rule .identifier)))]]),
    (.refType, .seq [key "ref", .opt (key "readonly"), .rule .type]),
    (.scopedType, .seq [key "scoped", .choice [.rule .qualifiedName, .rule .refType]]),
    (.tupleType, round (.seq [.rule .tupleElement, some (.seq [sym ",", .rule .tupleElement])])),
    (.tupleElement, .seq [.rule .type, .opt (.rule .identifier)])]

end Grammar

end Source

end Excerpt
