import DocExamples.Script.Grammar.Rule

/-!
The grammar of scripts.

It covers more than can be run, as the place where a script goes wrong depends on how much of it can
be read.  The patterns of cases are read as expressions.
-/

namespace DocExamples.Script.Grammar

open Piece TokenClass

/-- A piece that may be missing or be any one of some marks. -/
def oneOf (marks : List String) : Piece := .either (marks.map fun s => [.text s])

/-- Marks that stand in front of an operand and behind it. -/
def infixes (operand : Rule) (marks : List String) : Alternative :=
  fits [operand, many [oneOf marks, operand]]

/-- The items of a call in front of its named ones. -/
def plainArguments : Piece :=
  separated ","
    [either
      [[Rule.starredExpression],
       [either [[Rule.assignmentExpression], [Rule.expression, notAhead [":="]]], notAhead ["="]]]]

/-- A loop over items. -/
def overItems (items : List Piece) : List Piece :=
  "for" :: Rule.starTargets :: "in" :: commit :: items

/-- The items of a head that opens contexts, as they are read to explain what is wrong. -/
def contexts (item : Rule) : Piece := separated "," [item, optional ["as", Rule.starTarget]]

/-- The alternatives of a rule, in the order in which they are tried. -/
def alternatives : Rule → List Alternative
  -- scripts and statements
  | .file => [fits [optional [Rule.statements], finish]]
  | .statements => [fits [atLeastOne [Rule.statement]]]
  | .statement => [fits [Rule.compoundStatement], fits [Rule.simpleStatements]]
  | .simpleStatements =>
    [fits [Rule.simpleStatement, notAhead [";"], newline],
     fits [separated ";" [Rule.simpleStatement], optional [";"], newline]]
  | .simpleStatement =>
    [fits [Rule.assignment], fits [Rule.starExpressions], fits [Rule.returnStatement],
     fits [Rule.importStatement], fits [Rule.raiseStatement], fits ["pass"],
     fits [Rule.deleteStatement], fits [Rule.yieldStatement], fits [Rule.assertStatement],
     fits ["break"], fits ["continue"], fits [Rule.globalStatement],
     fits [Rule.nonlocalStatement]]
  | .compoundStatement =>
    [fits [ahead [oneOf ["def", "@", "async"]], Rule.functionDefinition],
     fits [ahead ["if"], Rule.ifStatement],
     fits [ahead [oneOf ["class", "@"]], Rule.classDefinition],
     fits [ahead [oneOf ["with", "async"]], Rule.withStatement],
     fits [ahead [oneOf ["for", "async"]], Rule.forStatement],
     fits [ahead ["try"], Rule.tryStatement],
     fits [ahead ["while"], Rule.whileStatement],
     fits [Rule.matchStatement]]
  | .assignment =>
    [fits [name, ":", Rule.expression, optional ["=", Rule.annotatedValue]],
     fits
      [either [["(", Rule.singleTarget, ")"], [Rule.partTarget]], ":", Rule.expression,
       optional ["=", Rule.annotatedValue]],
     fits [atLeastOne [Rule.starTargets, "="], Rule.annotatedValue, notAhead ["="]],
     fits [Rule.singleTarget, Rule.augmentation, commit, Rule.annotatedValue],
     explaining .badAssignment]
  | .annotatedValue => [fits [Rule.yieldExpression], fits [Rule.starExpressions]]
  | .augmentation =>
    [fits
      [oneOf
        ["+=", "-=", "*=", "@=", "/=", "%=", "&=", "|=", "^=", "<<=", ">>=", "**=", "//="]]]
  | .returnStatement => [fits ["return", optional [Rule.starExpressions]]]
  | .raiseStatement =>
    [fits ["raise", Rule.expression, optional ["from", Rule.expression]], fits ["raise"]]
  | .globalStatement => [fits ["global", separated "," [name]]]
  | .nonlocalStatement => [fits ["nonlocal", separated "," [name]]]
  | .deleteStatement =>
    [fits ["del", Rule.deleteTargets, ahead [either [[";"], [newline]]]], explaining .badDelete]
  | .yieldStatement => [fits [Rule.yieldExpression]]
  | .assertStatement => [fits ["assert", Rule.expression, optional [",", Rule.expression]]]
  | .importStatement => [fits [Rule.importName], fits [Rule.importFrom]]
  | .importName => [fits ["import", Rule.dottedNames]]
  | .importFrom =>
    [fits ["from", many [oneOf [".", "..."]], Rule.dottedName, "import", Rule.importTargets],
     fits ["from", atLeastOne [oneOf [".", "..."]], "import", Rule.importTargets]]
  | .importTargets =>
    [fits ["(", Rule.importNames, optional [","], ")"], fits [Rule.importNames, notAhead [","]],
     fits ["*"], explaining .badImportTargets]
  | .importNames => [fits [separated "," [Rule.importedName]]]
  | .importedName => [fits [name, optional ["as", name]]]
  | .dottedNames => [fits [separated "," [Rule.dottedAlias]]]
  | .dottedAlias => [fits [Rule.dottedName, optional ["as", name]]]
  | .dottedName => [fits [name, many [".", name]]]
  -- blocks
  | .block =>
    [fits [newline, indent, Rule.statements, dedent], fits [Rule.simpleStatements],
     explaining .badBlock]
  | .decorators => [fits [atLeastOne ["@", Rule.namedExpression, newline]]]
  | .classDefinition => [fits [Rule.decorators, Rule.classBody], fits [Rule.classBody]]
  | .classBody =>
    [explaining .badClass,
     fits ["class", name, optional ["(", optional [Rule.arguments], ")"], ":", Rule.block]]
  | .functionDefinition => [fits [Rule.decorators, Rule.functionBody], fits [Rule.functionBody]]
  | .functionBody =>
    let body : List Piece :=
      ["def", name, demand "(", optional [Rule.parameters], ")", optional ["->", Rule.expression],
       demand ":", Rule.block]
    [explaining .badFunction, fits body, fits ("async" :: body)]
  | .parameters => [explaining .badParameters, fits [Rule.parameterList]]
  | .parameterList =>
    [fits
      [Rule.slashPlain, many [Rule.plainParameter], many [Rule.defaultParameter],
       optional [Rule.starParameters]],
     fits [Rule.slashDefault, many [Rule.defaultParameter], optional [Rule.starParameters]],
     fits
      [atLeastOne [Rule.plainParameter], many [Rule.defaultParameter],
       optional [Rule.starParameters]],
     fits [atLeastOne [Rule.defaultParameter], optional [Rule.starParameters]],
     fits [Rule.starParameters]]
  | .slashPlain => [fits [atLeastOne [Rule.plainParameter], "/", Rule.parameterEnd]]
  | .slashDefault =>
    [fits
      [many [Rule.plainParameter], atLeastOne [Rule.defaultParameter], "/", Rule.parameterEnd]]
  | .starParameters =>
    [explaining .badStarParameters,
     fits
      ["*", Rule.plainParameter, many [Rule.anyParameter], optional [Rule.keywordParameters]],
     fits ["*", Rule.starAnnotated, many [Rule.anyParameter], optional [Rule.keywordParameters]],
     fits ["*", ",", atLeastOne [Rule.anyParameter], optional [Rule.keywordParameters]],
     fits [Rule.keywordParameters]]
  | .keywordParameters => [explaining .badKeywordParameters, fits ["**", Rule.plainParameter]]
  | .plainParameter => [fits [Rule.parameter, Rule.parameterEnd]]
  | .starAnnotated => [fits [name, ":", Rule.starExpression, Rule.parameterEnd]]
  | .defaultParameter => [fits [Rule.parameter, Rule.default, Rule.parameterEnd]]
  | .anyParameter => [fits [Rule.parameter, optional [Rule.default], Rule.parameterEnd]]
  | .parameterEnd => [fits [","], fits [ahead [")"]]]
  | .parameter => [fits [name, optional [Rule.parameterType]]]
  | .parameterType => [fits [":", Rule.expression]]
  | .default => [fits ["=", Rule.expression], explaining .badDefault]
  | .ifStatement =>
    [explaining .badIf, fits ["if", Rule.namedExpression, ":", Rule.block, Rule.elifStatement],
     fits ["if", Rule.namedExpression, ":", Rule.block, optional [Rule.elseBlock]]]
  | .elifStatement =>
    [explaining .badElif,
     fits ["elif", Rule.namedExpression, ":", Rule.block, Rule.elifStatement],
     fits ["elif", Rule.namedExpression, ":", Rule.block, optional [Rule.elseBlock]]]
  | .elseBlock => [explaining .badElse, fits ["else", demand ":", Rule.block]]
  | .whileStatement =>
    [explaining .badWhile,
     fits ["while", Rule.namedExpression, ":", Rule.block, optional [Rule.elseBlock]]]
  | .forStatement =>
    let loop := overItems [Rule.starExpressions, ":", Rule.block, optional [Rule.elseBlock]]
    [explaining .badFor, fits loop, fits ("async" :: loop), explaining .badForTarget]
  | .withStatement =>
    let enclosed : List Piece :=
      ["with", "(", separated "," [Rule.withItem], optional [","], ")", ":", Rule.block]
    let bare : List Piece := ["with", separated "," [Rule.withItem], ":", Rule.block]
    [explaining .badWithBlock, fits enclosed, fits bare, fits ("async" :: enclosed),
     fits ("async" :: bare), explaining .badWith]
  | .withItem =>
    [fits [Rule.expression, "as", Rule.starTarget, ahead [oneOf [",", ")", ":"]]],
     explaining .badWithItem, fits [Rule.expression]]
  | .tryStatement =>
    [explaining .badTry, fits ["try", demand ":", Rule.block, Rule.finallyBlock],
     fits
      ["try", demand ":", Rule.block, atLeastOne [Rule.exceptBlock], optional [Rule.elseBlock],
       optional [Rule.finallyBlock]],
     fits
      ["try", demand ":", Rule.block, atLeastOne [Rule.exceptStarBlock],
       optional [Rule.elseBlock], optional [Rule.finallyBlock]]]
  | .exceptBlock =>
    [explaining .badExceptBlock,
     fits ["except", Rule.expression, optional ["as", name], ":", Rule.block],
     fits ["except", ":", Rule.block], explaining .badExcept]
  | .exceptStarBlock =>
    [explaining .badExceptStarBlock,
     fits ["except", "*", Rule.expression, optional ["as", name], ":", Rule.block],
     explaining .badExcept]
  | .finallyBlock => [explaining .badFinally, fits ["finally", demand ":", Rule.block]]
  | .matchStatement =>
    [fits
      ["match", Rule.matchSubject, ":", newline, indent, atLeastOne [Rule.caseBlock], dedent],
     explaining .badMatch]
  | .matchSubject =>
    [fits [Rule.starNamedExpression, ",", optional [Rule.starNamedExpressions]],
     fits [Rule.namedExpression]]
  | .caseBlock =>
    [explaining .badCase,
     fits ["case", Rule.casePattern, optional ["if", Rule.namedExpression], ":", Rule.block]]
  | .casePattern => [fits [Rule.starNamedExpressions, optional ["as", name]]]
  -- expressions
  | .expressions =>
    [fits [Rule.expression, atLeastOne [",", Rule.expression], optional [","]],
     fits [Rule.expression, ","], fits [Rule.expression]]
  | .expression =>
    [explaining .badExpression, explaining .badLegacyExpression,
     fits [Rule.disjunction, "if", Rule.disjunction, "else", Rule.expression],
     fits [Rule.disjunction], fits [Rule.lambda]]
  | .plainExpression =>
    [fits [Rule.disjunction, "if", Rule.disjunction, "else", Rule.expression],
     fits [Rule.disjunction], fits [Rule.lambda]]
  | .yieldExpression =>
    [fits ["yield", "from", Rule.expression], fits ["yield", optional [Rule.starExpressions]]]
  | .starExpressions =>
    [fits [Rule.starExpression, atLeastOne [",", Rule.starExpression], optional [","]],
     fits [Rule.starExpression, ","], fits [Rule.starExpression]]
  | .starExpression => [fits ["*", Rule.bitOr], fits [Rule.expression]]
  | .starNamedExpressions => [fits [separated "," [Rule.starNamedExpression], optional [","]]]
  | .starNamedExpression => [fits ["*", Rule.bitOr], fits [Rule.namedExpression]]
  | .assignmentExpression => [fits [name, ":=", commit, Rule.expression]]
  | .namedExpression =>
    [fits [Rule.assignmentExpression], explaining .badNamedExpression,
     fits [Rule.expression, notAhead [":="]]]
  | .disjunction =>
    [fits [Rule.conjunction, atLeastOne ["or", Rule.conjunction]], fits [Rule.conjunction]]
  | .conjunction =>
    [fits [Rule.inversion, atLeastOne ["and", Rule.inversion]], fits [Rule.inversion]]
  | .inversion => [fits ["not", Rule.inversion], fits [Rule.comparison]]
  | .comparison => [fits [Rule.bitOr, atLeastOne [Rule.comparisonTail]], fits [Rule.bitOr]]
  | .comparisonTail =>
    [fits [oneOf ["==", "!=", "<=", "<", ">=", ">"], Rule.bitOr], fits ["not", "in", Rule.bitOr],
     fits ["in", Rule.bitOr], fits ["is", "not", Rule.bitOr], fits ["is", Rule.bitOr]]
  | .bitOr => [infixes .bitXor ["|"]]
  | .bitXor => [infixes .bitAnd ["^"]]
  | .bitAnd => [infixes .shift ["&"]]
  | .shift => [infixes .sum ["<<", ">>"]]
  | .sum => [infixes .term ["+", "-"]]
  | .term => [infixes .factor ["*", "/", "//", "%", "@"]]
  | .factor => [fits [oneOf ["+", "-", "~"], Rule.factor], fits [Rule.power]]
  | .power => [fits [Rule.awaited, "**", Rule.factor], fits [Rule.awaited]]
  | .awaited => [fits ["await", Rule.primary], fits [Rule.primary]]
  | .primary =>
    [fits
      [Rule.atom,
       many
        [either
          [[".", name], [Rule.generator], ["(", optional [Rule.arguments], ")"],
           ["[", Rule.slices, "]"]]]]]
  | .slices =>
    [fits [Rule.slice, notAhead [","]],
     fits [separated "," [either [[Rule.slice], [Rule.starredExpression]]], optional [","]]]
  | .slice =>
    [fits
      [optional [Rule.expression], ":", optional [Rule.expression],
       optional [":", optional [Rule.expression]]],
     fits [Rule.namedExpression]]
  | .atom =>
    [fits [name], fits [oneOf ["True", "False", "None"]], fits [Rule.strings], fits [number],
     fits
      [ahead ["("], either [[Rule.tupleDisplay], [Rule.parenthesized], [Rule.generator]]],
     fits [ahead ["["], either [[Rule.listDisplay], [Rule.listComprehension]]],
     fits
      [ahead ["\x7b"],
       either
        [[Rule.dictDisplay], [Rule.setDisplay], [Rule.dictComprehension],
         [Rule.setComprehension]]],
     fits ["..."]]
  | .parenthesized =>
    [fits ["(", either [[Rule.yieldExpression], [Rule.namedExpression]], ")"],
     explaining .badGroup]
  | .lambda => [fits ["lambda", optional [Rule.lambdaParameters], ":", Rule.expression]]
  | .lambdaParameters => [explaining .badLambdaParameters, fits [Rule.lambdaParameterList]]
  | .lambdaParameterList =>
    [fits
      [Rule.lambdaSlashPlain, many [Rule.lambdaPlain], many [Rule.lambdaDefault],
       optional [Rule.lambdaStar]],
     fits [Rule.lambdaSlashDefault, many [Rule.lambdaDefault], optional [Rule.lambdaStar]],
     fits
      [atLeastOne [Rule.lambdaPlain], many [Rule.lambdaDefault], optional [Rule.lambdaStar]],
     fits [atLeastOne [Rule.lambdaDefault], optional [Rule.lambdaStar]],
     fits [Rule.lambdaStar]]
  | .lambdaSlashPlain => [fits [atLeastOne [Rule.lambdaPlain], "/", Rule.lambdaEnd]]
  | .lambdaSlashDefault =>
    [fits [many [Rule.lambdaPlain], atLeastOne [Rule.lambdaDefault], "/", Rule.lambdaEnd]]
  | .lambdaStar =>
    [explaining .badLambdaStar,
     fits ["*", Rule.lambdaPlain, many [Rule.lambdaAny], optional [Rule.lambdaKeywords]],
     fits ["*", ",", atLeastOne [Rule.lambdaAny], optional [Rule.lambdaKeywords]],
     fits [Rule.lambdaKeywords]]
  | .lambdaKeywords => [explaining .badLambdaKeywords, fits ["**", Rule.lambdaPlain]]
  | .lambdaPlain => [fits [name, Rule.lambdaEnd]]
  | .lambdaDefault => [fits [name, Rule.default, Rule.lambdaEnd]]
  | .lambdaAny => [fits [name, optional [Rule.default], Rule.lambdaEnd]]
  | .lambdaEnd => [fits [","], fits [ahead [":"]]]
  | .strings =>
    [wrongHere
      [either [[atLeastOne [bytes], plainString], [atLeastOne [plainString], bytes]],
       many [string]]
      "cannot mix bytes and nonbytes literals",
     fits [atLeastOne [string]]]
  | .listDisplay => [fits ["[", optional [Rule.starNamedExpressions], "]"]]
  | .tupleDisplay =>
    [fits
      ["(", optional [Rule.starNamedExpression, ",", optional [Rule.starNamedExpressions]],
       ")"]]
  | .setDisplay => [fits ["\x7b", Rule.starNamedExpressions, "\x7d"]]
  | .dictDisplay =>
    [fits ["\x7b", optional [Rule.dictItems], "\x7d"], fits ["\x7b", Rule.badDictItems, "\x7d"]]
  | .dictItems => [fits [separated "," [Rule.dictItem], optional [","]]]
  | .dictItem => [fits ["**", Rule.bitOr], fits [Rule.keyValue]]
  | .keyValue => [fits [Rule.expression, ":", Rule.expression]]
  | .comprehensionClauses => [fits [atLeastOne [Rule.comprehensionClause]]]
  | .comprehensionClause =>
    let clause := overItems [Rule.disjunction, many ["if", Rule.disjunction]]
    [fits ("async" :: clause), fits clause, explaining .badForTarget]
  | .listComprehension =>
    [fits ["[", Rule.namedExpression, Rule.comprehensionClauses, "]"],
     explaining .badComprehension]
  | .setComprehension =>
    [fits ["\x7b", Rule.namedExpression, Rule.comprehensionClauses, "\x7d"],
     explaining .badComprehension]
  | .generator =>
    [fits
      ["(", either [[Rule.assignmentExpression], [Rule.expression, notAhead [":="]]],
       Rule.comprehensionClauses, ")"],
     explaining .badComprehension]
  | .dictComprehension =>
    [fits ["\x7b", Rule.keyValue, Rule.comprehensionClauses, "\x7d"],
     explaining .badDictComprehension]
  | .arguments =>
    [fits [Rule.argumentList, optional [","], ahead [")"]], explaining .badArguments]
  | .argumentList =>
    [fits [plainArguments, optional [",", Rule.keywordArguments]], fits [Rule.keywordArguments]]
  | .keywordArguments =>
    [fits
      [separated "," [Rule.keywordOrStarred], ",", separated "," [Rule.keywordOrDoubleStarred]],
     fits [separated "," [Rule.keywordOrStarred]],
     fits [separated "," [Rule.keywordOrDoubleStarred]]]
  | .starredExpression =>
    [fits ["*", Rule.expression], wrongHere ["*"] "Invalid star expression"]
  | .keywordOrStarred =>
    [explaining .badKeyword, fits [name, "=", Rule.expression], fits [Rule.starredExpression]]
  | .keywordOrDoubleStarred =>
    [explaining .badKeyword, fits [name, "=", Rule.expression], fits ["**", Rule.expression]]
  -- targets
  | .starTargets =>
    [fits [Rule.starTarget, notAhead [","]],
     fits [Rule.starTarget, many [",", Rule.starTarget], optional [","]]]
  | .starTargetList => [fits [separated "," [Rule.starTarget], optional [","]]]
  | .starTargetTuple =>
    [fits [Rule.starTarget, atLeastOne [",", Rule.starTarget], optional [","]],
     fits [Rule.starTarget, ","]]
  | .starTarget => [fits ["*", notAhead ["*"], Rule.starTarget], fits [Rule.plainTarget]]
  | .plainTarget => [fits [Rule.partTarget], fits [Rule.starAtom]]
  | .starAtom =>
    [fits [name], fits ["(", Rule.plainTarget, ")"],
     fits ["(", optional [Rule.starTargetTuple], ")"],
     fits ["[", optional [Rule.starTargetList], "]"]]
  | .singleTarget =>
    [fits [Rule.partTarget], fits [name], fits ["(", Rule.singleTarget, ")"]]
  | .partTarget =>
    [fits [Rule.targetPrimary, ".", name, notAhead [Rule.targetLookahead]],
     fits [Rule.targetPrimary, "[", Rule.slices, "]", notAhead [Rule.targetLookahead]]]
  | .targetPrimary =>
    [fits
      [Rule.atom, ahead [Rule.targetLookahead],
       many
        [either
          [[".", name], ["[", Rule.slices, "]"], [Rule.generator],
           ["(", optional [Rule.arguments], ")"]],
         ahead [Rule.targetLookahead]]]]
  | .targetLookahead => [fits [oneOf ["(", "[", "."]]]
  | .deleteTargets => [fits [separated "," [Rule.deleteTarget], optional [","]]]
  | .deleteTarget => [fits [Rule.partTarget], fits [Rule.deleteAtom]]
  | .deleteAtom =>
    [fits [name], fits ["(", Rule.deleteTarget, ")"],
     fits ["(", optional [Rule.deleteTargets], ")"],
     fits ["[", optional [Rule.deleteTargets], "]"]]
  -- what is wrong
  | .badArguments =>
    [wrong
      [either [[plainArguments, ",", Rule.keywordArguments], [Rule.keywordArguments]], ",",
       separated "," [Rule.starredExpression, notAhead ["="]]] 1
      "iterable argument unpacking follows keyword argument unpacking",
     wrong
      [Rule.expression, Rule.comprehensionClauses, ",",
       optional
        [either [[Rule.argumentList], [Rule.expression, Rule.comprehensionClauses]]]] 0
      "Generator expression must be parenthesized",
     wrong [name, "=", Rule.expression, Rule.comprehensionClauses] 0
      "invalid syntax. Maybe you meant '==' or ':=' instead of '='?",
     wrongIf .severalArguments [Rule.argumentList, Rule.comprehensionClauses]
      "Generator expression must be parenthesized",
     wrong [Rule.argumentList, ",", Rule.expression, Rule.comprehensionClauses] 2
      "Generator expression must be parenthesized",
     wrongHere [Rule.argumentList, ",", Rule.argumentList] .argumentOrder]
  | .badKeyword =>
    [wrong ["True", "="] 0 "cannot assign to True", wrong ["False", "="] 0 "cannot assign to False",
     wrong ["None", "="] 0 "cannot assign to None",
     wrong [name, "=", Rule.expression, Rule.comprehensionClauses] 0
      "invalid syntax. Maybe you meant '==' or ':=' instead of '='?",
     wrong [notAhead [name, "="], Rule.expression, "="] 1
      "expression cannot contain assignment, perhaps you meant \"==\"?"]
  | .badExpression =>
    [wrongIf .insideBrackets
      [notAhead [either [[name, string], [softKeyword]]], Rule.disjunction, Rule.plainExpression]
      "invalid syntax. Perhaps you forgot a comma?",
     wrong [Rule.disjunction, "if", Rule.disjunction, notAhead [oneOf ["else", ":"]]] 0
      "expected 'else' after 'if' expression"]
  | .badLegacyExpression =>
    [wrong ["print", notAhead ["("], Rule.starExpressions] 0
      "Missing parentheses in call to 'print'. Did you mean print(...)?",
     wrong ["exec", notAhead ["("], Rule.starExpressions] 0
      "Missing parentheses in call to 'exec'. Did you mean exec(...)?",
     wrongIf .never [name, notAhead ["("], Rule.starExpressions] ""]
  | .badNamedExpression =>
    [wrong [Rule.expression, ":=", Rule.expression] 0
      (.naming "cannot use assignment expressions with " ""),
     wrong [name, "=", Rule.bitOr, notAhead [oneOf ["=", ":="]]] 0
      "invalid syntax. Maybe you meant '==' or ':=' instead of '='?",
     wrong
      [notAhead
        [either
          [[Rule.listDisplay], [Rule.tupleDisplay], [Rule.generator],
           [oneOf ["True", "None", "False"]]]],
       Rule.bitOr, "=", Rule.bitOr, notAhead [oneOf ["=", ":="]]] 1
      (.naming "cannot assign to " " here. Maybe you meant '==' instead of '='?")]
  | .badAssignment =>
    [wrong [Rule.badAnnotationTarget, ":", Rule.expression] 0
      (.naming "only single target (not " ") can be annotated"),
     wrong
      [Rule.starNamedExpression, ",", many [Rule.starNamedExpressions], ":", Rule.expression] 0
      "only single target (not tuple) can be annotated",
     wrong [Rule.expression, ":", Rule.expression] 0 "illegal target for annotation",
     wrongIf (.badTarget 1 .assignment) [many [Rule.starTargets, "="], Rule.starExpressions, "="]
      (.naming "cannot assign to " ""),
     wrong [many [Rule.starTargets, "="], Rule.yieldExpression, "="] 1
      "assignment to yield expression not possible",
     wrong [Rule.starExpressions, Rule.augmentation, Rule.annotatedValue] 0
      (.naming "'" "' is an illegal expression for augmented assignment")]
  | .badAnnotationTarget =>
    [fits [Rule.listDisplay], fits [Rule.tupleDisplay],
     fits ["(", Rule.badAnnotationTarget, ")"]]
  | .badDelete =>
    [wrongIf (.badTarget 1 .deletion) ["del", Rule.starExpressions]
      (.naming "cannot delete " "")]
  | .badBlock =>
    [{ pieces := [newline, notAhead [indent]]
       complaint := some { wording := "expected an indented block", aboutDepth := true } }]
  | .badComprehension =>
    [wrong [oneOf ["[", "(", "\x7b"], Rule.starredExpression, Rule.comprehensionClauses] 1
      "iterable unpacking cannot be used in comprehension",
     wrong
      [oneOf ["[", "\x7b"], Rule.starNamedExpression, ",", Rule.starNamedExpressions,
       Rule.comprehensionClauses] 1
      "did you forget parentheses around the comprehension target?",
     wrong
      [oneOf ["[", "\x7b"], Rule.starNamedExpression, ",", Rule.comprehensionClauses] 1
      "did you forget parentheses around the comprehension target?"]
  | .badDictComprehension =>
    [wrong ["\x7b", "**", Rule.bitOr, Rule.comprehensionClauses, "\x7d"] 1
      "dict unpacking cannot be used in dict comprehension"]
  | .badParameters =>
    [wrong [many [Rule.plainParameter], Rule.badParametersHelper, Rule.plainParameter] 2
      "non-default argument follows default argument",
     wrong
      [many [Rule.plainParameter], "(", atLeastOne [Rule.plainParameter], optional [","], ")"] 1
      "Function parameters cannot be parenthesized",
     wrong ["/", ","] 0 "at least one argument must precede /",
     wrong
      [either [[Rule.slashPlain], [Rule.slashDefault]], many [Rule.anyParameter], "/"] 2
      "/ may appear only once",
     wrong
      [optional [either [[Rule.slashPlain], [Rule.slashDefault]]], many [Rule.anyParameter], "*",
       either [[","], [Rule.plainParameter]], many [Rule.anyParameter], "/"] 5
      "/ must be ahead of *",
     wrong [atLeastOne [Rule.anyParameter], "/", "*"] 2 "expected comma between / and *"]
  | .badParametersHelper => [fits [Rule.slashDefault], fits [atLeastOne [Rule.defaultParameter]]]
  | .badDefault => [wrong ["=", ahead [oneOf [")", ","]]] 0 "expected default value expression"]
  | .badStarParameters =>
    [wrong ["*", either [[")"], [",", oneOf [")", "**"]]]] 0 "named arguments must follow bare *",
     wrong ["*", Rule.parameter, "="] 2 "var-positional argument cannot have default value",
     wrong
      ["*", either [[Rule.plainParameter], [","]], many [Rule.anyParameter], "*",
       either [[Rule.plainParameter], [","]]] 3
      "* argument may appear only once"]
  | .badKeywordParameters =>
    [wrong ["**", Rule.parameter, "="] 2 "var-keyword argument cannot have default value",
     wrong ["**", Rule.parameter, ",", Rule.parameter] 3
      "arguments cannot follow var-keyword argument",
     wrong ["**", Rule.parameter, ",", oneOf ["*", "**", "/"]] 3
      "arguments cannot follow var-keyword argument"]
  | .badLambdaParameters =>
    [wrong [many [Rule.lambdaPlain], Rule.badLambdaHelper, Rule.lambdaPlain] 2
      "non-default argument follows default argument",
     wrong [many [Rule.lambdaPlain], "(", separated "," [name], optional [","], ")"] 1
      "Lambda expression parameters cannot be parenthesized",
     wrong ["/", ","] 0 "at least one argument must precede /",
     wrong
      [either [[Rule.lambdaSlashPlain], [Rule.lambdaSlashDefault]], many [Rule.lambdaAny], "/"] 2
      "/ may appear only once",
     wrong
      [optional [either [[Rule.lambdaSlashPlain], [Rule.lambdaSlashDefault]]],
       many [Rule.lambdaAny], "*", either [[","], [Rule.lambdaPlain]], many [Rule.lambdaAny],
       "/"] 5
      "/ must be ahead of *",
     wrong [atLeastOne [Rule.lambdaAny], "/", "*"] 2 "expected comma between / and *"]
  | .badLambdaHelper => [fits [Rule.lambdaSlashDefault], fits [atLeastOne [Rule.lambdaDefault]]]
  | .badLambdaStar =>
    [wrongHere ["*", either [[":"], [",", oneOf [":", "**"]]]] "named arguments must follow bare *",
     wrong ["*", name, "="] 2 "var-positional argument cannot have default value",
     wrong
      ["*", either [[Rule.lambdaPlain], [","]], many [Rule.lambdaAny], "*",
       either [[Rule.lambdaPlain], [","]]] 3
      "* argument may appear only once"]
  | .badLambdaKeywords =>
    [wrong ["**", name, "="] 2 "var-keyword argument cannot have default value",
     wrong ["**", name, ",", name] 3 "arguments cannot follow var-keyword argument",
     wrong ["**", name, ",", oneOf ["*", "**", "/"]] 3
      "arguments cannot follow var-keyword argument"]
  | .badWithItem =>
    [wrongIf (.badTarget 2 .assignment)
      [Rule.expression, "as", Rule.expression, ahead [oneOf [",", ")", ":"]]]
      (.naming "cannot assign to " "")]
  | .badForTarget =>
    [wrongIf (.badTarget 2 .loop) [optional ["async"], "for", Rule.starExpressions]
      (.naming "cannot assign to " "")]
  | .badGroup =>
    [wrong ["(", Rule.starredExpression, ")"] 1 "cannot use starred expression here",
     wrong ["(", "**", Rule.expression, ")"] 1 "cannot use double starred expression here"]
  | .badImportTargets =>
    [wrongHere [Rule.importNames, ",", newline]
      "trailing comma not allowed without surrounding parentheses"]
  | .badWith =>
    [colonMissing [optional ["async"], "with", contexts .expression],
     colonMissing
      [optional ["async"], "with", "(", contexts .expressions, optional [","], ")"]]
  | .badWithBlock =>
    [blockMissing [optional ["async"], "with", contexts .expression] "'with' statement",
     blockMissing
      [optional ["async"], "with", "(", contexts .expressions, optional [","], ")"]
      "'with' statement"]
  | .badTry =>
    [blockMissing ["try"] "'try' statement",
     wrongHere ["try", ":", Rule.block, notAhead [oneOf ["except", "finally"]]]
      "expected 'except' or 'finally' block",
     wrongHere
      ["try", ":", many [Rule.block],
       either
        [[atLeastOne [Rule.exceptBlock], Rule.exceptStarBlock],
         [atLeastOne [Rule.exceptStarBlock], Rule.exceptBlock]],
       many [Rule.block]]
      "cannot have both 'except' and 'except*' on the same 'try'"]
  | .badExcept =>
    [wrong
      ["except", optional ["*"], Rule.expression, ",", Rule.expressions, optional ["as", name],
       ":"] 2
      "multiple exception types must be parenthesized",
     colonMissing ["except", optional ["*"], Rule.expression, optional ["as", name]],
     colonMissing ["except"],
     wrongHere ["except", "*", either [[newline], [":"]]] "expected one or more exception types"]
  | .badFinally => [blockMissing ["finally"] "'finally' statement"]
  | .badExceptBlock =>
    [blockMissing ["except", Rule.expression, optional ["as", name]] "'except' statement",
     blockMissing ["except"] "'except' statement"]
  | .badExceptStarBlock =>
    [blockMissing ["except", "*", Rule.expression, optional ["as", name]] "'except*' statement"]
  | .badMatch =>
    [colonMissing ["match", Rule.matchSubject],
     blockMissing ["match", Rule.matchSubject] "'match' statement"]
  | .badCase =>
    let head : List Piece := ["case", Rule.casePattern, optional ["if", Rule.namedExpression]]
    [colonMissing head, blockMissing head "'case' statement"]
  | .badIf =>
    [colonMissing ["if", Rule.namedExpression],
     blockMissing ["if", Rule.namedExpression] "'if' statement"]
  | .badElif =>
    [colonMissing ["elif", Rule.namedExpression],
     blockMissing ["elif", Rule.namedExpression] "'elif' statement"]
  | .badElse => [blockMissing ["else"] "'else' statement"]
  | .badWhile =>
    [colonMissing ["while", Rule.namedExpression],
     blockMissing ["while", Rule.namedExpression] "'while' statement"]
  | .badFor =>
    let head : List Piece :=
      [optional ["async"], "for", Rule.starTargets, "in", Rule.starExpressions]
    [colonMissing head, blockMissing head "'for' statement"]
  | .badFunction =>
    [blockMissing
      [optional ["async"], "def", name, "(", optional [Rule.parameters], ")",
       optional ["->", Rule.expression]]
      "function definition"]
  | .badClass =>
    let head : List Piece := ["class", name, optional ["(", optional [Rule.arguments], ")"]]
    [colonMissing head, blockMissing head "class definition"]
  | .badDictItems =>
    [fits [separated "," [Rule.dictItem], ",", Rule.badKeyValue],
     wrong [Rule.expression, ":", "*", Rule.bitOr] 2
      "cannot use a starred expression in a dictionary value",
     wrong [Rule.expression, ":", ahead [oneOf ["\x7d", ","]]] 1
      "expression expected after dictionary key and ':'"]
  | .badKeyValue =>
    [wrong [Rule.expression, notAhead [":"]] 0 "':' expected after dictionary key",
     wrong [Rule.expression, ":", "*", Rule.bitOr] 2
      "cannot use a starred expression in a dictionary value",
     wrong [Rule.expression, ":", ahead [oneOf ["\x7d", ","]]] 1
      "expression expected after dictionary key and ':'"]

end DocExamples.Script.Grammar
