import PluginAudit.Console.Handler.Expr
import PluginAudit.Console.Handler.Text

namespace PluginAudit.Handler

inductive Rule where
  | whole | field
  | expressions | expression | plainExpression | yieldExpression | starExpressions | starExpression
  | starNamedExpressions | starNamedExpression | naming | namedExpression
  | disjunction | conjunction | inversion | comparison | comparePair
  | bitOr | bitXor | bitAnd | shift | sum | term | factor | power | awaitPrimary | primary | atom
  | group | tuple | tupleItems | members | entries | pairs | pair | keyed | texts
  | lambda | lambdaParameters | parameters | plainSlash | defaultSlash | starParameters | doubleStarParameter
  | plainParameter | defaultParameter | anyParameter | parameter | default
  | clauses | clause | generator | setSource | mapSource
  | arguments | items | named | starred | namedOrStarred | namedOrPairs
  | targets | targetItems | target | plainTarget | targetAtom | targetPrimary | goesOn
  | wrongArguments | wrongNamed | wrongStatement | wrongExpression | wrongNaming | wrongSource | wrongMapSource
  | wrongParameters | defaultsBefore | wrongStar | wrongDoubleStar | wrongDefault | wrongTarget | wrongGroup | wrongPairs
  | wrongPair
deriving DecidableEq, Hashable

inductive Item where
  | word (text : String)
  | name
  -- A name that is a keyword in some places.
  | softWord
  | number
  | text
  | newLine
  | stop
  | rule (rule : Rule)
  | maybe (item : Item)
  | many (item : Item)
  | several (item : Item)
  -- Several items with a mark between them.
  | separated (mark : String) (item : Item)
  -- The first of some choices that fits; it stands for its last item.
  | either (choices : List (List Item))
  | ahead (item : Item)
  | unlike (item : Item)
  -- From here on no other alternative of the rule counts.
  | commit

inductive Argument where
  | item
  | named
  | pairs
deriving DecidableEq

inductive Tree where
  | nothing
  | token (token : Token)
  | expr (expr : Expr)
  | entry (key : Option Expr) (value : Expr)
  | argument (argument : Argument)
  | list (trees : List Tree)

/-- Where an alternative has fitted: the line of its first token, and the brackets that are open behind its last one. -/
structure Spot where
  line : Nat
  level : Nat
  read : FieldReader

inductive Outcome where
  | made (tree : Tree)
  | fails
  | fault (trouble : TextTrouble)

structure Alternative where
  items : List Item
  make : Spot → List Tree → Outcome

/-- A rule is a choice, or it starts with one and goes on with others, each of which takes what stands before it. -/
inductive Definition where
  | choice (alternatives : List Alternative)
  | chain (first : List Alternative) (steps : List Alternative)

namespace Tree

mutual

def exprs : Tree → List Expr
  | expr e => [e]
  | list trees => listExprs trees
  | _ => []

def listExprs : List Tree → List Expr
  | [] => []
  | tree :: rest => tree.exprs ++ listExprs rest

end

mutual

def arguments : Tree → List Argument
  | expr _ => [.item]
  | argument kind => [kind]
  | list trees => listArguments trees
  | _ => []

def listArguments : List Tree → List Argument
  | [] => []
  | tree :: rest => tree.arguments ++ listArguments rest

end

mutual

def entries : Tree → List (Option Expr × Expr)
  | entry key value => [(key, value)]
  | list trees => listEntries trees
  | _ => []

def listEntries : List Tree → List (Option Expr × Expr)
  | [] => []
  | tree :: rest => tree.entries ++ listEntries rest

end

mutual

def tokens : Tree → List Token
  | token t => [t]
  | list trees => listTokens trees
  | _ => []

def listTokens : List Tree → List Token
  | [] => []
  | tree :: rest => tree.tokens ++ listTokens rest

end

end Tree

namespace TokenKind

def label : TokenKind → String
  | name word => word
  | keyword word => word
  | mark word => word
  | _ => ""

end TokenKind

def withFirst (make : Spot → Expr → List Expr → Outcome) (spot : Spot) (parts : List Tree) : Outcome :=
  match Tree.listExprs parts with
  | first :: rest => make spot first rest
  | [] => .fails

def asFirst (_ : Spot) (parts : List Tree) : Outcome :=
  .made (parts.head?.getD .nothing)

def asList (_ : Spot) (parts : List Tree) : Outcome :=
  .made (.list parts)

def asExpr : Spot → List Tree → Outcome :=
  withFirst fun _ first _ => .made (.expr first)

def asForm (form : Form) (spot : Spot) (_ : List Tree) : Outcome :=
  .made (.expr (.other spot.line form))

def asConstant (value : Constant) (spot : Spot) (_ : List Tree) : Outcome :=
  .made (.expr (.constant spot.line value))

def asTuple (spot : Spot) (parts : List Tree) : Outcome :=
  .made (.expr (.tuple spot.line (Tree.listExprs parts)))

def asStarred : Spot → List Tree → Outcome :=
  withFirst fun spot first _ => .made (.expr (.starred spot.line first))

def asSigned : Spot → List Tree → Outcome :=
  withFirst fun spot first _ => .made (.expr (.signed spot.line first))

def asSum : Spot → List Tree → Outcome :=
  withFirst fun spot first rest => .made (.expr (.sum spot.line first (rest.head?.getD first)))

def firstLabel (parts : List Tree) : String :=
  ((Tree.listTokens parts).head?.map (·.kind.label)).getD ""

def asComparison (spot : Spot) (parts : List Tree) : Outcome :=
  withFirst (fun spot first _ => .made (.expr (.comparison spot.line first (firstLabel parts)))) spot parts

def asName (spot : Spot) (parts : List Tree) : Outcome :=
  .made (.expr (.name spot.line (firstLabel parts)))

def asNumber (spot : Spot) (parts : List Tree) : Outcome :=
  match Tree.listTokens parts with
  | ⟨.number text, _, _⟩ :: _ =>
    match Constant.ofNumber text with
    | .ok value => .made (.expr (.constant spot.line value))
    | .error trouble => .fault (.own trouble)
  | _ => .fails

def quotedOf (token : Token) : Option (Nat × Quoted) :=
  match token.kind with
  | .text raw => some (token.line, .ofToken raw)
  | _ => none

def asTexts (spot : Spot) (parts : List Tree) : Outcome :=
  let texts := (Tree.listTokens parts).filterMap quotedOf
  match checkAll spot.read none texts with
  | .error trouble => .fault trouble
  | .ok () =>
    if texts.any (·.2.hasFields) then asForm .fields spot []
    else asConstant (if texts.any (·.2.isBytes) then .bytes else .text) spot []

def asCall (spot : Spot) (parts : List Tree) : Outcome :=
  match parts with
  | .expr (.name _ "set") :: rest =>
    if (Tree.listArguments rest).isEmpty then .made (.expr (.emptySet spot.line)) else asForm .call spot parts
  | _ => asForm .call spot parts

def asMembers (spot : Spot) (parts : List Tree) : Outcome :=
  .made (.expr (.members spot.line (Tree.listExprs parts)))

def asEntries (spot : Spot) (parts : List Tree) : Outcome :=
  .made (.expr (.entries spot.line (Tree.listEntries parts)))

def asEntry : Spot → List Tree → Outcome :=
  withFirst fun _ key rest => .made (.entry (some key) (rest.head?.getD key))

def asTakenEntries : Spot → List Tree → Outcome :=
  withFirst fun _ value _ => .made (.entry none value)

def asArgument (argument : Argument) (_ : Spot) (_ : List Tree) : Outcome :=
  .made (.argument argument)

def asArguments (_ : Spot) (parts : List Tree) : Outcome :=
  .made (.list ((Tree.listArguments parts).map .argument))

def because (trouble : Trouble) (_ : Spot) (_ : List Tree) : Outcome :=
  .fault (.own trouble)

def becauseParameter (trouble : ParameterTrouble) : Spot → List Tree → Outcome :=
  because (.parameter trouble)

def becauseOf (trouble : String → Trouble) : Spot → List Tree → Outcome :=
  withFirst fun _ first _ => .fault (.own (trouble first.label))

def becauseKeyword (_ : Spot) (parts : List Tree) : Outcome :=
  .fault (.own (.assigned (firstLabel parts)))

def statementWords : List String :=
  ["print", "exec"]

def becauseStatement (_ : Spot) (parts : List Tree) : Outcome :=
  let word := firstLabel parts
  if statementWords.contains word then .fault (.own (.statement word)) else .fails

/-- Two expressions in a row lack a comma between brackets, if the first one is no word of a statement. -/
def becauseComma : Spot → List Tree → Outcome :=
  withFirst fun spot first _ =>
    match first with
    | .name _ word => if statementWords.contains word then .fails else missing spot
    | _ => missing spot
where
  missing (spot : Spot) : Outcome :=
    if spot.level = 0 then .fails else .fault (.own .missingComma)

def becauseSource (_ : Spot) (parts : List Tree) : Outcome :=
  if 1 < ((Tree.listArguments (parts.take 1)).filter (· = .item)).length then .fault (.own .bareSource) else .fails

def becauseBehind (_ : Spot) (parts : List Tree) : Outcome :=
  if (Tree.listArguments (parts.take 1)).contains .pairs then .fault (.own .itemBehindPairs)
  else .fault (.own .itemBehindNamed)

def becauseTarget : Spot → List Tree → Outcome :=
  withFirst fun _ first _ =>
    match first.notTarget? with
    | some part => .fault (.own (.assigned part.label))
    | none => .fails

instance : Coe String Item :=
  ⟨.word⟩

instance : Coe Rule Item :=
  ⟨.rule⟩

def commas (item : Item) : Item :=
  .separated "," item

def oneOf (words : List String) : Item :=
  .either (words.map fun word => [.word word])

def unnamed : Item :=
  .either [[Rule.naming], [Rule.expression, .unlike ":="]]

def leftward (operand : Rule) (words : List String) (make : Spot → List Tree → Outcome) : Definition :=
  .chain [⟨[operand], asFirst⟩] (words.map fun word => ⟨[.word word, operand], make⟩)

def wordBetween (operand : Rule) (word : String) : Definition :=
  .choice [
    ⟨[operand, .several (.either [[.word word, operand]])], asForm .operation⟩,
    ⟨[operand], asFirst⟩]

def tupleOf (item : Rule) : Definition :=
  .choice [
    ⟨[item, .several (.either [[",", item]]), .maybe ","], asTuple⟩,
    ⟨[item, ","], asTuple⟩,
    ⟨[item], asFirst⟩]

def clauseItems : List Item :=
  ["for", Rule.targets, "in", .commit, Rule.disjunction, .many (.either [["if", Rule.disjunction]])]

def slashed : Item :=
  .either [[Rule.plainSlash], [Rule.defaultSlash]]

namespace Rule

def isKept : Rule → Bool
  | expression | starExpression | disjunction | conjunction | inversion | bitOr | bitXor | bitAnd | shift | sum | term
  | factor | awaitPrimary | primary | texts | arguments | target | plainTarget | targetPrimary | wrongNaming => true
  | _ => false

def isWrong : Rule → Bool
  | wrongArguments | wrongNamed | wrongStatement | wrongExpression | wrongNaming | wrongSource | wrongMapSource
  | wrongParameters | wrongStar | wrongDoubleStar | wrongDefault | wrongTarget | wrongGroup | wrongPairs | wrongPair => true
  | _ => false

def operators : Rule → Option Definition
  | disjunction => some (wordBetween conjunction "or")
  | conjunction => some (wordBetween inversion "and")
  | inversion => some (.choice [
    ⟨["not", inversion], asForm .operation⟩,
    ⟨[comparison], asFirst⟩])
  | comparison => some (.choice [
    ⟨[bitOr, .several comparePair], asComparison⟩,
    ⟨[bitOr], asFirst⟩])
  | comparePair => some (.choice [
    ⟨["==", bitOr], asFirst⟩,
    ⟨["!=", bitOr], asFirst⟩,
    ⟨["<=", bitOr], asFirst⟩,
    ⟨["<", bitOr], asFirst⟩,
    ⟨[">=", bitOr], asFirst⟩,
    ⟨[">", bitOr], asFirst⟩,
    ⟨["not", "in", bitOr], asFirst⟩,
    ⟨["in", bitOr], asFirst⟩,
    ⟨["is", "not", bitOr], asFirst⟩,
    ⟨["is", bitOr], asFirst⟩])
  | bitOr => some (leftward bitXor ["|"] (asForm .operation))
  | bitXor => some (leftward bitAnd ["^"] (asForm .operation))
  | bitAnd => some (leftward shift ["&"] (asForm .operation))
  | shift => some (leftward sum ["<<", ">>"] (asForm .operation))
  | sum => some (leftward term ["+", "-"] asSum)
  | term => some (leftward factor ["*", "/", "//", "%", "@"] (asForm .operation))
  | factor => some (.choice [
    ⟨["+", factor], asSigned⟩,
    ⟨["-", factor], asSigned⟩,
    ⟨["~", factor], asForm .operation⟩,
    ⟨[power], asFirst⟩])
  | power => some (.choice [
    ⟨[awaitPrimary, "**", factor], asForm .operation⟩,
    ⟨[awaitPrimary], asFirst⟩])
  | awaitPrimary => some (.choice [
    ⟨["await", primary], asForm .await⟩,
    ⟨[primary], asFirst⟩])
  | primary => some (.chain [⟨[atom], asFirst⟩] [
    ⟨[".", .name], asForm .member⟩,
    ⟨[generator], asForm .call⟩,
    ⟨["(", .maybe arguments, ")"], asCall⟩])
  | _ => none

def atoms : Rule → Option Definition
  | atom => some (.choice [
    ⟨[.name], asName⟩,
    ⟨["True"], asConstant .true⟩,
    ⟨["False"], asConstant .false⟩,
    ⟨["None"], asConstant .none⟩,
    ⟨[.ahead .text, texts], asFirst⟩,
    ⟨[.number], asNumber⟩,
    ⟨[.ahead "(", .either [[tuple], [group], [generator]]], asFirst⟩,
    ⟨[.ahead "\x7b", .either [[entries], [members], [mapSource], [setSource]]], asFirst⟩,
    ⟨["..."], asConstant .ellipsis⟩])
  | texts => some (.choice [⟨[.several .text], asTexts⟩])
  | group => some (.choice [
    ⟨["(", .either [[yieldExpression], [namedExpression]], ")"], asExpr⟩,
    ⟨[wrongGroup], asFirst⟩])
  | wrongGroup => some (.choice [
    ⟨["(", starred, ")"], because .starred⟩,
    ⟨["(", "**", expression, ")"], because .doubleStarred⟩])
  | tuple => some (.choice [⟨["(", .maybe tupleItems, ")"], asTuple⟩])
  | tupleItems => some (.choice [⟨[starNamedExpression, ",", .maybe starNamedExpressions], asList⟩])
  | members => some (.choice [⟨["\x7b", starNamedExpressions, "\x7d"], asMembers⟩])
  | entries => some (.choice [
    ⟨["\x7b", .maybe pairs, "\x7d"], asEntries⟩,
    ⟨["\x7b", wrongPairs, "\x7d"], asList⟩])
  | pairs => some (.choice [⟨[commas pair, .maybe ","], asFirst⟩])
  | pair => some (.choice [
    ⟨["**", bitOr], asTakenEntries⟩,
    ⟨[keyed], asFirst⟩])
  | keyed => some (.choice [⟨[expression, ":", expression], asEntry⟩])
  | wrongPairs => some (.choice [
    ⟨[commas pair, ",", wrongPair], asList⟩,
    ⟨[expression, ":", "*", bitOr], because .starredItem⟩,
    ⟨[expression, ":", .ahead (oneOf ["\x7d", ","])], because .missingItem⟩])
  | wrongPair => some (.choice [
    ⟨[expression, .unlike ":"], because .missingColon⟩,
    ⟨[expression, ":", "*", bitOr], because .starredItem⟩,
    ⟨[expression, ":", .ahead (oneOf ["\x7d", ","])], because .missingItem⟩])
  | _ => none

def sources : Rule → Option Definition
  | clauses => some (.choice [⟨[.several clause], asList⟩])
  | clause => some (.choice [
    ⟨"async" :: clauseItems, asList⟩,
    ⟨clauseItems, asList⟩,
    ⟨[wrongTarget], asFirst⟩])
  | wrongTarget => some (.choice [⟨[.maybe "async", "for", starExpressions], becauseTarget⟩])
  | generator => some (.choice [
    ⟨["(", unnamed, clauses, ")"], asForm .generator⟩,
    ⟨[wrongSource], asFirst⟩])
  | setSource => some (.choice [
    ⟨["\x7b", namedExpression, clauses, "\x7d"], asForm .setSource⟩,
    ⟨[wrongSource], asFirst⟩])
  | mapSource => some (.choice [
    ⟨["\x7b", keyed, clauses, "\x7d"], asForm .mapSource⟩,
    ⟨[wrongMapSource], asFirst⟩])
  | wrongSource => some (.choice [
    ⟨[oneOf ["(", "\x7b"], starred, clauses], because .starredSource⟩,
    ⟨["\x7b", starNamedExpression, ",", starNamedExpressions, clauses], because .bareTarget⟩,
    ⟨["\x7b", starNamedExpression, ",", clauses], because .bareTarget⟩])
  | wrongMapSource => some (.choice [
    ⟨["\x7b", "**", bitOr, clauses, "\x7d"], because .doubleStarredSource⟩])
  | targets => some (.choice [
    ⟨[target, .unlike ","], asFirst⟩,
    ⟨[target, .many (.either [[",", target]]), .maybe ","], asList⟩])
  | targetItems => some (.choice [
    ⟨[target, .several (.either [[",", target]]), .maybe ","], asList⟩,
    ⟨[target, ","], asList⟩])
  | target => some (.choice [
    ⟨["*", .unlike "*", target], asList⟩,
    ⟨[plainTarget], asFirst⟩])
  | plainTarget => some (.choice [
    ⟨[targetPrimary, ".", .name, .unlike goesOn], asList⟩,
    ⟨[targetAtom], asFirst⟩])
  | targetAtom => some (.choice [
    ⟨[.name], asFirst⟩,
    ⟨["(", plainTarget, ")"], asList⟩,
    ⟨["(", .maybe targetItems, ")"], asList⟩])
  | targetPrimary => some (.chain [⟨[atom, .ahead goesOn], asFirst⟩] [
    ⟨[".", .name, .ahead goesOn], asForm .member⟩,
    ⟨[generator, .ahead goesOn], asForm .call⟩,
    ⟨["(", .maybe arguments, ")", .ahead goesOn], asForm .call⟩])
  | goesOn => some (.choice [
    ⟨["("], asFirst⟩,
    ⟨["."], asFirst⟩])
  | _ => none

def callArguments : Rule → Option Definition
  | arguments => some (.choice [
    ⟨[items, .maybe ",", .ahead ")"], asFirst⟩,
    ⟨[wrongArguments], asFirst⟩])
  | items => some (.choice [
    ⟨[commas (.either [[starred], [unnamed, .unlike "="]]), .maybe (.either [[",", named]])], asArguments⟩,
    ⟨[named], asArguments⟩])
  | named => some (.choice [
    ⟨[commas namedOrStarred, ",", commas namedOrPairs], asList⟩,
    ⟨[commas namedOrStarred], asFirst⟩,
    ⟨[commas namedOrPairs], asFirst⟩])
  | starred => some (.choice [⟨["*", expression], asStarred⟩])
  | namedOrStarred => some (.choice [
    ⟨[wrongNamed], asFirst⟩,
    ⟨[.name, "=", expression], asArgument .named⟩,
    ⟨[starred], asArgument .item⟩])
  | namedOrPairs => some (.choice [
    ⟨[wrongNamed], asFirst⟩,
    ⟨[.name, "=", expression], asArgument .named⟩,
    ⟨["**", expression], asArgument .pairs⟩])
  | wrongArguments => some (.choice [
    ⟨[items, ",", "*"], because .itemsBehindPairs⟩,
    ⟨[expression, clauses, ",", .maybe (.either [[items], [expression, clauses]])], because .bareSource⟩,
    ⟨[.name, "=", expression, clauses], because .nameAssigned⟩,
    ⟨[items, clauses], becauseSource⟩,
    ⟨[items, ",", expression, clauses], because .bareSource⟩,
    ⟨[items, ",", items], becauseBehind⟩])
  | wrongNamed => some (.choice [
    ⟨[oneOf ["True", "False", "None"], "="], becauseKeyword⟩,
    ⟨[.name, "=", expression, clauses], because .nameAssigned⟩,
    ⟨[.unlike (.either [[.name, "="]]), expression, "="], because .argumentAssigned⟩])
  | _ => none

def functions : Rule → Option Definition
  | lambda => some (.choice [⟨["lambda", .maybe lambdaParameters, ":", expression], asForm .lambda⟩])
  | lambdaParameters => some (.choice [
    ⟨[wrongParameters], asFirst⟩,
    ⟨[parameters], asFirst⟩])
  | parameters => some (.choice [
    ⟨[plainSlash, .many plainParameter, .many defaultParameter, .maybe starParameters], asList⟩,
    ⟨[defaultSlash, .many defaultParameter, .maybe starParameters], asList⟩,
    ⟨[.several plainParameter, .many defaultParameter, .maybe starParameters], asList⟩,
    ⟨[.several defaultParameter, .maybe starParameters], asList⟩,
    ⟨[starParameters], asFirst⟩])
  | plainSlash => some (.choice [
    ⟨[.several plainParameter, "/", ","], asList⟩,
    ⟨[.several plainParameter, "/", .ahead ":"], asList⟩])
  | defaultSlash => some (.choice [
    ⟨[.many plainParameter, .several defaultParameter, "/", ","], asList⟩,
    ⟨[.many plainParameter, .several defaultParameter, "/", .ahead ":"], asList⟩])
  | starParameters => some (.choice [
    ⟨[wrongStar], asFirst⟩,
    ⟨["*", plainParameter, .many anyParameter, .maybe doubleStarParameter], asList⟩,
    ⟨["*", ",", .several anyParameter, .maybe doubleStarParameter], asList⟩,
    ⟨[doubleStarParameter], asFirst⟩])
  | doubleStarParameter => some (.choice [
    ⟨[wrongDoubleStar], asFirst⟩,
    ⟨["**", plainParameter], asList⟩])
  | plainParameter => some (.choice [
    ⟨[parameter, ","], asList⟩,
    ⟨[parameter, .ahead ":"], asList⟩])
  | defaultParameter => some (.choice [
    ⟨[parameter, default, ","], asList⟩,
    ⟨[parameter, default, .ahead ":"], asList⟩])
  | anyParameter => some (.choice [
    ⟨[parameter, .maybe default, ","], asList⟩,
    ⟨[parameter, .maybe default, .ahead ":"], asList⟩])
  | parameter => some (.choice [⟨[.name], asFirst⟩])
  | default => some (.choice [
    ⟨["=", expression], asList⟩,
    ⟨[wrongDefault], asFirst⟩])
  | wrongDefault => some (.choice [⟨["=", .ahead (oneOf [")", ","])], becauseParameter .defaultMissing⟩])
  | wrongParameters => some (.choice [
    ⟨[.many plainParameter, defaultsBefore, plainParameter], becauseParameter .order⟩,
    ⟨[.many plainParameter, "(", commas parameter, .maybe ",", ")"], becauseParameter .parenthesized⟩,
    ⟨["/", ","], becauseParameter .noneBeforeSlash⟩,
    ⟨[slashed, .many anyParameter, "/"], becauseParameter .manySlashes⟩,
    ⟨[.maybe slashed, .many anyParameter, "*", .either [[","], [plainParameter]], .many anyParameter, "/"],
      becauseParameter .slashBehindStar⟩,
    ⟨[.several anyParameter, "/", "*"], becauseParameter .commaBeforeStar⟩])
  | defaultsBefore => some (.choice [
    ⟨[defaultSlash], asFirst⟩,
    ⟨[.several defaultParameter], asFirst⟩])
  | wrongStar => some (.choice [
    ⟨["*", .either [[":"], [",", oneOf [":", "**"]]]], becauseParameter .noneBehindStar⟩,
    ⟨["*", parameter, "="], becauseParameter .starDefault⟩,
    ⟨["*", .either [[plainParameter], [","]], .many anyParameter, "*", .either [[plainParameter], [","]]],
      becauseParameter .manyStars⟩])
  | wrongDoubleStar => some (.choice [
    ⟨["**", parameter, "="], becauseParameter .doubleStarDefault⟩,
    ⟨["**", parameter, ",", parameter], becauseParameter .behindDoubleStar⟩,
    ⟨["**", parameter, ",", oneOf ["*", "**", "/"]], becauseParameter .behindDoubleStar⟩])
  | _ => none

def wholes : Rule → Option Definition
  | whole => some (.choice [⟨[expressions, .many .newLine, .stop], asFirst⟩])
  | field => some (.choice [⟨[starExpressions], asFirst⟩])
  | expressions => some (tupleOf expression)
  | expression => some (.choice [
    ⟨[wrongExpression], asFirst⟩,
    ⟨[wrongStatement], asFirst⟩,
    ⟨[disjunction, "if", disjunction, "else", expression], asForm .condition⟩,
    ⟨[disjunction], asFirst⟩,
    ⟨[lambda], asFirst⟩])
  | plainExpression => some (.choice [
    ⟨[disjunction, "if", disjunction, "else", expression], asForm .condition⟩,
    ⟨[disjunction], asFirst⟩,
    ⟨[lambda], asFirst⟩])
  | yieldExpression => some (.choice [
    ⟨["yield", "from", expression], asForm .yield⟩,
    ⟨["yield", .maybe starExpressions], asForm .yield⟩])
  | starExpressions => some (tupleOf starExpression)
  | starExpression => some (.choice [
    ⟨["*", bitOr], asStarred⟩,
    ⟨[expression], asFirst⟩])
  | starNamedExpressions => some (.choice [⟨[commas starNamedExpression, .maybe ","], asFirst⟩])
  | starNamedExpression => some (.choice [
    ⟨["*", bitOr], asStarred⟩,
    ⟨[namedExpression], asFirst⟩])
  | naming => some (.choice [⟨[.name, ":=", .commit, expression], asForm .naming⟩])
  | namedExpression => some (.choice [
    ⟨[naming], asFirst⟩,
    ⟨[wrongNaming], asFirst⟩,
    ⟨[expression, .unlike ":="], asFirst⟩])
  | wrongStatement => some (.choice [⟨[.name, .unlike "(", starExpressions], becauseStatement⟩])
  | wrongExpression => some (.choice [
    ⟨[.unlike (.either [[.name, .text], [.softWord]]), disjunction, plainExpression], becauseComma⟩,
    ⟨[disjunction, "if", disjunction, .unlike (oneOf ["else", ":"])], because .missingElse⟩])
  | wrongNaming => some (.choice [
    ⟨[expression, ":=", expression], becauseOf .namedWith⟩,
    ⟨[.name, "=", bitOr, .unlike (oneOf ["=", ":="])], because .nameAssigned⟩,
    ⟨[.unlike (.either [[tuple], [generator], ["True"], ["None"], ["False"]]), bitOr, "=", bitOr,
      .unlike (oneOf ["=", ":="])], becauseOf .assignedHere⟩])
  | _ => none

def definition (rule : Rule) : Definition :=
  (rule.operators <|> rule.atoms <|> rule.wholes <|> rule.sources <|> rule.callArguments <|> rule.functions).getD
    (.choice [])

end Rule

end PluginAudit.Handler
