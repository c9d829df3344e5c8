import GridGauge.Literal.Reader
import GridGauge.Literal.Texts

/-!
# The grammar of expressions

An expression is read by rules, the cases of a rule one after the other
(`cases?`). If it is none, it is read again with rules that look for common
flaws in places where an expression ends too early or goes on too long; what
they find says more than that the expression does not fit.
-/

namespace GridGauge.Literal

namespace Grammar

open Reader

/-- The sign of a comparison, and whether it asks for membership. -/
def comparisonSign : Reader Bool :=
  (do sign "=="; return false) <|> (do sign "!="; return false) <|> (do sign "<="; return false)
    <|> (do sign "<"; return false) <|> (do sign ">="; return false)
    <|> (do sign ">"; return false) <|> (do word "not"; word "in"; return false)
    <|> (do word "in"; return true) <|> (do word "is"; word "not"; return false)
    <|> (do word "is"; return false)

/-- One of several signs. -/
def oneOf : List Text → Reader Text
  | [] => absent
  | t :: ts => (do sign t; return t) <|> oneOf ts

/-- A constant with a name. -/
def constant : Reader Text := token fun
  | .word t => if (["True", "False", "None"] : List Text).contains t then some t else none
  | _ => none

/-- A number. -/
def number : Reader Node := do
  let n ← token fun
    | .number n => some n
    | _ => none
  match n with
  | .integer value digits =>
    if digitLimit < digits && value != 0 then flawed (.tooManyDigits digits)
    else return .number n
  | _ => return .number n

/-- A text in its parts. -/
def text : Reader (Text × Text) := token fun
  | .text letters _ content => some (letters, content)
  | _ => none

/-- The names that are words in some places. -/
def softWords : List Text := ["_", "case", "match"]

/-- A name with a text behind it, or a name that can become a word in some places. -/
def softStart : Reader Unit :=
  (do let _ ← name; let _ ← text) <|>
    (token fun
      | .name t => if softWords.any (Text.startsWith · t) then some () else none
      | _ => none)

/-- The names of statements of old. -/
def oldStatement? : Node → Option Text
  | .name t => if t == "print" || t == "exec" then some t else none
  | _ => none

/-- The comma that may stand behind a list. -/
def lastComma : Reader Bool := do return (← optional (sign ",")).isSome

/-- One item, or a tuple of several; a comma makes a tuple of one. -/
def tupled (item : Reader Node) : Reader Node := do
  let first ← item
  let more ← many do sign ","; item
  if more.isEmpty then
    if ← lastComma then return .tuple [first] else return first
  else
    let _ ← lastComma
    return .tuple (first :: more)

variable (self : Rule → Reader Node)

/-- A rule whose operands are read by another, with signs between them. -/
def chain (operand : Rule) (signs : List Text) : Reader Node := do
  goesOn (fun x => do
    let t ← oneOf signs
    let y ← self operand
    return if t == "+" || t == "-" then .sum x y else .other .binary) (← self operand)

/-- A condition with both cases, a disjunction, or a function. -/
def choice : Reader Node :=
  (do
    let _ ← self .disjunction
    word "if"
    let _ ← self .disjunction
    word "else"
    let _ ← self .expression
    return .other .conditional)
  <|> self .disjunction <|> self .function

/-- An expression right behind another, or a condition with one case. -/
def strayExpression : Reader Node :=
  (do
    notAhead softStart
    let x ← self .disjunction
    let _ ← self .quietExpression
    if (oldStatement? x).isSome || (← isOutside) then settled else flawed .forgottenComma)
  <|> (do
    let _ ← self .disjunction
    word "if"
    let _ ← self .disjunction
    notAhead ((word "else") <|> (sign ":"))
    flawed .missingElse)

/-- A statement of old. -/
def oldStatement : Reader Node := do
  let t ← name
  notAhead (sign "(")
  let _ ← self .starredExpressions
  match oldStatement? (.name t) with
  | some t => flawed (.missingParentheses t)
  | none => settled

/-- An expression with a sign for naming behind it, or with an equals sign. -/
def misnamed : Reader Node :=
  (do
    let x ← self .expression
    sign ":="
    let _ ← self .expression
    flawed (.naming x.described))
  <|> (do
    let _ ← name
    sign "="
    let _ ← self .bitOr
    notAhead ((sign "=") <|> (sign ":="))
    flawed .assignment)
  <|> (do
    notAhead (self .tuple <|> self .generator <|> (do let t ← constant; return .constant t))
    let x ← self .bitOr
    sign "="
    let _ ← self .bitOr
    notAhead ((sign "=") <|> (sign ":="))
    flawed (.assignmentTo x.described))

/-- A star, or two, in round brackets. -/
def strayGroup : Reader Node :=
  (do
    sign "("
    let _ ← self .unpackedArgument
    sign ")"
    flawed (.starred false))
  <|> (do
    sign "("
    sign "**"
    let _ ← self .expression
    sign ")"
    flawed (.starred true))

/-- Several things, or one with a star, made for each of some others. -/
def strayEach : Reader Node :=
  (do
    let _ ← oneOf ["[", "(", "\x7b"]
    let _ ← self .unpackedArgument
    let _ ← self .clauses
    flawed (.starredEach false))
  <|> (do
    let _ ← oneOf ["[", "\x7b"]
    let _ ← self .item
    sign ","
    let _ ← self .items
    let _ ← self .clauses
    flawed .severalEach)
  <|> (do
    let _ ← oneOf ["[", "\x7b"]
    let _ ← self .item
    sign ","
    let _ ← self .clauses
    flawed .severalEach)

/-- A dictionary with two stars made for each of some others. -/
def strayEachOfDictionary : Reader Node := do
  sign "\x7b"
  sign "**"
  let _ ← self .bitOr
  let _ ← self .clauses
  sign "\x7d"
  flawed (.starredEach true)

/-- A key with a star behind its colon, or with nothing. -/
def strayValue : Reader Node :=
  (do
    let _ ← self .expression
    sign ":"
    sign "*"
    let _ ← self .bitOr
    flawed .starredValue)
  <|> (do
    let _ ← self .expression
    sign ":"
    ahead ((sign "\x7d") <|> (sign ","))
    flawed .missingValue)

/-- A key without a colon, or with no value behind it. -/
def strayEntry : Reader Node :=
  (do
    let _ ← self .expression
    notAhead (sign ":")
    flawed .missingColon)
  <|> strayValue self

/-- Entries with a flaw at the end. This flaw is always looked for. -/
def strayEntries : Reader Node :=
  (do
    let _ ← listed (self .entry)
    sign ","
    cases (strayEntry self))
  <|> strayValue self

/-- Something that cannot stand for each of some others. -/
def strayTarget : Reader Node := do
  let _ ← optional (word "async")
  word "for"
  let x ← self .starredExpressions
  match x.strayTarget? with
  | some y => flawed (.loopTarget y.described)
  | none => settled

/-- Arguments in an order that does not do, or with clauses where brackets are needed. -/
def strayArguments : Reader Node :=
  (do
    let _ ← self .argumentList
    sign ","
    sign "*"
    flawed .lateStar)
  <|> (do
    let _ ← self .expression
    let _ ← self .clauses
    sign ","
    let _ ← optional (self .argumentList <|> (do let _ ← self .expression; self .clauses))
    flawed .eachArgument)
  <|> (do
    let _ ← name
    sign "="
    let _ ← self .expression
    let _ ← self .clauses
    flawed .assignment)
  <|> (do
    let x ← self .argumentList
    let _ ← self .clauses
    match x with
    | .arguments count _ => if count ≤ 1 then settled else flawed .eachArgument
    | _ => settled)
  <|> (do
    let _ ← self .argumentList
    sign ","
    let _ ← self .expression
    let _ ← self .clauses
    flawed .eachArgument)
  <|> (do
    let x ← self .argumentList
    sign ","
    let _ ← self .argumentList
    match x with
    | .arguments _ unpacking => flawed (.lateArgument unpacking)
    | _ => settled)

/-- An argument whose name is none. -/
def strayArgument : Reader Node :=
  (do
    let t ← constant
    sign "="
    flawed (.constantArgument t))
  <|> (do
    let _ ← name
    sign "="
    let _ ← self .expression
    let _ ← self .clauses
    flawed .assignment)
  <|> (do
    notAhead do let _ ← name; sign "="
    let _ ← self .expression
    sign "="
    flawed .argumentAssignment)

/-- An argument with a name. -/
def namedArgument : Reader Node := do
  let _ ← name
  sign "="
  let _ ← self .expression
  return .arguments 0 false

/-! ### Parameters of functions -/

/-- A parameter is at the end of the list or has a comma behind it. -/
def parameterEnd : Reader Unit := (sign ",") <|> (ahead (sign ":"))

/-- The value that a parameter has unless it is given one. -/
def usualValue : Reader Unit :=
  (do sign "="; let _ ← self .expression) <|> whenLooking do
    sign "="
    ahead ((sign ")") <|> (sign ","))
    flawed .missingUsualValue

/-- A parameter without a usual value. -/
def plainParameter : Reader Unit := do let _ ← name; parameterEnd

/-- A parameter with a usual value. -/
def setParameter : Reader Unit := do let _ ← name; usualValue self; parameterEnd

/-- A parameter with or without a usual value. -/
def anyParameter : Reader Unit := do
  let _ ← name
  let _ ← optional (usualValue self)
  parameterEnd

/-- Parameters in front of a slash, none of them with a usual value, or the last ones. -/
def beforeSlash (isSet : Bool) : Reader Unit := do
  if isSet then
    let _ ← many plainParameter
    let _ ← many1 (setParameter self)
  else
    let _ ← many1 plainParameter
  sign "/"
  parameterEnd

/-- A parameter for all other arguments with a name. -/
def allNamed : Reader Unit :=
  whenLooking ((do
      sign "**"
      let _ ← name
      sign "="
      flawed (.setRest true))
    <|> (do
      sign "**"
      let _ ← name
      sign ","
      (do let _ ← name) <|> (do let _ ← oneOf ["*", "**", "/"])
      flawed .behindRest))
  <|> (do sign "**"; plainParameter)

/-- A star in the list of parameters that does not do. -/
def strayStar : Reader Unit :=
  (do
    sign "*"
    (sign ":") <|> (do sign ","; (sign ":") <|> (sign "**"))
    flawed .bareStar)
  <|> (do
    sign "*"
    let _ ← name
    sign "="
    flawed (.setRest false))
  <|> (do
    sign "*"
    plainParameter <|> (sign ",")
    let _ ← many (anyParameter self)
    sign "*"
    plainParameter <|> (sign ",")
    flawed .secondStar)

/-- The parameters from a star on. -/
def fromStar : Reader Unit :=
  whenLooking (strayStar self)
  <|> (do
    sign "*"
    plainParameter
    let _ ← many (anyParameter self)
    let _ ← optional (allNamed))
  <|> (do
    sign "*"
    sign ","
    let _ ← many1 (anyParameter self)
    let _ ← optional (allNamed))
  <|> allNamed

/-- Parameters in an order that does not do. -/
def strayParameters : Reader Unit :=
  (do
    let _ ← many plainParameter
    (beforeSlash self true) <|> (do let _ ← many1 (setParameter self))
    plainParameter
    flawed .lateParameter)
  <|> (do
    let _ ← many plainParameter
    sign "("
    let _ ← listed name
    let _ ← lastComma
    sign ")"
    flawed .bracketedParameters)
  <|> (do
    sign "/"
    sign ","
    flawed .earlySlash)
  <|> (do
    beforeSlash self false <|> beforeSlash self true
    let _ ← many (anyParameter self)
    sign "/"
    flawed .secondSlash)
  <|> (do
    let _ ← optional (beforeSlash self false <|> beforeSlash self true)
    let _ ← many (anyParameter self)
    sign "*"
    (sign ",") <|> plainParameter
    let _ ← many (anyParameter self)
    sign "/"
    flawed .lateSlash)
  <|> (do
    let _ ← many1 (anyParameter self)
    sign "/"
    sign "*"
    flawed .slashStar)

/-- The parameters of a function. -/
def parameters : Reader Unit :=
  whenLooking (strayParameters self)
  <|> (do
    beforeSlash self false
    let _ ← many plainParameter
    let _ ← many (setParameter self)
    let _ ← optional (fromStar self))
  <|> (do
    beforeSlash self true
    let _ ← many (setParameter self)
    let _ ← optional (fromStar self))
  <|> (do
    let _ ← many1 plainParameter
    let _ ← many (setParameter self)
    let _ ← optional (fromStar self))
  <|> (do
    let _ ← many1 (setParameter self)
    let _ ← optional (fromStar self))
  <|> fromStar self

/-! ### The rules -/

/-- The arguments of two lists together. -/
def joined : List Node → Node
  | [] => .arguments 0 false
  | .arguments n u :: more => match joined more with
    | .arguments m v => .arguments (n + m) (u || v)
    | other => other
  | _ :: more => joined more

/-- What is read by a rule, the other rules given. -/
def cases? : Rule → Reader Node
  | .whole => do
    let x ← self .expressions
    let _ ← many (token fun k => if k = .newline then some () else none)
    token fun k => if k = .finish then some x else none
  | .expressions => tupled (self .expression)
  | .expression =>
    whenLooking (strayExpression self) <|> whenLooking (oldStatement self) <|> choice self
  | .quietExpression => quietly (choice self)
  | .hand =>
    (do
      word "yield"
      word "from"
      let _ ← self .expression
      return .other .handAll)
    <|> (do
      word "yield"
      let _ ← optional (self .starredExpressions)
      return .other .hand)
  | .starredExpressions => tupled (self .starredExpression)
  | .starredExpression => (do sign "*"; return .starred (← self .bitOr)) <|> self .expression
  | .items => do
    let xs ← listed (self .item)
    let _ ← lastComma
    return .tuple xs
  | .item => (do sign "*"; return .starred (← self .bitOr)) <|> self .named
  | .naming => do
    let _ ← name
    sign ":="
    let _ ← self .expression <|> settled
    return .other .named
  | .named =>
    self .naming <|> whenLooking (self .misnamed)
      <|> (do
        let x ← self .expression
        notAhead (sign ":=")
        return x)
  | .misnamed => misnamed self
  | .disjunction => do
    goesOn (fun _ => do word "or"; let _ ← self .conjunction; return .other .andOr)
      (← self .conjunction)
  | .conjunction => do
    goesOn (fun _ => do word "and"; let _ ← self .inversion; return .other .andOr)
      (← self .inversion)
  | .inversion =>
    (do
      word "not"
      let _ ← self .inversion
      return .other .unary)
    <|> self .comparison
  | .comparison => do
    let x ← self .bitOr
    let compared ← many do
      let isIn ← comparisonSign
      let _ ← self .bitOr
      return isIn
    match compared with
    | [] => return x
    | isIn :: _ => return if isIn then .within x else .other .comparison
  | .bitOr => chain self .bitXor ["|"]
  | .bitXor => chain self .bitAnd ["^"]
  | .bitAnd => chain self .shift ["&"]
  | .shift => chain self .sum ["<<", ">>"]
  | .sum => chain self .term ["+", "-"]
  | .term => chain self .factor ["*", "/", "//", "%", "@"]
  | .factor =>
    (do
      let _ ← oneOf ["+", "-"]
      return .signed (← self .factor))
    <|> (do
      sign "~"
      let _ ← self .factor
      return .other .unary)
    <|> self .power
  | .power =>
    (do
      let _ ← self .awaited
      sign "**"
      let _ ← self .factor
      return .other .binary)
    <|> self .awaited
  | .awaited =>
    (do
      word "await"
      let _ ← self .primary
      return .other .wait)
    <|> self .primary
  | .primary => do
    goesOn (fun x =>
      (do
        sign "."
        let _ ← name
        return .other .attribute)
      <|> (do
        let _ ← self .generator
        return .other .call)
      <|> (do
        sign "("
        let arguments ← optional (self .arguments)
        sign ")"
        match x, arguments with
        | .name t, none => return if t == "set" then .emptySet else .other .call
        | _, _ => return .other .call)) (← self .atom)
  | .atom =>
    (do return .name (← name)) <|> (do return .constant (← constant))
    <|> (do ahead text; self .texts) <|> number
    <|> (do
      ahead (sign "(")
      self .tuple <|> self .group <|> self .generator)
    <|> (do
      ahead (sign "\x7b")
      self .dictionary <|> self .set <|> self .eachOfDictionary <|> self .eachOfSet)
    <|> (do sign "..."; return .ellipsis)
  | .texts => do
    let ts ← many1 text
    match joinedTexts none false ts with
    | .ok x => return x
    | .error f => flawed f
  | .tuple => do
    sign "("
    let items ← optional do
      let first ← self .item
      sign ","
      return (first, ← optional (self .items))
    sign ")"
    match items with
    | none => return .tuple []
    | some (first, some (.tuple more)) => return .tuple (first :: more)
    | some (first, _) => return .tuple [first]
  | .group =>
    (do
      sign "("
      let x ← self .hand <|> self .named
      sign ")"
      return x)
    <|> whenLooking (strayGroup self)
  | .generator =>
    (do
      sign "("
      let _ ← self .naming <|> (do let x ← self .expression; notAhead (sign ":="); return x)
      let _ ← self .clauses
      sign ")"
      return .other .each)
    <|> whenLooking (strayEach self)
  | .set => do
    sign "\x7b"
    let items ← self .items
    sign "\x7d"
    match items with
    | .tuple xs => return .set xs
    | other => return other
  | .eachOfSet =>
    (do
      sign "\x7b"
      let _ ← self .named
      let _ ← self .clauses
      sign "\x7d"
      return .other .eachOfSet)
    <|> whenLooking (strayEach self)
  | .dictionary =>
    (do
      sign "\x7b"
      let entries ← optional (self .entries)
      sign "\x7d"
      return entries.getD (.dictionary []))
    <|> (do
      sign "\x7b"
      let x ← cases (strayEntries self)
      sign "\x7d"
      return x)
  | .eachOfDictionary =>
    (do
      sign "\x7b"
      let _ ← self .pair
      let _ ← self .clauses
      sign "\x7d"
      return .other .eachOfDictionary)
    <|> whenLooking (strayEachOfDictionary self)
  | .entries => do
    let entries ← listed (self .entry)
    let _ ← lastComma
    return .dictionary entries
  | .entry =>
    (do
      sign "**"
      let x ← self .bitOr
      return .entry .noKey x)
    <|> self .pair
  | .pair => do
    let k ← self .expression
    sign ":"
    let v ← self .expression
    return .entry k v
  | .clauses => do
    let _ ← many1 (self .clause)
    return .other .each
  | .clause =>
    (do
      let _ ← optional (word "async")
      word "for"
      let _ ← self .targets
      word "in"
      (do
        let _ ← self .disjunction
        let _ ← many do word "if"; self .disjunction
        return .other .each) <|> settled)
    <|> whenLooking (strayTarget self)
  | .targets =>
    (do
      let x ← self .target
      notAhead (sign ",")
      return x)
    <|> (do
      let xs ← listed (self .target)
      let _ ← lastComma
      return .tuple xs)
  | .target =>
    (do
      sign "*"
      notAhead (sign "*")
      self .target)
    <|> self .plainTarget
  | .plainTarget =>
    (do
      let x ← self .primary
      notAhead (sign "(")
      match x with
      | .other .attribute => return x
      | _ => absent)
    <|> (do return .name (← name))
    <|> (do
      sign "("
      let x ← self .plainTarget
      sign ")"
      return x)
    <|> (do
      sign "("
      let _ ← optional do
        let xs ← listed (self .target)
        let comma ← lastComma
        if xs.length ≤ 1 && !comma then absent else return xs
      sign ")"
      return .tuple [])
  | .arguments =>
    (do
      let x ← self .argumentList
      let _ ← lastComma
      ahead (sign ")")
      return x)
    <|> whenLooking (strayArguments self)
  | .argumentList =>
    (do
      let xs ← listed (self .unpackedArgument <|> (do
        let _ ← self .naming <|> (do let x ← self .expression; notAhead (sign ":="); return x)
        notAhead (sign "=")
        return .arguments 1 false))
      let more ← optional do sign ","; self .namedArguments
      return joined (xs ++ more.toList))
    <|> self .namedArguments
  | .namedArguments =>
    (do
      let xs ← listed (self .argumentOrStar)
      sign ","
      return joined (xs ++ (← listed (self .argumentOrStars))))
    <|> (do return joined (← listed (self .argumentOrStar)))
    <|> (do return joined (← listed (self .argumentOrStars)))
  | .unpackedArgument => do
    sign "*"
    let _ ← self .expression
    return .arguments 1 false
  | .argumentOrStar =>
    whenLooking (strayArgument self) <|> namedArgument self <|> self .unpackedArgument
  | .argumentOrStars =>
    whenLooking (strayArgument self) <|> namedArgument self
      <|> (do
        sign "**"
        let _ ← self .expression
        return .arguments 0 true)
  | .function => do
    word "lambda"
    let _ ← optional (parameters self)
    sign ":"
    let _ ← self .expression
    return .other .function

/-- The rules whose findings are remembered. -/
def isRemembered : Rule → Bool
  | .expression | .starredExpression | .misnamed | .disjunction | .conjunction | .inversion
  | .bitOr | .bitXor | .bitAnd | .shift | .sum | .term | .factor | .awaited | .primary | .texts
  | .target | .plainTarget | .arguments => true
  | _ => false

/-- What is read by a rule, with so many rules inside of each other at most. -/
def read : (depth : Nat) → Rule → Reader Node
  | 0, _ => absent
  | depth + 1, rule =>
    let r := cases (cases? (read depth) rule)
    if isRemembered rule then remembered rule r else r

/-- A bound of the number of rules inside of each other: a token is passed within a few dozens. -/
def depthFor (tokens : Tokens) : Nat := 40 * (tokens.all.length + 2)

end Grammar

/-- A flaw that the reader of tokens found behind a place where the grammar found one: it counts
    more. Where the tokens end within brackets or at the end of a line, that is a flaw only if the
    innermost bracket stands on an earlier line. -/
def Tokens.laterFlaw? (tokens : Tokens) (reach : Nat) : Option Flaw :=
  match tokens.ending with
  | some (.neverClosed ..) | some .behindBackslash | some .unexpectedEnd =>
    tokens.opening.bind fun (c, line) =>
      let here := (tokens.all[reach - 1]?.map Token.line).getD line
      if line < here then some (.neverClosed c line) else none
  | other => other

/-- The flaw that counts when the grammar found one. When all tokens were looked at, a bracket that
    is never closed is not looked for any more. -/
def Tokens.counting (tokens : Tokens) (f : Flaw) (reach : Nat) : Flaw :=
  match tokens.ending with
  | some (.neverClosed ..) =>
    if tokens.all.length ≤ reach then f else (tokens.laterFlaw? reach).getD f
  | _ => (tokens.laterFlaw? reach).getD f

/-- The expression that a text is. -/
def Node.ofText (t : Text) : Except Flaw Node :=
  let tokens := Tokens.ofText t
  let read := Grammar.read (Grammar.depthFor tokens) .whole tokens 0
  match read {} with
  | (.found x _, _) => .ok x
  | (.flawed f, m) => .error (tokens.counting f m.reach)
  | (_, m) =>
    match read { reach := m.reach, looksForFlaws := true } with
    | (.flawed f, m) => .error (tokens.counting f m.reach)
    | (_, after) =>
      match tokens.all[m.reach - 1]?.map Token.kind with
      | some .indent => .error .unexpectedIndent
      | _ => .error ((tokens.laterFlaw? after.reach).getD .misfit)

end GridGauge.Literal
