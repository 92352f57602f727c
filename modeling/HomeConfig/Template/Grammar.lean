import HomeConfig.Template.Token

/-!
# The grammar of templates

`accept` decides whether the tokens of a template form one.  No tree is built: of an expression
only its `Phrase` is kept, which says what kind it is and whether something can be assigned to it,
because some statements ask for that.

Statements that enclose others remember two things for messages: the tags that would end them
(`endings`) and the innermost statement that is still open (`tags`).
-/

namespace HomeConfig

namespace Template

/-- What is known of an expression. -/
structure Phrase where
  kind : String
  assignable : Bool
deriving DecidableEq, Repr

/-- An expression that nothing can be assigned to. -/
def Phrase.value (kind : String) : Phrase := ⟨kind, false⟩

/-- The state of reading tokens. -/
structure Progress where
  tokens : List Token
  failure : Option Failure
  /-- The open statements, innermost first. -/
  tags : List String
  /-- The tags that end the enclosing statements, innermost first. -/
  endings : List (List String)
deriving Repr

/-- A step of reading tokens. -/
abbrev Reading := StateT Progress (Except Failure)

namespace Reading

/-- Refuse the template. -/
def refuse {α : Type} (message : String) : Reading α :=
  throw (.syntaxError message)

/-- A text between quotes in a message. -/
def shown (text : String) : String :=
  Text.quotedString text

/-- The current token. -/
def current : Reading Token :=
  return (← get).tokens.headD .finish

/-- Meet the failure of the token stream if it stands here. -/
def meet (tokens : List Token) : Reading Unit := do
  match tokens, (← get).failure with
  | [], some failure => throw failure
  | _, _ => pure ()

/-- Move to the next token and give back the one passed. -/
def advance : Reading Token := do
  let token ← current
  let rest := (← get).tokens.tail
  meet rest
  modify fun s => { s with tokens := rest }
  return token

/-- The token behind the current one. -/
def look : Reading Token := do
  let rest := (← get).tokens.tail
  meet rest
  return rest.headD .finish

/-- Whether the current token is a given one. -/
def at? (token : Token) : Reading Bool :=
  return (← current) == token

/-- Whether the current token is a given word. -/
def atWord (word : String) : Reading Bool :=
  at? (.name word)

/-- Whether the current token is a given operator. -/
def atSign (sign : String) : Reading Bool :=
  at? (.operator sign)

/-- Whether the current token is a name. -/
def atName : Reading Bool :=
  return match ← current with
    | .name _ => true
    | _ => false

/-- Whether the next token is a given one, asked only if the condition holds: looking ahead can
meet the failure of the token stream. -/
def looksAt (condition : Bool) (token : Token) : Reading Bool := do
  if condition then return (← look) == token else return false

/-- Move over a token if it is the current one. -/
def skip (token : Token) : Reading Bool := do
  if ← at? token then
    let _ ← advance
    return true
  else return false

/-- Refuse the current token where another is expected. -/
def unexpected {α : Type} (expected : String) : Reading α := do
  match ← current with
  | .finish => refuse ("unexpected end of template, expected " ++ shown expected ++ ".")
  | token => refuse ("expected token " ++ shown expected ++ ", got " ++ shown token.label)

/-- Move over a token, which must be the current one. -/
def expect (token : Token) : Reading Unit := do
  if !(← skip token) then unexpected token.label

/-- Move over an operator, which must be the current token. -/
def expectSign (sign : String) : Reading Unit :=
  expect (.operator sign)

/-- Move over a name. -/
def expectName : Reading String := do
  match ← current with
  | .name text =>
    let _ ← advance
    return text
  | _ => unexpected "name"

/-! ## Messages about tags -/

/-- Words in quotes with "or" between them. -/
def alternatives (words : List String) : String :=
  " or ".intercalate (words.map shown)

/-- Refuse an unknown tag, or the end of the template inside a statement. -/
def refuseTag {α : Type} (name : Option String) (endings : List (List String)) : Reading α := do
  let first := match name with
    | none => "Unexpected end of template."
    | some name => "Encountered unknown tag " ++ shown name ++ "."
  let wanted := match endings with
    | [] => []
    | tags :: _ =>
      if name.any endings.flatten.contains then
        ["You probably made a nesting mistake. Jinja is expecting this tag, " ++
          "but currently looking for " ++ alternatives tags ++ "."]
      else ["Jinja was looking for the following tags: " ++ alternatives tags ++ "."]
  let innermost := match (← get).tags with
    | [] => []
    | tag :: _ => ["The innermost block that needs to be closed is " ++ shown tag ++ "."]
  refuse (" ".intercalate (first :: wanted ++ innermost))

/-! ## Expressions -/

/-- Whether the current token ends a list of expressions. -/
def atTupleEnd : Reading Bool := do
  match ← current with
  | .variableEnd => return true
  | .blockEnd => return true
  | .operator sign => return sign == ")"
  | _ => return false

/-- The words that stand for constants. -/
def constants : List String := ["true", "false", "True", "False", "none", "None"]

/-- The operators that compare. -/
def comparisons : List String := ["==", "!=", "<", "<=", ">", ">="]

/-- The kind of an operation. -/
def operationKind (sign : String) : String :=
  ([("+", "add"), ("-", "sub"), ("*", "mul"), ("/", "div"), ("//", "floordiv"), ("%", "mod"),
    ("**", "pow")].lookup sign).getD "concat"

/-- Move over adjacent strings. -/
def skipStrings : (bound : Nat) → Reading Unit
  | 0 => refuse "template nested too deeply"
  | bound + 1 => do
    if let .string _ ← current then
      let _ ← advance
      skipStrings bound

/-- Move over the parts of a dotted name behind the first. -/
def skipDots : (bound : Nat) → Reading Unit
  | 0 => refuse "template nested too deeply"
  | bound + 1 => do
    if ← skip (.operator ".") then
      let _ ← expectName
      skipDots bound

/-- What the arguments of a call have held so far. -/
structure Arguments where
  keyword : Bool
  list : Bool
  mapping : Bool

/-- Refuse arguments in an impossible order. -/
def ensure (possible : Bool) : Reading Unit := do
  if !possible then refuse "invalid syntax for function call expression"

mutual

/-- An expression with conditions. -/
def conditional : (bound : Nat) → Reading Phrase
  | 0 => refuse "template nested too deeply"
  | bound + 1 => do conditions bound (← disjunction bound)

/-- Conditions behind an expression. -/
def conditions : (bound : Nat) → Phrase → Reading Phrase
  | 0, _ => refuse "template nested too deeply"
  | bound + 1, phrase => do
    if ← skip (.name "if") then
      let _ ← disjunction bound
      if ← skip (.name "else") then
        let _ ← conditional bound
      conditions bound (.value "condexpr")
    else return phrase

/-- An expression without conditions. -/
def disjunction : (bound : Nat) → Reading Phrase
  | 0 => refuse "template nested too deeply"
  | bound + 1 => do disjuncts bound (← conjunction bound)

/-- Further parts of a disjunction. -/
def disjuncts : (bound : Nat) → Phrase → Reading Phrase
  | 0, _ => refuse "template nested too deeply"
  | bound + 1, phrase => do
    if ← skip (.name "or") then
      let _ ← conjunction bound
      disjuncts bound (.value "or")
    else return phrase

/-- A conjunction. -/
def conjunction : (bound : Nat) → Reading Phrase
  | 0 => refuse "template nested too deeply"
  | bound + 1 => do conjuncts bound (← negation bound)

/-- Further parts of a conjunction. -/
def conjuncts : (bound : Nat) → Phrase → Reading Phrase
  | 0, _ => refuse "template nested too deeply"
  | bound + 1, phrase => do
    if ← skip (.name "and") then
      let _ ← negation bound
      conjuncts bound (.value "and")
    else return phrase

/-- A negation. -/
def negation : (bound : Nat) → Reading Phrase
  | 0 => refuse "template nested too deeply"
  | bound + 1 => do
    if ← skip (.name "not") then
      let _ ← negation bound
      return .value "not"
    else comparison bound (← sum bound) false

/-- Comparisons behind an expression; `compared` says whether there has been one. -/
def comparison : (bound : Nat) → Phrase → (compared : Bool) → Reading Phrase
  | 0, _, _ => refuse "template nested too deeply"
  | bound + 1, phrase, compared => do
    let token ← current
    let compares ← (match token with
      | .operator sign => return comparisons.contains sign
      | .name "in" => return true
      | .name "not" => do
        if ← looksAt true (.name "in") then
          let _ ← advance
          return true
        else return false
      | _ => return false)
    if compares then
      let _ ← advance
      let _ ← sum bound
      comparison bound phrase true
    else return if compared then .value "compare" else phrase

/-- A sum. -/
def sum : (bound : Nat) → Reading Phrase
  | 0 => refuse "template nested too deeply"
  | bound + 1 => do operations bound ["+", "-"] (← concatenation bound)

/-- A concatenation. -/
def concatenation : (bound : Nat) → Reading Phrase
  | 0 => refuse "template nested too deeply"
  | bound + 1 => do operations bound ["~"] (← product bound)

/-- A product. -/
def product : (bound : Nat) → Reading Phrase
  | 0 => refuse "template nested too deeply"
  | bound + 1 => do operations bound ["*", "/", "//", "%"] (← power bound)

/-- A power. -/
def power : (bound : Nat) → Reading Phrase
  | 0 => refuse "template nested too deeply"
  | bound + 1 => do operations bound ["**"] (← unary bound true)

/-- Further operands behind any of the given operators, which all bind equally. -/
def operations : (bound : Nat) → (signs : List String) → Phrase → Reading Phrase
  | 0, _, _ => refuse "template nested too deeply"
  | bound + 1, signs, phrase => do
    match ← current with
    | .operator sign =>
      if signs.contains sign then
        let _ ← advance
        let _ ← (if signs.contains "+" then concatenation bound
          else if signs.contains "~" then product bound
          else if signs.contains "*" then power bound
          else unary bound true)
        operations bound signs (.value (operationKind sign))
      else return phrase
    | _ => return phrase

/-- An operand with its signs; `filtered` says whether filters and tests may follow. -/
def unary : (bound : Nat) → (filtered : Bool) → Reading Phrase
  | 0, _ => refuse "template nested too deeply"
  | bound + 1, filtered => do
    let phrase ← (do
      if ← skip (.operator "-") then
        let _ ← unary bound false
        return Phrase.value "neg"
      else if ← skip (.operator "+") then
        let _ ← unary bound false
        return Phrase.value "pos"
      else primary bound false)
    let phrase ← postfixes bound phrase
    if filtered then filters bound phrase else return phrase

/-- A name, a literal, a collection or an expression in brackets.  Where `namespaced` holds, a
name may be followed by one attribute to which something is to be assigned. -/
def primary : (bound : Nat) → (namespaced : Bool) → Reading Phrase
  | 0, _ => refuse "template nested too deeply"
  | bound + 1, namespaced => do
    let token ← current
    match token with
    | .name word =>
      let _ ← advance
      if constants.contains word then return .value "const"
      else if namespaced then
        if ← skip (.operator ".") then
          let _ ← expectName
          return ⟨"nsref", true⟩
        else return ⟨"name", true⟩
      else return ⟨"name", true⟩
    | .string _ =>
      skipStrings (bound + 1)
      return .value "const"
    | .integer =>
      let _ ← advance
      return .value "const"
    | .float =>
      let _ ← advance
      return .value "const"
    | .operator "(" =>
      let _ ← advance
      let phrase ← tuple bound false true false true
      expectSign ")"
      return phrase
    | .operator "[" =>
      let _ ← advance
      listItems bound true
      return .value "list"
    | .operator "\x7b" =>
      let _ ← advance
      dictItems bound true
      return .value "dict"
    | token => refuse ("unexpected " ++ shown token.label)

/-- Expressions with commas between them.  `simple` admits only operands, `conditioned` admits
conditions, `namespaced` is handed to operands, and only in brackets may it be empty. -/
def tuple : (bound : Nat) → (simple conditioned namespaced bracketed : Bool) → Reading Phrase
  | 0, _, _, _, _ => refuse "template nested too deeply"
  | bound + 1, simple, conditioned, namespaced, bracketed => do
    let empty : Reading Phrase := do
      if bracketed then return ⟨"tuple", true⟩
      else refuse ("Expected an expression, got " ++ shown (← current).label)
    if ← atTupleEnd then empty
    else
      let first ← tupleItem bound simple conditioned namespaced
      if ← atSign "," then
        let assignable ← tupleRest bound simple conditioned namespaced first.assignable
        return ⟨"tuple", assignable⟩
      else return first

/-- One expression of a tuple. -/
def tupleItem : (bound : Nat) → (simple conditioned namespaced : Bool) → Reading Phrase
  | 0, _, _, _ => refuse "template nested too deeply"
  | bound + 1, simple, conditioned, namespaced =>
    if simple then primary bound namespaced
    else if conditioned then conditional bound
    else disjunction bound

/-- The rest of a tuple from a comma on; says whether something can be assigned to all of it. -/
def tupleRest : (bound : Nat) → (simple conditioned namespaced : Bool) → (assignable : Bool) →
    Reading Bool
  | 0, _, _, _, _ => refuse "template nested too deeply"
  | bound + 1, simple, conditioned, namespaced, assignable => do
    if ← skip (.operator ",") then
      if ← atTupleEnd then return assignable
      else
        let item ← tupleItem bound simple conditioned namespaced
        tupleRest bound simple conditioned namespaced (assignable && item.assignable)
    else return assignable

/-- The items of a list up to its closing bracket. -/
def listItems : (bound : Nat) → (first : Bool) → Reading Unit
  | 0, _ => refuse "template nested too deeply"
  | bound + 1, first => do
    if ← skip (.operator "]") then return
    if !first then
      expectSign ","
      if ← skip (.operator "]") then return
    let _ ← conditional bound
    listItems bound false

/-- The entries of a mapping up to its closing brace. -/
def dictItems : (bound : Nat) → (first : Bool) → Reading Unit
  | 0, _ => refuse "template nested too deeply"
  | bound + 1, first => do
    if ← skip (.operator "\x7d") then return
    if !first then
      expectSign ","
      if ← skip (.operator "\x7d") then return
    let _ ← conditional bound
    expectSign ":"
    let _ ← conditional bound
    dictItems bound false

/-- Subscripts and calls behind an operand. -/
def postfixes : (bound : Nat) → Phrase → Reading Phrase
  | 0, _ => refuse "template nested too deeply"
  | bound + 1, phrase => do
    match ← current with
    | .operator "." =>
      let _ ← advance
      let member ← advance
      match member with
      | .name _ => postfixes bound (.value "getattr")
      | .integer => postfixes bound (.value "getitem")
      | _ => refuse "expected name or number"
    | .operator "[" =>
      let _ ← advance
      subscripts bound true
      postfixes bound (.value "getitem")
    | .operator "(" =>
      arguments bound
      postfixes bound (.value "call")
    | _ => return phrase

/-- Filters, tests and calls behind an operand. -/
def filters : (bound : Nat) → Phrase → Reading Phrase
  | 0, _ => refuse "template nested too deeply"
  | bound + 1, phrase => do
    match ← current with
    | .operator "|" =>
      filterChain bound false
      filters bound (.value "filter")
    | .name "is" =>
      let negated ← test bound
      filters bound (.value (if negated then "not" else "test"))
    | .operator "(" =>
      arguments bound
      filters bound (.value "call")
    | _ => return phrase

/-- The parts of a subscript up to its closing bracket. -/
def subscripts : (bound : Nat) → (first : Bool) → Reading Unit
  | 0, _ => refuse "template nested too deeply"
  | bound + 1, first => do
    if ← skip (.operator "]") then return
    if !first then expectSign ","
    subscript bound
    subscripts bound false

/-- One part of a subscript: an expression or a slice. -/
def subscript : (bound : Nat) → Reading Unit
  | 0 => refuse "template nested too deeply"
  | bound + 1 => do
    let limit : Reading Unit := do
      if !(← atSign "]") && !(← atSign ",") then
        let _ ← conditional bound
    if !(← atSign ":") then
      let _ ← conditional bound
    if ← skip (.operator ":") then
      if !(← atSign ":") then limit
      if ← skip (.operator ":") then limit

/-- The arguments of a call with their brackets. -/
def arguments : (bound : Nat) → Reading Unit
  | 0 => refuse "template nested too deeply"
  | bound + 1 => do
    expectSign "("
    argumentsFrom bound true ⟨false, false, false⟩

/-- The arguments of a call from one of them up to the closing bracket. -/
def argumentsFrom : (bound : Nat) → (first : Bool) → Arguments → Reading Unit
  | 0, _, _ => refuse "template nested too deeply"
  | bound + 1, first, seen => do
    if ← skip (.operator ")") then return
    if !first then
      expectSign ","
      if ← skip (.operator ")") then return
    let token ← current
    if token = .operator "*" then
      ensure (!seen.list && !seen.mapping)
      let _ ← advance
      let _ ← conditional bound
      argumentsFrom bound false { seen with list := true }
    else if token = .operator "**" then
      ensure (!seen.mapping)
      let _ ← advance
      let _ ← conditional bound
      argumentsFrom bound false { seen with mapping := true }
    else if ← looksAt (← atName) (.operator "=") then
      ensure (!seen.mapping)
      let _ ← advance
      let _ ← advance
      let _ ← conditional bound
      argumentsFrom bound false { seen with keyword := true }
    else
      ensure (!seen.list && !seen.mapping && !seen.keyword)
      let _ ← conditional bound
      argumentsFrom bound false seen

/-- Filters with their arguments; `inline` says that the first one has no sign in front. -/
def filterChain : (bound : Nat) → (inline : Bool) → Reading Unit
  | 0, _ => refuse "template nested too deeply"
  | bound + 1, inline => do
    let starts ← if inline then pure true else skip (.operator "|")
    if starts then
      let _ ← expectName
      skipDots bound
      if ← atSign "(" then arguments bound
      filterChain bound false

/-- A test with its argument; says whether it is negated. -/
def test : (bound : Nat) → Reading Bool
  | 0 => refuse "template nested too deeply"
  | bound + 1 => do
    let _ ← advance
    let negated ← skip (.name "not")
    let _ ← expectName
    skipDots bound
    let argument : Reading Unit := do
      let phrase ← primary bound false
      let _ ← postfixes bound phrase
    match ← current with
    | .operator "(" => arguments bound
    | .name "is" => refuse "You cannot chain multiple tests with is"
    | .name word => if !(["else", "or", "and"].contains word) then argument
    | .string _ => argument
    | .integer => argument
    | .float => argument
    | .operator "[" => argument
    | .operator "\x7b" => argument
    | _ => pure ()
    return negated

end

/-! ## Targets of assignments -/

/-- Refuse a target that nothing can be assigned to. -/
def checkTarget (phrase : Phrase) : Reading Unit := do
  if !phrase.assignable then refuse ("can't assign to " ++ shown phrase.kind)

/-- A name to assign to. -/
def targetName : Reading String := do
  let name ← expectName
  checkTarget (if constants.contains name then ⟨"name", false⟩ else ⟨"name", true⟩)
  return name

/-- What a statement assigns to. -/
def target (bound : Nat) (namespaced : Bool) : Reading Unit := do
  checkTarget (← tuple bound true true namespaced false)

/-! ## Statements -/

/-- Parameters with their brackets; behind one with a default all have one. -/
def parametersFrom : (bound : Nat) → (first defaults : Bool) → Reading Unit
  | 0, _, _ => refuse "template nested too deeply"
  | bound + 1, first, defaults => do
    if ← skip (.operator ")") then return
    if !first then expectSign ","
    let _ ← targetName
    if ← skip (.operator "=") then
      let _ ← conditional bound
      parametersFrom bound false true
    else if defaults then refuse "non-default argument follows default argument"
    else parametersFrom bound false defaults

/-- Parameters with their brackets. -/
def parameters (bound : Nat) : Reading Unit := do
  expectSign "("
  parametersFrom bound true false

/-- Whether the context is to be handed on, if that is said. -/
def contextChoice : Reading Bool := do
  let chooses := match ← current with
    | .name word => word == "with" || word == "without"
    | .string text => text == "with" || text == "without"
    | _ => false
  if ← looksAt chooses (.name "context") then
    let _ ← advance
    let _ ← advance
    return true
  else return false

/-- Whether the context is to be handed on, if a word says that. -/
def contextWord : Reading Unit := do
  if ← atName then
    let _ ← contextChoice

/-- The names of an import. -/
def importNames : (bound : Nat) → (first : Bool) → Reading Unit
  | 0, _ => refuse "template nested too deeply"
  | bound + 1, first => do
    if !first then expectSign ","
    if ← atName then
      if ← contextChoice then return
      let name ← targetName
      if name.startsWith "_" then
        refuse "names starting with an underline can not be imported"
      if ← skip (.name "as") then
        let _ ← targetName
      if ← contextChoice then return
      if ← atSign "," then importNames bound false
    else
      let _ ← expectName

/-- The assignments at the head of a statement. -/
def assignments : (bound : Nat) → (first : Bool) → Reading Unit
  | 0, _ => refuse "template nested too deeply"
  | bound + 1, first => do
    if ← at? .blockEnd then return
    if !first then expectSign ","
    target bound false
    expectSign "="
    let _ ← conditional bound
    assignments bound false

/-- Expressions to print. -/
def printed : (bound : Nat) → (first : Bool) → Reading Unit
  | 0, _ => refuse "template nested too deeply"
  | bound + 1, first => do
    if ← at? .blockEnd then return
    if !first then expectSign ","
    let _ ← conditional bound
    printed bound false

mutual

/-- A part of a template up to one of the given tags, which becomes the current token, or up to
the end of the template; says whether it holds nothing but blanks. -/
def body : (bound : Nat) → (endings : List String) → Reading Bool
  | 0, _ => refuse "template nested too deeply"
  | bound + 1, endings => do
    match ← current with
    | .data text =>
      let _ ← advance
      return (← body bound endings) && text.all Text.isBlank
    | .variableBegin =>
      let _ ← advance
      let _ ← tuple bound false true false false
      expect .variableEnd
      let _ ← body bound endings
      return false
    | .blockBegin =>
      let _ ← advance
      let ends := match ← current with
        | .name word => endings.contains word
        | _ => false
      if ends then return true
      statement bound
      expect .blockEnd
      let _ ← body bound endings
      return false
    | _ => return true

/-- The part of a template that a statement encloses, from the end of its tag to one of the given
tags, which becomes the current token. -/
def enclosed : (bound : Nat) → (endings : List String) → Reading Bool
  | 0, _ => refuse "template nested too deeply"
  | bound + 1, endings => do
    let _ ← skip (.operator ":")
    expect .blockEnd
    modify fun s => { s with endings := endings :: s.endings }
    let blank ← body bound endings
    modify fun s => { s with endings := s.endings.tail }
    if ← at? .finish then refuseTag none (endings :: (← get).endings)
    return blank

/-- The part of a template that a statement encloses, with the tag that ends it. -/
def enclosedUntil : (bound : Nat) → (ending : String) → Reading Bool
  | 0, _ => refuse "template nested too deeply"
  | bound + 1, ending => do
    let blank ← enclosed bound [ending]
    let _ ← advance
    return blank

/-- The branches of a conditional statement, from a condition on. -/
def branches : (bound : Nat) → Reading Unit
  | 0 => refuse "template nested too deeply"
  | bound + 1 => do
    let _ ← tuple bound false false false false
    let _ ← enclosed bound ["elif", "else", "endif"]
    match ← advance with
    | .name "elif" => branches bound
    | .name "else" =>
      let _ ← enclosedUntil bound "endif"
    | _ => pure ()

/-- A statement, from its tag on. -/
def statement : (bound : Nat) → Reading Unit
  | 0 => refuse "template nested too deeply"
  | bound + 1 => do
    let .name tag ← current | refuse "tag name expected"
    modify fun s => { s with tags := tag :: s.tags }
    statementOf bound tag
    modify fun s => { s with tags := s.tags.tail }

/-- The statement with a given tag, which is the current token. -/
def statementOf : (bound : Nat) → (tag : String) → Reading Unit
  | 0, _ => refuse "template nested too deeply"
  | bound + 1, tag =>
    match tag with
    | "for" => do
      let _ ← advance
      target bound false
      expect (.name "in")
      let _ ← tuple bound false false false false
      if ← skip (.name "if") then
        let _ ← conditional bound
      let _ ← skip (.name "recursive")
      let _ ← enclosed bound ["endfor", "else"]
      if (← advance) != .name "endfor" then
        let _ ← enclosedUntil bound "endfor"
    | "if" => do
      let _ ← advance
      branches bound
    | "block" => do
      let _ ← advance
      let name ← expectName
      let _ ← skip (.name "scoped")
      let required ← skip (.name "required")
      if ← atSign "-" then
        refuse ("Block names in Jinja have to be valid Python identifiers and may not " ++
          "contain hyphens, use an underscore instead.")
      let blank ← enclosedUntil bound "endblock"
      if required && !blank then
        refuse "Required blocks can only contain comments or whitespace"
      let _ ← skip (.name name)
    | "extends" => do
      let _ ← advance
      let _ ← conditional bound
    | "print" => do
      let _ ← advance
      printed bound true
    | "macro" => do
      let _ ← advance
      let _ ← targetName
      parameters bound
      let _ ← enclosedUntil bound "endmacro"
    | "include" => do
      let _ ← advance
      let _ ← conditional bound
      if ← looksAt (← atWord "ignore") (.name "missing") then
        let _ ← advance
        let _ ← advance
      contextWord
    | "from" => do
      let _ ← advance
      let _ ← conditional bound
      expect (.name "import")
      importNames bound true
    | "import" => do
      let _ ← advance
      let _ ← conditional bound
      expect (.name "as")
      let _ ← targetName
      contextWord
    | "set" => do
      let _ ← advance
      target bound true
      if ← skip (.operator "=") then
        let _ ← tuple bound false true false false
      else
        filterChain bound false
        let _ ← enclosedUntil bound "endset"
    | "with" => do
      let _ ← advance
      assignments bound true
      let _ ← enclosedUntil bound "endwith"
    | "autoescape" => do
      let _ ← advance
      let _ ← conditional bound
      let _ ← enclosedUntil bound "endautoescape"
    | "call" => do
      let _ ← advance
      if ← atSign "(" then parameters bound
      let phrase ← conditional bound
      if phrase.kind ≠ "call" then refuse "expected call"
      let _ ← enclosedUntil bound "endcall"
    | "filter" => do
      let _ ← advance
      filterChain bound true
      let _ ← enclosedUntil bound "endfilter"
    | _ => do
      modify fun s => { s with tags := s.tags.tail }
      refuseTag (some tag) (← get).endings

end

end Reading

/-- Decide whether tokens form a template.  An expression in brackets takes about twenty levels of
recursion, and at least one token. -/
def accept (stream : TokenStream) : Except Failure Unit := do
  let bound := 24 * stream.tokens.length + 48
  let start : Reading Unit := do
    Reading.meet stream.tokens
    let _ ← Reading.body bound []
  let _ ← start.run ⟨stream.tokens, stream.failure, [], []⟩

/-- Why a template is not well formed; nothing if it is. -/
def check (text : Text) : Except Failure (Option String) :=
  match accept (TokenStream.ofText text) with
  | .ok () => .ok none
  | .error (.syntaxError message) => .ok (some ("Jinja2 syntax error: " ++ message))
  | .error failure => .error failure

end Template

end HomeConfig
