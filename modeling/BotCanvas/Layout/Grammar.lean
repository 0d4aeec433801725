import BotCanvas.Layout.Token

/-!
# The grammar of programs with layout

A recogniser: one function goes through the tokens for a phrase and answers with the tokens after
it, or with those from the first one on that cannot stand where it is. Phrases that differ in
meaning but not in the tokens they accept are one: binary operators have no ranks here, and
whatever can be assigned to or deleted is read as an expression.
-/

namespace BotCanvas.Layout

/-- What more than "not here" can be said about a place where the grammar is broken. -/
inductive Notice
  /-- Nothing is indented after the opening of a suite on a line. -/
  | suiteMissing (opening : String) (line : Nat)
  | colonMissing
  | parametersMissing
  | handlerMissing
  | elseMissing (line : Nat)
  | commaMissing (line : Nat)
  | deep
  deriving DecidableEq

/-- Where the grammar is broken: the tokens from there on, and what can be said about it. -/
structure Break where
  rest : List Token
  notice : Option Notice

/-- Going through tokens. -/
abbrev Step := Except Break (List Token)

/-- The phrases of the grammar. -/
inductive Phrase
  | program
  | statement
  | line
  | simple
  | assignment
  | suite (opening : String) (line : Nat)
  | suiteRest
  | ifRest
  | elseRest
  | handlers
  | finalRest
  | parameters (closing : String)
  | parameter (annotated : Bool)
  | dottedNames
  | importedNames
  | names
  | withItems
  | expressions
  | starred
  | namedStarred
  | expression
  | expressionAfter
  | named
  | disjunction
  | disjunctionRest
  | inversion
  | comparison
  | comparisonRest
  | sum
  | sumRest
  | factor (depth : Nat)
  | power
  | trailers
  | atom
  | strings
  | group
  | items
  | entries
  | entry
  | arguments
  | argument
  | slices
  | slice
  | clauses
  | clauseTests
  | targets
  | lambdaBody
  | yielded

namespace Grammar

/-- The words that are no names. -/
def keywords : List String :=
  ["False", "None", "True", "and", "as", "assert", "async", "await", "break", "class", "continue",
   "def", "del", "elif", "else", "except", "finally", "for", "from", "global", "if", "import",
   "in", "is", "lambda", "nonlocal", "not", "or", "pass", "raise", "return", "try", "while",
   "with", "yield"]

/-- The words that are keywords in some places only. -/
def softKeywords : List String := ["match", "case", "_"]

/-- The grammar is broken at the next token. -/
def stop (ts : List Token) : Step :=
  .error ⟨ts, none⟩

/-- The grammar is broken at the next token, with a notice. -/
def stopWith (notice : Notice) (ts : List Token) : Step :=
  .error ⟨ts, some notice⟩

/-- Tests whether the next token is a mark. -/
def atMark (m : String) : List Token → Bool
  | t :: _ => t.kind == .mark && t.text == m
  | [] => false

/-- Tests whether the next token is a keyword. -/
def atWord (w : String) : List Token → Bool
  | t :: _ => t.kind == .name && t.text == w
  | [] => false

/-- Tests for a name. -/
def isName (t : Token) : Bool :=
  t.kind == .name && !keywords.contains t.text

/-- Tests whether the next token is of a kind. -/
def atKind (k : TokenKind) : List Token → Bool
  | t :: _ => t.kind == k
  | [] => false

/-- Takes a mark. -/
def mark (m : String) : List Token → Step
  | t :: rest => if t.kind == .mark && t.text == m then .ok rest else stop (t :: rest)
  | [] => stop []

/-- Takes a keyword. -/
def word (w : String) : List Token → Step
  | t :: rest => if t.kind == .name && t.text == w then .ok rest else stop (t :: rest)
  | [] => stop []

/-- Takes a token of a kind. -/
def kind (k : TokenKind) : List Token → Step
  | t :: rest => if t.kind == k then .ok rest else stop (t :: rest)
  | [] => stop []

/-- Takes a name. -/
def name : List Token → Step
  | t :: rest => if isName t then .ok rest else stop (t :: rest)
  | [] => stop []

/-- The line of the next token. -/
def lineOf (ts : List Token) : Nat :=
  (ts.head?.map Token.line).getD 0

/-- The marks that an expression may start with. -/
def openingMarks : List String := ["(", "[", "\x7b", "-", "+", "~", "..."]

/-- The keywords that an expression may start with. -/
def openingWords : List String := ["False", "None", "True", "await", "lambda", "not", "yield"]

/-- Tests whether an expression may start at the next token. -/
def startsExpression : List Token → Bool
  | t :: _ =>
      match t.kind with
      | .name => !keywords.contains t.text || openingWords.contains t.text
      | .number => true
      | .string => true
      | .mark => openingMarks.contains t.text
      | _ => false
  | [] => false

/-- Takes the colon before a suite. A suite whose colon is demanded has a notice whatever else
stands there, any other only at the end of the line. -/
def colon (demanded : Bool) (ts : List Token) : Step :=
  if atMark ":" ts then mark ":" ts
  else if ts.isEmpty then stop ts
  else if demanded || atKind .newline ts then stopWith .colonMissing ts
  else stop ts

/-- Takes the bracket that opens the parameters of a function. -/
def parametersOpen (ts : List Token) : Step :=
  if atMark "(" ts || ts.isEmpty then mark "(" ts else stopWith .parametersMissing ts

/-- The marks that assign and compute at once. -/
def updateMarks : List String :=
  ["+=", "-=", "*=", "/=", "//=", "%=", "@=", "&=", "|=", "^=", ">>=", "<<=", "**="]

/-- The operators between sums. -/
def binaryMarks : List String :=
  ["|", "^", "&", "<<", ">>", "+", "-", "*", "/", "//", "%", "@"]

/-- The comparisons that are marks. -/
def comparisonMarks : List String := ["==", "!=", "<", ">", "<=", ">="]

/-- Takes a comparison, if one comes next. -/
def comparison? (ts : List Token) : Option (List Token) :=
  match ts with
  | t :: rest =>
      if t.kind == .mark && comparisonMarks.contains t.text then some rest
      else if atWord "in" ts then some rest
      else if atWord "is" ts then some (if atWord "not" rest then rest.drop 1 else rest)
      else if atWord "not" ts && atWord "in" rest then some (rest.drop 1)
      else none
  | [] => none

/-- Tests for a mark among others. -/
def atAny (marks : List String) : List Token → Bool
  | t :: _ => t.kind == .mark && marks.contains t.text
  | [] => false

/-- The most signs in front of a value. -/
def signLimit : Nat := 2950

/-- Tests whether tokens go on after a comma that may also be the last: not at a line end, a
closing bracket, a colon, an assignment or a semicolon. -/
def goesOn (ts : List Token) : Bool :=
  startsExpression ts || atMark "*" ts || atMark "**" ts

/-- What a comma may be missing before: an expression inside brackets, unless a name stands before
a string, the first is a keyword in some places, or the bracket is closed meanwhile. The arguments
are the first expression's tokens, and those from the second on, and going through the latter. -/
def commaMissing (first second : List Token) (result : Step) : Step :=
  let soft := match first with
    | t :: u :: _ => t.kind == .name && (softKeywords.contains t.text || u.kind == .string)
    | _ => false
  match result with
  | .ok [] => stop []
  | .ok (_ :: rest) =>
      let used := second.take (second.length - (rest.length + 1))
      let depth := ((used.getLast?).map Token.depth).getD 0
      if soft || depth == 0 then stop second else stopWith (.commaMissing (lineOf first)) second
  | .error b => if b.rest.isEmpty then stop [] else stop second

/-- Goes through the tokens of a phrase. The first argument counts down the nesting. -/
def take : (fuel : Nat) → Phrase → List Token → Step
  | 0, _, ts => stop ts
  | fuel + 1, phrase, ts =>
      let go := take fuel
      match phrase with
      | .program => if atKind .finish ts then .ok [] else do go .program (← go .statement ts)
      | .statement =>
          if atWord "if" ts then do
            let ts' ← go .named (ts.drop 1)
            let ts' ← go (.suite "'if' statement" (lineOf ts)) (← colon false ts')
            go .ifRest ts'
          else if atWord "while" ts then do
            let ts' ← go .named (ts.drop 1)
            let ts' ← go (.suite "'while' statement" (lineOf ts)) (← colon false ts')
            go .elseRest ts'
          else if atWord "for" ts then do
            let ts' ← go .expressions (← word "in" (← go .targets (ts.drop 1)))
            let ts' ← go (.suite "'for' statement" (lineOf ts)) (← colon false ts')
            go .elseRest ts'
          else if atWord "with" ts then do
            let ts' ← go .withItems (ts.drop 1)
            go (.suite "'with' statement" (lineOf ts)) (← colon false ts')
          else if atWord "try" ts then do
            let ts' ← go (.suite "'try' statement" (lineOf ts)) (← colon true (ts.drop 1))
            if atWord "except" ts' || atWord "finally" ts' then go .handlers ts'
            else if ts'.isEmpty then stop ts'
            else stopWith .handlerMissing ts'
          else if atWord "def" ts then do
            let ts' ← parametersOpen (← name (ts.drop 1))
            let ts' ← mark ")" (← go (.parameters ")") ts')
            let ts' ← if atMark "->" ts' then go .expression (ts'.drop 1) else .ok ts'
            go (.suite "function definition" (lineOf ts)) (← colon true ts')
          else if atWord "class" ts then do
            let ts' ← name (ts.drop 1)
            let ts' ← if atMark "(" ts' then mark ")" (← go .arguments (ts'.drop 1)) else .ok ts'
            go (.suite "class definition" (lineOf ts)) (← colon false ts')
          else if atWord "async" ts then
            let rest := ts.drop 1
            if atWord "def" rest || atWord "for" rest || atWord "with" rest then go .statement rest
            else stop rest
          else if atMark "@" ts then do
            let ts' ← kind .newline (← go .named (ts.drop 1))
            if atMark "@" ts' || atWord "def" ts' || atWord "class" ts' || atWord "async" ts' then
              go .statement ts'
            else stop ts'
          else go .line ts
      | .line => do
          let ts ← go .simple ts
          if atMark ";" ts then
            let rest := ts.drop 1
            if atKind .newline rest then kind .newline rest else go .line rest
          else kind .newline ts
      | .simple =>
          if atWord "pass" ts || atWord "break" ts || atWord "continue" ts then .ok (ts.drop 1)
          else if atWord "return" ts then
            if goesOn (ts.drop 1) then go .expressions (ts.drop 1) else .ok (ts.drop 1)
          else if atWord "raise" ts then
            if startsExpression (ts.drop 1) then do
              let ts ← go .expression (ts.drop 1)
              if atWord "from" ts then go .expression (ts.drop 1) else .ok ts
            else .ok (ts.drop 1)
          else if atWord "import" ts then go .dottedNames (ts.drop 1)
          else if atWord "from" ts then
            let rest := ts.drop 1
            let dots := rest.takeWhile fun t => t.kind == .mark && (t.text == "." || t.text == "...")
            let rest := rest.drop dots.length
            do
              let rest ← if !dots.isEmpty && atWord "import" rest then .ok rest
                else go .trailers (← name rest)
              let rest ← word "import" rest
              if atMark "*" rest then .ok (rest.drop 1)
              else if atMark "(" rest then do mark ")" (← go .importedNames (rest.drop 1))
              else go .importedNames rest
          else if atWord "global" ts || atWord "nonlocal" ts then go .names (ts.drop 1)
          else if atWord "del" ts then go .targets (ts.drop 1)
          else if atWord "assert" ts then do
            let ts ← go .expression (ts.drop 1)
            if atMark "," ts then go .expression (ts.drop 1) else .ok ts
          else do
            let ts ← go .expressions ts
            if atMark ":" ts then do
              let ts ← go .expression (ts.drop 1)
              if atMark "=" ts then go .expressions (ts.drop 1) else .ok ts
            else if atAny updateMarks ts then go .expressions (ts.drop 1)
            else go .assignment ts
      | .assignment =>
          if atMark "=" ts then do go .assignment (← go .expressions (ts.drop 1)) else .ok ts
      | .suite opening line =>
          if atKind .newline ts then
            let rest := ts.drop 1
            if atKind .indent rest then go .suiteRest (rest.drop 1)
            else if rest.isEmpty then stop rest
            else stopWith (.suiteMissing opening line) rest
          else go .line ts
      | .suiteRest => do
          let ts ← go .statement ts
          if atKind .dedent ts then .ok (ts.drop 1) else go .suiteRest ts
      | .ifRest =>
          if atWord "elif" ts then do
            let ts' ← go .named (ts.drop 1)
            let ts' ← go (.suite "'elif' statement" (lineOf ts)) (← colon false ts')
            go .ifRest ts'
          else go .elseRest ts
      | .elseRest =>
          if atWord "else" ts then do
            go (.suite "'else' statement" (lineOf ts)) (← colon true (ts.drop 1))
          else .ok ts
      | .handlers =>
          if atWord "except" ts then do
            let rest := ts.drop 1
            let rest := if atMark "*" rest then rest.drop 1 else rest
            let rest ← if startsExpression rest then go .expression rest else .ok rest
            let rest ← if atWord "as" rest then name (rest.drop 1) else .ok rest
            let rest ← go (.suite "'except' statement" (lineOf ts)) (← colon false rest)
            go .handlers rest
          else do go .finalRest (← go .elseRest ts)
      | .finalRest =>
          if atWord "finally" ts then do
            go (.suite "'finally' statement" (lineOf ts)) (← colon true (ts.drop 1))
          else .ok ts
      | .parameters closing =>
          if atMark closing ts then .ok ts
          else do
            let ts ← if atMark "/" ts then .ok (ts.drop 1)
              else if atMark "**" ts then go (.parameter (closing == ")")) (ts.drop 1)
              else if atMark "*" ts then
                if atMark "," (ts.drop 1) then .ok (ts.drop 1) else go (.parameter (closing == ")")) (ts.drop 1)
              else go (.parameter (closing == ")")) ts
            if atMark "," ts then go (.parameters closing) (ts.drop 1)
            else if atMark closing ts then .ok ts
            else stop ts
      | .parameter annotated => do
          let ts ← name ts
          let ts ← if annotated && atMark ":" ts then go .expression (ts.drop 1) else .ok ts
          if atMark "=" ts then go .expression (ts.drop 1) else .ok ts
      | .dottedNames => do
          let ts ← go .trailers (← name ts)
          let ts ← if atWord "as" ts then name (ts.drop 1) else .ok ts
          if atMark "," ts then go .dottedNames (ts.drop 1) else .ok ts
      | .importedNames => do
          let ts ← name ts
          let ts ← if atWord "as" ts then name (ts.drop 1) else .ok ts
          if atMark "," ts then
            if atMark ")" (ts.drop 1) then .ok (ts.drop 1) else go .importedNames (ts.drop 1)
          else .ok ts
      | .names => do
          let ts ← name ts
          if atMark "," ts then go .names (ts.drop 1) else .ok ts
      | .withItems => do
          let ts ← go .expression ts
          let ts ← if atWord "as" ts then go .starred (ts.drop 1) else .ok ts
          if atMark "," ts then go .withItems (ts.drop 1) else .ok ts
      | .expressions => do
          let ts ← go .starred ts
          if atMark "," ts then
            if goesOn (ts.drop 1) then go .expressions (ts.drop 1) else .ok (ts.drop 1)
          else .ok ts
      | .starred => if atMark "*" ts then go .sum (ts.drop 1) else go .expression ts
      | .namedStarred => if atMark "*" ts then go .sum (ts.drop 1) else go .named ts
      | .expression =>
          if atWord "yield" ts then go .yielded (ts.drop 1)
          else if atWord "lambda" ts then go .lambdaBody (ts.drop 1)
          else do
            let after ← go .disjunction ts
            if atWord "if" after then
              let condition ← go .disjunction (after.drop 1)
              if atWord "else" condition then go .expressionAfter (condition.drop 1)
              else if condition.isEmpty || atMark ":" condition then stop condition
              else stopWith (.elseMissing (lineOf ts)) condition
            else if startsExpression after && !atWord "yield" after then
              commaMissing ts after (go .expressionAfter after)
            else .ok after
      | .expressionAfter =>
          if atWord "lambda" ts then go .lambdaBody (ts.drop 1)
          else do
            let after ← go .disjunction ts
            if atWord "if" after then
              go .expressionAfter (← word "else" (← go .disjunction (after.drop 1)))
            else .ok after
      | .named =>
          match ts with
          | t :: u :: rest =>
              if isName t && u.kind == .mark && u.text == ":=" then go .expression rest
              else go .expression ts
          | _ => go .expression ts
      | .disjunction => do go .disjunctionRest (← go .inversion ts)
      | .disjunctionRest =>
          if atWord "or" ts || atWord "and" ts then do
            go .disjunctionRest (← go .inversion (ts.drop 1))
          else .ok ts
      | .inversion => if atWord "not" ts then go .inversion (ts.drop 1) else go .comparison ts
      | .comparison => do go .comparisonRest (← go .sum ts)
      | .comparisonRest =>
          match comparison? ts with
          | some rest => do go .comparisonRest (← go .sum rest)
          | none => .ok ts
      | .sum => do go .sumRest (← go (.factor 0) ts)
      | .sumRest =>
          if atAny binaryMarks ts then do go .sumRest (← go (.factor 0) (ts.drop 1)) else .ok ts
      | .factor depth =>
          if atAny ["+", "-", "~"] ts then
            if depth < signLimit then go (.factor (depth + 1)) (ts.drop 1) else stopWith .deep ts
          else go .power ts
      | .power => do
          let ts ← go .atom (if atWord "await" ts then ts.drop 1 else ts)
          let ts ← go .trailers ts
          if atMark "**" ts then go (.factor 0) (ts.drop 1) else .ok ts
      | .trailers =>
          if atMark "." ts then do go .trailers (← name (ts.drop 1))
          else if atMark "(" ts then do go .trailers (← mark ")" (← go .arguments (ts.drop 1)))
          else if atMark "[" ts then do go .trailers (← mark "]" (← go .slices (ts.drop 1)))
          else .ok ts
      | .atom =>
          match ts with
          | [] => stop []
          | t :: rest =>
              match t.kind with
              | .name =>
                  if isName t || ["True", "False", "None"].contains t.text then .ok rest
                  else stop ts
              | .number => .ok rest
              | .string => go .strings rest
              | .mark =>
                  if t.text == "..." then .ok rest
                  else if t.text == "(" then go .group rest
                  else if t.text == "[" then do mark "]" (← go .items rest)
                  else if t.text == "\x7b" then do mark "\x7d" (← go .entries rest)
                  else stop ts
              | _ => stop ts
      | .strings => if atKind .string ts then go .strings (ts.drop 1) else .ok ts
      | .group => do mark ")" (← go .items ts)
      | .items =>
          if atMark ")" ts || atMark "]" ts then .ok ts
          else do
            let ts ← go .namedStarred ts
            if atWord "for" ts || atWord "async" ts then go .clauses ts
            else if atMark "," ts then go .items (ts.drop 1)
            else .ok ts
      | .entries =>
          if atMark "\x7d" ts then .ok ts
          else do
            let ts ← go .entry ts
            if atWord "for" ts || atWord "async" ts then go .clauses ts
            else if atMark "," ts then go .entries (ts.drop 1)
            else .ok ts
      | .entry =>
          if atMark "**" ts then go .sum (ts.drop 1)
          else do
            let ts ← go .namedStarred ts
            if atMark ":" ts then go .expression (ts.drop 1) else .ok ts
      | .arguments =>
          if atMark ")" ts then .ok ts
          else do
            let ts ← go .argument ts
            if atMark "," ts then go .arguments (ts.drop 1) else .ok ts
      | .argument =>
          match ts with
          | t :: u :: rest =>
              if t.kind == .mark && (t.text == "*" || t.text == "**") then
                go .expression (u :: rest)
              else if isName t && u.kind == .mark && u.text == "=" then go .expression rest
              else do
                let ts ← go .named ts
                if atWord "for" ts || atWord "async" ts then go .clauses ts else .ok ts
          | _ => go .named ts
      | .slices => do
          let ts ← go .slice ts
          if atMark "," ts then
            if atMark "]" (ts.drop 1) then .ok (ts.drop 1) else go .slices (ts.drop 1)
          else .ok ts
      | .slice =>
          let part (ts : List Token) : Step :=
            if startsExpression ts then go .expression ts else .ok ts
          if atMark "*" ts then go .sum (ts.drop 1)
          else do
            let after ← if atMark ":" ts then .ok ts else go .named ts
            if atMark ":" after then do
              let after ← part (after.drop 1)
              if atMark ":" after then part (after.drop 1) else .ok after
            else .ok after
      | .clauses =>
          let ts' := if atWord "async" ts then ts.drop 1 else ts
          if atWord "for" ts' then do
            let ts ← go .targets (ts'.drop 1)
            let ts ← if atWord "in" ts then .ok (ts.drop 1)
              else (go .expression (ts'.drop 1)).bind fun _ => stop ts
            let ts ← go .clauseTests (← go .disjunction ts)
            if atWord "for" ts || atWord "async" ts then go .clauses ts else .ok ts
          else stop ts'
      | .clauseTests =>
          if atWord "if" ts then do go .clauseTests (← go .disjunction (ts.drop 1)) else .ok ts
      | .targets => do
          let ts ← go .sum (if atMark "*" ts then ts.drop 1 else ts)
          if atMark "," ts then
            if goesOn (ts.drop 1) then go .targets (ts.drop 1) else .ok (ts.drop 1)
          else .ok ts
      | .lambdaBody => do
          let ts ← go (.parameters ":") ts
          go .expression (← mark ":" ts)
      | .yielded =>
          if atWord "from" ts then go .expression (ts.drop 1)
          else if goesOn ts then go .expressions ts
          else .ok ts

end Grammar

/-- Goes through the tokens of a program. -/
def recognise (ts : List Token) : Step :=
  Grammar.take (40 * ts.length + 40) .program ts

end BotCanvas.Layout
