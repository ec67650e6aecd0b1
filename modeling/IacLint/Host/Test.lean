import IacLint.Host.Process

/-!
# Conditions of `test` and `[`

`test` evaluates its arguments as a condition: file tests (`-e`, `-f`, `-d`, …), text
tests (`-n`, `-z`, `=`, `!=`, `<`, `>`), integer comparisons (`-eq`, `-lt`, …), `!`,
`-a`, `-o` and parentheses. The reading is that of the POSIX shell: with three
arguments a binary operator in the middle wins, with three or four a leading `!` or
surrounding parentheses are taken first; a unary operator with nothing after it, or with
a binary operator and more after it, is a plain word. Arguments left over after the
condition are an error, which names the last argument read.

Programs here run as the superuser, so every existing file may be read and written,
and may be run when some execute bit is set (or it is a directory).

## Main definitions

* `TestError` — why a condition cannot be evaluated
* `evalTest` — the truth of a condition given as arguments
-/

namespace IacLint.Host

open IacLint.Files

/-- Why a condition cannot be evaluated. -/
inductive TestError where
  /-- `[` without its closing `]`. -/
  | missingBracket
  /-- Arguments left over after the condition, after the one named. -/
  | unexpectedOperator (arg : String)
  /-- An operator without its operand. -/
  | argumentExpected (op : String)
  /-- An integer comparison with an operand that is no integer. -/
  | illegalNumber (arg : String)
  /-- A parenthesis that is not closed. -/
  | closingParen
  deriving Inhabited

/-- The unary operators. -/
def unaryTestOps : List String :=
  ["-r", "-w", "-x", "-e", "-f", "-d", "-c", "-b", "-p", "-u", "-g", "-k", "-s", "-t", "-z", "-n",
    "-h", "-O", "-G", "-L", "-S"]

/-- The binary operators. -/
def binaryTestOps : List String :=
  ["=", "!=", "<", ">", "-eq", "-ne", "-ge", "-gt", "-le", "-lt", "-nt", "-ot", "-ef"]

/-- The kind of an argument as an operator. -/
inductive TestToken where
  | unary (op : String)
  | binary (op : String)
  | bang
  | band
  | bor
  | lparen
  | rparen
  | operand
  | eoi
  deriving Inhabited, BEq

/-- The kind of the argument at the front of `ws`: an operator is a plain word when it
is unary and either stands last or has a binary operator and more after it, and `(`
is a plain word when it stands last. -/
def lexTest (ws : List String) : TestToken :=
  match ws with
  | [] => .eoi
  | s :: rest =>
    let isOperand : Bool := match rest with
      | [] => true
      | [_] => false
      | next :: _ => binaryTestOps.contains next
    if unaryTestOps.contains s then (if isOperand then .operand else .unary s)
    else if binaryTestOps.contains s then .binary s
    else if s == "!" then .bang
    else if s == "-a" then .band
    else if s == "-o" then .bor
    else if s == "(" then (if rest.isEmpty then .operand else .lparen)
    else if s == ")" then .rparen
    else .operand

/-- An integer operand of a comparison: an optional sign and digits, with blanks before. -/
def testNumber (s : String) : Except TestError Int :=
  let cs := s.toList.dropWhile fun c => c = ' ' || c = '\t' || c = '\n'
  let (neg, body) := match cs with
    | '-' :: r => (true, r)
    | '+' :: r => (false, r)
    | r => (false, r)
  if !body.isEmpty && body.all Char.isDigit then
    let v : Int := (String.ofList body).toNat!
    .ok (if neg then -v else v)
  else .error (.illegalNumber s)

/-- A file test on a path of the context. -/
def fileTest (ctx : Context) (op p : String) : Bool :=
  let found := ctx.stat p
  match op with
  | "-e" => found.toOption.isSome
  | "-f" => match found with | .ok (_, .file _ _) => true | _ => false
  | "-d" => match found with | .ok (_, .dir) => true | _ => false
  | "-s" => match found with
    | .ok (_, .file bs _) => !bs.isEmpty
    | .ok (_, .dir) => true
    | _ => false
  | "-r" | "-w" => found.toOption.isSome
  | "-x" => match found with
    | .ok (_, .file _ x) => x
    | .ok (_, .dir) => true
    | _ => false
  | "-h" | "-L" =>
    match ctx.tree.locate [] (Text.splitOnChar (ctx.resolve p) '/') false with
    | .ok (_, some (.link _)) => true
    | _ => false
  | _ => false

/-- Compares two texts by their code points. -/
def textLess (a b : String) : Bool := decide (a < b)

mutual

/-- Conditions joined by `-o`: the truth and the arguments from the last one read on. -/
def testOr (ctx : Context) : Nat → List String → Except TestError (Bool × List String)
  | 0, ws => .ok (false, ws)
  | n + 1, ws => do
    let (a, ws) ← testAnd ctx n ws
    match ws with
    | _ :: rest@(_ :: _) =>
      if lexTest rest == .bor then do
        let (b, ws') ← testOr ctx n (rest.drop 1)
        return (a || b, ws')
      else return (a, ws)
    | _ => return (a, ws)

/-- Conditions joined by `-a`. -/
def testAnd (ctx : Context) : Nat → List String → Except TestError (Bool × List String)
  | 0, ws => .ok (false, ws)
  | n + 1, ws => do
    let (a, ws) ← testNot ctx n ws
    match ws with
    | _ :: rest@(_ :: _) =>
      if lexTest rest == .band then do
        let (b, ws') ← testAnd ctx n (rest.drop 1)
        return (a && b, ws')
      else return (a, ws)
    | _ => return (a, ws)

/-- A condition after any number of `!`. -/
def testNot (ctx : Context) : Nat → List String → Except TestError (Bool × List String)
  | 0, ws => .ok (false, ws)
  | n + 1, ws =>
    match lexTest ws with
    | .bang => do
      let (a, ws') ← testNot ctx n (ws.drop 1)
      return (!a, ws')
    | _ => testPrimary ctx n ws

/-- A primary condition: parentheses, a unary test, a binary test or a word. The
arguments returned start at the last one read. -/
def testPrimary (ctx : Context) : Nat → List String → Except TestError (Bool × List String)
  | 0, ws => .ok (false, ws)
  | n + 1, ws =>
    match lexTest ws, ws with
    | .eoi, _ => .ok (false, [])
    | .lparen, _ :: rest =>
      if lexTest rest == .rparen then .ok (false, rest)
      else do
        let (a, ws') ← testOr ctx n rest
        match ws' with
        | _ :: close :: more => if close == ")" then .ok (a, close :: more) else .error .closingParen
        | _ => .error .closingParen
    | .unary op, _ :: rest =>
      match rest with
      | arg :: _ =>
        let r := if op == "-z" then arg.isEmpty else if op == "-n" then !arg.isEmpty
          else if op == "-t" then false else fileTest ctx op arg
        .ok (r, rest)
      | [] => .error (.argumentExpected op)
    | _, a :: rest =>
      match lexTest rest with
      | .binary op =>
        match rest.drop 1 with
        | b :: _ => do
          let r ← match op with
            | "=" => pure (a == b)
            | "!=" => pure (a != b)
            | "<" => pure (textLess a b)
            | ">" => pure (textLess b a)
            | "-nt" | "-ot" => pure false
            | "-ef" => pure (match ctx.stat a, ctx.stat b with
                | .ok (l1, _), .ok (l2, _) => l1 == l2
                | _, _ => false)
            | _ => do
              let x ← testNumber a
              let y ← testNumber b
              pure (match op with
                | "-eq" => x == y | "-ne" => x != y | "-gt" => x > y | "-ge" => x ≥ y
                | "-lt" => x < y | _ => x ≤ y)
          return (r, rest.drop 1)
        | [] => .error (.argumentExpected op)
      | _ => .ok (!a.isEmpty, a :: rest)
    | _, [] => .ok (false, [])

end

/-- The truth of a condition given as arguments (without the closing `]`). -/
def evalTest (ctx : Context) (args : List String) : Except TestError Bool :=
  go 4 false args
where
  /-- Applies the rules for three and four arguments, `negate` after each leading `!`. -/
  go : Nat → Bool → List String → Except TestError Bool
    | 0, negate, ws => finish negate ws
    | fuel + 1, negate, ws =>
      match ws with
      | [] => .ok negate
      | _ =>
        if ws.length == 3 && binaryTestOps.contains (ws.getD 1 "") then finish negate ws
        else if (ws.length == 3 || ws.length == 4) && ws.head? == some "(" && ws.getLast? == some ")" then
          finish negate ((ws.drop 1).dropLast)
        else if (ws.length == 3 || ws.length == 4) && ws.head? == some "!" then go fuel (!negate) (ws.drop 1)
        else finish negate ws
  /-- Evaluates the arguments as one condition; arguments left over are an error. -/
  finish (negate : Bool) (ws : List String) : Except TestError Bool := do
    let (r, rest) ← testOr ctx (4 * ws.length + 4) ws
    match rest with
    | last :: _ :: _ => .error (.unexpectedOperator last)
    | _ => return (r != negate)

/-- The complaint of the POSIX shell's `test` named `cmd` about a condition. -/
def TestError.posixMessage (cmd : String) : TestError → String
  | .missingBracket => cmd ++ ": missing ]"
  | .unexpectedOperator a => cmd ++ ": " ++ a ++ ": unexpected operator"
  | .argumentExpected op => cmd ++ ": " ++ op ++ ": argument expected"
  | .illegalNumber a => cmd ++ ": Illegal number: " ++ a
  | .closingParen => cmd ++ ": closing paren expected"

/-- The complaint of the larger shell's `test` named `cmd` about a condition on
`args`. -/
def TestError.bashMessage (cmd : String) (args : List String) : TestError → String
  | .missingBracket => cmd ++ ": missing `]'"
  | .unexpectedOperator a =>
    if args.length == 2 then cmd ++ ": " ++ args.headD a ++ ": unary operator expected"
    else if args.length == 3 then cmd ++ ": " ++ args.getD 1 a ++ ": binary operator expected"
    else cmd ++ ": too many arguments"
  | .argumentExpected op => cmd ++ ": " ++ op ++ ": unary operator expected"
  | .illegalNumber a => cmd ++ ": " ++ a ++ ": integer expression expected"
  | .closingParen => cmd ++ ": `)' expected"

end IacLint.Host
