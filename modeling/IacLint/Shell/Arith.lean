/-!
# Shell arithmetic

The expressions of `$((…))`: integers of 64 bits that wrap around, written in decimal,
in octal after a leading `0` and in hexadecimal after `0x`; variables; the operators
of C with their precedence (`?:`, `||`, `&&`, `|`, `^`, `&`, equality, order, shifts,
sums, products, the unary `+ - ! ~`) and the assignments `=`, `+=`, …. Division rounds
toward zero. `&&`, `||` and `?:` evaluate only the operands they need, so an
assignment in the other one does not happen.

The larger shell adds `**`, `++`, `--` and the comma, reads a variable's value as an
expression, and lets numbers wrap instead of stopping at the largest one; the POSIX
shell reads a variable's value only as a number and fails on anything else.

## Main definitions

* `ArithExpr` — expressions
* `ArithError` — why an expression has no value
* `evaluate` — the value of an expression text and the assignments it makes
-/

namespace IacLint.Shell

/-- An arithmetic expression. -/
inductive ArithExpr where
  | num (v : Int)
  | var (name : String)
  | unary (op : String) (e : ArithExpr)
  | binary (op : String) (a b : ArithExpr)
  | cond (c a b : ArithExpr)
  /-- An assignment with `=` (empty `op`) or a compound one such as `+=` (`op` is `+`). -/
  | assign (name : String) (op : String) (e : ArithExpr)
  /-- `++x`, `x--` and the like: the change, and whether the new value is the result. -/
  | step (name : String) (delta : Int) (pre : Bool)
  deriving Inhabited

/-- Why an expression has no value. -/
inductive ArithError where
  /-- The expression cannot be read: what was expected, and the text from where it
  failed. -/
  | malformed (reason : String) (rest : String)
  /-- A division or remainder by zero, with the text of the divisor on. -/
  | divisionByZero (rest : String)
  /-- A variable whose value is no number. -/
  | illegalNumber (value : String)
  /-- A number with a digit too great for its base. -/
  | badDigit (text : String)
  deriving Inhabited

/-- Wraps an integer to 64 bits with a sign. -/
def wrap64 (v : Int) : Int :=
  let m := v % 18446744073709551616
  if m ≥ 9223372036854775808 then m - 18446744073709551616 else m

/-- The 64 bits of an integer, as a natural number. -/
def bits64 (v : Int) : Nat := (v % 18446744073709551616).toNat

/-- A bitwise operation on the 64 bits of two integers. -/
def bitwise64 (f : Nat → Nat → Nat) (a b : Int) : Int := wrap64 (f (bits64 a) (bits64 b))

/-- The largest integer of 64 bits. -/
def maxInt64 : Int := 9223372036854775807

/-- The smallest integer of 64 bits. -/
def minInt64 : Int := -9223372036854775808

/-- A token of an expression. -/
inductive ArithToken where
  | num (v : Int)
  | name (s : String)
  | op (s : String)
  deriving Inhabited, BEq

/-- The operators, longer ones first. -/
def arithOps : List String :=
  ["<<=", ">>=", "**", "++", "--", "<<", ">>", "<=", ">=", "==", "!=", "&&", "||", "+=", "-=", "*=",
    "/=", "%=", "&=", "^=", "|=", "+", "-", "*", "/", "%", "<", ">", "&", "^", "|", "!", "~", "?",
    ":", "=", "(", ")", ","]

/-- The value of a digit in bases up to 64. -/
def digitValue (c : Char) : Option Nat :=
  if '0' ≤ c && c ≤ '9' then some (c.toNat - 48)
  else if 'a' ≤ c && c ≤ 'z' then some (c.toNat - 87)
  else if 'A' ≤ c && c ≤ 'Z' then some (c.toNat - 55)
  else none

/-- The value of digits in a base. -/
def digitsValue (base : Nat) (ds : List Char) : Nat :=
  ds.foldl (fun acc d => acc * base + (digitValue d).getD 0) 0

/-- Reads a number at the front of a text: its value and the characters read. Decimal
digits, or octal ones after `0`, or hexadecimal ones after `0x`. The POSIX shell stops
at the largest integer (`clamp`); the larger shell wraps and refuses digits too great
for the base. -/
def readNumber (bash : Bool) (cs : List Char) : Except ArithError (Int × Nat) :=
  let finish (v : Nat) (k : Nat) : Except ArithError (Int × Nat) :=
    .ok (if bash then wrap64 v else min (v : Int) maxInt64, k)
  match cs with
  | '0' :: x :: rest =>
    if x = 'x' || x = 'X' then
      let ds := rest.takeWhile fun d => match digitValue d with | some v => v < 16 | none => false
      if ds.isEmpty then (if bash then finish 0 2 else finish 0 1)
      else finish (digitsValue 16 ds) (2 + ds.length)
    else
      let ds := (x :: rest).takeWhile Char.isAlphanum
      if bash then
        if ds.all fun d => '0' ≤ d && d ≤ '7' then finish (digitsValue 8 ds) (1 + ds.length)
        else .error (.badDigit (String.ofList ('0' :: ds)))
      else
        let os := (x :: rest).takeWhile fun d => '0' ≤ d && d ≤ '7'
        finish (digitsValue 8 os) (1 + os.length)
  | _ =>
    let ds := cs.takeWhile Char.isDigit
    if bash then
      match cs.drop ds.length with
      | '#' :: rest =>
        let base := digitsValue 10 ds
        let body := rest.takeWhile fun d => d.isAlphanum || d = '@' || d = '_'
        if 2 ≤ base && base ≤ 64 && body.all (fun d => match digitValue d with | some v => v < base | none => false) then
          finish (digitsValue base body) (ds.length + 1 + body.length)
        else .error (.badDigit (String.ofList (ds ++ '#' :: body)))
      | _ =>
        let tail := (cs.drop ds.length).takeWhile Char.isAlphanum
        if tail.isEmpty then finish (digitsValue 10 ds) ds.length
        else .error (.badDigit (String.ofList (ds ++ tail)))
    else finish (digitsValue 10 ds) ds.length

/-- The tokens of an expression, each with the text from its start on. -/
def tokenize (bash : Bool) : Nat → List Char → Except ArithError (List (ArithToken × String))
  | 0, _ => .ok []
  | _ + 1, [] => .ok []
  | fuel + 1, c :: rest =>
    if c = ' ' || c = '\t' || c = '\n' then tokenize bash fuel rest
    else
      let here := String.ofList (c :: rest)
      if c.isDigit then do
        let (v, k) ← readNumber bash (c :: rest)
        let more ← tokenize bash fuel ((c :: rest).drop k)
        return (.num v, here) :: more
      else if c.isAlpha || c = '_' then do
        let name := (c :: rest).takeWhile fun d => d.isAlphanum || d = '_'
        let more ← tokenize bash fuel ((c :: rest).drop name.length)
        return (.name (String.ofList name), here) :: more
      else
        let ops := if bash then arithOps else arithOps.filter fun o => o != "**" && o != "++" && o != "--" && o != ","
        match ops.find? fun o => o.toList.isPrefixOf (c :: rest) with
        | some o => do
          let more ← tokenize bash fuel ((c :: rest).drop o.length)
          return (.op o, here) :: more
        | none => .error (.malformed "expecting primary" here)

/-- Tokens still to read. -/
abbrev Tokens := List (ArithToken × String)

/-- The binary operators by level of precedence, loosest first. -/
def binaryLevels : List (List String) :=
  [["||"], ["&&"], ["|"], ["^"], ["&"], ["==", "!="], ["<", "<=", ">", ">="], ["<<", ">>"],
    ["+", "-"], ["*", "/", "%"]]

/-- The text of the first token, or the empty text at the end. -/
def restText (ts : Tokens) : String := (ts.head?.map (·.2)).getD ""

/-- Whether the next token is the operator `o`. -/
def nextIsOp (ts : Tokens) (o : String) : Bool :=
  match ts with
  | (.op p, _) :: _ => p == o
  | _ => false

mutual

/-- An expression with the comma of the larger shell. -/
def parseComma (bash : Bool) : Nat → Tokens → Except ArithError (ArithExpr × Tokens)
  | 0, ts => .error (.malformed "expecting primary" (restText ts))
  | n + 1, ts => do
    let (a, ts) ← parseAssign bash n ts
    if bash && nextIsOp ts "," then do
      let (b, ts) ← parseComma bash n (ts.drop 1)
      return (.binary "," a b, ts)
    else return (a, ts)

/-- An assignment, or a conditional expression. -/
def parseAssign (bash : Bool) : Nat → Tokens → Except ArithError (ArithExpr × Tokens)
  | 0, ts => .error (.malformed "expecting primary" (restText ts))
  | n + 1, ts =>
    match ts with
    | (.name v, _) :: (.op o, _) :: more =>
      if o == "=" || (o.length ≥ 2 && o.endsWith "=" && o != "==" && o != "!=" && o != "<=" && o != ">=") then do
        let (e, ts) ← parseAssign bash n more
        return (.assign v (String.ofList (o.toList.dropLast)) e, ts)
      else parseCond bash n ts
    | _ => parseCond bash n ts

/-- A conditional expression `c ? a : b`, or a binary one. -/
def parseCond (bash : Bool) : Nat → Tokens → Except ArithError (ArithExpr × Tokens)
  | 0, ts => .error (.malformed "expecting primary" (restText ts))
  | n + 1, ts => do
    let (c, ts) ← parseBinary bash n 0 ts
    if nextIsOp ts "?" then do
      let (a, ts) ← parseComma bash n (ts.drop 1)
      if nextIsOp ts ":" then do
        let (b, ts) ← parseAssign bash n (ts.drop 1)
        return (.cond c a b, ts)
      else .error (.malformed "expecting ':'" (restText ts))
    else return (c, ts)

/-- A binary expression of the operators from level `level` on, grouping to the left. -/
def parseBinary (bash : Bool) : Nat → Nat → Tokens → Except ArithError (ArithExpr × Tokens)
  | 0, _, ts => .error (.malformed "expecting primary" (restText ts))
  | n + 1, level, ts =>
    match binaryLevels[level]? with
    | none => parsePower bash n ts
    | some ops => do
      let (a, ts) ← parseBinary bash n (level + 1) ts
      binaryRest bash n level ops a ts

/-- The operations of one level after their left operand `a`. -/
def binaryRest (bash : Bool) : Nat → Nat → List String → ArithExpr → Tokens →
    Except ArithError (ArithExpr × Tokens)
  | 0, _, _, a, ts => .ok (a, ts)
  | n + 1, level, ops, a, ts =>
    match ts with
    | (.op o, _) :: more =>
      if ops.contains o then do
        let (b, ts) ← parseBinary bash n (level + 1) more
        binaryRest bash n level ops (.binary o a b) ts
      else .ok (a, ts)
    | _ => .ok (a, ts)

/-- A power `a ** b` of the larger shell, grouping to the right, or a unary expression. -/
def parsePower (bash : Bool) : Nat → Tokens → Except ArithError (ArithExpr × Tokens)
  | 0, ts => .error (.malformed "expecting primary" (restText ts))
  | n + 1, ts => do
    let (a, ts) ← parseUnary bash n ts
    if bash && nextIsOp ts "**" then do
      let (b, ts) ← parsePower bash n (ts.drop 1)
      return (.binary "**" a b, ts)
    else return (a, ts)

/-- A unary expression. -/
def parseUnary (bash : Bool) : Nat → Tokens → Except ArithError (ArithExpr × Tokens)
  | 0, ts => .error (.malformed "expecting primary" (restText ts))
  | n + 1, ts =>
    match ts with
    | (.op o, _) :: more =>
      if o == "+" || o == "-" || o == "!" || o == "~" then do
        let (e, ts) ← parseUnary bash n more
        return (.unary o e, ts)
      else if o == "++" || o == "--" then
        match more with
        | (.name v, _) :: rest => .ok (.step v (if o == "++" then 1 else -1) true, rest)
        | _ => .error (.malformed "expecting primary" (restText ts))
      else parsePrimary bash n ts
    | _ => parsePrimary bash n ts

/-- A number, a variable (with `++` or `--` after it in the larger shell) or an
expression in parentheses. -/
def parsePrimary (bash : Bool) : Nat → Tokens → Except ArithError (ArithExpr × Tokens)
  | 0, ts => .error (.malformed "expecting primary" (restText ts))
  | n + 1, ts =>
    match ts with
    | (.num v, _) :: more => .ok (.num v, more)
    | (.name v, _) :: more =>
      match more with
      | (.op "++", _) :: rest => if bash then .ok (.step v 1 false, rest) else .ok (.var v, more)
      | (.op "--", _) :: rest => if bash then .ok (.step v (-1) false, rest) else .ok (.var v, more)
      | _ => .ok (.var v, more)
    | (.op "(", _) :: more => do
      let (e, ts) ← parseComma bash n more
      if nextIsOp ts ")" then return (e, ts.drop 1)
      else .error (.malformed "expecting ')'" (restText ts))
    | _ => .error (.malformed "expecting primary" (restText ts))

end

/-- Reads a whole expression. -/
def parse (bash : Bool) (text : String) : Except ArithError ArithExpr := do
  let ts ← tokenize bash (text.length + 1) text.toList
  if ts.isEmpty then return .num 0
  let (e, rest) ← parseComma bash (20 * ts.length + 20) ts
  if rest.isEmpty then return e
  else .error (.malformed "expecting EOF" (restText rest))

/-- Variables seen by an expression: the shell's values, then the assignments made so
far, the latest first. -/
structure ArithVars where
  lookup : String → Option String
  assigned : List (String × Int) := []

/-- The value of a number written as a variable's value in the POSIX shell: an optional
sign and a number, with blanks around it. -/
def numberValue? (s : String) : Option Int :=
  let cs := (s.toList.dropWhile fun c => c = ' ' || c = '\t' || c = '\n').reverse.dropWhile
    (fun c => c = ' ' || c = '\t' || c = '\n') |>.reverse
  let (neg, body) := match cs with
    | '-' :: r => (true, r)
    | '+' :: r => (false, r)
    | r => (false, r)
  if body.isEmpty then none
  else
    match readNumber false body with
    | .ok (v, k) => if k = body.length then some (if neg then -v else v) else none
    | .error _ => none

/-- The arithmetic of one operator. -/
def applyBinary (bash : Bool) (op : String) (a b : Int) (rest : String) : Except ArithError Int :=
  let bool (p : Bool) : Int := if p then 1 else 0
  match op with
  | "+" => .ok (wrap64 (a + b))
  | "-" => .ok (wrap64 (a - b))
  | "*" => .ok (wrap64 (a * b))
  | "/" =>
    if b = 0 then .error (.divisionByZero rest)
    else if a = minInt64 && b = -1 then .ok (if bash then minInt64 else maxInt64)
    else .ok (wrap64 (a.tdiv b))
  | "%" =>
    if b = 0 then .error (.divisionByZero rest)
    else if b = -1 then .ok 0
    else .ok (a.tmod b)
  | "**" => .ok (if b < 0 then 0 else wrap64 (Int.pow a b.toNat))
  | "<<" => .ok (wrap64 (a * Int.pow 2 (b % 64).toNat))
  | ">>" => .ok (a / Int.pow 2 (b % 64).toNat)
  | "<" => .ok (bool (a < b))
  | "<=" => .ok (bool (a ≤ b))
  | ">" => .ok (bool (a > b))
  | ">=" => .ok (bool (a ≥ b))
  | "==" => .ok (bool (a == b))
  | "!=" => .ok (bool (a != b))
  | "&" => .ok (bitwise64 (· &&& ·) a b)
  | "|" => .ok (bitwise64 (· ||| ·) a b)
  | "^" => .ok (bitwise64 (· ^^^ ·) a b)
  | "," => .ok b
  | _ => .ok 0

mutual

/-- The value of an expression, with the variables and assignments so far. -/
def eval (bash : Bool) : Nat → ArithVars → ArithExpr → Except ArithError (Int × ArithVars)
  | 0, vs, _ => .ok (0, vs)
  | n + 1, vs, e =>
    match e with
    | .num v => .ok (v, vs)
    | .var name => do
      let v ← varValue bash n vs name
      return (v, vs)
    | .unary op a => do
      let (x, vs) ← eval bash n vs a
      let r : Int := match op with
        | "-" => wrap64 (-x)
        | "!" => if x == 0 then 1 else 0
        | "~" => -x - 1
        | _ => x
      return (r, vs)
    | .binary "&&" a b => do
      let (x, vs) ← eval bash n vs a
      if x == 0 then return (0, vs)
      let (y, vs) ← eval bash n vs b
      return (if y == 0 then 0 else 1, vs)
    | .binary "||" a b => do
      let (x, vs) ← eval bash n vs a
      if x != 0 then return (1, vs)
      let (y, vs) ← eval bash n vs b
      return (if y == 0 then 0 else 1, vs)
    | .binary op a b => do
      let (x, vs) ← eval bash n vs a
      let (y, vs) ← eval bash n vs b
      let r ← applyBinary bash op x y (toString y)
      return (r, vs)
    | .cond c a b => do
      let (x, vs) ← eval bash n vs c
      if x != 0 then eval bash n vs a else eval bash n vs b
    | .assign name op a => do
      let (y, vs) ← eval bash n vs a
      let r ← if op.isEmpty then pure y
        else do
          let x ← varValue bash n vs name
          applyBinary bash op x y (toString y)
      return (r, { vs with assigned := (name, r) :: vs.assigned })
    | .step name delta pre => do
      let x ← varValue bash n vs name
      let r := wrap64 (x + delta)
      return (if pre then r else x, { vs with assigned := (name, r) :: vs.assigned })

/-- The value of a variable: unset or empty is zero. -/
def varValue (bash : Bool) : Nat → ArithVars → String → Except ArithError Int
  | 0, _, _ => .ok 0
  | n + 1, vs, name =>
    match vs.assigned.lookup name with
    | some v => .ok v
    | none =>
      match vs.lookup name with
      | none => .ok 0
      | some s =>
        if s.all (fun c => c = ' ' || c = '\t' || c = '\n') then .ok 0
        else if bash then
          match parse true s with
          | .ok e => (eval true n vs e).map (·.1)
          | .error err => .error err
        else
          match numberValue? s with
          | some v => .ok v
          | none => .error (.illegalNumber s)

end

/-- The value of an expression text and the assignments it makes, in order. -/
def evaluate (bash : Bool) (text : String) (lookup : String → Option String) :
    Except ArithError (Int × List (String × Int)) := do
  let e ← parse bash text
  let (v, vs) ← eval bash (8 * text.length + 64) { lookup } e
  return (v, vs.assigned.reverse)

/-- The complaint of the POSIX shell about an expression. -/
def ArithError.posixMessage (text : String) : ArithError → String
  | .malformed reason _ => "arithmetic expression: " ++ reason ++ ": \"" ++ text ++ "\""
  | .divisionByZero _ => "arithmetic expression: division by zero: \"" ++ text ++ "\""
  | .illegalNumber v => "Illegal number: " ++ v
  | .badDigit _ => "arithmetic expression: expecting EOF: \"" ++ text ++ "\""

/-- The complaint of the larger shell about an expression. -/
def ArithError.bashMessage (text : String) : ArithError → String
  | .malformed reason rest =>
    let what := if reason == "expecting primary" then "syntax error: operand expected"
      else "syntax error in expression"
    text ++ ": " ++ what ++ " (error token is \"" ++ rest ++ "\")"
  | .divisionByZero rest => text ++ ": division by 0 (error token is \"" ++ rest ++ "\")"
  | .illegalNumber v => v ++ ": syntax error in expression"
  | .badDigit t => t ++ ": value too great for base (error token is \"" ++ t ++ "\")"

end IacLint.Shell
