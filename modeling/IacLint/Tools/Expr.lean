import IacLint.Host.Process
import IacLint.Text.Regex

/-!
# Evaluating expressions

`expr ARG…` evaluates the expression its arguments spell and writes the value. From
the loosest to the tightest:

* `A | B` is `A` unless it is null (empty or zero), then `B`, and `0` when both are;
* `A & B` is `A` unless either is null, then `0`;
* `< <= = == != >= >` compare as integers when both are, as text otherwise, giving
  `1` or `0`;
* `+ -`, then `* / %` are integer arithmetic, truncating toward zero;
* `STRING : REGEX` matches a basic regular expression at the start of the text: the
  text of the first group when there is one, the length matched otherwise;
* `match`, `substr STRING POS LEN`, `index STRING CHARS`, `length STRING`, and `+ TOKEN`
  for a token taken as text, then parentheses and plain tokens.

The run succeeds when the value is not null, fails with 1 when it is, and with 2 on
a mistake (a syntax error, a non-integer argument, division by zero, a bad regular
expression).

## Main definitions

* `ExprValue` — values
* `runExpr` — the `expr` utility
-/

namespace IacLint.Tools

open IacLint.Host IacLint.Text

/-- A value of an expression: an integer or a text. -/
inductive ExprValue where
  | int (n : Int)
  | text (s : String)
  deriving Inhabited

/-- Whether a text reads as an integer: an optional minus sign and digits. -/
def integerText? (s : String) : Option Int :=
  match s.toList with
  | '-' :: ds => if !ds.isEmpty && ds.all Char.isDigit then some (-((String.ofList ds).toNat! : Int)) else none
  | ds => if !ds.isEmpty && ds.all Char.isDigit then some (String.ofList ds).toNat! else none

namespace ExprValue

/-- The text a value is written as. -/
def asText : ExprValue → String
  | .int n => toString n
  | .text s => s

/-- The integer a value stands for, if any. -/
def toInt? : ExprValue → Option Int
  | .int n => some n
  | .text s => integerText? s

/-- Whether a value is null: the integer zero, the empty text, or a text of zeros after
an optional minus sign. -/
def isNull : ExprValue → Bool
  | .int n => n == 0
  | .text s =>
    let cs := match s.toList with
      | '-' :: r => r
      | r => r
    s.isEmpty || (!cs.isEmpty && cs.all (· = '0')) || s == "-"

end ExprValue

/-- A mistake in an expression: its message and the exit status. -/
abbrev ExprError := String × Nat

/-- Reading an expression: the arguments left and the argument read last. -/
abbrev ExprReader := StateT (List String × String) (Except ExprError)

/-- A syntax error. -/
def exprSyntax (m : String) : ExprReader α := throw ("syntax error: " ++ m, 2)

/-- Takes the next argument if it is `tok`. -/
def nextIs (tok : String) : ExprReader Bool := do
  let (args, _) ← get
  match args with
  | a :: rest => if a == tok then do set (rest, a); return true else return false
  | [] => return false

/-- The value of `STRING : REGEX`. -/
def colonMatch (s re : ExprValue) : Except ExprError ExprValue :=
  match parseRegex false re.asText with
  | .error e => .error (e, 2)
  | .ok (r, groups) =>
    let text := s.asText.toList.toArray
    match r.matchAtStart text {} with
    | some (e, gs) =>
      if groups > 0 then .ok (.text ((groupText text gs 1).getD "")) else .ok (.int e)
    | none => if groups > 0 then .ok (.text "") else .ok (.int 0)

/-- Compares two values by an operator. -/
def compareValues (op : String) (a b : ExprValue) : ExprValue :=
  let r : Bool := match a.toInt?, b.toInt? with
    | some x, some y =>
      match op with
      | "<" => x < y | "<=" => x ≤ y | ">" => x > y | ">=" => x ≥ y
      | "!=" => x != y | _ => x == y
    | _, _ =>
      let x := a.asText
      let y := b.asText
      match op with
      | "<" => decide (x < y) | "<=" => decide (x ≤ y) | ">" => decide (y < x) | ">=" => decide (y ≤ x)
      | "!=" => x != y | _ => x == y
  .int (if r then 1 else 0)

/-- Integer arithmetic of an operator. -/
def arithmetic (op : String) (a b : ExprValue) : Except ExprError ExprValue :=
  match a.toInt?, b.toInt? with
  | some x, some y =>
    match op with
    | "+" => .ok (.int (x + y))
    | "-" => .ok (.int (x - y))
    | "*" => .ok (.int (x * y))
    | "/" => if y == 0 then .error ("division by zero", 2) else .ok (.int (x.tdiv y))
    | _ => if y == 0 then .error ("division by zero", 2) else .ok (.int (x.tmod y))
  | _, _ => .error ("non-integer argument", 2)

/-- Lifts a computation that may fail. -/
def liftExpr (r : Except ExprError α) : ExprReader α :=
  match r with
  | .ok v => return v
  | .error e => throw e

mutual

/-- `|`. -/
def exprOr : Nat → ExprReader ExprValue
  | 0 => return .int 0
  | n + 1 => do
    let l ← exprAnd n
    if ← nextIs "|" then
      let r ← exprOr n
      return (if !l.isNull then l else if !r.isNull then r else .int 0)
    else return l

/-- `&`. -/
def exprAnd : Nat → ExprReader ExprValue
  | 0 => return .int 0
  | n + 1 => do
    let l ← exprCompare n
    if ← nextIs "&" then
      let r ← exprAnd n
      return (if l.isNull || r.isNull then .int 0 else l)
    else return l

/-- Comparisons, left to right. -/
def exprCompare : Nat → ExprReader ExprValue
  | 0 => return .int 0
  | n + 1 => do
    let l ← exprSum n
    compareRest n l

/-- The comparisons after a value. -/
def compareRest : Nat → ExprValue → ExprReader ExprValue
  | 0, l => return l
  | n + 1, l => do
    let (args, _) ← get
    match args with
    | op :: rest =>
      if ["<", "<=", "=", "==", "!=", ">=", ">"].contains op then do
        set (rest, op)
        let r ← exprSum n
        compareRest n (compareValues op l r)
      else return l
    | [] => return l

/-- `+` and `-`. -/
def exprSum : Nat → ExprReader ExprValue
  | 0 => return .int 0
  | n + 1 => do
    let l ← exprProduct n
    sumRest n l

/-- The sums after a value. -/
def sumRest : Nat → ExprValue → ExprReader ExprValue
  | 0, l => return l
  | n + 1, l => do
    let (args, _) ← get
    match args with
    | op :: rest =>
      if op == "+" || op == "-" then do
        set (rest, op)
        let r ← exprProduct n
        sumRest n (← liftExpr (arithmetic op l r))
      else return l
    | [] => return l

/-- `*`, `/` and `%`. -/
def exprProduct : Nat → ExprReader ExprValue
  | 0 => return .int 0
  | n + 1 => do
    let l ← exprColon n
    productRest n l

/-- The products after a value. -/
def productRest : Nat → ExprValue → ExprReader ExprValue
  | 0, l => return l
  | n + 1, l => do
    let (args, _) ← get
    match args with
    | op :: rest =>
      if op == "*" || op == "/" || op == "%" then do
        set (rest, op)
        let r ← exprColon n
        productRest n (← liftExpr (arithmetic op l r))
      else return l
    | [] => return l

/-- `:`. -/
def exprColon : Nat → ExprReader ExprValue
  | 0 => return .int 0
  | n + 1 => do
    let l ← exprUnary n
    colonRest n l

/-- The matches after a value. -/
def colonRest : Nat → ExprValue → ExprReader ExprValue
  | 0, l => return l
  | n + 1, l => do
    if ← nextIs ":" then
      let r ← exprUnary n
      colonRest n (← liftExpr (colonMatch l r))
    else return l

/-- The keywords and `+ TOKEN`. -/
def exprUnary : Nat → ExprReader ExprValue
  | 0 => return .int 0
  | n + 1 => do
    if ← nextIs "+" then
      let (args, last) ← get
      match args with
      | a :: rest => do set (rest, a); return .text a
      | [] => exprSyntax ("missing argument after '" ++ last ++ "'")
    else if ← nextIs "length" then
      let v ← exprUnary n
      return .int v.asText.length
    else if ← nextIs "match" then
      let s ← exprUnary n
      let r ← exprUnary n
      liftExpr (colonMatch s r)
    else if ← nextIs "index" then
      let s ← exprUnary n
      let cs ← exprUnary n
      let chars := cs.asText.toList
      let pos := s.asText.toList.findIdx? chars.contains
      return .int (match pos with | some i => i + 1 | none => 0)
    else if ← nextIs "substr" then
      let s ← exprUnary n
      let i ← exprUnary n
      let l ← exprUnary n
      match i.toInt?, l.toInt? with
      | some p, some len =>
        let text := s.asText.toList
        if p ≤ 0 || len ≤ 0 || p.toNat > text.length then return .text ""
        else return .text (String.ofList ((text.drop (p.toNat - 1)).take len.toNat))
      | _, _ => return .text ""
    else exprPrimary n

/-- Parentheses and plain tokens. -/
def exprPrimary : Nat → ExprReader ExprValue
  | 0 => return .int 0
  | n + 1 => do
    let (args, last) ← get
    match args with
    | [] => exprSyntax ("missing argument after '" ++ last ++ "'")
    | a :: rest =>
      if a == "(" then do
        set (rest, a)
        let v ← exprOr n
        let (args, last) ← get
        match args with
        | [] => exprSyntax ("expecting ')' after '" ++ last ++ "'")
        | b :: more =>
          if b == ")" then do set (more, b); return v
          else exprSyntax ("expecting ')' instead of '" ++ b ++ "'")
      else if a == ")" then exprSyntax "unexpected ')'"
      else do
        set (rest, a)
        return .text a

end

/-- `expr` run as `name`. -/
def runExpr (name : String) (args : List String) : Completed :=
  let args := match args with
    | "--" :: rest => rest
    | _ => args
  if args.isEmpty then
    { complaint (name ++ ": missing operand\nTry '" ++ name ++ " --help' for more information.") with status := 2 }
  else
    match (exprOr (4 * args.length + 8)).run (args, "") with
    | .ok (v, ([], _)) =>
      { (({} : Completed).say (v.asText ++ "\n")) with status := if v.isNull then 1 else 0 }
    | .ok (_, (a :: _, _)) =>
      { complaint (name ++ ": syntax error: unexpected argument '" ++ a ++ "'") with status := 2 }
    | .error (m, st) => { complaint (name ++ ": " ++ m) with status := st }

end IacLint.Tools
