import PgConsole.Shell.Token
import PgConsole.Text.Blank

namespace PgConsole.Shell.Arithmetic

/-!
# Arithmetic in scripts

Whole numbers of 64 bits, variables by name, and the usual operators. A comparison is 1 when
it holds and 0 when it does not.
-/

/-- A value in 64 bits. -/
def wrap (value : Int) : Int := value.bmod UInt64.size

/-- The operators of each level, from those that bind least to those that bind most. Longer
ones stand before those that begin them. -/
def levels : List (List String) := [
  ["||"], ["&&"], ["|"], ["^"], ["&"], ["==", "!="], ["<=", ">=", "<", ">"], ["<<", ">>"],
  ["+", "-"], ["*", "/", "%"]]

/-- One or nought for a truth value. -/
def ofBool (value : Bool) : Int := if value then 1 else 0

/-- Combine two values; nothing when a divisor is nought. -/
def combine? (operator : String) (left right : Int) : Option Int :=
  match operator with
  | "||" => some (ofBool (left != 0 || right != 0))
  | "&&" => some (ofBool (left != 0 && right != 0))
  | "|" => some ((BitVec.ofInt 64 left ||| BitVec.ofInt 64 right).toInt)
  | "^" => some ((BitVec.ofInt 64 left ^^^ BitVec.ofInt 64 right).toInt)
  | "&" => some ((BitVec.ofInt 64 left &&& BitVec.ofInt 64 right).toInt)
  | "==" => some (ofBool (left = right))
  | "!=" => some (ofBool (left ≠ right))
  | "<=" => some (ofBool (left ≤ right))
  | ">=" => some (ofBool (right ≤ left))
  | "<" => some (ofBool (left < right))
  | ">" => some (ofBool (right < left))
  | "<<" => some (wrap (left * Int.pow 2 (right % 64).toNat))
  | ">>" => some (left / Int.pow 2 (right % 64).toNat)
  | "+" => some (wrap (left + right))
  | "-" => some (wrap (left - right))
  | "*" => some (wrap (left * right))
  | "/" => if right = 0 then none else some (wrap (left.tdiv right))
  | "%" => if right = 0 then none else some (left.tmod right)
  | _ => none

/-- The value of a digit in bases up to sixteen. -/
def digitIn? (base : Nat) (c : Char) : Option Nat :=
  let lower := c.toLower
  let value :=
    if Text.isDigit c then Text.digitValue c
    else if 'a' ≤ lower && lower ≤ 'f' then lower.toNat - 87
    else base
  if value < base then some value else none

/-- A numeral taken from the front of a text: its value, and what follows it. A nought in front
means base eight, and a nought with an `x` base sixteen. -/
def numeral? (text : List Char) : Option (Int × List Char) :=
  let (base, rest) : Nat × List Char :=
    match text with
    | '0' :: 'x' :: rest => (16, rest)
    | '0' :: 'X' :: rest => (16, rest)
    | '0' :: _ => (8, text)
    | _ => (10, text)
  let digits := rest.takeWhile fun c => (digitIn? base c).isSome
  if digits.isEmpty then none
  else
    let value := digits.foldl (fun value c => value * base + (digitIn? base c).getD 0) 0
    some (Int.ofNat value, rest.drop digits.length)

/-- The whole number that a text spells in base ten. -/
def decimal? (text : String) : Option Int :=
  let value? (digits : List Char) : Option Int :=
    if digits.isEmpty || !digits.all Text.isDigit then none
    else some (Int.ofNat (digits.foldl (fun value c => value * 10 + Text.digitValue c) 0))
  match Text.trim text.toList with
  | '-' :: digits => (value? digits).map (-·)
  | '+' :: digits => value? digits
  | digits => value? digits

/-- The number that a variable holds, nought when it holds none. -/
def numberIn (text : String) : Int :=
  let (negative, digits) : Bool × List Char :=
    match Text.trim text.toList with
    | '-' :: digits => (true, digits)
    | digits => (false, digits)
  match numeral? digits with
  | some (value, []) => wrap (if negative then -value else value)
  | _ => 0

/-- The operator at the front of a text. A sign that is the start of a longer operator of
another level is not taken. -/
def operator? (level : List String) (text : List Char) : Option String :=
  let longest := (levels.flatten.filter fun sign => sign.toList.isPrefixOf text).foldl
    (fun (best : String) sign => if best.length < sign.length then sign else best) ""
  if level.contains longest then some longest else none

/-- What an evaluation yields: a value and the text after it, or what is wrong. -/
abbrev Evaluation := Except String (Int × List Char)

mutual

/-- Evaluate a chain of operators of the given levels. -/
def chain (lookup : String → String) : Nat → List (List String) → List Char → Evaluation
  | 0, _, _ => .error "expecting primary"
  | fuel + 1, [], text => operand lookup fuel (Text.trimStart text)
  | fuel + 1, level :: tighter, text => do
    let (first, rest) ← chain lookup fuel tighter text
    chainRest lookup fuel level tighter first rest

/-- Go on after the first operand of a chain. -/
def chainRest (lookup : String → String) : Nat → List String → List (List String) → Int →
    List Char → Evaluation
  | 0, _, _, _, _ => .error "expecting primary"
  | fuel + 1, level, tighter, value, text =>
    let text := Text.trimStart text
    match operator? level text with
    | none => .ok (value, text)
    | some sign => do
      let (second, rest) ← chain lookup fuel tighter (text.drop sign.length)
      match combine? sign value second with
      | some result => chainRest lookup fuel level tighter result rest
      | none => .error "division by zero"

/-- Evaluate a number, a variable, a signed operand or a parenthesis. -/
def operand (lookup : String → String) : Nat → List Char → Evaluation
  | 0, _ => .error "expecting primary"
  | _, [] => .error "expecting primary"
  | fuel + 1, c :: rest =>
    if c = '(' then do
      let (value, rest) ← chain lookup fuel levels rest
      match Text.trimStart rest with
      | ')' :: rest => .ok (value, rest)
      | _ => .error "expecting ')'"
    else if c = '-' then do
      let (value, rest) ← operand lookup fuel (Text.trimStart rest)
      .ok (wrap (-value), rest)
    else if c = '+' then operand lookup fuel (Text.trimStart rest)
    else if c = '~' then do
      let (value, rest) ← operand lookup fuel (Text.trimStart rest)
      .ok (wrap (-value - 1), rest)
    else if c = '!' then do
      let (value, rest) ← operand lookup fuel (Text.trimStart rest)
      .ok (ofBool (value = 0), rest)
    else
      match numeral? (c :: rest) with
      | some (value, rest) => .ok (wrap value, rest)
      | none =>
        let name := (c :: rest).takeWhile isNameChar
        if name.isEmpty || Text.isDigit c then .error "expecting primary"
        else .ok (numberIn (lookup (String.ofList name)), (c :: rest).drop name.length)

end

/-- The value of an expression, or what is wrong with it. -/
def evaluate (lookup : String → String) (text : List Char) : Except String Int :=
  if (Text.trim text).isEmpty then .ok 0
  else
    match chain lookup (16 * text.length + 32) levels text with
    | .ok (value, rest) => if (Text.trim rest).isEmpty then .ok value else .error "expecting EOF"
    | .error message => .error message

end PgConsole.Shell.Arithmetic
