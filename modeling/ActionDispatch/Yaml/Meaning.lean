import ActionDispatch.Decimal.Binary
import ActionDispatch.Yaml.Node

/-!
# What a scalar means

A plain scalar can stand for nothing, a truth value or a number. A tag can ask for one of these kinds,
and then the text must fit.
-/

namespace ActionDispatch.Yaml

inductive Meaning
  | nothing
  | truth (value : Bool)
  /-- An integer that fits into 64 bits. -/
  | integer (value : Int)
  /-- An integer that needs more than 64 bits; `signed` tells how it is read. -/
  | wideInteger (value : Int) (signed : Bool)
  | decimal (text : String)
  | text (value : String)

def isNothingWord (s : String) : Bool := s == "null" || s == "Null" || s == "NULL" || s == "~"

def truthOf? : String → Option Bool
  | "true" | "True" | "TRUE" => some true
  | "false" | "False" | "FALSE" => some false
  | _ => none

/-- The value of digits in a base, if there is at least one and all are digits of the base. -/
def digitsIn? (base : Nat) (cs : List Char) : Option Nat :=
  if cs.isEmpty then none
  else
    cs.foldlM (fun n c => do
      let d ← Text.hexValue? c
      if d < base then some (base * n + d) else none) 0

/-- Zeros in front of digits, or of nothing but zeros: such a text is no number. -/
def hasLeadingZero (cs : List Char) : Bool :=
  let cs := match cs with
    | '-' :: rest | '+' :: rest => rest
    | cs => cs
  match cs with
  | '0' :: c :: rest => c.isDigit && rest.all Char.isDigit
  | _ => false

def based? : List Char → Option Nat
  | '0' :: 'x' :: digits => digitsIn? 16 digits
  | '0' :: 'o' :: digits => digitsIn? 8 digits
  | '0' :: 'b' :: digits => digitsIn? 2 digits
  | _ => none

/-- A number without a minus sign that is smaller than `2 ^ bits`. -/
def unsigned? (bits : Nat) (cs : List Char) : Option Nat :=
  let within (n : Nat) : Option Nat := if n < Nat.pow 2 bits then some n else none
  let body := match cs with
    | '+' :: rest => rest
    | cs => cs
  ((based? body).bind within).or
    (if hasLeadingZero cs then none else (digitsIn? 10 body).bind within)

/-- A number of `bits` bits that may have a minus sign. -/
def negative? (bits : Nat) (cs : List Char) : Option Int :=
  let within (n : Int) : Option Int :=
    let bound : Int := Nat.pow 2 (bits - 1)
    if -bound ≤ n ∧ n < bound then some n else none
  let decimal :=
    if hasLeadingZero cs then none
    else
      match cs with
      | '-' :: rest => (digitsIn? 10 rest).bind fun n => within (-n)
      | '+' :: rest => (digitsIn? 10 rest).bind fun n => within n
      | cs => (digitsIn? 10 cs).bind fun n => within n
  match cs with
  | '-' :: rest => ((based? rest).bind fun n => within (-n)).or decimal
  | _ => decimal

def integerOf? (s : String) : Option Meaning :=
  let cs := s.toList
  ((unsigned? 64 cs).map fun n => .integer n).or
    (((negative? 64 cs).map .integer).or
      (((unsigned? 128 cs).map fun n => .wideInteger n false).or
        ((negative? 128 cs).map (.wideInteger · true))))

/-- The decimal number that a text stands for, in its shortest form. -/
def decimalOf? (s : String) : Option String :=
  let cs := s.toList
  let body? := match cs with
    | '+' :: '+' :: _ | '+' :: '-' :: _ => none
    | '+' :: rest => some rest
    | cs => some cs
  body?.bind fun body =>
    if ([".inf", ".Inf", ".INF"].map String.toList).contains body then some "inf"
    else if ["-.inf", "-.Inf", "-.INF"].contains s then some "-inf"
    else if [".nan", ".NaN", ".NAN"].contains s then some "NaN"
    else
      let (minus, digits) := match body with
        | '-' :: rest => (['-'], rest)
        | '+' :: rest => ([], rest)
        | body => ([], body)
      (Decimal.parse? digits).bind fun (d, k) =>
        (Decimal.shown? d k).map fun shown => String.ofList (minus ++ shown)

def Meaning.ofPlain (s : String) : Meaning :=
  if s.isEmpty || isNothingWord s then .nothing
  else
    match truthOf? s, integerOf? s with
    | some b, _ => .truth b
    | none, some n => n
    | none, none =>
      match (if hasLeadingZero s.toList then none else decimalOf? s) with
      | some t => .decimal t
      | none => .text s

/-- The meaning of a scalar. A text that does not fit the kind that its tag asks for is refused with a
description of that kind. -/
def Meaning.ofScalar (s : String) (style : ScalarStyle) (tag : Option Tag) :
    Except String Meaning :=
  match tag.bind Tag.text? with
  | some "tag:yaml.org,2002:bool" => (truthOf? s).elim (.error "a boolean") (.ok <| .truth ·)
  | some "tag:yaml.org,2002:int" => (integerOf? s).elim (.error "an integer") .ok
  | some "tag:yaml.org,2002:float" => (decimalOf? s).elim (.error "a float") (.ok <| .decimal ·)
  | some "tag:yaml.org,2002:null" => if isNothingWord s then .ok .nothing else .error "null"
  | _ => .ok (if style = .plain && tag.all Tag.isLocal then Meaning.ofPlain s else .text s)

end ActionDispatch.Yaml
