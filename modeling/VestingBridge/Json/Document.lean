import VestingBridge.Json.Token
import VestingBridge.Text.Utf8
/-!
# Document — JSON values as texts

`parse?` reads the one value of a text.  It goes over the tokens once with the containers that are part way through on
a stack, so that each token is one step.  `render` writes a value on one line.
-/
namespace VestingBridge.Json

/-- **A container part way through.**  What it holds so far is held last first; an object waits for the value of
`key`. -/
inductive Frame where
  | array (done : List Json)
  | object (done : List (String × Json)) (key : String)

/-- What the next token may be.
* `value`: a value;
* `firstItem`: a value, or the end of the array that has just begun;
* `key done mayEnd`: the key of an object's next member, or the end of the object if `mayEnd`;
* `colon done key`: the colon after a key;
* `after j`: what follows the complete value `j`. -/
inductive Stage where
  | value
  | firstItem
  | key (done : List (String × Json)) (mayEnd : Bool)
  | colon (done : List (String × Json)) (key : String)
  | after (j : Json)

/-- **One token**: the containers and the stage after it. -/
def step (stack : List Frame) : Stage → Token → Option (List Frame × Stage)
  | .value, .beginArray | .firstItem, .beginArray => some (.array [] :: stack, .firstItem)
  | .value, .beginObject | .firstItem, .beginObject => some (stack, .key [] true)
  | .value, .text s | .firstItem, .text s => some (stack, .after (.string s))
  | .value, .scalar j | .firstItem, .scalar j => some (stack, .after j)
  | .firstItem, .endArray =>
    match stack with
    | .array done :: rest => some (rest, .after (.array done.reverse))
    | _ => none
  | .key done _, .text k => some (stack, .colon done k)
  | .key done true, .endObject => some (stack, .after (.object done.reverse))
  | .colon done k, .colon => some (.object done k :: stack, .value)
  | .after j, .comma =>
    match stack with
    | .array done :: rest => some (.array (j :: done) :: rest, .value)
    | .object done k :: rest => some (rest, .key ((k, j) :: done) false)
    | [] => none
  | .after j, .endArray =>
    match stack with
    | .array done :: rest => some (rest, .after (.array (j :: done).reverse))
    | _ => none
  | .after j, .endObject =>
    match stack with
    | .object done k :: rest => some (rest, .after (.object ((k, j) :: done).reverse))
    | _ => none
  | _, _ => none

/-- The value that the tokens complete. -/
def build? (stack : List Frame) (stage : Stage) : List Token → Option Json
  | [] =>
    match stack, stage with
    | [], .after j => some j
    | _, _ => none
  | t :: ts =>
    match step stack stage t with
    | some (stack, stage) => build? stack stage ts
    | none => none

/-- **The value of a JSON text**, if the text is one. -/
def parse? (text : String) : Option Json := do build? [] .value (← tokens? text.toList)

/-- The value of a JSON text given as octets. -/
def ofOctets? (bs : Octets) : Option Json := do parse? (← Text.Utf8.decode? bs)

/-- The four digits of a `\u` escape. -/
def unitDigits (n : Nat) : List Char :=
  [n / 4096 % 16, n / 256 % 16, n / 16 % 16, n % 16].map Nat.digitChar

/-- Characters that never stand for themselves in a string: controls, and those that some readers take for the end of a
line. -/
def needsUnit (c : Char) : Bool := isControl c || c = '\u0085' || c = '\u2028' || c = '\u2029'

/-- A character inside a string. -/
def renderChar (c : Char) : List Char :=
  if c = '"' ∨ c = '\\' then ['\\', c]
  else if needsUnit c then '\\' :: 'u' :: unitDigits c.val.toNat
  else [c]

/-- A string with its quotes. -/
def renderString (s : String) : String := "\"" ++ String.ofList (s.toList.flatMap renderChar) ++ "\""

mutual

/-- **A value on one line.** -/
def render : Json → String
  | .null => "null"
  | .bool true => "true"
  | .bool false => "false"
  | .count n => String.ofList (Nat.toDigits 10 n)
  | .numeral written => written
  | .string s => renderString s
  | .array items => "[" ++ renderItems items ++ "]"
  | .object members => "\x7b" ++ renderMembers members ++ "\x7d"

/-- The items of an array, with commas between them. -/
def renderItems : List Json → String
  | [] => ""
  | [j] => render j
  | j :: js => render j ++ "," ++ renderItems js

/-- The members of an object, with commas between them. -/
def renderMembers : List (String × Json) → String
  | [] => ""
  | [(k, j)] => renderString k ++ ":" ++ render j
  | (k, j) :: ms => renderString k ++ ":" ++ render j ++ "," ++ renderMembers ms

end

end VestingBridge.Json
