import VestingBridge.Json.Escape
/-!
# Token — the words of a JSON text

A JSON text is cut into tokens by one pass over its characters.  `Lexer` says what the pass is in the middle of; each
character leads to the next state and closes at most one token.
-/
namespace VestingBridge.Json

/-- **A word of a JSON text.** -/
inductive Token where
  | beginArray
  | endArray
  | beginObject
  | endObject
  | colon
  | comma
  | text (value : String)
  | scalar (value : Json)

/-- What the pass is in the middle of.  Characters seen are held last first.
* `text seen`: a string;
* `escape seen`: a string, after a backslash, so that a quote does not end it;
* `bare seen`: a numeral, or one of the words `null`, `true` and `false`. -/
inductive Lexer where
  | between
  | text (seen : List Char)
  | escape (seen : List Char)
  | bare (seen : List Char)

/-- The characters that numerals and bare words are made of. -/
def isBare (c : Char) : Bool := c.isAlphanum || c = '+' || c = '-' || c = '.'

/-- A row of one or more digits, without what comes before it. -/
def dropDigits? : List Char → Option (List Char)
  | [] => none
  | c :: cs => if c.isDigit then some (cs.dropWhile Char.isDigit) else none

/-- What is left of a numeral after its whole part: a single zero, or a row of digits that starts with none. -/
def dropWhole? : List Char → Option (List Char)
  | '0' :: cs => some cs
  | cs => dropDigits? cs

/-- What is left of a numeral after a fraction, if it has one. -/
def dropFraction? : List Char → Option (List Char)
  | '.' :: cs => dropDigits? cs
  | cs => some cs

/-- What is left of a numeral after an exponent, if it has one. -/
def dropExponent? : List Char → Option (List Char)
  | c :: cs =>
    if c = 'e' ∨ c = 'E' then
      match cs with
      | s :: ds => if s = '+' ∨ s = '-' then dropDigits? ds else dropDigits? cs
      | [] => none
    else some (c :: cs)
  | [] => some []

/-- A row of characters is a numeral: an optional minus sign, a whole part, and perhaps a fraction and an exponent. -/
def isNumeral (cs : List Char) : Bool :=
  let unsigned := match cs with
    | '-' :: ds => ds
    | _ => cs
  (do dropExponent? (← dropFraction? (← dropWhole? unsigned))) == some []

/-- The value of a row of digits. -/
def digitsValue (cs : List Char) : Nat := cs.foldl (fun n c => n * 10 + (c.toNat - 48)) 0

/-- The value that a bare row of characters stands for, if it stands for one. -/
def bare? (cs : List Char) : Option Json :=
  if cs = ['n', 'u', 'l', 'l'] then some .null
  else if cs = ['t', 'r', 'u', 'e'] then some (.bool true)
  else if cs = ['f', 'a', 'l', 's', 'e'] then some (.bool false)
  else if isNumeral cs then
    if cs.all Char.isDigit then some (.count (digitsValue cs)) else some (.numeral (String.ofList cs))
  else none

/-- What a character between tokens gives: a token of its own, or the start of a longer one. -/
def Lexer.start (c : Char) : Option (Option Token × Lexer) :=
  if c = ' ' ∨ c = '\t' ∨ c = '\n' ∨ c = '\r' then some (none, .between)
  else if c = '[' then some (some .beginArray, .between)
  else if c = ']' then some (some .endArray, .between)
  else if c = '\x7b' then some (some .beginObject, .between)
  else if c = '\x7d' then some (some .endObject, .between)
  else if c = ':' then some (some .colon, .between)
  else if c = ',' then some (some .comma, .between)
  else if c = '"' then some (none, .text [])
  else if isBare c then some (none, .bare [c])
  else none

/-- One character of the pass; the tokens so far are held last first. -/
def Lexer.step (tokens : List Token) (c : Char) : Lexer → Option (List Token × Lexer)
  | .between => do
    let (token, next) ← start c
    return (token.toList ++ tokens, next)
  | .text seen =>
    if c = '"' then do
      let value ← unquote? seen.reverse
      return (.text value :: tokens, .between)
    else if c = '\\' then some (tokens, .escape (c :: seen))
    else some (tokens, .text (c :: seen))
  | .escape seen => some (tokens, .text (c :: seen))
  | .bare seen =>
    if isBare c then some (tokens, .bare (c :: seen))
    else do
      let j ← bare? seen.reverse
      let (token, next) ← start c
      return (token.toList ++ .scalar j :: tokens, next)

/-- The tokens of the characters that remain, after those that are held last first. -/
def Lexer.run (tokens : List Token) : Lexer → List Char → Option (List Token)
  | .between, [] => some tokens.reverse
  | .bare seen, [] => (bare? seen.reverse).map fun j => (Token.scalar j :: tokens).reverse
  | _, [] => none
  | state, c :: cs =>
    match state.step tokens c with
    | some (tokens, next) => next.run tokens cs
    | none => none

/-- **The words of a JSON text**, if it is made of such words. -/
def tokens? (cs : List Char) : Option (List Token) := Lexer.run [] .between cs

end VestingBridge.Json
