import VestingBridge.Json.Record
import VestingBridge.WireAddress
/-!
# TypeTag — names of asset types

An asset type is named by an account, a module and a struct, written `account::Module::Struct`.  Spellings of one
account are brought to one form, so that the octets of the written name are a key: equal names, equal octets.
-/
namespace VestingBridge

/-- **The name of a type**: the account that declares it, the module, and the struct. -/
structure TypeTag where
  account : String
  moduleName : String
  structName : String
deriving DecidableEq

/-- Why a text names no type. -/
inductive TagError where
  | notThreeParts (text : String)
  | emptyAccount
  | badAccount (account : String)
  | badAddress (error : AddressError)
  | badModule (name : String)
  | badStruct (name : String)
deriving DecidableEq

namespace TagError

/-- What is wrong. -/
def reason : TagError → String
  | notThreeParts text => "expected account::Module::Struct, got \x27" ++ text ++ "\x27"
  | emptyAccount => "empty account address"
  | badAccount account => "invalid account address \x27" ++ account ++ "\x27"
  | badAddress error => error.message
  | badModule name => "invalid module name \x27" ++ name ++ "\x27"
  | badStruct name => "invalid struct name \x27" ++ name ++ "\x27"

/-- The text of the error. -/
def message (e : TagError) : String := "Malformed asset type: " ++ e.reason

end TagError

namespace TypeTag

/-- A character that a name of a module or struct starts with. -/
def isNameStart (c : Char) : Bool := c.isAlpha || c = '_'

/-- A character that such a name goes on with. -/
def isNamePart (c : Char) : Bool := c.isAlphanum || c = '_'

/-- A name of a module or struct: ASCII letters, digits and underscores, and no digit in front. -/
def isName (name : String) : Bool :=
  match name.toList with
  | [] => false
  | c :: cs => isNameStart c && cs.all isNamePart

/-- The text starts with the mark of hexadecimal digits. -/
def isMarked : List Char → Bool
  | '0' :: 'x' :: _ | '0' :: 'X' :: _ => true
  | _ => false

/-- **The one form of an account**: hexadecimal digits become an address of full length, any other text stays. -/
def normalAccount (text : String) : Except TagError String :=
  let account := Text.trimChars text.toList
  if account = [] then .error .emptyAccount
  else if account.any fun c => c = ':' || Text.isBlank c then .error (.badAccount (String.ofList account))
  else if isMarked account then
    match WireAddress.ofHex (String.ofList account) with
    | .ok address => .ok address.toHex
    | .error e => .error (.badAddress e)
  else .ok (String.ofList account)

/-- **The type of an account, a module and a struct.**  The account is looked at first. -/
def ofParts (account moduleName structName : String) : Except TagError TypeTag := do
  let account ← normalAccount account
  if !isName moduleName then throw (.badModule moduleName)
  if !isName structName then throw (.badStruct structName)
  return { account, moduleName, structName }

/-- The parts of a text between pairs of colons, found from left to right. -/
def splitPairs : List Char → List (List Char)
  | ':' :: ':' :: cs => [] :: splitPairs cs
  | c :: cs =>
    match splitPairs cs with
    | part :: parts => (c :: part) :: parts
    | [] => [[c]]
  | [] => [[]]

/-- **The type that a text names.** -/
def parse (text : String) : Except TagError TypeTag :=
  match splitPairs (Text.trimChars text.toList) with
  | [account, moduleName, structName] =>
    ofParts (String.ofList account) (String.ofList moduleName) (String.ofList structName)
  | _ => .error (.notThreeParts text)

/-- **The written name.** -/
def name (t : TypeTag) : String := t.account ++ "::" ++ t.moduleName ++ "::" ++ t.structName

/-- The octets of the written name, under which what belongs to the type is kept. -/
def key (t : TypeTag) : Octets := Text.Utf8.encode t.name

/-- The type as a message. -/
def toJson (t : TypeTag) : Json := .object [
  ("account_address", .string t.account), ("module_name", .string t.moduleName),
  ("struct_name", .string t.structName)]

/-- The type that a message stands for, in whatever spelling it has there. -/
def ofJson? (j : Json) : Option TypeTag := do
  let r ← j.record? ["account_address", "module_name", "struct_name"]
  return { account := ← r.text? "account_address", moduleName := ← r.text? "module_name",
           structName := ← r.text? "struct_name" }

end TypeTag

end VestingBridge
