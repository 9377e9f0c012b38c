import Mathlib.Data.List.DropRight
import NdcOdfWeb.Foundation.Decimal
import NdcOdfWeb.Foundation.Words

/-! The token functions of `LOOLProtocol`, over messages as byte strings.
A C++ reference argument that a function may leave alone is returned with the result.
-/

namespace NdcOdfWeb.Protocol

open NdcOdfWeb.Foundation

/-- The exceptions that the message code lets escape. -/
inductive Exception where
  | std (error : StdError)
  | badArgument (what : String)
  | runtimeError (what : String)
  | json
deriving DecidableEq, Repr

/-- Both parts succeed. -/
theorem bind_ok {α β : Type} {x : Except Exception α} {f : α → Except Exception β} {b : β}
    (done : x.bind f = .ok b)
    : ∃ a, x = .ok a ∧ f a = .ok b := by
  cases x with
  | error exception => cases done
  | ok a => exact ⟨a, rfl, done⟩

/-- `stringToInteger`: only `invalid_argument` is caught. -/
def stringToInteger (input : Text) : Except Exception (Option Int32) :=
  match stoi input with
  | .ok value => .ok (some value)
  | .error .invalidArgument => .ok none
  | .error error => .error (.std error)

/-- `stringToUInt32`: the 64-bit result of `stoul` is assigned to 32 bits. -/
def stringToUInt32 (input : Text) : Except Exception (Option UInt32) :=
  match stoul input with
  | .ok value => .ok (some (UInt32.ofNat value))
  | .error .invalidArgument => .ok none
  | .error error => .error (.std error)

/-- `parseNameValuePair` with the delimiter `=`. -/
def parseNameValuePair (token : Text) : Option (Text × Text) :=
  match token.dropWhile (· != '=') with
  | [] => none
  | _ :: value => some (token.takeWhile (· != '='), value)

/-- `parseNameIntegerPair`. -/
def parseNameIntegerPair (token : Text) : Except Exception (Option (Text × Int32)) :=
  match parseNameValuePair token with
  | none => .ok none
  | some (name, value) => do
      let number ← stringToInteger value
      return number.map (fun n => (name, n))

/-- The test shared by the `getToken` functions: the token starts with `name` and `=`. -/
def hasName (token name : Text) : Bool :=
  name.isPrefixOf token && token[name.length]? == some '='

/-- `getTokenInteger`: whether a number was read, and the new content of `value`. -/
def getTokenInteger (token name : Text) (value : Int32) : Bool × Int32 :=
  if token.length > name.length + 1 ∧ hasName token name = true then
    let str := token.drop (name.length + 1)
    ((scanNumber str).isSome, atoi str)
  else (false, value)

/-- `getTokenUInt32`: whether a number was read, and the new content of `value`. -/
def getTokenUInt32 (token name : Text) (value : UInt32) : Bool × UInt32 :=
  if token.length > name.length + 1 ∧ hasName token name = true then
    let str := token.drop (name.length + 1)
    ((scanNumber str).isSome, UInt32.ofNat (strtoul str))
  else (false, value)

/-- `getTokenString` on one token. -/
def getTokenString (token name : Text) : Option Text :=
  if token.length ≥ name.length + 1 ∧ hasName token name = true then
    some (token.drop (name.length + 1))
  else none

/-- `getTokenString` on a token list: the first token that has the name. -/
def getTokenStringFromTokens (tokens : List Text) (name : Text) : Option Text :=
  tokens.findSome? (getTokenString · name)

/-- The search loop of `getTokenStringFromMessage`, at a position with `previous` in front
of it; after an occurrence that is not a name, `skip` more characters are passed over.
-/
def tokenStringFrom (name : Text) : Option Char → Nat → Text → Option Text
  | _, _, [] => none
  | _, skip + 1, c :: rest => tokenStringFrom name (some c) skip rest
  | previous, 0, c :: rest =>
      if name.isPrefixOf (c :: rest) then
        if (previous = none ∨ previous = some ' ')
            ∧ (c :: rest)[name.length]? = some '=' then
          some (((c :: rest).drop (name.length + 1)).takeWhile (fun c => c != ' ' && c != '\n'))
        else tokenStringFrom name (some c) (name.length - 1) rest
      else tokenStringFrom name (some c) 0 rest

/-- `getTokenStringFromMessage`, for a name that is not empty. -/
def getTokenStringFromMessage (message name : Text) : Option Text :=
  if message.length > name.length + 1 then tokenStringFrom name none 0 message else none

/-- The token between `start` and `end`, unless it is empty or `start` is at a delimiter. -/
def delimitedToken (delimeter : Char) (start : Text) : List Text :=
  if start ≠ [] ∧ start.head? ≠ some delimeter then [start] else []

/-- The last token, at a newline or at the end of the data. -/
def lastToken (delimeter : Char) (start : Text) : List Text :=
  if start ≠ [] ∧ start.head? ≠ some delimeter ∧ start.head? ≠ some '\n' then [start] else []

/-- The loop of `tokenize`; `start` holds the characters from `start` up to `end`. -/
def tokenizeFrom (delimeter : Char) : Text → Text → List Text
  | start, [] => lastToken delimeter start
  | start, c :: rest =>
      if c = '\n' then lastToken delimeter start
      else if c = delimeter then
        delimitedToken delimeter start ++ tokenizeFrom delimeter [c] rest
      else
        tokenizeFrom delimeter
          ((if start.head? = some delimeter then start.tail else start) ++ [c]) rest

/-- `tokenize`: the words of the first line. -/
def tokenize (delimeter : Char) (data : Text) : List Text :=
  tokenizeFrom delimeter [] data

/-- `getFirstToken`, with `getDelimitedInitialSubstring` behind it. -/
def getFirstToken (delim : Char) (message : Text) : Text :=
  message.takeWhile (· != delim)

/-- `matchPrefix`. -/
def matchPrefix (initial message : Text) : Bool :=
  initial.isPrefixOf message

/-- `Poco::StringTokenizer` with one separator, ignoring empty tokens and trimming blanks. -/
def stringTokenizer (separator : Char) (text : Text) : List Text :=
  ((text.splitOn separator).map
    (fun token => (token.dropWhile isSpace).rdropWhile isSpace)).filter (· ≠ [])

/-- `getFirstLine`. -/
def getFirstLine (message : Text) : Text :=
  message.takeWhile (· != '\n')

/-- The first two numbers of `ParseVersion`; those that are missing are -1. -/
def parseVersion (version : Text) : Except StdError (Int32 × Int32) :=
  match stringTokenizer '.' version with
  | [] => .ok (-1, -1)
  | [first] => do return (← stoi first, -1)
  | first :: second :: _ => do
      let major ← stoi first
      match stringTokenizer '-' second with
      | [] => return (major, -1)
      | number :: _ => return (major, ← stoi number)

end NdcOdfWeb.Protocol
