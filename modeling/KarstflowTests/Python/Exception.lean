import KarstflowTests.Python.Json

/-!
# Python exceptions and the partial operations on JSON values

An exception keeps the pieces its text is made of: `Message` lists literal
text and the values an f-string inserts.  How Python prints a value is left
open (`Rendering`), since no code inspects a printed value.

The second part models the operations that fail on a value of the wrong type:
`value.get(key, default)`, `key in value`, `value[key]`, `value[0]` and the use
of a value as a dict key.
-/

namespace KarstflowTests

/-- One piece of an f-string. -/
inductive Fragment where
  | text (text : String)
  | value (value : Json)
  deriving DecidableEq

/-- The pieces of an f-string in order. -/
abbrev Message := List Fragment

/-- Python's `str()` and `repr()` of a JSON value. -/
structure Rendering where
  str : Json → String
  repr : Json → String

/-- The text of an f-string. -/
def Message.render (rendering : Rendering) (message : Message) : String :=
  message.foldl (fun text fragment =>
    text ++ match fragment with
      | .text literal => literal
      | .value value => rendering.str value) ""

/-- The exceptions that reach the modelled code. -/
inductive Exc where
  | keyError (key : String)
  | indexError (text : String)
  | typeError (text : String)
  | attributeError (text : String)
  | structError (text : String)
  | timeoutError (message : Message)
  | connectionError (text : String)
  /-- `asyncio.CancelledError`, which is not an `Exception`. -/
  | cancelledError
  /-- `httpx.ConnectError` -/
  | connectError (text : String)
  /-- `httpx.ReadError` -/
  | readError (text : String)
  /-- `httpx.TimeoutException` -/
  | timeoutException (text : String)
  /-- `httpx.HTTPStatusError`, raised by `raise_for_status()` -/
  | httpStatusError (text : String)
  /-- raised by `response.json()` on a body that is not JSON -/
  | jsonDecodeError (text : String)
  | transactionError (message : Message)
  | rpcCallError (code message data : Json)
  | wsError (code message : Json)
  /-- any other subclass of `Exception` -/
  | other (name text : String)
  deriving DecidableEq

namespace Exc

/-- Whether `except Exception` catches it. -/
def isException : Exc → Bool
  | .cancelledError => false
  | _ => true

/-- `str(exc)`. -/
def str (rendering : Rendering) : Exc → String
  | .keyError key => rendering.repr (.str key)
  | .indexError text => text
  | .typeError text => text
  | .attributeError text => text
  | .structError text => text
  | .timeoutError message => message.render rendering
  | .connectionError text => text
  | .cancelledError => ""
  | .connectError text => text
  | .readError text => text
  | .timeoutException text => text
  | .httpStatusError text => text
  | .jsonDecodeError text => text
  | .transactionError message => message.render rendering
  | .rpcCallError code message _ =>
      Message.render rendering
        [.text "RPC error ", .value code, .text ": ", .value message]
  | .wsError code message =>
      Message.render rendering
        [.text "WS error ", .value code, .text ": ", .value message]
  | .other _ text => text

end Exc

/-- A dict key. -/
inductive PyKey where
  | null
  | number (value : PyFloat)
  | str (text : String)
  deriving DecidableEq

namespace Json

/-- `value.get(key, default)`. -/
def get (value : Json) (key : String) (default : Json) :
    Except Exc Json :=
  match value with
  | .obj members => .ok ((members.lookup key).getD default)
  | value =>
      .error (.attributeError
        ("'" ++ value.typeName ++ "' object has no attribute 'get'"))

/-- `key in value`. -/
def contains (value : Json) (key : String) : Except Exc Bool :=
  match value with
  | .obj members => .ok (members.lookup key).isSome
  | .arr items => .ok (items.any fun item => item.pyEq (.str key))
  | .str text => .ok (decide (key.toList <:+: text.toList))
  | value =>
      .error (.typeError
        ("argument of type '" ++ value.typeName ++ "' is not iterable"))

/-- `value[key]`. -/
def getItem (value : Json) (key : String) : Except Exc Json :=
  match value with
  | .obj members =>
      match members.lookup key with
      | some member => .ok member
      | none => .error (.keyError key)
  | .arr _ =>
      .error (.typeError "list indices must be integers or slices, not str")
  | .str _ =>
      .error (.typeError "string indices must be integers, not 'str'")
  | value =>
      .error (.typeError
        ("'" ++ value.typeName ++ "' object is not subscriptable"))

/-- `value[0]`. -/
def first (value : Json) : Except Exc Json :=
  match value with
  | .arr (item :: _) => .ok item
  | .arr [] => .error (.indexError "list index out of range")
  | .str text =>
      match text.toList with
      | character :: _ => .ok (.str (String.ofList [character]))
      | [] => .error (.indexError "string index out of range")
  | .obj _ => .error (.keyError "0")
  | value =>
      .error (.typeError
        ("'" ++ value.typeName ++ "' object is not subscriptable"))

/-- The key under which a dict files a value: numbers that are equal are one
key, and lists and dicts are unhashable. -/
def asKey (value : Json) : Except Exc PyKey :=
  match value, value.number with
  | _, some number => .ok (.number number)
  | .null, none => .ok .null
  | .str text, none => .ok (.str text)
  | value, none =>
      .error (.typeError ("unhashable type: '" ++ value.typeName ++ "'"))

/-! ## On dicts the operations succeed -/

@[simp]
theorem get_obj (members : List (String × Json)) (key : String)
    (default : Json) :
    (Json.obj members).get key default =
      .ok ((members.lookup key).getD default) :=
  rfl

@[simp]
theorem contains_obj (members : List (String × Json)) (key : String) :
    (Json.obj members).contains key =
      .ok (members.lookup key).isSome :=
  rfl

end Json

end KarstflowTests
