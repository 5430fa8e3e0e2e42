import Toolpath.Json.Token

/-!
# Reading JSON

The tokens of a text drive a machine whose state is the stack of open arrays and objects together
with what has to come next. A text is a document when the machine ends with a value and nothing
open, so documents may be nested to any depth.
-/

namespace Toolpath.Json

/-- An array or an object that is still open, with what it holds so far, the last first. An object
waits for the value of a key. -/
inductive Open where
  | array (items : List Json)
  | object (fields : List (Option String × Json)) (key : Option String)

/-- What has to come next. -/
inductive Reading where
  /-- A value. -/
  | value (stack : List Open)
  /-- The first item of an array, or its end. -/
  | firstItem (stack : List Open)
  /-- The first key of an object, or its end. -/
  | firstKey (stack : List Open)
  /-- One more key. -/
  | key (fields : List (Option String × Json)) (stack : List Open)
  /-- The colon after a key. -/
  | colon (fields : List (Option String × Json)) (key : Option String) (stack : List Open)
  /-- Whatever may follow a complete value. -/
  | done (value : Json) (stack : List Open)

/-- The start of a value. -/
def Reading.begin (stack : List Open) : Token → Option Reading
  | .openArray => some (.firstItem stack)
  | .openObject => some (.firstKey stack)
  | .null => some (.done .null stack)
  | .bool b => some (.done (.bool b) stack)
  | .number w => some (.done (.number w) stack)
  | .string s => some (.done (.string s) stack)
  | _ => none

def Reading.step : Reading → Token → Option Reading
  | value stack, t => begin stack t
  | firstItem stack, .closeArray => some (done (.array []) stack)
  | firstItem stack, t => begin (.array [] :: stack) t
  | firstKey stack, .closeObject => some (done (.object []) stack)
  | firstKey stack, .string k => some (colon [] k stack)
  | firstKey _, _ => none
  | key fields stack, .string k => some (colon fields k stack)
  | key .., _ => none
  | colon fields k stack, .colon => some (value (.object fields k :: stack))
  | colon .., _ => none
  | done v (.array items :: stack), .comma => some (value (.array (v :: items) :: stack))
  | done v (.array items :: stack), .closeArray =>
    some (done (.array (v :: items).reverse) stack)
  | done v (.object fields k :: stack), .comma => some (key ((k, v) :: fields) stack)
  | done v (.object fields k :: stack), .closeObject =>
    some (done (.object ((k, v) :: fields).reverse) stack)
  | done .., _ => none

def Reading.run (r : Reading) (ts : List Token) : Option Reading := ts.foldlM step r

def ofTokens? (ts : List Token) : Option Json :=
  match (Reading.value []).run ts with
  | some (.done v []) => some v
  | _ => none

def read? (text : String) : Option Json := (tokens? text.toList).bind ofTokens?

end Toolpath.Json
