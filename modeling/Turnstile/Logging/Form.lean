import Turnstile.Fault
import Turnstile.Value.Ancestor
import Turnstile.Value.Reading

/-!
Errors and requests as log lines show them. Whatever has a text as its message counts as an error:
it is shown with the messages and stacks of its causes in its own, with the errors it aggregates,
and with its other fields, of which those that are errors are shown the same way.

The stack of a fault is its call sites, so it is left out.
-/
namespace Turnstile.Logging

/-- Value under a key of some fields, `undefined` where there is none. -/
def under (fields : Fields) (key : String) : Value := (fields.lookup key).getD .undefined

def hasMessage (fields : Fields) : Bool :=
  match under fields "message" with
  | .text _ => true
  | _ => false

def isErrorLike : Value → Bool
  | .mapping own _ => hasMessage own
  | _ => false

mutual

def messages : Value → String
  | .mapping own _ => (under own "message").plainText ++ causeMessages own
  | _ => ""

def causeMessages : List (String × Value) → String
  | [] => ""
  | field :: rest => causeMessage field ++ causeMessages rest

def causeMessage : String × Value → String
  | (key, v) => if key = "cause" ∧ isErrorLike v then ": " ++ messages v else ""

end

mutual

def joinedStack : Value → Value
  | .mapping own _ =>
    let here := if (under own "stack").isTruthy then under own "stack" else .text ""
    match causeStack? own with
    | some stack => .text (here.plainText ++ "\ncaused by: " ++ stack)
    | none => here
  | _ => .text ""

def causeStack? : List (String × Value) → Option String
  | [] => none
  | field :: rest =>
    match stackOfCause? field with
    | some stack => some stack
    | none => causeStack? rest

def stackOfCause? : String × Value → Option String
  | (key, v) => if key = "cause" ∧ isErrorLike v then some (joinedStack v).plainText else none

end

/-- The class that an error-like mapping is shown with. One that has a constructor of its own goes
by its name. -/
def className (own : Fields) : Value :=
  if (own.lookup "constructor").isSome then under own "name" else .text "Object"

def isHidden (key : String) : Bool := key = "raw" || Value.isInheritedName key

def addNew (form : Fields) (key : String) (v : Value) : Fields :=
  match under form key with
  | .undefined => if isHidden key then form else form.put key v
  | _ => form

mutual

def errorForm : Value → Value
  | .mapping own inherited =>
    if hasMessage own then
      let head : Fields := [("type", className own), ("message", .text (messages (.ofFields own))),
        ("stack", joinedStack (.ofFields own))]
      .ofFields (addFields (head ++ aggregated own) own)
    else .mapping own inherited
  | v => v

def errorForms : List Value → List Value
  | [] => []
  | v :: rest => errorForm v :: errorForms rest

def aggregated : List (String × Value) → Fields
  | [] => []
  | field :: rest => aggregatedBy field ++ aggregated rest

def aggregatedBy : String × Value → Fields
  | ("errors", .list items) => [("aggregateErrors", .list (errorForms items))]
  | _ => []

def addFields : Fields → List (String × Value) → Fields
  | form, [] => form
  | form, field :: rest => addFields (addField form field) rest

/-- Adds a field of an error to its form. A cause is in the message already. -/
def addField : Fields → String × Value → Fields
  | form, (key, v) =>
    if isErrorLike v then if key = "cause" then form else addNew form key (errorForm v)
    else addNew form key v

end

def faultMessages : Fault → String
  | .limiter message _ (some cause) => message ++ ": " ++ faultMessages cause
  | .configuration message _ (some cause) => message ++ ": " ++ faultMessages cause
  | f => f.message

def issueForm (i : Issue) : Value :=
  .ofFields [("path", .text i.path), ("message", .text i.message)]

/-- A fault as an entry for an error shows it: its class, its messages, and its own fields. -/
def faultForm (f : Fault) : Value :=
  .ofFields ([("type", .text f.name), ("message", .text (faultMessages f))] ++
    (if f.classes.isEmpty then [] else [("name", .text f.name)]) ++
    (match f.code? with
    | some code => [("code", .text code)]
    | none => []) ++
    match f.issues? with
    | some issues => [("issues", .list (issues.map issueForm))]
    | none => [])

def isRequest (context : Value) : Bool :=
  ["method", "headers", "socket"].all fun key => (context.field key).isTruthy

def firstOf (a b : Value) : Value := if a.isTruthy then a else b

/-- Where a request goes: the address before it was rewritten, or else its path. -/
def requestUrl (r : Value) : Value :=
  if (r.field "originalUrl").isTruthy then r.field "originalUrl"
  else match r.field "path" with
  | .text path => .text path
  | _ =>
    if (r.field "url").isTruthy then firstOf ((r.field "url").field "path") (r.field "url")
    else .undefined

def requestForm (r : Value) : Value :=
  let connection := firstOf (r.field "info") (r.field "socket")
  let ofInfo := if (r.field "info").isTruthy then (r.field "info").field "id" else .undefined
  let optional (key : String) : Fields :=
    if (r.field key).isTruthy then [(key, r.field key)] else []
  .ofFields ([("id", firstOf (r.field "id") ofInfo), ("method", r.field "method"),
      ("url", requestUrl r)] ++
    optional "query" ++ optional "params" ++
    [("headers", r.field "headers"), ("remoteAddress", connection.field "remoteAddress"),
      ("remotePort", connection.field "remotePort")])

end Turnstile.Logging
