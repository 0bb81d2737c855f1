import Turnstile.Logging
import Turnstile.Logging.Form

/-!
Records as lines: level and name, then the entries of the context, which can replace them, then the
message, which nothing replaces.

Each entry has a form, which is looked up by its name. A name that every mapping inherits finds what
is inherited there, so that its entry is replaced, left out, or refused; a line with a refused entry
is not written.
-/
namespace Turnstile.Logging

def refusal (message : String) : Except Fault Value := .error (.plain "TypeError" message)

def noObject : String := "Cannot convert undefined or null to object"

def inheritedForm (name : String) (v : Value) : Except Fault Value :=
  match name with
  | "isPrototypeOf" => .ok (.boolean false)
  | "__lookupGetter__" => .ok .undefined
  | "__lookupSetter__" => .ok .undefined
  | "hasOwnProperty" => refusal noObject
  | "propertyIsEnumerable" => refusal noObject
  | "valueOf" => refusal noObject
  | "toLocaleString" =>
    refusal "Object.prototype.toLocaleString called on null or undefined"
  | "__defineGetter__" => refusal "Object.prototype.__defineGetter__: Expecting function"
  | "__defineSetter__" => refusal "Object.prototype.__defineSetter__: Expecting function"
  | "__proto__" => refusal "serializers[key] is not a function"
  | _ => .ok v

def entryForm (name : String) : Thrown → Except Fault Value
  | .value .undefined => .ok .undefined
  | .fault f => .ok (faultForm f)
  | .value v =>
    if name = "err" then .ok (errorForm v)
    else if Value.isInheritedName name then inheritedForm name v
    else .ok v

def Context.value (context : Context) : Value :=
  .ofFields (context.filterMap fun (key, entry) =>
    match entry with
    | .value v => some (key, v)
    | .fault _ => none)

def Context.form (context : Context) : Except Fault Fields :=
  if isRequest context.value then .ok [("req", requestForm context.value)]
  else context.foldlM (fun fields (name, entry) => do
    return fields.put name (← entryForm name entry)) []

def Context.fields (context : Context) : Fields :=
  match context.form with
  | .ok fields => fields
  | .error _ => []

def Record.refusal? (r : Record) : Option Fault :=
  match r.context.form with
  | .ok _ => none
  | .error f => some f

def Record.line (r : Record) (name : Value) : Value :=
  let start : Fields := [("level", .number (.ofInt r.level.severity)), ("name", name)]
  let body := r.context.fields.foldl (fun acc (key, v) =>
    match v with
    | .undefined => acc
    | v => acc.put key v) start
  .ofFields (Fields.put body "msg" (.text r.message))

end Turnstile.Logging
