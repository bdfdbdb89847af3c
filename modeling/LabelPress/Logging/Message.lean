import LabelPress.Log
import LabelPress.Logging.Template

/-!
# Log messages

A message is passed to a logger by a method, with an event, arguments for the places in the event,
and fields. Before it is written its fields are put in order: some names are reserved, some fields
direct the logging and are not written, and the level and the name of the logger are added.

## Main definitions

* `LogMethod`: the ways of logging a message.
* `LogMessage`: a message as it is passed to a logger.
* `LogMessage.prepare`: the message as it will be written, or what is wrong with it.
-/

namespace LabelPress

open LabelPress.Json LabelPress.Text LabelPress.Template

/-- The ways of logging a message. -/
inductive LogMethod where
  | debug
  | info
  | warning
  | error
  | critical
  /-- The same level as `critical`. -/
  | fatal
  /-- The same level as `error`; the exception that is being handled is reported as well. -/
  | exception
  deriving Repr, DecidableEq

namespace LogMethod

/-- The word for a method. -/
def name : LogMethod → String
  | debug => "debug"
  | info => "info"
  | warning => "warning"
  | error => "error"
  | critical => "critical"
  | fatal => "fatal"
  | exception => "exception"

/-- The methods. -/
def all : List LogMethod := [debug, info, warning, error, critical, fatal, exception]

/-- The method that a word names; one of them has a short word too. -/
def ofName? (word : String) : Option LogMethod :=
  if word = "warn" then some warning else all.find? fun m => m.name == word

/-- The level of the messages of a method. -/
def level : LogMethod → LogLevel
  | debug => .debug
  | info => .info
  | warning => .warning
  | error | exception => .error
  | critical | fatal => .critical

end LogMethod

/-- Why a message cannot be logged. -/
inductive LogFault where
  /-- There is no method of this name. -/
  | noMethod (name : String)
  /-- A field has the name of an argument. -/
  | repeatedArgument (callable name : String)
  /-- A record of this kind, from which the name of the logger should be taken, has no name. -/
  | noRecordName (kindName : String)
  /-- The event cannot be filled in. -/
  | template (fault : TemplateFault)
  /-- There are arguments but no event. -/
  | noEvent
  /-- The arguments are of this kind, which has no items. -/
  | unsized (kindName : String)
  /-- The arguments are an object, which has no first item. -/
  | noFirst
  /-- An event of this kind cannot be filled in with arguments of that kind. -/
  | noTemplate (event arguments : String)
  /-- The account of an exception or of a stack is of this kind instead of a text. -/
  | noText (kindName : String)
  deriving Repr, DecidableEq

namespace LogFault

/-- What a logger is called in messages. -/
def loggerName : String := "BoundLogger"

/-- The class of a fault. -/
def kind : LogFault → FaultKind
  | noMethod _ | noRecordName _ => .missingAttribute
  | template f => f.kind
  | noEvent | noFirst => .key
  | _ => .type

/-- The wording of a fault. -/
def message : LogFault → String
  | noMethod name => (Fault.lacksAttribute loggerName name).message
  | repeatedArgument callable name => (Fault.repeatedArgument callable name).message
  | noRecordName kindName => (Fault.lacksAttribute kindName "name").message
  | template f => f.message
  | noEvent => quoted "event"
  | unsized kindName => "object of type '" ++ kindName ++ "' has no len()"
  | noFirst => "0"
  | noTemplate event arguments =>
    "unsupported operand type(s) for %=: '" ++ event ++ "' and '" ++ arguments ++ "'"
  | noText kindName => "can only concatenate str (not \"" ++ kindName ++ "\") to str"

end LogFault

/-- A message as it is passed to a logger. -/
structure LogMessage where
  /-- The method. -/
  method : LogMethod
  /-- The event, possibly with places for arguments; null if there is none. -/
  event : Value
  /-- The arguments. -/
  arguments : List Value
  /-- The fields. -/
  fields : Members

/-- A message as it will be written. -/
structure PreparedMessage where
  /-- The method. -/
  method : LogMethod
  /-- The event with its arguments; null if there is none. -/
  event : Value
  /-- The fields, without the level, the event and the name of the logger. -/
  fields : Members

namespace LogMessage

/-- The field that holds arguments if none are passed. -/
def argumentsField : String := "positional_args"

/-- The field that holds a record with the name of the logger. -/
def recordField : String := "_record"

/-- The fault about a field that has the name of an argument. -/
def reservedName? (m : LogMessage) (name : String) : Option LogFault :=
  if name = "self" || name = "event" then
    some (.repeatedArgument (LogFault.loggerName ++ "." ++ m.method.name) name)
  else none

/-- Refuses fields that have the names of arguments, those of the method first. -/
def checkNames (m : LogMessage) : Except LogFault Unit :=
  match m.fields.findSome? fun f => m.reservedName? f.1 with
  | some fault => .error fault
  | none =>
    if m.fields.has "method_name" then
      .error (.repeatedArgument (LogFault.loggerName ++ "._proxy_to_logger") "method_name")
    else .ok ()

/-- Refuses a record without a name, which any record is. -/
def checkRecord (m : LogMessage) : Except LogFault Unit :=
  match m.fields.get? recordField with
  | none | some .null => .ok ()
  | some v => .error (.noRecordName v.kindName)

/-- The single object among several arguments, if it is not empty. -/
def onlyObject? : List Value → Option Value
  | [.object (m :: ms)] => some (.object (m :: ms))
  | _ => none

/-- The arguments that a field holds, and what their kind is called; nothing if they are empty. -/
def fieldArguments : Value → Except LogFault (Option (Arguments × String))
  | .list items =>
    if items.isEmpty then .ok none
    else
      match onlyObject? items with
      | some v => .ok (some (.single v, v.kindName))
      | none => .ok (some (.single (.list items), "list"))
  | .object [] => .ok none
  | .object [_] => .error .noFirst
  | .object members => .ok (some (.single (.object members), "dict"))
  | .string s => .ok (if s.isEmpty then none else some (.single (.string s), "str"))
  | v => if v.isTruthy then .error (.unsized v.kindName) else .ok none

/-- The arguments of a message, and what their kind is called. An object that is the only argument
gives its members. -/
def templateArguments (m : LogMessage) : Except LogFault (Option (Arguments × String)) :=
  if m.arguments.isEmpty then fieldArguments ((m.fields.get? argumentsField).getD .null)
  else
    match onlyObject? m.arguments with
    | some v => .ok (some (.single v, v.kindName))
    | none => .ok (some (.several m.arguments, "tuple"))

/-- An event filled in with arguments. -/
def fillEvent (event : Value) (a : Arguments) (kindName : String) : Except LogFault Value :=
  match event with
  | .null => .error .noEvent
  | .string s =>
    match fill s.toList a with
    | .error f => .error (.template f)
    | .ok text => .ok (.string (String.ofList text))
  | v => .error (.noTemplate v.kindName kindName)

/-- The event with its arguments. Without arguments it is taken as it is. -/
def filledEvent (m : LogMessage) : Except LogFault Value :=
  match m.templateArguments with
  | .error f => .error f
  | .ok none => .ok m.event
  | .ok (some (a, kindName)) => fillEvent m.event a kindName

/-- Whether a field is written. The moment of a message is not kept. -/
def isWritten (m : LogMessage) (name : String) (v : Value) : Bool :=
  if name = argumentsField then
    match v with
    | .null => m.arguments.isEmpty
    | _ => false
  else name ∉ ["timestamp", "stack_info", "level", "logger"]

/-- The field that asks for an account of the exception that is being handled. -/
def exceptionInfoField : String := "exc_info"

/-- The fields of a message, with what its method adds. -/
def allFields (m : LogMessage) : Members :=
  if m.method = .exception && !m.fields.has exceptionInfoField then
    m.fields ++ [(exceptionInfoField, .bool true)]
  else m.fields

/-- The message as it will be written. -/
def prepare (m : LogMessage) : Except LogFault PreparedMessage :=
  match m.checkNames with
  | .error f => .error f
  | .ok () =>
    match m.checkRecord with
    | .error f => .error f
    | .ok () =>
      m.filledEvent.map fun event =>
        ⟨m.method, event, m.allFields.filter fun f => m.isWritten f.1 f.2⟩

end LogMessage

end LabelPress
