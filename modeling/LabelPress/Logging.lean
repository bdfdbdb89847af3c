import LabelPress.Json.Display
import LabelPress.Logging.Message
import LabelPress.Settings.Basic

/-!
# Logging

Every message is prepared and laid out, and then dropped if its level is below the one of the
settings; so a message that cannot be laid out is a fault even if it would have been dropped.

Outside development a message is one line with a document on it: its fields, its event, its level
and the name of its logger. In development it is laid out for reading on a console, where texts keep
their line breaks and accounts of exceptions and stacks follow.

Some loggers of libraries are chatty; of theirs only warnings and worse are logged, however low the
level of the settings.

## Main definitions

* `LogSetup`: what is logged, and how.
* `LogSetup.write`: the entries that are logged for messages.
* `Entry.lineCount`: the number of lines that an entry takes.
-/

namespace LabelPress

open LabelPress.Json

/-- How messages are written. -/
inductive LogFormat where
  /-- For reading on a console. -/
  | console
  /-- One document a line. -/
  | documents
  deriving Repr, DecidableEq

/-- What is logged, and how. -/
structure LogSetup where
  /-- The least level that is logged. -/
  level : LogLevel
  /-- How messages are written. -/
  format : LogFormat
  deriving Repr, DecidableEq

/-- The loggers of chatty libraries. -/
def quietLoggers : List String := ["PIL", "treepoem", "multipart"]

/-- Whether a logger belongs to a chatty library: it has its name, or one that continues it after a
point. -/
def isQuiet (logger : String) : Bool :=
  quietLoggers.any fun q =>
    logger == q || (q.toList ++ ['.']).isPrefixOf logger.toList

/-- The name under which a logger appears in messages. The one without a name is the root. -/
def shownLogger (logger : String) : String :=
  if logger.isEmpty then "root" else logger

/-- What is written for a message. -/
inductive Entry where
  /-- A document on a line. -/
  | document (record : Members)
  /-- A text for the console, without its colours and its alignment. -/
  | console (text : List Char)
  /-- An entry that is followed by an account of the exception being handled, of which there is
  none. -/
  | traced (entry : Entry)

namespace PreparedMessage

/-- The event as a member, unless there is none. -/
def eventMember : Value → Members
  | .null => []
  | v => [("event", v)]

/-- The document that is written for a message. -/
def record (logger : String) (m : PreparedMessage) : Members :=
  Members.putAll (m.fields.filter fun f => f.1 != LogMessage.exceptionInfoField)
    ([("level", .string m.method.level.word), ("logger", .string (shownLogger logger))]
      ++ eventMember m.event)

/-- The characters that make the console quote a text. -/
def quotedMarks : List Char := [' ', '\t', '=', '\r', '\n', '"', '\'']

/-- The value of a field on the console. -/
def consoleValue : Value → List Char
  | .string s =>
    if quotedMarks.any s.toList.contains then (Value.string s).shownInside else s.toList
  | v => v.shownInside

/-- The field that names another logger. -/
def otherLoggerField : String := "logger_name"

/-- The fields with a place of their own on the console. -/
def accountFields : List String := ["stack", "exception", LogMessage.exceptionInfoField]

/-- A field on the console. -/
def consoleField (f : String × Value) : List Char :=
  if f.1 = otherLoggerField then ' ' :: '[' :: f.2.shown.toList ++ [']']
  else if accountFields.contains f.1 then []
  else ' ' :: f.1.toList ++ '=' :: consoleValue f.2

/-- The text of an account, if there is one. -/
def account (m : PreparedMessage) (name : String) : Except LogFault (Option (List Char)) :=
  match m.fields.get? name with
  | none | some .null => .ok none
  | some (.string s) => .ok (some s.toList)
  | some v => .error (.noText v.kindName)

/-- Whether an account of an exception is given or asked for. -/
def mentionsException (m : PreparedMessage) : Bool :=
  match m.fields.get? "exception" with
  | none | some .null => ((m.fields.get? LogMessage.exceptionInfoField).getD .null).isTruthy
  | some _ => true

/-- The line between the account of a stack and that of an exception. -/
def accountRule : List Char := '\n' :: '\n' :: List.replicate 79 '=' ++ ['\n']

/-- The account of the stack. -/
def stackText (m : PreparedMessage) : Except LogFault (List Char) :=
  match m.account "stack" with
  | .error f => .error f
  | .ok none => .ok []
  | .ok (some s) => .ok ('\n' :: s ++ if m.mentionsException then accountRule else [])

/-- The account of the exception. -/
def exceptionText (m : PreparedMessage) : Except LogFault (List Char) :=
  match m.account "exception" with
  | .error f => .error f
  | .ok none => .ok []
  | .ok (some s) => .ok ('\n' :: s)

/-- The text that is written for a message on the console. Colours and blanks for alignment are left
out; there is always something of the kind between two parts of the text. -/
def consoleText (logger : String) (m : PreparedMessage) : Except LogFault (List Char) :=
  match m.stackText with
  | .error f => .error f
  | .ok stack =>
    match m.exceptionText with
    | .error f => .error f
    | .ok exception => .ok <|
      '[' :: m.method.level.word.toList ++ ']' :: ' ' :: m.event.shown.toList
        ++ ' ' :: '[' :: (shownLogger logger).toList ++ ']' :: m.fields.flatMap consoleField
        ++ ' ' :: stack ++ exception

end PreparedMessage

namespace Entry

/-- Whether a character ends a line. -/
def isBreak (c : Char) : Bool :=
  let n := c.toNat
  (0x0A ≤ n && n ≤ 0x0D) || (0x1C ≤ n && n ≤ 0x1E) || n == 0x85 || n == 0x2028 || n == 0x2029

/-- The number of breaks in a text. A line feed after a carriage return makes no break of its
own. -/
def breakCount : List Char → Nat
  | '\r' :: '\n' :: cs => breakCount cs + 1
  | c :: cs => breakCount cs + if isBreak c then 1 else 0
  | [] => 0

/-- The account that is written if no exception is being handled. -/
def emptyAccount : List Char := "NoneType: None".toList

/-- The text of an entry on the console. -/
def text : Entry → List Char
  | document record => (Value.object record).chars
  | console text => text
  | traced entry =>
    entry.text ++ (if entry.text.getLast? = some '\n' then [] else ['\n']) ++ emptyAccount

/-- The number of lines that an entry takes. -/
def lineCount (e : Entry) : Nat :=
  breakCount (e.text ++ ['\n'])

/-- The document of an entry, if it consists of one. -/
def record? : Entry → Option Members
  | document record => some record
  | _ => none

end Entry

namespace LogSetup

/-- The setup that settings describe. -/
def ofSettings (s : Settings) : LogSetup :=
  ⟨s.logLevel, if s.environment = .development then .console else .documents⟩

/-- The least rank that the loggers of chatty libraries log. -/
def quietRank (l : LogSetup) : Nat :=
  max l.level.rank LogLevel.warning.rank

/-- The least rank that a logger logs. -/
def leastRank (l : LogSetup) (logger : String) : Nat :=
  if isQuiet logger then l.quietRank else l.level.rank

/-- What would be written for a prepared message, but for the account of an exception that its
method may ask for. -/
def plainEntry (l : LogSetup) (logger : String) (m : PreparedMessage) : Except LogFault Entry :=
  match l.format with
  | .documents => .ok (.document (m.record logger))
  | .console => (m.consoleText logger).map .console

/-- What would be written for a message, whatever its level. -/
def entry (l : LogSetup) (logger : String) (m : LogMessage) : Except LogFault Entry :=
  match m.prepare with
  | .error f => .error f
  | .ok p =>
    (l.plainEntry logger p).map fun e => if m.method = .exception then .traced e else e

/-- The entries that are written for messages to a logger, or the first fault among them. -/
def write (l : LogSetup) (logger : String) : List LogMessage → Except LogFault (List Entry)
  | [] => .ok []
  | m :: ms =>
    match l.entry logger m with
    | .error f => .error f
    | .ok e =>
      (l.write logger ms).map fun es =>
        if l.leastRank logger ≤ m.method.level.rank then e :: es else es

end LogSetup

end LabelPress
