import ContentGateway.Json.Reader
import ContentGateway.Text.Basic
import ContentGateway.Text.Quoted

/-!
# Values on the command line

A filter flag assigns a value to a field. Where a value may be a number, a truth value or null, it
is read as JSON, and taken as plain text if it is not JSON. Data is JSON too, either in the argument
itself or, for a single dash, in the standard input, and has to be well formed.

A flag that was given nothing carries an empty list, which none of these readings fits.
-/

namespace ContentGateway.Command

/-- Something wrong with what was typed. -/
def invalid (message : String) : Fault := .problem .validation message .null

/-- A value as it was typed: the value of a JSON text, or the text itself. -/
def parseValue (s : String) : Except Fault Value :=
  match Json.read s with
  | .ok v => .ok v
  | .error (.flawed _) => .ok (.text s)
  | .error (.digitLimit digits) => .error (.digitLimit (some digits))

/-- The field and the value of `field=value`. The value may be empty, the field may not. -/
def splitAssignment (s : String) : Except Fault (String × String) :=
  match Text.splitFirst? '=' s.toList with
  | some (c :: field, value) => .ok (String.ofList (c :: field), String.ofList value)
  | _ => .error (invalid ("Expected field=value, got: " ++ Text.quoted s))

/-- The data of an argument, or of the standard input for a dash. -/
def readData (argument : Value) (flag input : String) : Except Fault Value :=
  match argument with
  | .text s =>
    match Json.read (if s = "-" then input else s) with
    | .ok v => .ok v
    | .error (.flawed f) => .error (invalid ("Invalid JSON in " ++ flag ++ ": " ++ f.message))
    | .error (.digitLimit digits) => .error (.digitLimit (some digits))
  | _ => .error (.misuse .wrongType)

end ContentGateway.Command
