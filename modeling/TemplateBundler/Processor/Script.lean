import TemplateBundler.Json.Parser
import TemplateBundler.Processor.Outcome
import TemplateBundler.Processor.Script.Value
import TemplateBundler.Text.Lines

/-! # The bundled script

Without a processor of its own a project uses the bundled script, which runs under
Node.js and hands the job to the template compiler installed there. The script makes the
compiler's options from those of the request and answers with the compiler's code or
with what it threw.

What is thrown may be any value. Its message is the text of its `message` if that is
true in the sense of the language, and otherwise of the value itself; its position is
passed on as it is. Values that are not there leave no trace in the answer. Where no
text can be made of a value the script fails.
-/

namespace TemplateBundler.Processor.Script

def text : String := Text.ofLines
  ["// Compiles one merged XJST unit.",
   "//",
   "// Reads \x7b \"source\": string, \"options\": " ++
     "\x7b devMode, cache, exportName, applyFuncName \x7d \x7d",
   "// from stdin and writes either \x7b \"result\": string \x7d or",
   "// \x7b \"error\": \x7b \"message\", \"line\", \"column\" \x7d \x7d to stdout.",
   "",
   "var xjst = require('xjst');",
   "",
   "var chunks = [];",
   "",
   "process.stdin.on('data', function (chunk) \x7b",
   "    chunks.push(chunk);",
   "\x7d);",
   "",
   "process.stdin.on('end', function () \x7b",
   "    var request = JSON.parse(Buffer.concat(chunks).toString('utf8')),",
   "        options = request.options || \x7b\x7d,",
   "        response;",
   "",
   "    try \x7b",
   "        response = \x7b",
   "            result: xjst.generate(request.source, \x7b",
   "                'no-opt': !!options.devMode,",
   "                cache: !!options.cache,",
   "                exportName: options.exportName,",
   "                applyFuncName: options.applyFuncName",
   "            \x7d)",
   "        \x7d;",
   "    \x7d catch (e) \x7b",
   "        response = \x7b",
   "            error: \x7b",
   "                message: String(e && e.message || e),",
   "                line: e && e.line,",
   "                column: e && e.column",
   "            \x7d",
   "        \x7d;",
   "    \x7d",
   "",
   "    process.stdout.write(JSON.stringify(response));",
   "\x7d);"]

/-! ### What the compiler does -/

/-- A value that the compiler throws. -/
inductive Thrown where
  | nothing
  | value (json : Json)
  /-- An error with members of its own. -/
  | error (members : List (String × Json))

/-- What the compiler does with a job. -/
inductive Generated where
  | nothing
  | value (json : Json)
  | thrown (thrown : Thrown)

/-! ### What the compiler is called with -/

/-- What the script calls the compiler with. A value that is not there is left out. -/
structure Call where
  source : Option Json
  options : List (String × Json)

/-- The member of a value that was read from text. Of several with one name the last counts. -/
def readMember? (name : String) : Json → Option Json
  | .object members => members.reverse.lookup name
  | _ => none

/-- The options that the script makes of those in a request. The truth values are always there;
names that are not set are values that are not there. -/
def handedOptions (options : Json) : List (String × Json) :=
  let truth (name : String) : Json := .flag ((readMember? name options).any isTruthy)
  let named (name : String) : List (String × Json) :=
    ((readMember? name options).map fun value => (name, value)).toList
  [("no-opt", truth "devMode"), ("cache", truth "cache")] ++
    named "exportName" ++ named "applyFuncName"

/-- What the script calls the compiler with when this is its input. It fails if that is no JSON
text or nothing. -/
def call? (input : Bytes) : Option Call := do
  match ← (Json.parse input.shown).toOption with
  | .null => none
  | request =>
    let options := ((readMember? "options" request).filter isTruthy).getD (.object [])
    return { source := readMember? "source" request, options := handedOptions options }

/-- A compiler that answers with what it was called with, as JSON text. -/
def echo (job : CompileJob) : Generated :=
  match call? (Bytes.ofText (request.write job)) with
  | some call => .value (.text (stringify (.array [Json.orNull call.source, .object call.options])))
  | none => .nothing

/-! ### What the script answers -/

/-- The member of an error or of an object. -/
def Thrown.member? (thrown : Thrown) (name : String) : Option Json :=
  match thrown with
  | nothing => none
  | value json => Script.member? name json
  | error members => members.lookup name

/-- Whether the language takes what was thrown for true. -/
def Thrown.isTruthy : Thrown → Bool
  | nothing => false
  | value json => Script.isTruthy json
  | error _ => true

/-- The text that the language makes of an error: its name and its message. -/
def errorText? (members : List (String × Json)) : Option String := do
  if (members.lookup "toString").isSome then none
  let name ← (members.lookup "name").elim (some "Error") toText?
  let message ← (members.lookup "message").elim (some "") toText?
  return if name = "" then message else if message = "" then name else name ++ ": " ++ message

/-- The text that the language makes of what was thrown. -/
def Thrown.text? : Thrown → Option String
  | nothing => some "undefined"
  | value json => toText? json
  | error members => errorText? members

/-- The message that the script reports. -/
def Thrown.message? (thrown : Thrown) : Option String :=
  match (thrown.member? "message").filter Script.isTruthy with
  | some message => toText? message
  | none => thrown.text?

/-- What the script reports as a part of the position. A value that is not true for the language
stands for its own parts. -/
def Thrown.part? (thrown : Thrown) (name : String) : Option Json :=
  if thrown.isTruthy then thrown.member? name
  else match thrown with
    | value json => some json
    | _ => none

/-- The text that the script writes, unless it fails. -/
def Generated.output? : Generated → Option String
  | nothing => some "\x7b\x7d"
  | value json => some (stringify (.object [("result", json)]))
  | .thrown e => do
    let part (name : String) : List (String × Json) :=
      ((e.part? name).map fun json => (name, json)).toList
    return stringify (.object [("error", .object
      (("message", .text (← e.message?)) :: part "line" ++ part "column"))])

/-- What is said of a script that fails. -/
def noTextFault : String := "TypeError: Cannot convert object to primitive value"

/-- What becomes of the script when the compiler does this. -/
def Generated.outcome (generated : Generated) : Outcome :=
  match generated.output? with
  | some output => .ran (.exited 0) (Bytes.ofText output) [] none
  | none => .ran (.exited 1) [] (Bytes.ofText noTextFault) none

/-- What the script says when the compiler does this. -/
def Generated.result (generated : Generated) : CompileResult :=
  generated.outcome.result (Path.ofText "node")

end TemplateBundler.Processor.Script
