import Ripple.Annotation
import Ripple.Failure
import Ripple.Text.Digits
import Ripple.Text.Quoted
import Ripple.Xml.Document

/-! Reports of test runs, as annotations.

A report is a document whose `testcase` elements, at any depth, are the tests that were run. A test
that failed has a child that says so, and becomes an error; a test that was left out becomes a
warning where these are wanted (`TestReport.annotations`). The place of an annotation is that of
the test, or else the first one that the text of the failure mentions. -/
namespace Ripple

inductive ReportError where
  | unreadable (file : Path) (e : LookupError)
  | malformed (file : Path) (fault : Xml.Fault) (position : Xml.Position)
  /-- The report names an encoding that cannot be used. -/
  | encoding (e : Xml.EncodingError)
  /-- The digits of a line are not all decimal. -/
  | badLine (text : String)
  /-- A line has more digits than numbers are read with. -/
  | longLine (digits : Nat)

namespace ReportError

/-- No more than this is shown of a text that is no number. -/
def shownLength : Nat := 200

def message : ReportError → String
  | unreadable file e =>
    "Failed to read " ++ file.text ++ ": [Errno " ++ toString e.number ++ "] " ++ e.message ++ ": "
      ++ Text.quoted file.text
  | malformed file fault position =>
    "Failed to parse XML in " ++ file.text ++ ": " ++ fault.messageAt position
  | encoding e => e.message
  | badLine text => "invalid literal for int() with base 10: "
    ++ .ofList ((Text.quoted text).toList.take shownLength)
  | longLine digits => "Exceeds the limit (" ++ toString Text.maxDigits
    ++ " digits) for integer string conversion: value has " ++ toString digits
    ++ " digits; use sys.set_int_max_str_digits() to increase the limit"

/-- The failure that is told in the program's own words. -/
def failure? : ReportError → Option Failure
  | unreadable file e => some ⟨.general, (unreadable file e).message, [.path file.text]⟩
  | malformed file fault position =>
    some ⟨.general, (malformed file fault position).message, [.path file.text]⟩
  | encoding _ | badLine _ | longLine _ => none

/-- Why a report in a file cannot be read as a document. -/
def ofXml (file : Path) : Xml.Error → ReportError
  | .malformed fault position => malformed file fault position
  | .encoding e => encoding e

end ReportError

namespace TestReport

/-- Where something happened, as far as that is known. -/
structure Place where
  file : Option String
  line : Option Nat
  deriving DecidableEq, Repr

/-- The number of a line, which is given in digits. -/
def readLine (digits : List Char) : Except ReportError Nat :=
  match Text.readNat? digits with
  | some line => .ok line
  | none =>
    let decimals := digits.takeWhile Text.isDecimal
    if Text.maxDigits < decimals.length then .error (.longLine decimals.length)
    else .error (.badLine (.ofList digits))

/-! ### Places in a text

A traceback tells a place in the words `File "<name>", line <number>`. -/

/-- The file and the digits of the line that are told right here. -/
def mentionHere? (cs : List Char) : Option (String × List Char) :=
  if "File \x22".toList.isPrefixOf cs then
    let rest := cs.drop 6
    let file := rest.takeWhile (· != '\x22')
    let rest := rest.drop file.length
    if file != [] && "\x22, line ".toList.isPrefixOf rest then
      let digits := (rest.drop 8).takeWhile Text.isDecimal
      if digits = [] then none else some (.ofList file, digits)
    else none
  else none

/-- The first place that is told in a text. -/
def mention? : List Char → Option (String × List Char)
  | [] => none
  | c :: cs => (mentionHere? (c :: cs)).or (mention? cs)

/-! ### Tests -/

def testName (test : Xml.Element) : String :=
  let group := test.attributeText "classname"
  let name := test.attributeText "name"
  if name = "" then "(unknown test)" else if group = "" then name else group ++ "." ++ name

/-- What a failure says: its message, else the first line of its text that is not blank. -/
def messageOf (node : Xml.Element) (otherwise : String) : String :=
  let said := Text.strip (node.attributeText "message") ::
    (Text.lines node.text).map Text.strip
  (said.find? (· != "")).getD otherwise

/-- The line that a test says it is on, if it says so in digits. -/
def lineOf (test : Xml.Element) : Except ReportError (Option Nat) :=
  let raw := (test.attributeText "line").toList
  if raw != [] && raw.all Text.isDigit then (readLine raw).map some else .ok none

def placeOf (test : Xml.Element) (body : String) : Except ReportError Place := do
  let file := test.attribute? "file"
  let line ← lineOf test
  if test.attributeText "file" != "" || line.isSome then return ⟨file, line⟩
  else match mention? body.toList with
    | some (file, digits) => return ⟨some file, some (← readLine digits)⟩
    | none => return ⟨none, none⟩

def failureTags : List String := ["failure", "error"]

def skipTag : String := "skipped"

/-- The annotation of a test for which one of its children is the reason. -/
def annotationFor (level : AnnotationLevel) (otherwise : String) (test reason : Xml.Element) :
    Except ReportError Annotation := do
  let place ← placeOf test reason.text
  return ⟨level, testName test ++ ": " ++ messageOf reason otherwise, place.file, place.line⟩

def annotation? (includeSkipped : Bool) (test : Xml.Element) :
    Except ReportError (Option Annotation) := do
  match test.children.find? fun e => failureTags.contains e.tag with
  | some reason => return some (← annotationFor .error "Test failed" test reason)
  | none => match test.children.find? fun e => includeSkipped && e.tag == skipTag with
    | some reason => return some (← annotationFor .warning "Test skipped" test reason)
    | none => return none

/-- The tests of a report, in the order of the document. -/
def tests (report : Xml.Element) : List Xml.Element := report.all.filter (·.tag == "testcase")

def annotations (report : Xml.Element) (includeSkipped : Bool) :
    Except ReportError (List Annotation) := do
  return (← (tests report).mapM (annotation? includeSkipped)).filterMap id

/-- The lines for a report, with files as seen from `seenFrom`. -/
def lines (report : Xml.Element) (includeSkipped : Bool) (seenFrom : Path) :
    Except ReportError (List String) := do
  return (← annotations report includeSkipped).map fun a => a.render seenFrom

end TestReport

namespace Workspace

def report (w : Workspace) (file : Path) : Except ReportError Xml.Element := do
  let bytes ← (w.read file).mapError (ReportError.unreadable file)
  (Xml.parse Xml.Charset.common bytes).mapError (ReportError.ofXml file)

/-- The lines for the report in a file. -/
def reportLines (w : Workspace) (file : Path) (includeSkipped : Bool) (seenFrom : Path) :
    Except ReportError (List String) := do
  TestReport.lines (← w.report file) includeSkipped seenFrom

end Workspace

end Ripple
