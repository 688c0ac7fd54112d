import Predictive.Analysis.Summary
import Predictive.Grammar.Source
import Predictive.Parser.Build
import Predictive.Parser.Trace
import Predictive.Table.Grid
import Predictive.Tree.Traversal
/-!
# The command line

A command names outputs, then options, then at most one file. Anything else gets the help text. The
outputs are printed one after the other until an error ends the work; what is printed before an
error stays printed.
-/
namespace Predictive

namespace CommandLine

inductive Output
  | productions
  | summary
  | table
  | trace
  | tree
deriving DecidableEq

inductive Format
  | plain
  | latex
  | json
deriving DecidableEq

structure Command where
  outputs : List Output
  format : Format
  input : Option String
  file : Option String
deriving DecidableEq

/-- Why a grammar could not be read. -/
inductive ReadError
  | missing
  | directory
  | notText
  | other (message : String)
deriving DecidableEq

def ReadError.message : ReadError → String
  | missing => "No such file or directory (os error 2)"
  | directory => "Is a directory (os error 21)"
  | notText => "stream did not contain valid UTF-8"
  | other message => message

/-- What a run leaves behind: the exit code and the texts on the two output streams. -/
structure Outcome where
  code : Nat
  stdout : String
  stderr : String
deriving DecidableEq

def helpText : String :=
  String.join (["Usage: ll1-parka outputs [options] [grammar file]",
    "outputs:",
    "  prod: Productions",
    "  nff: Nullable first and follow",
    "  ll1: LL(1) parsing table",
    "  trace: Trace of a predictive parse of the input",
    "  tree: Parse tree of the input",
    "options:",
    "  -h: Print this help",
    "  -l: Print in LaTeX format",
    "  -j: Print in JSON format",
    "  -i <input>: Whitespace separated terminals to parse"].map (fun line => line ++ "\n"))

def help : Outcome := ⟨0, helpText, ""⟩

def Output.ofWord (word : String) : Option Output :=
  match word with
  | "prod" => some .productions
  | "nff" => some .summary
  | "ll1" => some .table
  | "trace" => some .trace
  | "tree" => some .tree
  | _ => none

/-- Splits off the outputs at the start of the arguments. -/
def takeOutputs : List String → List Output × List String
  | [] => ([], [])
  | word :: rest =>
    match Output.ofWord word with
    | none => ([], word :: rest)
    | some output =>
      let (outputs, rest) := takeOutputs rest
      (output :: outputs, rest)

/-- Reads the options and the file behind them. The command so far holds what earlier options have
set. A call for help, and anything that is out of place, gives no command. -/
def readOptions (c : Command) : List String → Option Command
  | [] => some c
  | "-h" :: _ => none
  | "--help" :: _ => none
  | "-l" :: rest => readOptions { c with format := .latex } rest
  | "-j" :: rest => readOptions { c with format := .json } rest
  | ["-i"] => none
  | "-i" :: text :: rest => readOptions { c with input := some text } rest
  | [file] => some { c with file := some file }
  | _ => none

def read (args : List String) : Option Command :=
  let (outputs, rest) := takeOutputs args
  match readOptions ⟨outputs, .plain, none, none⟩ rest with
  | none => none
  | some c => if c.outputs = [] then none else some c

/-- The text that bytes stand for in UTF-8. -/
def decode (bytes : ByteArray) : Except ReadError String :=
  match String.fromUTF8? bytes with
  | none => .error .notText
  | some text => .ok text

/-- The lines of standard input, which is read line by line: the bytes of each line have to stand for
text on their own. -/
def inputLines (bytes : ByteArray) : Except ReadError (List Text) :=
  match (bytes.data.toList.splitOn 10).mapM (fun line => decode line.toByteArray) with
  | .error e => .error e
  | .ok pieces => .ok (Text.closeLines (pieces.map String.toList))

/-- Lines put together again. -/
def joinLines (lines : List Text) : String := "\n".intercalate (lines.map String.ofList)

/-- The words of the input as tokens, with the end of the input behind them. -/
def inputTokens (c : Command) : Except String (List Token) :=
  match c.input with
  | none => .error "trace and tree need an input, see -i"
  | some text =>
    .ok ((Text.words text.toList).map (fun word => Token.ofLabel (String.ofList word)) ++
      [Token.endOfInput])

def traceText (c : Command) (p : Parser) : Except String String :=
  match inputTokens c with
  | .error message => .error message
  | .ok tokens =>
    match p.trace tokens with
    | (_, .error e) => .error e.message
    | (events, .ok ()) =>
      let texts := events.map Event.text
      match c.format with
      | .json => .ok ((Json.strings texts).compact ++ "\n")
      | _ => .ok ("\n".intercalate texts ++ "\n")

def treeText (c : Command) (p : Parser) : Except String String :=
  match inputTokens c with
  | .error message => .error message
  | .ok tokens =>
    match p.tree tokens with
    | .error e => .error e.message
    | .ok t =>
      match c.format with
      | .json => .ok (t.json.compact ++ "\n")
      | _ => .ok (t.text ++ "yield: " ++ t.yield ++ "\n")

def tableText (c : Command) (g : Grammar) (t : Table) : String :=
  match c.format with
  | .plain => (t.grid g).text ++ "\n"
  | .latex => (t.grid g).latex ++ "\n"
  | .json => (t.grid g).json.compact ++ "\n"

/-- Hands the table of the grammar on, or the message of its conflict. -/
def withTable (g : Grammar) (use : Table → Except String String) : Except String String :=
  match g.table with
  | .error conflict => .error conflict.message
  | .ok t => use t

/-- The text of one output, or the message of the error in its way. -/
def outputText (c : Command) (g : Grammar) (output : Output) : Except String String :=
  match output with
  | .productions =>
    match c.format with
    | .plain => .ok (g.listingText ++ "\n")
    | .latex => .ok (g.listingLatex ++ "\n")
    | .json => .ok (g.listingJson.compact ++ "\n")
  | .summary =>
    match c.format with
    | .plain => .ok (g.summaryText ++ "\n")
    | .latex => .ok (g.summaryLatex ++ "\n")
    | .json => .ok (g.summaryJson.compact ++ "\n")
  | .table => withTable g (fun t => .ok (tableText c g t))
  | .trace => withTable g (fun t => traceText c ⟨g, t⟩)
  | .tree => withTable g (fun t => treeText c ⟨g, t⟩)

/-- The end of a run by an error, after the given text was printed. -/
def failure (stdout message : String) : Outcome := ⟨1, stdout, "error: " ++ message ++ "\n"⟩

/-- Prints outputs after what is printed already. -/
def printOutputs (c : Command) (g : Grammar) (stdout : String) : List Output → Outcome
  | [] => ⟨0, stdout, ""⟩
  | output :: rest =>
    match outputText c g output with
    | .error message => failure stdout message
    | .ok text => printOutputs c g (stdout ++ text) rest

/-- The text of the grammar: a file is read whole, standard input line by line. -/
def sourceText (c : Command) (content : Except ReadError ByteArray) : Except ReadError String :=
  match content with
  | .error e => .error e
  | .ok bytes => if c.file = none then (inputLines bytes).map joinLines else decode bytes

/-- Carries out a command on the bytes of its grammar. -/
def answer (c : Command) (content : Except ReadError ByteArray) : Outcome :=
  match sourceText c content with
  | .error e => failure "" e.message
  | .ok text =>
    match Grammar.read text with
    | .error e => failure "" e.message
    | .ok g => printOutputs c g "" c.outputs

/-- A whole run, given what standard input and the files hold. -/
def run (args : List String) (stdin : ByteArray)
    (file : String → Except ReadError ByteArray) : Outcome :=
  match read args with
  | none => help
  | some c =>
    match c.file with
    | none => answer c (.ok stdin)
    | some name => answer c (file name)

end CommandLine

end Predictive
