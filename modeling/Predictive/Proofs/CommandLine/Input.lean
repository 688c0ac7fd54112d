import Predictive.CommandLine
import Predictive.Proofs.Grammar.LineEnds
import Predictive.Proofs.Text.Bytes
/-!
# A grammar on standard input and in a file

Standard input is read line by line and put together again, while a file is read whole. Both have
the same bytes refused, and what differs in the texts are the ends of lines, which do not matter to
a grammar. So both give the same outcome.
-/
namespace Predictive

namespace CommandLine

section Decoding

private theorem decode_bytes (text : Text) :
    decode (Text.bytes text).toByteArray = .ok (String.ofList text) := by
  rw [decode, Text.fromUTF8?_bytes]

private theorem decode_cases (bs : List UInt8) :
    (∃ text, bs = Text.bytes text) ∨ decode bs.toByteArray = .error .notText := by
  unfold decode
  split
  · exact Or.inr rfl
  · next text htext => exact Or.inl ⟨text.toList, Text.eq_bytes_of_fromUTF8? bs text htext⟩

private theorem mapM_decode_bytes (pieces : List Text) :
    (pieces.map Text.bytes).mapM (fun line => decode line.toByteArray) =
      .ok (pieces.map String.ofList) := by
  induction pieces with
  | nil => rfl
  | cons piece pieces ih =>
    rw [List.map_cons, List.mapM_cons, decode_bytes, ih]
    rfl

private theorem mapM_decode_cases (lines : List (List UInt8)) :
    (∃ pieces : List Text, lines = pieces.map Text.bytes) ∨
      lines.mapM (fun line => decode line.toByteArray) = .error .notText := by
  induction lines with
  | nil => exact Or.inl ⟨[], rfl⟩
  | cons line lines ih =>
    rcases decode_cases line with ⟨text, rfl⟩ | hline
    · rcases ih with ⟨pieces, rfl⟩ | hlines
      · exact Or.inl ⟨text :: pieces, rfl⟩
      · right
        rw [List.mapM_cons, decode_bytes, hlines]
        rfl
    · right
      rw [List.mapM_cons, hline]
      rfl

/-- Reading line by line gives the lines of the whole text, and refuses the same bytes. -/
private theorem inputLines_eq (bytes : ByteArray) :
    inputLines bytes = (decode bytes).map (fun text => Text.lines text.toList) := by
  have hbytes : bytes = bytes.data.toList.toByteArray := by
    apply ByteArray.ext
    rw [List.data_toByteArray, Array.toArray_toList]
  generalize bytes.data.toList = bs at hbytes
  subst hbytes
  rcases decode_cases bs with ⟨text, rfl⟩ | hbad
  · rw [inputLines, List.data_toByteArray, Text.splitOn_bytes, mapM_decode_bytes, decode_bytes]
    simp [Except.map, Text.lines, Function.comp_def]
  · rw [inputLines, List.data_toByteArray, hbad]
    rcases mapM_decode_cases (bs.splitOn 10) with ⟨pieces, hpieces⟩ | hlines
    · rw [Text.eq_bytes_of_pieces bs pieces hpieces, decode_bytes] at hbad
      cases hbad
    · simp only [hlines]
      rfl

end Decoding

section Arguments

/-- The words that ask for an output. -/
def outputWords : List String := ["prod", "nff", "ll1", "trace", "tree"]

/-- The words that begin an option. -/
def optionWords : List String := ["-h", "--help", "-l", "-j", "-i"]

/-- A list of options, in which every `-i` has its text behind it. -/
inductive Options : List String → Prop
  | nil : Options []
  | flag (word : String) (rest : List String) (h : word ∈ ["-h", "--help", "-l", "-j"])
    (hrest : Options rest) : Options (word :: rest)
  | input (text : String) (rest : List String) (hrest : Options rest) :
    Options ("-i" :: text :: rest)

private theorem ofWord_eq_none_iff (word : String) :
    Output.ofWord word = none ↔ word ∉ outputWords := by
  unfold Output.ofWord
  split <;> simp_all [outputWords]

private theorem Options.not_output (options : List String) (h : Options options) :
    ∀ word ∈ options.head?, word ∉ outputWords := by
  intro word hword
  cases h with
  | nil => cases hword
  | flag first rest hfirst _ =>
    obtain rfl : first = word := Option.some.inj hword
    simp only [List.mem_cons, List.not_mem_nil, or_false] at hfirst
    rcases hfirst with rfl | rfl | rfl | rfl <;> decide
  | input text rest _ =>
    obtain rfl : "-i" = word := Option.some.inj hword
    decide

private theorem takeOutputs_append (outputs rest : List String)
    (h : ∀ word ∈ outputs, word ∈ outputWords) (hrest : ∀ word ∈ rest.head?, word ∉ outputWords) :
    takeOutputs (outputs ++ rest) = ((takeOutputs outputs).1, rest) := by
  induction outputs with
  | nil =>
    cases rest with
    | nil => rfl
    | cons word rest =>
      have hnone := (ofWord_eq_none_iff word).mpr (hrest word rfl)
      simp only [List.nil_append, takeOutputs, hnone]
  | cons word outputs ih =>
    obtain ⟨hword, houtputs⟩ := List.forall_mem_cons.mp h
    rw [List.cons_append, takeOutputs, takeOutputs, ih houtputs]
    cases hof : Output.ofWord word with
    | none => exact absurd hword ((ofWord_eq_none_iff word).mp hof)
    | some output => rfl

private theorem readOptions_append_name (c : Command) (options : List String) (h : Options options)
    (name : String) (hname : name ∉ optionWords) :
    readOptions c (options ++ [name]) =
        (readOptions c options).map (fun c => { c with file := some name }) ∧
      ∀ c' ∈ readOptions c options, c'.file = c.file := by
  induction h generalizing c with
  | nil =>
    -- What is none of the known words is read by the last case for a single word.
    simp only [optionWords, List.mem_cons, List.not_mem_nil, or_false, not_or] at hname
    obtain ⟨hh, hhelp, hl, hj, hi⟩ := hname
    constructor
    · simp [readOptions]
    · simp [readOptions]
  | flag word rest hword _ ih =>
    simp only [List.mem_cons, List.not_mem_nil, or_false] at hword
    rcases hword with rfl | rfl | rfl | rfl
    · simp [readOptions]
    · simp [readOptions]
    · simpa [readOptions] using ih { c with format := .latex }
    · simpa [readOptions] using ih { c with format := .json }
  | input text rest _ ih => simpa [readOptions] using ih { c with input := some text }

private theorem read_append_name (outputs options : List String)
    (houtputs : ∀ word ∈ outputs, word ∈ outputWords) (hoptions : Options options) (name : String)
    (hname : name ∉ outputWords ∧ name ∉ optionWords) :
    read (outputs ++ options ++ [name]) =
        (read (outputs ++ options)).map (fun c => { c with file := some name }) ∧
      ∀ c ∈ read (outputs ++ options), c.file = none := by
  have hbehind : ∀ word ∈ (options ++ [name]).head?, word ∉ outputWords := by
    cases options with
    | nil => simpa using hname.1
    | cons word options => exact hoptions.not_output
  obtain ⟨happend, hfile⟩ := readOptions_append_name ⟨(takeOutputs outputs).1, .plain, none, none⟩
    options hoptions name hname.2
  simp only [read, List.append_assoc, takeOutputs_append outputs _ houtputs hbehind,
    takeOutputs_append outputs options houtputs hoptions.not_output, happend]
  cases hread : readOptions ⟨(takeOutputs outputs).1, .plain, none, none⟩ options with
  | none => simp
  | some c =>
    have hnone := hfile c hread
    by_cases hempty : c.outputs = [] <;> simp [hempty, hnone]

end Arguments

private theorem printOutputs_file (c : Command) (file : Option String) (g : Grammar)
    (stdout : String) (outputs : List Output) :
    printOutputs { c with file := file } g stdout outputs = printOutputs c g stdout outputs := by
  induction outputs generalizing stdout with
  | nil => rfl
  | cons output outputs ih =>
    have hsame : outputText { c with file := file } g output = outputText c g output := rfl
    rw [printOutputs, printOutputs, hsame]
    split
    · rfl
    · exact ih _

private theorem answer_file (c : Command) (hc : c.file = none) (name : String) (content : ByteArray) :
    answer { c with file := some name } (.ok content) = answer c (.ok content) := by
  simp only [answer, sourceText, hc, inputLines_eq, reduceCtorEq, if_false, if_true]
  cases decode content with
  | error e => rfl
  | ok text =>
    simp only [Except.map, joinLines, Grammar.read_intercalate_lines, printOutputs_file]

/-- A grammar gives the same outcome on standard input and in a file that is named behind the
options. -/
theorem run_input_eq_run_file (outputs options : List String)
    (houtputs : ∀ word ∈ outputs, word ∈ outputWords) (hoptions : Options options) (name : String)
    (hname : name ∉ outputWords ∧ name ∉ optionWords) (content other : ByteArray)
    (file file' : String → Except ReadError ByteArray) (hcontent : file name = .ok content) :
    run (outputs ++ options) content file' = run (outputs ++ options ++ [name]) other file := by
  obtain ⟨happend, hnone⟩ := read_append_name outputs options houtputs hoptions name hname
  rw [run, run, happend]
  cases hread : read (outputs ++ options) with
  | none => rfl
  | some c =>
    have hc := hnone c hread
    simp only [Option.map_some, hc, hcontent]
    exact (answer_file c hc name content).symm

/-- A grammar with a letter of two bytes, blanks in front of its line ends and an arrow missing in
the third line. -/
def untidyGrammar : ByteArray := "S -> ä b\r\r\n\r\nT t\r".toUTF8

def shelf (name : String) : Except ReadError ByteArray :=
  if name = "untidy" then .ok untidyGrammar else .error .missing

def untidyOutcome : Outcome := failure "" "Line 3: expected \"->\" or \"|\""

theorem run_input_eq_run_file_untidy :
    (∀ word ∈ ["prod"], word ∈ outputWords) ∧ Options ["-i", "ll1", "-l"] ∧
    ("untidy" ∉ outputWords ∧ "untidy" ∉ optionWords) ∧ shelf "untidy" = .ok untidyGrammar ∧
    run (["prod"] ++ ["-i", "ll1", "-l"]) untidyGrammar shelf = untidyOutcome ∧
    run (["prod"] ++ ["-i", "ll1", "-l"] ++ ["untidy"]) ByteArray.empty shelf = untidyOutcome := by
  have houtputs : ∀ word ∈ ["prod"], word ∈ outputWords := by decide
  have hoptions : Options ["-i", "ll1", "-l"] :=
    .input "ll1" ["-l"] (.flag "-l" [] (by decide) .nil)
  have hname : "untidy" ∉ outputWords ∧ "untidy" ∉ optionWords := by decide
  have hcontent : shelf "untidy" = .ok untidyGrammar := rfl
  have hrun : run (["prod"] ++ ["-i", "ll1", "-l"]) untidyGrammar shelf = untidyOutcome := by
    decide
  have hsame := run_input_eq_run_file ["prod"] ["-i", "ll1", "-l"] houtputs hoptions "untidy" hname
    untidyGrammar ByteArray.empty shelf shelf hcontent
  exact ⟨houtputs, hoptions, hname, hcontent, hrun, hsame ▸ hrun⟩

end CommandLine

end Predictive
