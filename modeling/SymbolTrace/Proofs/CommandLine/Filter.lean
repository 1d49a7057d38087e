import SymbolTrace.CommandLine.Run
import SymbolTrace.Proofs.RunningText.Separator
import SymbolTrace.Proofs.TextLines.WholeText

/-!
# Filtering a stream

The `filter` command reads its input line by line, and yet it does what making the whole input
readable at once would do: a line feed stands in no word, so no line depends on another. Two things
are left of the lines. A line break loses its carriage return, and the last line gets a line feed;
`TextLines.wholeLines` is the input with both done.

Where the input is no text, this holds of the lines in front of the first one that is none. The rest
is dropped.

## Main results

* `text_demangleWords_ended`: lines are made readable one by one.
* `run_filter`: the whole command.
-/

namespace SymbolTrace.CommandLine

open RunningText TextLines

section

variable [Mangling.Allocator]

/-- Lines are made readable one by one. -/
theorem text_demangleWords_ended (lines : List String) :
    (demangleWords (ended lines)).text =
      ended (lines.map fun line => (demangleWords line).text) := by
  induction lines with
  | nil =>
      rw [demangleWords_of_isLeftmost (Cutting.IsLeftmost.last (.nil [])) rfl]
      rfl
  | cons line lines ih =>
      have hfeed : "\n" = String.singleton '\n' := rfl
      rw [ended_cons, List.map_cons, ended_cons, hfeed,
        demangleWords_append_separator (by decide), ih]

/-- What is printed is made of the text that the lines make. -/
theorem filterLines_of_ofBytes {input : ByteArray} {lines : List String} {complete : Bool}
    (h : ofBytes input = (lines, complete)) :
    filterLines input = ((demangleWords (ended lines)).text, complete) := by
  rw [text_demangleWords_ended, filterLines, h, ended, List.map_map]
  rfl

/-- **The `filter` command.** Of an input that is a text, the text of its whole lines is printed
with its words made readable, and the code is 0. An input that is no text has a first line that is
none; what is printed is the same for the text in front of that line, and the code is 1. -/
theorem run_filter (equipment : Equipment) (input : ByteArray) (files : FileReader) :
    let outcome := Command.filter.run equipment input files
    (∀ text, String.fromUTF8? input = some text →
      outcome.output = (demangleWords (wholeLines text)).text ∧ outcome.code = 0) ∧
    (∀ front line back text, FirstBrokenLine input.toList front line back text →
      outcome.output = (demangleWords (wholeLines text)).text ∧ outcome.code = 1) ∧
    (String.fromUTF8? input = none →
      ∃ front line back text, FirstBrokenLine input.toList front line back text) := by
  intro outcome
  have houtcome : ∀ {lines complete}, ofBytes input = (lines, complete) →
      outcome = ⟨(demangleWords (ended lines)).text, if complete then none else some notText, []⟩ := by
    intro lines complete h
    simp only [outcome, Command.run, filterLines_of_ofBytes h]
  refine ⟨?_, ?_, exists_brokenLine⟩
  · intro text htext
    obtain ⟨lines, hlines, hended⟩ := ofBytes_of_text htext
    rw [houtcome hlines, hended]
    exact ⟨rfl, rfl⟩
  · intro front line back text hbroken
    obtain ⟨lines, hlines, hended⟩ := ofBytes_of_brokenLine hbroken
    rw [houtcome hlines, hended]
    exact ⟨rfl, rfl⟩

end

/-- A symbol, a line break with a carriage return, and a symbol without a line break. -/
def twoSymbols : ByteArray :=
  ⟨#[0x5f, 0x57, 0x54, 0x73, 0x49, 0x0d, 0x0a, 0x5f, 0x57, 0x54, 0x73, 0x62]⟩

/-- The same with a byte behind it that is in no text. -/
def brokenSymbol : ByteArray :=
  ⟨#[0x5f, 0x57, 0x54, 0x73, 0x49, 0x0d, 0x0a, 0x5f, 0x57, 0x54, 0x73, 0x62, 0xff]⟩

/-- Equipment that knows no object files and no foreign names. -/
def noEquipment : Equipment where
  reader _ := .error "Unknown file magic"
  secondary _ := none

attribute [local instance] Mangling.Allocator.unlimited

/-- Both lines of the one input are printed, and the first line of the other. -/
theorem run_filter_twoSymbols :
    String.fromUTF8? twoSymbols = some "_WTsI\r\n_WTsb" ∧
      (Command.filter.run noEquipment twoSymbols fun _ => .error .notFound).output = "Int\nBool\n" ∧
      FirstBrokenLine brokenSymbol.toList [0x5f, 0x57, 0x54, 0x73, 0x49, 0x0d, 0x0a]
        [0x5f, 0x57, 0x54, 0x73, 0x62, 0xff] [] "_WTsI\r\n" ∧
      (Command.filter.run noEquipment brokenSymbol fun _ => .error .notFound).output = "Int\n" ∧
      (Command.filter.run noEquipment brokenSymbol fun _ => .error .notFound).code = 1 := by
  have htext : String.fromUTF8? twoSymbols = some "_WTsI\r\n_WTsb" := by decide +kernel
  have hbroken : FirstBrokenLine brokenSymbol.toList [0x5f, 0x57, 0x54, 0x73, 0x49, 0x0d, 0x0a]
      [0x5f, 0x57, 0x54, 0x73, 0x62, 0xff] [] "_WTsI\r\n" := {
    stream_eq := by decide +kernel
    front_whole := .inr (by decide)
    front_text := by decide +kernel
    isLine := ⟨_, by decide, .inr ⟨rfl, rfl⟩⟩
    broken := by decide +kernel }
  obtain ⟨houtput, -⟩ := (run_filter noEquipment twoSymbols fun _ => .error .notFound).1 _ htext
  obtain ⟨houtput', hcode⟩ :=
    (run_filter noEquipment brokenSymbol fun _ => .error .notFound).2.1 _ _ _ _ hbroken
  have hint : (demangleWords "_WTsI").text = "Int" :=
    text_demangleWords_of_word ⟨⟨['T', 's', 'I'], rfl, by decide, List.all_eq_true.1 rfl⟩, nofun⟩
      (by cbv)
  have hbool : (demangleWords "_WTsb").text = "Bool" :=
    text_demangleWords_of_word ⟨⟨['T', 's', 'b'], rfl, by decide, List.all_eq_true.1 rfl⟩, nofun⟩
      (by cbv)
  have hlines : wholeLines "_WTsI\r\n_WTsb" = ended ["_WTsI", "_WTsb"] := by decide +kernel
  have hline : wholeLines "_WTsI\r\n" = ended ["_WTsI"] := by decide +kernel
  refine ⟨htext, houtput.trans ?_, hbroken, houtput'.trans ?_, hcode⟩
  · rw [hlines, text_demangleWords_ended, List.map_cons, List.map_singleton, hint, hbool]
    rfl
  · rw [hline, text_demangleWords_ended, List.map_singleton, hint]
    rfl

end SymbolTrace.CommandLine
