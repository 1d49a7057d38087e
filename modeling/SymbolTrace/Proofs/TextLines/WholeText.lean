import SymbolTrace.Text.Utf8
import SymbolTrace.TextLines
import Mathlib.Data.List.Basic

/-!
# Lines and the text they make

What reading a stream line by line comes to, said about the stream as a whole. The lines of a text,
each put back with a line feed behind it, make the text again, but for two things: a carriage return
in front of a line feed is gone, and the last line has its line feed in any case (`wholeLines`).

A stream that is no text has a first line that is none, and what stands in front of that line is a
text made of whole lines (`FirstBrokenLine`). The lines that are read are the lines of that text.

## Main results

* `lineInduction`: a sequence is a run of whole lines and perhaps a last one without an end.
* `ofBytes_of_text`, `ofBytes_of_brokenLine`: what is read of a text, and of what is none.
* `exists_brokenLine`: what is no text has a first line that is none.
-/

namespace SymbolTrace.TextLines

open Text

/-! ### Lines of any sequence -/

/-- The induction along the lines of a sequence that `feed` divides: whole lines first, and at the
end nothing or a line that lacks its end. -/
theorem lineInduction {α : Type} (feed : α) {P : List α → Prop} (done : P [])
    (last : ∀ line, feed ∉ line → line ≠ [] → P line)
    (whole : ∀ line rest, feed ∉ line → P rest → P (line ++ feed :: rest)) (sequence : List α) :
    P sequence := by
  induction hlength : sequence.length using Nat.strongRecOn generalizing sequence with
  | _ length ih =>
    subst hlength
    by_cases hfeed : feed ∈ sequence
    · obtain ⟨line, rest, rfl, hline⟩ := List.eq_append_cons_of_mem hfeed
      refine whole line rest hline (ih rest.length ?_ rest rfl)
      simp only [List.length_append, List.length_cons]
      omega
    · by_cases hnil : sequence = []
      · rwa [hnil]
      · exact last sequence hfeed hnil

/-- Is this a run of whole lines? -/
def IsWholeLines {α : Type} (feed : α) (sequence : List α) : Prop :=
  sequence = [] ∨ sequence.getLast? = some feed

/-- The last element is that of the second part, where it goes on. -/
theorem getLast?_append_cons {α : Type} (front rest : List α) (x : α) :
    (front ++ x :: rest).getLast? = if rest = [] then some x else rest.getLast? := by
  cases rest with
  | nil => rw [List.getLast?_concat, if_pos rfl]
  | cons y rest =>
      rw [← List.singleton_append, ← List.append_assoc,
        List.getLast?_append_of_ne_nil _ (List.cons_ne_nil y rest), if_neg (List.cons_ne_nil y rest)]

/-- Whole lines stay whole when one of them is taken from the front. -/
theorem isWholeLines_append_cons {α : Type} {feed : α} {line rest : List α} :
    IsWholeLines feed (line ++ feed :: rest) ↔ IsWholeLines feed rest := by
  rw [IsWholeLines, IsWholeLines, getLast?_append_cons]
  by_cases hrest : rest = [] <;> simp [hrest]

/-- What is left without a feed is no whole line. -/
theorem not_isWholeLines {α : Type} {feed : α} {line : List α} (hline : feed ∉ line)
    (hne : line ≠ []) : ¬ IsWholeLines feed line := by
  rintro (hnil | hlast)
  · exact hne hnil
  · exact hline (List.mem_of_getLast? hlast)

/-! ### Cutting a stream -/

/-- A feed ends a line. -/
theorem cut_append_feed {line : List UInt8} (hline : 10 ∉ line) (rest : List UInt8) :
    cut (line ++ 10 :: rest) = (line ++ [10]) :: cut rest := by
  induction line with
  | nil => rfl
  | cons byte line ih =>
      obtain ⟨hbyte, hline⟩ := not_or.1 (mt List.mem_cons.2 hline)
      rw [List.cons_append, cut, if_neg (Ne.symm hbyte), ih hline]
      rfl

/-- What has no feed is one line. -/
theorem cut_of_not_mem {line : List UInt8} (hline : 10 ∉ line) (hne : line ≠ []) :
    cut line = [line] := by
  induction line with
  | nil => exact absurd rfl hne
  | cons byte line ih =>
      obtain ⟨hbyte, hline⟩ := not_or.1 (mt List.mem_cons.2 hline)
      rw [cut, if_neg (Ne.symm hbyte)]
      cases line with
      | nil => rfl
      | cons next line => rw [ih hline (List.cons_ne_nil _ _)]

/-- A stream is cut behind whole lines as if these were not there. -/
theorem cut_append {front : List UInt8} (hfront : IsWholeLines 10 front) (rest : List UInt8) :
    cut (front ++ rest) = cut front ++ cut rest := by
  induction front using lineInduction (10 : UInt8) with
  | done => rfl
  | last line hline hne => exact absurd hfront (not_isWholeLines hline hne)
  | whole line front hline ih =>
      rw [List.append_assoc, List.cons_append, cut_append_feed hline, cut_append_feed hline,
        ih (isWholeLines_append_cons.1 hfront), List.cons_append]

/-! ### The text that lines make -/

/-- A text with the carriage return dropped from each line break that has one. -/
def dropReturns : List Char → List Char
  | [] => []
  | '\r' :: '\n' :: rest => '\n' :: dropReturns rest
  | c :: rest => c :: dropReturns rest

/-- A text with a line feed at its end; the empty text needs none. -/
def endLine (text : List Char) : List Char :=
  if text = [] ∨ text.getLast? = some '\n' then text else text ++ ['\n']

/-- A text as its lines make it. -/
def wholeLines (text : String) : String :=
  String.ofList (endLine (dropReturns text.toList))

/-- Only a return in front of a feed is dropped. -/
theorem dropReturns_cons {c : Char} {rest : List Char}
    (h : c = '\r' → rest.head? ≠ some '\n') : dropReturns (c :: rest) = c :: dropReturns rest := by
  rw [dropReturns]
  rintro rest' rfl rfl
  exact h rfl rfl

/-- Feeds are kept. -/
theorem dropReturns_feed (rest : List Char) :
    dropReturns ('\n' :: rest) = '\n' :: dropReturns rest :=
  dropReturns_cons fun h => absurd h (by decide)

/-- Without feeds nothing is dropped. -/
theorem dropReturns_of_not_mem {line : List Char} (hline : '\n' ∉ line) :
    dropReturns line = line := by
  induction line with
  | nil => rfl
  | cons c line ih =>
      obtain ⟨-, hline⟩ := not_or.1 (mt List.mem_cons.2 hline)
      rw [dropReturns_cons fun _ hhead => hline (List.mem_of_mem_head? hhead), ih hline]

/-- A whole line loses the carriage return in front of its line feed, and nothing else. -/
theorem dropReturns_append_feed {line : List Char} (hline : '\n' ∉ line) (rest : List Char) :
    dropReturns (line ++ '\n' :: rest) = dropReturn line ++ '\n' :: dropReturns rest := by
  induction line with
  | nil => exact dropReturns_feed rest
  | cons c line ih =>
      obtain ⟨-, hline⟩ := not_or.1 (mt List.mem_cons.2 hline)
      cases line with
      | nil =>
          by_cases hc : c = '\r'
          · subst hc
            rfl
          · rw [List.singleton_append, dropReturns_cons (fun h => absurd h hc),
              dropReturns_feed, dropReturn, if_neg (by simpa using hc)]
            rfl
      | cons d line =>
          have hd : d ≠ '\n' := fun h => hline (h ▸ List.mem_cons_self)
          rw [List.cons_append, dropReturns_cons (fun _ => by simpa using hd), ih hline, dropReturn,
            dropReturn, List.getLast?_cons_cons]
          split
          · rfl
          · rfl

/-- Only the last line may lack its feed. -/
theorem endLine_append_feed (line rest : List Char) :
    endLine (line ++ '\n' :: rest) = line ++ '\n' :: endLine rest := by
  rw [endLine, endLine, getLast?_append_cons]
  by_cases hrest : rest = []
  · simp [hrest]
  · by_cases hlast : rest.getLast? = some '\n' <;> simp [hrest, hlast]

/-- A line without a feed gets one. -/
theorem endLine_of_not_mem {line : List Char} (hline : '\n' ∉ line) (hne : line ≠ []) :
    endLine line = line ++ ['\n'] :=
  if_neg (not_isWholeLines hline hne)

/-! ### Reading lines -/

/-- The bytes of a text are read as that text, without what ended the line. -/
theorem text?_eq_some {line : List UInt8} {text : List Char} (h : line = utf8 text) :
    text? line = some (String.ofList (chomp text)) := by
  have htext : String.fromUTF8? (ByteArray.mk line.toArray) = some (String.ofList text) :=
    fromUTF8?_eq_some_iff.2 (by rw [h, String.toList_ofList])
  rw [text?, htext, Option.map_some, String.toList_ofList]

/-- The line feed is never a part of another character. -/
theorem feed_mem_utf8 {text : List Char} : 10 ∈ utf8 text ↔ '\n' ∈ text := by
  rw [utf8, List.mem_flatMap]
  constructor
  · rintro ⟨c, hc, hfeed⟩
    exact (mem_utf8EncodeChar_iff (a := '\n') (by decide)).1 hfeed ▸ hc
  · intro h
    exact ⟨'\n', h, (mem_utf8EncodeChar_iff (by decide)).2 rfl⟩

/-- A feed is one byte. -/
theorem utf8_append_feed (line rest : List Char) :
    utf8 (line ++ '\n' :: rest) = utf8 line ++ 10 :: utf8 rest := by
  rw [utf8_append, utf8_cons, utf8EncodeChar_of_ascii (by decide)]
  rfl

/-- With the feed a return in front of it goes. -/
theorem chomp_append_feed (line : List Char) : chomp (line ++ ['\n']) = dropReturn line := by
  rw [chomp, List.getLast?_concat, if_pos rfl, List.dropLast_concat]

/-- Without a feed nothing goes, not even a return at the end. -/
theorem chomp_of_not_mem {line : List Char} (hline : '\n' ∉ line) : chomp line = line :=
  if_neg fun hlast => hline (List.mem_of_getLast? hlast)

/-- Lines with a line feed behind each. -/
def ended (lines : List String) : String := String.join (lines.map (· ++ "\n"))

/-- Each line is ended by itself. -/
theorem ended_cons (line : String) (lines : List String) :
    ended (line :: lines) = line ++ "\n" ++ ended lines := by
  rw [ended, List.map_cons, String.join_cons, ended]

/-- A line that is a text is read, and reading goes on. -/
theorem readAll_cons {line : List UInt8} {text : String} (h : text? line = some text)
    (lines : List (List UInt8)) :
    readAll (line :: lines) = (text :: (readAll lines).1, (readAll lines).2) := by
  rw [readAll, h]

/-- All lines of a text are read, and ended anew they make the text of whole lines. -/
theorem readAll_cut_utf8 (text : List Char) :
    ∃ lines, readAll (cut (utf8 text)) = (lines, true) ∧
      ended lines = String.ofList (endLine (dropReturns text)) := by
  induction text using lineInduction '\n' with
  | done => exact ⟨[], rfl, rfl⟩
  | last line hline hne =>
      have hcut : cut (utf8 line) = [utf8 line] :=
        cut_of_not_mem (mt feed_mem_utf8.1 hline) (mt utf8_eq_nil_iff.1 hne)
      refine ⟨[String.ofList line], ?_, ?_⟩
      · rw [hcut, readAll_cons (text?_eq_some rfl), chomp_of_not_mem hline]
        rfl
      · rw [dropReturns_of_not_mem hline, endLine_of_not_mem hline hne, String.ofList_append]
        simp [ended]
  | whole line rest hline ih =>
      obtain ⟨lines, hread, hended⟩ := ih
      refine ⟨String.ofList (dropReturn line) :: lines, ?_, ?_⟩
      · have hbytes : utf8 line ++ [10] = utf8 (line ++ ['\n']) := (utf8_append_feed line []).symm
        rw [utf8_append_feed, cut_append_feed (mt feed_mem_utf8.1 hline), hbytes,
          readAll_cons (text?_eq_some rfl), chomp_append_feed, hread]
      · rw [ended_cons, hended, dropReturns_append_feed hline, endLine_append_feed,
          String.ofList_append, String.ofList_cons, String.append_assoc]
        rfl

/-! ### Streams that are no text -/

/-- The first line of a stream that is no text, what stands in front of it, and what comes after
it. What stands in front are whole lines that make a text. -/
structure FirstBrokenLine (stream front line back : List UInt8) (text : String) : Prop where
  stream_eq : stream = front ++ (line ++ back)
  front_whole : IsWholeLines 10 front
  front_text : String.fromUTF8? (ByteArray.mk front.toArray) = some text
  /-- One line: up to a line feed, or up to the end of the stream. -/
  isLine : ∃ body, 10 ∉ body ∧ (line = body ++ [10] ∨ line = body ∧ back = [])
  broken : String.fromUTF8? (ByteArray.mk line.toArray) = none

/-- The first broken line is a line of the stream, between those before and those behind it. -/
theorem FirstBrokenLine.cut_eq {stream front line back : List UInt8} {text : String}
    (h : FirstBrokenLine stream front line back text) :
    cut stream = cut front ++ line :: cut back := by
  rw [h.stream_eq, cut_append h.front_whole]
  obtain ⟨body, hbody, rfl | ⟨rfl, rfl⟩⟩ := h.isLine
  · rw [List.append_assoc, List.singleton_append, cut_append_feed hbody]
  · have hne : line ≠ [] := by
      rintro rfl
      cases h.broken
    rw [List.append_nil, cut_of_not_mem hbody hne, cut]

/-- Reading stops at the first line that is no text. -/
theorem readAll_append_broken {front : List (List UInt8)} {texts : List String}
    (hfront : readAll front = (texts, true)) {line : List UInt8} (hline : text? line = none)
    (back : List (List UInt8)) : readAll (front ++ line :: back) = (texts, false) := by
  induction front generalizing texts with
  | nil =>
      cases hfront
      rw [List.nil_append, readAll, hline]
  | cons first front ih =>
      cases hfirst : text? first with
      | none =>
          rw [readAll, hfirst] at hfront
          cases hfront
      | some text =>
          rw [readAll_cons hfirst] at hfront
          obtain ⟨rfl, hcomplete⟩ := Prod.mk.inj hfront
          rw [List.cons_append, readAll_cons hfirst, ih (Prod.ext rfl hcomplete)]

/-- A stream is a text or has a first line that is none. -/
theorem exists_text_or_brokenLine (stream : List UInt8) :
    (∃ text, stream = utf8 text) ∨
      ∃ front line back text, FirstBrokenLine stream front line back text := by
  have htext : ∀ (line : List UInt8), (∃ text, line = utf8 text) ∨
      String.fromUTF8? (ByteArray.mk line.toArray) = none := by
    intro line
    cases hline : String.fromUTF8? (ByteArray.mk line.toArray) with
    | none => exact .inr rfl
    | some text => exact .inl ⟨text.toList, fromUTF8?_eq_some_iff.1 hline⟩
  induction stream using lineInduction (10 : UInt8) with
  | done => exact .inl ⟨[], rfl⟩
  | last line hfeed hne =>
      refine (htext line).imp_right fun hbroken => ⟨[], line, [], "", ?_⟩
      exact ⟨by simp, .inl rfl, fromUTF8?_eq_some_iff.2 rfl, ⟨line, hfeed, .inr ⟨rfl, rfl⟩⟩, hbroken⟩
  | whole body rest hfeed ih =>
      have hstream : body ++ 10 :: rest = (body ++ [10]) ++ rest := by simp
      rcases htext (body ++ [10]) with ⟨first, hfirst⟩ | hbroken
      · rcases ih with ⟨text, rfl⟩ | ⟨front, line, back, text, hline⟩
        · exact .inl ⟨first ++ text, by rw [hstream, hfirst, utf8_append]⟩
        · refine .inr ⟨body ++ 10 :: front, line, back, String.ofList first ++ text, ?_⟩
          have hfront : front = utf8 text.toList := fromUTF8?_eq_some_iff.1 hline.front_text
          refine { hline with stream_eq := ?_, front_whole := ?_, front_text := ?_ }
          · rw [hline.stream_eq, List.append_assoc, List.cons_append]
          · exact isWholeLines_append_cons.2 hline.front_whole
          · refine fromUTF8?_eq_some_iff.2 ?_
            rw [String.toList_append, String.toList_ofList, utf8_append, ← hfirst, ← hfront,
              List.append_assoc, List.singleton_append]
      · refine .inr ⟨[], body ++ [10], rest, "", ?_⟩
        exact ⟨hstream, .inl rfl, fromUTF8?_eq_some_iff.2 rfl, ⟨body, hfeed, .inl rfl⟩, hbroken⟩

/-- All lines of a text are read. -/
theorem ofBytes_of_text {stream : ByteArray} {text : String}
    (h : String.fromUTF8? stream = some text) :
    ∃ lines, ofBytes stream = (lines, true) ∧ ended lines = wholeLines text := by
  obtain ⟨lines, hread, hended⟩ := readAll_cut_utf8 text.toList
  refine ⟨lines, ?_, hended⟩
  rw [ofBytes, toList_eq, fromUTF8?_eq_some_iff.1 h, hread]

/-- Of a stream that is no text, the lines in front of the first broken one are read. -/
theorem ofBytes_of_brokenLine {stream : ByteArray} {front line back : List UInt8} {text : String}
    (h : FirstBrokenLine stream.toList front line back text) :
    ∃ lines, ofBytes stream = (lines, false) ∧ ended lines = wholeLines text := by
  obtain ⟨lines, hread, hended⟩ := readAll_cut_utf8 text.toList
  rw [← fromUTF8?_eq_some_iff.1 h.front_text] at hread
  refine ⟨lines, ?_, hended⟩
  rw [ofBytes, h.cut_eq]
  refine readAll_append_broken hread ?_ (cut back)
  rw [text?, h.broken, Option.map_none]

/-- A stream that is no text has a first line that is none. -/
theorem exists_brokenLine {stream : ByteArray} (h : String.fromUTF8? stream = none) :
    ∃ front line back text, FirstBrokenLine stream.toList front line back text := by
  refine (exists_text_or_brokenLine stream.toList).resolve_left ?_
  rintro ⟨text, htext⟩
  rw [toList_eq] at htext
  have hsome : String.fromUTF8? stream = some (String.ofList text) :=
    fromUTF8?_eq_some_iff.2 (by rw [htext, String.toList_ofList])
  rw [h] at hsome
  cases hsome

end SymbolTrace.TextLines
