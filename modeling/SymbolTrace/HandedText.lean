/-!
# Texts that are lent or handed over

A text in an answer is lent by whoever keeps it, or was made for the answer. It says the same in
both cases; but some answers are told from others by who made the text.
-/

namespace SymbolTrace

/-- A text in an answer. -/
inductive HandedText where
  /-- Whoever answers keeps the text. -/
  | lent (text : String)
  /-- The text was made for this answer. -/
  | owned (text : String)
deriving DecidableEq, Repr

namespace HandedText

/-- What the text says. -/
def text : HandedText → String
  | lent text => text
  | owned text => text

@[simp] theorem text_lent (text : String) : (lent text).text = text := rfl

@[simp] theorem text_owned (text : String) : (owned text).text = text := rfl

instance : Coe HandedText String := ⟨text⟩

/-- The same text, made for this answer. -/
def own (handed : HandedText) : HandedText := owned handed.text

/-- The text, if it was made for this answer. -/
def made? : HandedText → Option String
  | lent _ => none
  | owned text => some text

@[simp] theorem made?_lent (text : String) : (lent text).made? = none := rfl

@[simp] theorem made?_owned (text : String) : (owned text).made? = some text := rfl

/-- What is made of a text: of a lent one in place, of an owned one as a copy that outlives it. -/
def derive (make : String → String) : HandedText → String
  | lent text => make text
  | owned text => make text

@[simp] theorem derive_eq (make : String → String) (handed : HandedText) :
    handed.derive make = make handed.text := by
  cases handed <;> rfl

end HandedText

end SymbolTrace
