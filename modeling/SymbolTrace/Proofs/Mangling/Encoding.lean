import SymbolTrace.Proofs.Mangling.Recognition

/-!
# Encoding declarations

The canonical linkage name of a declaration: the sentinel and the tree's spelling, every number
written without leading zeros. The parts stand next to each other with nothing in between, so not
every tree can be told from its encoding. `Declaration.Encodable` says when it can: names have to
be there and must not start with a digit, and no sized integer may stand right in front of a
digit. Decoding then gives back the tree, whatever text follows that could not belong to it.

## Main results

* `TypeExpr.spelled_encode`, `Declaration.spelled_encode`: the encoding is a spelling.
* `demangled_encode_append`: decoding undoes encoding.
-/

namespace SymbolTrace.Mangling

/-! ### The encoder -/

/-- A number, without leading zeros. -/
def encodeNumber (value : Nat) : List Char := Nat.toDigits 10 value

/-- A name behind the number of its bytes. -/
def encodeName (name : String) : List Char := encodeNumber name.utf8ByteSize ++ name.toList

/-- The pointer prefix of a type. -/
def encodePointers : Option Nat → List Char
  | none => []
  | some count => 'P' :: (encodeNumber count ++ ['T'])

/-- The code of a builtin type. -/
def Builtin.encode : Builtin → List Char
  | int => ['I']
  | sizedInt none => ['i']
  | sizedInt (some width) => 'i' :: encodeNumber width
  | float => ['f']
  | double => ['d']
  | float80 => ['F']
  | bool => ['b']
  | void => ['v']

mutual

/-- A type behind its prefix. -/
def TypeExpr.encode : TypeExpr → List Char
  | .builtin pointers code => encodePointers pointers ++ 's' :: code.encode
  | .nominal pointers name => encodePointers pointers ++ encodeName name
  | .tuple pointers fields =>
      encodePointers pointers ++ 't' :: (TypeExpr.encodeAll fields ++ ['T'])
  | .function pointers parameters result =>
      encodePointers pointers ++ 'F' :: (TypeExpr.encodeAll parameters ++ 'R' :: result.encode)

/-- Types one after the other. -/
def TypeExpr.encodeAll : List TypeExpr → List Char
  | [] => []
  | type :: types => type.encode ++ TypeExpr.encodeAll types

end

/-- The label marker of an argument. -/
def Label.encode : Label → List Char
  | omitted => ['S']
  | external name => 'E' :: encodeName name
  | placeholder => []

/-- Label marker, name and type. -/
def Argument.encode (argument : Argument) : List Char :=
  argument.label.encode ++ (encodeName argument.name ++ argument.type.encode)

/-- Arguments one after the other. -/
def Argument.encodeAll : List Argument → List Char
  | [] => []
  | argument :: arguments => argument.encode ++ Argument.encodeAll arguments

/-- The result type, if there is one. -/
def encodeResult : Option TypeExpr → List Char
  | none => []
  | some type => 'R' :: type.encode

/-- The mark of a closure wrapper. -/
def encodeClosureMark (wrapper : Bool) : List Char := if wrapper then ['C'] else []

/-- Arguments, result and closure mark. -/
def Signature.encode (signature : Signature) : List Char :=
  Argument.encodeAll signature.arguments ++
    '_' :: (encodeResult signature.result ++ encodeClosureMark signature.closureWrapper)

/-- What is called. -/
def Callee.encode : Callee → List Char
  | free name => encodeName name
  | method owner name => 'M' :: (owner.encode ++ encodeName name)
  | initializer owner => 'I' :: owner.encode

/-- A declaration, from the marker after the sentinel on. -/
def Declaration.encode : Declaration → List Char
  | type named => 'T' :: named.encode
  | deinitializer owner => 'F' :: 'D' :: owner.encode
  | function callee signature => 'F' :: (callee.encode ++ signature.encode)

/-- The canonical linkage name of a declaration. -/
def encode (d : Declaration) : String := String.ofList (sentinel ++ d.encode)

/-! ### Trees that can be told from their encoding -/

/-- A name that is there, does not start with a digit, and has a size that a word can hold. -/
structure NameEncodable (name : String) : Prop where
  ne_empty : name ≠ ""
  no_digit : startsWithDigit name.toList = false
  size_lt : name.utf8ByteSize < numberBound

instance (name : String) : Decidable (NameEncodable name) :=
  decidable_of_iff
    (name ≠ "" ∧ startsWithDigit name.toList = false ∧ name.utf8ByteSize < numberBound)
    ⟨fun ⟨hne, hno, hlt⟩ => ⟨hne, hno, hlt⟩, fun ⟨hne, hno, hlt⟩ => ⟨hne, hno, hlt⟩⟩

/-- A builtin type with `next` behind its encoding: a sized integer does not stand in front of a
digit, and its width fits a word. -/
def Builtin.Encodable : Builtin → List Char → Prop
  | sizedInt width, next =>
      (∀ value ∈ width, value < numberBound) ∧ startsWithDigit next = false
  | _, _ => True

mutual

/-- A type with `next` behind its encoding: its names and builtin types can be told from what
follows them. -/
def TypeExpr.Encodable : TypeExpr → List Char → Prop
  | .builtin _ code, next => code.Encodable next
  | .nominal _ name, _ => NameEncodable name
  | .tuple _ fields, next => TypeExpr.AllEncodable fields ('T' :: next)
  | .function _ parameters result, next =>
      TypeExpr.AllEncodable parameters ('R' :: (result.encode ++ next)) ∧ result.Encodable next

/-- Types one after the other, with `next` behind the last. -/
def TypeExpr.AllEncodable : List TypeExpr → List Char → Prop
  | [], _ => True
  | type :: types, next =>
      type.Encodable (TypeExpr.encodeAll types ++ next) ∧ TypeExpr.AllEncodable types next

end

/-- A label of its own has to be encodable. -/
def Label.Encodable : Label → Prop
  | external name => NameEncodable name
  | _ => True

/-- An argument with `next` behind its encoding. -/
def Argument.Encodable (argument : Argument) (next : List Char) : Prop :=
  argument.label.Encodable ∧ NameEncodable argument.name ∧ argument.type.Encodable next

/-- Arguments one after the other, with `next` behind the last. -/
def Argument.AllEncodable : List Argument → List Char → Prop
  | [], _ => True
  | argument :: arguments, next =>
      argument.Encodable (Argument.encodeAll arguments ++ next) ∧
        Argument.AllEncodable arguments next

/-- A signature with `next` behind its encoding. -/
def Signature.Encodable (signature : Signature) (next : List Char) : Prop :=
  Argument.AllEncodable signature.arguments
      ('_' :: (encodeResult signature.result ++
        (encodeClosureMark signature.closureWrapper ++ next))) ∧
    ∀ type ∈ signature.result,
      type.Encodable (encodeClosureMark signature.closureWrapper ++ next)

/-- What is called, with `next` behind its encoding. -/
def Callee.Encodable : Callee → List Char → Prop
  | free name, _ => NameEncodable name
  | method owner name, next => owner.Encodable (encodeName name ++ next) ∧ NameEncodable name
  | initializer owner, next => owner.Encodable next

/-- A declaration with `next` behind its encoding. -/
def Declaration.Encodable : Declaration → List Char → Prop
  | type named, next => named.Encodable next
  | deinitializer owner, next => owner.Encodable next
  | function callee signature, next =>
      callee.Encodable (signature.encode ++ next) ∧ signature.Encodable next

/-! ### The encoding is a spelling -/

/-- The digits of a machine word spell it, unless another digit follows. -/
theorem numberSpelled_encodeNumber {value : Nat} {next : List Char} (hlt : value < numberBound)
    (hnext : startsWithDigit next = false) :
    NumberSpelled value (encodeNumber value) next where
  ne_nil := Nat.toDigits_ne_nil
  isDigit _ hc := Nat.isDigit_of_mem_toDigits (by decide) (by decide) hc
  value_eq := Nat.ofDigitChars_ten_toDigits
  value_lt := hlt
  maximal := hnext

/-- The encoding of a name spells it, whatever follows. -/
theorem nameSpelled_encodeName {name : String} (h : NameEncodable name) (next : List Char) :
    NameSpelled name (encodeName name) next := by
  refine .intro (numberSpelled_encodeNumber h.size_lt ?_)
  have hno := h.no_digit
  cases htext : name.toList with
  | nil => exact absurd (String.toList_eq_nil_iff.1 htext) h.ne_empty
  | cons c cs =>
      rw [htext] at hno
      exact hno

/-- The encoding of a code spells it. After a sized integer no digit may follow. -/
theorem Builtin.spelled_encode {code : Builtin} {next : List Char} (h : code.Encodable next) :
    code.Spelled code.encode next := by
  cases code with
  | int => exact .int
  | sizedInt width =>
      obtain ⟨hwidth, hnext⟩ := h
      cases width with
      | none => exact .unsized hnext
      | some value => exact .sized (numberSpelled_encodeNumber (hwidth value rfl) hnext)
  | float => exact .float
  | double => exact .double
  | float80 => exact .float80
  | bool => exact .bool
  | void => exact .void

/-- The encoding of a label spells it. -/
theorem Label.spelled_encode {label : Label} (h : label.Encodable) (next : List Char) :
    label.Spelled label.encode next := by
  cases label with
  | omitted => exact .omitted
  | external name => exact .external (nameSpelled_encodeName h next)
  | placeholder => exact .placeholder

/-- The encoding of the closure mark spells it, unless another mark follows. -/
theorem closureMarkSpelled_encodeClosureMark {wrapper : Bool} {next : List Char}
    (hnext : next.head? ≠ some 'C') :
    ClosureMarkSpelled wrapper (encodeClosureMark wrapper) next := by
  cases wrapper with
  | false => exact .plain hnext
  | true => exact .wrapper

section

variable [Allocator]

/-- The encoding of a pointer prefix spells it, if there is room for its markers. -/
theorem pointersSpelled_encodePointers {pointers : Option Nat} (h : PointersHeld pointers) :
    PointersSpelled pointers (encodePointers pointers) := by
  cases pointers with
  | none => exact .none
  | some count =>
      have hlt : count < numberBound := Allocator.lt_numberBound (h count rfl)
      exact .some (numberSpelled_encodeNumber hlt rfl)

mutual

/-- The encoding of an encodable type is a spelling of it. -/
theorem TypeExpr.spelled_encode {limit : Option Nat} (type : TypeExpr) {depth : Nat}
    {next : List Char} (h : type.Encodable next) (hadmitted : type.Admitted limit depth) :
    type.Spelled type.encode next := by
  cases type with
  | builtin pointers code =>
      have hheld := (admitted_iff_pointersHeld rfl rfl).1 hadmitted
      exact .builtin (pointersSpelled_encodePointers hheld) (Builtin.spelled_encode h)
  | nominal pointers name =>
      have hheld := (admitted_iff_pointersHeld rfl rfl).1 hadmitted
      exact .nominal (pointersSpelled_encodePointers hheld) (nameSpelled_encodeName h next)
  | tuple pointers fields =>
      obtain ⟨hheld, -, hall⟩ := admitted_tuple_iff.1 hadmitted
      exact .tuple (pointersSpelled_encodePointers hheld) (TypeExpr.allSpelled_encode fields h hall)
  | function pointers parameters result =>
      obtain ⟨hheld, -, hall, hresultAdmitted⟩ := admitted_function_iff.1 hadmitted
      obtain ⟨hparameters, hresult⟩ := h
      exact .function (pointersSpelled_encodePointers hheld)
        (TypeExpr.allSpelled_encode parameters hparameters hall)
        (TypeExpr.spelled_encode result hresult hresultAdmitted)

/-- The encodings of encodable types spell them one after the other. -/
theorem TypeExpr.allSpelled_encode {limit : Option Nat} (types : List TypeExpr) {depth : Nat}
    {next : List Char} (h : TypeExpr.AllEncodable types next)
    (hadmitted : ∀ type ∈ types, type.Admitted limit depth) :
    TypeExpr.AllSpelled types (TypeExpr.encodeAll types) next := by
  cases types with
  | nil => exact .nil
  | cons type types =>
      obtain ⟨hfirst, hrest⟩ := List.forall_mem_cons.1 hadmitted
      exact .cons (TypeExpr.spelled_encode type h.1 hfirst)
        (TypeExpr.allSpelled_encode types h.2 hrest)

end

/-- The encoding of an argument spells it. -/
theorem Argument.spelled_encode {limit : Option Nat} {argument : Argument} {next : List Char}
    (h : argument.Encodable next) (hadmitted : argument.type.Admitted limit 0) :
    argument.Spelled argument.encode next := by
  obtain ⟨hlabel, hname, htype⟩ := h
  exact .intro (Label.spelled_encode hlabel _) (nameSpelled_encodeName hname _)
    (TypeExpr.spelled_encode argument.type htype hadmitted)

/-- The encodings of arguments, one after another, spell them: each one is followed by the encoding
of the next or by the terminator. -/
theorem Argument.allSpelled_encode {limit : Option Nat} {arguments : List Argument}
    {next : List Char} (h : Argument.AllEncodable arguments next)
    (hadmitted : ∀ argument ∈ arguments, argument.type.Admitted limit 0) :
    Argument.AllSpelled arguments (Argument.encodeAll arguments) next := by
  induction arguments with
  | nil => exact .nil
  | cons argument arguments ih =>
      obtain ⟨hfirst, hrest⟩ := List.forall_mem_cons.1 hadmitted
      exact .cons (Argument.spelled_encode h.1 hfirst) (ih h.2 hrest)

/-- The encoding of a result type spells it; of a missing one, unless a result marker follows. -/
theorem resultSpelled_encodeResult {limit : Option Nat} {result : Option TypeExpr}
    {next : List Char} (h : ∀ type ∈ result, type.Encodable next)
    (hadmitted : ∀ type ∈ result, type.Admitted limit 0) (hnext : next.head? ≠ some 'R') :
    ResultSpelled result (encodeResult result) next := by
  cases result with
  | none => exact .none hnext
  | some type => exact .some (TypeExpr.spelled_encode type (h type rfl) (hadmitted type rfl))

/-- The encoding of a signature spells it, unless what follows looks like a part that it lacks. -/
theorem Signature.spelled_encode {limit : Option Nat} {signature : Signature} {next : List Char}
    (h : signature.Encodable next) (hadmitted : ∀ type ∈ signature.types, type.Admitted limit 0)
    (hR : next.head? ≠ some 'R') (hC : next.head? ≠ some 'C') :
    signature.Spelled signature.encode next := by
  obtain ⟨hall, hresultAdmitted⟩ := List.forall_mem_append.1 hadmitted
  obtain ⟨harguments, hresult⟩ := h
  have hmark : (encodeClosureMark signature.closureWrapper ++ next).head? ≠ some 'R' := by
    cases signature.closureWrapper with
    | false => exact hR
    | true => simp [encodeClosureMark]
  exact .intro
    (Argument.allSpelled_encode harguments fun argument h => hall _ (List.mem_map_of_mem h))
    (resultSpelled_encodeResult hresult
      (fun type h => hresultAdmitted type (Option.mem_toList.2 h)) hmark)
    (closureMarkSpelled_encodeClosureMark hC)

/-- The encoding of a callee spells it. -/
theorem Callee.spelled_encode {limit : Option Nat} {callee : Callee} {next : List Char}
    (h : callee.Encodable next) (hadmitted : ∀ type ∈ callee.types, type.Admitted limit 0) :
    callee.Spelled callee.encode next := by
  cases callee with
  | free name => exact .free (nameSpelled_encodeName h next)
  | method owner name =>
      have howner := hadmitted owner List.mem_cons_self
      exact .method (TypeExpr.spelled_encode owner h.1 howner) (nameSpelled_encodeName h.2 next)
  | initializer owner =>
      have howner := hadmitted owner List.mem_cons_self
      exact .initializer (TypeExpr.spelled_encode owner h howner)

/-- The encoding of an encodable declaration is a spelling of it, if what follows announces
neither a result type nor a closure mark. -/
theorem Declaration.spelled_encode {limit : Option Nat} {d : Declaration} {next : List Char}
    (h : d.Encodable next) (hadmitted : ∀ type ∈ d.types, type.Admitted limit 0)
    (hR : next.head? ≠ some 'R') (hC : next.head? ≠ some 'C') :
    d.Spelled d.encode next := by
  cases d with
  | type named =>
      exact .type (TypeExpr.spelled_encode named h (hadmitted named List.mem_cons_self))
  | deinitializer owner =>
      exact .deinitializer (TypeExpr.spelled_encode owner h (hadmitted owner List.mem_cons_self))
  | function callee signature =>
      obtain ⟨hcallee, hsignature⟩ := h
      obtain ⟨hcalleeAdmitted, hsignatureAdmitted⟩ := List.forall_mem_append.1 hadmitted
      exact .function (Callee.spelled_encode hcallee hcalleeAdmitted)
        (Signature.spelled_encode hsignature hsignatureAdmitted hR hC)

end

/-! ### What follows the encoding

Whether a tree can be told from its encoding depends on the text behind it only as far as that
text starts with a digit or not. -/

/-- Whether a digit comes first in a longer text depends on what is appended only through its first
character. -/
theorem startsWithDigit_append {text next next' : List Char}
    (h : startsWithDigit next' = startsWithDigit next) :
    startsWithDigit (text ++ next') = startsWithDigit (text ++ next) := by
  cases text with
  | nil => exact h
  | cons c cs => rfl

mutual

/-- All that matters of what follows a type is whether it begins with a digit. -/
theorem TypeExpr.Encodable.congr {type : TypeExpr} {next next' : List Char}
    (h : type.Encodable next) (hnext : startsWithDigit next' = startsWithDigit next) :
    type.Encodable next' := by
  cases type with
  | builtin pointers code =>
      cases code with
      | sizedInt width => exact ⟨h.1, hnext.trans h.2⟩
      | int | float | double | float80 | bool | void => trivial
  | nominal pointers name => exact h
  | tuple pointers fields => exact TypeExpr.AllEncodable.congr h rfl
  | function pointers parameters result =>
      exact ⟨TypeExpr.AllEncodable.congr h.1 rfl, TypeExpr.Encodable.congr h.2 hnext⟩

/-- All that matters of what follows several types is whether it begins with a digit. -/
theorem TypeExpr.AllEncodable.congr {types : List TypeExpr} {next next' : List Char}
    (h : TypeExpr.AllEncodable types next)
    (hnext : startsWithDigit next' = startsWithDigit next) :
    TypeExpr.AllEncodable types next' := by
  cases types with
  | nil => trivial
  | cons type types =>
      exact ⟨TypeExpr.Encodable.congr h.1 (startsWithDigit_append hnext),
        TypeExpr.AllEncodable.congr h.2 hnext⟩

end

/-- All that matters of what follows arguments is whether it begins with a digit. -/
theorem Argument.AllEncodable.congr {arguments : List Argument} {next next' : List Char}
    (h : Argument.AllEncodable arguments next)
    (hnext : startsWithDigit next' = startsWithDigit next) :
    Argument.AllEncodable arguments next' := by
  induction arguments with
  | nil => trivial
  | cons argument arguments ih =>
      obtain ⟨⟨hlabel, hname, htype⟩, hrest⟩ := h
      exact ⟨⟨hlabel, hname, htype.congr (startsWithDigit_append hnext)⟩, ih hrest⟩

/-- All that matters of what follows a signature is whether it begins with a digit. -/
theorem Signature.Encodable.congr {signature : Signature} {next next' : List Char}
    (h : signature.Encodable next) (hnext : startsWithDigit next' = startsWithDigit next) :
    signature.Encodable next' :=
  ⟨h.1.congr rfl, fun type htype => (h.2 type htype).congr (startsWithDigit_append hnext)⟩

/-- All that matters of what follows a callee is whether it begins with a digit. -/
theorem Callee.Encodable.congr {callee : Callee} {next next' : List Char}
    (h : callee.Encodable next) (hnext : startsWithDigit next' = startsWithDigit next) :
    callee.Encodable next' := by
  cases callee with
  | free name => exact h
  | method owner name => exact ⟨h.1.congr (startsWithDigit_append hnext), h.2⟩
  | initializer owner => exact TypeExpr.Encodable.congr h hnext

/-- All that matters of what follows a declaration is whether it begins with a digit. -/
theorem Declaration.Encodable.congr {d : Declaration} {next next' : List Char}
    (h : d.Encodable next) (hnext : startsWithDigit next' = startsWithDigit next) :
    d.Encodable next' := by
  cases d with
  | type named => exact TypeExpr.Encodable.congr h hnext
  | deinitializer owner => exact TypeExpr.Encodable.congr h hnext
  | function callee signature =>
      exact ⟨h.1.congr (startsWithDigit_append hnext), h.2.congr hnext⟩

/-! ### Decoding the encoding -/

section

variable [Allocator]

/-- **Decoding undoes encoding.** A declaration that keeps the limits of the decoder and can be
told from its encoding is decoded from it, and reported with its kind, shown form and closure
flag, whatever text `t` follows that starts with no digit, `R` or `C`. -/
theorem demangled_encode_append {d : Declaration} {t : String} (hencodable : d.Encodable [])
    (hnesting : d.nesting ≤ maxNesting)
    (hpointers : ∀ count ∈ d.pointerCounts, Allocator.holdsRun count)
    (hdigit : startsWithDigit t.toList = false) (hR : t.toList.head? ≠ some 'R')
    (hC : t.toList.head? ≠ some 'C') :
    decode (encode d ++ t) = .ok d ∧
      demangled (encode d ++ t) = .ok ⟨d.kind, d.text, d.isClosureWrapper⟩ := by
  have hadmitted := forall_types_admitted_iff.2 ⟨hnesting, hpointers⟩
  have hspelled := Declaration.spelled_encode (hencodable.congr hdigit) hadmitted hR hC
  have hsymbol : (encode d ++ t).toList = sentinel ++ d.encode ++ t.toList := by
    rw [encode, String.toList_append, String.toList_ofList]
  have hdecode : decode (encode d ++ t) = .ok d :=
    decode_eq_ok_iff.2 ⟨t.toList,
      answerSymbol_eq_ok_iff.2 ⟨d.encode, hsymbol, hspelled, hadmitted⟩⟩
  exact ⟨hdecode, demangled_eq_ok_iff_decode.2 ⟨d, hdecode, rfl⟩⟩

end

/-- A method with two arguments, a result and the mark of a closure wrapper. -/
def walkMethod : Declaration :=
  .function (.method (.nominal (some 2) "Node") "walk")
    { arguments := [
        ⟨.external "to", "x", .builtin none (.sizedInt (some 64))⟩,
        ⟨.omitted, "f", .function none [.builtin none .int] (.tuple none [])⟩]
      result := some (.builtin none .bool)
      closureWrapper := true }

attribute [local instance] Allocator.unlimited

/-- The method is decoded from its encoding, with a suffix of the toolchain behind it. -/
theorem demangled_encode_walkMethod :
    walkMethod.Encodable [] ∧ walkMethod.nesting ≤ maxNesting ∧
      (∀ count ∈ walkMethod.pointerCounts, Allocator.holdsRun count) ∧
      demangled (encode walkMethod ++ ".llvm.12") =
        .ok ⟨.function .method,
          "**Node.walk(to x: Int64, f: (Int) -> ()) -> Bool (closure #1)", true⟩ := by
  have hnames : ∀ name ∈ ["Node", "walk", "to", "x", "f"], NameEncodable name := by decide
  have hencodable : walkMethod.Encodable [] := by
    refine ⟨⟨hnames _ (by decide), hnames _ (by decide)⟩, ⟨?_, ?_, trivial⟩, ?_⟩
    · exact ⟨hnames _ (by decide), hnames _ (by decide), by simp [numberBound, UInt64.size], rfl⟩
    · exact ⟨trivial, hnames _ (by decide), ⟨trivial, trivial⟩, trivial⟩
    · intro type htype
      cases htype
      trivial
  have hnesting : walkMethod.nesting ≤ maxNesting := by decide
  have hpointers : ∀ count ∈ walkMethod.pointerCounts, Allocator.holdsRun count := by decide
  refine ⟨hencodable, hnesting, hpointers, ?_⟩
  exact (demangled_encode_append hencodable hnesting hpointers (by decide) (by decide)
    (by decide)).2.trans (congrArg Except.ok (by decide))

end SymbolTrace.Mangling
