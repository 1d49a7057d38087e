import SymbolTrace.CommandLine.Run

/-!
# One chain of demanglers

A name is shown in five ways: on its own, as the preferred form of a `NamedSymbol` and its printed
form, in the frame of an address that resolves to it, and in a line of the `demangle` command. All
of them go through the same chain, whatever the secondary demangler is: the decoded form, else the
demangler's answer, else the name.

Whether a name counts as demangled is told by who made the text, not by what it says, so an answer
that is empty or equal to the name counts as well. Where the secondary demangler goes by the shape
of a name, it is silent on every name that is of neither shape, and the command prints the same
line whether or not it is asked.

## Main results

* `made?_renderName`, `shownName_eq`: the chain, as far as it made a text, and as a whole.
* `Renderer.name_of_frame?`: the name in a frame.
* `shapedDemangler_eq_none`, `Language.neither_prefixed`: where the secondary demangler is silent.
* `fallback_chain_agrees`: all ways to show a name agree.
-/

namespace SymbolTrace

variable {secondary : SecondaryDemangler} {raw : String}

/-! ### Shapes -/

/-- The shape of Rust names, spelled out. -/
theorem isRustShaped_iff :
    isRustShaped raw = true ↔ ['_', 'R'] <+: raw.toList ∨
      ['_', 'Z', 'N'] <+: raw.toList ∧ occursIn ['1', '7', 'h'] raw.toList = true ∧
        raw.toList.getLast? = some 'E' := by
  simp [isRustShaped, and_assoc]

/-- The shape of Itanium names, spelled out. -/
theorem isItaniumShaped_iff : isItaniumShaped raw = true ↔ ['_', 'Z'] <+: raw.toList :=
  List.isPrefixOf_iff_prefix

/-- A demangler that goes by shape is silent on names of neither shape. A legacy Rust name has the
prefix of an Itanium name, so two prefixes tell. -/
theorem shapedDemangler_eq_none (rust itanium : SecondaryDemangler)
    (hR : ¬ ['_', 'R'] <+: raw.toList) (hZ : ¬ ['_', 'Z'] <+: raw.toList) :
    shapedDemangler rust itanium raw = none := by
  have hrust : ¬ isRustShaped raw = true := by
    rw [isRustShaped_iff]
    rintro (h | ⟨hZN, -⟩)
    · exact hR h
    · exact hZ (List.IsPrefix.trans ⟨['N'], rfl⟩ hZN)
  have hitanium : ¬ isItaniumShaped raw = true := by rwa [isItaniumShaped_iff]
  rw [shapedDemangler, if_neg hrust, if_neg hitanium]
  rfl

/-- The sentinel decides before any other shape. -/
theorem Language.ofSymbol_eq_w_iff :
    Language.ofSymbol raw = .w ↔ Mangling.isMangled raw = true := by
  rw [ofSymbol]
  cases Mangling.isMangled raw <;> cases isRustShaped raw <;> cases isItaniumShaped raw <;> decide

/-- A language is unknown if the name has no shape. -/
theorem Language.ofSymbol_eq_unknown_iff :
    Language.ofSymbol raw = .unknown ↔ ¬ Mangling.isMangled raw = true ∧
      ¬ isRustShaped raw = true ∧ ¬ isItaniumShaped raw = true := by
  rw [ofSymbol]
  cases Mangling.isMangled raw <;> cases isRustShaped raw <;> cases isItaniumShaped raw <;> decide

/-- The detected language rules both prefixes out if it is this library's own or not known. -/
theorem Language.neither_prefixed
    (h : Language.ofSymbol raw = .w ∨ Language.ofSymbol raw = .unknown) :
    ¬ ['_', 'R'] <+: raw.toList ∧ ¬ ['_', 'Z'] <+: raw.toList := by
  rcases h with hw | hunknown
  · obtain ⟨body, hbody⟩ := Option.isSome_iff_exists.1 (Language.ofSymbol_eq_w_iff.1 hw)
    rw [Mangling.afterSentinel?_eq_some_iff.1 hbody, Mangling.sentinel]
    simp [List.cons_prefix_cons]
  · obtain ⟨-, hrust, hitanium⟩ := Language.ofSymbol_eq_unknown_iff.1 hunknown
    exact ⟨fun hR => hrust (isRustShaped_iff.2 (.inl hR)),
      fun hZ => hitanium (isItaniumShaped_iff.2 hZ)⟩

section

variable [Mangling.Allocator]

/-! ### The chain -/

/-- What the demanglers make of a name: the first that answers decides. -/
theorem made?_renderName (secondary : SecondaryDemangler) (raw : String) :
    (renderName secondary raw).made? =
      (Mangling.demangle raw).toOption.or (secondary raw) := by
  cases hdecoded : Mangling.demangle raw with
  | ok text => simp [renderName, hdecoded, Except.toOption]
  | error fault =>
      cases hanswer : secondary raw with
      | some text => simp [renderName, hdecoded, hanswer, Except.toOption]
      | none => simp [renderName, hdecoded, hanswer, Except.toOption]

/-- A text that nothing was made of is the name. -/
theorem shownName_eq (secondary : SecondaryDemangler) (raw : String) :
    shownName secondary raw = (renderName secondary raw).made?.getD raw := by
  cases hdecoded : Mangling.demangle raw with
  | ok text => simp [shownName, renderName, hdecoded]
  | error fault =>
      cases hanswer : secondary raw with
      | some text => simp [shownName, renderName, hdecoded, hanswer]
      | none => simp [shownName, renderName, hdecoded, hanswer]

/-- What decodes is shown decoded, and no secondary demangler is asked. -/
theorem shownName_of_demangle {text : String} (h : Mangling.demangle raw = .ok text) :
    shownName secondary raw = text := by
  rw [shownName_eq, made?_renderName, h]
  rfl

/-- What does not decode is shown as the secondary demangler says, or as it is. -/
theorem shownName_of_error {fault : Mangling.DecodeError}
    (h : Mangling.demangle raw = .error fault) :
    shownName secondary raw = (secondary raw).getD raw := by
  rw [shownName_eq, made?_renderName, h]
  rfl

/-- A named symbol is shown as its name is. -/
theorem NamedSymbol.shown_ofRaw (secondary : SecondaryDemangler) (raw : String) :
    (NamedSymbol.ofRaw secondary raw).shown = shownName secondary raw :=
  (shownName_eq secondary raw).symm

/-- A name is not demangled exactly if the decoder and the secondary demangler both fail. -/
theorem NamedSymbol.demangled_eq_none_iff :
    (NamedSymbol.ofRaw secondary raw).demangled = none ↔
      (∃ fault, Mangling.demangle raw = .error fault) ∧ secondary raw = none := by
  have hmade : (NamedSymbol.ofRaw secondary raw).demangled =
      (Mangling.demangle raw).toOption.or (secondary raw) := made?_renderName secondary raw
  rw [hmade, Option.or_eq_none_iff]
  refine and_congr_left fun _ => ?_
  cases Mangling.demangle raw with
  | ok text => simp [Except.toOption]
  | error fault => simp [Except.toOption]

/-! ### Frames -/

namespace Renderer

variable {renderer : Renderer} {index : Nat} {address : Address} {site : SymbolSite}

/-- Frames are named by the chain. -/
theorem name_of_frame? {frame : Frame} (hsite : renderer.resolve address = some site)
    (h : renderer.frame? index address = some frame) :
    frame.name = shownName renderer.secondary site.name.text := by
  obtain ⟨site', hsite', rfl⟩ := eq_of_frame?_eq_some h
  obtain rfl : site = site' := Option.some.inj (hsite.symm.trans hsite')
  rfl

/-- A symbol with a module and a name has a frame. -/
theorem isSome_frame? (hsite : renderer.resolve address = some site)
    (hmodule : site.modulePath.text ≠ "") (hname : site.name.text ≠ "") :
    (renderer.frame? index address).isSome = true := by
  rw [Option.isSome_iff_ne_none, Ne, frame?_eq_none_iff, hsite]
  rintro (hnone | ⟨site', hsite', hempty⟩)
  · cases hnone
  · obtain rfl : site = site' := Option.some.inj hsite'
    exact hempty.elim hmodule hname

end Renderer

/-! ### Lines -/

namespace CommandLine

/-- The two lines differ only through what is said of a name that the decoder does not know. -/
theorem symbolLine_eq (all : Bool) :
    symbolLine secondary all raw = namedLine raw
      ((Mangling.demangle raw).toOption.or (if all then secondary raw else none)) := by
  cases all with
  | true =>
      have hmade := made?_renderName secondary raw
      exact congrArg (namedLine raw) hmade
  | false => simp [symbolLine]

/-- Where the secondary demangler is silent it makes no difference to ask it. -/
theorem symbolLine_of_silent (h : secondary raw = none) :
    symbolLine secondary true raw = symbolLine secondary false raw := by
  rw [symbolLine_eq, symbolLine_eq, h]
  rfl

/-- What decodes is printed decoded in both modes. -/
theorem symbolLine_of_demangle {text : String} (all : Bool)
    (h : Mangling.demangle raw = .ok text) :
    symbolLine secondary all raw = raw ++ " => " ++ text := by
  rw [symbolLine_eq, h]
  rfl

end CommandLine

/-! ### All of them -/

open CommandLine

/-- **Every consumer applies the same chain.** A name is shown as its decoded form, else as the
secondary demangler's answer, else as it is; on its own, in the preferred and the printed form of
its `NamedSymbol`, and in every frame that resolves to it, be its text lent or owned. It counts as
not demangled exactly if both fail, whatever an answer says. Its language does not depend on the
demangler. With a demangler that goes by shape, the lines of the command with and without `all` are
the same for names with neither prefix, for names of no foreign language, and for decoded names. -/
theorem fallback_chain_agrees (secondary : SecondaryDemangler) (raw : String) :
    (∀ text, Mangling.demangle raw = .ok text → shownName secondary raw = text) ∧
    (∀ fault, Mangling.demangle raw = .error fault →
      shownName secondary raw = (secondary raw).getD raw) ∧
    (NamedSymbol.ofRaw secondary raw).shown = shownName secondary raw ∧
    toString (NamedSymbol.ofRaw secondary raw) = shownName secondary raw ∧
    (∀ (renderer : Renderer) (index : Nat) (address : Address) (site : SymbolSite),
      renderer.secondary = secondary → renderer.resolve address = some site →
      (site.name = .lent raw ∨ site.name = .owned raw) → raw ≠ "" →
      (∀ frame, renderer.frame? index address = some frame →
        frame.name = shownName secondary raw) ∧
      (site.modulePath.text ≠ "" → (renderer.frame? index address).isSome = true)) ∧
    ((NamedSymbol.ofRaw secondary raw).demangled = none ↔
      (∃ fault, Mangling.demangle raw = .error fault) ∧ secondary raw = none) ∧
    (∀ other : SecondaryDemangler,
      (NamedSymbol.ofRaw other raw).language = (NamedSymbol.ofRaw secondary raw).language) ∧
    ∀ rust itanium : SecondaryDemangler,
      (¬ ['_', 'R'] <+: raw.toList → ¬ ['_', 'Z'] <+: raw.toList →
        symbolLine (shapedDemangler rust itanium) true raw =
          symbolLine (shapedDemangler rust itanium) false raw) ∧
      (Language.ofSymbol raw = .w ∨ Language.ofSymbol raw = .unknown →
        symbolLine (shapedDemangler rust itanium) true raw =
          symbolLine (shapedDemangler rust itanium) false raw) ∧
      (∀ text, Mangling.demangle raw = .ok text →
        symbolLine (shapedDemangler rust itanium) false raw = raw ++ " => " ++ text ∧
        symbolLine (shapedDemangler rust itanium) true raw = raw ++ " => " ++ text) := by
  have hshown := NamedSymbol.shown_ofRaw secondary raw
  have hframes : ∀ (renderer : Renderer) (index : Nat) (address : Address) (site : SymbolSite),
      renderer.secondary = secondary → renderer.resolve address = some site →
      (site.name = .lent raw ∨ site.name = .owned raw) → raw ≠ "" →
      (∀ frame, renderer.frame? index address = some frame →
        frame.name = shownName secondary raw) ∧
      (site.modulePath.text ≠ "" → (renderer.frame? index address).isSome = true) := by
    rintro renderer index address site rfl hsite hname hraw
    have htext : site.name.text = raw := by
      rcases hname with h | h <;> rw [h] <;> rfl
    constructor
    · intro frame hframe
      rw [Renderer.name_of_frame? hsite hframe, htext]
    · intro hmodule
      exact Renderer.isSome_frame? hsite hmodule (htext ▸ hraw)
  have hneither (rust itanium : SecondaryDemangler) (hR : ¬ ['_', 'R'] <+: raw.toList)
      (hZ : ¬ ['_', 'Z'] <+: raw.toList) :
      symbolLine (shapedDemangler rust itanium) true raw =
        symbolLine (shapedDemangler rust itanium) false raw :=
    symbolLine_of_silent (shapedDemangler_eq_none rust itanium hR hZ)
  refine ⟨fun _ => shownName_of_demangle, fun _ => shownName_of_error, hshown, hshown, hframes,
    NamedSymbol.demangled_eq_none_iff, fun _ => rfl, fun rust itanium => ?_⟩
  refine ⟨hneither rust itanium, fun hlanguage => ?_, fun text htext => ?_⟩
  · obtain ⟨hR, hZ⟩ := Language.neither_prefixed hlanguage
    exact hneither rust itanium hR hZ
  · exact ⟨symbolLine_of_demangle false htext, symbolLine_of_demangle true htext⟩

end

attribute [local instance] Mangling.Allocator.unlimited in
/-- A name that is answered with itself counts as demangled, one that nobody answers does not. -/
example : (NamedSymbol.ofRaw some "main").demangled = some "main" ∧
    (NamedSymbol.ofRaw (fun _ => none) "main").demangled = none := by decide

end SymbolTrace
