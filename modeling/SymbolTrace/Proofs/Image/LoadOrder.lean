import SymbolTrace.Proofs.Image.Lookup
import SymbolTrace.Proofs.Image.Registry

/-!
# The order in which images are loaded

An address belongs to the first image that covers it. Where the ranges of the images have no address
in common, that is the only one, so it does not matter in which order they were loaded. Two
registries that loaded the same images, whatever else they were asked in between, then make the
same frames.

## Main results

* `AddressRange.apart_iff`: which ranges have no address in common.
* `ImageList.imageFor?_eq_some_iff`: the image that covers an address, among images that lie apart.
* `Registry.answers_resolve`: a registry answers like its resolver.
* `Registry.load_order_irrelevant`: resolving and tracing.
-/

namespace SymbolTrace

/-! ### Ranges -/

namespace AddressRange

/-- No address lies in both ranges. -/
def Apart (range other : AddressRange) : Prop :=
  ∀ a, ¬ (range.contains a = true ∧ other.contains a = true)

variable {range other : AddressRange}

/-- Ranges lie apart if one is empty, or one ends before the other starts. -/
theorem apart_iff :
    range.Apart other ↔
      min range.stop.toNat other.stop.toNat ≤ max range.start.toNat other.start.toNat := by
  simp only [Apart, contains_iff]
  constructor
  · intro happart
    by_contra hcommon
    -- The higher of the two starts lies in both.
    have hvalue : ∃ value : UInt64, value.toNat = max range.start.toNat other.start.toNat := by
      rcases Nat.le_total range.start.toNat other.start.toNat with hle | hle
      · exact ⟨other.start, by omega⟩
      · exact ⟨range.start, by omega⟩
    obtain ⟨value, hvalue⟩ := hvalue
    have hnot := happart ⟨value⟩
    simp only [Address.toNat] at hnot
    omega
  · rintro hle a ⟨hrange, hother⟩
    omega

instance : Decidable (range.Apart other) :=
  decidable_of_iff _ apart_iff.symm

/-- Ranges are apart from each other both ways. -/
theorem Apart.symm (h : range.Apart other) : other.Apart range := fun a hboth =>
  h a hboth.symm

end AddressRange

/-- No address is covered by two of the images. -/
def ImagesApart (images : List Image) : Prop :=
  images.Pairwise fun image other => image.range.Apart other.range

/-! ### Lists of images -/

namespace ImageList

variable {images others : List Image} {a : Address}

/-- Of images that lie apart, the one that covers an address is found. -/
theorem imageFor?_eq_some_iff (apart : ImagesApart images) {image : Image} :
    (ImageList.mk images).imageFor? a = some image ↔ image ∈ images ∧ image.contains a = true := by
  constructor
  · intro h
    have hfind : images.find? (·.contains a) = some image := h
    have hcontains := List.find?_some hfind
    exact ⟨List.mem_of_find?_eq_some hfind, hcontains⟩
  · rintro ⟨hmem, hcontains⟩
    obtain ⟨front, back, rfl⟩ := List.append_of_mem hmem
    rw [imageFor?, List.find?_eq_some_iff_append]
    refine ⟨hcontains, front, back, rfl, ?_⟩
    intro earlier hearlier
    have hapart := (List.pairwise_append.1 apart).2.2 earlier hearlier image List.mem_cons_self
    rw [Bool.not_eq_true']
    exact Bool.eq_false_iff.2 fun hboth => hapart a ⟨hboth, hcontains⟩

/-- The images may be listed in any order. -/
theorem resolve_eq_of_perm (same : images.Perm others) (apart : ImagesApart images) :
    (ImageList.mk images).resolve = (ImageList.mk others).resolve := by
  have hothers : ImagesApart others := same.pairwise apart AddressRange.Apart.symm
  funext a
  have himage : (ImageList.mk images).imageFor? a = (ImageList.mk others).imageFor? a := by
    apply Option.ext
    intro image
    rw [imageFor?_eq_some_iff apart, imageFor?_eq_some_iff hothers, same.mem_iff]
  rw [resolve, resolve, himage]

end ImageList

/-! ### Registries -/

namespace Registry

variable {reader : ObjectReader}

/-- A registry resolves as its images do with their tables read. -/
theorem resolver_eq {registry : Registry} (sound : registry.Sound reader) :
    registry.resolver reader = (registry.eager reader).resolve := by
  funext a
  rw [resolver, (resolve_spec sound a).1]
  rfl

/-- A registry that is asked for addresses one after the other answers like its resolver. -/
theorem answers_resolve {registry : Registry} (sound : registry.Sound reader)
    (addresses : List Address) :
    (registry.run reader (addresses.map .resolve)).1 =
      addresses.map fun a => .site (registry.resolver reader a) := by
  rw [(run_spec sound _).1, resolver_eq sound]
  generalize registry.eager reader = list
  induction addresses with
  | nil => rfl
  | cons a rest ih =>
      rw [List.map_cons, List.map_cons, ImageList.answers, ImageList.after_eq_self list rfl, ih]
      rfl

/-- **The order in which images are loaded does not matter**, if no address is covered by two of
them. Take two registries that loaded the same images with the same reader, each in its own order
and whatever they were asked in between. They give the same site for every address, also when they
are asked for many of them one after the other, and a renderer writes the same to every sink with
either of them, whatever the addresses, the depth and the secondary demangler are. -/
theorem load_order_irrelevant [Mangling.Allocator] (reader : ObjectReader)
    (steps others : List Step)
    (same : (steps.filterMap (Step.loaded? reader)).Perm (others.filterMap (Step.loaded? reader)))
    (apart : ImagesApart (steps.filterMap (Step.loaded? reader))) :
    let registry := (empty.run reader steps).2
    let other := (empty.run reader others).2
    (∀ a, registry.resolver reader a = other.resolver reader a) ∧
    (∀ addresses : List Address,
      let answers : List Answer := addresses.map fun a => .site (registry.resolver reader a)
      (registry.run reader (addresses.map .resolve)).1 = answers ∧
        (other.run reader (addresses.map .resolve)).1 = answers) ∧
    ∀ secondary maxDepth addresses sink,
      (Renderer.mk (registry.resolver reader) secondary maxDepth).write addresses sink =
        (Renderer.mk (other.resolver reader) secondary maxDepth).write addresses sink := by
  intro registry other
  obtain ⟨-, sound, heager⟩ := run_spec sound_empty steps
  obtain ⟨-, hother, hotherEager⟩ := run_spec sound_empty others
  have hresolver : registry.resolver reader = other.resolver reader := by
    rw [resolver_eq sound, resolver_eq hother, heager, hotherEager]
    exact ImageList.resolve_eq_of_perm same apart
  refine ⟨congrFun hresolver, ?_, ?_⟩
  · intro addresses answers
    refine ⟨answers_resolve sound addresses, ?_⟩
    rw [answers_resolve hother, ← hresolver]
  · intro secondary maxDepth addresses sink
    rw [hresolver]

/-- The object of two functions, with its table. -/
def twoFunctionsLoaded : Image where
  path := "run.so"
  slide := (0x555500000000 : UInt64).toInt64 - (0x1000 : UInt64).toInt64
  range := AddressRange.ofSize 0x555500000000 0x1000
  symbols := [⟨"go", 0x1010, 0x20⟩, ⟨"run", 0x1010, 0x20⟩]

/-- The object of two functions is loaded with both of them in its table. -/
theorem load_twoFunctions :
    Image.load ObjectFile.reader (fun _ => .ok (LazyImage.twoFunctions 1 5)) "run.so"
      (some ⟨0x555500000000⟩) = .ok twoFunctionsLoaded := by
  have hextent : (LazyImage.twoFunctionsReport "run" "go").extent? =
      some (AddressRange.ofSize 0x1000 0x1000) := rfl
  refine Image.load_eq_ok_iff.2 ⟨_, _, rfl, LazyImage.reader_twoFunctions.1, ?_⟩
  rw [Image.map?_some _ hextent, LazyImage.symbolTable_twoFunctions]
  rfl

attribute [local instance] Mangling.Allocator.unlimited

/-- A page and an object of two functions are loaded in both orders, once with a question and a
missing file in between. -/
theorem load_order_irrelevant_twoObjects :
    let reader := ObjectFile.reader
    let page : Step := .load (fun _ => .ok Image.onePage) "page.so" none
    let object : Step :=
      .load (fun _ => .ok (LazyImage.twoFunctions 1 5)) "run.so" (some ⟨0x555500000000⟩)
    let missing : Step := .load (fun _ => .error .notFound) "page.so" none
    let steps := [page, object]
    let others := [object, .resolve ⟨0x555500000034⟩, missing, page]
    let site : SymbolSite := ⟨.lent "run.so", .lent "run", ⟨0x555500000010⟩⟩
    (steps.filterMap (Step.loaded? reader)).Perm (others.filterMap (Step.loaded? reader)) ∧
      ImagesApart (steps.filterMap (Step.loaded? reader)) ∧
      (empty.run reader steps).2.resolver reader ⟨0x555500000034⟩ = some site ∧
      (empty.run reader others).2.resolver reader ⟨0x555500000034⟩ = some site := by
  intro reader page object missing steps others site
  have hsteps : steps.filterMap (Step.loaded? reader) =
      [Image.onePageImage ⟨0x1000⟩, twoFunctionsLoaded] := by
    simp only [reader, steps, page, object, List.filterMap_cons, Step.loaded?, Image.load_onePage,
      load_twoFunctions]
    rfl
  have hothers : others.filterMap (Step.loaded? reader) =
      [twoFunctionsLoaded, Image.onePageImage ⟨0x1000⟩] := by
    simp only [reader, others, page, object, missing, List.filterMap_cons, Step.loaded?,
      Image.load_onePage, load_twoFunctions]
    rfl
  have hperm :
      (steps.filterMap (Step.loaded? reader)).Perm (others.filterMap (Step.loaded? reader)) := by
    rw [hsteps, hothers]
    exact .swap _ _ _
  have hapart : ImagesApart (steps.filterMap (Step.loaded? reader)) := by
    rw [hsteps, ImagesApart, List.pairwise_pair]
    decide
  obtain ⟨hsame, -, -⟩ := load_order_irrelevant reader steps others hperm hapart
  obtain ⟨-, sound, heager⟩ := run_spec sound_empty steps
  have hsite : (empty.run reader steps).2.resolver reader ⟨0x555500000034⟩ = some site := by
    rw [resolver_eq sound, heager, hsteps]
    decide
  exact ⟨hperm, hapart, hsite, (hsame _).symm.trans hsite⟩

end Registry

end SymbolTrace
