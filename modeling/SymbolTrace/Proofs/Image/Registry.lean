import SymbolTrace.Image.Registry
import SymbolTrace.Proofs.Image.Translation

/-!
# Reading tables late changes no answer

However a registry of images is used, its answers are those of a list of images whose tables were
read when they were loaded. What carries this is that the bytes of an image can still be read, as
they were read once to load it, and that a table which is kept is the one in the bytes.

So a step that adds no image leaves no trace in later answers. That is so for every question, also
for the one that reads a table, and for every file that cannot be loaded.

## Main results

* `LazyImage.Sound`: the invariant of an image, with its eager counterpart `LazyImage.eager`.
* `Registry.step_spec`, `Registry.run_spec`: one step and a sequence of steps, against a list of
  eager images.
* `Registry.run_interleaved`: the laws of a registry.
-/

namespace SymbolTrace

/-! ### One image -/

variable {reader : ObjectReader}

namespace LazyImage

/-- The image with the table that its bytes hold. -/
def eager (reader : ObjectReader) (image : LazyImage) : Image :=
  image.withTable ((image.collect reader).toOption.getD [])

/-- The bytes of the image can be read, and a table that is kept is the one they hold. -/
structure Sound (reader : ObjectReader) (image : LazyImage) : Prop where
  collect_eq : image.collect reader = .ok (image.eager reader).symbols
  table_eq : ∀ symbols, image.table = some symbols → symbols = (image.eager reader).symbols

/-- A question whose answer is that of the eager image, and which leaves the image as it is up to
reading its table. -/
def Answers {α : Type} (reader : ObjectReader) (question : LazyImage → α × LazyImage)
    (answer : Image → α) : Prop :=
  ∀ image, image.Sound reader → (question image).1 = answer (image.eager reader) ∧
    (question image).2.Sound reader ∧ (question image).2.eager reader = image.eager reader

/-- Loading an image late is loading it eagerly and forgetting the table. -/
theorem load_spec (reader : ObjectReader) (files : FileReader) (path : String)
    (loadAddress : Option Address) :
    match Image.load reader files path loadAddress with
    | .error fault => LazyImage.load reader files path loadAddress = .error fault
    | .ok loaded => ∃ image, LazyImage.load reader files path loadAddress = .ok image ∧
        image.Sound reader ∧ image.eager reader = loaded := by
  unfold Image.load LazyImage.load
  cases hbytes : files path with
  | error fault => rfl
  | ok bytes =>
      dsimp only
      unfold Image.ofBytes
      cases hread : reader bytes with
      | error reason => rfl
      | ok file =>
          dsimp only
          cases hmap : Image.map? path file loadAddress with
          | none => rfl
          | some loaded =>
              obtain ⟨mapped, -, rfl⟩ := Option.map_eq_some_iff.1 hmap
              refine ⟨_, rfl, ?_, ?_⟩
              · constructor
                · simp [collect, eager, withTable, hread, Except.toOption]
                · rintro symbols ⟨⟩
              · simp [collect, eager, withTable, hread, Except.toOption]

/-- What does not need the table is the same for the eager image. -/
theorem eager_toFile? (image : LazyImage) (a : Address) :
    (image.eager reader).toFile? a = image.mapping.toFile? a := rfl

/-- Keeping the table leaves the eager image and the invariant as they are. -/
theorem Sound.keep {image : LazyImage} (sound : image.Sound reader) :
    let kept := { image with table := some (image.eager reader).symbols }
    kept.Sound reader ∧ kept.eager reader = image.eager reader := by
  intro kept
  have heager : kept.eager reader = image.eager reader := rfl
  refine ⟨⟨sound.collect_eq, ?_⟩, heager⟩
  rintro symbols hsymbols
  rw [heager]
  exact (Option.some.inj hsymbols).symm

/-- The question for the table is answered with the table, whether it was read before or not. -/
theorem answers_symbols :
    Answers reader (symbols reader) fun image => .ok image.symbols := by
  intro image sound
  unfold symbols
  cases htable : image.table with
  | some symbols =>
      obtain rfl := sound.table_eq symbols htable
      exact ⟨rfl, sound, rfl⟩
  | none =>
      rw [sound.collect_eq]
      exact ⟨rfl, sound.keep⟩

/-- So is the question for the nearest symbol. -/
theorem answers_nearest (a : Address) :
    Answers reader (nearest reader · a) fun image => image.resolve a := by
  intro image sound
  dsimp only
  rw [nearest, Image.resolve_eq_bind, eager_toFile?]
  cases image.mapping.toFile? a with
  | none => exact ⟨rfl, sound, rfl⟩
  | some fileAddress =>
      obtain ⟨hsymbols, hsound, heager⟩ := answers_symbols image sound
      rcases hread : image.symbols reader with ⟨symbols, read⟩
      rw [hread] at hsymbols hsound heager
      dsimp only at hsymbols hsound heager
      subst hsymbols
      rw [← heager]
      exact ⟨rfl, hsound, rfl⟩

/-- What is made of an answer may be made of it outside. -/
theorem Answers.map {α β : Type} {question : LazyImage → α × LazyImage} {answer : Image → α}
    (h : Answers reader question answer) (f : α → β) :
    Answers reader (fun image => (question image).map f id) fun image => f (answer image) := by
  intro image sound
  obtain ⟨hanswer, hafter⟩ := h image sound
  exact ⟨congrArg f hanswer, hafter⟩

end LazyImage

/-! ### Steps -/

open LazyImage (Answers)

namespace Registry

/-- The image that a step adds, if it is one that loads a file and the file can be loaded. -/
def Step.loaded? (reader : ObjectReader) : Step → Option Image
  | .load files path loadAddress => (Image.load reader files path loadAddress).toOption
  | _ => none

end Registry

namespace ImageList

/-- The answer of one of the images. -/
def ask (list : ImageList) (index : Nat) (answer : Image → Registry.Answer) : Registry.Answer :=
  match list.images[index]? with
  | none => .noSuchImage
  | some image => answer image

/-- The answer of a list of eager images to a step. -/
def answer (reader : ObjectReader) (list : ImageList) : Registry.Step → Registry.Answer
  | .load files path loadAddress =>
      match Image.load reader files path loadAddress with
      | .error fault => .notLoaded fault
      | .ok _ => .added list.images.length
  | .symbols index => list.ask index fun image => .symbols (.ok image.symbols)
  | .contains index a => list.ask index fun image => .contained (image.contains a)
  | .toFile index a => list.ask index fun image => .fileAddress (image.toFile? a)
  | .nearest index a => list.ask index fun image => .site (image.resolve a)
  | .imageFor a => .position (list.indexFor? a)
  | .resolve a => .site (list.resolve a)

/-- The images after a step. -/
def after (reader : ObjectReader) (list : ImageList) (step : Registry.Step) : ImageList :=
  ⟨list.images ++ (step.loaded? reader).toList⟩

/-- A step that loads nothing adds nothing. -/
theorem after_eq_self (list : ImageList) {step : Registry.Step} (h : step.loaded? reader = none) :
    list.after reader step = list := by
  rw [after, h, Option.toList_none, List.append_nil]

end ImageList

namespace Registry

/-- The images of a registry with their tables. -/
def eager (reader : ObjectReader) (registry : Registry) : ImageList :=
  ⟨registry.images.map (LazyImage.eager reader)⟩

/-- Every image is sound. -/
def Sound (reader : ObjectReader) (registry : Registry) : Prop :=
  ∀ image ∈ registry.images, image.Sound reader

/-- No images are all sound. -/
theorem sound_empty : empty.Sound reader := by
  intro image himage
  cases himage

/-- A sound image may be added. -/
theorem Sound.add {registry : Registry} {image : LazyImage}
    (hregistry : registry.Sound reader) (himage : image.Sound reader) :
    (registry.add image).Sound reader := by
  intro other hother
  rcases List.mem_append.1 hother with hother | hother
  · exact hregistry other hother
  · rwa [List.mem_singleton.1 hother]

/-- Which image covers an address does not depend on tables. -/
theorem indexFor?_eq (registry : Registry) (a : Address) :
    registry.indexFor? a = (registry.eager reader).indexFor? a := by
  rw [indexFor?, ImageList.indexFor?, eager, List.findIdx?_map]
  rfl

/-- A question put to one of the images is answered like the eager image does it, and leaves the
registry as it is up to reading the table of that image. -/
theorem ask_spec {registry : Registry} (sound : registry.Sound reader) (index : Nat)
    {question : LazyImage → Answer × LazyImage} {answer : Image → Answer}
    (hquestion : Answers reader question answer) :
    (registry.ask index question).1 = (registry.eager reader).ask index answer ∧
      (registry.ask index question).2.Sound reader ∧
      (registry.ask index question).2.eager reader = registry.eager reader := by
  unfold ask ImageList.ask
  rw [eager, List.getElem?_map]
  cases hindex : registry.images[index]? with
  | none => exact ⟨rfl, sound, rfl⟩
  | some image =>
      obtain ⟨hanswer, hsound, heager⟩ :=
        hquestion image (sound image (List.mem_of_getElem? hindex))
      refine ⟨hanswer, ?_, ?_⟩
      · intro other hother
        rcases List.mem_or_eq_of_mem_set hother with hother | rfl
        · exact sound other hother
        · exact hsound
      · obtain ⟨hlt, rfl⟩ := List.getElem?_eq_some_iff.1 hindex
        simp only [eager, List.map_set, heager]
        have hmapped : index < (registry.images.map (LazyImage.eager reader)).length := by
          rwa [List.length_map]
        rw [← List.getElem_map (LazyImage.eager reader) (h := hmapped), List.set_getElem_self]

/-- Resolving is answered as by images with their tables read, and keeps them sound. -/
theorem resolve_spec {registry : Registry} (sound : registry.Sound reader) (a : Address) :
    (registry.resolve reader a).1 = .site ((registry.eager reader).resolve a) ∧
      (registry.resolve reader a).2.Sound reader ∧
      (registry.resolve reader a).2.eager reader = registry.eager reader := by
  have hresolve : (registry.eager reader).resolve a =
      (((registry.eager reader).indexFor? a).bind ((registry.eager reader).images[·]?)).bind
        (·.resolve a) := by
    rw [ImageList.resolve, ImageList.imageFor?, List.find?_eq_bind_findIdx?_getElem?]
    rfl
  rw [hresolve, resolve, indexFor?_eq]
  cases hindex : (registry.eager reader).indexFor? a with
  | none => exact ⟨rfl, sound, rfl⟩
  | some index =>
      obtain ⟨hanswer, hafter⟩ :=
        ask_spec sound index ((LazyImage.answers_nearest a).map Answer.site)
      refine ⟨hanswer.trans ?_, hafter⟩
      obtain ⟨hlt, -⟩ := List.findIdx?_eq_some_iff_getElem.1 hindex
      simp [ImageList.ask, List.getElem?_eq_getElem hlt]

/-- **One step.** Its answer is that of the eager images, and the registry it leaves behind has
one more image if the step adds one, and else the same. -/
theorem step_spec {registry : Registry} (sound : registry.Sound reader) (step : Step) :
    (registry.step reader step).1 = (registry.eager reader).answer reader step ∧
      (registry.step reader step).2.Sound reader ∧
      (registry.step reader step).2.eager reader = (registry.eager reader).after reader step := by
  cases step with
  | load files path loadAddress =>
      have hload := LazyImage.load_spec reader files path loadAddress
      simp only [Registry.step, ImageList.answer, ImageList.after, Step.loaded?]
      cases hloaded : Image.load reader files path loadAddress with
      | error fault =>
          rw [hloaded] at hload
          rw [hload]
          exact ⟨rfl, sound, by simp [Except.toOption]⟩
      | ok loaded =>
          rw [hloaded] at hload
          obtain ⟨image, himage, hsound, rfl⟩ := hload
          rw [himage]
          exact ⟨by simp [eager], sound.add hsound, by simp [eager, add, Except.toOption]⟩
  | symbols index =>
      rw [ImageList.after_eq_self _ rfl]
      exact ask_spec sound index (LazyImage.answers_symbols.map Answer.symbols)
  | contains index a =>
      rw [ImageList.after_eq_self _ rfl]
      exact ask_spec sound index fun _ sound => ⟨rfl, sound, rfl⟩
  | toFile index a =>
      rw [ImageList.after_eq_self _ rfl]
      exact ask_spec sound index fun _ sound => ⟨rfl, sound, rfl⟩
  | nearest index a =>
      rw [ImageList.after_eq_self _ rfl]
      exact ask_spec sound index ((LazyImage.answers_nearest a).map Answer.site)
  | imageFor a =>
      rw [ImageList.after_eq_self _ rfl]
      exact ⟨congrArg Answer.position (indexFor?_eq registry a), sound, rfl⟩
  | resolve a =>
      rw [ImageList.after_eq_self _ rfl]
      exact resolve_spec sound a

/-! ### Sequences of steps -/

end Registry

/-- The answers of a list of eager images to a sequence of steps. -/
def ImageList.answers (reader : ObjectReader) (list : ImageList) :
    List Registry.Step → List Registry.Answer
  | [] => []
  | step :: rest => list.answer reader step :: (list.after reader step).answers reader rest

namespace Registry

/-- **A sequence of steps.** The answers are those of the eager images, and the registry left
behind has in addition the images that the steps loaded, in their order. -/
theorem run_spec {registry : Registry} (sound : registry.Sound reader) (steps : List Step) :
    (registry.run reader steps).1 = (registry.eager reader).answers reader steps ∧
      (registry.run reader steps).2.Sound reader ∧
      (registry.run reader steps).2.eager reader =
        ⟨(registry.eager reader).images ++ steps.filterMap (Step.loaded? reader)⟩ := by
  induction steps generalizing registry with
  | nil => exact ⟨rfl, sound, by simp [run]⟩
  | cons step rest ih =>
      obtain ⟨hanswer, hsound, heager⟩ := step_spec sound step
      obtain ⟨hanswers, hlast, hfinal⟩ := ih hsound
      rw [heager] at hanswers hfinal
      refine ⟨congr (congrArg _ hanswer) hanswers, hlast, hfinal.trans ?_⟩
      rw [ImageList.after, List.append_assoc, List.filterMap_cons]
      cases step.loaded? reader <;> rfl

/-- Two sound registries with the same eager images cannot be told apart. -/
theorem run_eq_of_eager_eq {registry other : Registry} (sound : registry.Sound reader)
    (hother : other.Sound reader) (h : registry.eager reader = other.eager reader)
    (steps : List Step) :
    (registry.run reader steps).1 = (other.run reader steps).1 := by
  rw [(run_spec sound steps).1, (run_spec hother steps).1, h]

end Registry

/-! ### One more image -/

namespace ImageList

/-- A step that loads an image adds it. -/
theorem after_load {files : FileReader} {path : String} {loadAddress : Option Address}
    {image : Image} (list : ImageList) (h : Image.load reader files path loadAddress = .ok image) :
    list.after reader (.load files path loadAddress) = list.add image := by
  simp only [after, add, Registry.Step.loaded?, h]
  rfl

/-- An image that is added has a say only where none before it covers the address. -/
theorem indexFor?_add (list : ImageList) (image : Image) (a : Address) :
    (list.add image).indexFor? a = (list.indexFor? a).or
      (((empty.add image).indexFor? a).map (· + list.images.length)) := by
  simp only [indexFor?, add, empty, List.findIdx?_append, List.nil_append]

/-- The same of the image itself. -/
theorem imageFor?_add (list : ImageList) (image : Image) (a : Address) :
    (list.add image).imageFor? a = (list.imageFor? a).or ((empty.add image).imageFor? a) := by
  simp only [imageFor?, add, empty, List.find?_append, List.nil_append]

/-- No image is found where none covers the address. -/
theorem imageFor?_eq_none_iff {list : ImageList} {a : Address} :
    list.imageFor? a = none ↔ ∀ image ∈ list.images, image.contains a = false := by
  simp only [imageFor?, List.find?_eq_none, Bool.not_eq_true]

/-- An address that an image covers already is not affected by one more image. -/
theorem add_of_covered (list : ImageList) (image : Image) {a : Address}
    (h : ∃ earlier ∈ list.images, earlier.contains a = true) :
    (list.add image).indexFor? a = list.indexFor? a ∧
      (list.add image).resolve a = list.resolve a := by
  have hindex : (list.indexFor? a).isSome := by
    rwa [indexFor?, List.findIdx?_isSome, List.any_eq_true]
  have himage : (list.imageFor? a).isSome := by
    rwa [imageFor?, List.find?_isSome]
  rw [indexFor?_add, resolve, imageFor?_add, Option.or_of_isSome hindex, Option.or_of_isSome himage]
  exact ⟨rfl, rfl⟩

/-- An address that no image covers is left to the new one. -/
theorem add_of_not_covered (list : ImageList) (image : Image) {a : Address}
    (h : ∀ earlier ∈ list.images, earlier.contains a = false) :
    (list.add image).indexFor? a =
        ((empty.add image).indexFor? a).map (· + list.images.length) ∧
      (list.add image).resolve a = (empty.add image).resolve a := by
  have hindex : list.indexFor? a = none := List.findIdx?_eq_none_iff.2 h
  rw [indexFor?_add, resolve, imageFor?_add, hindex, imageFor?_eq_none_iff.2 h]
  exact ⟨rfl, rfl⟩

/-- The first image that covers an address is asked about it. -/
theorem resolve_eq_of_first {list : ImageList} {a : Address} {index : Nat} {image : Image}
    (himage : list.images[index]? = some image) (hcontains : image.contains a = true)
    (hfirst : ∀ before < index, ∀ earlier, list.images[before]? = some earlier →
      earlier.contains a = false) : list.resolve a = image.resolve a := by
  obtain ⟨hlt, rfl⟩ := List.getElem?_eq_some_iff.1 himage
  have hfind : list.imageFor? a = some list.images[index] := by
    rw [imageFor?, List.find?_eq_some_iff_getElem]
    refine ⟨hcontains, index, hlt, rfl, ?_⟩
    intro before hbefore
    rw [hfirst before hbefore _ (List.getElem?_eq_getElem _)]
    rfl
  rw [resolve, hfind]
  rfl

/-- Where no image covers an address nothing is known of it. -/
theorem resolve_eq_none {list : ImageList} {a : Address}
    (h : ∀ image ∈ list.images, image.contains a = false) : list.resolve a = none := by
  rw [resolve, imageFor?_eq_none_iff.2 h]
  rfl

end ImageList

/-! ### The laws of a registry -/

namespace Registry

/-- The answer to a step depends on the images alone, not on which tables were read. -/
theorem answer_step {registry : Registry} {list : ImageList} (sound : registry.Sound reader)
    (h : registry.eager reader = list) (step : Step) :
    (registry.step reader step).1 = list.answer reader step :=
  h ▸ (step_spec sound step).1

/-- A step that loads no image cannot be told from later answers. -/
theorem run_after_quiet {registry : Registry} (sound : registry.Sound reader) {step : Step}
    (h : step.loaded? reader = none) (later : List Step) :
    ((registry.step reader step).2.run reader later).1 = (registry.run reader later).1 := by
  obtain ⟨-, hafter, heager⟩ := step_spec sound step
  rw [ImageList.after_eq_self _ h] at heager
  exact run_eq_of_eager_eq hafter sound heager later

section

variable {files : FileReader} {path : String} {loadAddress : Option Address} {image : Image}
  (hload : Image.load reader files path loadAddress = .ok image)

include hload

/-- Loading adds one image and leaves the others as they are. -/
theorem step_load {registry : Registry} (sound : registry.Sound reader) :
    (registry.step reader (.load files path loadAddress)).2.Sound reader ∧
      (registry.step reader (.load files path loadAddress)).2.eager reader =
        (registry.eager reader).add image := by
  obtain ⟨-, hafter, heager⟩ := step_spec sound (.load files path loadAddress)
  exact ⟨hafter, heager.trans (ImageList.after_load _ hload)⟩

/-- Where an earlier image covers an address, one more image changes nothing. -/
theorem answers_of_covered {registry : Registry} (sound : registry.Sound reader) {a : Address}
    (h : ∃ earlier ∈ (registry.eager reader).images, earlier.contains a = true) :
    let larger := (registry.step reader (.load files path loadAddress)).2
    (larger.step reader (.imageFor a)).1 = (registry.step reader (.imageFor a)).1 ∧
      (larger.step reader (.resolve a)).1 = (registry.step reader (.resolve a)).1 := by
  intro larger
  obtain ⟨hlarger, heager⟩ := step_load hload sound
  obtain ⟨hindex, hresolve⟩ := ImageList.add_of_covered (registry.eager reader) image h
  rw [answer_step hlarger heager, answer_step hlarger heager, answer_step sound rfl,
    answer_step sound rfl]
  exact ⟨congrArg Answer.position hindex, congrArg Answer.site hresolve⟩

/-- Where none does, the new image answers as if it were the only one. -/
theorem answers_of_not_covered {registry : Registry} (sound : registry.Sound reader) {a : Address}
    (h : ∀ earlier ∈ (registry.eager reader).images, earlier.contains a = false) :
    let larger := (registry.step reader (.load files path loadAddress)).2
    let alone := (empty.step reader (.load files path loadAddress)).2
    (larger.step reader (.imageFor a)).1 =
        .position ((alone.indexFor? a).map (· + (registry.eager reader).images.length)) ∧
      (larger.step reader (.resolve a)).1 = (alone.step reader (.resolve a)).1 := by
  intro larger alone
  obtain ⟨hlarger, heager⟩ := step_load hload sound
  obtain ⟨halone, haloneEager⟩ := step_load hload sound_empty
  have haloneEager : alone.eager reader = ImageList.empty.add image := haloneEager
  obtain ⟨hindex, hresolve⟩ := ImageList.add_of_not_covered (registry.eager reader) image h
  rw [answer_step hlarger heager, answer_step hlarger heager, answer_step halone haloneEager,
    indexFor?_eq, haloneEager]
  exact ⟨congrArg Answer.position hindex, congrArg Answer.site hresolve⟩

end

/-- The first image that covers an address gives its symbol. -/
theorem answer_resolve_of_first {registry : Registry} (sound : registry.Sound reader) {a : Address}
    {index : Nat} {image : Image} (himage : (registry.eager reader).images[index]? = some image)
    (hcontains : image.contains a = true)
    (hfirst : ∀ before < index, ∀ earlier,
      (registry.eager reader).images[before]? = some earlier → earlier.contains a = false) :
    (registry.step reader (.resolve a)).1 = (registry.step reader (.nearest index a)).1 := by
  rw [answer_step sound rfl, answer_step sound rfl]
  simp only [ImageList.answer, ImageList.ask, himage]
  exact congrArg Answer.site (ImageList.resolve_eq_of_first himage hcontains hfirst)

/-- **The laws of a registry**, after any sequence of steps from the empty one.

* Its images are those that the steps loaded, in their order, and it answers every step like these
  images do with their tables read from the start.
* A step that loads no image, be it a question or the attempt to load a file that cannot be loaded,
  changes none of the answers after it.
* Once more an image is loaded, the answers about the addresses that an earlier image covers stay
  as they were. About every other address the registry answers as if it held the new image alone.
* The symbol of an address is the one that the first image covering it gives, and there is none if
  no image covers it.
-/
theorem run_interleaved (reader : ObjectReader) (steps : List Step) :
    let registry := (empty.run reader steps).2
    let images := steps.filterMap (Step.loaded? reader)
    registry.images.map (LazyImage.eager reader) = images ∧
    (∀ step, (registry.step reader step).1 = (ImageList.mk images).answer reader step) ∧
    (∀ step, step.loaded? reader = none → ∀ later,
      ((registry.step reader step).2.run reader later).1 = (registry.run reader later).1) ∧
    (∀ files path loadAddress image, Image.load reader files path loadAddress = .ok image →
      let larger := (registry.step reader (.load files path loadAddress)).2
      let alone := (empty.step reader (.load files path loadAddress)).2
      ∀ a,
        ((∃ earlier ∈ images, earlier.contains a = true) →
          (larger.step reader (.imageFor a)).1 = (registry.step reader (.imageFor a)).1 ∧
          (larger.step reader (.resolve a)).1 = (registry.step reader (.resolve a)).1) ∧
        ((∀ earlier ∈ images, earlier.contains a = false) →
          (larger.step reader (.imageFor a)).1 =
            .position ((alone.indexFor? a).map (· + images.length)) ∧
          (larger.step reader (.resolve a)).1 = (alone.step reader (.resolve a)).1)) ∧
    (∀ a index image, images[index]? = some image → image.contains a = true →
      (∀ before < index, ∀ earlier, images[before]? = some earlier →
        earlier.contains a = false) →
      (registry.step reader (.resolve a)).1 = (registry.step reader (.nearest index a)).1) ∧
    (∀ a, (∀ image ∈ images, image.contains a = false) →
      (registry.step reader (.resolve a)).1 = .site none) := by
  intro registry images
  obtain ⟨-, sound, heager⟩ := run_spec sound_empty steps
  have heager : registry.eager reader = ⟨images⟩ := heager
  have himages : (registry.eager reader).images = images := congrArg ImageList.images heager
  refine ⟨himages, answer_step sound heager, fun step => run_after_quiet sound, ?added, ?first,
    ?none⟩
  case added =>
    rw [← himages]
    intro files path loadAddress image hload larger alone a
    exact ⟨answers_of_covered hload sound, answers_of_not_covered hload sound⟩
  case first =>
    rw [← himages]
    exact fun a index image => answer_resolve_of_first sound
  case none =>
    intro a hnone
    rw [answer_step sound heager]
    exact congrArg Answer.site (ImageList.resolve_eq_none hnone)

/-- A page is loaded twice, the second time half a page further on, and in between asked for a
symbol; a file that is missing is not loaded. -/
theorem run_interleaved_onePage :
    let reader := ObjectFile.reader
    let load (start : Address) : Step := .load (fun _ => .ok Image.onePage) "page.so" (some start)
    let missing : Step := .load (fun _ => .error .notFound) "page.so" none
    let registry := (empty.run reader [load ⟨0x1000⟩, .resolve ⟨0x1024⟩, missing]).2
    let larger := (registry.step reader (load ⟨0x1800⟩)).2
    let alone := (empty.step reader (load ⟨0x1800⟩)).2
    ((registry.step reader (.resolve ⟨0x1024⟩)).2.run reader [.symbols 0]).1 =
        (registry.run reader [.symbols 0]).1 ∧
      (larger.step reader (.imageFor ⟨0x1900⟩)).1 = (registry.step reader (.imageFor ⟨0x1900⟩)).1 ∧
      (larger.step reader (.resolve ⟨0x2100⟩)).1 = (alone.step reader (.resolve ⟨0x2100⟩)).1 ∧
      (registry.step reader (.resolve ⟨0x1900⟩)).1 =
        (registry.step reader (.nearest 0 ⟨0x1900⟩)).1 ∧
      (registry.step reader (.resolve ⟨0x2100⟩)).1 = .site none := by
  intro reader load missing registry larger alone
  have himages : [load ⟨0x1000⟩, .resolve ⟨0x1024⟩, missing].filterMap (Step.loaded? reader) =
      [Image.onePageImage ⟨0x1000⟩] := by
    simp only [reader, load, missing, List.filterMap_cons, Step.loaded?, Image.load_onePage]
    rfl
  obtain ⟨-, -, quiet, added, first, none⟩ :=
    run_interleaved reader [load ⟨0x1000⟩, .resolve ⟨0x1024⟩, missing]
  rw [himages] at added first none
  have added := added _ _ _ _ (Image.load_onePage (some ⟨0x1800⟩))
  exact ⟨quiet _ rfl _, ((added ⟨0x1900⟩).1 (by decide)).1, ((added ⟨0x2100⟩).2 (by decide)).2,
    first ⟨0x1900⟩ 0 _ rfl (by decide) (by simp), none ⟨0x2100⟩ (by decide)⟩

end Registry

end SymbolTrace
