import SymbolTrace.PathName

/-!
# The name at the end of a path

The file name of a path is defined through all of its components. It can be told from the end of
the path alone: slashes there, and single dots behind a slash, are dropped (`trimmed`), and what is
then behind the last slash is the file name, unless it is no name (`lastComponent`, `IsName`).

All that is needed of components is that a slash separates them (`components_append`). So what is
dropped at the end has none (`components_trimmed`), and what is behind the last slash of a trimmed
path is its last one (`fileName?_of_isTrimmed`).

## Main results

* `fileName?_eq`: the file name, told from the end of the path.
* `baseName_join`: the base name of a name in a directory.
* `baseName_exact`: both, for the base name, and that taking it twice changes nothing.
-/

namespace SymbolTrace.PathName

/-! ### Names -/

/-- A component that names something: neither the directory itself nor its parent. -/
def IsName (name : String) : Prop :=
  name ≠ "" ∧ name ≠ "." ∧ name ≠ ".."

instance (name : String) : Decidable (IsName name) :=
  inferInstanceAs (Decidable (_ ∧ _ ∧ _))

/-- A piece says something unless it is empty or a dot. -/
theorem isMeaningful_iff {piece : String} :
    isMeaningful piece = true ↔ piece ≠ "" ∧ piece ≠ "." := by
  simp [isMeaningful]

/-- A name says something. -/
theorem IsName.isMeaningful {name : String} (h : IsName name) : isMeaningful name = true :=
  isMeaningful_iff.2 ⟨h.1, h.2.1⟩

/-! ### Components -/

/-- A slash separates components. -/
theorem components_append (front back : String) :
    components (front ++ "/" ++ back) = components front ++ components back := by
  have hpieces : pieces (front ++ "/" ++ back) = pieces front ++ pieces back := by
    have hsplit : (front.toList ++ '/' :: back.toList).splitOn '/' =
        front.toList.splitOn '/' ++ back.toList.splitOn '/' :=
      List.splitOnP_append_cons _ _ (beq_self_eq_true '/')
    rw [pieces, String.toList_append, String.toList_append, List.append_assoc]
    exact (congrArg (List.map String.ofList) hsplit).trans List.map_append
  rw [components, hpieces, List.filter_append]
  rfl

/-- A text without slashes is one component, if it says anything. -/
theorem components_of_no_slash {piece : String} (hpiece : '/' ∉ piece.toList) :
    components piece = if isMeaningful piece then [piece] else [] := by
  rw [components, pieces, List.splitOn_eq_singleton hpiece, List.map_singleton,
    String.ofList_toList, List.filter_cons, List.filter_nil]

/-- What says nothing can be left out at the end. -/
theorem components_append_of_eq_nil {back : String} (hback : components back = [])
    (front : String) : components (front ++ "/" ++ back) = components front := by
  rw [components_append, hback, List.append_nil]

/-- A slash at the end can be left out. -/
theorem components_append_slash (front : String) : components (front ++ "/") = components front := by
  have hback := components_append_of_eq_nil (show components "" = [] by decide) front
  rwa [String.append_empty] at hback

/-! ### The end of a path -/

/-- What is left of a path, written backwards, without the slashes and the single dots behind
slashes that it ends with. -/
def trimmedBackwards : List Char → List Char
  | '/' :: rest => trimmedBackwards rest
  | '.' :: '/' :: rest => trimmedBackwards rest
  | rest => rest

/-- A path without the slashes and the single dots behind slashes that it ends with. -/
def trimmed (path : String) : String :=
  String.ofList (trimmedBackwards path.toList.reverse).reverse

/-- What is behind the last slash of a path. -/
def lastComponent (path : String) : String :=
  String.ofList (path.toList.reverse.takeWhile (· != '/')).reverse

/-- Nothing is to be dropped at the end of the path. -/
def IsTrimmed (path : String) : Prop :=
  ∀ front, path ≠ front ++ "/" ∧ path ≠ front ++ "/."

/-- A slash at the end of a path, seen from there. -/
theorem ofList_reverse_cons_slash (rest : List Char) :
    String.ofList ('/' :: rest).reverse = String.ofList rest.reverse ++ "/" := by
  rw [List.reverse_cons, String.ofList_append]

/-- A dot behind a slash at the end of a path, seen from there. -/
theorem ofList_reverse_cons_dot (rest : List Char) :
    String.ofList ('.' :: '/' :: rest).reverse = String.ofList rest.reverse ++ "/" ++ "." := by
  rw [List.reverse_cons, String.ofList_append, ofList_reverse_cons_slash]

/-- What is dropped at the end has no components. -/
theorem components_trimmed (path : String) : components (trimmed path) = components path := by
  have htrim : ∀ backwards, components (String.ofList (trimmedBackwards backwards).reverse) =
      components (String.ofList backwards.reverse) := by
    intro backwards
    fun_induction trimmedBackwards backwards with
    | case1 rest ih => rw [ih, ofList_reverse_cons_slash, components_append_slash]
    | case2 rest ih =>
        rw [ih, ofList_reverse_cons_dot, components_append_of_eq_nil (by decide)]
    | case3 => rfl
  rw [trimmed, htrim, List.reverse_reverse, String.ofList_toList]

/-- Trimming leaves nothing to be trimmed. -/
theorem isTrimmed_trimmed (path : String) : IsTrimmed (trimmed path) := by
  have hends : ∀ backwards rest, trimmedBackwards backwards ≠ '/' :: rest ∧
      trimmedBackwards backwards ≠ '.' :: '/' :: rest := by
    intro backwards rest
    fun_induction trimmedBackwards backwards with
    | case1 _ ih => exact ih
    | case2 _ ih => exact ih
    | case3 backwards hslash hdot => exact ⟨hslash rest, hdot rest⟩
  intro front
  have hback : ∀ back, trimmed path = front ++ back →
      trimmedBackwards path.toList.reverse = back.toList.reverse ++ front.toList.reverse := by
    intro back h
    rw [← List.reverse_append, ← String.toList_append, ← h, trimmed, String.toList_ofList,
      List.reverse_reverse]
  exact ⟨fun h => (hends _ _).1 (hback "/" h), fun h => (hends _ _).2 (hback "/." h)⟩

/-- The last component lies behind all slashes. -/
theorem no_slash_lastComponent (path : String) : '/' ∉ (lastComponent path).toList := by
  rw [lastComponent, String.toList_ofList, List.mem_reverse]
  intro hmem
  have hslash := List.all_eq_true.1 List.all_takeWhile '/' hmem
  exact Bool.false_ne_true hslash

/-- A path is its last component, or ends with a slash and it. -/
theorem lastComponent_cases (path : String) :
    path = lastComponent path ∨ ∃ front, path = front ++ "/" ++ lastComponent path := by
  have hpath : path = String.ofList (path.toList.reverse.dropWhile (· != '/')).reverse ++
      lastComponent path := by
    rw [lastComponent, ← String.ofList_append, ← List.reverse_append,
      List.takeWhile_append_dropWhile, List.reverse_reverse, String.ofList_toList]
  cases hrest : path.toList.reverse.dropWhile (· != '/') with
  | nil =>
      left
      rw [hrest] at hpath
      exact hpath.trans String.empty_append
  | cons c rest =>
      right
      have hc : (c != '/') = false := by
        have hhead := List.head?_dropWhile_not (· != '/') path.toList.reverse
        rwa [hrest] at hhead
      have hc : c = '/' := by simpa using hc
      rw [hrest, hc, ofList_reverse_cons_slash] at hpath
      exact ⟨_, hpath⟩

/-! ### File names -/

/-- The file name is the last component that says something, if it is a name. -/
theorem fileName?_eq_of_getLast? {path name : String}
    (h : (components path).getLast? = some name) (hname : isMeaningful name = true) :
    fileName? path = if IsName name then some name else none := by
  rw [fileName?, h, Option.filter_some]
  obtain ⟨hempty, hdot⟩ := isMeaningful_iff.1 hname
  by_cases hup : name = ".."
  · simp [IsName, hup]
  · simp [IsName, hempty, hdot, hup]

/-- The file name of a trimmed path is what is behind its last slash. -/
theorem fileName?_of_isTrimmed {path : String} (h : IsTrimmed path) :
    fileName? path = if IsName (lastComponent path) then some (lastComponent path) else none := by
  have hlast := components_of_no_slash (no_slash_lastComponent path)
  rcases lastComponent_cases path with hpath | ⟨front, hpath⟩
  · rw [← hpath] at hlast ⊢
    by_cases hmeaningful : isMeaningful path = true
    · rw [if_pos hmeaningful] at hlast
      exact fileName?_eq_of_getLast? (by rw [hlast]; rfl) hmeaningful
    · rw [if_neg hmeaningful] at hlast
      rw [if_neg fun hname => hmeaningful hname.isMeaningful, fileName?, hlast]
      rfl
  · -- behind a slash, nothing and a single dot would have been dropped
    have hmeaningful : isMeaningful (lastComponent path) = true := by
      refine isMeaningful_iff.2 ⟨fun hempty => ?_, fun hdot => ?_⟩
      · rw [hempty, String.append_empty] at hpath
        exact (h front).1 hpath
      · rw [hdot, String.append_assoc] at hpath
        exact (h front).2 hpath
    rw [if_pos hmeaningful] at hlast
    refine fileName?_eq_of_getLast? ?_ hmeaningful
    rw [congrArg components hpath, components_append, hlast, List.getLast?_append]
    rfl

/-- The file name, told from the end of the path. -/
theorem fileName?_eq (path : String) :
    fileName? path =
      if IsName (lastComponent (trimmed path)) then some (lastComponent (trimmed path))
      else none := by
  rw [← fileName?_of_isTrimmed (isTrimmed_trimmed path), fileName?, fileName?, components_trimmed]

/-- A file name is a name without slashes. -/
theorem isName_of_fileName? {path name : String} (h : fileName? path = some name) :
    IsName name ∧ '/' ∉ name.toList := by
  rw [fileName?_eq] at h
  split at h
  case isTrue hname =>
    obtain rfl := Option.some.inj h
    exact ⟨hname, no_slash_lastComponent _⟩
  case isFalse => cases h

/-! ### Base names -/

/-- The base name is the file name, where there is one. -/
theorem baseName_of_fileName? {path name : String} (h : fileName? path = some name) :
    baseName path = name := by
  rw [baseName, h, Option.getD_some]

/-- A name is its own base name. -/
theorem baseName_of_isName {name : String} (hname : IsName name) (hslash : '/' ∉ name.toList) :
    baseName name = name := by
  have hcomponents := components_of_no_slash hslash
  rw [if_pos hname.isMeaningful] at hcomponents
  have hfile := fileName?_eq_of_getLast? (by rw [hcomponents]; rfl) hname.isMeaningful
  rw [if_pos hname] at hfile
  exact baseName_of_fileName? hfile

/-- Slashes at the end change nothing. -/
theorem components_append_slashes (path : String) (count : Nat) :
    components (path ++ String.ofList (List.replicate count '/')) = components path := by
  induction count with
  | zero => rw [List.replicate_zero, String.ofList_nil, String.append_empty]
  | succ count ih =>
      rw [List.replicate_succ', String.ofList_append, ← String.append_assoc, ← ih]
      exact components_append_slash _

/-- The base name of a name in a directory, however many slashes follow. -/
theorem baseName_join {name : String} (hname : IsName name) (hslash : '/' ∉ name.toList)
    (directory : String) (count : Nat) :
    baseName (directory ++ "/" ++ name ++ String.ofList (List.replicate count '/')) = name := by
  have hcomponents := components_of_no_slash hslash
  rw [if_pos hname.isMeaningful] at hcomponents
  have hlast : (components (directory ++ "/" ++ name ++
      String.ofList (List.replicate count '/'))).getLast? = some name := by
    rw [components_append_slashes, components_append, hcomponents, List.getLast?_append]
    rfl
  have hfile := fileName?_eq_of_getLast? hlast hname.isMeaningful
  rw [if_pos hname] at hfile
  exact baseName_of_fileName? hfile

/-- A base name is a file name or the path itself. -/
theorem baseName_cases (path : String) :
    (IsName (baseName path) ∧ '/' ∉ (baseName path).toList) ∨ baseName path = path := by
  cases hfile : fileName? path with
  | some name =>
      left
      rw [baseName_of_fileName? hfile]
      exact isName_of_fileName? hfile
  | none =>
      right
      rw [baseName, hfile, Option.getD_none]

/-- **The base name is the last name of a path.** Slashes at the end of a path, and single dots
behind slashes there, are dropped; what is behind the last slash then is the base name if it names
something, and otherwise the whole path is. Taking the base name again changes nothing, no path but
the empty one has an empty base name, and a name in a directory is found there. -/
theorem baseName_exact (path : String) :
    (baseName path =
      if IsName (lastComponent (trimmed path)) then lastComponent (trimmed path) else path) ∧
    baseName (baseName path) = baseName path ∧
    (path ≠ "" → baseName path ≠ "") ∧
    ∀ directory name count, IsName name → '/' ∉ name.toList →
      baseName (directory ++ "/" ++ name ++ String.ofList (List.replicate count '/')) = name := by
  refine ⟨?lastName, ?idempotent, ?nonempty, fun directory name count hname hslash =>
    baseName_join hname hslash directory count⟩
  case lastName =>
    rw [baseName, fileName?_eq]
    split
    all_goals rfl
  case idempotent =>
    rcases baseName_cases path with ⟨hname, hslash⟩ | hpath
    · exact baseName_of_isName hname hslash
    · rw [hpath, hpath]
  case nonempty =>
    intro hne
    rcases baseName_cases path with ⟨hname, -⟩ | hpath
    · exact hname.1
    · rwa [hpath]

/-- Dots and slashes behind a library's name, and a name in a directory with slashes at its end. -/
theorem baseName_exact_library :
    baseName "./lib//libc.so.6/.//./" = "libc.so.6" ∧ baseName "lib/../" = "lib/../" ∧
      baseName "/." ≠ "" ∧ baseName "./opt/..//app//" = "app" := by
  obtain ⟨hname, -, -, -⟩ := baseName_exact "./lib//libc.so.6/.//./"
  obtain ⟨hparent, -, -, -⟩ := baseName_exact "lib/../"
  obtain ⟨-, -, hnonempty, hjoin⟩ := baseName_exact "/."
  refine ⟨hname.trans (by decide +kernel), hparent.trans (by decide +kernel),
    hnonempty (by decide), ?_⟩
  exact hjoin "./opt/../" "app" 2 (by decide) (by decide)

end SymbolTrace.PathName
