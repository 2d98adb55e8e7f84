-- SUMMARY: Loading looks at the directories from the current one upwards and reads the first file of settings only, so a project has one configuration wherever in it the program is started.
import Mathlib.Data.List.Infix
import WikiMarkup.Proofs.BracedReferences
import WikiMarkup.Proofs.StoreFiles

/-!
# The nearest settings

The current directory is a list of names, and the directories above it are the beginnings of that
list. The search works on texts, so the texts of the beginnings are shown to be what taking parents
goes through, longest first. What is found first is then the longest beginning with a file of
settings in it, and from there on only the contents of that file and the variables count.
-/

namespace WikiMarkup

/-! ## The texts of locations -/

namespace Path

variable {place : Location} {name : String}

theorem pieces_path (h : ∀ n ∈ place, IsName n) (hne : place ≠ []) :
    pieces (World.path place) = "" :: place := by
  have hslash := pieces_append_slash "" ("/".intercalate place)
  rw [String.empty_append, pieces_intercalate (fun n hn => (h n hn).no_slash) hne] at hslash
  exact hslash

theorem names_path (h : ∀ n ∈ place, IsName n) : names (World.path place) = place := by
  by_cases hne : place = []
  · subst hne
    rfl
  · rw [names, pieces_path h hne, List.filter_cons_of_neg (by decide)]
    exact List.filter_eq_self.mpr fun n hn => (h n hn).leadsOn

theorem isAbsolute_path (place : Location) : isAbsolute (World.path place) = true := by
  rw [World.path, isAbsolute_append (by decide)]
  rfl

/-- Joining a name leads to the location behind. -/
theorem join_path (h : ∀ n ∈ place, IsName n) (hname : IsName name) :
    join (World.path place) name = World.path (place ++ [name]) := by
  induction place using List.reverseRecOn generalizing name with
  | nil =>
    rw [join, hname.isAbsolute]
    rfl
  | append_singleton place last ih =>
    have hlast : IsName last := h last (by simp)
    have habove : ∀ n ∈ place, IsName n := fun n hn => h n (List.mem_append_left _ hn)
    have hslash := endsWithSlash_join hlast (World.path place)
    rw [ih habove hlast] at hslash
    have hempty : (World.path (place ++ [last])).isEmpty = false := by simp [World.path]
    have hbehind : "/".intercalate (place ++ [last] ++ [name]) =
        "/".intercalate (place ++ [last]) ++ "/" ++ name := by
      rw [String.intercalate_append_of_ne_nil (by simp) (by simp), String.intercalate_singleton]
    rw [join, hname.isAbsolute, hslash, hempty, World.path, World.path, hbehind]
    simp [String.append_assoc]

theorem parent?_root : parent? (World.path []) = none := by decide

/-- Taking the parent leads to the location above. -/
theorem parent?_path (h : ∀ n ∈ place ++ [name], IsName n) :
    parent? (World.path (place ++ [name])) = some (World.path place) := by
  have hname : IsName name := h name (by simp)
  have hdrop : dropSilent (pieces (World.path (place ++ [name]))).reverse =
      name :: (place.reverse ++ [""]) := by
    rw [pieces_path h (by simp), List.reverse_cons, List.reverse_append]
    exact dropSilent_append (List.forall_mem_nil _) hname.leadsOn
  rw [parent?_eq hdrop (by simp)]
  induction place using List.reverseRecOn with
  | nil => rfl
  | append_singleton place last _ =>
    have hlast : IsName last := h last (by simp)
    have hkept : dropSilent ((place ++ [last]).reverse ++ [""]) =
        (place ++ [last]).reverse ++ [""] := by
      rw [List.reverse_concat]
      exact dropSilent_append (List.forall_mem_nil _) hlast.leadsOn
    rw [hkept, if_neg (by simp), List.reverse_append, List.reverse_reverse]
    simp [World.path, String.intercalate_cons_of_ne_nil]

/-- The paths above a location are those of its beginnings, longest first. -/
theorem ancestorsFrom_path (h : ∀ n ∈ place, IsName n) {fuel : Nat} (hfuel : place.length < fuel) :
    ancestorsFrom fuel (World.path place) = place.inits.reverse.map World.path := by
  induction place using List.reverseRecOn generalizing fuel with
  | nil =>
    obtain ⟨fuel, rfl⟩ := Nat.exists_eq_add_one_of_ne_zero (Nat.ne_of_gt hfuel)
    rw [ancestorsFrom, parent?_root]
    rfl
  | append_singleton place last ih =>
    rw [List.length_append, List.length_singleton] at hfuel
    obtain ⟨fuel, rfl⟩ := Nat.exists_eq_add_one_of_ne_zero (Nat.ne_zero_of_lt hfuel)
    have habove : ∀ n ∈ place, IsName n := fun n hn => h n (List.mem_append_left _ hn)
    rw [ancestorsFrom, parent?_path h]
    simp [List.inits_append, ih habove (Nat.lt_of_succ_lt_succ hfuel)]

theorem ancestors_path (h : ∀ n ∈ place, IsName n) :
    ancestors (World.path place) = place.inits.reverse.map World.path := by
  have hlength := length_names_le (World.path place)
  rw [names_path h] at hlength
  exact ancestorsFrom_path h (by omega)

end Path

/-! ## The longest beginning of a list -/

section

variable {α : Type} {p : List α → Bool} {l place : List α}

theorem find?_inits_reverse_eq_some (hplace : place <+: l) (hp : p place = true)
    (hlongest : ∀ other, other <+: l → p other = true → other <+: place) :
    l.inits.reverse.find? p = some place := by
  induction l using List.reverseRecOn with
  | nil =>
    obtain rfl := List.prefix_nil.mp hplace
    simp [hp]
  | append_singleton l a ih =>
    have hinits : (l ++ [a]).inits.reverse = (l ++ [a]) :: l.inits.reverse := by
      simp [List.inits_append]
    rw [hinits]
    cases hwhole : p (l ++ [a]) with
    | true =>
      have hsame : place = l ++ [a] :=
        hplace.eq_of_length_le (hlongest _ (List.prefix_refl _) hwhole).length_le
      rw [List.find?_cons_of_pos hwhole, hsame]
    | false =>
      have hbefore : place <+: l := by
        rcases List.prefix_concat_iff.mp hplace with rfl | hbefore
        · rw [hp] at hwhole
          cases hwhole
        · exact hbefore
      rw [List.find?_cons_of_neg (by simp [hwhole])]
      exact ih hbefore fun other hother => hlongest other (hother.trans (List.prefix_append _ _))

theorem find?_inits_reverse_eq_none (h : ∀ other, other <+: l → p other = false) :
    l.inits.reverse.find? p = none := by
  rw [List.find?_eq_none]
  intro other hother
  rw [h other ((List.mem_inits _ _).mp (List.mem_reverse.mp hother))]
  exact Bool.false_ne_true

end

/-! ## Files of settings -/

namespace Settings

theorem isName_fileName : Path.IsName fileName := by
  constructor <;> decide

/-- The path of the file of settings in a directory. -/
def settingsPath (place : Location) : String := World.path (place ++ [fileName])

end Settings

namespace Tree

open Settings

variable {t : Tree} {place : Location}

/-- There is a file of settings in a directory, and not a directory of that name. A file whose path
is longer than a file system takes cannot be asked for, and counts as none. -/
def HoldsSettings (t : Tree) (place : Location) : Prop :=
  (∃ contents, t.get? (place ++ [fileName]) = some (.file contents)) ∧
    (settingsPath place).utf8ByteSize < maxPath

instance (t : Tree) (place : Location) : Decidable (t.HoldsSettings place) :=
  decidable_of_iff ((t.contents? (place ++ [fileName])).isSome = true ∧
      (settingsPath place).utf8ByteSize < maxPath) <| by
    simp only [HoldsSettings, Option.isSome_iff_exists, contents?_eq_some]

/-- It is enough that the nodes that are listed stand in directories. -/
theorem closed_of_nodes (h : ∀ entry ∈ t.nodes, t.get? entry.1.dropLast = some .directory) :
    Closed t := by
  intro loc node hnode
  by_cases hloc : loc = []
  · subst hloc
    rfl
  · rw [get?_of_ne_nil t hloc, Option.map_eq_some_iff] at hnode
    obtain ⟨entry, hfind, -⟩ := hnode
    have hentry : entry.1 = loc := by simpa using List.find?_some hfind
    exact hentry ▸ h entry (List.mem_of_find?_eq_some hfind)

theorem readFile_of_find? {directory : Location} {path : String} {contents : List UInt8}
    (h : t.find? directory path = some (.file contents)) :
    t.readFile directory path = .ok contents := by
  have hread := toOption_readFile t directory path
  rw [h] at hread
  cases hresult : t.readFile directory path with
  | error e => rw [hresult] at hread; cases hread
  | ok found =>
    rw [hresult] at hread
    exact congrArg Except.ok (Option.some.inj hread)

/-- Plain names lead from the root to the location that they are. -/
theorem leads_root (h : ∀ n ∈ place, Path.IsName n) : Leads t [] place place := by
  induction place using List.reverseRecOn with
  | nil => exact .found rfl rfl
  | append_singleton place last ih =>
    exact .behind (ih fun n hn => h n (List.mem_append_left _ hn)) (h last (by simp))

theorem no_nul_path (h : ∀ n ∈ place, Path.IsName n) :
    Char.ofNat 0 ∉ (World.path place).toList := by
  induction place using List.reverseRecOn with
  | nil => decide
  | append_singleton place last ih =>
    have habove : ∀ n ∈ place, Path.IsName n := fun n hn => h n (List.mem_append_left _ hn)
    have hlast : Path.IsName last := h last (by simp)
    rw [← Path.join_path habove hlast]
    exact Path.no_nul_join hlast (ih habove)

/-- Under the path of the file of settings a file is found if and only if the directory holds one,
whatever directory is the current one. -/
theorem find?_settingsPath (hclosed : t.Closed) (hplace : ∀ n ∈ place, Path.IsName n)
    (directory : Location) (contents : List UInt8) :
    t.find? directory (settingsPath place) = some (.file contents) ↔
      t.get? (place ++ [fileName]) = some (.file contents) ∧
        (settingsPath place).utf8ByteSize < maxPath := by
  have hjoin := Path.join_path hplace isName_fileName
  have hnul : Char.ofNat 0 ∉ (settingsPath place).toList := by
    rw [settingsPath, ← hjoin]
    exact Path.no_nul_join isName_fileName (no_nul_path hplace)
  by_cases hfits : (settingsPath place).utf8ByteSize < maxPath
  · have hleads : Leads t (start directory (World.path place)) (Path.names (World.path place))
        place := by
      rw [start, Path.isAbsolute_path, Path.names_path hplace]
      exact leads_root hplace
    have hfind := hleads.find?_join hclosed isName_fileName (hjoin ▸ ⟨hnul, hfits⟩)
    rw [hjoin] at hfind
    rw [settingsPath, hfind]
    exact (and_iff_left hfits).symm
  · have hrefused : checkPath (settingsPath place) ≠ .ok () := by
      rw [checkPath, if_pos (Nat.not_lt.mp hfits)]
      split
      · simp
      · split <;> simp
    have hnone : t.find? directory (settingsPath place) = none := by
      rw [find?, locate]
      cases hcheck : checkPath (settingsPath place) with
      | ok _ => exact absurd hcheck hrefused
      | error e => rfl
    simp [hnone, hfits]

end Tree

/-! ## Where a program is started -/

namespace World

/-- Every node stands in a directory, and plain names lead to the current directory. -/
structure Placed (w : World) : Prop where
  closed : w.tree.Closed
  names : ∀ name ∈ w.directory, Path.IsName name

/-- The nearest directory with a file of settings: the current one, or the first above it. -/
structure NearestSettings (w : World) (place : Location) : Prop where
  above : place <+: w.directory
  holds : w.tree.HoldsSettings place
  nearest : ∀ other, other <+: w.directory → w.tree.HoldsSettings other → other <+: place

/-- There are no settings in the current directory or above it. -/
def LacksSettings (w : World) : Prop :=
  ∀ other, other <+: w.directory → ¬ w.tree.HoldsSettings other

instance (w : World) (place : Location) : Decidable (w.NearestSettings place) :=
  decidable_of_iff (place <+: w.directory ∧ w.tree.HoldsSettings place ∧
      ∀ other ∈ w.directory.inits, w.tree.HoldsSettings other → other <+: place) <| by
    simp only [List.mem_inits]
    exact ⟨fun ⟨habove, hholds, hnearest⟩ => ⟨habove, hholds, hnearest⟩,
      fun ⟨habove, hholds, hnearest⟩ => ⟨habove, hholds, hnearest⟩⟩

instance (w : World) : Decidable w.LacksSettings :=
  decidable_of_iff (∀ other ∈ w.directory.inits, ¬ w.tree.HoldsSettings other) <| by
    simp only [List.mem_inits, LacksSettings]

/-- Whether a path leads to a file. -/
def hasFile (w : World) (path : String) : Bool :=
  match w.tree.find? w.directory path with
  | some (.file _) => true
  | _ => false

variable {w : World} {place : Location}

theorem hasFile_iff {path : String} :
    w.hasFile path = true ↔ ∃ contents, w.tree.find? w.directory path = some (.file contents) := by
  rw [hasFile]
  split
  · next contents hfile => simp [hfile]
  · next hother => simpa using hother

theorem Placed.names_of_prefix (h : w.Placed) (hplace : place <+: w.directory) :
    ∀ name ∈ place, Path.IsName name :=
  fun name hname => h.names name (hplace.subset hname)

theorem Placed.hasFile_settingsPath (h : w.Placed) (hplace : place <+: w.directory) :
    w.hasFile (Settings.settingsPath place) = true ↔ w.tree.HoldsSettings place := by
  rw [hasFile_iff, Tree.HoldsSettings, ← exists_and_right]
  exact exists_congr fun contents =>
    Tree.find?_settingsPath h.closed (h.names_of_prefix hplace) w.directory contents

end World

/-! ## The variables that count -/

namespace WrittenSettings

variable {lookup lookup' : String → Option String}

theorem expandSetting_congr {text : String}
    (h : ∀ name ∈ Expansion.names text, lookup name = lookup' name) (setting : String) :
    expandSetting lookup setting text = expandSetting lookup' setting text := by
  rw [expandSetting, expandSetting, Expansion.expand_congr h]

theorem expandOptional_congr {value : Option String}
    (h : ∀ name ∈ (value.map Expansion.names).getD [], lookup name = lookup' name)
    (setting : String) :
    expandOptional lookup setting value = expandOptional lookup' setting value := by
  cases value with
  | none => rfl
  | some text => rw [expandOptional, expandOptional, expandSetting_congr h]

/-- Only the variables that are referred to count. -/
theorem expand_congr {written : WrittenSettings}
    (h : ∀ name ∈ written.names, lookup name = lookup' name) :
    written.expand lookup = written.expand lookup' := by
  simp only [names, List.mem_append] at h
  rw [expand, expand, expandOptional_congr fun name hname => h name (.inl (.inl hname)),
    expandOptional_congr fun name hname => h name (.inl (.inr hname)),
    expandSetting_congr fun name hname => h name (.inr hname)]

end WrittenSettings

/-! ## The search -/

namespace Settings

variable {w : World} {place : Location}

theorem run_isFile (path : String) (w : World) :
    (Host.isFile path : StateM World Bool) w = (w.hasFile path, w) := by
  have hrun : (Host.isFile path : StateM World Bool) w =
      (decide (((Host.kind? path : StateM World (Option NodeKind)) w).1 = some .file), w) := rfl
  have hkind : ((Host.kind? path : StateM World (Option NodeKind)) w).1 = some .file ↔
      w.hasFile path = true := by
    rw [World.hasFile]
    dsimp only [Host.kind?]
    rcases w.tree.find? w.directory path with _ | _ | _ <;> simp
  simp only [hrun, hkind, Bool.decide_eq_true]

/-- Searching changes nothing. -/
theorem run_firstFile? (paths : List String) (w : World) :
    (firstFile? paths : StateM World (Option String)) w = (paths.find? w.hasFile, w) := by
  induction paths with
  | nil => rfl
  | cons path paths ih =>
    rw [firstFile?, Host.run_state_bind, run_isFile]
    cases hfile : w.hasFile path with
    | true => simp only [List.find?_cons, hfile]; rfl
    | false => simpa only [List.find?_cons, hfile, Bool.false_eq_true, if_false] using ih

/-- The search goes from the current directory to the root and takes the first file. -/
theorem run_discoverFrom (h : w.Placed) :
    (discoverFrom (World.path w.directory) : StateM World (Option String)) w =
      ((w.directory.inits.reverse.find? fun place => w.hasFile (settingsPath place)).map
        settingsPath, w) := by
  have hpaths : (Path.ancestors (World.path w.directory)).map (Path.join · fileName) =
      w.directory.inits.reverse.map settingsPath := by
    rw [Path.ancestors_path h.names, List.map_map]
    refine List.map_congr_left fun other hother => ?_
    have habove := (List.mem_inits _ _).mp (List.mem_reverse.mp hother)
    exact Path.join_path (h.names_of_prefix habove) isName_fileName
  rw [discoverFrom, run_firstFile?, hpaths, List.find?_map]
  rfl

theorem run_discoverFrom_nearest (h : w.Placed) (hnearest : w.NearestSettings place) :
    (discoverFrom (World.path w.directory) : StateM World (Option String)) w =
      (some (settingsPath place), w) := by
  have hlongest : ∀ other, other <+: w.directory → w.hasFile (settingsPath other) = true →
      other <+: place := fun other hother hfile =>
    hnearest.nearest other hother ((h.hasFile_settingsPath hother).mp hfile)
  rw [run_discoverFrom h, find?_inits_reverse_eq_some hnearest.above
    ((h.hasFile_settingsPath hnearest.above).mpr hnearest.holds) hlongest]
  rfl

theorem run_discoverFrom_lacking (h : w.Placed) (hlacks : w.LacksSettings) :
    (discoverFrom (World.path w.directory) : StateM World (Option String)) w = (none, w) := by
  rw [run_discoverFrom h, find?_inits_reverse_eq_none fun other hother => Bool.eq_false_iff.mpr
    fun hfile => hlacks other hother ((h.hasFile_settingsPath hother).mp hfile)]
  rfl

/-! ## What a file of settings comes to -/

/-- The settings that hold in a directory: paths are seen from there, and what is not written has
its default. -/
def inForce (place : Location) (written : WrittenSettings) : Settings where
  caching := written.caching.getD true
  directory := Path.join (World.path place) (written.directory.getD defaultDirectory)
  documents := written.documents
  version := written.version.getD programVersion
  defaultAction := written.defaultAction
  defaultLocale := written.defaultLocale
  source := some (settingsPath place)

/-- The settings that the file of a directory writes, where the variables have these values. -/
def ofWritten [PatternSyntax] (place : Location) (lookup : String → Option String)
    (written : WrittenSettings) : Except SettingsError Settings := do
  let expanded ← written.expand lookup
  (inForce place expanded).validate
  .ok (inForce place expanded)

/-- The settings of a directory whose file has these contents. -/
def ofFile [PatternSyntax] (place : Location) (lookup : String → Option String)
    (contents : List UInt8) : Except SettingsError Settings :=
  match Text.ofBytes? contents with
  | none => .error (.unreadable .notText)
  | some document =>
    match WrittenSettings.read? document with
    | none => .error .malformed
    | some written => ofWritten place lookup written

/-- The directory of the file is the base of its paths. -/
theorem resolve_settingsPath (hplace : ∀ name ∈ place, Path.IsName name)
    (written : WrittenSettings) : written.resolve (settingsPath place) = inForce place written := by
  have hnames : ∀ name ∈ place ++ [fileName], Path.IsName name := by
    intro name hname
    rcases List.mem_append.mp hname with hname | hname
    · exact hplace name hname
    · rw [List.mem_singleton.mp hname]
      exact isName_fileName
  have hbase : (Path.parent? (settingsPath place)).getD "." = World.path place := by
    rw [settingsPath, Path.parent?_path hnames, Option.getD_some]
  have hdirectory : (written.directory.map (Path.join (World.path place))).getD
      (Path.join (World.path place) defaultDirectory) =
      Path.join (World.path place) (written.directory.getD defaultDirectory) := by
    cases written.directory <;> rfl
  rw [inForce, ← hdirectory, WrittenSettings.resolve, hbase]
  rfl

/-- Looking variables up changes nothing. -/
theorem run_lookUp (names : List String) (w : World) :
    ((lookUp names : StateM World (List (String × String))) w).2 = w := by
  induction names with
  | nil => rfl
  | cons name names ih => exact ih

/-- The values that are looked up are all that a document needs. -/
theorem ofDocument_lookUp [PatternSyntax] (hplace : ∀ name ∈ place, Path.IsName name)
    (written : WrittenSettings) (w : World) :
    ofDocument (settingsPath place)
        ((lookUp written.names : StateM World (List (String × String))) w).1 written =
      ofWritten place w.lookupVariable written := by
  have hexpand : written.expand (lookedUp
      ((lookUp written.names : StateM World (List (String × String))) w).1) =
        written.expand w.lookupVariable :=
    WrittenSettings.expand_congr fun name hname => by
      rw [Expansion.lookedUp_lookUp, if_pos hname]
  simp only [ofDocument, ofWritten, hexpand, resolve_settingsPath hplace]

/-- Loading reads the file, looks its variables up, and leaves everything as it is. -/
theorem run_loadFile [PatternSyntax] {contents : List UInt8}
    (hplace : ∀ name ∈ place, Path.IsName name)
    (h : w.tree.find? w.directory (settingsPath place) = some (.file contents)) :
    (loadFile (settingsPath place) : StateM World (Except SettingsError Settings)) w =
      (ofFile place w.lookupVariable contents, w) := by
  have hread : (Host.readFile (settingsPath place) : ExceptT FileError (StateM World) _) w =
      (.ok contents, w) := congrArg (·, w) (Tree.readFile_of_find? h)
  have htext : ExceptT.run (Host.readText (settingsPath place) :
      ExceptT FileError (StateM World) String) w = _ :=
    Host.run_bind (Host.readFile (settingsPath place)) Host.asText w
  rw [hread] at htext
  rw [loadFile, Host.run_state_bind, htext, ofFile]
  dsimp only [Host.asText]
  cases Text.ofBytes? contents with
  | none => rfl
  | some document =>
    dsimp only [pure, ExceptT.pure, ExceptT.mk, StateT.pure]
    cases hwritten : WrittenSettings.read? document with
    | none => rfl
    | some written =>
      have hdocument : (do return ofDocument (settingsPath place) (← lookUp written.names) written :
          StateM World (Except SettingsError Settings)) w =
          (ofDocument (settingsPath place)
            ((lookUp written.names : StateM World (List (String × String))) w).1 written,
            ((lookUp written.names : StateM World (List (String × String))) w).2) := rfl
      refine hdocument.trans ?_
      rw [run_lookUp, ofDocument_lookUp hplace]

theorem load_of_nearest [PatternSyntax] {contents : List UInt8} (h : w.Placed)
    (hnearest : w.NearestSettings place)
    (hfile : w.tree.get? (place ++ [fileName]) = some (.file contents)) :
    (load none ⟨none, none⟩ : StateM World (Except SettingsError Settings)) w =
      (ofFile place w.lookupVariable contents, w) := by
  have hplace := h.names_of_prefix hnearest.above
  have hfind := (Tree.find?_settingsPath h.closed hplace w.directory contents).mpr
    ⟨hfile, hnearest.holds.2⟩
  have hbase : (loadBase none : StateM World (Except SettingsError Settings)) w =
      (ofFile place w.lookupVariable contents, w) := by
    have hdirectory : (Host.currentDirectory : StateM World String) w =
      (World.path w.directory, w) := rfl
    rw [loadBase, Host.run_state_bind, hdirectory]
    dsimp only
    rw [Host.run_state_bind, run_discoverFrom_nearest h hnearest]
    exact run_loadFile hplace hfind
  have hload : (load none ⟨none, none⟩ : StateM World (Except SettingsError Settings)) w =
      ((ofFile place w.lookupVariable contents).map (·.override ⟨none, none⟩), w) := by
    rw [load, Host.run_state_bind, hbase]
    rfl
  rw [hload]
  cases ofFile place w.lookupVariable contents <;> rfl

theorem load_of_lacking [PatternSyntax] (h : w.Placed) (hlacks : w.LacksSettings) :
    (load none ⟨none, none⟩ : StateM World (Except SettingsError Settings)) w =
      (.ok (defaults (World.path w.directory)), w) := by
  have hdirectory : (Host.currentDirectory : StateM World String) w =
    (World.path w.directory, w) := rfl
  rw [load, Host.run_state_bind, loadBase, Host.run_state_bind, hdirectory]
  dsimp only
  rw [Host.run_state_bind, run_discoverFrom_lacking h hlacks]
  rfl

/-- Settings do not depend on where in a project the program is started. With the same variables,
two starts with the same nearest directory that has a file of settings come to the same: the same
error or the same settings, namely what the contents of that file write, with the store seen from
there. Whatever else the two trees hold, a directory of the name of the file on the way or files
further up, does not count. With no file in the current directory or above it, the settings are the
defaults, seen from the current directory. In both cases nothing is changed. It does not matter how
patterns are written. -/
theorem load_from_nearest [PatternSyntax] {w w' : World} (h : w.Placed) (h' : w'.Placed)
    (henvironment : w.environment = w'.environment) :
    (∀ place, w.NearestSettings place → w'.NearestSettings place →
      w.tree.get? (place ++ [fileName]) = w'.tree.get? (place ++ [fileName]) →
      ∃ contents result, w.tree.get? (place ++ [fileName]) = some (.file contents) ∧
        result = ofFile place w.lookupVariable contents ∧
        (load none ⟨none, none⟩ : StateM World _) w = (result, w) ∧
        (load none ⟨none, none⟩ : StateM World _) w' = (result, w')) ∧
    (w.LacksSettings → w'.LacksSettings →
      (load none ⟨none, none⟩ : StateM World _) w =
          (.ok (defaults (World.path w.directory)), w) ∧
        (load none ⟨none, none⟩ : StateM World _) w' =
          (.ok (defaults (World.path w'.directory)), w')) := by
  have hlookup : w'.lookupVariable = w.lookupVariable := by
    funext name
    rw [World.lookupVariable, World.lookupVariable, henvironment]
  refine ⟨fun place hnearest hnearest' hsame => ?_, fun hlacks hlacks' =>
    ⟨load_of_lacking h hlacks, load_of_lacking h' hlacks'⟩⟩
  obtain ⟨⟨contents, hfile⟩, -⟩ := hnearest.holds
  have hfile' := hsame.symm.trans hfile
  refine ⟨contents, _, hfile, rfl, load_of_nearest h hnearest hfile, ?_⟩
  rw [load_of_nearest h' hnearest' hfile', hlookup]

/-- A project with its file of settings, in which a directory has the name of that file. -/
def project : Tree where
  nodes := [(["p"], .directory), (["p", "a"], .directory), (["p", "a", fileName], .directory),
    (["p", fileName], .file (Text.bytes "[cache]\ndir = '$\x7bV\x7d'\n")), (["q"], .directory)]

/-- In one of the trees there is a file further up, which is not even TOML. -/
theorem load_from_nearest_in_project :
    let environment := [("V", "kept")]
    let outer := ([fileName], Node.file (Text.bytes "["))
    let w : World := ⟨⟨outer :: project.nodes⟩, ["p", "a"], environment, []⟩
    let w' : World := ⟨project, ["p"], environment, []⟩
    let root : World := ⟨project, [], environment, []⟩
    let beside : World := ⟨project, ["q"], environment, []⟩
    let s : Settings := ⟨true, "/p/kept", [], "0.1.0", "view", "", some "/p/wr.toml"⟩
    w.NearestSettings ["p"] ∧ w'.NearestSettings ["p"] ∧
      (load none ⟨none, none⟩ : StateM World _) w = (.ok s, w) ∧
      (load none ⟨none, none⟩ : StateM World _) w' = (.ok s, w') ∧
      root.LacksSettings ∧ beside.LacksSettings ∧
      (load none ⟨none, none⟩ : StateM World _) root = (.ok (defaults "/"), root) ∧
      (load none ⟨none, none⟩ : StateM World _) beside = (.ok (defaults "/q"), beside) := by
  intro environment outer w w' root beside s
  have hp : Path.IsName "p" := by constructor <;> decide
  have ha : Path.IsName "a" := by constructor <;> decide
  have hq : Path.IsName "q" := by constructor <;> decide
  have h : w.Placed := ⟨Tree.closed_of_nodes (by decide), by simp [w, hp, ha]⟩
  have h' : w'.Placed := ⟨Tree.closed_of_nodes (by decide), by simp [w', hp]⟩
  have hroot : root.Placed := ⟨Tree.closed_of_nodes (by decide), by simp [root]⟩
  have hbeside : beside.Placed := ⟨Tree.closed_of_nodes (by decide), by simp [beside, hq]⟩
  have hnearest : w.NearestSettings ["p"] := by decide
  have hnearest' : w'.NearestSettings ["p"] := by decide
  have hlacks : root.LacksSettings := by decide
  have hlacks' : beside.LacksSettings := by decide
  obtain ⟨contents, result, hfile, hresult, hload, hload'⟩ :=
    (load_from_nearest h h' rfl).1 ["p"] hnearest hnearest' (by decide)
  have hs : result = .ok s := by
    rw [hresult, ← Node.file.inj (Option.some.inj hfile)]
    decide +kernel
  rw [hs] at hload hload'
  exact ⟨hnearest, hnearest', hload, hload', hlacks, hlacks',
    (load_from_nearest hroot hbeside rfl).2 hlacks hlacks'⟩

end Settings

end WikiMarkup
