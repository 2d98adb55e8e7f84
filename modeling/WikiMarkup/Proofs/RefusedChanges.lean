-- SUMMARY: A host that may refuse any change of its files, and which files the operations of a store leave alone there.
import WikiMarkup.Proofs.StoreFiles
import WikiMarkup.Proofs.TreeChanges

/-!
# Changes that are refused

A full disk or a missing permission fails a write, and a store drops it. `FaultyWorld` is a world
with a list that says which of the next changes are refused. Nothing is assumed of the path of the
store either: whatever its names are, following them ends at one place if at all. So a file that is
read for an entry is the one that was written for it, even where directories come and go in between,
and `Spares` says of every operation which places it has nothing to do with.
-/

namespace WikiMarkup

/-! ## Places of entries -/

namespace Tree

variable {t t' : Tree} {directory : Location} {left name path : String} {contents : List UInt8}

/-- The place of a name behind a path. -/
def placeBehind (directory : Location) (left name : String) : Location :=
  resolve (start directory left) (Path.names left) ++ [name]

theorem destination_eq_placeBehind (hname : Path.IsName name) (directory : Location)
    (left : String) : destination directory (Path.join left name) = placeBehind directory left name :=
  destination_join hname directory left

/-- The files of the second tree are files of the first, but for one with these contents. -/
def FewerFilesBut (t t' : Tree) (place : Location) (contents : List UInt8) : Prop :=
  ∀ loc found, t'.contents? loc = some found →
    t.contents? loc = some found ∨ (loc = place ∧ found = contents)

end Tree

/-! ## The host -/

/-- A host of which the next changes may be refused, each with an error. Behind the end of the list
none is. -/
structure FaultyWorld where
  world : World
  refusals : List (Option FileError)

namespace FaultyWorld

/-- Asks the world without changing it. -/
def ask {α : Type} (question : StateM World α) : StateM FaultyWorld α :=
  fun s => ((question s.world).1, s)

/-- Makes a change of the world unless it is refused. -/
def attempt (change : ExceptT FileError (StateM World) Unit) :
    ExceptT FileError (StateM FaultyWorld) Unit := fun s =>
  match s.refusals.head?.join with
  | some e => (.error e, { s with refusals := s.refusals.tail })
  | none => ((change s.world).1, ⟨(change s.world).2, s.refusals.tail⟩)

instance : Host (StateM FaultyWorld) where
  readFile path := ask (Host.readFile path : ExceptT FileError (StateM World) (List UInt8))
  writeFile path contents := attempt (Host.writeFile path contents)
  makeDirectory path := attempt (Host.makeDirectory path)
  removeTree path := attempt (Host.removeTree path)
  kind? path := ask (Host.kind? path)
  currentDirectory := ask Host.currentDirectory
  lookupVariable name := ask (Host.lookupVariable name)
  readInput := ask (Host.readInput : ExceptT FileError (StateM World) (List UInt8))

/-- A change is refused, or it is made. -/
theorem attempt_cases (change : ExceptT FileError (StateM World) Unit) (s : FaultyWorld) :
    (attempt change s).2.world = s.world ∨ (attempt change s).2.world = (change s.world).2 := by
  rw [attempt]
  split
  · exact .inl rfl
  · exact .inr rfl

/-- An operation that leaves a new tree leaves it or the old one, and the current directory. -/
theorem attempt_update (f : Tree → Location → Except FileError Tree) (s : FaultyWorld) :
    (attempt (World.update f) s).2.world.directory = s.world.directory ∧
      ((attempt (World.update f) s).2.world.tree = s.world.tree ∨
        f s.world.tree s.world.directory = .ok (attempt (World.update f) s).2.world.tree) := by
  rcases attempt_cases (World.update f) s with heq | heq
  · exact ⟨by rw [heq], .inl (by rw [heq])⟩
  · rw [heq, World.update]
    cases f s.world.tree s.world.directory with
    | error e => exact ⟨rfl, .inl rfl⟩
    | ok tree => exact ⟨rfl, .inr rfl⟩

variable {s s' s'' : FaultyWorld} {root bucket key path : String} {directory : Location}

/-! ## Making directories -/

/-- Between the states only directories were made, all of them where they may be. -/
structure Grown (s s' : FaultyWorld) (may : Location → Prop) : Prop where
  directory : s'.world.directory = s.world.directory
  grows : s.world.tree.Grows s'.world.tree may

section

variable {may may' : Location → Prop}

theorem Grown.refl (s : FaultyWorld) (may : Location → Prop) : Grown s s may := ⟨rfl, .refl _ _⟩

theorem Grown.trans (h : Grown s s' may) (h' : Grown s' s'' may) : Grown s s'' may :=
  ⟨h'.directory.trans h.directory, h.grows.trans h'.grows⟩

theorem Grown.mono (h : Grown s s' may) (hmay : ∀ loc, may loc → may' loc) : Grown s s' may' :=
  ⟨h.directory, h.grows.mono hmay⟩

end

theorem grown_makeDirectory (path : String) (s : FaultyWorld) :
    Grown s ((Host.makeDirectory path : ExceptT FileError (StateM FaultyWorld) Unit) s).2
      (· = Tree.destination s.world.directory path) := by
  obtain ⟨hdirectory, htree⟩ := attempt_update (fun t d => t.makeDirectory d path) s
  refine ⟨hdirectory, ?_⟩
  rcases htree with hsame | hmake
  · intro loc
    exact .inl (congrArg (Tree.get? · loc) hsame)
  · exact Tree.grows_of_makeDirectory hmake

theorem grown_ensureDirectory (path : String) (s : FaultyWorld) :
    Grown s ((Host.ensureDirectory path : ExceptT FileError (StateM FaultyWorld) Unit) s).2
      (· = Tree.destination s.world.directory path) := by
  have hmake := grown_makeDirectory path s
  rw [Host.run_ensureDirectory]
  generalize (Host.makeDirectory path : ExceptT FileError (StateM FaultyWorld) Unit) s = made
    at hmake ⊢
  rcases made with ⟨e | u, s'⟩
  · exact hmake
  · exact hmake

/-- However far making directories comes, it makes only those that it was asked for. -/
theorem grown_ensureFirst (paths : List String) (s : FaultyWorld) :
    Grown s ((Host.ensureFirst paths : ExceptT FileError (StateM FaultyWorld) Unit) s).2
      fun loc => ∃ path ∈ paths, loc = Tree.destination s.world.directory path := by
  induction paths generalizing s with
  | nil => exact .refl s _
  | cons path parents ih =>
    by_cases hne : path = ""
    · subst hne
      exact .refl s _
    have hfirst : ∀ loc, loc = Tree.destination s.world.directory path →
        ∃ p ∈ path :: parents, loc = Tree.destination s.world.directory p :=
      fun loc hloc => ⟨path, List.mem_cons_self, hloc⟩
    have hmake := (grown_makeDirectory path s).mono hfirst
    have hensure := (grown_ensureDirectory path s).mono hfirst
    rw [Host.run_ensureFirst hne]
    generalize (Host.makeDirectory path : ExceptT FileError (StateM FaultyWorld) Unit) s = made
      at hmake ⊢
    split
    · next s' =>
      have hrest : ∀ loc, (∃ p ∈ parents, loc = Tree.destination s'.world.directory p) →
          ∃ p ∈ path :: parents, loc = Tree.destination s.world.directory p := by
        rintro loc ⟨p, hp, hloc⟩
        exact ⟨p, List.mem_cons_of_mem _ hp, hmake.directory ▸ hloc⟩
      have hparents := (ih s').mono hrest
      generalize (Host.ensureFirst parents : ExceptT FileError (StateM FaultyWorld) Unit) s' =
        ensured at hparents ⊢
      rcases ensured with ⟨e' | u, s''⟩
      · exact hmake.trans hparents
      · have hgrown := hmake.trans hparents
        refine hgrown.trans ((grown_ensureDirectory path s'').mono fun loc hloc => ?_)
        exact hfirst loc (hgrown.directory ▸ hloc)
    · exact hensure

/-- Making a directory with its parents makes none off the way to it. -/
theorem grown_makeDirectories (path : String) (s : FaultyWorld) :
    Grown s ((Host.makeDirectories path : ExceptT FileError (StateM FaultyWorld) Unit) s).2
      (Tree.OnWay s.world.directory path) := by
  refine (grown_ensureFirst (Path.ancestors path) s).mono ?_
  rintro loc ⟨above, habove, rfl⟩
  obtain ⟨habsolute, hnames⟩ := Path.of_mem_ancestorsFrom habove
  refine ⟨Path.names above, hnames, ?_⟩
  rw [Tree.destination, Tree.start, Tree.start, habsolute]

/-! ## What is spared -/

/-- Between the states nothing was done to the files in other places than those that are touched. -/
structure Spares (s s' : FaultyWorld) (touched : Location → Prop) : Prop where
  directory : s'.world.directory = s.world.directory
  closed : s.world.tree.Closed → s'.world.tree.Closed
  contents : ∀ loc, ¬ touched loc → s'.world.tree.contents? loc = s.world.tree.contents? loc

section

variable {touched touched' may : Location → Prop}

theorem Spares.refl (s : FaultyWorld) (touched : Location → Prop) : Spares s s touched :=
  ⟨rfl, id, fun _ _ => rfl⟩

theorem Spares.trans (h : Spares s s' touched) (h' : Spares s' s'' touched) :
    Spares s s'' touched :=
  ⟨h'.directory.trans h.directory, h'.closed ∘ h.closed, fun loc hloc =>
    (h'.contents loc hloc).trans (h.contents loc hloc)⟩

theorem Spares.mono (h : Spares s s' touched) (htouched : ∀ loc, touched loc → touched' loc) :
    Spares s s' touched' :=
  ⟨h.directory, h.closed, fun loc hloc => h.contents loc fun hmem => hloc (htouched loc hmem)⟩

/-- Directories are made where there is no file. -/
theorem Grown.spares (h : Grown s s' may) (touched : Location → Prop) : Spares s s' touched :=
  ⟨h.directory, h.grows.closed, fun loc _ => h.grows.contents?_eq loc⟩

end

theorem writeFile_cases (path : String) (contents : List UInt8) (s : FaultyWorld) :
    let s' := ((Host.writeFile path contents : ExceptT FileError (StateM FaultyWorld) Unit) s).2
    s'.world.directory = s.world.directory ∧ (s'.world.tree = s.world.tree ∨
      s.world.tree.writeFile s.world.directory path contents = .ok s'.world.tree) :=
  attempt_update (fun t d => t.writeFile d path contents) s

theorem spares_writeFile (path : String) (contents : List UInt8) (s : FaultyWorld) :
    Spares s ((Host.writeFile path contents : ExceptT FileError (StateM FaultyWorld) Unit) s).2
      (· = Tree.destination s.world.directory path) := by
  obtain ⟨hdirectory, hsame | hwrite⟩ := writeFile_cases path contents s
  · refine ⟨hdirectory, ?_, ?_⟩
    · rw [hsame]
      exact id
    · intro loc _
      rw [hsame]
  · refine ⟨hdirectory, fun hclosed => hclosed.writeFile hwrite, fun loc hloc => ?_⟩
    rw [Tree.contents?_of_writeFile hwrite, if_neg hloc]

theorem spares_removeTree (path : String) (s : FaultyWorld) :
    Spares s ((Host.removeTree path : ExceptT FileError (StateM FaultyWorld) Unit) s).2
      (Tree.destination s.world.directory path <+: ·) := by
  change Spares s (attempt (Host.removeTree path) s).2 _
  rcases attempt_cases (Host.removeTree path) s with heq | heq
  · refine ⟨by rw [heq], ?_, fun loc _ => by rw [heq]⟩
    rw [heq]
    exact id
  · have hremove : (attempt (Host.removeTree path) s).2.world =
        { s.world with tree := (s.world.tree.removeTree s.world.directory path).2 } := heq
    refine ⟨by rw [hremove], ?_, fun loc hloc => ?_⟩
    · rw [hremove]
      exact fun hclosed => hclosed.removeTree _ _
    · rw [hremove]
      exact Tree.contents?_of_get?_eq (Tree.get?_removeTree hloc)

/-! ## Runs of a store -/

/-- A file is written, or not, where directories have been made before. -/
theorem writeFile_of_grown {mid : FaultyWorld} {may : Location → Prop} (h : Grown s mid may)
    (path : String) (contents : List UInt8) :
    let s' := ((Host.writeFile path contents : ExceptT FileError (StateM FaultyWorld) Unit) mid).2
    s'.world.directory = s.world.directory ∧ ∃ tree, s.world.tree.Grows tree may ∧
      (s'.world.tree = tree ∨
        tree.writeFile s.world.directory path contents = .ok s'.world.tree) := by
  obtain ⟨hdirectory, htree⟩ := writeFile_cases path contents mid
  rw [h.directory] at htree
  exact ⟨hdirectory.trans h.directory, mid.world.tree, h.grows, htree⟩

/-- Writing a file makes directories on the way to its own, and then the file, as far as that is not
refused. -/
theorem run_writeWithParents (path : String) (contents : List UInt8) (s : FaultyWorld) :
    let s' := ((Store.writeWithParents path contents :
      ExceptT FileError (StateM FaultyWorld) Unit) s).2
    s'.world.directory = s.world.directory ∧
      ∃ tree, s.world.tree.Grows tree (Tree.OnWay s.world.directory path) ∧
        (s'.world.tree = tree ∨
          tree.writeFile s.world.directory path contents = .ok s'.world.tree) := by
  rw [Store.writeWithParents]
  cases hparent : Path.parent? path with
  | none => exact writeFile_of_grown (.refl s _) path contents
  | some parent =>
    obtain ⟨habsolute, hnames⟩ := Path.parent?_eq_some hparent
    have hway : ∀ loc, Tree.OnWay s.world.directory parent loc →
        Tree.OnWay s.world.directory path loc := by
      rintro loc ⟨names, hfirst, rfl⟩
      exact ⟨names, hfirst.trans hnames, by rw [Tree.start, Tree.start, habsolute]⟩
    have hgrown := (grown_makeDirectories parent s).mono hway
    dsimp only
    rw [Host.run_bind]
    generalize (Host.makeDirectories parent : ExceptT FileError (StateM FaultyWorld) Unit) s = made
      at hgrown ⊢
    rcases made with ⟨e | u, mid⟩
    · exact ⟨hgrown.directory, mid.world.tree, hgrown.grows, .inl rfl⟩
    · exact writeFile_of_grown hgrown path contents

/-- Storing an entry, as far as it is not refused, leaves no other new file than that of the
entry. -/
theorem run_put {tag : String} (htag : '\n' ∉ tag.toList) (hkey : Path.IsName key)
    (root bucket : String) (value : List UInt8) (s : FaultyWorld) :
    ∃ s', (Store.put (.files root) bucket key tag value : StateM FaultyWorld Unit) s = ((), s') ∧
      s'.world.directory = s.world.directory ∧
      s.world.tree.FewerFilesBut s'.world.tree
        (Tree.placeBehind s.world.directory (Path.join root bucket) key)
        (Entry.encode tag value) := by
  obtain ⟨hdirectory, mid, hgrows, htree⟩ :=
    run_writeWithParents (Store.entryPath root bucket key) (Entry.encode tag value) s
  refine ⟨_, Store.run_put htag root bucket key value s, hdirectory, fun loc found hfile => ?_⟩
  rcases htree with hsame | hwrite
  · rw [hsame, hgrows.contents?_eq] at hfile
    exact .inl hfile
  · rw [Tree.contents?_of_writeFile hwrite, hgrows.contents?_eq] at hfile
    split at hfile
    · next hloc =>
      rw [Store.entryPath, Tree.destination_eq_placeBehind hkey] at hloc
      exact .inr ⟨hloc, (Option.some.inj hfile).symm⟩
    · exact .inl hfile

theorem run_get?_eq (root bucket key tag : String) (s : FaultyWorld) :
    (Store.get? (.files root) bucket key tag : StateM FaultyWorld _) s =
      ((s.world.tree.readFile s.world.directory (Store.entryPath root bucket key)).toOption.bind
        (Entry.decode? tag), s) := by
  rw [Store.run_get?]
  rfl

/-- What is looked up is in the file of the entry. -/
theorem run_get? (hkey : Path.IsName key) (root bucket tag : String) (s : FaultyWorld) :
    ∃ contents, (Store.get? (.files root) bucket key tag : StateM FaultyWorld _) s =
        (contents.bind (Entry.decode? tag), s) ∧
      ∀ found, contents = some found → s.world.tree.contents?
        (Tree.placeBehind s.world.directory (Path.join root bucket) key) = some found := by
  refine ⟨_, run_get?_eq root bucket key tag s, fun found hread => ?_⟩
  rw [← Tree.destination_eq_placeBehind hkey]
  exact Tree.contents?_of_readFile hread

/-- Whatever the key, storing an entry touches only the place to which its path leads. -/
theorem spares_put (root bucket key tag : String) (value : List UInt8) (s : FaultyWorld) :
    Spares s ((Store.put (.files root) bucket key tag value : StateM FaultyWorld Unit) s).2
      (· = Tree.destination s.world.directory (Store.entryPath root bucket key)) := by
  by_cases htag : '\n' ∈ tag.toList
  · rw [Store.run_put_refused htag]
    exact .refl s _
  rw [Store.run_put htag]
  dsimp only
  obtain ⟨hdirectory, mid, hgrows, htree⟩ :=
    run_writeWithParents (Store.entryPath root bucket key) (Entry.encode tag value) s
  rcases htree with hsame | hwrite
  · rw [← hsame] at hgrows
    exact Grown.spares ⟨hdirectory, hgrows⟩ _
  · refine ⟨hdirectory, fun hclosed => (hgrows.closed hclosed).writeFile hwrite, fun loc hloc => ?_⟩
    rw [Tree.contents?_of_writeFile hwrite, if_neg hloc, hgrows.contents?_eq]

theorem run_storedVersion (root : String) (s : FaultyWorld) :
    (Store.storedVersion root : StateM FaultyWorld (Option String)) s =
      ((s.world.tree.readFile s.world.directory (Store.versionPath root)).toOption.bind
        Text.ofBytes?, s) := by
  rw [Store.run_storedVersion]
  rfl

/-- The program touches only these places. -/
def Touches {ε α : Type} (directory : Location) (touched : Location → Prop)
    (x : ExceptT ε (StateM FaultyWorld) α) : Prop :=
  ∀ s, s.world.directory = directory → Spares s (x s).2 touched

theorem Touches.bind {ε α β : Type} {touched : Location → Prop}
    {x : ExceptT ε (StateM FaultyWorld) α} {f : α → ExceptT ε (StateM FaultyWorld) β}
    (hx : Touches directory touched x) (hf : ∀ a, Touches directory touched (f a)) :
    Touches directory touched (x >>= f) := by
  intro s hs
  have hfirst := hx s hs
  rw [Host.run_bind]
  generalize x s = ran at hfirst ⊢
  rcases ran with ⟨e | a, s'⟩
  · exact hfirst
  · exact hfirst.trans (hf a s' (hfirst.directory.trans hs))

theorem touches_removeTree (directory : Location) (root : String) :
    Touches directory (Tree.destination directory root <+: ·)
      (Host.removeTree root : ExceptT FileError (StateM FaultyWorld) Unit) := by
  rintro s rfl
  exact spares_removeTree root s

/-- Making the directory of a store and its version file touches only that directory. -/
theorem touches_make (directory : Location) (root version : String) :
    Touches directory (Tree.destination directory root <+: ·)
      (do
        Host.makeDirectories root
        Host.writeFile (Store.versionPath root) (Text.bytes version) :
      ExceptT FileError (StateM FaultyWorld) Unit) := by
  have hmake : Touches directory (Tree.destination directory root <+: ·)
      (Host.makeDirectories root : ExceptT FileError (StateM FaultyWorld) Unit) :=
    fun s _ => (grown_makeDirectories root s).spares _
  refine hmake.bind fun _ => ?_
  rintro s rfl
  refine (spares_writeFile _ _ s).mono ?_
  rintro loc rfl
  rw [Store.versionPath, Tree.destination_join Store.isName_version]
  exact List.prefix_append _ _

/-- Opening a store touches its directory, and only if another version is stored there. -/
theorem spares_prepare (root version : String) (s : FaultyWorld) :
    Spares s ((Store.prepare root version : ExceptT FileError (StateM FaultyWorld) Unit) s).2
      fun loc => ((Store.storedVersion root : StateM FaultyWorld _) s).1 ≠ some version ∧
        Tree.destination s.world.directory root <+: loc := by
  rw [Store.prepare, Host.run_bind, Host.run_lift, run_storedVersion]
  dsimp only
  by_cases hsame : (s.world.tree.readFile s.world.directory (Store.versionPath root)).toOption.bind
      Text.ofBytes? = some version
  · rw [if_pos hsame]
    exact .refl s _
  rw [if_neg hsame, Host.run_bind, Host.run_lift]
  have hmake := touches_make s.world.directory root version
  have hremove := (touches_removeTree s.world.directory root).bind fun _ => hmake
  dsimp only
  split
  · exact (hremove s rfl).mono fun loc hloc => ⟨hsame, hloc⟩
  · exact (hmake s rfl).mono fun loc hloc => ⟨hsame, hloc⟩

end FaultyWorld

end WikiMarkup
