-- SUMMARY: A run of the program leaves every file alone but the entry of its request and what is in a cache directory that it empties.
import WikiMarkup.Proofs.RefusedChanges
import WikiMarkup.Proofs.RenderingRuns

/-!
# Files that a run spares

Loading settings, reading the input and looking up a rendering only look at files. What changes them
is opening the cache and storing a rendering, and both keep to the cache directory of the settings:
opening empties it if it holds another version than that of the settings, and storing writes the one
file of the request. Where that directory is nothing else is spared, not even what the run has read
or is about to read.
-/

namespace WikiMarkup

/-! ## Programs that only look -/

/-- The program leaves its host as it is. -/
def Looks {α : Type} (x : StateM FaultyWorld α) : Prop := ∀ s, (x s).2 = s

namespace Looks

variable {α β ε : Type}

theorem pure (a : α) : Looks (Pure.pure a) := fun _ => rfl

theorem bind {x : StateM FaultyWorld α} {f : α → StateM FaultyWorld β} (hx : Looks x)
    (hf : ∀ a, Looks (f a)) : Looks (x >>= f) := by
  intro s
  rw [Host.run_state_bind]
  exact (hf _ _).trans (hx s)

theorem bind_except {x : ExceptT ε (StateM FaultyWorld) α}
    {f : α → ExceptT ε (StateM FaultyWorld) β} (hx : Looks x) (hf : ∀ a, Looks (f a)) :
    Looks (x >>= f : ExceptT ε (StateM FaultyWorld) β) := by
  intro s
  have hfirst := hx s
  rw [Host.run_bind]
  generalize x s = ran at hfirst ⊢
  rcases ran with ⟨e | a, s'⟩
  · exact hfirst
  · exact (hf a s').trans hfirst

end Looks

namespace Host

theorem looks_asText (bytes : List UInt8) :
    Looks (asText bytes : ExceptT FileError (StateM FaultyWorld) String) := by
  rw [asText]
  cases Text.ofBytes? bytes <;> exact fun _ => rfl

theorem looks_readText (path : String) :
    Looks (readText path : ExceptT FileError (StateM FaultyWorld) String) :=
  Looks.bind_except (fun _ => rfl) looks_asText

end Host

namespace Settings

theorem looks_firstFile? (paths : List String) :
    Looks (firstFile? paths : StateM FaultyWorld (Option String)) := by
  induction paths with
  | nil => exact .pure _
  | cons path paths ih =>
    rw [firstFile?]
    refine .bind (fun _ => rfl) fun found => ?_
    cases found
    · exact ih
    · exact .pure _

theorem looks_lookUp (names : List String) :
    Looks (lookUp names : StateM FaultyWorld (List (String × String))) := by
  induction names with
  | nil => exact .pure _
  | cons name names ih =>
    rw [lookUp]
    exact .bind (fun _ => rfl) fun value => ih.bind fun rest => .pure _

theorem looks_loadFile [PatternSyntax] (path : String) :
    Looks (loadFile path : StateM FaultyWorld (Except SettingsError Settings)) := by
  rw [loadFile]
  refine .bind (Host.looks_readText path) fun read => ?_
  rcases read with e | document
  · exact .pure _
  · dsimp only
    cases WrittenSettings.read? document with
    | none => exact .pure _
    | some w => exact (looks_lookUp w.names).bind fun values => .pure _

theorem looks_loadBase [PatternSyntax] (path : Option String) :
    Looks (loadBase path : StateM FaultyWorld (Except SettingsError Settings)) := by
  cases path with
  | some path =>
    refine .bind (fun _ => rfl) fun found => ?_
    cases found
    · exact .pure _
    · exact looks_loadFile path
  | none =>
    refine .bind (fun _ => rfl) fun directory => (looks_firstFile? _).bind fun found => ?_
    cases found with
    | none => exact .pure _
    | some found => exact looks_loadFile found

theorem looks_load [PatternSyntax] (path : Option String) (overrides : Overrides) :
    Looks (load path overrides : StateM FaultyWorld (Except SettingsError Settings)) :=
  (looks_loadBase path).bind fun _ => .pure _

end Settings

theorem RenderArguments.looks_readInput (a : RenderArguments) :
    Looks (a.readInput : ExceptT FileError (StateM FaultyWorld) String) := by
  rw [readInput]
  cases a.input with
  | some path => exact Host.looks_readText path
  | none => exact .bind_except (fun _ => rfl) Host.looks_asText

theorem RenderingCache.looks_find? (c : RenderingCache) (request : RenderRequest) (source : String) :
    Looks (c.find? request source : StateM FaultyWorld (Option StoredRendering)) := by
  intro s
  rw [run_find?]
  split
  · cases c.store with
    | none => rfl
    | files root => rw [FaultyWorld.run_get?_eq]
  · rfl

theorem Looks.spares {α : Type} {x : StateM FaultyWorld α} (h : Looks x) (s : FaultyWorld)
    (touched : Location → Prop) : s.Spares (x s).2 touched := by
  rw [h s]
  exact .refl s touched

/-! ## Opening the cache and rendering -/

theorem RenderingCache.spares_insert (root : String) (documents : List Pattern)
    (request : RenderRequest) (source rendered : String) (s : FaultyWorld) :
    s.Spares ((insert ⟨.files root, documents⟩ request source rendered [] :
        StateM FaultyWorld Unit) s).2
      (· = Tree.destination s.world.directory (Store.entryPath root bucket request.key)) := by
  rw [run_insert]
  split
  · exact FaultyWorld.spares_put root bucket request.key _ _ s
  · exact .refl s _

/-- Rendering through a cache touches only the entry of the request. -/
theorem spares_renderThrough (root : String) (documents : List Pattern) (request : RenderRequest)
    (source : String) (s : FaultyWorld) :
    s.Spares ((renderThrough ⟨.files root, documents⟩ request source :
        StateM FaultyWorld (Except RunError Rendered)) s).2
      (· = Tree.destination s.world.directory
        (Store.entryPath root RenderingCache.bucket request.key)) := by
  have hfind := RenderingCache.looks_find? ⟨.files root, documents⟩ request source s
  rw [RenderingCache.run_renderThrough]
  generalize (RenderingCache.find? ⟨.files root, documents⟩ request source :
    StateM FaultyWorld _) s = found at hfind ⊢
  rcases found with ⟨_ | rendering, s'⟩
  · obtain rfl : s' = s := hfind
    dsimp only
    cases renderFresh source with
    | error e => exact .refl _ _
    | ok rendered => exact RenderingCache.spares_insert root documents request source rendered.text s'
  · obtain rfl : s' = s := hfind
    exact .refl _ _

namespace RenderArguments

/-- The run opens the cache with these settings, for this request. -/
structure OpensCache [PatternSyntax] (a : RenderArguments) (s : FaultyWorld)
    (settings : Settings) (request : RenderRequest) : Prop where
  loaded : ((Settings.load a.config a.overrides :
    StateM FaultyWorld (Except SettingsError Settings)) s).1 = .ok settings
  asked : a.request? settings = some request
  caching : settings.caching = true
  patterns : ∃ patterns, settings.patterns = .ok patterns

/-- What opening the cache and storing a rendering may touch: everything in the cache directory if
another version is stored there, and the entry of the request. -/
def CacheTouches (s : FaultyWorld) (settings : Settings) (request : RenderRequest)
    (place : Location) : Prop :=
  (((Store.storedVersion settings.directory : StateM FaultyWorld _) s).1 ≠ some settings.version ∧
      Tree.destination s.world.directory settings.directory <+: place) ∨
    place = Tree.destination s.world.directory
      (Store.entryPath settings.directory RenderingCache.bucket request.key)

/-- The cache is not opened, and nothing happens, or it is opened where the settings say. -/
theorem run_openCache [PatternSyntax] (settings : Settings) (request : Option RenderRequest)
    (s : FaultyWorld) :
    (∃ result, (openCache settings request : ExceptT RunError (StateM FaultyWorld) _) s =
        (result, s) ∧ ∀ opened, result ≠ .ok (some opened)) ∨
    ∃ r patterns, request = some r ∧ settings.caching = true ∧ settings.patterns = .ok patterns ∧
      (openCache settings request : ExceptT RunError (StateM FaultyWorld) _) s =
        (.ok (some (⟨.files settings.directory, patterns⟩, r)),
          ((Store.prepare settings.directory settings.version :
            ExceptT FileError (StateM FaultyWorld) Unit) s).2) := by
  cases request with
  | none => exact .inl ⟨.ok none, rfl, nofun⟩
  | some request =>
    cases hcaching : settings.caching with
    | false =>
      refine .inl ⟨.ok none, ?_, nofun⟩
      rw [openCache, hcaching]
      rfl
    | true =>
      cases hpatterns : settings.patterns with
      | error e =>
        refine .inl ⟨.error (.settings e), ?_, nofun⟩
        rw [openCache, hcaching, hpatterns]
        rfl
      | ok patterns =>
        refine .inr ⟨request, patterns, rfl, rfl, rfl, ?_⟩
        rw [openCache, hcaching, hpatterns]
        rfl

/-- Reading the input and rendering it touches only the entry of the request, if there is one. -/
theorem spares_render (a : RenderArguments) (cache : Option (RenderingCache × RenderRequest))
    (s : FaultyWorld) (touched : Location → Prop)
    (hcache : ∀ c request, cache = some (c, request) → ∃ root, c.store = .files root ∧
      touched (Tree.destination s.world.directory
        (Store.entryPath root RenderingCache.bucket request.key))) :
    s.Spares ((do
        let source ← ExceptT.adapt .input a.readInput
        ExceptT.mk (renderSource cache source) :
      ExceptT RunError (StateM FaultyWorld) Rendered) s).2 touched := by
  have hread : Looks (ExceptT.adapt RunError.input a.readInput :
      ExceptT RunError (StateM FaultyWorld) String) := a.looks_readInput
  have hlooked := hread s
  rw [Host.run_bind]
  generalize (ExceptT.adapt RunError.input a.readInput :
    ExceptT RunError (StateM FaultyWorld) String) s = ran at hlooked ⊢
  rcases ran with ⟨e | source, s'⟩
  · obtain rfl : s' = s := hlooked
    exact .refl _ _
  obtain rfl : s' = s := hlooked
  rcases cache with _ | ⟨⟨store, documents⟩, request⟩
  · exact .refl _ _
  · obtain ⟨root, hstore, htouched⟩ := hcache _ _ rfl
    obtain rfl : store = .files root := hstore
    exact (spares_renderThrough root documents request source s').mono fun _ hloc =>
      hloc ▸ htouched

/-- A run of the command touches nothing but what its cache does, if it opens one. -/
theorem spares_execute [PatternSyntax] (a : RenderArguments) (s : FaultyWorld) :
    s.Spares ((a.execute : ExceptT RunError (StateM FaultyWorld) Rendered) s).2 fun place =>
      ∃ settings request, a.OpensCache s settings request ∧
        CacheTouches s settings request place := by
  have hload : (ExceptT.adapt RunError.settings (ExceptT.mk (Settings.load a.config a.overrides)) :
      ExceptT RunError (StateM FaultyWorld) Settings) s =
        ((((Settings.load a.config a.overrides :
          StateM FaultyWorld (Except SettingsError Settings)) s).1).mapError .settings, s) :=
    congrArg (Prod.mk _) (Settings.looks_load a.config a.overrides s)
  rw [execute, Host.run_bind, hload]
  cases hloaded : ((Settings.load a.config a.overrides :
      StateM FaultyWorld (Except SettingsError Settings)) s).1 with
  | error e => exact .refl s _
  | ok settings =>
    dsimp only [Except.mapError]
    rw [Host.run_bind]
    rcases run_openCache settings (a.request? settings) s with ⟨result, hrun, hnone⟩ |
      ⟨request, patterns, hrequest, hcaching, hpatterns, hrun⟩
    · rw [hrun]
      rcases result with e | opened
      · exact .refl s _
      · cases opened with
        | none => exact a.spares_render none s _ nofun
        | some opened => exact absurd rfl (hnone opened)
    · rw [hrun]
      dsimp only
      have hopens : a.OpensCache s settings request :=
        ⟨hloaded, hrequest, hcaching, patterns, hpatterns⟩
      have hprepare := FaultyWorld.spares_prepare settings.directory settings.version s
      refine .trans (hprepare.mono fun place hplace => ⟨settings, request, hopens, .inl hplace⟩)
        (a.spares_render _ _ _ fun c r hcache => ?_)
      cases hcache
      refine ⟨settings.directory, rfl, settings, request, hopens, .inr ?_⟩
      rw [hprepare.directory]

end RenderArguments

/-! ## The program -/

/-- Whatever files there are, whichever changes are refused and however patterns are written, a run
of the program leaves every place as it was, or the place is one that its cache touches. -/
theorem run_spares [PatternSyntax] (arguments : List String) (s : FaultyWorld) (place : Location) :
    let s' := ((run arguments : StateM FaultyWorld Report) s).2
    s'.world.tree.contents? place = s.world.tree.contents? place ∨
      ∃ a settings request,
        Invocation.ofArguments (s.world.lookupVariable RenderArguments.cacheDirectoryVariable)
          arguments = .render a ∧
        a.OpensCache s settings request ∧ RenderArguments.CacheTouches s settings request place := by
  intro s'
  have hvariable : (Host.lookupVariable RenderArguments.cacheDirectoryVariable :
      StateM FaultyWorld (Option String)) s =
        (s.world.lookupVariable RenderArguments.cacheDirectoryVariable, s) := rfl
  dsimp only [s']
  rw [run, Host.run_state_bind, hvariable]
  dsimp only
  cases hinvocation : Invocation.ofArguments
      (s.world.lookupVariable RenderArguments.cacheDirectoryVariable) arguments with
  | help => exact .inl rfl
  | version => exact .inl rfl
  | invalid => exact .inl rfl
  | render a =>
    have hspares := a.spares_execute s
    dsimp only
    rw [Host.run_state_bind, ExceptT.run]
    generalize (a.execute : ExceptT RunError (StateM FaultyWorld) Rendered) s = executed
      at hspares ⊢
    by_cases htouched : ∃ settings request, a.OpensCache s settings request ∧
        RenderArguments.CacheTouches s settings request place
    · obtain ⟨settings, request, hopens, htouches⟩ := htouched
      exact .inr ⟨a, settings, request, rfl, hopens, htouches⟩
    · left
      rw [← hspares.contents place htouched]
      rcases executed with ⟨e | rendered, s''⟩ <;> rfl

/-- With the directory of the settings as the cache directory, the settings go before the run ends,
and the input before it is read. -/
theorem run_removes_own_files :
    let settings := Text.bytes "[cache]\ndir = \".\"\n"
    let s : FaultyWorld := ⟨⟨⟨[(["wr.toml"], .file settings), (["in.json"], .file (Text.bytes "[]"))]⟩,
      [], [], []⟩, []⟩
    let s' := ((run ["render", "-d", "A", "in.json"] : StateM FaultyWorld Report) s).2
    s.world.tree.contents? ["wr.toml"] = some settings ∧
    s.world.tree.contents? ["in.json"] = some (Text.bytes "[]") ∧
    s'.world.tree.contents? ["wr.toml"] = none ∧ s'.world.tree.contents? ["in.json"] = none := by
  decide +kernel

end WikiMarkup
